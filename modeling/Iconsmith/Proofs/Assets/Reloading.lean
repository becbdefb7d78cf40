import Iconsmith.Proofs.Assets.Storing
import Iconsmith.Proofs.Folding
import Iconsmith.Proofs.Text.Order
import Mathlib.Data.Set.List

set_option autoImplicit false

/-!
# Reloading stored drawings

A table that is stored in the weight layout is loaded again as it was
(`loadByWeight_of_stores`). The folders and files that are found are those of the weights and
icons that have drawings, and loading them comes to copying drawings from the table, one after
another, for which their order does not matter.
-/

namespace Iconsmith.Assets

section Stored

variable {tree : Disk.Tree} {root : Disk.Path} {place : Disk.Place} {table : IconTable}

/-! ## Paths of the layout -/

/-- The paths of the layout can be passed to the system. -/
theorem Stores.passable (h : Stores tree root place table) (hfit : IsStorable root table)
    {s : Text} {w : Weight} (hdrawing : (drawing? table s w).isSome) :
    Disk.Tree.passable (root.child w.name).text = .ok () ∧
      Disk.Tree.passable ((root.child w.name).child (fileName w s)).text = .ok () := by
  have hroot := (Disk.Tree.passable_eq_ok.1 (Disk.Tree.locateText_eq_ok.1 h.located).1).1
  have hslug := (hfit.named s (mem_keys_of_drawing? hdrawing)).2.2
  have hname : '\x00' ∉ w.name := by cases w <;> decide
  have hsuffix : '\x00' ∉ w.fileSuffix := by cases w <;> decide
  have hfile : '\x00' ∉ fileName w s :=
    List.not_mem_append (List.not_mem_append hslug hsuffix) (by decide)
  have hshort := (hfit.short s w hdrawing).2
  have hfolder := Nat.le_trans (Disk.Path.size_text_child_le root w.name (fileName w s)) hshort
  exact ⟨Disk.Tree.passable_child hroot hname hfolder,
    Disk.Tree.passable_child (Disk.Path.not_mem_text_child (by decide) hroot hname) hfile hshort⟩

/-- The folder of a weight that some icon has can be located. -/
theorem Stores.locate_folder (h : Stores tree root place table) (hfit : IsStorable root table)
    {s : Text} {w : Weight} (hdrawing : (drawing? table s w).isSome) :
    tree.locate (root.child w.name) = .ok (place ++ [w.name]) := by
  have hitem := (h.folders w.name .folder).2 ⟨rfl, w, s, rfl, hdrawing⟩
  have hsize : Text.Utf8.size w.name ≤ Disk.Tree.maxName := by cases w <;> decide
  exact Disk.Tree.locate_child h.located h.folder (isPlainName_name w)
    (h.passable hfit hdrawing).1 hsize hitem

theorem Stores.isFolderAt (h : Stores tree root place table) {s : Text} {w : Weight}
    (hdrawing : (drawing? table s w).isSome) : tree.isFolderAt (place ++ [w.name]) := by
  rw [Disk.Tree.isFolderAt, (h.folders w.name .folder).2 ⟨rfl, w, s, rfl, hdrawing⟩]
  rfl

/-- The file of a drawing can be located, and holds its bytes. -/
theorem Stores.locate_file (h : Stores tree root place table) (hfit : IsStorable root table)
    {s text : Text} {w : Weight} (hdrawing : drawing? table s w = some text) :
    tree.locate ((root.child w.name).child (fileName w s)) =
        .ok (place ++ [w.name, fileName w s]) ∧
      tree.get? (place ++ [w.name, fileName w s]) = some (.file (Text.Utf8.encode text)) := by
  have hsome : (drawing? table s w).isSome := by rw [hdrawing]; rfl
  have hfile := (h.files w (fileName w s) _).2 ⟨s, text, hdrawing, rfl, rfl⟩
  have hsplit : place ++ [w.name, fileName w s] = (place ++ [w.name]) ++ [fileName w s] := by
    rw [List.append_assoc]
    rfl
  refine ⟨?_, hfile⟩
  rw [hsplit] at hfile ⊢
  exact Disk.Tree.locate_child (h.locate_folder hfit hsome) (h.isFolderAt hsome)
    (isPlainName_fileName w (hfit.named s (mem_keys_of_drawing? hsome)).2.1)
    (h.passable hfit hsome).2 (hfit.short s w hsome).1 hfile

/-- A text that is stored as a file is read as it was, with nothing to note. -/
theorem readSource_of_encoded {path : Disk.Path} {other : Disk.Place} {text : Text}
    (hlocate : tree.locate path = .ok other)
    (hfile : tree.get? other = some (.file (Text.Utf8.encode text))) :
    readSource tree path = pure text := by
  rw [readSource_of_file hlocate hfile, textOf, Text.Utf8.firstFault?_encode,
    Text.Utf8.decode_encode]
  rfl

/-- Reading the file of a drawing gives the drawing, with nothing to note. -/
theorem Stores.readSource_eq (h : Stores tree root place table) (hfit : IsStorable root table)
    {s text : Text} {w : Weight} (hdrawing : drawing? table s w = some text) :
    readSource tree ((root.child w.name).child (fileName w s)) = pure text := by
  obtain ⟨hlocate, hfile⟩ := h.locate_file hfit hdrawing
  exact readSource_of_encoded hlocate hfile

/-! ## Finding the folders and files -/

/-- Items that are the images of some items come from these. -/
theorem exists_map_eq {α β : Type} {f : α → β} {P : α → Prop} {bs : List β}
    (hf : Function.Injective f) (h : ∀ b, b ∈ bs ↔ ∃ a, P a ∧ b = f a) :
    ∃ as : List α, bs = as.map f ∧ ∀ a, a ∈ as ↔ P a := by
  obtain ⟨as, rfl⟩ : bs ∈ Set.range (List.map f) := by
    rw [Set.range_list_map]
    intro b hb
    obtain ⟨a, -, rfl⟩ := (h b).1 hb
    exact Set.mem_range_self a
  refine ⟨as, rfl, fun a => ?_⟩
  rw [← List.mem_map_of_injective hf, h]
  constructor
  · rintro ⟨other, hother, heq⟩
    exact hf heq ▸ hother
  · exact fun ha => ⟨a, ha, rfl⟩

/-- The files in the folder of a weight are those of the icons that have the weight. -/
theorem Stores.sources_eq (h : Stores tree root place table) (hfit : IsStorable root table)
    {w : Weight} (hused : ∃ s, (drawing? table s w).isSome) :
    ∃ slugs : List Text, sources tree (root.child w.name) = .ok (slugs.map (fileName w)) ∧
      ∀ s, s ∈ slugs ↔ (drawing? table s w).isSome := by
  obtain ⟨first, hfirst⟩ := hused
  have hlist := Disk.Tree.list_eq (h.locate_folder hfit hfirst) (h.isFolderAt hfirst)
  have hmem : ∀ name, name ∈ ((tree.names (place ++ [w.name])).filter
      ending.isSuffixOf).mergeSort Text.atMost ↔
        ∃ s, (drawing? table s w).isSome ∧ name = fileName w s := by
    intro name
    rw [List.mem_mergeSort, List.mem_filter, Disk.Tree.mem_names_iff, List.append_assoc]
    constructor
    · rintro ⟨hitem, -⟩
      obtain ⟨item, hitem⟩ := Option.isSome_iff_exists.1 hitem
      obtain ⟨s, text, hdrawing, hname, -⟩ := (h.files w name item).1 hitem
      exact ⟨s, by rw [hdrawing]; rfl, hname⟩
    · rintro ⟨s, hdrawing, rfl⟩
      obtain ⟨text, htext⟩ := Option.isSome_iff_exists.1 hdrawing
      have hitem := (h.files w (fileName w s) _).2 ⟨s, text, htext, rfl, rfl⟩
      exact ⟨Option.isSome_of_eq_some hitem,
        List.isSuffixOf_iff_suffix.2 (List.suffix_append _ _)⟩
  obtain ⟨slugs, hslugs, hwhich⟩ := exists_map_eq (fileName_injective w) hmem
  refine ⟨slugs, ?_, hwhich⟩
  rw [sources, hlist, ← hslugs]
  rfl

/-- The visible folders are those of the weights that some icon has. -/
theorem Stores.subfolders_eq (h : Stores tree root place table) (hfit : IsStorable root table) :
    ∃ ws : List Weight, subfolders tree root = .ok (ws.map Weight.name) ∧
      ∀ w, w ∈ ws ↔ ∃ s, (drawing? table s w).isSome := by
  have hlist := Disk.Tree.list_eq h.located h.folder
  have hnames : ∀ name, name ∈ tree.names place ↔
      ∃ w, (∃ s, (drawing? table s w).isSome) ∧ name = w.name := by
    intro name
    rw [Disk.Tree.mem_names_iff]
    constructor
    · intro hitem
      obtain ⟨item, hitem⟩ := Option.isSome_iff_exists.1 hitem
      obtain ⟨-, w, s, hname, hdrawing⟩ := (h.folders name item).1 hitem
      exact ⟨w, ⟨s, hdrawing⟩, hname⟩
    · rintro ⟨w, ⟨s, hdrawing⟩, rfl⟩
      exact Option.isSome_of_eq_some ((h.folders w.name .folder).2 ⟨rfl, w, s, rfl, hdrawing⟩)
  have hfolders : ∀ name ∈ tree.names place, tree.isFolder (root.child name) = .ok true := by
    intro name hname
    obtain ⟨w, ⟨s, hdrawing⟩, rfl⟩ := (hnames name).1 hname
    exact Disk.Tree.isFolder_eq (h.locate_folder hfit hdrawing) (h.isFolderAt hdrawing)
  have hvisible : ∀ name ∈ tree.names place, name.head? ≠ some '.' := by
    intro name hname
    obtain ⟨w, -, rfl⟩ := (hnames name).1 hname
    cases w <;> decide
  have hmem : ∀ name, name ∈ (tree.names place).mergeSort Text.atMost ↔
      ∃ w, (∃ s, (drawing? table s w).isSome) ∧ name = w.name := by
    intro name
    rw [List.mem_mergeSort, hnames]
  obtain ⟨ws, hws, hwhich⟩ := exists_map_eq name_injective hmem
  exact ⟨ws, hws ▸ subfolders_of_visible hlist hfolders hvisible, hwhich⟩

/-! ## Loading the folders -/

/-- Without a catalog, loading the folder of a weight copies all drawings in that weight. -/
theorem Stores.loadWeightFolder_none (h : Stores tree root place table)
    (hfit : IsStorable root table) {w : Weight} {slugs : List Text}
    (hsources : sources tree (root.child w.name) = .ok (slugs.map (fileName w)))
    (hslugs : ∀ s ∈ slugs, (drawing? table s w).isSome) (icons : IconTable) :
    loadWeightFolder tree root none icons w.name =
      pure (copyDrawings table (slugs.map (Prod.mk w)) icons) := by
  have hlisted : ∀ s ∈ slugs, ∀ icons,
      loadListed tree (root.child w.name) w icons (fileName w s) =
        pure (copyDrawing table icons (w, s)) := by
    intro s hs icons
    obtain ⟨text, htext⟩ := Option.isSome_iff_exists.1 (hslugs s hs)
    have hne := (hfit.named s (mem_keys_of_drawing? (hslugs s hs))).1
    rw [loadListed, h.readSource_eq hfit htext, stripSuffix_stem_fileName w hne, copyDrawing,
      htext]
    rfl
  rw [loadWeightFolder, Weight.ofName?_name, hsources, copyDrawings, List.foldl_map]
  show (slugs.map (fileName w)).foldlM (loadListed tree (root.child w.name) w) icons = _
  rw [List.foldlM_map]
  exact Outcome.foldlM_eq_pure hlisted icons

/-- For a catalog of icons with drawings in a weight, loading the folder copies these. -/
theorem Stores.loadWeightFolder_some (h : Stores tree root place table)
    (hfit : IsStorable root table) {w : Weight} {entries : List Entry}
    (hentries : ∀ e ∈ entries, (drawing? table e.slug w).isSome) (icons : IconTable) :
    loadWeightFolder tree root (some entries) icons w.name =
      pure (copyDrawings table ((entries.map Entry.slug).map (Prod.mk w)) icons) := by
  have hentry : ∀ e ∈ entries, ∀ icons,
      loadEntry tree (root.child w.name) w icons e =
        pure (copyDrawing table icons (w, e.slug)) := by
    intro e he icons
    obtain ⟨text, htext⟩ := Option.isSome_iff_exists.1 (hentries e he)
    obtain ⟨hlocate, hfile⟩ := h.locate_file hfit htext
    have hplain := isPlainName_fileName w
      (hfit.named e.slug (mem_keys_of_drawing? (hentries e he))).2.1
    have hfirst : firstFile tree ((candidates w e.slug).map fun name =>
        (root.child w.name).join (Disk.Path.ofText name)) =
          .ok (some ((root.child w.name).child (fileName w e.slug))) := by
      have hnames : candidates w e.slug = [fileName w e.slug, e.slug ++ ending] := rfl
      rw [hnames, List.map_cons, firstFile,
        join_ofText (fileName w e.slug) _ hplain.slash hplain.part,
        Disk.Tree.isFile_eq hlocate hfile]
      rfl
    rw [loadEntry, hfirst, copyDrawing, htext]
    show (do
      return addDrawing icons e.slug w
        (← readSource tree ((root.child w.name).child (fileName w e.slug))) :
          Loading IconTable) = _
    rw [h.readSource_eq hfit htext]
    rfl
  rw [loadWeightFolder, Weight.ofName?_name, copyDrawings, List.foldl_map, List.foldl_map]
  exact Outcome.foldlM_eq_pure hentry icons

/-- Loading all folders copies what loading each of them does. -/
theorem foldlM_loadWeightFolder {catalog : Option (List Entry)} {ws : List Weight}
    {slugs : Weight → List Text}
    (hstep : ∀ w ∈ ws, ∀ icons, loadWeightFolder tree root catalog icons w.name =
      pure (copyDrawings table ((slugs w).map (Prod.mk w)) icons)) (icons : IconTable) :
    (ws.map Weight.name).foldlM (loadWeightFolder tree root catalog) icons =
      pure (copyDrawings table (ws.flatMap fun w => (slugs w).map (Prod.mk w)) icons) := by
  rw [List.foldlM_map, copyDrawings, List.foldl_flatMap]
  exact Outcome.foldlM_eq_pure hstep icons

/-! ## Loading the layout -/

/-- Before anything is loaded for a catalog there is an empty record for each entry. -/
theorem keys_ofList_empty {entries : List Entry} (h : (entries.map Entry.slug).Nodup) :
    (Table.ofList (entries.map fun entry => (entry.slug, (Table.empty : Record)))).keys =
      entries.map Entry.slug := by
  have hfst : (entries.map fun entry => (entry.slug, (Table.empty : Record))).map Prod.fst =
      entries.map Entry.slug := by
    simp
  rw [Table.keys, Table.rows_ofList (hfst ▸ h), hfst]

theorem drawing?_ofList_empty (entries : List Entry) (s : Text) (w : Weight) :
    drawing? (Table.ofList (entries.map fun entry => (entry.slug, Table.empty))) s w = none := by
  have hrows : (entries.map fun entry => (entry.slug, (Table.empty : Record))) =
      (entries.map Entry.slug).map fun slug => (slug, Table.empty) := by
    simp
  rw [hrows]
  exact drawing?_foldl_set_empty (entries.map Entry.slug) Table.empty s w rfl

theorem drawing?_sortedByKey (icons : IconTable) (s : Text) (w : Weight) :
    drawing? (icons.sortedByKey Text.atMost) s w = drawing? icons s w := by
  rw [drawing?, Table.get?_sortedByKey]
  rfl

theorem loadByWeight_eq {catalog : Option (List Entry)} {ws : List Weight}
    {slugs : Weight → List Text} (hfolders : subfolders tree root = .ok (ws.map Weight.name))
    (hstep : ∀ w ∈ ws, ∀ icons, loadWeightFolder tree root catalog icons w.name =
      pure (copyDrawings table ((slugs w).map (Prod.mk w)) icons)) :
    loadByWeight tree root catalog =
      let icons := copyDrawings table (ws.flatMap fun w => (slugs w).map (Prod.mk w))
        (Table.ofList ((catalog.getD []).map fun entry => (entry.slug, Table.empty)))
      pure (if catalog.isSome then icons else icons.sortedByKey Text.atMost) := by
  rw [loadByWeight, hfolders]
  show (do
    let icons ← (ws.map Weight.name).foldlM (loadWeightFolder tree root catalog) _
    return if catalog.isSome then icons else icons.sortedByKey Text.atMost :
      Loading IconTable) = _
  rw [foldlM_loadWeightFolder hstep]
  rfl

theorem mem_flatMap_keys {ws : List Weight} {slugs : Weight → List Text} {w : Weight} {s : Text} :
    (w, s) ∈ (ws.flatMap fun w => (slugs w).map (Prod.mk w)) ↔ w ∈ ws ∧ s ∈ slugs w := by
  simp [List.mem_flatMap]

/-- Without a catalog a stored table is loaded with its icons in the order of their names. -/
theorem Stores.loadByWeight_none (h : Stores tree root place table)
    (hfit : IsStorable root table) :
    ∃ icons, loadByWeight tree root none = ⟨[], .ok icons⟩ ∧
      icons.keys = table.keys.mergeSort Text.atMost ∧
        ∀ s w, drawing? icons s w = drawing? table s w := by
  obtain ⟨ws, hfolders, hws⟩ := h.subfolders_eq hfit
  have hslugs : ∀ w, ∃ slugs : List Text, w ∈ ws →
      sources tree (root.child w.name) = .ok (slugs.map (fileName w)) ∧
        ∀ s, s ∈ slugs ↔ (drawing? table s w).isSome := by
    intro w
    by_cases hw : w ∈ ws
    · obtain ⟨slugs, hsources⟩ := h.sources_eq hfit ((hws w).1 hw)
      exact ⟨slugs, fun _ => hsources⟩
    · exact ⟨[], fun hw' => absurd hw' hw⟩
  choose slugs hslugs using hslugs
  have hstep : ∀ w ∈ ws, ∀ icons, loadWeightFolder tree root none icons w.name =
      pure (copyDrawings table ((slugs w).map (Prod.mk w)) icons) := fun w hw =>
    h.loadWeightFolder_none hfit (hslugs w hw).1 fun s hs => ((hslugs w hw).2 s).1 hs
  have hall : ∀ w s, (w, s) ∈ (ws.flatMap fun w => (slugs w).map (Prod.mk w)) ↔
      (drawing? table s w).isSome := by
    intro w s
    rw [mem_flatMap_keys]
    constructor
    · exact fun hmem => ((hslugs w hmem.1).2 s).1 hmem.2
    · intro hdrawing
      have hw : w ∈ ws := (hws w).2 ⟨s, hdrawing⟩
      exact ⟨hw, ((hslugs w hw).2 s).2 hdrawing⟩
  refine ⟨_, loadByWeight_eq hfolders hstep, ?_, fun s w => ?_⟩
  · -- Every icon has a drawing, so the icons that have been found are those of the table.
    have hkeys : ∀ k, k ∈ (copyDrawings table
        (ws.flatMap fun w => (slugs w).map (Prod.mk w)) Table.empty).keys ↔ k ∈ table.keys := by
      intro k
      rw [mem_keys_copyDrawings]
      constructor
      · rintro (hnone | ⟨w, hmem⟩)
        · cases hnone
        · exact mem_keys_of_drawing? ((hall w k).1 hmem)
      · intro hk
        obtain ⟨w, hdrawing⟩ := hfit.filled k hk
        exact Or.inr ⟨w, (hall w k).2 hdrawing⟩
    exact (Table.keys_sortedByKey _ _).trans (Text.mergeSort_eq_of_perm
      ((List.perm_ext_iff_of_nodup (Table.distinct _) table.distinct).2 hkeys))
  · exact (drawing?_sortedByKey _ s w).trans
      (drawing?_copyDrawings_of_all hall (fun _ _ => rfl) s w)

/-- With a catalog of its icons a stored table that has all drawings is loaded in the order of
the catalog. -/
theorem Stores.loadByWeight_some (h : Stores tree root place table)
    (hfit : IsStorable root table) (hfull : ∀ s ∈ table.keys, ∀ w, (drawing? table s w).isSome)
    {entries : List Entry} (hentries : (entries.map Entry.slug).Perm table.keys) :
    ∃ icons, loadByWeight tree root (some entries) = ⟨[], .ok icons⟩ ∧
      icons.keys = entries.map Entry.slug ∧ ∀ s w, drawing? icons s w = drawing? table s w := by
  obtain ⟨ws, hfolders, hws⟩ := h.subfolders_eq hfit
  have hstep : ∀ w ∈ ws, ∀ icons, loadWeightFolder tree root (some entries) icons w.name =
      pure (copyDrawings table ((entries.map Entry.slug).map (Prod.mk w)) icons) := fun w _ =>
    h.loadWeightFolder_some hfit fun e he =>
      hfull e.slug (hentries.mem_iff.1 (List.mem_map_of_mem he)) w
  have hall : ∀ w s, (w, s) ∈ (ws.flatMap fun w => (entries.map Entry.slug).map (Prod.mk w)) ↔
      (drawing? table s w).isSome := by
    intro w s
    rw [mem_flatMap_keys, hentries.mem_iff]
    constructor
    · exact fun hmem => hfull s hmem.2 w
    · exact fun hdrawing => ⟨(hws w).2 ⟨s, hdrawing⟩, mem_keys_of_drawing? hdrawing⟩
  have hkeys := keys_ofList_empty (hentries.nodup_iff.2 table.distinct)
  refine ⟨_, loadByWeight_eq hfolders hstep, ?_, fun s w => ?_⟩
  · refine (keys_copyDrawings_of_mem ?_).trans hkeys
    rintro ⟨w, s⟩ hmem
    exact hkeys ▸ (mem_flatMap_keys.1 hmem).2
  · exact drawing?_copyDrawings_of_all hall (drawing?_ofList_empty entries) s w

/-- A table that is stored in the weight layout is loaded as it was: without a catalog with its
icons in the order of their names, and, if it has all weights of each icon, with a catalog of
these icons in the order of the catalog. Nothing is noted. -/
theorem loadByWeight_of_stores (h : Stores tree root place table) (hfit : IsStorable root table) :
    (∃ icons, loadByWeight tree root none = ⟨[], .ok icons⟩ ∧
      icons.keys = table.keys.mergeSort Text.atMost ∧
        ∀ s w, drawing? icons s w = drawing? table s w) ∧
      ((∀ s ∈ table.keys, ∀ w, (drawing? table s w).isSome) → ∀ entries : List Entry,
        (entries.map Entry.slug).Perm table.keys →
          ∃ icons, loadByWeight tree root (some entries) = ⟨[], .ok icons⟩ ∧
            icons.keys = entries.map Entry.slug ∧
              ∀ s w, drawing? icons s w = drawing? table s w) :=
  ⟨h.loadByWeight_none hfit, fun hfull _ hentries => h.loadByWeight_some hfit hfull hentries⟩

end Stored

/-! ## Icons with misleading names -/

/-- A tree with a single folder that is empty. -/
def bareTree : Disk.Tree := ⟨Table.ofList [(["assets".toList], .folder)]⟩

/-- A table with all weights of three icons: the first is named like a file of the second, and
the third like a hidden file. -/
def lookalikes : IconTable :=
  Table.ofList (["text-bold".toList, "text".toList, ".svg".toList].map fun slug =>
    (slug, Table.ofList (Weight.all.map fun w => (w, slug ++ w.name))))

theorem loadByWeight_lookalikes :
    let root := Disk.Path.ofText "assets".toList
    let tree := store ["assets".toList] bareTree lookalikes
    (Stores tree root ["assets".toList] lookalikes ∧ IsStorable root lookalikes) ∧
      (∃ icons, loadByWeight tree root none = ⟨[], .ok icons⟩ ∧
        icons.keys = [".svg".toList, "text".toList, "text-bold".toList] ∧
          ∀ s w, drawing? icons s w = drawing? lookalikes s w) ∧
        ∃ icons, loadByWeight tree root
            (some (Catalog.ofSlugs ["text".toList, ".svg".toList, "text-bold".toList])) =
              ⟨[], .ok icons⟩ ∧
          icons.keys = ["text".toList, ".svg".toList, "text-bold".toList] ∧
            ∀ s w, drawing? icons s w = drawing? lookalikes s w := by
  have hkeys : lookalikes.keys = ["text-bold".toList, "text".toList, ".svg".toList] := by rfl
  have hfull : ∀ s ∈ lookalikes.keys, ∀ w, (drawing? lookalikes s w).isSome := by
    rw [hkeys]
    intro s hs w
    cases w <;> revert s <;> decide
  have hfit : IsStorable (Disk.Path.ofText "assets".toList) lookalikes := by
    refine ⟨by decide, fun s hs => ⟨.thin, hfull s hs .thin⟩, fun s w hdrawing => ?_⟩
    have hs := mem_keys_of_drawing? hdrawing
    rw [hkeys] at hs
    clear hdrawing
    cases w <;> revert s <;> decide
  have hstores : Stores (store ["assets".toList] bareTree lookalikes)
      (Disk.Path.ofText "assets".toList) ["assets".toList] lookalikes := by
    refine stores_store (by decide) (by decide) (fun name more => ?_) lookalikes
    rfl
  have hperm : ((Catalog.ofSlugs ["text".toList, ".svg".toList, "text-bold".toList]).map
      Entry.slug).Perm lookalikes.keys := by decide
  have hsort : lookalikes.keys.mergeSort Text.atMost =
      [".svg".toList, "text".toList, "text-bold".toList] := by
    have hsame : lookalikes.keys.Perm [".svg".toList, "text".toList, "text-bold".toList] := by
      decide
    rw [Text.mergeSort_eq_of_perm hsame]
    exact List.mergeSort_of_pairwise (by decide)
  have hboth := loadByWeight_of_stores hstores hfit
  exact ⟨⟨hstores, hfit⟩, hsort ▸ hboth.1, hboth.2 hfull _ hperm⟩

end Iconsmith.Assets
