import Iconsmith.Proofs.Assets.Reloading

set_option autoImplicit false

/-!
# Drawings in the icon layout

In the icon layout the folder gives the icon and the file name gives the weight. The weight is
read off the end of the name, whatever the folder is called, so the file without a suffix is
taken for that of another weight when the name of the icon ends like the name of a weight
(`weightOfFile_fileName`). A stored table is loaded as it was, and as in the weight layout,
exactly if no icon has such a name (`loadByIcon_of_stores`).
-/

namespace Iconsmith.Assets

/-! ## Weights of file names -/

/-- The weight that the file of an icon without a suffix is taken for. -/
def plainWeight (slug : Text) : Weight := (Weight.splitSuffix slug).2.getD .regular

/-- The file of a weight with a suffix is taken for one of this weight, and the file without a
suffix for one of the weight that the name of the icon ends like. -/
theorem weightOfFile_fileName (w : Weight) {slug : Text} (h : slug ≠ []) :
    weightOfFile (fileName w slug) = if w = .regular then plainWeight slug else w := by
  have hne : slug ++ w.fileSuffix ≠ [] := List.append_ne_nil_of_left_ne_nil h _
  rw [weightOfFile, fileName, stem_append_ending hne]
  by_cases hw : w = .regular
  · subst hw
    rw [if_pos rfl, Weight.fileSuffix, List.append_nil]
    rfl
  · rw [if_neg hw, Weight.splitSuffix_append hw h]
    rfl

theorem fileSuffix_injective : Function.Injective Weight.fileSuffix := by
  intro v w h
  revert h
  cases v <;> cases w <;> decide

/-- The files of an icon have names of their own. -/
theorem fileName_left_injective (slug : Text) :
    Function.Injective fun w : Weight => fileName w slug := by
  intro v w h
  have hsuffix : slug ++ v.fileSuffix = slug ++ w.fileSuffix := List.append_cancel_right h
  exact fileSuffix_injective (List.append_cancel_left hsuffix)

/-- The weights in the order of the names of their files in the folder of an icon. A hyphen comes
before a dot, so the file without a suffix is the last. -/
def byFileName : List Weight := [.bold, .duotone, .fill, .light, .thin, .regular]

theorem mem_byFileName (w : Weight) : w ∈ byFileName := by cases w <;> decide

theorem pairwise_fileName (slug : Text) :
    (byFileName.map fun w => fileName w slug).Pairwise fun s t => Text.atMost s t := by
  have hsuffixes : byFileName.Pairwise fun v w =>
      Text.atMost (v.fileSuffix ++ ending) (w.fileSuffix ++ ending) := by decide
  refine List.pairwise_map.2 (hsuffixes.imp fun {v w} h => ?_)
  rw [fileName, fileName, List.append_assoc, List.append_assoc, Text.atMost_append_left]
  exact h

/-! ## Stored tables -/

/-- A table that can be stored below a root in the icon layout: its icons have all weights and
names that visible folders can have, and no path to a file is too long. -/
structure IsStorableByIcon (root : Disk.Path) (table : IconTable) : Prop where
  named : ∀ s ∈ table.keys, s ≠ [] ∧ '/' ∉ s ∧ '\x00' ∉ s ∧ s.head? ≠ some '.'
  full : ∀ s ∈ table.keys, ∀ w, (drawing? table s w).isSome
  short : ∀ s ∈ table.keys, ∀ w, Text.Utf8.size (fileName w s) ≤ Disk.Tree.maxName ∧
    Text.Utf8.size ((root.child s).child (fileName w s)).text ≤ Disk.Tree.maxPath

/-- Below a root, which is the folder at a place, a table is stored in the icon layout, and
nothing else is there. -/
structure StoresByIcon (tree : Disk.Tree) (root : Disk.Path) (place : Disk.Place)
    (table : IconTable) : Prop where
  located : tree.locate root = .ok place
  folder : tree.isFolderAt place
  folders : ∀ name item, tree.get? (place ++ [name]) = some item ↔
    item = .folder ∧ name ∈ table.keys
  files : ∀ s ∈ table.keys, ∀ name item, tree.get? (place ++ [s, name]) = some item ↔
    ∃ w text, drawing? table s w = some text ∧ name = fileName w s ∧
      item = .file (Text.Utf8.encode text)

section Stored

variable {tree : Disk.Tree} {root : Disk.Path} {place : Disk.Place} {table : IconTable} {s : Text}

theorem IsStorableByIcon.isPlainName (hfit : IsStorableByIcon root table) (hs : s ∈ table.keys) :
    Disk.IsPlainName s := by
  obtain ⟨hne, hslash, -, hvisible⟩ := hfit.named s hs
  refine ⟨?_, ?_, hslash⟩
  · rw [Disk.Path.isPart, Bool.and_eq_true, decide_eq_true_eq, decide_eq_true_eq]
    refine ⟨hne, ?_⟩
    rintro rfl
    exact hvisible rfl
  · rintro rfl
    exact hvisible rfl

/-- The folder of an icon can be located. -/
theorem StoresByIcon.locate_folder (h : StoresByIcon tree root place table)
    (hfit : IsStorableByIcon root table) (hs : s ∈ table.keys) :
    tree.locate (root.child s) = .ok (place ++ [s]) := by
  have hroot := (Disk.Tree.passable_eq_ok.1 (Disk.Tree.locateText_eq_ok.1 h.located).1).1
  obtain ⟨hfile, hpath⟩ := hfit.short s hs .regular
  have hfolder := Nat.le_trans (Disk.Path.size_text_child_le root s _) hpath
  have hsize : Text.Utf8.size s ≤ Disk.Tree.maxName := by
    rw [fileName, Text.Utf8.size_append, Text.Utf8.size_append, Nat.add_assoc] at hfile
    exact Nat.le_trans (Nat.le_add_right _ _) hfile
  exact Disk.Tree.locate_child h.located h.folder (hfit.isPlainName hs)
    (Disk.Tree.passable_child hroot (hfit.named s hs).2.2.1 hfolder) hsize
    ((h.folders s .folder).2 ⟨rfl, hs⟩)

theorem StoresByIcon.isFolderAt (h : StoresByIcon tree root place table) (hs : s ∈ table.keys) :
    tree.isFolderAt (place ++ [s]) := by
  rw [Disk.Tree.isFolderAt, (h.folders s .folder).2 ⟨rfl, hs⟩]
  rfl

/-- Reading a file of an icon gives the drawing that it stores. -/
theorem StoresByIcon.readSource_eq (h : StoresByIcon tree root place table)
    (hfit : IsStorableByIcon root table) (hs : s ∈ table.keys) (w : Weight) :
    readSource tree ((root.child s).child (fileName w s)) =
      pure ((drawing? table s w).getD []) := by
  obtain ⟨text, htext⟩ := Option.isSome_iff_exists.1 (hfit.full s hs w)
  have hroot := (Disk.Tree.passable_eq_ok.1 (Disk.Tree.locateText_eq_ok.1 h.located).1).1
  obtain ⟨-, hslash, hnul, -⟩ := hfit.named s hs
  obtain ⟨hsize, hpath⟩ := hfit.short s hs w
  have hfile := (h.files s hs (fileName w s) _).2 ⟨w, text, htext, rfl, rfl⟩
  have hsplit : place ++ [s, fileName w s] = (place ++ [s]) ++ [fileName w s] := by
    rw [List.append_assoc]
    rfl
  have hsuffix : '\x00' ∉ w.fileSuffix := by cases w <;> decide
  have hname : '\x00' ∉ fileName w s :=
    List.not_mem_append (List.not_mem_append hnul hsuffix) (by decide)
  rw [hsplit] at hfile
  rw [htext]
  exact readSource_of_encoded (Disk.Tree.locate_child (h.locate_folder hfit hs) (h.isFolderAt hs)
    (isPlainName_fileName w hslash) (Disk.Tree.passable_child
      (Disk.Path.not_mem_text_child (by decide) hroot hnul) hname hpath) hsize hfile) hfile

/-! ## Finding the folders and files -/

/-- The files of an icon are found in the order of their names. -/
theorem StoresByIcon.sources_eq (h : StoresByIcon tree root place table)
    (hfit : IsStorableByIcon root table) (hs : s ∈ table.keys) :
    sources tree (root.child s) = .ok (byFileName.map fun w => fileName w s) := by
  have hlist := Disk.Tree.list_eq (h.locate_folder hfit hs) (h.isFolderAt hs)
  have hmem : ∀ name, name ∈ (tree.names (place ++ [s])).filter ending.isSuffixOf ↔
      name ∈ byFileName.map fun w => fileName w s := by
    intro name
    rw [List.mem_filter, Disk.Tree.mem_names_iff, List.append_assoc, List.mem_map]
    constructor
    · rintro ⟨hitem, -⟩
      obtain ⟨item, hitem⟩ := Option.isSome_iff_exists.1 hitem
      obtain ⟨w, text, -, hname, -⟩ := (h.files s hs name item).1 hitem
      exact ⟨w, mem_byFileName w, hname.symm⟩
    · rintro ⟨w, -, rfl⟩
      obtain ⟨text, htext⟩ := Option.isSome_iff_exists.1 (hfit.full s hs w)
      have hitem := (h.files s hs (fileName w s) _).2 ⟨w, text, htext, rfl, rfl⟩
      exact ⟨Option.isSome_of_eq_some hitem,
        List.isSuffixOf_iff_suffix.2 (List.suffix_append _ _)⟩
  have hnodup : (byFileName.map fun w => fileName w s).Nodup :=
    List.Nodup.map (fileName_left_injective s) (by decide)
  have hperm : ((tree.names (place ++ [s])).filter ending.isSuffixOf).Perm
      (byFileName.map fun w => fileName w s) :=
    (List.perm_ext_iff_of_nodup ((Disk.Tree.nodup_names tree _).filter _) hnodup).2 hmem
  have hsorted := (Text.mergeSort_eq_of_perm hperm).trans
    (List.mergeSort_of_pairwise (pairwise_fileName s))
  rw [sources, hlist, ← hsorted]
  rfl

/-- The visible folders are those of the icons. -/
theorem StoresByIcon.subfolders_eq (h : StoresByIcon tree root place table)
    (hfit : IsStorableByIcon root table) :
    subfolders tree root = .ok (table.keys.mergeSort Text.atMost) := by
  have hnames : ∀ name, name ∈ tree.names place ↔ name ∈ table.keys := by
    intro name
    rw [Disk.Tree.mem_names_iff]
    constructor
    · intro hitem
      obtain ⟨item, hitem⟩ := Option.isSome_iff_exists.1 hitem
      exact ((h.folders name item).1 hitem).2
    · exact fun hs => Option.isSome_of_eq_some ((h.folders name .folder).2 ⟨rfl, hs⟩)
  have hfolders : ∀ name ∈ tree.names place, tree.isFolder (root.child name) = .ok true := by
    intro name hname
    have hs := (hnames name).1 hname
    exact Disk.Tree.isFolder_eq (h.locate_folder hfit hs) (h.isFolderAt hs)
  have hvisible : ∀ name ∈ tree.names place, name.head? ≠ some '.' := fun name hname =>
    (hfit.named name ((hnames name).1 hname)).2.2.2
  have hperm : (tree.names place).Perm table.keys :=
    (List.perm_ext_iff_of_nodup (Disk.Tree.nodup_names tree place) table.distinct).2 hnames
  rw [← Text.mergeSort_eq_of_perm hperm]
  exact subfolders_of_visible (Disk.Tree.list_eq h.located h.folder) hfolders hvisible

/-! ## Loading the folders -/

/-- The record that is made of the files of an icon, which are read in the order of their names. -/
def reread (table : IconTable) (slug : Text) : Record :=
  Table.ofList (byFileName.map fun w =>
    (weightOfFile (fileName w slug), (drawing? table slug w).getD []))

/-- The file without a suffix comes last, so its drawing takes the place of that of the weight
that it is taken for. -/
theorem get?_reread (table : IconTable) (hs : s ≠ []) (w : Weight) :
    (reread table s).get? w =
      if w = plainWeight s then some ((drawing? table s .regular).getD [])
      else if w = .regular then none else some ((drawing? table s w).getD []) := by
  have hempty : (Table.empty : Record).get? w = none := rfl
  simp only [reread, byFileName, Table.ofList, List.map_cons, List.map_nil, List.foldl_cons,
    List.foldl_nil, Table.get?_set, weightOfFile_fileName _ hs, hempty]
  by_cases hplain : w = plainWeight s
  · simp [hplain]
  · cases w <;> simp [hplain]

/-- Loading the folder of an icon reads all its files, whether or not some of them are taken for
files of one weight. -/
theorem StoresByIcon.result_loadIconFolder (h : StoresByIcon tree root place table)
    (hfit : IsStorableByIcon root table) (hs : s ∈ table.keys) (icons : IconTable) :
    (loadIconFolder tree root icons s).result = .ok (icons.set s (reread table s)) := by
  have hvariant : ∀ w ∈ byFileName, ∀ record,
      (loadVariant tree (root.child s) record (fileName w s)).result =
        .ok (record.set (weightOfFile (fileName w s)) ((drawing? table s w).getD [])) := by
    intro w _ record
    rw [loadVariant, h.readSource_eq hfit hs w]
    split <;> rfl
  have hrecord : ((byFileName.map fun w => fileName w s).foldlM (loadVariant tree (root.child s))
      Table.empty).result = .ok (reread table s) := by
    rw [List.foldlM_map, reread, Table.ofList, List.foldl_map]
    exact Outcome.result_foldlM hvariant Table.empty
  have hfiles : (accessing (sources tree (root.child s))).result =
      .ok (byFileName.map fun w => fileName w s) := by
    rw [h.sources_eq hfit hs]
    rfl
  exact (Outcome.result_bind_of_ok _ hfiles).trans (Outcome.result_bind_of_ok _ hrecord)

/-! ## Loading the layout -/

/-- All icons are found, in the order of their names, but the drawing of the regular weight may
be taken for that of another one. -/
theorem StoresByIcon.exists_loadByIcon (h : StoresByIcon tree root place table)
    (hfit : IsStorableByIcon root table) :
    ∃ icons, (loadByIcon tree root).result = .ok icons ∧
      icons.keys = table.keys.mergeSort Text.atMost ∧
        ∀ s ∈ table.keys, ∀ w, drawing? icons s w =
          if w = plainWeight s then drawing? table s .regular
          else if w = .regular then none else drawing? table s w := by
  have hmem : ∀ s, s ∈ table.keys.mergeSort Text.atMost ↔ s ∈ table.keys :=
    fun s => List.mem_mergeSort
  have hfolders : (accessing (subfolders tree root)).result =
      .ok (table.keys.mergeSort Text.atMost) := by
    rw [h.subfolders_eq hfit]
    rfl
  have hload : (loadByIcon tree root).result = .ok (Table.ofList
      ((table.keys.mergeSort Text.atMost).map fun s => (s, reread table s))) := by
    refine (Outcome.result_bind_of_ok _ hfolders).trans ?_
    rw [Table.ofList, List.foldl_map]
    exact Outcome.result_foldlM (fun s hs => h.result_loadIconFolder hfit ((hmem s).1 hs))
      Table.empty
  have hfst : ((table.keys.mergeSort Text.atMost).map fun s => (s, reread table s)).map Prod.fst =
      table.keys.mergeSort Text.atMost := by
    rw [List.map_map]
    exact List.map_id _
  have hnodup : (((table.keys.mergeSort Text.atMost).map fun s =>
      (s, reread table s)).map Prod.fst).Nodup := by
    rw [hfst]
    exact (List.mergeSort_perm table.keys _).nodup_iff.2 table.distinct
  refine ⟨_, hload, ?_, fun s hs w => ?_⟩
  · rw [Table.keys, Table.rows_ofList hnodup, hfst]
  · have hrow : (Table.ofList ((table.keys.mergeSort Text.atMost).map fun s =>
        (s, reread table s))).get? s = some (reread table s) := by
      rw [Table.get?_eq_some_iff, Table.rows_ofList hnodup]
      exact List.mem_map_of_mem ((hmem s).2 hs)
    have hdrawing : ∀ v, some ((drawing? table s v).getD []) = drawing? table s v := by
      intro v
      obtain ⟨text, htext⟩ := Option.isSome_iff_exists.1 (hfit.full s hs v)
      rw [htext]
      rfl
    rw [drawing?, hrow, Option.bind_some, get?_reread table (hfit.named s hs).1, hdrawing,
      hdrawing]

/-- What is loaded are the drawings of the table exactly if the file without a suffix is taken
for what it is. -/
theorem forall_drawing?_eq_iff {icons : IconTable}
    (hkeys : ∀ s, s ∈ icons.keys ↔ s ∈ table.keys)
    (hfull : ∀ s ∈ table.keys, ∀ w, (drawing? table s w).isSome)
    (hicons : ∀ s ∈ table.keys, ∀ w, drawing? icons s w =
      if w = plainWeight s then drawing? table s .regular
      else if w = .regular then none else drawing? table s w) :
    (∀ s w, drawing? icons s w = drawing? table s w) ↔
      ∀ s ∈ table.keys, plainWeight s = .regular := by
  constructor
  · intro hsame s hs
    by_contra hplain
    have hnone := hicons s hs .regular
    rw [hsame, if_neg (Ne.symm hplain), if_pos rfl] at hnone
    have hsome := hfull s hs .regular
    rw [hnone] at hsome
    cases hsome
  · intro hplain s w
    by_cases hs : s ∈ table.keys
    · rw [hicons s hs, hplain s hs]
      split
      · rename_i hw
        rw [hw]
      · rfl
    · rw [drawing?_eq_none_of_not_mem fun hmem => hs ((hkeys s).1 hmem),
        drawing?_eq_none_of_not_mem hs]

/-- A table that is stored in the icon layout is loaded with its icons in the order of their
names. The file of an icon without a suffix is taken for one of the weight that the name of the
icon ends like, so the drawings are those of the table, and those that the weight layout gives
for it, exactly if no icon is named like a file of another weight. -/
theorem loadByIcon_of_stores (h : StoresByIcon tree root place table)
    (hfit : IsStorableByIcon root table) :
    ∃ icons, (loadByIcon tree root).result = .ok icons ∧
      icons.keys = table.keys.mergeSort Text.atMost ∧
      (∀ s ∈ table.keys, ∀ w, drawing? icons s w =
        if w = plainWeight s then drawing? table s .regular
        else if w = .regular then none else drawing? table s w) ∧
      ((∀ s w, drawing? icons s w = drawing? table s w) ↔
        ∀ s ∈ table.keys, plainWeight s = .regular) ∧
      ∀ tree' root' place', Stores tree' root' place' table → IsStorable root' table →
        ∃ others, (loadByWeight tree' root' none).result = .ok others ∧
          others.keys = icons.keys ∧
          ((∀ s w, drawing? others s w = drawing? icons s w) ↔
            ∀ s ∈ table.keys, plainWeight s = .regular) := by
  obtain ⟨icons, hload, hkeys, hicons⟩ := h.exists_loadByIcon hfit
  have hmem : ∀ s, s ∈ icons.keys ↔ s ∈ table.keys := by
    intro s
    rw [hkeys, List.mem_mergeSort]
  have hiff := forall_drawing?_eq_iff hmem hfit.full hicons
  refine ⟨icons, hload, hkeys, hicons, hiff, ?_⟩
  intro tree' root' place' h' hfit'
  obtain ⟨others, hothers, hkeys', hsame⟩ := h'.loadByWeight_none hfit'
  refine ⟨others, congrArg Outcome.result hothers, hkeys'.trans hkeys.symm, ?_⟩
  rw [← hiff]
  refine forall_congr' fun s => forall_congr' fun w => ?_
  rw [hsame s w]
  exact eq_comm

end Stored

/-! ## An icon that is named like a file of another one -/

/-- The entries of a tree in which a table is stored below a folder. -/
def iconRows (root : Text) (table : IconTable) : List (Disk.Place × Disk.Item) :=
  ([root], .folder) :: table.keys.flatMap fun s =>
    ([root, s], .folder) :: byFileName.map fun w =>
      ([root, s, fileName w s], .file (Text.Utf8.encode ((drawing? table s w).getD [])))

/-- The tree of these entries. -/
def iconTree (root : Text) (table : IconTable) : Disk.Tree := ⟨Table.ofList (iconRows root table)⟩

theorem storesByIcon_iconTree {root : Text} {table : IconTable}
    (hdistinct : ((iconRows root table).map Prod.fst).Nodup)
    (hlocated : (iconTree root table).locate (Disk.Path.ofText root) = .ok [root])
    (hfull : ∀ s ∈ table.keys, ∀ w, (drawing? table s w).isSome) :
    StoresByIcon (iconTree root table) (Disk.Path.ofText root) [root] table := by
  have hget : ∀ name more item, (iconTree root table).get? (name :: more) = some item ↔
      (name :: more, item) ∈ iconRows root table := by
    intro name more item
    rw [← Table.rows_ofList hdistinct]
    exact Table.get?_eq_some_iff
  refine ⟨hlocated, ?_, fun name item => ?_, fun s hs name item => ?_⟩
  · rw [Disk.Tree.isFolderAt, beq_iff_eq, hget]
    exact List.mem_cons_self
  · rw [List.singleton_append, hget]
    simp only [iconRows, List.mem_cons, Prod.mk.injEq, List.mem_flatMap, List.mem_map]
    constructor
    · -- A place two names deep is that of a folder, and one three names deep that of a file.
      rintro (⟨hplace, -⟩ | ⟨s, hs, ⟨hplace, rfl⟩ | ⟨w, -, hplace, -⟩⟩)
      · simp at hplace
      · obtain rfl : name = s := by simpa using hplace
        exact ⟨rfl, hs⟩
      · simp at hplace
    · rintro ⟨rfl, hs⟩
      exact Or.inr ⟨name, hs, Or.inl ⟨rfl, rfl⟩⟩
  · rw [List.singleton_append, hget]
    simp only [iconRows, List.mem_cons, Prod.mk.injEq, List.mem_flatMap, List.mem_map]
    constructor
    · rintro (⟨hplace, -⟩ | ⟨other, -, ⟨hplace, -⟩ | ⟨w, -, hplace, rfl⟩⟩)
      · simp at hplace
      · simp at hplace
      · obtain ⟨rfl, rfl⟩ : other = s ∧ fileName w other = name := by simpa using hplace
        obtain ⟨text, htext⟩ := Option.isSome_iff_exists.1 (hfull other hs w)
        exact ⟨w, text, htext, rfl, by rw [htext, Option.getD_some]⟩
    · rintro ⟨w, text, htext, rfl, rfl⟩
      refine Or.inr ⟨s, hs, Or.inr ⟨w, mem_byFileName w, rfl, ?_⟩⟩
      rw [htext, Option.getD_some]

/-- A table with all weights of two icons, of which one is named like a file of the other. -/
def namesakes : IconTable :=
  Table.ofList (["text-bold".toList, "text".toList].map fun slug =>
    (slug, Table.ofList (Weight.all.map fun w => (w, slug ++ w.name))))

theorem isStorableByIcon_namesakes :
    IsStorableByIcon (Disk.Path.ofText "assets".toList) namesakes := by
  have hkeys : namesakes.keys = ["text-bold".toList, "text".toList] := by rfl
  refine ⟨by decide, fun s hs w => ?_, fun s hs w => ?_⟩
  · rw [hkeys] at hs
    cases w <;> revert s <;> decide
  · rw [hkeys] at hs
    cases w <;> revert s <;> decide

theorem storesByIcon_namesakes : StoresByIcon (iconTree "assets".toList namesakes)
    (Disk.Path.ofText "assets".toList) ["assets".toList] namesakes :=
  storesByIcon_iconTree (by decide) (by decide) isStorableByIcon_namesakes.full

/-- The one icon is loaded as it was, and of the other the regular drawing takes the place of the
bold one. -/
theorem loadByIcon_namesakes :
    ∃ icons, (loadByIcon (iconTree "assets".toList namesakes)
        (Disk.Path.ofText "assets".toList)).result = .ok icons ∧
      drawing? icons "text".toList .bold = some "textbold".toList ∧
      drawing? icons "text-bold".toList .bold = some "text-boldregular".toList ∧
      drawing? icons "text-bold".toList .regular = none ∧
      ¬ ∀ s w, drawing? icons s w = drawing? namesakes s w := by
  obtain ⟨icons, hload, -, hicons, hiff, -⟩ :=
    loadByIcon_of_stores storesByIcon_namesakes isStorableByIcon_namesakes
  have hfirst : "text-bold".toList ∈ namesakes.keys := by decide
  have hsecond : "text".toList ∈ namesakes.keys := by decide
  refine ⟨icons, hload, ?_, ?_, ?_, fun hsame => ?_⟩
  · rw [hicons _ hsecond]
    decide
  · rw [hicons _ hfirst]
    decide
  · rw [hicons _ hfirst]
    decide
  · exact absurd (hiff.1 hsame _ hfirst) (by decide)

/-- Not every table that is stored in the icon layout is loaded as it was. -/
theorem not_forall_loadByIcon_eq :
    ¬ ∀ (tree : Disk.Tree) (root : Disk.Path) (place : Disk.Place) (table : IconTable),
      StoresByIcon tree root place table → IsStorableByIcon root table →
        ∃ icons, (loadByIcon tree root).result = .ok icons ∧
          ∀ s w, drawing? icons s w = drawing? table s w := by
  intro hall
  obtain ⟨icons, hload, hsame⟩ :=
    hall _ _ _ _ storesByIcon_namesakes isStorableByIcon_namesakes
  obtain ⟨found, hfound, -, hdrawings⟩ :=
    storesByIcon_namesakes.exists_loadByIcon isStorableByIcon_namesakes
  obtain rfl : icons = found := Except.ok.inj (hload.symm.trans hfound)
  have hregular := hdrawings "text-bold".toList (by decide) .regular
  rw [hsame] at hregular
  exact absurd hregular (by decide)

end Iconsmith.Assets
