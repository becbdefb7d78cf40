import Iconsmith.Proofs.Assets.Sources
import Iconsmith.Proofs.Disk.Looking
import Iconsmith.Proofs.Text.Utf8
import Iconsmith.Proofs.Weight

set_option autoImplicit false

/-!
# Storing drawings in the weight layout

A tree stores a table in the weight layout if each drawing is the file of its icon in the folder
of its weight and nothing else is there (`Stores`). The name of a file gives the icon back when
the weight is known from the folder (`stripSuffix_stem_fileName`), also where the name of the
icon ends like that of a weight. Storing one drawing more keeps the tree and the table together
(`Stores.storeDrawing`), so every table can be stored below an empty folder (`stores_store`).
-/

namespace Iconsmith.Assets

/-! ## Names of files -/

/-- The name of the file of an icon in the folder of a weight. -/
def fileName (w : Weight) (slug : Text) : Text := slug ++ w.fileSuffix ++ ending

theorem stem_append_ending {t : Text} (h : t ≠ []) : Disk.stem (t ++ ending) = t := by
  have hcut : Text.cutLast '.' (t ++ ending) = some (t, "svg".toList) :=
    Text.cutLast_append_cons t (by decide)
  rw [Disk.stem, hcut]
  exact if_neg (by simp [h])

/-- The name of a file gives its icon back in the folder of the weight. -/
theorem stripSuffix_stem_fileName (w : Weight) {slug : Text} (h : slug ≠ []) :
    w.stripSuffix (Disk.stem (fileName w slug)) = slug := by
  have hne : slug ++ w.fileSuffix ≠ [] := List.append_ne_nil_of_left_ne_nil h _
  rw [fileName, stem_append_ending hne]
  exact w.stripSuffix_append h

theorem fileName_injective (w : Weight) : Function.Injective (fileName w) := by
  intro s t h
  rw [fileName, fileName, List.append_assoc, List.append_assoc] at h
  exact List.append_cancel_right h

theorem isPlainName_fileName (w : Weight) {slug : Text} (h : '/' ∉ slug) :
    Disk.IsPlainName (fileName w slug) := by
  have hlength : 4 ≤ (fileName w slug).length := by
    rw [fileName, List.length_append]
    exact Nat.le_add_left 4 _
  have hshort : ∀ t : Text, t.length < 4 → fileName w slug ≠ t := by
    rintro t ht rfl
    exact absurd hlength (Nat.not_le_of_lt ht)
  have hsuffix : '/' ∉ w.fileSuffix := by cases w <;> decide
  refine ⟨?_, hshort _ (by decide), ?_⟩
  · rw [Disk.Path.isPart, Bool.and_eq_true, decide_eq_true_eq, decide_eq_true_eq]
    exact ⟨hshort _ (by decide), hshort _ (by decide)⟩
  · exact List.not_mem_append (List.not_mem_append h hsuffix) (by decide)

theorem isPlainName_name (w : Weight) : Disk.IsPlainName w.name := by
  cases w <;> exact ⟨by decide, by decide, by decide⟩

theorem name_injective : Function.Injective Weight.name := by
  intro w v h
  have hsame := Weight.ofName?_name w
  rw [h, Weight.ofName?_name] at hsame
  exact (Option.some.inj hsame).symm

/-! ## Copying drawings -/

theorem mem_keys_of_drawing? {table : IconTable} {s : Text} {w : Weight}
    (h : (drawing? table s w).isSome) : s ∈ table.keys := by
  obtain ⟨text, htext⟩ := Option.isSome_iff_exists.1 h
  obtain ⟨record, hrecord, -⟩ := Option.bind_eq_some_iff.1 htext
  exact Table.mem_keys_of_get? hrecord

theorem drawing?_eq_none_of_not_mem {table : IconTable} {s : Text} {w : Weight}
    (h : s ∉ table.keys) : drawing? table s w = none :=
  Option.not_isSome_iff_eq_none.1 fun hsome => h (mem_keys_of_drawing? hsome)

/-- The table with the drawing of an icon in a weight copied from another one. -/
def copyDrawing (table icons : IconTable) (key : Weight × Text) : IconTable :=
  addDrawing icons key.2 key.1 ((drawing? table key.2 key.1).getD [])

/-- The table with some drawings copied from another one. -/
def copyDrawings (table : IconTable) (keys : List (Weight × Text)) (icons : IconTable) :
    IconTable :=
  keys.foldl (copyDrawing table) icons

section Copying

variable {table icons : IconTable} {keys : List (Weight × Text)}

/-- What has been copied is there, and all else is as it was. -/
theorem drawing?_copyDrawings (table icons : IconTable) (keys : List (Weight × Text)) (s : Text)
    (w : Weight) :
    drawing? (copyDrawings table keys icons) s w =
      if (w, s) ∈ keys then some ((drawing? table s w).getD []) else drawing? icons s w := by
  induction keys generalizing icons with
  | nil => rfl
  | cons key keys ih =>
      have hstep : copyDrawings table (key :: keys) icons =
          copyDrawings table keys (copyDrawing table icons key) := rfl
      rw [hstep, ih, copyDrawing, drawing?_addDrawing]
      by_cases hkeys : (w, s) ∈ keys
      · rw [if_pos hkeys, if_pos (List.mem_cons_of_mem key hkeys)]
      · rw [if_neg hkeys]
        by_cases hkey : (w, s) = key
        · subst hkey
          rw [if_pos ⟨rfl, rfl⟩, if_pos List.mem_cons_self]
        · have hnot : (w, s) ∉ key :: keys := fun h => (List.mem_cons.1 h).elim hkey hkeys
          rw [if_neg fun h => hkey (Prod.ext h.2 h.1), if_neg hnot]

theorem keys_addDrawing_of_mem {slug : Text} (h : slug ∈ icons.keys) (w : Weight)
    (drawing : Text) : (addDrawing icons slug w drawing).keys = icons.keys := by
  rw [addDrawing, Table.keys_set, if_pos h]

theorem mem_keys_addDrawing {k slug : Text} {w : Weight} {drawing : Text} :
    k ∈ (addDrawing icons slug w drawing).keys ↔ k ∈ icons.keys ∨ k = slug := by
  rw [addDrawing, Table.keys_set]
  split
  · rename_i hold
    exact ⟨Or.inl, fun h => h.elim id fun heq => heq ▸ hold⟩
  · rw [List.mem_append, List.mem_singleton]

theorem mem_keys_copyDrawings {k : Text} :
    k ∈ (copyDrawings table keys icons).keys ↔ k ∈ icons.keys ∨ ∃ w, (w, k) ∈ keys := by
  induction keys generalizing icons with
  | nil => simp [copyDrawings]
  | cons key keys ih =>
      have hstep : copyDrawings table (key :: keys) icons =
          copyDrawings table keys (copyDrawing table icons key) := rfl
      have hpair : (∃ w, (w, k) = key) ↔ k = key.2 := by
        constructor
        · rintro ⟨w, rfl⟩
          rfl
        · rintro rfl
          exact ⟨key.1, rfl⟩
      rw [hstep, ih, copyDrawing, mem_keys_addDrawing, or_assoc, ← hpair, ← exists_or]
      simp only [List.mem_cons]

/-- Icons that are already there keep their places. -/
theorem keys_copyDrawings_of_mem (h : ∀ key ∈ keys, key.2 ∈ icons.keys) :
    (copyDrawings table keys icons).keys = icons.keys := by
  induction keys generalizing icons with
  | nil => rfl
  | cons key keys ih =>
      obtain ⟨hfirst, hrest⟩ := List.forall_mem_cons.1 h
      have hkey : (copyDrawing table icons key).keys = icons.keys :=
        keys_addDrawing_of_mem hfirst _ _
      have hstep : copyDrawings table (key :: keys) icons =
          copyDrawings table keys (copyDrawing table icons key) := rfl
      rw [hstep, ih fun other hother => hkey ▸ hrest other hother, hkey]

/-- Copying all drawings of a table into one without any gives the drawings of the table. -/
theorem drawing?_copyDrawings_of_all (hall : ∀ w s, (w, s) ∈ keys ↔ (drawing? table s w).isSome)
    (hnone : ∀ s w, drawing? icons s w = none) (s : Text) (w : Weight) :
    drawing? (copyDrawings table keys icons) s w = drawing? table s w := by
  rw [drawing?_copyDrawings, hnone]
  by_cases hmem : (w, s) ∈ keys
  · obtain ⟨text, htext⟩ := Option.isSome_iff_exists.1 ((hall w s).1 hmem)
    rw [if_pos hmem, htext, Option.getD_some]
  · rw [if_neg hmem]
    cases hdrawing : drawing? table s w with
    | none => rfl
    | some text => exact absurd ((hall w s).2 (by rw [hdrawing]; rfl)) hmem

end Copying

/-! ## Stored tables -/

/-- A table that can be stored below a root: its icons have names that files can have, each has a
drawing, and no path to a file is too long. -/
structure IsStorable (root : Disk.Path) (table : IconTable) : Prop where
  named : ∀ s ∈ table.keys, s ≠ [] ∧ '/' ∉ s ∧ '\x00' ∉ s
  filled : ∀ s ∈ table.keys, ∃ w, (drawing? table s w).isSome
  short : ∀ s w, (drawing? table s w).isSome →
    Text.Utf8.size (fileName w s) ≤ Disk.Tree.maxName ∧
      Text.Utf8.size ((root.child w.name).child (fileName w s)).text ≤ Disk.Tree.maxPath

/-- Below a root, which is the folder at a place, a table is stored in the weight layout, and
nothing else is there. -/
structure Stores (tree : Disk.Tree) (root : Disk.Path) (place : Disk.Place) (table : IconTable) :
    Prop where
  located : tree.locate root = .ok place
  folder : tree.isFolderAt place
  folders : ∀ name item, tree.get? (place ++ [name]) = some item ↔
    item = .folder ∧ ∃ w s, name = w.name ∧ (drawing? table s w).isSome
  files : ∀ w name item, tree.get? (place ++ [w.name, name]) = some item ↔
    ∃ s text, drawing? table s w = some text ∧ name = fileName w s ∧
      item = .file (Text.Utf8.encode text)

section Storing

variable {tree : Disk.Tree} {root : Disk.Path} {place : Disk.Place} {table : IconTable}

/-! ## Storing tables -/

/-- The tree with a drawing stored below the root. -/
def storeDrawing (place : Disk.Place) (tree : Disk.Tree) (slug : Text) (w : Weight)
    (drawing : Text) : Disk.Tree :=
  (tree.put (place ++ [w.name]) .folder).put (place ++ [w.name, fileName w slug])
    (.file (Text.Utf8.encode drawing))

theorem get?_storeDrawing (place : Disk.Place) (tree : Disk.Tree) (slug : Text) (w : Weight)
    (drawing : Text) (other : Disk.Place) :
    (storeDrawing place tree slug w drawing).get? other =
      if other = place ++ [w.name, fileName w slug] then
        some (.file (Text.Utf8.encode drawing))
      else if other = place ++ [w.name] then some .folder
      else tree.get? other := by
  rw [storeDrawing, Disk.Tree.get?_put _ (by simp), Disk.Tree.get?_put _ (by simp)]

/-- A root can be located as before when a drawing has been stored. -/
theorem Stores.located_storeDrawing (h : Stores tree root place table) (slug : Text) (w : Weight)
    (drawing : Text) : (storeDrawing place tree slug w drawing).locate root = .ok place := by
  have hitem := get?_storeDrawing place tree slug w drawing
  refine Disk.Tree.locate_of_kept (fun other hfolder => ?_) (fun other hsome => ?_) h.located
  · rw [Disk.Tree.isFolderAt, beq_iff_eq] at hfolder ⊢
    rw [hitem]
    by_cases hfile : other = place ++ [w.name, fileName w slug]
    · -- Where the file is put there may have been a file, but no folder.
      obtain ⟨s, text, -, -, hnot⟩ := (h.files w (fileName w slug) .folder).1 (hfile ▸ hfolder)
      cases hnot
    · rw [if_neg hfile, hfolder, ite_self]
  · rw [hitem]
    split
    · rfl
    · split
      · rfl
      · exact hsome

theorem get?_folder_storeDrawing (place : Disk.Place) (tree : Disk.Tree) (slug : Text)
    (w : Weight) (drawing name : Text) :
    (storeDrawing place tree slug w drawing).get? (place ++ [name]) =
      if name = w.name then some .folder else tree.get? (place ++ [name]) := by
  rw [get?_storeDrawing, if_neg (by simp)]
  simp only [List.append_cancel_left_eq, List.cons.injEq, and_true]

theorem get?_file_storeDrawing (place : Disk.Place) (tree : Disk.Tree) (slug : Text)
    (w v : Weight) (drawing name : Text) :
    (storeDrawing place tree slug w drawing).get? (place ++ [v.name, name]) =
      if v = w ∧ name = fileName w slug then some (.file (Text.Utf8.encode drawing))
      else tree.get? (place ++ [v.name, name]) := by
  have hfolder : place ++ [v.name, name] ≠ place ++ [w.name] := by simp
  rw [get?_storeDrawing, if_neg hfolder]
  simp only [List.append_cancel_left_eq, List.cons.injEq, and_true, name_injective.eq_iff]

/-- The folders below the root when a drawing has been stored. -/
theorem Stores.folders_storeDrawing (h : Stores tree root place table) (slug : Text) (w : Weight)
    (drawing name : Text) (item : Disk.Item) :
    (storeDrawing place tree slug w drawing).get? (place ++ [name]) = some item ↔
      item = .folder ∧ ∃ v s, name = v.name ∧
        (drawing? (addDrawing table slug w drawing) s v).isSome := by
  rw [get?_folder_storeDrawing]
  simp only [drawing?_addDrawing]
  by_cases hname : name = w.name
  · rw [if_pos hname]
    constructor
    · rintro ⟨⟩
      exact ⟨rfl, w, slug, hname, by rw [if_pos ⟨rfl, rfl⟩]; rfl⟩
    · rintro ⟨rfl, -⟩
      rfl
  · rw [if_neg hname, h.folders]
    refine and_congr_right fun _ => exists_congr fun v => exists_congr fun s =>
      and_congr_right fun hv => ?_
    rw [if_neg]
    rintro ⟨-, rfl⟩
    exact hname hv

/-- The files in the folder of a weight when a drawing has been stored. -/
theorem Stores.files_storeDrawing (h : Stores tree root place table) (slug : Text) (w v : Weight)
    (drawing name : Text) (item : Disk.Item) :
    (storeDrawing place tree slug w drawing).get? (place ++ [v.name, name]) = some item ↔
      ∃ s text, drawing? (addDrawing table slug w drawing) s v = some text ∧
        name = fileName v s ∧ item = .file (Text.Utf8.encode text) := by
  rw [get?_file_storeDrawing]
  simp only [drawing?_addDrawing]
  by_cases hsame : v = w ∧ name = fileName w slug
  · obtain ⟨rfl, rfl⟩ := hsame
    rw [if_pos ⟨rfl, rfl⟩]
    constructor
    · rintro ⟨⟩
      exact ⟨slug, drawing, if_pos ⟨rfl, rfl⟩, rfl, rfl⟩
    · rintro ⟨s, text, hdrawing, hs, rfl⟩
      obtain rfl := fileName_injective v hs
      rw [if_pos ⟨rfl, rfl⟩] at hdrawing
      cases hdrawing
      rfl
  · -- Another file name is that of another icon, so the drawings are those from before.
    rw [if_neg hsame, h.files]
    refine exists_congr fun s => exists_congr fun text => and_congr_left fun hname => ?_
    rw [if_neg]
    rintro ⟨rfl, rfl⟩
    exact hsame ⟨rfl, hname.1⟩

/-- A stored table stays stored when a drawing is added to both. -/
theorem Stores.storeDrawing (h : Stores tree root place table) (slug : Text) (w : Weight)
    (drawing : Text) :
    Stores (storeDrawing place tree slug w drawing) root place
      (addDrawing table slug w drawing) where
  located := h.located_storeDrawing slug w drawing
  folder := by
    have hplace := h.folder
    rw [Disk.Tree.isFolderAt, beq_iff_eq] at hplace ⊢
    rw [get?_storeDrawing, if_neg (by simp), if_neg (by simp), hplace]
  folders := h.folders_storeDrawing slug w drawing
  files := fun v => h.files_storeDrawing slug w v drawing

/-- Other bytes in the file of a drawing store another drawing. -/
theorem Stores.put_file (h : Stores tree root place table) {slug : Text} {w : Weight}
    (hdrawing : (drawing? table slug w).isSome) (drawing : Text) :
    Stores (tree.put (place ++ [w.name, fileName w slug]) (.file (Text.Utf8.encode drawing))) root
      place (addDrawing table slug w drawing) := by
  have hfolder := (h.folders w.name .folder).2 ⟨rfl, w, slug, rfl, hdrawing⟩
  have hstored := h.storeDrawing slug w drawing
  rwa [Assets.storeDrawing, Disk.Tree.put_eq_self (by simp) hfolder] at hstored

/-- What a tree stores depends on the drawings of the table only. -/
theorem Stores.congr {icons : IconTable} (h : Stores tree root place icons)
    (heq : ∀ s w, drawing? icons s w = drawing? table s w) : Stores tree root place table := by
  obtain ⟨located, folder, folders, files⟩ := h
  simp only [heq] at folders files
  exact ⟨located, folder, folders, files⟩

/-- The weights and icons of all drawings of a table. -/
def drawingKeys (table : IconTable) : List (Weight × Text) :=
  (Weight.all.flatMap fun w => table.keys.map (Prod.mk w)).filter fun key =>
    (drawing? table key.2 key.1).isSome

/-- The tree with the drawings of a table stored below the root. -/
def store (place : Disk.Place) (tree : Disk.Tree) (table : IconTable) : Disk.Tree :=
  (drawingKeys table).foldl (fun tree key =>
    storeDrawing place tree key.2 key.1 ((drawing? table key.2 key.1).getD [])) tree

/-- Storing drawings and copying them into a table keeps the two together. -/
theorem Stores.foldl_storeDrawing {icons : IconTable} (h : Stores tree root place icons)
    (keys : List (Weight × Text)) :
    Stores (keys.foldl (fun tree key =>
      Assets.storeDrawing place tree key.2 key.1 ((drawing? table key.2 key.1).getD [])) tree)
      root place (copyDrawings table keys icons) := by
  induction keys generalizing tree icons with
  | nil => exact h
  | cons key keys ih => exact ih (h.storeDrawing key.2 key.1 _)

/-- Every table can be stored below a folder with nothing in it. -/
theorem stores_store (hlocated : tree.locate root = .ok place) (hfolder : tree.isFolderAt place)
    (hbare : ∀ name more, tree.get? (place ++ name :: more) = none) (table : IconTable) :
    Stores (store place tree table) root place table := by
  have hnone : Stores tree root place Table.empty := by
    refine ⟨hlocated, hfolder, fun name item => ?_, fun w name item => ?_⟩
    · refine iff_of_false (by rw [hbare]; simp) ?_
      rintro ⟨-, w, s, -, hdrawing⟩
      cases hdrawing
    · refine iff_of_false (by rw [hbare]; simp) ?_
      rintro ⟨s, text, hdrawing, -⟩
      cases hdrawing
  have hall : ∀ w s, (w, s) ∈ drawingKeys table ↔ (drawing? table s w).isSome := by
    intro w s
    rw [drawingKeys, List.mem_filter]
    refine and_iff_right_of_imp fun hdrawing => ?_
    exact List.mem_flatMap.2 ⟨w, Weight.mem_all w,
      List.mem_map_of_mem (mem_keys_of_drawing? hdrawing)⟩
  exact (hnone.foldl_storeDrawing (drawingKeys table)).congr fun s w =>
    drawing?_copyDrawings_of_all hall (fun _ _ => rfl) s w

end Storing

end Iconsmith.Assets
