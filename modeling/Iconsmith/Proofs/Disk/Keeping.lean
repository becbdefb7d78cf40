import Iconsmith.Proofs.Disk.Following

set_option autoImplicit false

/-!
# What changes keep

A file that comes, goes or is moved changes no folder (`isFolderAt_put`, `isFolderAt_rename`), and
folders are made on the way of a path alone (`get?_ensureFolder_of_not_mem`). So a temporary file
comes to the same place in two trees that agree away from the places taken
(`createTemporary_of_agree`), and whether a file can be moved to a path is settled by the folders
(`IsTarget.of_folders`).
-/

namespace Iconsmith.Disk.Tree

variable {tree a b : Tree} {place : Place} {p : Path}

theorem mem_keys_iff (h : place ≠ []) :
    place ∈ tree.entries.keys ↔ (tree.get? place).isSome := by
  rw [← Table.isSome_get?_iff]
  cases place with
  | nil => exact absurd rfl h
  | cons name rest => exact Iff.rfl

/-- A tree is given by its entries in order and what stands at every place. An entry of the
working directory itself, which is a folder in any case, is never looked up. -/
theorem eq_of_keys_eq (hkeys : a.entries.keys = b.entries.keys)
    (hroot : a.entries.get? [] = b.entries.get? []) (h : ∀ place, a.get? place = b.get? place) :
    a = b := by
  obtain ⟨s⟩ := a
  obtain ⟨t⟩ := b
  refine congrArg Tree.mk (Table.eq_of_keys_eq hkeys fun place => ?_)
  cases place with
  | nil => exact hroot
  | cons name rest => exact h (name :: rest)

theorem root_put (h : place ≠ []) (item : Item) :
    (tree.put place item).entries.get? [] = tree.entries.get? [] := by
  rw [put, Table.get?_set, if_neg (Ne.symm h)]

theorem root_remove (h : place ≠ []) :
    (tree.remove place).entries.get? [] = tree.entries.get? [] := by
  rw [remove, Table.get?_erase, if_neg (Ne.symm h)]

theorem root_rename {source : Place} {renamed : Tree} (hsource : source ≠ [])
    (h : tree.rename source p = .ok renamed) :
    renamed.entries.get? [] = tree.entries.get? [] := by
  obtain ⟨hne, -, item, -, rfl⟩ := rename_eq_ok h
  rw [root_put hne, root_remove hsource]

/-! ## Folders that stay -/

/-- What stands at a place is a folder, or what the files say. -/
theorem get?_eq_of_file?_eq (hfile : a.file? place = b.file? place)
    (hfolder : a.isFolderAt place = b.isFolderAt place) : a.get? place = b.get? place := by
  have hitem : ∀ tree : Tree, tree.get? place =
      if tree.isFolderAt place then some .folder else (tree.file? place).map .file := by
    intro tree
    rw [isFolderAt, file?]
    cases tree.get? place with
    | none => rfl
    | some item => cases item <;> rfl
  rw [hitem, hitem, hfile, hfolder]

theorem isFolderAt_of_file {bytes : List UInt8} (h : tree.get? place = some (.file bytes)) :
    tree.isFolderAt place = false := by
  rw [isFolderAt, h]
  rfl

theorem isFolderAt_of_free (h : tree.get? place = none) : tree.isFolderAt place = false := by
  rw [isFolderAt, h]
  rfl

/-- A file that is put where no folder stands changes no folder. -/
theorem isFolderAt_put (h : tree.isFolderAt place = false) (bytes : List UInt8) (q : Place) :
    (tree.put place (.file bytes)).isFolderAt q = tree.isFolderAt q := by
  have hne : place ≠ [] := by
    rintro rfl
    cases h
  by_cases hq : q = place
  · rw [hq, h, isFolderAt, get?_put _ hne, if_pos rfl]
    rfl
  · rw [isFolderAt, get?_put_of_ne _ hq]
    rfl

/-- What is put to a free place comes after all other entries. -/
theorem keys_put_of_free (h : tree.get? place = none) (item : Item) :
    (tree.put place item).entries.keys = tree.entries.keys ++ [place] := by
  rw [put, Table.keys_set, if_neg]
  rw [mem_keys_iff (ne_nil_of_free h), h]
  exact Bool.false_ne_true

theorem isFolderAt_remove (h : tree.isFolderAt place = false) (q : Place) :
    (tree.remove place).isFolderAt q = tree.isFolderAt q := by
  have hne : place ≠ [] := by
    rintro rfl
    cases h
  by_cases hq : q = place
  · rw [hq, h, isFolderAt, get?_remove hne, if_pos rfl]
    rfl
  · rw [isFolderAt, get?_remove_of_ne hq]
    rfl

theorem isFolderAt_rename {source : Place} {renamed : Tree} {bytes : List UInt8}
    (hsource : tree.get? source = some (.file bytes)) (h : tree.rename source p = .ok renamed)
    (q : Place) : renamed.isFolderAt q = tree.isFolderAt q := by
  obtain ⟨hne, htarget, item, hitem, rfl⟩ := rename_eq_ok h
  obtain rfl : .file bytes = item := Option.some.inj (hsource.symm.trans hitem)
  have hremove := isFolderAt_remove (isFolderAt_of_file hsource)
  have hfree : tree.isFolderAt (placeOf p) = false := by
    rw [isFolderAt, beq_eq_false_iff_ne]
    exact htarget
  rw [isFolderAt_put (by rw [hremove, hfree]), hremove]

/-! ## Folders that are made -/

theorem get?_makeFolder_of_ne {tree made : Tree} {p : Path} (h : tree.makeFolder p = .ok made)
    (hplace : place ≠ placeOf p) : made.get? place = tree.get? place := by
  obtain ⟨found, name, hparent, hdots, -, rfl⟩ := makeFolder_eq_ok.1 h
  exact get?_put_of_ne _ (placeOf_of_locateParent hparent hdots ▸ hplace)

/-- Folders are made on the way of the path alone. -/
theorem get?_makeFolders_of_not_mem (room : Nat) (h : place ∉ wayFrom [] p.parts) :
    (makeFolders room tree p).1.get? place = tree.get? place :=
  makeFolders_induction
    (P := fun p before after => place ∉ wayFrom [] p.parts → after.get? place = before.get? place)
    (fun _ _ _ => rfl) (fun hfirst hsecond h => (hsecond h).trans (hfirst h))
    (fun habove h => habove fun hmem => h (wayFrom_dropLast_subset [] _ hmem))
    (fun hmake h => get?_makeFolder_of_ne hmake fun heq => h (heq ▸ placeOf_mem_wayFrom _))
    room tree p h

theorem get?_ensureFolder_of_not_mem (h : place ∉ wayFrom [] p.parts) :
    (tree.ensureFolder p).1.get? place = tree.get? place :=
  get?_makeFolders_of_not_mem maxMissing h

/-! ## Temporary files in two trees -/

section Temporary

variable {taken : List Place} (hagree : ∀ q ∉ taken, a.get? q = b.get? q)

/-- A fresh number is the first whose temporary name is free and leads to no place taken. -/
theorem freshNumber_le {taken : List Place} {name : Text} {n : Nat}
    (hfree : tree.get? (place ++ [temporaryName name n]) = none)
    (haway : place ++ [temporaryName name n] ∉ taken) :
    tree.freshNumber taken place name ≤ n := by
  unfold freshNumber
  cases hf : (List.range (tree.entries.size + taken.length + 1)).find? fun n =>
      (tree.get? (place ++ [temporaryName name n])).isNone &&
        !taken.contains (place ++ [temporaryName name n]) with
  | none => exact Nat.zero_le n
  | some found =>
      refine Nat.le_of_not_lt fun hlt => ?_
      have hbefore := (List.find?_range_eq_some.1 hf).2.2 n hlt
      simp [hfree, haway] at hbefore

include hagree in
/-- Fresh numbers are the same in trees that agree away from the places taken. -/
theorem freshNumber_congr (place : Place) (name : Text) :
    a.freshNumber taken place name = b.freshNumber taken place name := by
  obtain ⟨hfreea, hawaya⟩ := freshNumber_spec a taken place name
  obtain ⟨hfreeb, hawayb⟩ := freshNumber_spec b taken place name
  refine Nat.le_antisymm (freshNumber_le ?_ hawayb) (freshNumber_le ?_ hawaya)
  · rw [hagree _ hawayb, hfreeb]
  · rw [← hagree _ hawaya, hfreea]

include hagree in
/-- A temporary file comes to the same place in a tree with more folders. -/
theorem createTemporary_of_agree {created : Tree} {folder : Path} {name : Text}
    {bytes : List UInt8} (hfolders : ∀ q, a.isFolderAt q → b.isFolderAt q)
    (h : a.createTemporary taken folder name bytes = .ok (created, place)) :
    b.createTemporary taken folder name bytes = .ok (b.put place (.file bytes), place) := by
  obtain ⟨found, hlocate, hfolder, hnul, hshort, rfl, -⟩ := createTemporary_eq_ok_iff.1 h
  rw [freshNumber_congr hagree] at hnul hshort ⊢
  exact createTemporary_eq_ok_iff.2 ⟨found, locate_of_folders hfolders hlocate hfolder,
    hfolders found hfolder, hnul, hshort, rfl, rfl⟩

end Temporary

/-! ## Targets -/

/-- A path to which a file can be moved: it names an entry of a folder, and not a folder. -/
structure IsTarget (tree : Tree) (p : Path) : Prop where
  located : ∃ found, tree.locateParent p = .ok found ∧ isDots found.2 = false
  free : tree.isFolderAt (placeOf p) = false

/-- What a file can be moved to is settled by the folders. -/
theorem IsTarget.of_folders (h : a.IsTarget p) (hfolders : ∀ q, a.isFolderAt q = b.isFolderAt q) :
    b.IsTarget p := by
  obtain ⟨⟨found, hparent, hdots⟩, hfree⟩ := h
  refine ⟨⟨found, locateParent_of_folders (fun q hq => ?_) hparent, hdots⟩, ?_⟩
  · rwa [← hfolders]
  · rwa [← hfolders]

variable {source : Place} {bytes : List UInt8}

theorem rename_of_isTarget (hsource : tree.get? source = some (.file bytes)) (h : tree.IsTarget p) :
    tree.rename source p = .ok ((tree.remove source).put (placeOf p) (.file bytes)) := by
  obtain ⟨⟨⟨place, name⟩, hparent, hdots⟩, hfree⟩ := h
  have hplace := placeOf_of_locateParent hparent hdots
  unfold rename
  dsimp only at hdots ⊢
  rw [hparent]
  dsimp only
  rw [hdots, if_neg (by simp), hsource, ← hplace]
  cases hitem : tree.get? (placeOf p) with
  | none => rfl
  | some item =>
      cases item with
      | file former => rfl
      | folder =>
          rw [isFolderAt, hitem] at hfree
          cases hfree

theorem isTarget_of_rename {renamed : Tree} (h : tree.rename source p = .ok renamed) :
    tree.IsTarget p := by
  obtain ⟨-, hfree, -⟩ := rename_eq_ok h
  refine ⟨?_, by rwa [isFolderAt, beq_eq_false_iff_ne]⟩
  unfold rename at h
  dsimp only at h
  split at h
  · cases h
  · cases h
  · rename_i place name hparent
    split at h
    · cases h
    · rename_i hdots
      exact ⟨(place, name), hparent, by simpa using hdots⟩

end Iconsmith.Disk.Tree
