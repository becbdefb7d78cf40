import Iconsmith.Proofs.Disk.Looking

set_option autoImplicit false

/-!
# What an access depends on

A path is followed in the same way in two trees where the same kind of item, or nothing, stands
at every place on its way (`Tree.locate_congr`). So an access comes to the same in both when also
the folder that is listed, or the file that is read, is the same. In particular other bytes in a
file change nothing but what is read from it.
-/

namespace Iconsmith.Disk.Tree

variable {a b : Tree} {place : Place} {p : Path}

/-- In two trees an item of the same kind, or none, stands at a place. -/
def SameKind (a b : Tree) (place : Place) : Prop :=
  (a.get? place).map isFolderItem = (b.get? place).map isFolderItem

theorem SameKind.isFolderAt_eq (h : SameKind a b place) :
    a.isFolderAt place = b.isFolderAt place := by
  have hkind : ∀ tree : Tree, tree.isFolderAt place =
      ((tree.get? place).map isFolderItem == some true) := by
    intro tree
    rw [isFolderAt]
    cases tree.get? place with
    | none => rfl
    | some item => cases item <;> rfl
  rw [hkind, hkind, h]

theorem SameKind.isSome_eq (h : SameKind a b place) :
    (a.get? place).isSome = (b.get? place).isSome := by
  rw [← Option.isSome_map, h, Option.isSome_map]

/-! ## Locating -/

/-- Components are followed in the same way past items of the same kinds. -/
theorem follow_congr {parts : List Text}
    (h : ∀ other ∈ wayFrom place parts, SameKind a b other) :
    a.follow place parts = b.follow place parts := by
  induction parts generalizing place with
  | nil => rfl
  | cons part parts ih =>
      rw [wayFrom, List.forall_mem_cons] at h
      obtain ⟨hhere, hmore⟩ := h
      have hnext : SameKind a b (stepPlace place part) := by
        refine hmore _ ?_
        cases parts <;> exact List.mem_cons_self
      have hsome := hnext.isSome_eq
      rw [follow, follow, hhere.isFolderAt_eq, ih hmore]
      cases hitem : a.get? (stepPlace place part) <;>
        cases hother : b.get? (stepPlace place part) <;> simp_all

theorem locate_congr (h : ∀ other ∈ wayFrom [] (Text.fields '/' p.text), SameKind a b other) :
    a.locate p = b.locate p := by
  unfold locate locateText
  rw [follow_congr h]

/-! ## Testing, reading and listing -/

theorem test_congr {passes : Item → Bool} (hlocate : a.locate p = b.locate p)
    (h : ∀ other, a.locate p = .ok other →
      (a.get? other).any passes = (b.get? other).any passes) :
    a.test passes p = b.test passes p := by
  rw [test, test, ← hlocate]
  cases hplace : a.locate p with
  | ok other =>
      dsimp only
      rw [h other hplace]
  | error fault =>
      cases fault with
      | nul => rfl
      | refused r =>
          obtain ⟨cause, path, target⟩ := r
          cases cause <;> rfl

theorem SameKind.any_isFolderItem (h : SameKind a b place) :
    (a.get? place).any isFolderItem = (b.get? place).any isFolderItem := by
  have hpasses : ∀ tree : Tree, (tree.get? place).any isFolderItem =
      ((tree.get? place).map isFolderItem).getD false := by
    intro tree
    cases tree.get? place <;> rfl
  rw [hpasses, hpasses, h]

theorem read_congr (hlocate : a.locate p = b.locate p)
    (h : ∀ other, a.locate p = .ok other → a.get? other = b.get? other) : a.read p = b.read p := by
  have hsame : a.locateText p.text = b.locateText p.text := hlocate
  unfold read readText
  rw [← hsame]
  cases hplace : a.locateText p.text with
  | ok other =>
      dsimp only
      rw [h other hplace]
  | error fault => rfl

theorem list_congr (hlocate : a.locate p = b.locate p)
    (h : ∀ other, a.locate p = .ok other →
      a.isFolderAt other = b.isFolderAt other ∧ a.names other = b.names other) :
    a.list p = b.list p := by
  rw [list, list, ← hlocate]
  cases hplace : a.locate p with
  | ok other =>
      dsimp only
      rw [(h other hplace).1, (h other hplace).2]
  | error fault => rfl

/-! ## Other bytes -/

section Bytes

variable {tree : Tree} {old : List UInt8} (hold : tree.get? place = some (.file old))
  (bytes : List UInt8)

include hold in
theorem ne_nil_of_file : place ≠ [] := by
  rintro rfl
  cases hold

include hold in
theorem sameKind_put_file (other : Place) :
    SameKind (tree.put place (.file bytes)) tree other := by
  rw [SameKind, get?_put _ (ne_nil_of_file hold)]
  split
  · rename_i heq
    rw [heq, hold]
    rfl
  · rfl

include hold in
theorem locate_put_file (p : Path) : (tree.put place (.file bytes)).locate p = tree.locate p :=
  locate_congr fun other _ => sameKind_put_file hold bytes other

include hold in
theorem isFolder_put_file (p : Path) :
    (tree.put place (.file bytes)).isFolder p = tree.isFolder p :=
  test_congr (locate_put_file hold bytes p) fun other _ =>
    (sameKind_put_file hold bytes other).any_isFolderItem

include hold in
theorem names_put_file (other : Place) :
    (tree.put place (.file bytes)).names other = tree.names other := by
  have hmem : place ∈ tree.entries.keys := by
    refine (Table.isSome_get?_iff tree.entries place).1 ?_
    have hne := ne_nil_of_file hold
    cases place with
    | nil => exact absurd rfl hne
    | cons name rest => exact Option.isSome_of_eq_some hold
  rw [names, names, put, Table.keys_set, if_pos hmem]

include hold in
theorem list_put_file (p : Path) : (tree.put place (.file bytes)).list p = tree.list p :=
  list_congr (locate_put_file hold bytes p) fun other _ =>
    ⟨(sameKind_put_file hold bytes other).isFolderAt_eq, names_put_file hold bytes other⟩

include hold in
/-- What is read at a path that leads elsewhere has not changed. -/
theorem read_put_file {p : Path} (h : tree.locate p ≠ .ok place) :
    (tree.put place (.file bytes)).read p = tree.read p := by
  refine read_congr (locate_put_file hold bytes p) fun other hother => ?_
  rw [locate_put_file hold bytes p] at hother
  refine get?_put_of_ne _ ?_
  rintro rfl
  exact h hother

end Bytes

/-! ## Other orders -/

/-- Trees with the same entries, which the system may list in different orders. -/
def Reorders (a b : Tree) : Prop := a.entries.rows.Perm b.entries.rows

namespace Reorders

variable (h : a.Reorders b)

include h

theorem symm : b.Reorders a := List.Perm.symm h

theorem get?_eq (place : Place) : a.get? place = b.get? place := by
  cases place with
  | nil => rfl
  | cons name rest => exact Table.get?_eq_of_perm h (name :: rest)

/-- A folder has the same names in both trees. -/
theorem names_perm (place : Place) : (a.names place).Perm (b.names place) :=
  (h.map Prod.fst).filterMap _

theorem locate_eq (p : Path) : a.locate p = b.locate p :=
  locate_congr fun other _ => congrArg (Option.map isFolderItem) (h.get?_eq other)

theorem test_eq (passes : Item → Bool) (p : Path) : a.test passes p = b.test passes p :=
  test_congr (h.locate_eq p) fun other _ => congrArg (Option.any passes) (h.get?_eq other)

theorem read_eq (p : Path) : a.read p = b.read p :=
  read_congr (h.locate_eq p) fun other _ => h.get?_eq other

/-- A folder is listed in both trees with the same names, or in neither. -/
theorem list_perm (p : Path) :
    (∃ fault, a.list p = .error fault ∧ b.list p = .error fault) ∨
      ∃ names others, a.list p = .ok names ∧ b.list p = .ok others ∧ names.Perm others := by
  rw [list, list, ← h.locate_eq p]
  cases a.locate p with
  | error fault => exact Or.inl ⟨fault, rfl, rfl⟩
  | ok place =>
      have hfolder : b.isFolderAt place = a.isFolderAt place := by
        rw [isFolderAt, isFolderAt, h.get?_eq place]
      dsimp only
      rw [hfolder]
      split
      · exact Or.inr ⟨_, _, rfl, rfl, h.names_perm place⟩
      · exact Or.inl ⟨_, rfl, rfl⟩

end Reorders

end Iconsmith.Disk.Tree
