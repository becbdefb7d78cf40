import Iconsmith.Proofs.Disk.Following

set_option autoImplicit false

/-!
# Trees that agree

Two trees that agree at the places that a path leads through look alike along it: it is located in
the same way, and the same is found and read there. Trees that agree at a place, on the way to it
and below it agree along every plain path that leads there or past it, and list the same there.
-/

namespace Iconsmith.Disk.Tree

/-- Two trees in which the same stands at every place that a path leads through. A path that starts
at the root leads through none of them. -/
def AgreeAlong (a b : Tree) (p : Path) : Prop :=
  p.anchor = .here → ∀ place ∈ wayFrom [] p.parts, a.get? place = b.get? place

namespace AgreeAlong

variable {a b : Tree} {p : Path}

theorem locate_eq (h : AgreeAlong a b p) (htidy : p.IsTidy) : a.locate p = b.locate p :=
  locate_congr_of_isTidy htidy fun hanchor place hplace =>
    congrArg (Option.map isFolderItem) (h hanchor place hplace)

theorem get?_eq_of_locate (h : AgreeAlong a b p) (htidy : p.IsTidy) {place : Place}
    (hlocate : a.locate p = .ok place) : a.get? place = b.get? place := by
  refine h ((locate_eq_ok_of_isTidy htidy).1 hlocate).2.1 place ?_
  rw [eq_placeOf_of_locate htidy hlocate]
  exact placeOf_mem_wayFrom p

theorem test_eq (h : AgreeAlong a b p) (htidy : p.IsTidy) (passes : Item → Bool) :
    a.test passes p = b.test passes p :=
  test_congr (h.locate_eq htidy) fun _ hplace => by rw [h.get?_eq_of_locate htidy hplace]

theorem read_eq (h : AgreeAlong a b p) (htidy : p.IsTidy) : a.read p = b.read p :=
  read_congr (h.locate_eq htidy) fun _ hplace => h.get?_eq_of_locate htidy hplace

end AgreeAlong

/-- Two trees in which the same stands at a place, at the places on the way to it, and at those
below it. -/
def AgreeAround (a b : Tree) (root : Place) : Prop :=
  ∀ place, place <+: root ∨ root <+: place → a.get? place = b.get? place

namespace AgreeAround

variable {a b : Tree} {root : Place} {p : Path}

theorem agreeAlong (h : AgreeAround a b root) (hp : p.IsPlain) (hroot : root <+: p.parts) :
    AgreeAlong a b p := fun _ place hplace =>
  h place (List.prefix_or_prefix_of_prefix ((mem_wayFrom_of_isPlain hp).1 hplace).2 hroot)

/-- The same names are in a folder below the root, in one order or another. -/
theorem names_perm (h : AgreeAround a b root) {place : Place} (hplace : root <+: place) :
    (a.names place).Perm (b.names place) := by
  refine (List.perm_ext_iff_of_nodup (nodup_names a place) (nodup_names b place)).2 fun name => ?_
  rw [mem_names_iff, mem_names_iff, h _ (Or.inr (hplace.trans (List.prefix_append place [name])))]

/-- A folder below the root is listed in both trees with the same names, or in neither. -/
theorem list_perm (h : AgreeAround a b root) (hp : p.IsPlain) (hroot : root <+: p.parts) :
    (∃ fault, a.list p = .error fault ∧ b.list p = .error fault) ∨
      ∃ names others, a.list p = .ok names ∧ b.list p = .ok others ∧ names.Perm others := by
  have halong := h.agreeAlong hp hroot
  have hsame := halong.locate_eq hp.isTidy
  cases hlocate : a.locate p with
  | error fault =>
      have hother : b.locate p = .error fault := hsame.symm.trans hlocate
      refine Or.inl ⟨fault, ?_, ?_⟩
      · rw [list, hlocate]
      · rw [list, hother]
  | ok place =>
      have hother : b.locate p = .ok place := hsame.symm.trans hlocate
      have hfolder : b.isFolderAt place = a.isFolderAt place := by
        rw [isFolderAt, isFolderAt, halong.get?_eq_of_locate hp.isTidy hlocate]
      have hbelow : root <+: place := by
        rwa [eq_placeOf_of_locate hp.isTidy hlocate, placeOf_of_isPlain hp]
      by_cases hisFolder : a.isFolderAt place
      · exact Or.inr ⟨_, _, list_eq hlocate hisFolder, list_eq hother (hfolder ▸ hisFolder),
          h.names_perm hbelow⟩
      · refine Or.inl ⟨.refused ⟨.notFolder, p.text, none⟩, ?_, ?_⟩
        · rw [list, hlocate]
          exact if_neg hisFolder
        · rw [list, hother]
          exact if_neg (hfolder ▸ hisFolder)

end AgreeAround

end Iconsmith.Disk.Tree
