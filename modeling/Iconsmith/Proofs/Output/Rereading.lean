import Iconsmith.Proofs.Disk.Agreement
import Iconsmith.Proofs.Output.Rewriting

set_option autoImplicit false

/-!
# What is found after a writing

Where no output stands, and none is reached through, nothing has changed when outputs have been
written, and all folders are still there. So the trees agree along a path whose lookup no output
disturbs (`agreeAlong_write`) and around a folder into which no output leads (`agreeAround_write`),
and a file that is none of the outputs is read as before (`read_write_iff`).
-/

namespace Iconsmith

open Disk Disk.Tree

/-- A path that leads into a folder, past it. -/
structure Disk.Path.IsInside (p folder : Path) : Prop where
  anchor : p.anchor = folder.anchor
  way : folder.parts <+: p.parts
  past : folder.parts ≠ p.parts

instance (p folder : Path) : Decidable (p.IsInside folder) :=
  decidable_of_iff (p.anchor = folder.anchor ∧ folder.parts <+: p.parts ∧ folder.parts ≠ p.parts)
    ⟨fun ⟨hanchor, hway, hpast⟩ => ⟨hanchor, hway, hpast⟩,
      fun ⟨hanchor, hway, hpast⟩ => ⟨hanchor, hway, hpast⟩⟩

/-- A file at `t` gets in the way of a lookup at `p` if it is, or is reached through, a place that
`p` leads through and that is no folder yet. -/
def Disk.Path.Disturbs (tree : Tree) (t p : Path) : Prop :=
  t.anchor = p.anchor ∧ ∃ place ∈ wayFrom [] p.parts, ¬ tree.isFolderAt place ∧ place <+: t.parts

/-- A path that leads around a folder, through a place that is no folder, leads into it. -/
theorem Disk.Path.isInside_of_passing {tree : Tree} {root p : Path} {place q : Place}
    (hroot : root.IsPlain) (hlocate : tree.locate root = .ok place)
    (hfolder : tree.isFolderAt place) (hq : q <+: root.parts ∨ root.parts <+: q)
    (hway : ¬ tree.isFolderAt q)
    (hanchor : p.anchor = root.anchor) (hend : q <+: p.parts) : p.IsInside root := by
  have hfollow := ((locate_eq_ok_of_isTidy hroot.isTidy).1 hlocate).2.2
  have hnot : ¬ q <+: root.parts := fun hprefix =>
    hway (isFolderAt_of_mem_wayFrom hfollow hfolder
      ((mem_wayFrom_of_isPlain hroot).2 ⟨List.nil_prefix, hprefix⟩))
  have hbelow : root.parts <+: q := hq.resolve_left hnot
  exact ⟨hanchor, hbelow.trans hend, fun heq => hnot (heq ▸ hend)⟩

namespace Output

variable {tree : Tree} {outputs : List Output} (h : (write tree outputs).2 = none)

/-! ## Where nothing changes -/

section Plain

variable (hplain : ∀ o ∈ outputs, o.path.IsPlain)

include h hplain in
/-- Nothing changes at a folder, nor at a place to which or through which no output leads. -/
theorem get?_write_of_free {place : Place}
    (hfree : tree.isFolderAt place ∨ ∀ o ∈ outputs, ¬ place <+: o.path.parts) :
    (write tree outputs).1.get? place = tree.get? place := by
  rcases hfree with hfolder | hfree
  · have hafter := (isFolderAt_write h place).1 hfolder
    rw [beq_iff_eq.1 hafter, beq_iff_eq.1 hfolder]
  · refine get?_write_of_not_mem h fun hmem => ?_
    obtain ⟨o, ho, hon⟩ := List.mem_flatMap.1 hmem
    exact hfree o ho ((mem_wayFrom_of_isPlain (hplain o ho)).1 hon).2

include h hplain in
/-- Along a path whose lookup no output disturbs nothing changes. -/
theorem agreeAlong_write {p : Path} (hfree : ∀ o ∈ outputs, ¬ o.path.Disturbs tree p) :
    AgreeAlong tree (write tree outputs).1 p := by
  intro hanchor place hplace
  refine (get?_write_of_free h hplain ?_).symm
  by_cases hfolder : tree.isFolderAt place
  · exact Or.inl hfolder
  · refine Or.inr fun o ho hway => hfree o ho ⟨?_, place, hplace, hfolder, hway⟩
    rw [hanchor, anchor_of_write h ho]

include h hplain in
/-- Around a folder nothing changes if no output leads into it. -/
theorem agreeAround_write {root : Path} {place : Place} (hroot : root.IsPlain)
    (hlocate : tree.locate root = .ok place) (hfolder : tree.isFolderAt place)
    (hinside : ∀ o ∈ outputs, ¬ o.path.IsInside root) :
    AgreeAround tree (write tree outputs).1 root.parts := by
  intro q hq
  refine (get?_write_of_free h hplain ?_).symm
  by_cases hway : tree.isFolderAt q
  · exact Or.inl hway
  · refine Or.inr fun o ho hend => hinside o ho ?_
    have hanchor : o.path.anchor = root.anchor := by
      rw [anchor_of_write h ho, ((locate_eq_ok_of_isTidy hroot.isTidy).1 hlocate).2.1]
    exact Path.isInside_of_passing hroot hlocate hfolder hq hway hanchor hend

/-! ## Files that are no outputs -/

variable {p : Path} (hp : p.IsPlain) (hne : ∀ o ∈ outputs, o.path ≠ p)

include h hplain hne in
theorem file?_write_of_ne (hanchor : p.anchor = .here) :
    (write tree outputs).1.file? p.parts = tree.file? p.parts := by
  rw [file?_write, content?_eq_none, Option.none_or]
  intro o ho heq
  have hmem := replaced_subset tree outputs ho
  rw [placeOf_of_isPlain (hplain o hmem)] at heq
  refine hne o hmem ?_
  have hsame : o.path = ⟨o.path.anchor, o.path.parts⟩ := rfl
  rw [hsame, anchor_of_write h hmem, heq, ← hanchor]

include h hp in
/-- The way to a file that is still there leads through the same folders. -/
theorem locate_write (hproper : tree.IsProper) {bytes : List UInt8}
    (hbefore : tree.get? p.parts = some (.file bytes))
    (hafter : (write tree outputs).1.get? p.parts = some (.file bytes)) :
    (write tree outputs).1.locate p = tree.locate p := by
  refine locate_congr_of_isTidy hp.isTidy fun _ q hq => ?_
  obtain ⟨more, hmore⟩ := ((mem_wayFrom_of_isPlain hp).1 hq).2
  rw [List.nil_append] at hmore
  by_cases hend : more = []
  · rw [hend, List.append_nil] at hmore
    rw [SameKind, hmore, hbefore, hafter]
  · rw [← hmore] at hbefore
    have hfolder := hproper.isFolderAt_of_append hend (Option.isSome_of_eq_some hbefore)
    exact sameKind_of_isFolderAt ((isFolderAt_write h q).1 hfolder) hfolder

include h hplain hp hne in
/-- A file that is no output is read as before, and there was one if there is one now. -/
theorem read_write_iff (hproper : tree.IsProper) {bytes : List UInt8} :
    (write tree outputs).1.read p = .ok bytes ↔ tree.read p = .ok bytes := by
  have hread : ∀ tree : Tree, tree.read p = .ok bytes ↔
      tree.locate p = .ok p.parts ∧ tree.file? p.parts = some bytes := by
    intro tree
    rw [read_eq_ok_iff, file?_eq_some_iff]
    constructor
    · rintro ⟨place, hlocate, hitem⟩
      have hplace := eq_placeOf_of_locate hp.isTidy hlocate
      rw [placeOf_of_isPlain hp] at hplace
      exact hplace ▸ ⟨hlocate, hitem⟩
    · rintro ⟨hlocate, hitem⟩
      exact ⟨p.parts, hlocate, hitem⟩
  rw [hread, hread]
  by_cases hanchor : p.anchor = .here
  · rw [file?_write_of_ne h hplain hne hanchor]
    refine and_congr_left fun hfile => ?_
    have hafter := (file?_write_of_ne h hplain hne hanchor).trans hfile
    rw [locate_write h hp hproper (file?_eq_some_iff.1 hfile) (file?_eq_some_iff.1 hafter)]
  · have hno : ∀ tree : Tree, tree.locate p ≠ .ok p.parts := fun tree hlocate =>
      hanchor ((locate_eq_ok_of_isTidy hp.isTidy).1 hlocate).2.1
    exact iff_of_false (fun hboth => hno _ hboth.1) fun hboth => hno _ hboth.1

include h hplain hp in
/-- A name in a plain path turns out to be too long only where it did before, if no output leads
into the folder in which it is looked up. -/
theorem follow_write_nameTooLong (hproper : tree.IsProper) (hanchor : p.anchor = .here)
    (hlong : ∀ before part more, p.parts = before ++ part :: more →
      maxName < Text.Utf8.size part → ∀ o ∈ outputs, ¬ o.path.IsInside ⟨p.anchor, before⟩)
    (hafter : (write tree outputs).1.follow [] p.parts = .error .nameTooLong) :
    tree.follow [] p.parts = .error .nameTooLong := by
  obtain ⟨before, part, more, hparts, hpart, place, hfollow, hfolder⟩ :=
    follow_eq_nameTooLong_iff.1 hafter
  have hbefore : ∀ name ∈ before, IsPlainName name := by
    intro name hname
    refine hp name ?_
    rw [hparts]
    exact List.mem_append_left _ hname
  obtain rfl : place = before := by
    rw [eq_foldl_of_follow hfollow, foldl_stepPlace_of_isPlain hbefore, List.nil_append]
  have hold : tree.isFolderAt place := by
    rw [← (isFolderAt_write h place).2]
    · exact hfolder
    · intro hmem
      obtain ⟨o, ho, hon⟩ := List.mem_flatMap.1 hmem
      have hend : place <+: o.path.parts := ((mem_wayFrom_of_isPlain (hplain o ho)).1 hon).2
      by_cases hsame : place = o.path.parts
      · obtain ⟨bytes, hbytes⟩ := Option.isSome_iff_exists.1 (isSome_file?_write h ho)
        rw [placeOf_of_isPlain (hplain o ho), ← hsame] at hbytes
        rw [isFolderAt_of_file (file?_eq_some_iff.1 hbytes)] at hfolder
        cases hfolder
      · have hinside : o.path.IsInside ⟨p.anchor, place⟩ :=
          ⟨(anchor_of_write h ho).trans hanchor.symm, hend, hsame⟩
        exact hlong place part more hparts hpart o ho hinside
  refine follow_eq_nameTooLong_iff.2 ⟨place, part, more, hparts, hpart, place, ?_, hold⟩
  rw [← hfollow]
  refine follow_congr fun q hq => ?_
  obtain ⟨rest, hrest⟩ := ((mem_wayFrom_of_isPlain hbefore).1 hq).2
  rw [List.nil_append] at hrest
  have hway : tree.isFolderAt q := by
    by_cases hend : rest = []
    · rw [hend, List.append_nil] at hrest
      rwa [hrest]
    · refine hproper.isFolderAt_of_append hend ?_
      rw [hrest, beq_iff_eq.1 hold]
      rfl
  exact sameKind_of_isFolderAt hway ((isFolderAt_write h q).1 hway)

include h hplain hp in
/-- A plain path can be tested after the writing if it could be before. -/
theorem exists_test_write (hproper : tree.IsProper)
    (hlong : ∀ before part more, p.parts = before ++ part :: more →
      maxName < Text.Utf8.size part → ∀ o ∈ outputs, ¬ o.path.IsInside ⟨p.anchor, before⟩)
    {passes : Item → Bool} {passed : Bool} (htest : tree.test passes p = .ok passed) :
    ∃ found, (write tree outputs).1.test passes p = .ok found :=
  exists_test_of_test hp.isTidy htest fun hanchor hafter =>
    follow_write_nameTooLong h hplain hp hproper hanchor hlong hafter

end Plain

end Output

end Iconsmith
