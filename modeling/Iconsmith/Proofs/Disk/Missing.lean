import Iconsmith.Output
import Iconsmith.Proofs.Disk.Changes
import Iconsmith.Proofs.Disk.Looking

set_option autoImplicit false

/-!
# Missing folders

To make a folder that stands in none, the folder around it is made first, in a call of its own,
and so on up to one that is there. The calls wait for one another, and there is room for
`maxMissing` of them. Making a folder fails for want of room exactly if the folder so many steps
above it is missing (`ensureFolder_eq_tooDeep_iff`), and then has made nothing
(`ensureFolder_of_isTooDeep`).
-/

namespace Iconsmith.Disk

/-! ## Paths above -/

namespace Path

theorem child_parent {p : Path} (h : p.parts ≠ []) : p.parent.child p.name = p := by
  obtain ⟨anchor, parts⟩ := p
  have hparts : parts.dropLast ++ [(parts.getLast?).getD []] = parts := by
    rw [List.getLast?_eq_getLast_of_ne_nil h, Option.getD_some, List.dropLast_append_getLast]
  exact congrArg (Path.mk anchor) hparts

theorem anchor_iterate_parent (n : Nat) (p : Path) : (parent^[n] p).anchor = p.anchor := by
  induction n generalizing p with
  | zero => rfl
  | succ n ih => exact ih p.parent

theorem parts_iterate_parent (n : Nat) (p : Path) :
    (parent^[n] p).parts = p.parts.take (p.parts.length - n) := by
  induction n generalizing p with
  | zero => exact List.take_length.symm
  | succ n ih =>
      rw [Function.iterate_succ_apply, ih, parent, List.length_dropLast, List.dropLast_eq_take,
        List.take_take]
      congr 1
      omega

theorem parts_iterate_parent_ne_nil {n : Nat} {p : Path} :
    (parent^[n] p).parts ≠ [] ↔ n < p.parts.length := by
  rw [parts_iterate_parent, ← List.length_pos_iff, List.length_take]
  omega

theorem dropLast_iterate_parent (n : Nat) (p : Path) :
    (parent^[n] p).parts.dropLast = p.parts.take (p.parts.length - (n + 1)) := by
  rw [← parts_iterate_parent, Function.iterate_succ_apply']
  rfl

end Path

namespace Tree

variable {tree : Tree} {p : Path}

/-- The path of a folder is no longer than that of what stands in it. -/
theorem passable_parent (h : passable p.text = .ok ()) : passable p.parent.text = .ok () := by
  by_cases hparts : p.parent.parts = []
  · obtain ⟨anchor, parts⟩ := p
    have hparent : Path.parent ⟨anchor, parts⟩ = ⟨anchor, []⟩ := congrArg (Path.mk anchor) hparts
    rw [hparent]
    cases anchor <;> rfl
  · have hne : p.parts ≠ [] := fun hnil => hparts (by rw [Path.parent, hnil]; rfl)
    rw [passable_eq_ok, ← Path.child_parent hne, Path.text_child_of_ne_nil hparts,
      Text.Utf8.size_append] at h
    exact passable_eq_ok.2 ⟨fun hnul => h.1 (List.mem_append_left _ hnul),
      Nat.le_trans (Nat.le_add_right _ _) h.2⟩

theorem passable_iterate_parent (n : Nat) (h : passable p.text = .ok ()) :
    passable (Path.parent^[n] p).text = .ok () := by
  induction n generalizing p with
  | zero => exact h
  | succ n ih => exact ih (passable_parent h)

/-- What cannot be followed for want of an entry cannot be followed any further. -/
theorem follow_take_eq_notFound {parts : List Text} {m n : Nat} (hmn : m ≤ n)
    (h : tree.follow [] (parts.take m) = .error .notFound) :
    tree.follow [] (parts.take n) = .error .notFound := by
  obtain ⟨rest, hrest⟩ := List.take_prefix_take_left (l := parts) hmn
  rw [← hrest, follow_append, h]
  rfl

/-! ## Failing to find -/

/-- An access that fails because something is not there. -/
def FailsToFind {α : Type} (access : Except AccessFault α) : Prop :=
  ∃ fault, access = .error fault ∧ saysNotFound fault = true

@[simp] theorem not_failsToFind_ok {α : Type} (a : α) :
    ¬FailsToFind (.ok a : Except AccessFault α) := by
  rintro ⟨fault, ⟨⟩, -⟩

@[simp] theorem failsToFind_error {α : Type} (fault : AccessFault) :
    FailsToFind (.error fault : Except AccessFault α) ↔ saysNotFound fault = true := by
  simp [FailsToFind]

@[simp] theorem saysNotFound_refused (r : Refused) :
    saysNotFound (.refused r) = true ↔ r.cause = .notFound := by
  simp [saysNotFound]

@[simp] theorem failsToFind_refuse {α : Type} (path : Text) (cause : Cause) :
    FailsToFind (refuse path cause : Except AccessFault α) ↔ cause = .notFound :=
  (failsToFind_error _).trans (saysNotFound_refused _)

/-- The folder of an entry is not found if a component before it is not. -/
theorem failsToFind_locateParent : FailsToFind (tree.locateParent p) ↔
    passable p.text = .ok () ∧
      (p.anchor = .here → tree.follow [] p.parts.dropLast = .error .notFound) := by
  unfold locateParent passable
  by_cases hnul : p.text.contains '\x00'
  · simp only [if_pos hnul]
    simp [saysNotFound]
  by_cases hlong : maxPath < Text.Utf8.size p.text
  · simp only [if_neg hnul, if_pos hlong]
    simp [refuse]
  simp only [if_neg hnul, if_neg hlong, true_and]
  cases p.anchor with
  | here =>
    cases hfollow : tree.follow [] p.parts.dropLast with
    | error cause => simp
    | ok place =>
        refine iff_of_false ?_ (by simp)
        dsimp only
        split
        · simp
        · split <;> simp
  | root | doubleRoot => simp

/-- Where the folder of an entry is found, making the entry fails for other reasons. -/
theorem failsToFind_makeFolder :
    FailsToFind (tree.makeFolder p) ↔ FailsToFind (tree.locateParent p) := by
  unfold makeFolder
  cases tree.locateParent p with
  | error fault => simp
  | ok found =>
      refine iff_of_false ?_ (not_failsToFind_ok found)
      dsimp only
      split
      · simp
      · split <;> simp

/-! ## Room for calls -/

theorem map_access_ne_tooDeep (stopped : Option AccessFault) :
    stopped.map FolderFault.access ≠ some .tooDeep := by
  cases stopped <;> exact nofun

/-- A call has no room left exactly if the folder to be made is to stand in one that is missing,
and the call for that one has none. -/
theorem makeFolders_succ_eq_tooDeep_iff (room : Nat) :
    (makeFolders (room + 1) tree p).2 = some .tooDeep ↔ p.parts ≠ [] ∧
      FailsToFind (tree.makeFolder p) ∧ (makeFolders room tree p.parent).2 = some .tooDeep := by
  rw [makeFolders]
  cases tree.makeFolder p with
  | ok made => simp
  | error fault =>
      by_cases hfound : saysNotFound fault = true
      · by_cases hparts : p.parts = []
        · simp [hfound, hparts]
        · simp only [hfound, if_neg hparts, if_true, failsToFind_error]
          cases makeFolders room tree p.parent with
          | mk onTheWay stopped =>
              cases stopped with
              | some e => simp [hparts]
              | none =>
                  refine iff_of_false ?_ (by simp)
                  dsimp only
                  split
                  · simp
                  · split
                    · simp
                    · exact map_access_ne_tooDeep _
      · simp [hfound]

/-- There is no room exactly if none of as many folders can be found, one above the other. -/
theorem makeFolders_eq_tooDeep_iff (room : Nat) :
    (makeFolders room tree p).2 = some .tooDeep ↔
      ∀ n < room, (Path.parent^[n] p).parts ≠ [] ∧
        FailsToFind (tree.makeFolder (Path.parent^[n] p)) := by
  induction room generalizing p with
  | zero => simp [makeFolders]
  | succ room ih =>
      rw [makeFolders_succ_eq_tooDeep_iff, ih, Nat.forall_lt_succ_left, and_assoc]
      rfl

/-- More folders are missing on the way to a folder, with itself, than can be made. -/
structure IsTooDeep (tree : Tree) (p : Path) : Prop where
  passable : passable p.text = .ok ()
  long : maxMissing ≤ p.parts.length
  missing : p.anchor = .here →
    tree.follow [] (p.parts.take (p.parts.length - maxMissing)) = .error .notFound

theorem ensureFolder_eq_tooDeep_iff :
    (tree.ensureFolder p).2 = some .tooDeep ↔ tree.IsTooDeep p := by
  have hroom : 0 < maxMissing := by decide
  have hlast : maxMissing - 1 + 1 = maxMissing := Nat.sub_add_cancel hroom
  rw [ensureFolder, makeFolders_eq_tooDeep_iff]
  simp only [failsToFind_makeFolder, failsToFind_locateParent, Path.parts_iterate_parent_ne_nil,
    Path.anchor_iterate_parent, Path.dropLast_iterate_parent]
  constructor
  · intro hall
    -- The first call has the longest path, and the last one the folder that is missing.
    obtain ⟨hlong, -, hmissing⟩ := hall (maxMissing - 1) (Nat.sub_lt hroom Nat.one_pos)
    rw [hlast] at hmissing
    exact ⟨(hall 0 hroom).2.1, by omega, hmissing⟩
  · rintro ⟨hpassable, hlong, hmissing⟩ n hn
    refine ⟨Nat.lt_of_lt_of_le hn hlong, passable_iterate_parent n hpassable, fun hhere => ?_⟩
    exact follow_take_eq_notFound (by omega) (hmissing hhere)

/-- Where there is no room nothing has been made, by induction on the calls. -/
theorem fst_makeFolders_of_tooDeep {room : Nat} :
    (makeFolders room tree p).2 = some .tooDeep → (makeFolders room tree p).1 = tree := by
  fun_induction makeFolders room tree p with
  | case1 | case8 => exact fun _ => rfl
  | case2 | case3 | case5 | case6 =>
      intro hdeep
      cases hdeep
  | case4 _ _ _ _ _ _ _ _ hway ih =>
      rw [hway] at ih
      exact ih
  | case7 => exact fun h => absurd h (map_access_ne_tooDeep _)

theorem ensureFolder_of_isTooDeep (h : tree.IsTooDeep p) :
    tree.ensureFolder p = (tree, some .tooDeep) :=
  Prod.ext (fst_makeFolders_of_tooDeep (ensureFolder_eq_tooDeep_iff.2 h))
    (ensureFolder_eq_tooDeep_iff.2 h)

end Tree

end Disk

/-! ## Writing -/

namespace Output

open Disk Disk.Tree

theorem ofFolder_eq_tooDeep_iff {path : Path} {e : FolderFault} :
    Fault.ofFolder path e = .tooDeep ↔ e = .tooDeep := by
  cases e <;> simp [Fault.ofFolder]

section Stage

variable {taken : List Place} {tree between : Tree} {staged found : List Staged}
  {earlier later outputs : List Output} {o : Output}

/-- After outputs that have been staged the others are. -/
theorem stage_append (h : stage taken tree staged earlier = (between, found, none)) :
    stage taken tree staged (earlier ++ later) = stage taken between found later := by
  fun_induction stage taken tree staged earlier with
  | case1 =>
      cases h
      rfl
  | case2 | case3 => cases h
  | case4 _ _ _ _ _ hfolder _ _ hcreate ih =>
      rw [List.cons_append, stage, hfolder]
      dsimp only
      rw [hcreate]
      exact ih h

theorem stage_of_isTooDeep (h : stage taken tree staged earlier = (between, found, none))
    (hdeep : between.IsTooDeep o.path.parent) :
    stage taken tree staged (earlier ++ o :: later) = (between, found, some .tooDeep) := by
  rw [stage_append h, stage, ensureFolder_of_isTooDeep hdeep]
  rfl

/-- Staging has no room at an output exactly if those before it have been staged and its folder is
too deep then. -/
theorem stage_eq_tooDeep_iff : (stage taken tree staged outputs).2.2 = some .tooDeep ↔
    ∃ earlier o later between found, outputs = earlier ++ o :: later ∧
      stage taken tree staged earlier = (between, found, none) ∧
        between.IsTooDeep o.path.parent := by
  constructor
  · fun_induction stage taken tree staged outputs with
    | case1 | case3 => exact nofun
    | case2 tree staged o more onTheWay e hfolder =>
        intro h
        have hdeep := ofFolder_eq_tooDeep_iff.1 (Option.some.inj h)
        exact ⟨[], o, more, tree, staged, rfl, rfl,
          ensureFolder_eq_tooDeep_iff.1 (by rw [hfolder, hdeep])⟩
    | case4 tree staged o more onTheWay hfolder created place hcreate ih =>
        intro h
        obtain ⟨earlier, next, later, between, found, hsplit, hstage, hdeep⟩ := ih h
        refine ⟨o :: earlier, next, later, between, found, by rw [hsplit, List.cons_append], ?_,
          hdeep⟩
        rw [stage, hfolder]
        dsimp only
        rw [hcreate]
        exact hstage
  · rintro ⟨earlier, o, later, between, found, rfl, hstage, hdeep⟩
    rw [stage_of_isTooDeep hstage hdeep]

end Stage

theorem replace_ne_tooDeep (staged : List Staged) :
    ∀ tree : Tree, (replace tree staged).2 ≠ some .tooDeep := by
  induction staged with
  | nil => exact fun _ => nofun
  | cons s more ih =>
      intro tree
      rw [replace]
      cases tree.rename s.place s.path with
      | error e => exact nofun
      | ok renamed => exact ih renamed

theorem write_eq_tooDeep_iff_stage {tree : Tree} {outputs : List Output} :
    (write tree outputs).2 = some .tooDeep ↔
      (stage (places outputs) tree [] outputs).2.2 = some .tooDeep := by
  rw [write]
  cases stage (places outputs) tree [] outputs with
  | mk between rest =>
      obtain ⟨staged, stopped⟩ := rest
      cases stopped with
      | some fault => rfl
      | none => exact iff_of_false (replace_ne_tooDeep staged between) (by simp)

/-- Writing has no room exactly if staging has none. -/
theorem write_eq_tooDeep_iff {tree : Tree} {outputs : List Output} :
    (write tree outputs).2 = some .tooDeep ↔
      ∃ earlier o later between staged, outputs = earlier ++ o :: later ∧
        stage (places outputs) tree [] earlier = (between, staged, none) ∧
          between.IsTooDeep o.path.parent :=
  write_eq_tooDeep_iff_stage.trans stage_eq_tooDeep_iff

end Output

end Iconsmith
