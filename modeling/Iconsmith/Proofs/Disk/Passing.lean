import Iconsmith.Output
import Iconsmith.Proofs.Disk.Changes
import Iconsmith.Proofs.Text.Fields

set_option autoImplicit false

/-!
# Paths that are passed to the system

A path with a NUL character is never passed to the system, and an access to it fails in a way
of its own. No other path fails so: not in reading, and not in any change, since the names of
temporary files and of the folders on the way bring no NUL character of their own.
-/

namespace Iconsmith

namespace Disk

/-! ## Paths -/

/-- A path whose components hold no NUL character. -/
def Path.HasNoNul (p : Path) : Prop := ∀ part ∈ p.parts, '\x00' ∉ part

namespace Path

theorem hasNoNul_ofText {t : Text} (h : '\x00' ∉ t) : (ofText t).HasNoNul := fun _ hpart hnul =>
  h (Text.mem_of_mem_fields (List.mem_filter.1 hpart).1 hnul)

theorem HasNoNul.parent {p : Path} (h : p.HasNoNul) : p.parent.HasNoNul := fun part hpart =>
  h part (List.dropLast_subset p.parts hpart)

theorem HasNoNul.child {p : Path} {name : Text} (h : p.HasNoNul) (hname : '\x00' ∉ name) :
    (p.child name).HasNoNul := by
  intro part hpart
  rcases List.mem_append.1 hpart with hpart | hpart
  · exact h part hpart
  · rwa [List.mem_singleton.1 hpart]

theorem HasNoNul.name {p : Path} (h : p.HasNoNul) : '\x00' ∉ p.name := by
  rw [Path.name]
  cases hlast : p.parts.getLast? with
  | none => exact List.not_mem_nil
  | some last => exact h last (List.mem_of_getLast? hlast)

theorem HasNoNul.text {p : Path} (h : p.HasNoNul) : '\x00' ∉ p.text := by
  have hanchor : ∀ a : Anchor, '\x00' ∉ a.text := by
    intro a
    cases a <;> decide
  unfold Path.text
  split
  · decide
  · rw [List.mem_append, not_or]
    refine ⟨hanchor _, fun hnul => ?_⟩
    rcases Text.mem_joined hnul with hgap | ⟨part, hpart, hnul⟩
    · exact absurd hgap (by decide)
    · exact h part hpart hnul

end Path

namespace Tree

variable {tree : Tree}

/-! ## Accesses -/

theorem refuse_ne_nul {α : Type} (path : Text) (cause : Cause) :
    (refuse path cause : Except AccessFault α) ≠ .error .nul := by
  intro hnul
  cases hnul

theorem ok_ne_nul {α : Type} (a : α) : (.ok a : Except AccessFault α) ≠ .error .nul := by
  intro hnul
  cases hnul

/-- A fault that is passed on is none of a NUL character if it was none before. -/
theorem passed_ne_nul {α β : Type} {x : Except AccessFault α} {e : AccessFault}
    (hx : x ≠ .error .nul) (he : x = .error e) :
    (.error e : Except AccessFault β) ≠ .error .nul := by
  intro hnul
  cases hnul
  exact hx he

theorem passable_ne_nul {t : Text} (h : '\x00' ∉ t) : passable t ≠ .error .nul := by
  rw [passable, if_neg (by simpa using h)]
  split
  · exact refuse_ne_nul t .nameTooLong
  · exact ok_ne_nul ()

theorem locateText_ne_nul {t : Text} (h : '\x00' ∉ t) : tree.locateText t ≠ .error .nul := by
  unfold locateText
  split
  · rename_i e he
    exact passed_ne_nul (passable_ne_nul h) he
  · split
    · exact refuse_ne_nul _ _
    · exact refuse_ne_nul _ _
    · split
      · exact ok_ne_nul _
      · exact refuse_ne_nul _ _

theorem readText_ne_nul {t : Text} (h : '\x00' ∉ t) : tree.readText t ≠ .error .nul := by
  unfold readText
  split
  · rename_i e he
    exact passed_ne_nul (locateText_ne_nul h) he
  · split
    · exact ok_ne_nul _
    · exact refuse_ne_nul _ _
    · exact refuse_ne_nul _ _

theorem list_ne_nul {p : Path} (h : p.HasNoNul) : tree.list p ≠ .error .nul := by
  unfold list
  split
  · rename_i e he
    exact passed_ne_nul (locateText_ne_nul h.text) he
  · split
    · exact ok_ne_nul _
    · exact refuse_ne_nul _ _

/-- A test never fails for a NUL character: nothing is there. -/
theorem test_ne_nul (passes : Item → Bool) (p : Path) : tree.test passes p ≠ .error .nul := by
  unfold test
  split
  · exact ok_ne_nul _
  · exact ok_ne_nul _
  · split <;> intro hnul <;> cases hnul

/-- A path that leads to something can be located, so it holds no NUL character. -/
theorem not_mem_text_of_test {passes : Item → Bool} {p : Path}
    (h : tree.test passes p = .ok true) : '\x00' ∉ p.text := by
  intro hnul
  have hlocate : tree.locate p = .error .nul := by
    simp only [locate, locateText, passable, List.contains_iff_mem, hnul, if_true]
  rw [test, hlocate] at h
  cases h

/-! ## Changes -/

theorem locateParent_ne_nul {p : Path} (h : p.HasNoNul) : tree.locateParent p ≠ .error .nul := by
  unfold locateParent
  split
  · rename_i e he
    exact passed_ne_nul (passable_ne_nul h.text) he
  · split
    · split
      · exact refuse_ne_nul _ _
      · split
        · exact refuse_ne_nul _ _
        · split
          · exact refuse_ne_nul _ _
          · exact ok_ne_nul _
    · exact refuse_ne_nul _ _

theorem makeFolder_ne_nul {p : Path} (h : p.HasNoNul) : tree.makeFolder p ≠ .error .nul := by
  unfold makeFolder
  split
  · rename_i e he
    exact passed_ne_nul (locateParent_ne_nul h) he
  · split
    · exact refuse_ne_nul _ _
    · split
      · exact refuse_ne_nul _ _
      · exact ok_ne_nul _

theorem existingFolder_ne_nul {fault : AccessFault} (p : Path) (h : fault ≠ .nul) :
    tree.existingFolder p fault ≠ some .nul := by
  cases fault with
  | nul => exact absurd rfl h
  | refused r =>
      unfold existingFolder
      cases htest : tree.isFolder p with
      | error e =>
          intro hnul
          cases hnul
          exact test_ne_nul isFolderItem p htest
      | ok found => cases found <;> intro hnul <;> cases hnul

theorem access_ne_nul {e : AccessFault} (h : e ≠ .nul) :
    some (FolderFault.access e) ≠ some (.access .nul) := by
  rintro ⟨⟩
  exact h rfl

/-- A refusal that says that something is not there is none of a NUL character. -/
theorem ne_nul_of_saysNotFound {e : AccessFault} (h : saysNotFound e = true) : e ≠ .nul := by
  rintro rfl
  cases h

theorem map_access_ne_nul {stopped : Option AccessFault} (h : stopped ≠ some .nul) :
    stopped.map FolderFault.access ≠ some (.access .nul) := by
  intro hnul
  obtain ⟨e, he, ⟨⟩⟩ := Option.map_eq_some_iff.1 hnul
  exact h he

/-- Making folders and those on the way fails for no NUL character, by induction on the way. -/
theorem makeFolders_ne_nul (room : Nat) (tree : Tree) {p : Path} (h : p.HasNoNul) :
    (makeFolders room tree p).2 ≠ some (.access .nul) := by
  fun_induction makeFolders room tree p with
  | case1 | case2 | case5 =>
      intro hnul
      cases hnul
  | case3 _ _ _ _ hfound => exact access_ne_nul (ne_nul_of_saysNotFound hfound)
  | case4 _ _ _ _ _ _ _ _ hway ih =>
      have hstopped := ih h.parent
      rwa [hway] at hstopped
  | case6 _ _ _ _ _ _ _ _ _ _ hfound => exact access_ne_nul (ne_nul_of_saysNotFound hfound)
  | case7 p _ _ _ _ _ _ _ _ hmake =>
      refine map_access_ne_nul (existingFolder_ne_nul p ?_)
      rintro rfl
      exact makeFolder_ne_nul h hmake
  | case8 p _ _ hmake =>
      refine map_access_ne_nul (existingFolder_ne_nul p ?_)
      rintro rfl
      exact makeFolder_ne_nul h hmake

theorem ensureFolder_ne_nul {p : Path} (h : p.HasNoNul) :
    (tree.ensureFolder p).2 ≠ some (.access .nul) :=
  makeFolders_ne_nul maxMissing tree h

/-- The name of a temporary file holds no character but those of its file, dots and digits. -/
theorem not_mem_temporaryName {name : Text} (h : '\x00' ∉ name) (n : Nat) :
    '\x00' ∉ temporaryName name n := by
  have hnumber : '\x00' ∉ Text.ofNat n := fun hnul =>
    absurd (Nat.isDigit_of_mem_toDigits (by decide) (by decide) hnul) (by decide)
  have htag : '\x00' ∉ tag n := by
    rw [tag, List.mem_append, not_or]
    exact ⟨fun hnul => absurd (List.eq_of_mem_replicate hnul) (by decide), hnumber⟩
  simp [temporaryName, h, htag]

theorem createTemporary_ne_nul {taken : List Place} {folder : Path} {name : Text}
    {bytes : List UInt8} (hfolder : folder.HasNoNul) (hname : '\x00' ∉ name) :
    tree.createTemporary taken folder name bytes ≠ .error .nul := by
  unfold createTemporary
  split
  · rename_i e he
    exact passed_ne_nul (locateText_ne_nul hfolder.text) he
  · dsimp only
    rw [if_neg (by simpa using not_mem_temporaryName hname _)]
    split
    · exact refuse_ne_nul _ _
    · split
      · exact refuse_ne_nul _ _
      · exact ok_ne_nul _

theorem rename_ne_nul {source : Place} {p : Path} (h : p.HasNoNul) :
    tree.rename source p ≠ .error .nul := by
  unfold rename
  dsimp only
  split
  · exact fun hnul => by cases hnul
  · rename_i hnul
    exact absurd hnul (locateParent_ne_nul h)
  · split
    · exact fun hnul => by cases hnul
    · split <;> exact fun hnul => by cases hnul

end Tree

end Disk

/-! ## Writing -/

namespace Output

open Disk Disk.Tree

/-- A fault of a path with a NUL character. -/
def Fault.IsOfNul (fault : Fault) : Prop := ∃ path, fault = .access path .nul

/-- However staging ends, the targets of the staged files hold no NUL character, and no fault is
of one. -/
theorem stage_ne_nul {taken : List Place} {outputs : List Output} {tree after : Tree}
    {staged found : List Staged} {stopped : Option Fault}
    (houtputs : ∀ o ∈ outputs, o.path.HasNoNul) (hstaged : ∀ s ∈ staged, s.path.HasNoNul)
    (h : stage taken tree staged outputs = (after, found, stopped)) :
    (∀ s ∈ found, s.path.HasNoNul) ∧ ∀ fault, stopped = some fault → ¬fault.IsOfNul := by
  -- By the cases of staging: it stops at a folder or at a temporary file, or goes on with one more.
  fun_induction stage taken tree staged outputs with
  | case1 =>
      cases h
      exact ⟨hstaged, nofun⟩
  | case2 _ _ o _ _ e hfolder =>
      cases h
      refine ⟨hstaged, ?_⟩
      rintro fault ⟨⟩ ⟨path, hnul⟩
      cases e with
      | tooDeep => cases hnul
      | access e =>
          cases hnul
          exact ensureFolder_ne_nul (houtputs o List.mem_cons_self).parent (by rw [hfolder])
  | case3 _ _ o _ _ _ _ hcreate =>
      cases h
      refine ⟨hstaged, ?_⟩
      rintro fault ⟨⟩ ⟨path, ⟨⟩⟩
      have ho := houtputs o List.mem_cons_self
      exact createTemporary_ne_nul ho.parent ho.name hcreate
  | case4 _ _ o _ _ _ _ _ _ ih =>
      refine ih (fun other hother => houtputs other (List.mem_cons_of_mem o hother)) ?_ h
      intro s hs
      rcases List.mem_append.1 hs with hs | hs
      · exact hstaged s hs
      · rw [List.mem_singleton.1 hs]
        exact houtputs o List.mem_cons_self

/-- Moving temporary files to their targets fails for no NUL character. -/
theorem replace_ne_nul {staged : List Staged} {tree : Tree} {fault : Fault}
    (hstaged : ∀ s ∈ staged, s.path.HasNoNul) (h : (replace tree staged).2 = some fault) :
    ¬fault.IsOfNul := by
  fun_induction replace tree staged with
  | case1 => cases h
  | case2 _ s _ _ hrename =>
      cases h
      rintro ⟨path, ⟨⟩⟩
      exact rename_ne_nul (hstaged s List.mem_cons_self) hrename
  | case3 _ s _ _ _ ih =>
      exact ih (fun other hother => hstaged other (List.mem_cons_of_mem s hother)) h

/-- Writing outputs whose paths hold no NUL character fails for no NUL character. -/
theorem write_ne_nul {tree : Tree} {outputs : List Output}
    (houtputs : ∀ o ∈ outputs, o.path.HasNoNul) {fault : Fault}
    (h : (write tree outputs).2 = some fault) : ¬fault.IsOfNul := by
  unfold write at h
  split at h
  · rename_i hstage
    exact (stage_ne_nul houtputs (by simp) hstage).2 fault h
  · rename_i hstage
    exact replace_ne_nul (stage_ne_nul houtputs (by simp) hstage).1 h

end Output

end Iconsmith
