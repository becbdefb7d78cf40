import Iconsmith.Proofs.Output.Writing

set_option autoImplicit false

/-!
# Failed writing

Writing that fails should leave no trace in the files (`AllKept`). It does so whenever it
fails before a target has been replaced. Once a target has been replaced it stays so, and a
later failure does not bring its former bytes back: `allKept_write_iff` says that the files
are kept exactly if all that was replaced is as it was, and `not_allKept_of_fault` that this
need not be.
-/

namespace Iconsmith.Output

open Disk Disk.Tree

/-- The files that were there have kept their bytes, and no file has come to the place of
an output that had none. -/
structure AllKept (before after : Tree) (outputs : List Output) : Prop where
  kept : ∀ place bytes, before.file? place = some bytes → after.file? place = some bytes
  absent : ∀ o ∈ outputs, before.file? (placeOf o.path) = none →
    after.file? (placeOf o.path) = none

/-- Some outputs bring nothing new: every place that they name holds the bytes already that
the last of them for the place brings. -/
def BringsNothingNew (tree : Tree) (outputs : List Output) : Prop :=
  ∀ place bytes, content? outputs place = some bytes → tree.file? place = some bytes

/-- Wherever writing stops, it has kept all files exactly if the outputs whose targets were
replaced before bring nothing new. -/
theorem allKept_write_iff (tree : Tree) (outputs : List Output) :
    AllKept tree (write tree outputs).1 outputs ↔
      BringsNothingNew tree (replaced tree outputs) := by
  constructor
  · intro hall place bytes hc
    have hafter : (write tree outputs).1.file? place = some bytes := by
      rw [file?_write, hc, Option.some_or]
    obtain ⟨o, ho, rfl, -⟩ := exists_of_content? hc
    cases hb : tree.file? (placeOf o.path) with
    | none =>
        have hnone := hall.absent o (replaced_subset tree outputs ho) hb
        rw [hafter] at hnone
        cases hnone
    | some former =>
        have hkept := hall.kept _ former hb
        rw [hafter] at hkept
        exact hkept.symm
  · intro hnew
    have same : ∀ place, (write tree outputs).1.file? place = tree.file? place := by
      intro place
      rw [file?_write]
      cases hc : content? (replaced tree outputs) place with
      | none => exact Option.none_or
      | some bytes => rw [Option.some_or, hnew place bytes hc]
    exact ⟨fun place bytes h => (same place).trans h, fun o _ h => (same _).trans h⟩

/-! ## Two failures -/

/-- A file and a folder beside it. -/
def fileAndFolder : Tree :=
  ⟨⟨[(["a".toList], .file [111]), (["d".toList], .folder)], by decide⟩⟩

/-- An output for the file, and one in a folder that cannot be made because the file is in
its way. -/
def belowFile : List Output :=
  [⟨Path.ofText "a".toList, "n".toList⟩, ⟨Path.ofText "a/b".toList, "n".toList⟩]

/-- A failure to stage the second output comes before the first target is replaced. -/
theorem allKept_belowFile :
    (write fileAndFolder belowFile).2 =
        some (.access (Path.ofText "a/b".toList) (.refused ⟨.exists, "a".toList, none⟩)) ∧
      AllKept fileAndFolder (write fileAndFolder belowFile).1 belowFile := by
  have hfault : (write fileAndFolder belowFile).2 =
      some (.access (Path.ofText "a/b".toList) (.refused ⟨.exists, "a".toList, none⟩)) := by decide
  have hnone : replaced fileAndFolder belowFile = [] := by decide
  refine ⟨hfault, (allKept_write_iff fileAndFolder belowFile).2 ?_⟩
  rw [hnone]
  intro place bytes h
  cases h

/-- An output for the file, and one for the folder, which no file can replace. -/
def ontoFolder : List Output :=
  [⟨Path.ofText "a".toList, "n".toList⟩, ⟨Path.ofText "d".toList, "n".toList⟩]

/-- Failed writing does not always keep all files: the file has its new bytes when the
folder turns out not to be replaceable. -/
theorem not_allKept_of_fault :
    ¬ ∀ (tree : Tree) (outputs : List Output) (path : Path) (refused : Refused),
      (write tree outputs).2 = some (.access path (.refused refused)) →
        AllKept tree (write tree outputs).1 outputs := by
  intro hall
  have hfault : (write fileAndFolder ontoFolder).2 = some (.access (Path.ofText "d".toList)
      (.refused ⟨.isFolder, ".d.00000000.tmp".toList, some "d".toList⟩)) := by decide
  have hkept := (hall fileAndFolder ontoFolder _ _ hfault).kept ["a".toList] [111] (by decide)
  have hnew : (write fileAndFolder ontoFolder).1.file? ["a".toList] = some [110] := by decide
  rw [hnew] at hkept
  exact absurd hkept (by decide)

end Iconsmith.Output
