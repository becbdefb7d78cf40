import Iconsmith.Disk.Change

set_option autoImplicit false

/-!
# Writing outputs

Output files are first written to temporary files beside their targets. Only when
all of them are written are the targets replaced, one after another. Whatever
happens, no temporary file is left.
-/

namespace Iconsmith

/-- An output: where it goes, and its text. -/
structure Output where
  path : Disk.Path
  content : Text
  deriving DecidableEq

namespace Output

/-- A temporary file and the path that it is for. -/
structure Staged where
  place : Disk.Place
  path : Disk.Path
  deriving DecidableEq

/-- Why outputs cannot be written: an access for one of them failed, or too many folders are
missing above one of them. -/
inductive Fault where
  | access (path : Disk.Path) (fault : Disk.AccessFault)
  | tooDeep
  deriving DecidableEq

/-- The fault of an output for which there is no folder. -/
def Fault.ofFolder (path : Disk.Path) : Disk.Tree.FolderFault → Fault
  | .access fault => .access path fault
  | .tooDeep => .tooDeep

/-- The wording of faults that are reported. The others end the program. -/
def Fault.message? : Fault → Option Text
  | .access path (.refused r) => some (path.text ++ ": ".toList ++ r.message)
  | .access _ .nul | .tooDeep => none

/-! ## Staging -/

/-- The places that the paths of some outputs lead through and to. Temporary names are
drawn from so many that they lead to none of these. -/
def places (outputs : List Output) : List Disk.Place :=
  outputs.flatMap fun o => Disk.Tree.wayFrom [] o.path.parts

/-- Writes the temporary files away from the places `taken`, together with those staged
before, until one cannot be written. -/
def stage (taken : List Disk.Place) (tree : Disk.Tree) (staged : List Staged) :
    List Output → Disk.Tree × List Staged × Option Fault
  | [] => (tree, staged, none)
  | o :: more =>
      match tree.ensureFolder o.path.parent with
      | (tree, some e) => (tree, staged, some (.ofFolder o.path e))
      | (tree, none) =>
          match tree.createTemporary taken o.path.parent o.path.name
              (Text.Utf8.encode o.content) with
          | .error e => (tree, staged, some (.access o.path e))
          | .ok (tree, place) => stage taken tree (staged ++ [⟨place, o.path⟩]) more

/-! ## Replacing -/

/-- Moves the temporary files to their targets until one cannot be moved. -/
def replace (tree : Disk.Tree) : List Staged → Disk.Tree × Option Fault
  | [] => (tree, none)
  | s :: more =>
      match tree.rename s.place s.path with
      | .error e => (tree, some (.access s.path e))
      | .ok tree => replace tree more

/-- Removes the temporary files that are left. -/
def discard (tree : Disk.Tree) (staged : List Staged) : Disk.Tree :=
  staged.foldl (fun tree s => tree.remove s.place) tree

/-! ## Writing -/

/-- Writes the outputs. -/
def write (tree : Disk.Tree) (outputs : List Output) : Disk.Tree × Option Fault :=
  match stage (places outputs) tree [] outputs with
  | (tree, staged, some fault) => (discard tree staged, some fault)
  | (tree, staged, none) =>
      let (tree, fault) := replace tree staged
      (discard tree staged, fault)

end Output

end Iconsmith
