import Iconsmith.Disk.Path
import Iconsmith.Table
import Iconsmith.Text.Quoted
import Iconsmith.Text.Utf8

set_option autoImplicit false

/-!
# Directory trees

The part of the file system that a run can see: the entries below the working
directory, in the order in which the system would list them. Every access goes
through `Tree.locate`, which follows a path one component at a time and fails as
a file system does. Paths that start at the root lead out of what is visible and
find nothing.
-/

namespace Iconsmith.Disk

/-- A place below the working directory, as the names that lead to it. -/
abbrev Place := List Text

/-- What stands at a place. -/
inductive Item where
  | file (bytes : List UInt8)
  | folder
  deriving DecidableEq

/-- The entries below the working directory. -/
structure Tree where
  entries : Table Place Item
  deriving DecidableEq

/-! ## Faults -/

/-- Why the system refused an access. -/
inductive Cause where
  | notFound
  | busy
  | exists
  | notFolder
  | isFolder
  | nameTooLong
  deriving DecidableEq

/-- The number of a cause. -/
def Cause.number : Cause → Nat
  | .notFound => 2
  | .busy => 16
  | .exists => 17
  | .notFolder => 20
  | .isFolder => 21
  | .nameTooLong => 36

/-- The wording of a cause. -/
def Cause.text : Cause → Text
  | .notFound => "No such file or directory".toList
  | .busy => "Device or resource busy".toList
  | .exists => "File exists".toList
  | .notFolder => "Not a directory".toList
  | .isFolder => "Is a directory".toList
  | .nameTooLong => "File name too long".toList

/-- A refused access: the cause, the path, and for a renaming its target. -/
structure Refused where
  cause : Cause
  path : Text
  target : Option Text
  deriving DecidableEq

/-- The wording of a refused access. -/
def Refused.message (r : Refused) : Text :=
  "[Errno ".toList ++ Text.ofNat r.cause.number ++ "] ".toList ++ r.cause.text ++ ": ".toList ++
    Text.quoted r.path ++
    match r.target with
    | some t => " -> ".toList ++ Text.quoted t
    | none => []

/-- Why an access failed: the system refused it, or the path holds a NUL character
and was never passed to the system. -/
inductive AccessFault where
  | refused (r : Refused)
  | nul
  deriving DecidableEq

namespace Tree

/-! ## Entries -/

/-- What stands at a place; the working directory itself is a folder. -/
def get? (tree : Tree) (place : Place) : Option Item :=
  match place with
  | [] => some .folder
  | _ => tree.entries.get? place

/-- Whether a place is a folder. -/
def isFolderAt (tree : Tree) (place : Place) : Bool := tree.get? place == some .folder

/-- The tree with an item at a place. -/
def put (tree : Tree) (place : Place) (item : Item) : Tree := ⟨tree.entries.set place item⟩

/-- The tree without the entry of a place. -/
def remove (tree : Tree) (place : Place) : Tree := ⟨tree.entries.erase place⟩

/-- The tree without a place and everything below it. -/
def removeAll (tree : Tree) (place : Place) : Tree :=
  ⟨tree.entries.filterKeys fun other => !place.isPrefixOf other⟩

/-- The names of the entries of a folder, in the order of the system. -/
def names (tree : Tree) (place : Place) : List Text :=
  tree.entries.keys.filterMap fun other =>
    match other.getLast? with
    | some name => if other.dropLast = place then some name else none
    | none => none

/-- The empty tree. -/
def empty : Tree := ⟨Table.empty⟩

/-- The tree with a folder at a place and at every place on the way to it. -/
def putFolders (tree : Tree) (place : Place) : Tree :=
  (List.range place.length).foldl
    (fun t n => let on := place.take (n + 1); if t.isFolderAt on then t else t.put on .folder) tree

/-- The tree with an item at a place and folders on the way to it. -/
def plant (tree : Tree) (place : Place) (item : Item) : Tree :=
  match item with
  | .folder => tree.putFolders place
  | .file _ => (tree.putFolders place.dropLast).put place item

/-! ## Finding places -/

/-- The greatest number of bytes of a name. -/
def maxName : Nat := 255

/-- The greatest number of bytes of a path. -/
def maxPath : Nat := 4095

/-- The place that a component leads to from a folder: back for a double dot, on
to the entry of that name otherwise. Empty components and single dots stay. -/
def stepPlace (place : Place) (part : Text) : Place :=
  if part = [] || part = ['.'] then place
  else if part = ['.', '.'] then place.dropLast
  else place ++ [part]

/-- The places that the components of a path lead through from a folder, and in the end to. -/
def wayFrom (place : Place) : List Text → List Place
  | [] => [place]
  | part :: more => place :: wayFrom (stepPlace place part) more

/-- Follows the components of a path. Each must be followed from a folder, the
names must not be too long, and the places must exist. -/
def follow (tree : Tree) (place : Place) : List Text → Except Cause Place
  | [] => .ok place
  | part :: more =>
      if !tree.isFolderAt place then .error .notFolder
      else if maxName < Text.Utf8.size part then .error .nameTooLong
      else
        match tree.get? (stepPlace place part) with
        | some _ => follow tree (stepPlace place part) more
        | none => .error .notFound

/-- Names a refused access. -/
def refuse {α : Type} (path : Text) (cause : Cause) : Except AccessFault α :=
  .error (.refused ⟨cause, path, none⟩)

/-- Whether a path of this text can be passed to the system, and is short enough
for it. -/
def passable (path : Text) : Except AccessFault Unit :=
  if path.contains '\x00' then .error .nul
  else if maxPath < Text.Utf8.size path then refuse path .nameTooLong
  else .ok ()

/-- The place of a path that is written as `t`: relative components are followed
from the working directory, and an absolute path leads out of the tree. -/
def locateText (tree : Tree) (t : Text) : Except AccessFault Place :=
  match passable t with
  | .error e => .error e
  | .ok () =>
      match t with
      | [] | '/' :: _ => refuse t .notFound
      | _ =>
          match tree.follow [] (Text.fields '/' t) with
          | .ok place => .ok place
          | .error cause => refuse t cause

/-- The place of a path. -/
def locate (tree : Tree) (p : Path) : Except AccessFault Place := tree.locateText p.text

/-! ## Reading -/

/-- The bytes of the file at a path. -/
def readText (tree : Tree) (t : Text) : Except AccessFault (List UInt8) :=
  match tree.locateText t with
  | .error e => .error e
  | .ok place =>
      match tree.get? place with
      | some (.file bytes) => .ok bytes
      | some .folder => refuse t .isFolder
      | none => refuse t .notFound

/-- The bytes of the file at a path. -/
def read (tree : Tree) (p : Path) : Except AccessFault (List UInt8) := tree.readText p.text

/-- The names of the entries of the folder at a path, in the order of the system. -/
def list (tree : Tree) (p : Path) : Except AccessFault (List Text) :=
  match tree.locate p with
  | .error e => .error e
  | .ok place =>
      if tree.isFolderAt place then .ok (tree.names place) else refuse p.text .notFolder

/-- Tests what stands at a path. A path that does not exist, that runs through a
file, or that the system cannot take fails the test; any other refusal is passed
on. -/
def test (tree : Tree) (passes : Item → Bool) (p : Path) : Except AccessFault Bool :=
  match tree.locate p with
  | .ok place => .ok ((tree.get? place).any passes)
  | .error .nul => .ok false
  | .error (.refused r) =>
      match r.cause with
      | .notFound | .notFolder => .ok false
      | _ => .error (.refused r)

/-- Items that are folders. -/
def isFolderItem : Item → Bool
  | .folder => true
  | .file _ => false

/-- Items that are files. -/
def isFileItem : Item → Bool
  | .folder => false
  | .file _ => true

/-- Whether a path leads to a folder. -/
def isFolder (tree : Tree) (p : Path) : Except AccessFault Bool := tree.test isFolderItem p

/-- Whether a path leads to a file. -/
def isFile (tree : Tree) (p : Path) : Except AccessFault Bool := tree.test isFileItem p

end Tree

end Iconsmith.Disk
