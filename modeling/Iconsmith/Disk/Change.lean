import Iconsmith.Disk.Tree

set_option autoImplicit false

/-!
# Changes to directory trees

Making folders, creating files under fresh names, and renaming files. Each change
either happens as a whole or is refused and leaves the tree as it was.
-/

namespace Iconsmith.Disk.Tree

/-! ## Folders -/

/-- The place of the last component of a path and that component, once the folder it
stands in has been found. -/
def locateParent (tree : Tree) (p : Path) : Except AccessFault (Place × Text) :=
  match passable p.text with
  | .error e => .error e
  | .ok () =>
      match p.anchor with
      | .here =>
          match tree.follow [] p.parts.dropLast with
          | .error cause => refuse p.text cause
          | .ok place =>
              if !tree.isFolderAt place then refuse p.text .notFolder
              else if maxName < Text.Utf8.size p.name then refuse p.text .nameTooLong
              else .ok (place, p.name)
      | _ => refuse p.text .notFound

/-- Whether a last component does not name an entry of its folder. -/
def isDots (name : Text) : Bool := name = [] || name = ['.'] || name = ['.', '.']

/-- The tree with a new folder. -/
def makeFolder (tree : Tree) (p : Path) : Except AccessFault Tree :=
  match tree.locateParent p with
  | .error e => .error e
  | .ok (place, name) =>
      if isDots name then refuse p.text .exists
      else
        match tree.get? (place ++ [name]) with
        | some _ => refuse p.text .exists
        | none => .ok (tree.put (place ++ [name]) .folder)

/-- Whether a refusal says that something is not there. -/
def saysNotFound : AccessFault → Bool
  | .refused r => r.cause = .notFound
  | .nul => false

/-- The fault of making a folder that may stand there already. -/
def existingFolder (tree : Tree) (p : Path) (fault : AccessFault) : Option AccessFault :=
  match fault with
  | .nul => some .nul
  | .refused _ =>
      match tree.isFolder p with
      | .ok true => none
      | .ok false => some fault
      | .error e => some e

/-- Why the folders on the way to a path cannot be made: an access failed, or too many of them
are missing, one in the other. -/
inductive FolderFault where
  | access (fault : AccessFault)
  | tooDeep
  deriving DecidableEq

/-- How many folders may be missing on the way to a path. Each is made while those in it wait
for it, and the calls that wait are nested no deeper. -/
def maxMissing : Nat := 991

/-- Makes a folder and those on the way to it, with room for so many calls in one another;
folders that are there already will do. What has been made before a refusal stays. -/
def makeFolders (room : Nat) (tree : Tree) (p : Path) : Tree × Option FolderFault :=
  match room with
  | 0 => (tree, some .tooDeep)
  | room + 1 =>
      match tree.makeFolder p with
      | .ok made => (made, none)
      | .error fault =>
          if saysNotFound fault then
            if p.parts = [] then (tree, some (.access fault))
            else
              match makeFolders room tree p.parent with
              | (onTheWay, some e) => (onTheWay, some e)
              | (onTheWay, none) =>
                  match onTheWay.makeFolder p with
                  | .ok made => (made, none)
                  | .error e =>
                      if saysNotFound e then (onTheWay, some (.access e))
                      else (onTheWay, (onTheWay.existingFolder p e).map .access)
          else (tree, (tree.existingFolder p fault).map .access)

/-- Makes a folder and all that are missing on the way to it. -/
def ensureFolder (tree : Tree) (p : Path) : Tree × Option FolderFault :=
  makeFolders maxMissing tree p

/-! ## Fresh files -/

/-- A tag of at least eight digits. -/
def tag (n : Nat) : Text :=
  List.replicate (8 - (Text.ofNat n).length) '0' ++ Text.ofNat n

/-- The name of a temporary file for a file. -/
def temporaryName (name : Text) (n : Nat) : Text :=
  '.' :: name ++ '.' :: tag n ++ ".tmp".toList

/-- A number whose temporary name is free in a folder and leads to none of the places
`taken`. One of as many numbers as there are entries and places taken, and one more,
always is. -/
def freshNumber (tree : Tree) (taken : List Place) (place : Place) (name : Text) : Nat :=
  ((List.range (tree.entries.size + taken.length + 1)).find? fun n =>
    (tree.get? (place ++ [temporaryName name n])).isNone &&
      !taken.contains (place ++ [temporaryName name n])).getD 0

/-- Writes a temporary file for `name` in a folder, away from the places `taken`, and gives
its place. -/
def createTemporary (tree : Tree) (taken : List Place) (folder : Path) (name : Text)
    (bytes : List UInt8) : Except AccessFault (Tree × Place) :=
  match tree.locate folder with
  | .error e => .error e
  | .ok place =>
      let fresh := temporaryName name (tree.freshNumber taken place name)
      let shown := Text.joined ['/'] (place ++ [fresh])
      if fresh.contains '\x00' then .error .nul
      else if maxName < Text.Utf8.size fresh then refuse shown .nameTooLong
      else if !tree.isFolderAt place then refuse shown .notFolder
      else .ok (tree.put (place ++ [fresh]) (.file bytes), place ++ [fresh])

/-! ## Renaming -/

/-- Moves the file at a place to a path, over a file that is there. -/
def rename (tree : Tree) (source : Place) (p : Path) : Except AccessFault Tree :=
  let refused := fun (cause : Cause) =>
    (.error (.refused ⟨cause, Text.joined ['/'] source, some p.text⟩) : Except AccessFault Tree)
  match tree.locateParent p with
  | .error (.refused r) => refused r.cause
  | .error .nul => .error .nul
  | .ok (place, name) =>
      if isDots name then refused .busy
      else
        match tree.get? source, tree.get? (place ++ [name]) with
        | none, _ => refused .notFound
        | some _, some .folder => refused .isFolder
        | some item, _ => .ok ((tree.remove source).put (place ++ [name]) item)

end Iconsmith.Disk.Tree
