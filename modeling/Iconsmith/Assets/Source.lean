import Iconsmith.Disk.Tree
import Iconsmith.Log
import Iconsmith.Outcome
import Iconsmith.Weight

set_option autoImplicit false

/-!
# Source files

The files of an asset tree and what is noted while they are read. A source file is
read as UTF-8; bytes that are not become replacement characters, which is noted,
and the reading goes on.
-/

namespace Iconsmith.Assets

/-- How an asset tree is laid out: a folder for each weight, or one for each icon. -/
inductive Layout where
  | byWeight
  | byIcon
  deriving DecidableEq

/-- The name of a layout. -/
def Layout.name : Layout → Text
  | .byWeight => "weight".toList
  | .byIcon => "icon".toList

/-- What is noted while assets are loaded. -/
inductive Note where
  | loading (root : Text) (layout : Layout)
  | absent (weight : Weight) (slug : Text) (folder : Disk.Path)
  | repeated (weight : Weight) (folder file : Text)
  | replaced (path : Text) (fault : Text.Utf8.Fault)
  deriving DecidableEq

/-- The log record of a note. -/
def Note.record : Note → Log.Record
  | .loading root layout =>
      ⟨.info, .assets, "Loading icons from ".toList ++ root ++ " (".toList ++ layout.name ++
        " layout)".toList⟩
  | .absent weight slug folder =>
      ⟨.debug, .assets, "No ".toList ++ weight.name ++ " file for ".toList ++ slug ++
        " in ".toList ++ folder.text⟩
  | .repeated weight folder file =>
      ⟨.warning, .assets, "Duplicate ".toList ++ weight.name ++ " file for ".toList ++ folder ++
        ": ".toList ++ file⟩
  | .replaced path fault =>
      ⟨.warning, .assets, path ++ " is not valid UTF-8 (".toList ++ fault.reason.text ++
        " at byte ".toList ++ Text.ofNat fault.offset ++
        "), decoding with replacement".toList⟩

/-- Why assets cannot be loaded. A layout or a root that is asked for may have been left without
a value. -/
inductive Fault where
  | noLayout
  | noRoot
  | unknownLayout (name : Text)
  | badFolder (name : Text)
  | access (fault : Disk.AccessFault)
  deriving DecidableEq

/-- How the lack of a value is shown. -/
def noValue : Text := "[]".toList

/-- The complaint about a layout that is shown in some way. -/
def layoutComplaint (shown : Text) : Text :=
  "Unknown layout ".toList ++ shown ++ ", expected one of auto, weight, icon".toList

/-- The wording of faults that are reported. -/
def Fault.message? : Fault → Option Text
  | .noLayout => some (layoutComplaint noValue)
  | .noRoot => none
  | .unknownLayout name => some (layoutComplaint (Text.quoted name))
  | .badFolder name => some ("Bad folder name ".toList ++ name)
  | .access (.refused r) => some r.message
  | .access .nul => none

/-- Loading, with its notes. -/
abbrev Loading (α : Type) := Outcome Note Fault α

/-- An access to the tree as a step of loading. -/
def accessing {α : Type} (result : Except Disk.AccessFault α) : Loading α :=
  .of (result.mapError .access)

/-! ## Reading -/

/-- The text of some bytes, with a note on the first fault, if there is one. -/
def textOf (path : Text) (bytes : List UInt8) : List Note × Text :=
  match Text.Utf8.firstFault? bytes with
  | some fault => ([.replaced path fault], Text.Utf8.decode bytes)
  | none => ([], Text.Utf8.decode bytes)

/-- The text of the file at a path. -/
def readSource (tree : Disk.Tree) (path : Disk.Path) : Loading Text := do
  let bytes ← accessing (tree.read path)
  let (notes, text) := textOf path.text bytes
  Outcome.report notes
  return text

/-! ## Listing -/

/-- The visible folders in a folder, by name. -/
def subfolders (tree : Disk.Tree) (root : Disk.Path) : Except Disk.AccessFault (List Text) := do
  let names ← tree.list root
  let folders ← names.filterM fun name => tree.isFolder (root.child name)
  return (folders.filter fun name => name.head? ≠ some '.').mergeSort Text.atMost

/-- The ending of the names of source files. -/
def ending : Text := ".svg".toList

/-- The source files in a folder, by name. -/
def sources (tree : Disk.Tree) (folder : Disk.Path) : Except Disk.AccessFault (List Text) := do
  let names ← tree.list folder
  return (names.filter ending.isSuffixOf).mergeSort Text.atMost

end Iconsmith.Assets
