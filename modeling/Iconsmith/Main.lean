import Iconsmith.Disk.Difference
import Iconsmith.Program

set_option autoImplicit false

/-!
# Command line

The program as it is started from a shell. What is below the working directory is
read, folders with hidden names apart, the program is run on it, its texts are
printed, and what has changed is written back. No command is started from here, so
a refresh of the sources ends as when the command is not there.
-/

namespace Iconsmith.Main

/-- Reads an entry of a folder and everything below it into a tree, where `place` is
the place of the folder. -/
partial def readEntry (place : Disk.Place) (tree : Disk.Tree) (entry : IO.FS.DirEntry) :
    IO Disk.Tree := do
  let place := place ++ [entry.fileName.toList]
  if ← entry.path.isDir then
    if entry.fileName.startsWith "." then return tree
    (← entry.path.readDir).foldlM (readEntry place) (tree.put place .folder)
  else
    return tree.put place (.file (← IO.FS.readBinFile entry.path).toList)

/-- Reads the tree below the working directory. -/
def readTree : IO Disk.Tree := do
  (← (← IO.currentDir).readDir).foldlM (readEntry []) Disk.Tree.empty

/-- The path of a place, for the system. -/
def shown (place : Disk.Place) : String := String.ofList (Text.joined ['/'] place)

/-- Writes an item at a place. -/
def writeItem (place : Disk.Place) : Disk.Item → IO Unit
  | .folder => IO.FS.createDirAll (shown place)
  | .file bytes => IO.FS.writeBinFile (shown place) ⟨bytes.toArray⟩

/-- Turns the tree `before` below the working directory into the tree `after`. -/
def writeBack (before after : Disk.Tree) : IO Unit := do
  for (place, item) in Disk.Tree.written before after do writeItem place item
  for place in Disk.Tree.removed before after do IO.FS.removeFile (shown place)

/-- The values of those variables that are set. -/
def environment (names : List String) : IO (List (Text × Text)) :=
  names.filterMapM fun name => do
    return (← IO.getEnv name).map fun value => (name.toList, value.toList)

/-- What surrounds the program when it is started from a shell. Colour is wanted on a
terminal unless a variable says otherwise. -/
def surroundings : IO Program.Surroundings := do
  let values ← environment (Settings.variableNames ++ Telemetry.Settings.variableNames)
  let lookup? := fun name => values.lookup name
  let plain := ((← IO.getEnv "NO_COLOR").getD "") ≠ ""
  return {
    settings := Settings.ofEnvironment (Disk.Path.ofText []) lookup?
    telemetry := Telemetry.Settings.ofEnvironment lookup?
    submodule := .absent "git".toList
    colour := (← (← IO.getStdout).isTty) && !plain }

end Iconsmith.Main

/-- Runs the program on the words of a command line. -/
def main (words : List String) : IO UInt32 := do
  let around ← Iconsmith.Main.surroundings
  let tree ← Iconsmith.Main.readTree
  let effect := Iconsmith.Program.main around (words.map String.toList) .fresh tree
  IO.print (String.ofList effect.output)
  IO.eprint (String.ofList effect.errors)
  Iconsmith.Main.writeBack tree effect.tree
  match effect.exit with
  | .code n => return UInt32.ofNat n
  | .crash _ =>
      IO.eprintln "The program stopped on a fault that it does not report."
      return 1
