import Iconsmith.Assets.Source
import Iconsmith.Catalog.Entry

set_option autoImplicit false

/-!
# Loading assets

The raw drawings of an asset tree, by icon and by weight. In the weight layout the
folder gives the weight and the file the icon; in the icon layout the folder gives
the icon and the end of the file name the weight.
-/

namespace Iconsmith.Assets

/-- The drawings of one icon by weight. -/
abbrev Record := Table Weight Text

/-- The records of icons by slug. -/
abbrev IconTable := Table Text Record

/-- Adds a drawing to the record of an icon, which is made if there is none. -/
def addDrawing (icons : IconTable) (slug : Text) (weight : Weight) (drawing : Text) : IconTable :=
  icons.set slug (((icons.get? slug).getD Table.empty).set weight drawing)

/-! ## Weight layout -/

/-- The names that the file of an icon may have in the folder of a weight; the first
that exists counts. -/
def candidates (weight : Weight) (slug : Text) : List Text :=
  [slug ++ weight.fileSuffix ++ ending, slug ++ ending]

/-- The first of some paths that leads to a file. -/
def firstFile (tree : Disk.Tree) : List Disk.Path → Except Disk.AccessFault (Option Disk.Path)
  | [] => .ok none
  | path :: more => do
      if ← tree.isFile path then return some path else firstFile tree more

/-- Looks up the file of a catalog entry in the folder of a weight. -/
def loadEntry (tree : Disk.Tree) (folder : Disk.Path) (weight : Weight) (icons : IconTable)
    (entry : Entry) : Loading IconTable := do
  let paths := (candidates weight entry.slug).map fun name => folder.join (Disk.Path.ofText name)
  match ← accessing (firstFile tree paths) with
  | some path => return addDrawing icons entry.slug weight (← readSource tree path)
  | none =>
      Outcome.report [.absent weight entry.slug folder]
      return icons

/-- Reads a file of the folder of a weight. -/
def loadListed (tree : Disk.Tree) (folder : Disk.Path) (weight : Weight) (icons : IconTable)
    (file : Text) : Loading IconTable := do
  let drawing ← readSource tree (folder.child file)
  return addDrawing icons (weight.stripSuffix (Disk.stem file)) weight drawing

/-- Loads the folder of a weight: the files of the catalog entries, or without a
catalog every source file. -/
def loadWeightFolder (tree : Disk.Tree) (root : Disk.Path) (catalog : Option (List Entry))
    (icons : IconTable) (name : Text) : Loading IconTable :=
  match Weight.ofName? name with
  | none => throw (.badFolder name)
  | some weight =>
      match catalog with
      | some entries => entries.foldlM (loadEntry tree (root.child name) weight) icons
      | none => do
          let files ← accessing (sources tree (root.child name))
          files.foldlM (loadListed tree (root.child name) weight) icons

/-- Loads the weight layout. With a catalog there is a row for each of its entries,
in its order, and otherwise one for each icon found, by slug. -/
def loadByWeight (tree : Disk.Tree) (root : Disk.Path) (catalog : Option (List Entry)) :
    Loading IconTable := do
  let start := Table.ofList ((catalog.getD []).map fun entry => (entry.slug, Table.empty))
  let folders ← accessing (subfolders tree root)
  let icons ← folders.foldlM (loadWeightFolder tree root catalog) start
  return if catalog.isSome then icons else icons.sortedByKey Text.atMost

/-! ## Icon layout -/

/-- The weight that a source file of an icon has: regular, unless its stem says
otherwise. -/
def weightOfFile (file : Text) : Weight :=
  (Weight.splitSuffix (Disk.stem file)).2.getD .regular

/-- Reads a file of the folder of an icon. -/
def loadVariant (tree : Disk.Tree) (folder : Disk.Path) (record : Record) (file : Text) :
    Loading Record := do
  if (record.get? (weightOfFile file)).isSome then
    Outcome.report [.repeated (weightOfFile file) folder.name file]
  return record.set (weightOfFile file) (← readSource tree (folder.child file))

/-- Loads the folder of an icon. -/
def loadIconFolder (tree : Disk.Tree) (root : Disk.Path) (icons : IconTable) (name : Text) :
    Loading IconTable := do
  let files ← accessing (sources tree (root.child name))
  let record ← files.foldlM (loadVariant tree (root.child name)) Table.empty
  return icons.set name record

/-- Loads the icon layout: one row for each visible folder, by name. -/
def loadByIcon (tree : Disk.Tree) (root : Disk.Path) : Loading IconTable := do
  let folders ← accessing (subfolders tree root)
  folders.foldlM (loadIconFolder tree root) Table.empty

/-! ## Either layout -/

/-- The layout of a tree: by weight if any visible folder is named after one. -/
def detectLayout (tree : Disk.Tree) (root : Disk.Path) : Except Disk.AccessFault Layout := do
  let folders ← subfolders tree root
  return if folders.any fun name => (Weight.ofName? name).isSome then .byWeight else .byIcon

/-- What is asked of the layout: a certain one, or to find out. -/
inductive LayoutChoice where
  | auto
  | always (layout : Layout)
  deriving DecidableEq

/-- The names of the choices in the order in which they are listed. -/
def layoutChoices : List (Text × LayoutChoice) :=
  [("auto".toList, .auto), (Layout.byWeight.name, .always .byWeight),
    (Layout.byIcon.name, .always .byIcon)]

/-- The choice with a name. -/
def LayoutChoice.ofName? (name : Text) : Option LayoutChoice := layoutChoices.lookup name

/-- Loads a tree in the layout chosen. The root is shown in the log as it was
written. -/
def load (tree : Disk.Tree) (root : Text) (catalog : Option (List Entry)) (choice : LayoutChoice) :
    Loading IconTable := do
  let path := Disk.Path.ofText root
  let layout ←
    match choice with
    | .always layout => pure layout
    | .auto => accessing (detectLayout tree path)
  Outcome.report [.loading root layout]
  match layout with
  | .byWeight => loadByWeight tree path catalog
  | .byIcon => loadByIcon tree path

/-- Loads the tree that is asked for. Without a root there is nothing to load, which is found out
after a certain layout has been noted. -/
def loadAsked (tree : Disk.Tree) (root : Option Text) (catalog : Option (List Entry)) :
    Option LayoutChoice → Loading IconTable
  | none => throw .noLayout
  | some choice =>
      match root, choice with
      | some root, _ => load tree root catalog choice
      | none, .auto => throw .noRoot
      | none, .always layout => do
          Outcome.report [.loading noValue layout]
          throw .noRoot

/-- Loads a tree in the layout with a name. -/
def loadNamed (tree : Disk.Tree) (root : Text) (catalog : Option (List Entry)) (layout : Text) :
    Loading IconTable :=
  match LayoutChoice.ofName? layout with
  | some choice => load tree root catalog choice
  | none => throw (.unknownLayout layout)

end Iconsmith.Assets
