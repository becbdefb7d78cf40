import Iconsmith.Catalog.File
import Iconsmith.CommandLine.Options
import Iconsmith.Elm.Demo
import Iconsmith.Generation
import Iconsmith.Output
import Iconsmith.Submodule

set_option autoImplicit false

/-!
# Runs

A run refreshes the sources, loads the catalog and the assets, generates the icons
and writes the module and the demo page. Every fault stops it; nothing is written
before all icons have been processed.
-/

namespace Iconsmith.Run

/-- What stops a run. -/
inductive Stop where
  | submodule (fault : Submodule.Fault)
  | catalog (path : Text) (fault : Catalog.Fault)
  | assets (fault : Assets.Fault)
  | drawing (fault : Drawing.Fault)
  | missingExpression
  | missingValue
  | output (fault : Output.Fault)
  deriving DecidableEq

/-- The headline for sources that cannot be read. -/
def unreadable : Text := "Could not read icon sources".toList

/-- How a stop is reported. Some faults are not expected, and are not reported but
end the program. -/
def Stop.report? : Stop → Option Report.Event
  | .submodule fault =>
      some (.failure "Could not update submodule @phosphor-icons/core".toList fault.message)
  | .catalog path fault => (fault.message? path).map fun message => .failure message []
  | .assets (.badFolder name) =>
      (Assets.Fault.message? (.badFolder name)).map fun message => .failure message []
  | .assets (.access (.refused r)) => some (.failure unreadable r.message)
  | .assets (.access .nul) | .assets (.unknownLayout _) | .assets .noLayout | .assets .noRoot
  | .drawing _ | .missingExpression | .missingValue => none
  | .output fault => fault.message?.map (.failure "Writing file failed".toList)

/-- A part of a run, with its reports. -/
abbrev Part (α : Type) := Outcome Report.Event Stop α

/-! ## Sources -/

/-- Refreshes the sources, unless that is to be skipped. -/
def refresh (ending : Submodule.Ending) (skip : Bool) : Part Unit :=
  if skip then return
  else
    match ending.fault? with
    | some fault => throw (.submodule fault)
    | none => Outcome.report [.success "Updated submodule @phosphor-icons/core".toList]

/-- The path of the catalog: the one asked for, unless it is empty, or else the one of
the settings if there is a file. -/
def catalogPath (tree : Disk.Tree) (standard : Disk.Path) (asked : Option Text) :
    Except Disk.AccessFault (Option Disk.Path) :=
  match asked with
  | some (c :: rest) => .ok (some (Disk.Path.ofText (c :: rest)))
  | _ =>
      match tree.isFile standard with
      | .ok true => .ok (some standard)
      | .ok false => .ok none
      | .error e => .error e

/-- Loads the catalog, if there is one. -/
def loadCatalog (tree : Disk.Tree) (standard : Disk.Path) (asked : Option Text) :
    Part (Option (List Entry)) :=
  match catalogPath tree standard asked with
  | .error e => throw (.assets (.access e))
  | .ok none => return none
  | .ok (some path) =>
      match Catalog.load tree path.text with
      | .ok entries => return some entries
      | .error fault => throw (.catalog path.text fault)

/-- The record that tells that there is no catalog. -/
def noCatalog : Log.Record :=
  ⟨.info, .run, "No catalog manifest, deriving icon names from the asset tree".toList⟩

/-- The catalog, or without one the entries for the icons that were found. -/
def entriesFor (catalog : Option (List Entry)) (icons : Assets.IconTable) : Part (List Entry) :=
  match catalog with
  | some entries => return entries
  | none => do
      Outcome.report [.log noCatalog]
      return Catalog.ofSlugs icons.keys

/-! ## Outputs -/

/-- The outputs of a run. They need a name for the module, then an expression for every weight
of every icon, and then a path for each output. -/
def outputs (previews : Text) (args : CommandLine.Arguments) (batch : Generation.Batch) :
    Except Stop (List Output) :=
  match args.moduleName with
  | none => .error .missingValue
  | some name =>
      match Elm.moduleText? previews batch.icons name, args.output, args.demoOutput with
      | none, _, _ => .error .missingExpression
      | some text, some output, some demoOutput =>
          .ok [⟨Disk.Path.ofText output, text⟩,
            ⟨Disk.Path.ofText demoOutput, Elm.demoPage batch.names name⟩]
      | some _, _, _ => .error .missingValue

/-! ## Whole runs -/

/-- Everything before the writing: what is to be written, and the icons in it. -/
def prepare (s : Settings) (ending : Submodule.Ending) (args : CommandLine.Arguments)
    (tree : Disk.Tree) : Part (Generation.Batch × List Output) := do
  refresh ending args.skipSubmodule
  let catalog ← loadCatalog tree s.catalog args.catalog
  let icons ←
    (Assets.loadAsked tree args.assets catalog args.layout).map
      (fun note => Report.Event.log note.record) Stop.assets
  let entries ← entriesFor catalog icons
  let batch ←
    (Generation.generate entries icons args.limit).map Generation.Event.report Stop.drawing
  let outputs ← Outcome.of (outputs s.previews args batch)
  return (batch, outputs)

/-- A run: the tree that it leaves behind, and its outcome. -/
def run (s : Settings) (ending : Submodule.Ending) (args : CommandLine.Arguments)
    (tree : Disk.Tree) : Disk.Tree × Part Generation.Batch :=
  match prepare s ending args tree with
  | ⟨events, .error stop⟩ => (tree, ⟨events, .error stop⟩)
  | ⟨events, .ok (batch, outputs)⟩ =>
      match Output.write tree outputs with
      | (tree, some fault) => (tree, ⟨events, .error (.output fault)⟩)
      | (tree, none) => (tree, ⟨events, .ok batch⟩)

end Iconsmith.Run
