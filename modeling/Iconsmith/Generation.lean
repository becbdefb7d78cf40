import Iconsmith.Assets.Completeness
import Iconsmith.Drawing.Cleanup
import Iconsmith.Drawing.Read
import Iconsmith.Elm.Expression
import Iconsmith.Elm.Icon
import Iconsmith.Outcome
import Iconsmith.Report

set_option autoImplicit false

/-!
# Generating icons

An icon is generated when its record is complete and all its drawings can be read.
What prevents it is told: the weights that are missing, or each drawing that cannot
be read. Other icons are not affected. A fault that is not expected stops everything.
-/

namespace Iconsmith.Generation

/-- What is told while icons are generated. -/
inductive Event where
  | parsed (children : Nat)
  | incomplete (name : Text) (missing : List Weight)
  | malformed (name : Text) (weight : Weight) (message : Text)
  | unreadable (name : Text) (weight : Weight) (message : Text)
  | done (name : Text)
  deriving DecidableEq

/-- How an event is reported. -/
def Event.report : Event → Report.Event
  | .parsed children =>
      .log ⟨.debug, .drawing, "Parsed <svg> with ".toList ++ Text.ofNat children ++
        " child element(s)".toList⟩
  | .incomplete name missing =>
      .failure (name ++ " is missing weights".toList)
        (Text.joined [',', ' '] (missing.map Weight.name))
  | .malformed name weight message =>
      .failure (name ++ " is malformed (".toList ++ weight.name ++ [')']) message
  | .unreadable name weight message =>
      .failure (name ++ " could not be parsed (".toList ++ weight.name ++ [')']) message
  | .done name => .success ("DONE ".toList ++ name)

/-- A part of the generation of icons; a fault that is not expected stops it. -/
abbrev Part (α : Type) := Outcome Event Drawing.Fault α

/-! ## One icon -/

/-- The event of a drawing of an icon that cannot be read, if the fault is expected. -/
def faultEvent? (name : Text) (weight : Weight) (fault : Drawing.Fault) : Option Event :=
  match fault with
  | .otherRoot _ => fault.message?.map (.malformed name weight)
  | .unreadable _ => fault.message?.map (.unreadable name weight)

/-- The expression for a raw drawing. -/
def expressionOf (drawing : Text) : Except Drawing.Fault Text :=
  (Drawing.read (Drawing.clean drawing)).map Elm.element

/-- Reads a raw drawing of an icon, and gives its expression if it can be read. -/
def readDrawing (name : Text) (row : Weight × Text) : Part (Option (Weight × Text)) :=
  match Drawing.read (Drawing.clean row.2) with
  | .ok root => ⟨[.parsed root.children.length], .ok (some (row.1, Elm.element root))⟩
  | .error fault =>
      match faultEvent? name row.1 fault with
      | some event => ⟨[event], .ok none⟩
      | none => ⟨[], .error fault⟩

/-- Reads raw drawings of an icon one after another, and gives the expressions of those
that can be read. -/
def readDrawings (name : Text) : List (Weight × Text) → Part (List (Weight × Text))
  | [] => return []
  | row :: rows => do
      let first ← readDrawing name row
      let others ← readDrawings name rows
      return first.toList ++ others

/-- Generates an icon from its record. -/
def generateIcon (entry : Entry) (record : Assets.Record) : Part (Option Elm.Generated) :=
  if Assets.isComplete (Assets.keysOf record) then do
    let expressions ← readDrawings entry.camel record.rows
    if expressions.length = record.size then
      return some ⟨entry, Table.ofList expressions⟩
    else return none
  else ⟨[.incomplete entry.camel (Assets.missing (Assets.keysOf record))], .ok none⟩

/-! ## All icons -/

/-- The icons that were generated, and the numbers of entries that passed and that failed. -/
structure Batch where
  icons : List Elm.Generated
  passes : Nat
  failures : Nat

/-- The names of the functions of the icons. -/
def Batch.names (b : Batch) : List Text := b.icons.map fun icon => icon.entry.camel

/-- The entries to process: the first ones up to a positive limit, or else all. -/
def limited (limit : Option Int) (entries : List Entry) : List Entry :=
  match limit with
  | some (.ofNat (n + 1)) => entries.take (n + 1)
  | _ => entries

/-- Generates the icons of some entries in their order. An entry without a record has
an empty one. -/
def generateEach (icons : Assets.IconTable) : List Entry → Part Batch
  | [] => return ⟨[], 0, 0⟩
  | entry :: entries => do
      match ← generateIcon entry ((icons.get? entry.slug).getD Table.empty) with
      | some icon =>
          Outcome.report [.done entry.camel]
          let batch ← generateEach icons entries
          return ⟨icon :: batch.icons, batch.passes + 1, batch.failures⟩
      | none =>
          let batch ← generateEach icons entries
          return ⟨batch.icons, batch.passes, batch.failures + 1⟩

/-- Generates the icons of a catalog, as many as the limit allows. -/
def generate (catalog : List Entry) (icons : Assets.IconTable) (limit : Option Int) :
    Part Batch :=
  generateEach icons (limited limit catalog)

/-- The counts that conclude a run. -/
def summary (passes failures : Nat) : List Report.Event := [.succeeded passes, .failed failures]

end Iconsmith.Generation
