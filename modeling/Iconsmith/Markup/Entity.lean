import Iconsmith.Markup.Complaint
import Iconsmith.Markup.Value
import Iconsmith.Table
import Iconsmith.Text.Utf8

set_option autoImplicit false

/-!
# Entities

An entity is a name for a text. The text is checked when the entity is first used in
a value, and where it was first used decides what it stands for ever after: in
content line ends become line feeds, in values the text stays as it is. The account
of a document keeps what is known of the entities used, and how much text they have
stood for, which must stay in proportion to the text of the document.
-/

namespace Iconsmith.Markup

/-- What an entity stands for: its text, or something outside the document, which
is never fetched and may not even be markup. -/
inductive Entity where
  | text (t : Text)
  | outside
  | unparsed
  deriving DecidableEq

/-- How a document deals with entities: those declared, and whether one that is
not declared here may be declared outside. -/
structure Entities where
  declared : List (Text × Entity)
  mayBeOutside : Bool
  deriving DecidableEq

namespace Entities

/-- A document without declarations. -/
def none : Entities := ⟨[], false⟩

/-- The text of an entity, if it has one. -/
def text? (e : Entities) (name : Text) : Option Text :=
  match e.declared.lookup name with
  | some (.text t) => some t
  | _ => .none

end Entities

/-! ## Texts of entities -/

/-- Reads the text of an entity as parts; white space stays as it is. `skip` counts the
characters of a reference that has been read. -/
def heldPartsFrom : Nat → Text → Option (List Part)
  | _, [] => some []
  | skip + 1, _ :: rest => heldPartsFrom skip rest
  | 0, c :: rest =>
      if c = '&' then
        match readHeldReference rest with
        | .ok (part, after) =>
            (heldPartsFrom (rest.length - after.length) rest).map (part :: ·)
        | .error _ => none
      else (heldPartsFrom 0 rest).map (.char c :: ·)

/-- The parts of the text of an entity. -/
def heldParts? (t : Text) : Option (List Part) := heldPartsFrom 0 t

/-- How the line ends of a text are taken once it stands for an entity. -/
inductive LineEnds where
  | kept
  | unified
  deriving DecidableEq

/-! ## Accounts -/

/-- What is known of an entity that has been used: how much text it stands for, whether
it has been checked for values, and how its line ends are taken, if that is settled. -/
structure Standing where
  size : Nat
  checked : Bool
  lineEnds : Option LineEnds
  deriving DecidableEq

/-- The account of a document: what is known of entities, how much text those used have
stood for, and the complaints. -/
structure Account where
  standings : Table Text Standing
  spent : Nat
  complaints : Complaints

namespace Account

/-- The account at the start. -/
def empty : Account := ⟨Table.empty, 0, Complaints.none⟩

/-- Records a complaint. -/
def complain (a : Account) (c : Complaint) : Account :=
  ⟨a.standings, a.spent, a.complaints.add c⟩

/-- Records complaints. -/
def complainAll (a : Account) (cs : List Complaint) : Account :=
  ⟨a.standings, a.spent, a.complaints.addAll cs⟩

/-- What is known of an entity. -/
def standing (a : Account) (name : Text) : Standing :=
  (a.standings.get? name).getD ⟨0, false, none⟩

/-- Records what is known of an entity. -/
def set (a : Account) (name : Text) (s : Standing) : Account :=
  ⟨a.standings.set name s, a.spent, a.complaints⟩

/-- The text that every use of an entity counts as, beside that which it stands for. -/
def useCost : Nat := 20

/-- The cost of using entities. -/
def costOf (a : Account) (names : List Text) : Nat :=
  names.foldl (fun cost name => cost + ((a.standing name).size + useCost)) 0

/-- The text that entities may stand for in any document. -/
def freeSize : Nat := 1000000

/-- How many times larger than the document the text may be that entities stand for. -/
def maxFactor : Nat := 5

/-- Whether the text spent is in proportion to that which has been read. -/
def isAffordable (a : Account) (read : Unit → Nat) : Bool :=
  a.spent ≤ freeSize || a.spent / maxFactor ≤ read ()

/-- Spends the cost of uses. -/
def spend (a : Account) (cost : Nat) : Account := ⟨a.standings, a.spent + cost, a.complaints⟩

end Account

namespace Entities

/-! ## Checking for values -/

/-- The entities of which some text is declared. -/
def withText (e : Entities) (names : List Text) : List Text :=
  names.filter fun name => (e.text? name).isSome

/-- The entities named in the text of an entity, if the text may stand in a value. -/
def namesIn? (t : Text) : Option (List Text) :=
  if t.contains '<' then .none
  else (heldParts? t).map fun parts => parts.filterMap Part.entity?

/-- Checks that an entity may be used in a value: it and those it names, at most `depth`
deep, have texts without markup. An entity that may be declared outside gives a
warning. -/
def check (e : Entities) : Nat → Account → Text → Option Account
  | depth, a, name =>
      match e.declared.lookup name with
      | .none => if e.mayBeOutside then some (a.complain .warning) else .none
      | some .outside | some .unparsed => .none
      | some (.text t) =>
          if (a.standing name).checked then some a
          else
            match depth with
            | 0 => .none
            | depth + 1 =>
                match namesIn? t with
                | .none => .none
                | some names =>
                    (names.foldlM (check e depth) a).map fun a =>
                      a.set name ⟨Text.Utf8.size t + a.costOf (e.withText names), true,
                        (a.standing name).lineEnds⟩

/-! ## Settling -/

/-- Settles how the line ends of an entity and of those it names are taken, if that is
still open. Entities are followed at most `depth` deep. -/
def settle (e : Entities) (ends : LineEnds) : Nat → Account → Text → Account
  | 0, a, _ => a
  | depth + 1, a, name =>
      match e.text? name with
      | .none => a
      | some t =>
          let s := a.standing name
          if s.lineEnds.isSome then a
          else
            (((heldParts? t).getD []).filterMap Part.entity?).foldl (settle e ends depth)
              (a.set name ⟨s.size, s.checked, some ends⟩)

/-! ## Expanding -/

/-- The text that an entity stands for. Entities are followed at most `depth` deep. -/
def expansion (e : Entities) (a : Account) : Nat → Text → Text
  | 0, _ => []
  | depth + 1, name =>
      match e.text? name with
      | .none => []
      | some t =>
          let t := if (a.standing name).lineEnds = some .unified then Text.withLineFeeds t else t
          ((heldParts? t).getD []).flatMap fun part =>
            match part with
            | .char c => [c]
            | .entity inner => expansion e a depth inner

/-- The text of a value. -/
def valueOf (e : Entities) (a : Account) (depth : Nat) (parts : List Part) : Text :=
  parts.flatMap fun part =>
    match part with
    | .char c => [c]
    | .entity name => expansion e a depth name

/-- The parts of the text of an entity, where white space that is written as itself
becomes spaces. -/
def spacedParts (t : Text) : List Part :=
  (heldParts? (t.map fun c => if isGap c then ' ' else c)).getD []

/-- The text that an entity stands for in the name of a namespace. -/
def spacedExpansion (e : Entities) : Nat → Text → List Part
  | 0, _ => []
  | depth + 1, name =>
      (spacedParts ((e.text? name).getD [])).flatMap fun part =>
        match part with
        | .char c => [.char c]
        | .entity inner => spacedExpansion e depth inner

/-- The parts of a value that names a namespace, all of them characters. -/
def namespaceParts (e : Entities) (depth : Nat) (parts : List Part) : List Part :=
  parts.flatMap fun part =>
    match part with
    | .char c => [.char c]
    | .entity name => spacedExpansion e depth name

end Entities

end Iconsmith.Markup
