import Iconsmith.Markup.Doctype.Item

set_option autoImplicit false

/-!
# Document types

A document type names the root element and may declare entities, and attributes
with defaults, in an internal subset. What it declares outside is never fetched.
`Draft.take` takes the items of the subset one after another; the text of a parameter
entity is taken in its place, and is made of whole items.
-/

namespace Iconsmith.Markup

/-- What a document type declares, and the account of the document after it. -/
structure Doctype where
  entities : Entities
  rules : List AttributeRule
  account : Account

/-- The type of a document that declares nothing. -/
def Doctype.none : Doctype := ⟨Entities.none, [], Account.empty⟩

namespace Doctype

/-- What has been declared so far in a document that is declared to stand `alone` or not,
whose document type has the text `source`. -/
structure Draft where
  alone : Bool
  source : Text
  entities : Entities
  parameters : List (Text × Entity)
  rules : List AttributeRule
  elements : List Text
  formats : List Text
  account : Account

namespace Draft

/-- A draft with another account. -/
def withAccount (d : Draft) (a : Account) : Draft := { d with account := a }

/-- Records a complaint. -/
def complain (d : Draft) (c : Complaint) : Draft := d.withAccount (d.account.complain c)

/-- Records complaints. -/
def complainAll (d : Draft) (cs : List Complaint) : Draft :=
  d.withAccount (d.account.complainAll cs)

/-- The reading stops. -/
def stop {α : Type} (d : Draft) (s : Stop) : Except Stop α := d.account.complaints.stop s

/-! ## Entities -/

/-- Adds an entity unless one of its name is declared. -/
def addOnce (name : Text) (e : Entity) (table : List (Text × Entity)) : List (Text × Entity) :=
  if (table.lookup name).isSome then table else table ++ [(name, e)]

/-- Whether a text, as that of an entity, stands for a character that has a name of its
own: for the character itself, if it is no mark of markup, or for its number in two
digits. -/
def standsFor (c : Char) (t : Text) : Bool :=
  (t = [c] && c != '<' && c != '&') ||
    t == "&#".toList ++ Nat.toDigits 10 c.toNat ++ [';'] ||
      ((after? "&#x" t).any fun digits =>
        digits.map Char.toLower == Nat.toDigits 16 c.toNat ++ [';'])

/-- A document that names a parameter entity may leave entities to be declared outside,
unless it is declared to stand alone. -/
def afterParameter (d : Draft) : Draft :=
  { d with entities := ⟨d.entities.declared, !d.alone⟩ }

/-- A parameter entity that is not declared gives a warning, if it may be declared
outside. -/
def missParameter (d : Draft) : Except Stop Draft :=
  if d.alone then d.stop Option.none else .ok (d.complain .warning)

/-- Declares an entity. The first declaration counts, and the characters that have names
of their own keep them. -/
def declareEntity (d : Draft) (forContent : Bool) (name : Text) (e : Entity) : Draft :=
  if forContent then
    match namedChars.lookup name, e with
    | some c, .text t => if standsFor c t then d else d.complain .warning
    | some _, _ => d.complain .warning
    | Option.none, _ =>
        { d with
          entities := ⟨addOnce name e d.entities.declared, d.entities.mayBeOutside⟩ }
  else { d with parameters := addOnce name e d.parameters }

/-- Takes the declaration of an entity, whose text may name a parameter entity that is not
declared. -/
def takeEntity (d : Draft) (forContent : Bool) (name : Text) (e : Entity)
    (named : Option Text) : Except Stop Draft := do
  let d := if name.contains ':' then d.complain .error else d
  let d ←
    match named with
    | Option.none => .ok d
    | some parameter =>
        if (d.parameters.lookup parameter).isSome then d.stop Option.none
        else d.afterParameter.missParameter
  return d.declareEntity forContent name e

/-! ## Attributes -/

/-- The name of the attribute that holds an identifier in any document. -/
def identifierName : Text := "xml:id".toList

/-- The complaints about the declaration of an attribute after others: identifiers have
their own type, a default fits the type, only the first declaration counts, and an
element has one identifier. -/
def ruleComplaints (rules : List AttributeRule) (rule : AttributeRule) : List Complaint :=
  (if rule.name = identifierName && rule.type ≠ .identifier then [.error] else []) ++
    (if rule.preset.any fun parts => !rule.type.admits (plainText parts) then [.error] else []) ++
      if rules.any fun other => other.element = rule.element && other.name = rule.name then
        [.warning]
      else if rule.type = .identifier &&
          rules.any (fun other => other.element = rule.element && other.type = .identifier) then
        [.error]
      else []

/-- Checks the entities named in a default, at most `depth` deep. -/
def checkPreset (d : Draft) (depth : Nat) (preset : Option (List Part)) : Except Stop Draft :=
  let names := (preset.getD []).filterMap Part.entity?
  let fresh : Account := ⟨Table.empty, 0, d.account.complaints⟩
  match names.foldlM (d.entities.check depth) fresh with
  | Option.none => d.stop Option.none
  | some a => .ok (d.withAccount ⟨d.account.standings, d.account.spent, a.complaints⟩)

/-- Takes the declaration of an attribute. -/
def takeRule (depth : Nat) (d : Draft) (rule : AttributeRule) : Except Stop Draft := do
  let d ← d.checkPreset depth rule.preset
  let known := d.rules.any fun other => other.element = rule.element && other.name = rule.name
  let d := d.complainAll (ruleComplaints d.rules rule)
  return { d with rules := if known then d.rules else d.rules ++ [rule] }

/-! ## Element types and data formats -/

/-- Takes the declaration of an element type, of which there is one. -/
def takeElement (d : Draft) (name : Text) : Draft :=
  let d := if d.elements.contains name then d.complain .error else d
  { d with elements := name :: d.elements }

/-- Takes the declaration of a data format, of which there is one. -/
def takeFormat (d : Draft) (name : Text) : Draft :=
  let d := if name.contains ':' then d.complain .error else d
  let d := if d.formats.contains name then d.complain .error else d
  { d with formats := name :: d.formats }

/-! ## Parameter entities -/

/-- How much of the document type has been read when `left` characters are unread. -/
def read (d : Draft) (left : Nat) : Nat :=
  Text.Utf8.size (d.source.take (d.source.length - left))

/-- Takes the text of a parameter entity with a function that takes its items. -/
def takeText (takeItem : Draft → Item → Except Stop Draft) (d : Draft) (t : Text)
    (left : Nat) : Except Stop Draft :=
  let d := d.withAccount (d.account.spend (Text.Utf8.size t + Account.useCost))
  if d.account.isAffordable fun _ => d.read left then
    match items t with
    | (found, Option.none) =>
        (found.foldlM takeItem d).mapError (d.account.complaints.outward left)
    | (_, some _) => d.stop Option.none
  else d.stop Option.none

/-- Takes an item. Entities are followed at most `depth` deep. -/
def take (depth : Nat) (d : Draft) : Item → Except Stop Draft
  | .entity forContent name e named => d.takeEntity forContent name e named
  | .attributes rules => rules.foldlM (takeRule depth) d
  | .element name => .ok (d.takeElement name)
  | .dataFormat name => .ok (d.takeFormat name)
  | .comment => .ok d
  | .instruction target => .ok (d.complainAll (targetComplaints target))
  | .broken s => d.stop s
  | .parameter name left =>
      let d := d.afterParameter
      match d.parameters.lookup name with
      | Option.none => d.missParameter
      | some (.text t) =>
          match depth with
          | 0 => d.stop Option.none
          | depth + 1 => d.takeText (take depth) t left
      | some _ => .ok d

end Draft

/-! ## Whole document types -/

/-- How deep entities may be nested. -/
def maxNesting : Nat := 19

/-- Reads the internal subset of a document type after its opening bracket, and the end of
the document type. -/
def readSubset (draft : Draft) (t : Text) : Except Stop (Doctype × Text) := do
  let (found, after) := items t
  let d ← found.foldlM (Draft.take maxNesting) draft
  match after.bind fun rest => after? ">" (skipGap rest) with
  | some rest => return (⟨d.entities, d.rules, d.account⟩, rest)
  | Option.none => d.stop Option.none

/-- Reads a document type after its keyword up to its subset or its end, and tells whether a
part of it is outside. -/
def readHead (t : Text) : Except Stop (Bool × Text) := do
  let (_, afterName) ← readName (← orStop (gap? t))
  let afterName := skipGap afterName
  let isOutside := (after? "SYSTEM" afterName).isSome || (after? "PUBLIC" afterName).isSome
  let rest ←
    if isOutside then (readOutside false afterName).map Prod.snd else .ok afterName
  return (isOutside, skipGap rest)

/-- Reads a document type after its keyword. -/
def read (alone : Bool) (t : Text) : Except Stop (Doctype × Text) := do
  let (isOutside, rest) ← readHead t
  let entities : Entities := ⟨[], isOutside && !alone⟩
  match rest with
  | '>' :: rest => return (⟨entities, [], Account.empty⟩, rest)
  | '[' :: rest => readSubset ⟨alone, t, entities, [], [], [], [], Account.empty⟩ rest
  | _ => throw Option.none

end Doctype

end Iconsmith.Markup
