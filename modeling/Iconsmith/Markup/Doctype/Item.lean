import Iconsmith.Markup.Aside
import Iconsmith.Markup.Doctype.Attribute
import Iconsmith.Markup.Doctype.Content
import Iconsmith.Markup.Entity

set_option autoImplicit false

/-!
# Items of an internal subset

An internal subset is cut into items: declarations, asides, and names of parameter
entities, whose text stands in their place. What the items mean together is decided
elsewhere.
-/

namespace Iconsmith.Markup

/-- An item of an internal subset. The text of an entity ends where it names a parameter
entity. What could not be read comes last. -/
inductive Item where
  | entity (forContent : Bool) (name : Text) (entity : Entity) (named : Option Text)
  | attributes (rules : List AttributeRule)
  | element (name : Text)
  | dataFormat (name : Text)
  | comment
  | instruction (target : Text)
  | parameter (name : Text) (left : Nat)
  | broken (stop : Stop)

/-! ## Identifiers of things outside -/

/-- Characters of a public identifier. -/
def isPublicChar (c : Char) : Bool :=
  c = ' ' || c = '\n' || c = '\r' || c.isAlphanum || "-'()+,./:=?;!*#@$_%".toList.contains c

/-- Reads a public identifier. -/
def publicLiteral? (t : Text) : Option Text :=
  match literal? t with
  | some (value, rest) => if value.all isPublicChar then some rest else none
  | none => none

/-- Reads the identifier of something outside the document, and gives its system
identifier. A public identifier needs a system identifier after it, unless
`publicAlone` lets it off. -/
def readOutside (publicAlone : Bool) (t : Text) : Except Stop (Text × Text) :=
  match after? "SYSTEM" t with
  | some rest => do readLiteral (← orStop (gap? rest))
  | none => do
      let rest ← orStop ((after? "PUBLIC" t).bind gap?)
      let rest ← orStop (publicLiteral? rest)
      match gap? rest with
      | none => if publicAlone then return ([], rest) else throw none
      | some after =>
          if publicAlone && after.head? != some '"' && after.head? != some '\'' then
            return ([], after)
          else readLiteral after

/-- Reads the end of a declaration. -/
def readClosing (t : Text) : Except Stop Text := orStop (after? ">" (skipGap t))

/-! ## Entities -/

/-- Reads the text of an entity: references to characters are resolved, other references
stay. A parameter entity may not be named here; the text ends before the name, which is
given. `skip` counts the characters of a reference that has been read. -/
def entityTextFrom : Nat → Text → Option (Text × Option Text)
  | _, [] => some ([], none)
  | skip + 1, _ :: rest => entityTextFrom skip rest
  | 0, c :: rest =>
      if c = '%' then
        match name? rest with
        | some (name, ';' :: _) => some ([], some name)
        | _ => none
      else if c = '&' then
        match readHeldReference rest with
        | .error _ => none
        | .ok (part, after) =>
            let length := rest.length - after.length
            let kept :=
              match part, rest with
              | .char d, '#' :: _ => [d]
              | _, _ => '&' :: rest.take length
            (entityTextFrom length rest).map fun (t, named) => (kept ++ t, named)
      else if isChar c then (entityTextFrom 0 rest).map fun (t, named) => (c :: t, named)
      else none

/-- The text of an entity from its literal, which holds no NUL character. -/
def entityText? (literal : Text) : Option (Text × Option Text) :=
  if literal.contains '\x00' then none else entityTextFrom 0 literal

/-- Reads a mark that an entity is not markup, if it is there, with the name of its
format, which may be missing. -/
def readUnparsed (t : Text) : Except Stop (Entity × Text) :=
  match (gap? t).bind (after? "NDATA") with
  | none => .ok (.outside, t)
  | some after => do
      let format ← orStop (gap? after)
      match readName format with
      | .ok (_, rest) => return (.unparsed, rest)
      | .error none => return (.unparsed, format)
      | .error s => throw s

/-- Reads what an entity stands for, and the parameter entity at which its text ends. Only
entities for content may name something that is not markup. Something outside is a whole
document, not a part of one. -/
def readDefinition (forContent : Bool) (t : Text) :
    Except Stop ((Entity × Option Text) × Text) :=
  match literal? t with
  | some (literal, rest) => do
      let (text, named) ← orStop (entityText? literal)
      return ((.text text, named), rest)
  | none => do
      let (system, rest) ← readOutside false t
      if system.contains '#' then throw none
      if forContent then
        let (entity, rest) ← readUnparsed rest
        return ((entity, none), rest)
      else return ((.outside, none), rest)

/-- A reading that tells nothing of a fault after a name with a colon, which is at fault
already. -/
def quietAfter {α : Type} (name : Text) (x : Except Stop α) : Except Stop α :=
  if name.contains ':' then x.mapError fun _ => none else x

/-- Reads the declaration of an entity after its keyword. -/
def readEntity (t : Text) : Except Stop (Item × Text) := do
  let t ← orStop (gap? t)
  let (forContent, t) :=
    match (after? "%" t).bind gap? with
    | some t => (false, t)
    | none => (true, t)
  let (name, t) ← readName t
  quietAfter name do
    let ((entity, named), t) ← readDefinition forContent (← orStop (gap? t))
    return (.entity forContent name entity named, ← readClosing t)

/-- Reads the declaration of a data format after its keyword. -/
def readDataFormat (t : Text) : Except Stop (Item × Text) := do
  let (name, t) ← readName (← orStop (gap? t))
  quietAfter name do
    let (_, t) ← readOutside true (← orStop (gap? t))
    return (.dataFormat name, ← readClosing t)

/-! ## Items -/

/-- The item for what has been read. -/
def asItem {α : Type} (item : α → Item) (x : Reading α) : Reading Item :=
  x.map fun found => (item found.1, found.2)

/-- Reads the name of a parameter entity after its percent sign. -/
def readParameter (t : Text) : Reading Item :=
  match readName t with
  | .ok (name, ';' :: rest) => .ok (.parameter name rest.length, rest)
  | .ok _ => .error none
  | .error s => .error s

/-- The readers of items, by what the items begin with. -/
def itemReaders : List (String × (Text → Reading Item)) :=
  [("%", readParameter), ("<!ENTITY", readEntity),
    ("<!ATTLIST", fun t => asItem .attributes (readAttributeList t)),
    ("<!ELEMENT", fun t => asItem .element (readElementType t)),
    ("<!NOTATION", readDataFormat), ("<!--", fun t => asItem (fun _ => .comment) (readComment t)),
    ("<?", fun t => asItem .instruction (readInstruction t))]

/-- Reads the item at the head of a text. -/
def Item.read (t : Text) : Reading Item :=
  match itemReaders.findSome? fun (opening, reader) => (after? opening t).map reader with
  | some reading => reading
  | none => .error none

/-- Cuts a text into items in a number of steps, up to the closing bracket; then what
follows it is given. -/
def itemsFrom : Nat → Text → List Item × Option Text
  | 0, _ => ([.broken none], none)
  | steps + 1, t =>
      match skipGap t with
      | [] => ([], none)
      | ']' :: rest => ([], some rest)
      | c :: rest =>
          match Item.read (c :: rest) with
          | .error s => ([.broken s], none)
          | .ok (item, rest) =>
              let (items, after) := itemsFrom steps rest
              (item :: items, after)

/-- Cuts a text into items. An item has at least one character, so the length of the text
is steps enough. -/
def items (t : Text) : List Item × Option Text := itemsFrom (t.length + 1) t

end Iconsmith.Markup
