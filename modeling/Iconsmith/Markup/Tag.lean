import Iconsmith.Markup.Identifier
import Iconsmith.Markup.Piece
import Iconsmith.Markup.Uri

set_option autoImplicit false

/-!
# Tags in their scope

An opening tag declares namespaces and carries attributes. `Tag.read` reads one in the
scope of the elements around it: it takes the attributes in order, with complaints about
names, values and declarations, and then finds the namespaces of all names. A name whose
space is not declared is kept with its space. The attributes of an element have distinct
names.
-/

namespace Iconsmith.Markup

/-- The names of the namespaces in scope by their spaces, innermost first; the default
namespace has no space. A space that stands for nothing is not declared. -/
abbrev Scope := List (Option Text × Text)

/-- The surroundings of a tag: the document type in force, the text being read, and how
deep entities may still be followed. -/
structure Surroundings where
  doctype : Doctype
  source : Text
  nesting : Nat

namespace Surroundings

/-- How much of the text has been read when `left` characters are unread. -/
def read (s : Surroundings) (left : Nat) : Nat :=
  Text.Utf8.size (s.source.take (s.source.length - left))

/-- The entities in force. -/
def entities (s : Surroundings) : Entities := s.doctype.entities

/-- The declaration in force of an attribute of an element. -/
def rule? (s : Surroundings) (element name : Text) : Option AttributeRule :=
  s.doctype.rules.find? fun rule => rule.element = element && rule.name = name

/-- The attributes that are declared with a default for an element. -/
def presets (s : Surroundings) (element : Text) : List (Text × Text) :=
  s.doctype.rules.filterMap fun rule =>
    if rule.element = element then
      rule.preset.map fun parts => (rule.name, plainText parts)
    else none

end Surroundings

/-! ## Namespaces -/

/-- The space that is always in scope. -/
def xmlSpace : Text := "xml".toList

/-- The namespace of the space `xml`. -/
def xmlNamespace : Text := "http://www.w3.org/XML/1998/namespace".toList

/-- The space of declarations. -/
def declarationSpace : Text := "xmlns".toList

/-- The namespace of declarations, which cannot be declared. -/
def declarationNamespace : Text := "http://www.w3.org/2000/xmlns/".toList

/-- The namespace of a space that an attribute is written with. -/
def Scope.namespace? (scope : Scope) (space : Text) : Option Text :=
  if space = xmlSpace then some xmlNamespace else scope.lookup (some space)

/-- The namespace of the elements of a space. One without a name is none. -/
def Scope.elementNamespace? (scope : Scope) (space : Option Text) : Option Text :=
  (if space = some xmlSpace then some xmlNamespace else scope.lookup space).filter (· ≠ [])

/-- The wording of the complaint about a namespace that no URI names. -/
def badUri (written uri : Text) : Text := written ++ ": '".toList ++ uri ++ "' is not".toList

/-- The complaints about the declaration of the default namespace, and whether it is made
in spite of them. Its name should be a URI, not a relative reference. -/
def judgeDefault (uri : Text) (left : Nat) : List Complaint × Bool :=
  if uri = [] then ([], true)
  else
    let form : List Complaint :=
      if Uri.isAbsolute uri then []
      else if Uri.isRelative uri then [.warning]
      else [⟨.error, noteOf (badUri declarationSpace uri ++ " a valid URI".toList) left⟩]
    if uri = xmlNamespace || uri = declarationNamespace then (form ++ [.error], false)
    else (form, true)

/-- The complaints about the declaration of a space, and whether it is made in spite of
them. -/
def judgeSpace (space uri : Text) (left : Nat) : List Complaint × Bool :=
  if space = xmlSpace then (if uri = xmlNamespace then [] else [.error], false)
  else if uri = xmlNamespace || space = declarationSpace || uri = declarationNamespace ||
      uri = [] then
    ([.error], false)
  else if Uri.isAbsolute uri || Uri.isRelative uri then ([], true)
  else
    ([⟨.error, noteOf (badUri (declarationSpace ++ ':' :: space) uri ++ " a valid URI".toList)
      left⟩], true)

/-- The space that an attribute declares, which is none for the default namespace. -/
def declared? (name : QName) : Option (Option Text) :=
  if name.space = some declarationSpace then some (some name.base)
  else if name = ⟨none, declarationSpace⟩ then some none
  else none

/-! ## Attributes in order -/

/-- An attribute that declares no namespace. -/
structure Attribute where
  raw : Text
  name : QName
  value : List Part
  deriving DecidableEq

/-- What the attributes of a tag have given so far: declared namespaces, the latest first,
and other attributes, the latest first. -/
structure Draft where
  bound : Scope
  attributes : List Attribute
  account : Account

namespace Draft

/-- The reading stops. -/
def stop {α : Type} (d : Draft) (s : Stop) : Except Stop α := d.account.complaints.stop s

/-- Takes the entities named in a value, whose text stands in it. -/
def takeEntities (s : Surroundings) (d : Draft) (value : List Part) (left : Nat) :
    Except Stop Draft :=
  let names := value.filterMap Part.entity?
  match names.foldlM (s.entities.check s.nesting) d.account with
  | none => d.stop none
  | some a =>
      let a := a.spend (a.costOf (s.entities.withText names))
      if names = [] || a.isAffordable fun _ => s.read left then .ok { d with account := a }
      else d.stop none

/-- The values that say how white space is to be handled. -/
def spaceValues : List Text := ["default".toList, "preserve".toList]

/-- The complaints about an attribute apart from those about its namespace. -/
def ownComplaints (name : QName) (value : List Part) : List Complaint :=
  if name = ⟨some xmlSpace, "space".toList⟩ && !spaceValues.contains (plainText value) then
    [.warning]
  else []

/-- Takes the declaration of a namespace. A tag declares a space once. -/
def takeDeclaration (s : Surroundings) (d : Draft) (space : Option Text) (words : Bool)
    (value : List Part) (left : Nat) : Except Stop Draft :=
  let parts := s.entities.namespaceParts s.nesting value
  let uri := plainText (if words then asWords parts else parts)
  let (complaints, made) :=
    match space with
    | none => judgeDefault uri left
    | some space => judgeSpace space uri left
  let d := { d with account := d.account.complainAll complaints }
  if !made then .ok d
  else if (d.bound.lookup space).isSome then d.stop none
  else .ok { d with bound := (space, uri) :: d.bound }

/-- Takes an attribute of an element. -/
def take (s : Surroundings) (element : Text) (d : Draft) (w : Written) : Except Stop Draft := do
  let type := ((s.rule? element w.raw).map AttributeRule.type).getD .free
  let value := type.normal w.value
  let name := QName.ofRaw w.raw
  let d :=
    if (QName.ofRaw? w.raw).isNone then { d with account := d.account.complain .error } else d
  let d ← d.takeEntities s value w.left
  let d := { d with account := d.account.complainAll (ownComplaints name value) }
  match declared? name with
  | some space => d.takeDeclaration s space (type ≠ .free) value w.left
  | none => return { d with attributes := ⟨w.raw, name, value⟩ :: d.attributes }

end Draft

/-! ## Names in their namespaces -/

/-- A local name with its namespace, if it is in one. -/
structure ExpandedName where
  space : Option Text
  base : Text
  deriving DecidableEq

/-- The expanded name of an attribute. Without a space, or in one that is not declared, it
is in no namespace. -/
def QName.expanded (scope : Scope) (q : QName) : ExpandedName :=
  ⟨q.space.bind scope.namespace?, q.base⟩

/-- Whether the space of an attribute is declared, if it has one. -/
def QName.isDeclared (scope : Scope) (q : QName) : Bool :=
  q.space.all fun space => (scope.namespace? space).isSome

/-- The errors for attributes of one expanded name, where `seen` holds those before with
their spaces. Nothing is given when the spaces agree too. -/
def clashes? : List (ExpandedName × Option Text) → List (ExpandedName × Option Text) →
    Option (List Complaint)
  | _, [] => some []
  | seen, (name, space) :: rest =>
      match seen.lookup name with
      | none => clashes? (seen ++ [(name, space)]) rest
      | some other => if other = space then none else (clashes? seen rest).map (.error :: ·)

/-- The errors for attributes with defaults: their spaces are declared, and they do not
clash with attributes that are written. -/
def presetErrors (scope : Scope) :
    List (ExpandedName × Option Text) → List QName → List Complaint
  | _, [] => []
  | seen, q :: rest =>
      let undeclared : List Complaint := if q.isDeclared scope then [] else [.error]
      match seen.lookup (q.expanded scope) with
      | none => undeclared ++ presetErrors scope (seen ++ [(q.expanded scope, q.space)]) rest
      | some other =>
          undeclared ++ (if other = q.space then [] else [.error]) ++ presetErrors scope seen rest

/-- A name of an attribute with a default, cut at its first colon. -/
def presetName (raw : Text) : QName :=
  match Text.cutFirst ':' raw with
  | some (c :: space, base) => ⟨some (c :: space), base⟩
  | _ => ⟨none, raw⟩

/-- The complaints about the names of a tag in their scope: spaces that are not declared,
names that clash, and the name of the element. Nothing is given when a name occurs
twice. -/
def nameComplaints? (scope : Scope) (element : QName) (names presets : List QName) :
    Option (List Complaint) := do
  let undeclared := (names.filter fun q => !q.isDeclared scope).map fun _ => Complaint.error
  let expanded := names.map fun q => (q.expanded scope, q.space)
  let clashing ← clashes? [] expanded
  if 1 < clashing.length && !names.Nodup then failure
  let own :=
    if element.space.isSome && (scope.elementNamespace? element.space).isNone then
      [Complaint.error]
    else []
  return undeclared ++ clashing ++ presetErrors scope expanded.eraseDups presets ++ own

/-! ## Identifiers -/

/-- Whether an attribute of an element holds an identifier. -/
def isIdentifying (s : Surroundings) (element : Text) (a : Attribute) : Bool :=
  a.raw = Doctype.Draft.identifierName ||
    (s.rule? element a.raw).any fun rule => rule.type = .identifier

/-- Takes an identifier of an element, which is used once in a document, where `left`
characters are unread. Only the attribute that holds identifiers in any document has to
hold one. -/
def takeIdentifier (left : Nat) (used : List Text × Complaints) (a : Attribute) :
    List Text × Complaints :=
  let (ids, complaints) := used
  match a.value.mapM Part.char? with
  | none => used
  | some id =>
      let complaints :=
        if a.raw = Doctype.Draft.identifierName && !isIdentifier id then
          complaints.add ⟨.error, noteOf
            ("xml:id : attribute value ".toList ++ id ++ " is not an NCName".toList) left⟩
        else complaints
      if id = [] || ids.contains id then
        (ids, complaints.add ⟨.error, noteOf
          ("ID ".toList ++ id ++ " already defined".toList) left⟩)
      else (id :: ids, complaints)

/-! ## Tags -/

/-- An opening tag that has been understood: the kept names of the element and of its
attributes with the values of these, the scope inside, and whether all names can be
told. -/
structure Tag where
  name : Text
  attributes : Table Text Text
  scope : Scope
  isTellable : Bool

/-- A local name, or the raw name when its space is not declared. -/
def keptName (namespace? : Option Text) (q : QName) (raw : Text) : Text :=
  if q.space.isSome && namespace?.isNone then raw else q.base

/-- Whether a kept name can be told apart from its namespace: neither holds the mark that
divides them. -/
def canTell (namespace? : Option Text) (kept : Text) : Bool :=
  !kept.contains ':' && namespace?.all fun uri => !uri.contains '}'

/-- The attributes of an element: a local name stands once, at its first place, with the
value of the last attribute. Attributes of one expanded name have the value of the
first. -/
def attributeTable (scope : Scope) (valueOf : List Part → Text) (attributes : List Attribute) :
    Table Text Text :=
  let named := attributes.map fun a =>
    let name := a.name.expanded scope
    ((name.space, keptName name.space a.name a.raw), a.value)
  Table.ofList (named.map fun (name, value) =>
    (name.2, valueOf ((named.lookup name).getD value)))

/-- What is left of a tag: the tag, the identifiers used so far, and the account. -/
structure TagResult where
  tag : Tag
  ids : List Text
  account : Account

/-- Reads the attributes of a tag in order. -/
def readAttributes (s : Surroundings) (account : Account) (raw : Text)
    (written : List Written) : Except Stop Draft :=
  let account := if (QName.ofRaw? raw).isNone then account.complain .error else account
  written.foldlM (Draft.take s raw) ⟨[], [], account⟩

/-- Reads an opening tag in a scope, with the identifiers used so far, where `left`
characters are unread at its end. -/
def Tag.read (s : Surroundings) (scope : Scope) (ids : List Text) (account : Account)
    (raw : Text) (written : List Written) (left : Nat) : Except Stop TagResult := do
  let draft ← readAttributes s account raw written
  let presets := (s.presets raw).map fun (name, value) => (presetName name, value)
  let presetScope : Scope := presets.filterMap fun (name, value) =>
    (declared? name).map fun space => (space, value)
  let scope := draft.bound ++ presetScope ++ scope
  let name := QName.ofRaw raw
  let attributes := draft.attributes.reverse
  let ownPresets := (presets.map Prod.fst).filter fun q => (declared? q).isNone
  let complaints ←
    match nameComplaints? scope name (attributes.map Attribute.name) ownPresets with
    | none => draft.stop none
    | some found => .ok (draft.account.complaints.addAll found)
  let (ids, complaints) :=
    (attributes.filter (isIdentifying s raw)).foldl (takeIdentifier left) (ids, complaints)
  let settled := (attributes.flatMap fun a => a.value.filterMap Part.entity?).foldl
    (s.entities.settle .kept Doctype.maxNesting) draft.account
  let account : Account := ⟨settled.standings, settled.spent, complaints⟩
  let namespace? := scope.elementNamespace? name.space
  let kept := keptName namespace? name raw
  let tellable := attributes.all fun a =>
    let expanded := a.name.expanded scope
    canTell expanded.space (keptName expanded.space a.name a.raw)
  return ⟨⟨kept, attributeTable scope (s.entities.valueOf account Doctype.maxNesting) attributes,
    scope, tellable && canTell namespace? kept⟩, ids, account⟩

end Iconsmith.Markup
