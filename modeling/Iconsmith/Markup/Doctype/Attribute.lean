import Iconsmith.Markup.Value

set_option autoImplicit false

/-!
# Declared attributes

The attributes of elements may be declared with a type and a default. The type says
whether a value is taken as it is or as words, and what a default may be.
-/

namespace Iconsmith.Markup

/-- The types of attributes: any text, an identifier, names that refer to something, and
tokens. -/
inductive AttributeType where
  | free
  | identifier
  | name
  | names
  | token
  | tokens
  deriving DecidableEq

namespace AttributeType

/-- Whether a text is a token, which may begin with any character of names. -/
def isToken (t : Text) : Bool := t != [] && t.all isNameChar

/-- Whether a text consists of words of a kind with single spaces between them. -/
def areWords (isWord : Text → Bool) (t : Text) : Bool := (Text.fields ' ' t).all isWord

/-- Whether a text may be the default of an attribute of the type. -/
def admits (type : AttributeType) (t : Text) : Bool :=
  match type with
  | .free => true
  | .identifier | .name => isName t
  | .names => areWords isName t
  | .token => isToken t
  | .tokens => areWords isToken t

/-- A value as the type takes it: as words with single spaces between them, unless it is
any text. -/
def normal (type : AttributeType) (parts : List Part) : List Part :=
  if type = .free then parts else asWords parts

end AttributeType

/-- An attribute declared for the elements of a name, with its default. -/
structure AttributeRule where
  element : Text
  name : Text
  type : AttributeType
  preset : Option (List Part)
  deriving DecidableEq

/-! ## Types -/

/-- Reads names or tokens with bars between them and the closing parenthesis. -/
def readChoices (isItem : Text → Bool) : Nat → Text → Reading Unit
  | 0, _ => .error none
  | steps + 1, t =>
      let (item, rest) := (skipGap t).span isNameChar
      if (stopAt rest).isSome then .error (stopAt rest)
      else if !isItem item then .error none
      else
        match skipGap rest with
        | '|' :: more => readChoices isItem steps more
        | ')' :: more => .ok ((), more)
        | _ => .error none

/-- The types that have a keyword; a keyword that another begins with comes after it. -/
def typeKeywords : List (String × AttributeType) :=
  [("CDATA", .free), ("IDREFS", .names), ("IDREF", .name), ("ID", .identifier),
    ("ENTITY", .name), ("ENTITIES", .names), ("NMTOKENS", .tokens), ("NMTOKEN", .token)]

/-- Reads the type of an attribute. -/
def readType (t : Text) : Except Stop (AttributeType × Text) :=
  match typeKeywords.findSome? fun row => (after? row.1 t).map fun rest => (row.2, rest) with
  | some found => .ok found
  | none => do
      match after? "NOTATION" t with
      | some rest =>
          let choices ← orStop ((gap? rest).bind (after? "("))
          let (_, rest) ← readChoices isName choices.length choices
          return (.name, rest)
      | none =>
          let choices ← orStop (after? "(" t)
          let (_, rest) ← readChoices (· != []) choices.length choices
          return (.tokens, rest)

/-! ## Declarations -/

/-- Reads the default of an attribute. -/
def readPreset (t : Text) : Except Stop (Option (List Part) × Text) :=
  match (after? "#REQUIRED" t).or (after? "#IMPLIED" t) with
  | some rest => .ok (none, rest)
  | none => do
      let t ←
        match after? "#FIXED" t with
        | some rest => orStop (gap? rest)
        | none => .ok t
      let (parts, rest) ← readValue t
      return (some parts, rest)

/-- Reads the attributes declared for an element, up to the end of the declaration. -/
def readRules (element : Text) : Nat → Text → Except Stop (List AttributeRule × Text)
  | 0, _ => .error none
  | steps + 1, t =>
      match after? ">" (skipGap t) with
      | some rest => .ok ([], rest)
      | none => do
          let (name, t) ← readName (← orStop (gap? t))
          let (type, t) ← readType (← orStop (gap? t))
          let (preset, t) ← readPreset (← orStop (gap? t))
          let (rules, rest) ← readRules element steps t
          return (⟨element, name, type, preset.map type.normal⟩ :: rules, rest)

/-- Reads the declaration of attributes after its keyword. -/
def readAttributeList (t : Text) : Except Stop (List AttributeRule × Text) := do
  let (element, t) ← readName (← orStop (gap? t))
  readRules element (t.length + 1) t

end Iconsmith.Markup
