import Iconsmith.Markup.Scan

set_option autoImplicit false

/-!
# References and attribute values

An attribute value is written as characters and references. `readValue` reads it
up to its closing quote as a list of parts, in which white space has become
spaces and references to characters are resolved. References to entities stay; the
module on entities says what they stand for.
-/

namespace Iconsmith.Markup

/-- A part of a value: a character, or the name of an entity whose text stands
here. -/
inductive Part where
  | char (c : Char)
  | entity (name : Text)
  deriving DecidableEq

/-! ## References -/

/-- The characters that have names of their own. -/
def namedChars : List (Text × Char) :=
  [("lt".toList, '<'), ("gt".toList, '>'), ("amp".toList, '&'), ("quot".toList, '"'),
    ("apos".toList, '\'')]

/-- The character with a number, if a document may hold it. -/
def numberedChar? (n : Nat) : Option Char :=
  if n.isValidChar && isChar (Char.ofNat n) then some (Char.ofNat n) else none

/-- The value of a decimal digit. -/
def decimalDigit? (c : Char) : Option Nat :=
  if c.isDigit then some (c.toNat - '0'.toNat) else none

/-- The value of a hexadecimal digit. -/
def hexDigit? (c : Char) : Option Nat :=
  if c.isDigit then some (c.toNat - '0'.toNat)
  else if 'a' ≤ c && c ≤ 'f' then some (c.toNat - 'a'.toNat + 10)
  else if 'A' ≤ c && c ≤ 'F' then some (c.toNat - 'A'.toNat + 10)
  else none

/-- The value of a hexadecimal digit at a place in its numeral. Every eleventh digit is
a decimal one. -/
def hexDigitAt? (place : Nat) (c : Char) : Option Nat :=
  if place % 11 = 10 then decimalDigit? c else hexDigit? c

/-- Reads the digits of a reference to a character up to the semicolon; `value` is
the number written so far in `place` digits, and at least one digit is needed. -/
def digitsFrom (digit? : Nat → Char → Option Nat) (base : Nat) :
    Nat → Nat → Text → Option (Nat × Text)
  | _, _, [] => none
  | place, value, c :: rest =>
      match digit? place c with
      | none => none
      | some d =>
          match rest with
          | ';' :: after => some (base * value + d, after)
          | _ => digitsFrom digit? base (place + 1) (base * value + d) rest

/-- Reads a reference after its ampersand, where `hex?` reads hexadecimal digits. -/
def readReferenceWith (hex? : Nat → Char → Option Nat) (t : Text) : Reading Part :=
  match t with
  | '#' :: rest =>
      let number :=
        match rest with
        | 'x' :: digits => digitsFrom hex? 16 0 0 digits
        | digits => digitsFrom (fun _ => decimalDigit?) 10 0 0 digits
      match number with
      | some (n, after) =>
          match numberedChar? n with
          | some c => .ok (.char c, after)
          | none => .error none
      | none => .error none
  | _ =>
      match readName t with
      | .error s => .error s
      | .ok (name, ';' :: after) =>
          match namedChars.lookup name with
          | some c => .ok (.char c, after)
          | none => .ok (.entity name, after)
      | .ok _ => .error none

/-- Reads a reference in a document. -/
def readReference (t : Text) : Reading Part := readReferenceWith hexDigitAt? t

/-- Reads a reference in the text of an entity. -/
def readHeldReference (t : Text) : Reading Part := readReferenceWith (fun _ => hexDigit?) t

/-! ## Values -/

/-- Puts a part before those that follow it. -/
def consPart (p : Part) : Reading (List Part) → Reading (List Part)
  | .ok (parts, rest) => .ok (p :: parts, rest)
  | .error s => .error s

/-- Reads parts up to the closing quote. `skip` counts the characters of a reference
that has been read. -/
def partsFrom (close : Char) : Nat → Text → Reading (List Part)
  | _, [] => .error none
  | skip + 1, _ :: rest => partsFrom close skip rest
  | 0, c :: rest =>
      if c = close then .ok ([], rest)
      else if c = '<' then .error none
      else if c = '&' then
        match readReference rest with
        | .ok (part, after) => consPart part (partsFrom close (rest.length - after.length) rest)
        | .error s => .error s
      else if c = '\r' && rest.head? = some '\n' then partsFrom close 0 rest
      else if isGap c then consPart (.char ' ') (partsFrom close 0 rest)
      else if isChar c then consPart (.char c) (partsFrom close 0 rest)
      else .error none

/-- Reads a value between quotes. -/
def readValue (t : Text) : Reading (List Part) :=
  match t with
  | '"' :: rest => partsFrom '"' 0 rest
  | '\'' :: rest => partsFrom '\'' 0 rest
  | _ => .error none

/-! ## Parts -/

/-- The character that a part is, if it is one. -/
def Part.char? : Part → Option Char
  | .char c => some c
  | .entity _ => none

/-- The entity that a part names, if it does. -/
def Part.entity? : Part → Option Text
  | .char _ => none
  | .entity name => some name

/-- Characters name no entities. -/
theorem filterMap_entity?_map_char (v : Text) :
    (v.map Part.char).filterMap Part.entity? = [] := by
  induction v with
  | nil => rfl
  | cons c v ih => exact ih

/-- Parts as they may be written, where characters that would be taken for markup are
kept as they are. -/
def plainText (parts : List Part) : Text :=
  parts.flatMap fun part =>
    match part with
    | .char c => [c]
    | .entity name => '&' :: name ++ [';']

/-- The parts between spaces, without empty ones. -/
def partWords (parts : List Part) : List (List Part) :=
  (parts.splitOn (.char ' ')).filter (· ≠ [])

/-- Parts reduced to words with single spaces between them. -/
def asWords (parts : List Part) : List Part :=
  ((partWords parts).intersperse [.char ' ']).flatten

end Iconsmith.Markup
