import Iconsmith.Json.Value

set_option autoImplicit false

/-!
# Reading JSON

A reader for JSON documents that also takes `NaN`, `Infinity` and `-Infinity` as
numbers. A document that is not JSON is refused with a complaint and the place it
is about: `Json.Fault` keeps the unread text from that place on, and
`Json.Located.message` gives line, column and offset. Brackets may be nested
`Json.maxDepth` deep.

The reader recurses on a number of steps that `Json.read` takes from the length
of the document, so that it never runs out.

Strings are texts, and half of a surrogate pair that stands alone is no part of a
text: reading stops there (`Json.Fault.loneSurrogate`), and what a program makes of
such a string is left open.
-/

namespace Iconsmith.Json

/-! ## Complaints -/

/-- What is wrong at a place of a document. -/
inductive Complaint where
  | expectedValue
  | expectedComma
  | expectedColon
  | expectedName
  | extraData
  | unterminatedString
  | controlCharacter
  | badEscape
  | badUnicodeEscape
  | byteOrderMark
  deriving DecidableEq

/-- The wording of a complaint. -/
def Complaint.text : Complaint → Text
  | .expectedValue => "Expecting value".toList
  | .expectedComma => "Expecting ',' delimiter".toList
  | .expectedColon => "Expecting ':' delimiter".toList
  | .expectedName => "Expecting property name enclosed in double quotes".toList
  | .extraData => "Extra data".toList
  | .unterminatedString => "Unterminated string starting at".toList
  | .controlCharacter => "Invalid control character at".toList
  | .badEscape => "Invalid \\escape".toList
  | .badUnicodeEscape => "Invalid \\uXXXX escape".toList
  | .byteOrderMark => "Unexpected UTF-8 BOM (decode using utf-8-sig)".toList

/-- A complaint with the offset of the place it is about. -/
structure Located where
  complaint : Complaint
  offset : Nat
  deriving DecidableEq

/-- The complaint with its line, its column, both counted from one, and its offset
in the document. -/
def Located.message (document : Text) (l : Located) : Text :=
  let before := document.take l.offset
  let line := before.count '\n' + 1
  let column := (before.reverse.takeWhile (· ≠ '\n')).length + 1
  l.complaint.text ++ ": line ".toList ++ Text.ofNat line ++ " column ".toList ++
    Text.ofNat column ++ " (char ".toList ++ Text.ofNat l.offset ++ [')']

/-- Why reading stopped: the document is not JSON from the unread text `rest` on,
an integer has too many digits, brackets are nested too deep, or a string holds
half of a surrogate pair. -/
inductive Fault where
  | at (complaint : Complaint) (rest : Text)
  | hugeInteger
  | tooDeep
  | loneSurrogate
  deriving DecidableEq

/-- A value together with the unread text, or a fault. -/
abbrev Reading (α : Type) := Except Fault (α × Text)

/-! ## Tokens -/

/-- Blanks between tokens. -/
def isGap (c : Char) : Bool := c = ' ' || c = '\t' || c = '\n' || c = '\r'

/-- The text after the blanks at its start. -/
def skipGap (t : Text) : Text := t.dropWhile isGap

/-- The value of a hexadecimal digit. -/
def hexValue? (c : Char) : Option Nat :=
  if c.isDigit then some (c.toNat - '0'.toNat)
  else if 'a' ≤ c && c ≤ 'f' then some (c.toNat - 'a'.toNat + 10)
  else if 'A' ≤ c && c ≤ 'F' then some (c.toNat - 'A'.toNat + 10)
  else none

/-- The number written by four hexadecimal digits. -/
def unit? (a b c d : Char) : Option Nat := do
  return 0x1000 * (← hexValue? a) + 0x100 * (← hexValue? b) + 0x10 * (← hexValue? c) +
    (← hexValue? d)

/-- The character of a single 16-bit unit; half of a surrogate pair has none. -/
def charOfUnit? (n : Nat) : Option Char :=
  if 0xD800 ≤ n && n < 0xE000 then none else some (Char.ofNat n)

/-- The character of a surrogate pair. -/
def charOfPair? (high low : Nat) : Option Char :=
  if 0xD800 ≤ high && high < 0xDC00 && 0xDC00 ≤ low && low < 0xE000 then
    some (Char.ofNat (0x10000 + (high - 0xD800) * 0x400 + (low - 0xDC00)))
  else none

/-- The character that an escape stands for. -/
def escaped? : Char → Option Char
  | '"' => some '"'
  | '\\' => some '\\'
  | '/' => some '/'
  | 'b' => some '\x08'
  | 'f' => some '\x0c'
  | 'n' => some '\n'
  | 'r' => some '\r'
  | 't' => some '\t'
  | _ => none

/-- Puts a character before the string that follows it. -/
def consChar (c : Char) : Reading Text → Reading Text
  | .ok (s, rest) => .ok (c :: s, rest)
  | .error e => .error e

/-- The second half of a surrogate pair that begins with the unit `high`, if it
follows as an escape that is not the end of the text. -/
def pairedWith? (high : Nat) : Text → Option Char
  | '\\' :: 'u' :: a :: b :: c :: d :: _ :: _ => (unit? a b c d).bind (charOfPair? high)
  | _ => none

/-- Reads the rest of a string up to its closing quote. `start` is the text from
the opening quote on, and `skip` counts characters of an escape already taken. -/
def stringFrom (start : Text) : Nat → Text → Reading Text
  | _, [] => .error (.at .unterminatedString start)
  | skip + 1, _ :: rest => stringFrom start skip rest
  | 0, '"' :: rest => .ok ([], rest)
  | 0, '\\' :: 'u' :: rest =>
      match rest with
      | a :: b :: c :: d :: after =>
          match unit? a b c d, after with
          | some n, _ :: _ =>
              match pairedWith? n after with
              | some joined => consChar joined (stringFrom start 10 rest)
              | none =>
                  match charOfUnit? n with
                  | some single => consChar single (stringFrom start 4 rest)
                  | none => .error .loneSurrogate
          | _, _ => .error (.at .badUnicodeEscape ('u' :: rest))
      | _ => .error (.at .badUnicodeEscape ('u' :: rest))
  | 0, ['\\'] => .error (.at .unterminatedString start)
  | 0, '\\' :: c :: rest =>
      match escaped? c with
      | some e => consChar e (stringFrom start 0 rest)
      | none => .error (.at .badEscape ('\\' :: c :: rest))
  | 0, c :: rest =>
      if c.toNat < 0x20 then .error (.at .controlCharacter (c :: rest))
      else consChar c (stringFrom start 0 rest)

/-! ## Numbers -/

/-- The fraction and the exponent that may follow the digits of an integer: the
unread text after them, and whether there was either. -/
def afterFraction (t : Text) : Text × Bool :=
  let fraction : Text × Bool :=
    match t with
    | '.' :: d :: rest => if d.isDigit then (rest.dropWhile Char.isDigit, true) else (t, false)
    | _ => (t, false)
  let exponent : Text → Option Text := fun digits =>
    match digits with
    | d :: rest => if d.isDigit then some (rest.dropWhile Char.isDigit) else none
    | [] => none
  match fraction.1 with
  | e :: rest =>
      if e = 'e' || e = 'E' then
        let signed : Text :=
          match rest with
          | s :: more => if s = '+' || s = '-' then more else rest
          | [] => rest
        match exponent signed with
        | some after => (after, true)
        | none => fraction
      else fraction
  | [] => fraction

/-- The greatest number of digits of an integer. -/
def maxDigits : Nat := 4300

/-- Reads a number; `start` is the text from its sign on. A number begins with a
zero that no digit follows, or with another digit. -/
def numberFrom (start : Text) : Reading Json :=
  let unsigned : Text :=
    match start with
    | '-' :: rest => rest
    | _ => start
  match unsigned with
  | c :: rest =>
      if c.isDigit then
        let whole := if c = '0' then [] else rest.takeWhile Char.isDigit
        let (after, fractional) := afterFraction (rest.drop whole.length)
        if !fractional && maxDigits < whole.length + 1 then .error .hugeInteger
        else .ok (.number, after)
      else .error (.at .expectedValue start)
  | [] => .error (.at .expectedValue start)

/-- Reads a value written as a word, or a number. -/
def scalarFrom (t : Text) : Reading Json :=
  let word (spelling : String) (value : Json) : Option (Json × Text) :=
    (spelling.toList.isPrefixOf? t).map fun rest => (value, rest)
  let found := (word "null" .null).or <| (word "true" (.bool true)).or <|
    (word "false" (.bool false)).or <| (word "NaN" .number).or <|
    (word "Infinity" .number).or (word "-Infinity" .number)
  match found with
  | some reading => .ok reading
  | none => numberFrom t

/-! ## Values -/

/-- How deep brackets may be nested. -/
def maxDepth : Nat := 991

mutual

/-- Reads a value in which brackets are nested at most `depth` deep. -/
def valueFrom : Nat → Nat → Text → Reading Json
  | 0, _, t => .error (.at .expectedValue t)
  | steps + 1, depth, t =>
      match t with
      | '"' :: rest =>
          match stringFrom t 0 rest with
          | .ok (s, after) => .ok (.string s, after)
          | .error e => .error e
      | '[' :: rest =>
          match depth with
          | 0 => .error .tooDeep
          | depth + 1 =>
              match skipGap rest with
              | ']' :: after => .ok (.array [], after)
              | inner =>
                  match itemsFrom steps depth inner with
                  | .ok (items, after) => .ok (.array items, after)
                  | .error e => .error e
      | '\x7b' :: rest =>
          match depth with
          | 0 => .error .tooDeep
          | depth + 1 =>
              match skipGap rest with
              | '\x7d' :: after => .ok (.object [], after)
              | inner =>
                  match membersFrom steps depth inner with
                  | .ok (members, after) => .ok (.object members, after)
                  | .error e => .error e
      | _ => scalarFrom t

/-- Reads the items of an array, at least one, and the closing bracket. -/
def itemsFrom : Nat → Nat → Text → Reading (List Json)
  | 0, _, t => .error (.at .expectedValue t)
  | steps + 1, depth, t =>
      match valueFrom steps depth t with
      | .error e => .error e
      | .ok (item, rest) =>
          match skipGap rest with
          | ']' :: after => .ok ([item], after)
          | ',' :: more =>
              match itemsFrom steps depth (skipGap more) with
              | .ok (items, after) => .ok (item :: items, after)
              | .error e => .error e
          | other => .error (.at .expectedComma other)

/-- Reads the members of an object, at least one, and the closing brace. -/
def membersFrom : Nat → Nat → Text → Reading (List (Text × Json))
  | 0, _, t => .error (.at .expectedName t)
  | steps + 1, depth, t =>
      match t with
      | '"' :: rest =>
          match stringFrom t 0 rest with
          | .error e => .error e
          | .ok (name, rest) =>
              match skipGap rest with
              | ':' :: rest =>
                  match valueFrom steps depth (skipGap rest) with
                  | .error e => .error e
                  | .ok (value, rest) =>
                      match skipGap rest with
                      | '\x7d' :: after => .ok ([(name, value)], after)
                      | ',' :: more =>
                          match membersFrom steps depth (skipGap more) with
                          | .ok (members, after) => .ok ((name, value) :: members, after)
                          | .error e => .error e
                      | other => .error (.at .expectedComma other)
              | other => .error (.at .expectedColon other)
      | other => .error (.at .expectedName other)

end

/-- Why a document could not be read. -/
inductive Refusal where
  | syntactic (located : Located)
  | hugeInteger
  | tooDeep
  | loneSurrogate
  deriving DecidableEq

/-- Places a fault in its document. -/
def Fault.inDocument (document : Text) : Fault → Refusal
  | .at complaint rest => .syntactic ⟨complaint, document.length - rest.length⟩
  | .hugeInteger => .hugeInteger
  | .tooDeep => .tooDeep
  | .loneSurrogate => .loneSurrogate

/-- Reads a document: one value, with blanks around it and nothing else. -/
def read (document : Text) : Except Refusal Json :=
  match document with
  | '\ufeff' :: _ => .error (.syntactic ⟨.byteOrderMark, 0⟩)
  | _ =>
      match valueFrom (2 * document.length + 1) maxDepth (skipGap document) with
      | .error fault => .error (fault.inDocument document)
      | .ok (value, rest) =>
          match skipGap rest with
          | [] => .ok value
          | extra => .error ((Fault.at .extraData extra).inDocument document)

end Iconsmith.Json
