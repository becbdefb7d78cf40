import Iconsmith.Charset.Pair
import Iconsmith.Charset.Wide

set_option autoImplicit false

/-!
# Escaped character sets

These sets write the characters that are not ASCII by digits: of base 64 between a plus sign
and a hyphen, or of base 16 after a backslash.
-/

namespace Iconsmith.Charset

/-! ## Base 64 -/

/-- The value of a digit of base 64. -/
def digit64? (b : UInt8) : Option Nat :=
  if isWithin 0x41 0x5A b then some (b.toNat - 0x41)
  else if isWithin 0x61 0x7A b then some (b.toNat - 0x47)
  else if isWithin 0x30 0x39 b then some (b.toNat + 4)
  else if b = 0x2B then some 62
  else if b = 0x2F then some 63
  else none

/-- Bytes that stand for themselves outside the digits. -/
def isDirect (b : UInt8) : Bool :=
  b = 0x09 || b = 0x0A || b = 0x0D ||
    (isWithin 0x20 0x7D b && b ≠ 0x2B && b ≠ 0x5C)

/-- Where the reader of digits is: outside them, after a plus sign, or among them, with the bits
that are left over, their number, and whether digits were read since the last character. -/
inductive Base64State where
  | outside
  | afterPlus
  | inside (bits count : Nat) (isAmid : Bool)

/-- Takes a byte outside the digits. -/
def Base64State.outsideStep (b : UInt8) : Option (Text × Base64State) :=
  if b = 0x2B then some ([], .afterPlus)
  else if isDirect b then some ([Char.ofNat b.toNat], .outside)
  else none

/-- Takes six bits. A character is complete with sixteen bits, and with thirty-two when the first
sixteen are half of one. -/
def Base64State.digitStep (bits count digit : Nat) : Option (Text × Base64State) :=
  let all := 0x40 * bits + digit
  let count := count + 6
  if count < 16 then some ([], .inside all count true)
  else if count < 32 then
    let left := count - 16
    let (unit, rest) := parts all left
    if isFirstHalf unit || 0x10000 ≤ unit then some ([], .inside all count true)
    else (scalar? unit).map fun c => ([c], .inside rest left false)
  else
    let left := count - 32
    let (unit, rest) := parts all left
    (joinHalves? (unit / 0x10000) (unit % 0x10000)).map fun c => ([c], .inside rest left false)
where
  /-- The bits before the last ones, and the last ones. -/
  parts (all count : Nat) : Nat × Nat :=
    (all >>> count, all % (1 <<< count))

/-- Takes a byte. The bits that are left over at the end of the digits are zeros. -/
def Base64State.step (s : Base64State) (b : UInt8) : Option (Text × Base64State) :=
  match s, digit64? b with
  | .outside, _ => outsideStep b
  | .afterPlus, some digit => digitStep 0 0 digit
  | .afterPlus, none => if b = 0x2D then some (['+'], .outside) else outsideStep b
  | .inside bits count _, some digit => digitStep bits count digit
  | .inside bits _ isAmid, none =>
      if bits ≠ 0 || isAmid then none
      else if b = 0x2D then some ([], .outside)
      else outsideStep b

/-- UTF-7. -/
def utf7 : Charset :=
  Machine.charset {
    start := Base64State.outside
    step := Base64State.step
    finish := fun
      | .afterPlus | .inside _ _ true => none
      | _ => some [] }

/-! ## Base 16 -/

/-- The value of a digit of base 16. -/
def digit16? (b : UInt8) : Option Nat :=
  if isWithin 0x30 0x39 b then some (b.toNat - 0x30)
  else if isWithin 0x41 0x46 b then some (b.toNat - 0x37)
  else if isWithin 0x61 0x66 b then some (b.toNat - 0x57)
  else none

/-- The number of digits of base 16. -/
def number16? (bytes : List UInt8) : Option Nat :=
  (bytes.mapM digit16?).map fun digits => digits.foldl (fun n d => 0x10 * n + d) 0

/-- What the bytes after a backslash are: the escape of a character, the first part of one, or
none. -/
inductive EscapeReading where
  | char (c : Char)
  | part
  | none

/-- Four digits after `u`, and as many after a second backslash for a second half. -/
def halvesEscape : List UInt8 → EscapeReading
  | 0x75 :: bytes =>
      match number16? (bytes.take 4), bytes.drop 4 with
      | none, _ => .none
      | some n, rest =>
          if bytes.length < 4 then .part
          else if isFirstHalf n then
            match rest with
            | [] | [0x5C] => .part
            | 0x5C :: 0x75 :: digits =>
                match number16? digits with
                | none => .none
                | some m =>
                    if digits.length < 4 then .part
                    else match joinHalves? n m with
                      | some c => .char c
                      | none => .none
            | _ => .none
          else match scalar? n with
            | some c => .char c
            | none => .none
  | _ => .none

/-- Characters that are written by digits: none of ASCII, except three that are not in every
character set, and no control characters. -/
def isUniversal (n : Nat) : Bool := 0xA0 ≤ n || n = 0x24 || n = 0x40 || n = 0x60

/-- Four digits after `u`, or eight after `U`. -/
def universalEscape : List UInt8 → EscapeReading
  | [] => .part
  | kind :: digits =>
      let width := if kind = 0x75 then 4 else if kind = 0x55 then 8 else 0
      match number16? digits with
      | none => .none
      | some n =>
          if width = 0 then .none
          else if digits.length < width then .part
          else if isUniversal n then
            match scalar? n with
            | some c => .char c
            | none => .none
          else .none

/-- The machine that reads escapes. A backslash that does not begin one stands for itself, and so
do the bytes after it, up to the number `limit`. It holds the bytes from a backslash on. -/
def escapeMachine (read : List UInt8 → EscapeReading) (limit : Nat) : Machine (List UInt8) where
  start := []
  step := fun held b =>
    let char (b : UInt8) := Char.ofNat b.toNat
    let plainly (before : List UInt8) : Option (Text × List UInt8) :=
      if b = 0x5C then some (before.map char, [b])
      else if b.toNat < limit then some (before.map char ++ [char b], [])
      else none
    match held with
    | [] => plainly []
    | _ :: bytes =>
        match read (bytes ++ [b]) with
        | .char c => some ([c], [])
        | .part => some ([], held ++ [b])
        | .none => plainly held
  finish := fun held => if held = [] then some [] else none

/-- Escapes of halves of characters. Every other byte stands for itself. -/
def halvesEscaped : Charset := (escapeMachine halvesEscape 0x100).charset

/-- Escapes of whole characters, beside ASCII and the controls after it. -/
def universallyEscaped : Charset := (escapeMachine universalEscape 0xA0).charset

end Iconsmith.Charset
