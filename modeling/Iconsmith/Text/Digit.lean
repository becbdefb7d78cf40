import Iconsmith.Text.Blank

set_option autoImplicit false

/-!
# Decimal digits

The decimal digits of all scripts of Unicode 14, which come in runs of ten from a
zero, and the reading of an integer written with them.
-/

namespace Iconsmith.Text

/-- The zeros that begin a run of ten decimal digits. -/
def zeros : List Nat :=
  [
    48, 1632, 1776, 1984, 2406, 2534, 2662, 2790, 2918, 3046, 3174, 3302, 3430, 3558, 3664, 3792,
    3872, 4160, 4240, 6112, 6160, 6470, 6608, 6784, 6800, 6992, 7088, 7232, 7248, 42528, 43216,
    43264, 43472, 43504, 43600, 44016, 65296, 66720, 68912, 69734, 69872, 69942, 70096, 70384,
    70736, 70864, 71248, 71360, 71472, 71904, 72016, 72784, 73040, 73120, 92768, 92864, 93008,
    120782, 120792, 120802, 120812, 120822, 123200, 123632, 125264, 130032
  ]

/-- The value of a decimal digit of any script. -/
def digitValue? (c : Char) : Option Nat :=
  if c.isDigit then some (c.toNat - '0'.toNat)
  else zeros.findSome? fun start =>
    if start ≤ c.toNat && c.toNat < start + 10 then some (c.toNat - start) else none

/-- Decimal digits of any script. -/
def isDigit (c : Char) : Bool := (digitValue? c).isSome

/-! ## Integers -/

/-- The greatest number of digits that an integer may be written with. -/
def maxDigits : Nat := 4300

/-- The values of the digits of a numeral, in order. One underscore may stand
between two digits. -/
def digitValues? : Text → Option (List Nat)
  | [] => none
  | [c] => (digitValue? c).map fun d => [d]
  | c :: '_' :: rest => do
      let d ← digitValue? c
      let more ← digitValues? rest
      return d :: more
  | c :: rest => do
      let d ← digitValue? c
      let more ← digitValues? rest
      return d :: more

/-- The number written by decimal digits, the most significant first. -/
def ofDigits (digits : List Nat) : Nat := digits.foldl (fun n d => 10 * n + d) 0

/-- A numeral without a sign, of at most `maxDigits` digits. -/
def toNat? (t : Text) : Option Nat := do
  let digits ← digitValues? t
  if digits.length ≤ maxDigits then return ofDigits digits else none

/-- An integer: blanks around it are ignored, and a sign may precede it. -/
def toInt? (t : Text) : Option Int :=
  match strip t with
  | '+' :: rest => (toNat? rest).map Int.ofNat
  | '-' :: rest => (toNat? rest).map fun n => -(n : Int)
  | rest => (toNat? rest).map Int.ofNat

end Iconsmith.Text
