import Iconsmith.Charset.Basic

set_option autoImplicit false

/-!
# Character sets of wide units

The units of these sets take two or four bytes, with the greatest byte first or last. A unit
of two bytes may be the first or the second half of a character.
-/

namespace Iconsmith.Charset

/-- The order of the bytes of a unit. -/
inductive ByteOrder where
  | greatestFirst
  | greatestLast

/-- The number that bytes make up. -/
def ByteOrder.number : ByteOrder → List UInt8 → Nat
  | .greatestFirst, bytes => bytes.foldl (fun n b => 0x100 * n + b.toNat) 0
  | .greatestLast, bytes => bytes.foldr (fun b n => b.toNat + 0x100 * n) 0

/-- The character of a number, if there is one. -/
def scalar? (n : Nat) : Option Char :=
  if n.isValidChar then some (Char.ofNat n) else none

/-- Units that are the first half of a character. -/
def isFirstHalf (n : Nat) : Bool := 0xD800 ≤ n && n < 0xDC00

/-- Units that are the second half of a character. -/
def isSecondHalf (n : Nat) : Bool := 0xDC00 ≤ n && n < 0xE000

/-- The character of two halves. -/
def joinHalves? (first second : Nat) : Option Char :=
  if isFirstHalf first && isSecondHalf second then
    scalar? (0x10000 + 0x400 * (first - 0xD800) + (second - 0xDC00))
  else none

/-- Units of two bytes, where a character may take two units. -/
def utf16 (order : ByteOrder) : Charset :=
  ofWords fun
    | [a, b] =>
        let n := order.number [a, b]
        if isFirstHalf n then .part else .ofChar? (scalar? n)
    | [a, b, c, d] => .ofChar? (joinHalves? (order.number [a, b]) (order.number [c, d]))
    | _ => .part

/-- Units of two bytes, each of which is a character. -/
def ucs2 (order : ByteOrder) : Charset :=
  ofWords fun
    | [a, b] => .ofChar? (scalar? (order.number [a, b]))
    | _ => .part

/-- Units of four bytes, each of which is a character. -/
def ucs4 (order : ByteOrder) : Charset :=
  ofWords fun
    | [a, b, c, d] => .ofChar? (scalar? (order.number [a, b, c, d]))
    | _ => .part

end Iconsmith.Charset
