import Iconsmith.Charset.Basic

set_option autoImplicit false

/-!
# Pairs of bytes

Many character sets of Eastern Asia read most characters from two bytes. The first of them
says that a second one follows.
-/

namespace Iconsmith.Charset

/-- The number of two bytes. -/
def pairNumber (a b : UInt8) : Nat := 0x100 * a.toNat + b.toNat

/-- Bytes from one to another, both of them included. -/
def isWithin (least greatest : Nat) (b : UInt8) : Bool :=
  least ≤ b.toNat && b.toNat ≤ greatest

/-- The character set of single bytes and of pairs, where `isLead` says which bytes begin
a pair. -/
def ofPairs (isLead : UInt8 → Bool) (single? : UInt8 → Option Char)
    (pair? : UInt8 → UInt8 → Option Char) : Charset :=
  ofWords fun
    | [b] => if isLead b then .part else .ofChar? (single? b)
    | [a, b] => .ofChar? (pair? a b)
    | _ => .unknown

/-- Bytes of rows and columns of 94 places, in the upper half. -/
def isUpper : UInt8 → Bool := isWithin 0xA1 0xFE

/-- The pairs of upper bytes that stand for the characters of a chart whose rows and columns
are numbered in the lower half. -/
def upperPair? (char? : Nat → Option Char) (a b : UInt8) : Option Char :=
  if isUpper a && isUpper b then char? (pairNumber a b - 0x8080) else none

/-- Places of an area that is left to its users, in the private area of characters: rows from
`row`, of `width` columns from `column`, that begin at the number `start`. -/
def private? (row rows column width start : Nat) (a : Nat) (place : Nat) : Option Char :=
  if row ≤ a && a < row + rows && column ≤ place && place < column + width then
    some (Char.ofNat (start + width * (a - row) + (place - column)))
  else none

end Iconsmith.Charset
