import Iconsmith.Charset.Pair
import Iconsmith.Charset.Chart.Big5
import Iconsmith.Charset.Chart.Cns11643
import Iconsmith.Charset.Chart.Hkscs

set_option autoImplicit false

/-!
# Traditional Chinese

One chart with its changes in a code page and in Hong Kong, and the first plane of the
national standard.
-/

namespace Iconsmith.Charset

/-- Second bytes of the chart. -/
def isBig5Trail (b : UInt8) : Bool := isWithin 0x40 0x7E b || isUpper b

/-- The character of a pair in the chart. -/
def big5? (a b : UInt8) : Option Char :=
  if isBig5Trail b then Chart.big5.char? (pairNumber a b) else none

/-- The chart. -/
def big5 : Charset := ofPairs isUpper ascii? big5?

/-- The place of a second byte among the 157 of a row. -/
def big5Place (b : UInt8) : Nat := if b.toNat < 0x7F then b.toNat - 0x40 else b.toNat - 0x62

/-- The character of a pair in an area that code page 950 leaves to users. -/
def taiwanesePrivate? (a b : UInt8) : Option Char :=
  let place := big5Place b
  private? 0xFA 5 0 157 0xE000 a.toNat place <|>
    private? 0x8E 19 0 157 0xE311 a.toNat place <|>
    private? 0x81 13 0 157 0xEEB8 a.toNat place <|>
    if isUpper b || a.toNat ≠ 0xC6 then private? 0xC6 3 0 157 (0xF6B1 - 63) a.toNat place else none

/-- The character of a pair in code page 950. -/
def cp950? (a b : UInt8) : Option Char :=
  if isBig5Trail b then
    taiwanesePrivate? a b <|> Chart.cp950.char? (pairNumber a b) <|> big5? a b
  else none

/-- Code page 950. -/
def cp950 : Charset := ofPairs (isWithin 0x81 0xFE) ascii? cp950?

/-- Pairs that stand for a letter and an accent after it. -/
def hkscsAccented : List (Nat × String) :=
  [(0x8862, "Ê\u0304"), (0x8864, "Ê\u030c"), (0x88A3, "ê\u0304"), (0x88A5, "ê\u030c")]

/-- The word of a pair in the chart of Hong Kong, which has two rows of its own. -/
def hkscsPair (a b : UInt8) : Word :=
  match hkscsAccented.lookup (pairNumber a b) with
  | some both => .chars both.toList
  | none =>
      let isOwn := 0xC6A1 ≤ pairNumber a b && pairNumber a b ≤ 0xC7FE
      .ofChar? (if isBig5Trail b then
        Chart.hkscs.char? (pairNumber a b) <|> if isOwn then none else big5? a b
      else none)

/-- The chart of Hong Kong. -/
def big5Hkscs : Charset :=
  ofWords fun
    | [b] => if isWithin 0x81 0xFE b then .part else .ofChar? (ascii? b)
    | [a, b] => hkscsPair a b
    | _ => .unknown

/-- The first plane of the national standard, in pairs of upper bytes or called for by number.
The planes of rarer characters, which can only be called for, are not in it. -/
def eucTw : Charset :=
  ofWords fun
    | [b] => if isUpper b || b = 0x8E then .part else .ofChar? (ascii? b)
    | [0x8E, plane] => if plane = 0xA1 then .part else .unknown
    | [a, b] => .ofChar? (upperPair? Chart.cns11643.char? a b)
    | [_, _, a] => if isUpper a then .part else .unknown
    | [_, _, a, b] => .ofChar? (upperPair? Chart.cns11643.char? a b)
    | _ => .unknown

end Iconsmith.Charset
