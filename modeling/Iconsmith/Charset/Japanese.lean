import Iconsmith.Charset.Page.Regional
import Iconsmith.Charset.Pair
import Iconsmith.Charset.Chart.Cp932
import Iconsmith.Charset.Chart.JisX0208
import Iconsmith.Charset.Chart.JisX0212

set_option autoImplicit false

/-!
# Japanese

Two ways of reading the chart of Japanese from bytes, one of which shifts its rows so that they
leave room for half-width Katakana, and a code page that changes the second.
-/

namespace Iconsmith.Charset

/-- The half-width Katakana of a byte. -/
def halfWidth? (b : UInt8) : Option Char :=
  if isWithin 0xA1 0xDF b then Page.jisX0201.char? b else none

/-! ## Upper bytes -/

/-- The character of a pair of upper bytes, the last rows of which are left to users. -/
def eucJpPair? (char? : Nat → Option Char) (start : Nat) (a b : UInt8) : Option Char :=
  if a.toNat < 0xF5 then upperPair? char? a b
  else private? 0xF5 10 0xA1 94 start a.toNat b.toNat

/-- Japanese in upper bytes. Two bytes call for half-width Katakana and for the supplementary
chart. -/
def eucJp : Charset :=
  ofWords fun
    | [b] => if isUpper b || b = 0x8E || b = 0x8F then .part else .ofChar? (ascii? b)
    | [0x8E, b] => .ofChar? (halfWidth? b)
    | [0x8F, _] => .part
    | [a, b] => .ofChar? (eucJpPair? Chart.jisX0208.char? 0xE000 a b)
    | [0x8F, a, b] => .ofChar? (eucJpPair? Chart.jisX0212.char? 0xE3AC a b)
    | _ => .unknown

/-! ## Shifted rows -/

/-- First bytes of shifted pairs. -/
def isShiftedLead (b : UInt8) : Bool := isWithin 0x81 0x9F b || isWithin 0xE0 0xFC b

/-- The place of the second byte of a shifted pair among 188, which are those of two rows. -/
def shiftedPlace? (b : UInt8) : Option Nat :=
  if isWithin 0x40 0x7E b then some (b.toNat - 0x40)
  else if isWithin 0x80 0xFC b then some (b.toNat - 0x41)
  else none

/-- The number in the chart of a shifted pair. -/
def unshifted? (a b : UInt8) : Option Nat :=
  (shiftedPlace? b).map fun place =>
    let rows := if a.toNat < 0xE0 then a.toNat - 0x81 else a.toNat - 0xC1
    0x100 * (0x21 + 2 * rows + place / 94) + (0x21 + place % 94)

/-- The character of a shifted pair in the chart. -/
def shifted? (a b : UInt8) : Option Char := (unshifted? a b).bind Chart.jisX0208.char?

/-- The character of a shifted pair in the area that is left to users. -/
def shiftedPrivate? (a b : UInt8) : Option Char :=
  (shiftedPlace? b).bind fun place => private? 0xF0 10 0 188 0xE000 a.toNat place

/-- Japanese in shifted rows, with the signs of the national set in place of two others. -/
def shiftJis : Charset :=
  ofPairs isShiftedLead Page.jisX0201.char? fun a b => shiftedPrivate? a b <|> shifted? a b

/-- Code page 932. -/
def cp932 : Charset :=
  ofPairs isShiftedLead (fun b => ascii? b <|> halfWidth? b) fun a b =>
    shiftedPrivate? a b <|> Chart.cp932.char? (pairNumber a b) <|> shifted? a b

end Iconsmith.Charset
