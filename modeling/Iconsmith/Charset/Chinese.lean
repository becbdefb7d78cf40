import Iconsmith.Charset.Pair
import Iconsmith.Charset.Chart.Gbk

set_option autoImplicit false

/-!
# Simplified Chinese

The first national standard is a part of the extended chart, with two signs of its own. The later
standard adds to the chart; its words of four bytes are left out, since they hold a digit where
text that has been encoded as UTF-8 cannot.
-/

namespace Iconsmith.Charset

/-- The numbers of the first standard, by rows from one number to another, and the columns of
these rows. -/
def firstStandard : List (Nat × Nat × Nat × Nat) := [
  (0xA1, 0xA1, 0xA1, 0xFE), (0xA2, 0xA2, 0xB1, 0xE2), (0xA2, 0xA2, 0xE5, 0xEE),
  (0xA2, 0xA2, 0xF1, 0xFC), (0xA3, 0xA3, 0xA1, 0xFE), (0xA4, 0xA4, 0xA1, 0xF3),
  (0xA5, 0xA5, 0xA1, 0xF6), (0xA6, 0xA6, 0xA1, 0xB8), (0xA6, 0xA6, 0xC1, 0xD8),
  (0xA7, 0xA7, 0xA1, 0xC1), (0xA7, 0xA7, 0xD1, 0xF1), (0xA8, 0xA8, 0xA1, 0xBA),
  (0xA8, 0xA8, 0xC5, 0xE9), (0xA9, 0xA9, 0xA4, 0xEF), (0xB0, 0xD6, 0xA1, 0xFE),
  (0xD7, 0xD7, 0xA1, 0xF9), (0xD8, 0xF7, 0xA1, 0xFE)]

/-- The character of a pair in the first standard. -/
def gb2312? (a b : UInt8) : Option Char :=
  if pairNumber a b = 0xA1A4 then some '\u30fb'
  else if pairNumber a b = 0xA1AA then some '―'
  else if firstStandard.any fun (row, lastRow, column, lastColumn) =>
      isWithin row lastRow a && isWithin column lastColumn b then
    Chart.gbk.char? (pairNumber a b)
  else none

/-- The character of a pair in an area that is left to users. The third area is beside the
others, in columns that are not upper ones. -/
def chinesePrivate? (a b : UInt8) : Option Char :=
  private? 0xAA 6 0xA1 94 0xE000 a.toNat b.toNat <|>
    private? 0xF8 7 0xA1 94 0xE234 a.toNat b.toNat <|>
    if b.toNat < 0x7F then private? 0xA1 7 0x40 96 0xE4C6 a.toNat b.toNat
    else if b.toNat = 0x7F then none
    else private? 0xA1 7 0x40 96 0xE4C6 a.toNat (b.toNat - 1)

/-- The first standard. -/
def eucCn : Charset := ofPairs isUpper ascii? gb2312?

/-- The extended chart. -/
def gbk : Charset :=
  ofPairs (isWithin 0x81 0xFE) ascii? fun a b => Chart.gbk.char? (pairNumber a b)

/-- Code page 936, with the euro sign and the areas of users. -/
def cp936 : Charset :=
  ofPairs (isWithin 0x81 0xFE) (fun b => if b = 0x80 then some '€' else ascii? b) fun a b =>
    Chart.gbk.char? (pairNumber a b) <|> chinesePrivate? a b

/-- The later standard. -/
def gb18030 : Charset :=
  ofPairs (isWithin 0x81 0xFE) ascii? fun a b =>
    Chart.gbk.char? (pairNumber a b) <|> Chart.gb18030.char? (pairNumber a b) <|>
      chinesePrivate? a b

end Iconsmith.Charset
