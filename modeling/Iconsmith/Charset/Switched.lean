import Iconsmith.Charset.Chinese
import Iconsmith.Charset.Japanese
import Iconsmith.Charset.Korean
import Iconsmith.Charset.Page.Standard
import Iconsmith.Charset.Taiwanese

set_option autoImplicit false

/-!
# Switched character sets

Some character sets keep to bytes that are ASCII. Marks among the bytes switch to a chart, in
which two bytes stand for a character, and back again.
-/

namespace Iconsmith.Charset

/-! ## Shelves -/

/-- A set of characters that can be switched to. -/
inductive Shelf where
  | ascii
  | latin
  | greek
  | roman
  | katakana
  | japanese
  | supplement
  | chinese
  | korean
  | taiwanese
  | taiwaneseSecond
  deriving DecidableEq

/-- The word of bytes from a shelf. Bytes of a pair are read as if they were upper ones. -/
def Shelf.word (s : Shelf) : List UInt8 → Word
  | [b] =>
      if b.toNat ≥ 0x80 then .unknown
      else match s with
        | .ascii => .ofChar? (ascii? b)
        | .latin => .ofChar? (some (Char.ofNat (b.toNat + 0x80)))
        | .greek => .ofChar? (Page.iso7.char? (b + 0x80))
        | .roman => .ofChar? (Page.iso646jp.char? b)
        | .katakana => .ofChar? (halfWidth? (b + 0x80))
        | _ => if isWithin 0x21 0x7E b then .part else .unknown
  | [a, b] =>
      let n := pairNumber a b
      if b.toNat ≥ 0x80 then .unknown
      else match s with
        | .japanese => .ofChar? (Chart.jisX0208.char? n)
        | .supplement => .ofChar? (Chart.jisX0212.char? n)
        | .chinese => .ofChar? (gb2312? (a + 0x80) (b + 0x80))
        | .korean => .ofChar? (Chart.ksX1001.char? n)
        | .taiwanese => .ofChar? (Chart.cns11643.char? n)
        | _ => .unknown
  | _ => .unknown

/-! ## Escapes -/

/-- Where a shelf is kept: in use, in use while the text is shifted, or at hand for a single
character. -/
inductive Slot where
  | usual
  | shifted
  | single

/-- An escape: the text after the escape byte, and the shelf that it puts into a slot. -/
structure Escape where
  text : String
  slot : Slot
  shelf : Shelf

/-- The escapes of a character set, and whether the end of a line clears the slots other than
the usual one. -/
structure Scheme where
  escapes : List Escape
  isByLine : Bool

/-- What is switched to: the shelf in each slot, whether the text is shifted, and the bytes of an
unfinished word. -/
structure Switches where
  usual : Shelf
  shifted : Option Shelf
  single : Option Shelf
  isShifted : Bool
  held : List UInt8

/-- The switches at the start of a text. -/
def Switches.start : Switches := ⟨.ascii, none, none, false, []⟩

/-- The switches after an escape. -/
def Switches.after (s : Switches) (e : Escape) : Switches :=
  match e.slot with
  | .usual => { s with usual := e.shelf, held := [] }
  | .shifted => { s with shifted := some e.shelf, held := [] }
  | .single => { s with single := some e.shelf, held := [] }

/-- The switches after a character. -/
def Switches.afterChar (scheme : Scheme) (s : Switches) (t : Text) : Switches :=
  if scheme.isByLine && (t == ['\n'] || t == ['\r']) then
    { s with shifted := none, single := none, held := [] }
  else { s with held := [] }

/-- Reads a word from a shelf. -/
def Switches.take (scheme : Scheme) (s : Switches) (shelf : Shelf) (word held : List UInt8) :
    Option (Text × Switches) :=
  match shelf.word word with
  | .chars t => some (t, s.afterChar scheme t)
  | .part => some ([], { s with held := held })
  | .unknown => none

/-- Takes the bytes after an escape byte: an escape, the first part of one, or the letter that
calls for a single character and the bytes of the character. -/
def Switches.escape (scheme : Scheme) (s : Switches) (bytes : List UInt8) :
    Option (Text × Switches) :=
  let textOf (e : Escape) := Text.Utf8.encode e.text.toList
  match scheme.escapes.find? fun e => textOf e == bytes with
  | some e => some ([], s.after e)
  | none =>
      match bytes, s.single with
      | [0x4E], some _ => some ([], { s with held := 0x1B :: bytes })
      | 0x4E :: word, some shelf => s.take scheme shelf word (0x1B :: bytes)
      | _, _ =>
          if scheme.escapes.any fun e => bytes.isPrefixOf (textOf e) then
            some ([], { s with held := 0x1B :: bytes })
          else none

/-- Takes a byte after those that are held. -/
def Switches.step (scheme : Scheme) (s : Switches) (b : UInt8) : Option (Text × Switches) :=
  match s.held ++ [b] with
  | [0x1B] => some ([], { s with held := [0x1B] })
  | 0x1B :: bytes => s.escape scheme bytes
  | [0x0E] => if s.shifted.isSome then some ([], { s with isShifted := true }) else none
  | [0x0F] => if s.shifted.isSome then some ([], { s with isShifted := false }) else none
  | word =>
      let shelf := if s.isShifted then s.shifted.getD .ascii else s.usual
      s.take scheme shelf word word

/-- The character set of a scheme. -/
def switched (scheme : Scheme) : Charset :=
  Machine.charset {
    start := Switches.start
    step := Switches.step scheme
    finish := fun s => if s.held = [] then some [] else none }

/-- The escapes of Japanese. -/
def japaneseEscapes : List Escape := [
  ⟨"(B", .usual, .ascii⟩, ⟨"(J", .usual, .roman⟩, ⟨"$@", .usual, .japanese⟩,
  ⟨"$B", .usual, .japanese⟩]

/-- Japanese by escapes. -/
def iso2022Jp : Charset := switched ⟨japaneseEscapes, false⟩

/-- Japanese by escapes, with the supplementary chart. -/
def iso2022Jp1 : Charset :=
  switched ⟨japaneseEscapes ++ [⟨"$(D", .usual, .supplement⟩], false⟩

/-- Japanese by escapes, with the charts of neighbours and with letters of Europe. -/
def iso2022Jp2 : Charset :=
  switched ⟨japaneseEscapes ++ [⟨"$(D", .usual, .supplement⟩, ⟨"$A", .usual, .chinese⟩,
    ⟨"$(C", .usual, .korean⟩, ⟨".A", .single, .latin⟩, ⟨".F", .single, .greek⟩], true⟩

/-- Japanese by escapes, with half-width Katakana. -/
def iso2022JpMs : Charset :=
  switched ⟨japaneseEscapes ++ [⟨"(I", .usual, .katakana⟩, ⟨"$(D", .usual, .supplement⟩], false⟩

/-- Korean by a shift. -/
def iso2022Kr : Charset := switched ⟨[⟨"$)C", .shifted, .korean⟩], false⟩

/-- Chinese by a shift. -/
def iso2022Cn : Charset :=
  switched ⟨[⟨"$)A", .shifted, .chinese⟩, ⟨"$)G", .shifted, .taiwanese⟩,
    ⟨"$*H", .single, .taiwaneseSecond⟩], true⟩

/-! ## Tildes -/

/-- The machine that reads Chinese between a tilde with an opening brace and one with a
closing brace, and bytes that stand for themselves elsewhere. It holds whether it is between the
braces, and the bytes of an unfinished word. -/
def tildeMachine : Machine (Bool × List UInt8) where
  start := (false, [])
  step := fun (isInside, held) b =>
    match isInside, held ++ [b] with
    | _, [0x7E] => some ([], isInside, [0x7E])
    | false, [0x7E, 0x7E] => some (['~'], false, [])
    | false, [0x7E, 0x7B] => some ([], true, [])
    | false, [0x7E, 0x0A] => some ([], false, [])
    | true, [0x7E, 0x7D] => some ([], false, [])
    | _, 0x7E :: _ => none
    | false, word => some (word.map fun b => Char.ofNat b.toNat, false, [])
    | true, word =>
        match Shelf.chinese.word word with
        | .chars t => some (t, true, [])
        | .part => some ([], true, word)
        | .unknown => none
  finish := fun (_, held) => if held = [] then some [] else none

/-- Chinese between tildes. -/
def hz : Charset := tildeMachine.charset

end Iconsmith.Charset
