import Iconsmith.Charset.Pair
import Iconsmith.Charset.Chart.KsX1001

set_option autoImplicit false

/-!
# Korean

The chart of Korean holds the frequent syllables. One code page adds the others in the order of
their numbers, another one spells each syllable by the numbers of its parts.
-/

namespace Iconsmith.Charset

/-- The character of a pair of upper bytes. -/
def ksX1001? : UInt8 → UInt8 → Option Char := upperPair? Chart.ksX1001.char?

/-- The chart. -/
def eucKr : Charset := ofPairs isUpper ascii? ksX1001?

/-! ## The rarer syllables -/

/-- The members of one list that are not in another, where both are in order. -/
def lacking : List Nat → List Nat → List Nat
  | [], _ => []
  | n :: rest, [] => n :: rest
  | n :: rest, m :: more => if n = m then lacking rest more else n :: lacking rest (m :: more)

/-- The number of the first syllable. -/
def firstSyllable : Nat := 0xAC00

/-- The syllables that are not in the chart, in the order of their numbers. -/
def rareSyllables : Array Nat :=
  let frequent := Chart.ksX1001.runs.filter fun run => 0x3021 ≤ run.1 && run.1 ≤ 0x487E
  (lacking (List.range' firstSyllable 11172)
    (frequent.flatMap fun run => run.2.toList.map Char.toNat)).toArray

/-- The place of the second byte of a rarer syllable among 178, which are the two alphabets and
the upper part. -/
def rarePlace? (b : UInt8) : Option Nat :=
  if isWithin 0x41 0x5A b then some (b.toNat - 0x41)
  else if isWithin 0x61 0x7A b then some (b.toNat - 0x47)
  else if isWithin 0x81 0xFE b then some (b.toNat - 0x4D)
  else none

/-- The character of a pair among the rarer syllables. Rows beside the chart are shorter. -/
def rareSyllable? (a b : UInt8) : Option Char :=
  (rarePlace? b).bind fun place =>
    let index :=
      if isWithin 0x81 0xA0 a then some (178 * (a.toNat - 0x81) + place)
      else if isWithin 0xA1 0xC6 a && place < 84 then
        some (178 * 32 + 84 * (a.toNat - 0xA1) + place)
      else none
    index.bind fun i => rareSyllables[i]?.map Char.ofNat

/-- Code page 949, with two rows that are left to users. -/
def cp949 : Charset :=
  ofPairs (isWithin 0x81 0xFE) ascii? fun a b =>
    rareSyllable? a b <|> private? 0xC9 1 0xA1 94 0xE000 a.toNat b.toNat <|>
      private? 0xFE 1 0xA1 94 0xE05E a.toNat b.toNat <|> ksX1001? a b

/-! ## Syllables by their parts -/

/-- The consonants that may begin a syllable, by the number of each. -/
def initials : Chart := ⟨[(2, "ㄱㄲㄴㄷㄸㄹㅁㅂㅃㅅㅆㅇㅈㅉㅊㅋㅌㅍㅎ")]⟩

/-- The vowels, by the number of each. -/
def medials : Chart := ⟨[(3, "ㅏㅐㅑㅒㅓ"), (10, "ㅔㅕㅖㅗㅘㅙ"), (18, "ㅚㅛㅜㅝㅞㅟ"), (26, "ㅠㅡㅢㅣ")]⟩

/-- The consonants that may end a syllable, by the number of each. -/
def finals : Chart := ⟨[(2, "ㄱㄲㄳㄴㄵㄶㄷㄹㄺㄻㄼㄽㄾㄿㅀㅁ"), (19, "ㅂㅄㅅㅆㅇㅈㅊㅋㅌㅍㅎ")]⟩

/-- The place of a character in a chart, counted from its first. -/
def placeOf (chart : Chart) (c : Char) : Nat :=
  (chart.runs.flatMap fun run => run.2.toList).idxOf c

/-- The character of three parts, where `1` stands for no consonant and `2` for no vowel. A final
consonant may stand alone when it cannot begin a syllable. -/
def syllable? (initial medial final : Nat) : Option Char :=
  match initials.char? initial, medials.char? medial, finals.char? final with
  | some i, some m, f =>
      if f.isNone && final ≠ 1 then none
      else
        let last := match f with
          | some c => placeOf finals c + 1
          | none => 0
        some (Char.ofNat (firstSyllable +
          28 * (21 * placeOf initials i + placeOf medials m) + last))
  | some i, none, none => if medial = 2 && final = 1 then some i else none
  | none, some m, none => if initial = 1 && final = 1 then some m else none
  | none, none, some f =>
      let begins := initials.runs.any fun run => run.2.toList.contains f
      if initial = 1 && medial = 2 && !begins then some f else none
  | _, _, _ => none

/-- The character of a pair outside the syllables, where two rows of the chart share a first
byte. The parts of syllables in the chart are left out. -/
def johabSign? (a b : UInt8) : Option Char :=
  let isPart := a = 0xDA && isWithin 0xA1 0xD3 b
  let half? :=
    if isWithin 0xD9 0xDE a then some (a.toNat - 0xD9)
    else if isWithin 0xE0 0xF9 a then some (a.toNat - 0xE0 + 20)
    else none
  let place? :=
    if isPart then none
    else if isWithin 0x31 0x7E b then some (b.toNat - 0x31)
    else if isWithin 0x91 0xFE b then some (b.toNat - 0x43)
    else none
  match half?, place? with
  | some half, some place =>
      let rows := if half < 20 then 2 * half else 2 * half + 1
      Chart.ksX1001.char? (0x100 * (0x21 + rows + place / 94) + (0x21 + place % 94))
  | _, _ => none

/-- Syllables by the numbers of their parts, with five bits for each. -/
def johab : Charset :=
  ofPairs (isWithin 0x84 0xF9) (fun b => if b = 0x5C then some '₩' else ascii? b) fun a b =>
    let n := pairNumber a b
    if isWithin 0x84 0xD3 a then syllable? (n / 0x400 % 0x20) (n / 0x20 % 0x20) (n % 0x20)
    else johabSign? a b

end Iconsmith.Charset
