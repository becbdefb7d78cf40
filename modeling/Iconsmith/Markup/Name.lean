import Iconsmith.Text.Basic

set_option autoImplicit false

/-!
# Characters and names of markup

The character classes of XML 1.0, fifth edition, the maximal name at the head of
a text, and the cut of a name at its colon into a space and a local name. A name
that can be cut has one colon, with a name on both sides.
-/

namespace Iconsmith.Markup

/-! ## Characters -/

/-- Characters that a document may hold. -/
def isChar (c : Char) : Bool :=
  let n := c.toNat
  n == 9 || n == 10 || n == 13 || (0x20 ≤ n && n != 0xFFFE && n != 0xFFFF)

/-- White space between the parts of a tag. -/
def isGap (c : Char) : Bool := c = ' ' || c = '\t' || c = '\n' || c = '\r'

/-- Ranges of the characters beyond ASCII with which a name may begin. -/
def nameStartRuns : List (Nat × Nat) :=
  [(0xC0, 0xD6), (0xD8, 0xF6), (0xF8, 0x2FF), (0x370, 0x37D), (0x37F, 0x1FFF),
    (0x200C, 0x200D), (0x2070, 0x218F), (0x2C00, 0x2FEF), (0x3001, 0xD7FF),
    (0xF900, 0xFDCF), (0xFDF0, 0xFFFD), (0x10000, 0xEFFFF)]

/-- Characters with which a name may begin. -/
def isNameStart (c : Char) : Bool :=
  c.isAlpha || c = '_' || c = ':' ||
    nameStartRuns.any fun run => run.1 ≤ c.toNat && c.toNat ≤ run.2

/-- Characters of which a name may consist. -/
def isNameChar (c : Char) : Bool :=
  isNameStart c || c.isDigit || c = '-' || c = '.' || c.toNat == 0xB7 ||
    (0x300 ≤ c.toNat && c.toNat ≤ 0x36F) || (0x203F ≤ c.toNat && c.toNat ≤ 0x2040)

/-! ## Names -/

/-- The longest name at the head of a text, empty when there is none, and what
follows it. -/
def spanName (t : Text) : Text × Text :=
  match t with
  | c :: _ => if isNameStart c then t.span isNameChar else ([], t)
  | [] => ([], [])

/-- Whether a text is a name. -/
def isName : Text → Bool
  | c :: rest => isNameStart c && rest.all isNameChar
  | [] => false

/-- Whether a text is a name without colons. -/
def isLocal (t : Text) : Bool := isName t && !t.contains ':'

/-- A name with the space that its part before the colon stands for. -/
structure QName where
  space : Option Text
  base : Text
  deriving DecidableEq

namespace QName

/-- Cuts a raw name at its colon. -/
def ofRaw? (raw : Text) : Option QName :=
  match Text.cutFirst ':' raw with
  | none => some ⟨none, raw⟩
  | some (space, base) =>
      if isLocal space && isLocal base then some ⟨some space, base⟩ else none

/-- A raw name that is cut, if it can be, and otherwise is a local name as a whole. -/
def ofRaw (raw : Text) : QName := (ofRaw? raw).getD ⟨none, raw⟩

end QName

end Iconsmith.Markup
