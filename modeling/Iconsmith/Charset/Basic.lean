import Iconsmith.Text.Utf8

set_option autoImplicit false

/-!
# Character sets

A character set says which text bytes stand for. It is run by a machine that takes one byte
at a time, writes the characters that are complete, and holds what it needs to read
on. The end of the bytes may come inside a character, which is then said to be cut short.
-/

namespace Iconsmith

/-- The text that bytes stand for, and whether a last character is cut short. -/
structure Decoded where
  text : Text
  isCutShort : Bool

/-- A way of reading bytes. There is no text when some of them stand for no character. -/
structure Charset where
  decode : List UInt8 → Option Decoded

/-! ## Machines -/

/-- A machine that reads bytes: what it holds before the first one, what it writes and
holds after each, and what it writes after the last, where nothing means that a
character is cut short. -/
structure Charset.Machine (σ : Type) where
  start : σ
  step : σ → UInt8 → Option (Text × σ)
  finish : σ → Option Text

namespace Charset.Machine

variable {σ : Type}

/-- Runs a machine from what it holds. The characters written so far are in reverse. -/
def run (m : Machine σ) : σ → Text → List UInt8 → Option Decoded
  | held, written, [] =>
      match m.finish held with
      | some last => some ⟨written.reverse ++ last, false⟩
      | none => some ⟨written.reverse, true⟩
  | held, written, b :: rest =>
      match m.step held b with
      | some (chars, held) => m.run held (chars.reverse ++ written) rest
      | none => none

/-- The character set of a machine. -/
def charset (m : Machine σ) : Charset := ⟨m.run m.start []⟩

end Charset.Machine

/-! ## Words -/

/-- What bytes stand for when they are read together: characters, a character of which
they are the first part, or nothing. -/
inductive Word where
  | chars (t : Text)
  | part
  | unknown

/-- The word of a character, if there is one. -/
def Word.ofChar? : Option Char → Word
  | some c => .chars [c]
  | none => .unknown

namespace Charset

/-- The machine that reads words one after another, and holds the bytes of the word that
it is in. -/
def wordMachine (word : List UInt8 → Word) : Machine (List UInt8) where
  start := []
  step := fun held b =>
    match word (held ++ [b]) with
    | .chars t => some (t, [])
    | .part => some ([], held ++ [b])
    | .unknown => none
  finish := fun held => if held = [] then some [] else none

/-- The character set in which bytes are read word by word. -/
def ofWords (word : List UInt8 → Word) : Charset := (wordMachine word).charset

/-- The character set in which each byte stands for a character. -/
def ofBytes (char? : UInt8 → Option Char) : Charset :=
  ofWords fun
    | [b] => .ofChar? (char? b)
    | _ => .unknown

/-! ## The plainest character sets -/

/-- The character of a byte that is ASCII. -/
def ascii? (b : UInt8) : Option Char :=
  if b.toNat < 0x80 then some (Char.ofNat b.toNat) else none

/-- ASCII. -/
def ascii : Charset := ofBytes ascii?

/-- Each byte stands for the character of its number. -/
def latin1 : Charset := ofBytes fun b => some (Char.ofNat b.toNat)

/-- UTF-8. -/
def utf8 : Charset := ⟨fun bytes => (Text.Utf8.decode? bytes).map fun t => ⟨t, false⟩⟩

end Charset
end Iconsmith
