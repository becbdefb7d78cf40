import Iconsmith.Text.Basic

set_option autoImplicit false

/-!
# UTF-8

Encoding, and decoding of any byte sequence. The decoder is a machine that takes
one byte at a time and remembers how many continuation bytes it waits for and
the range of the next one. Every maximal ill-formed piece of the input becomes
one replacement character, and `firstFault?` tells where the first of them
begins and why it is ill-formed.
-/

namespace Iconsmith.Text.Utf8

/-! ## Encoding -/

/-- The bytes of a character. -/
def encodeChar (c : Char) : List UInt8 :=
  let n := c.toNat
  if n < 0x80 then [UInt8.ofNat n]
  else if n < 0x800 then [UInt8.ofNat (0xC0 + n / 0x40), UInt8.ofNat (0x80 + n % 0x40)]
  else if n < 0x10000 then
    [UInt8.ofNat (0xE0 + n / 0x1000), UInt8.ofNat (0x80 + n / 0x40 % 0x40),
      UInt8.ofNat (0x80 + n % 0x40)]
  else
    [UInt8.ofNat (0xF0 + n / 0x40000), UInt8.ofNat (0x80 + n / 0x1000 % 0x40),
      UInt8.ofNat (0x80 + n / 0x40 % 0x40), UInt8.ofNat (0x80 + n % 0x40)]

/-- The bytes of a text. -/
def encode (t : Text) : List UInt8 := t.flatMap encodeChar

/-- The number of bytes of a text. -/
def size (t : Text) : Nat := (encode t).length

/-! ## Decoding -/

/-- A character that has begun: the continuation bytes still owed, the least and
the greatest value of the next one, and the bits read so far. -/
structure Pending where
  owed : Nat
  least : Nat
  greatest : Nat
  bits : Nat
  deriving DecidableEq

/-- What a byte that begins a character does: it is a character by itself, it
opens a longer one, or it cannot begin a character. -/
inductive Opening where
  | char (c : Char)
  | longer (p : Pending)
  | invalid
  deriving DecidableEq

/-- The role of a byte at the start of a character. The ranges of the second byte
leave out overlong forms, surrogates, and values above the last code point. -/
def opening (b : UInt8) : Opening :=
  let n := b.toNat
  if n < 0x80 then .char (Char.ofNat n)
  else if n < 0xC2 then .invalid
  else if n < 0xE0 then .longer ⟨1, 0x80, 0xBF, n - 0xC0⟩
  else if n = 0xE0 then .longer ⟨2, 0xA0, 0xBF, 0⟩
  else if n = 0xED then .longer ⟨2, 0x80, 0x9F, 0xD⟩
  else if n < 0xF0 then .longer ⟨2, 0x80, 0xBF, n - 0xE0⟩
  else if n = 0xF0 then .longer ⟨3, 0x90, 0xBF, 0⟩
  else if n < 0xF4 then .longer ⟨3, 0x80, 0xBF, n - 0xF0⟩
  else if n = 0xF4 then .longer ⟨3, 0x80, 0x8F, 4⟩
  else .invalid

/-- Whether a byte continues the character that has begun. -/
def Pending.accepts (p : Pending) (b : UInt8) : Bool :=
  p.least ≤ b.toNat && b.toNat ≤ p.greatest

/-- The bits read once a continuation byte is taken. -/
def Pending.bitsWith (p : Pending) (b : UInt8) : Nat := p.bits * 0x40 + (b.toNat - 0x80)

/-- The character that has begun after one more continuation byte, while others
are owed. -/
def Pending.next (p : Pending) (b : UInt8) : Pending :=
  ⟨p.owed - 1, 0x80, 0xBF, p.bitsWith b⟩

/-- The character that stands for an ill-formed piece. -/
def replacement : Char := '\ufffd'

/-- Decodes bytes at the start of a character. Ill-formed pieces become
replacement characters. -/
def decodeFrom : Option Pending → List UInt8 → Text
  | none, [] => []
  | some _, [] => [replacement]
  | none, b :: rest =>
      match opening b with
      | .char c => c :: decodeFrom none rest
      | .longer p => decodeFrom (some p) rest
      | .invalid => replacement :: decodeFrom none rest
  | some p, b :: rest =>
      if p.accepts b then
        if p.owed ≤ 1 then Char.ofNat (p.bitsWith b) :: decodeFrom none rest
        else decodeFrom (some (p.next b)) rest
      else
        match opening b with
        | .char c => replacement :: c :: decodeFrom none rest
        | .longer q => replacement :: decodeFrom (some q) rest
        | .invalid => replacement :: replacement :: decodeFrom none rest

/-- The text that the bytes encode, with a replacement character for every
maximal ill-formed piece. -/
def decode (bytes : List UInt8) : Text := decodeFrom none bytes

/-! ## Faults -/

/-- Why a piece of a byte sequence is ill-formed. -/
inductive Reason where
  | invalidStart
  | invalidContinuation
  | unexpectedEnd
  deriving DecidableEq

/-- The wording of a reason. -/
def Reason.text : Reason → Text
  | .invalidStart => "invalid start byte".toList
  | .invalidContinuation => "invalid continuation byte".toList
  | .unexpectedEnd => "unexpected end of data".toList

/-- An ill-formed piece: why, and the offset of its first byte. -/
structure Fault where
  reason : Reason
  offset : Nat
  deriving DecidableEq

/-- The first fault, where `start` is the offset of the current character and
`size` the number of its bytes read so far. -/
def faultFrom : Nat → Nat → Option Pending → List UInt8 → Option Fault
  | _, _, none, [] => none
  | start, _, some _, [] => some ⟨.unexpectedEnd, start⟩
  | start, _, none, b :: rest =>
      match opening b with
      | .char _ => faultFrom (start + 1) 0 none rest
      | .longer p => faultFrom start 1 (some p) rest
      | .invalid => some ⟨.invalidStart, start⟩
  | start, size, some p, b :: rest =>
      if p.accepts b then
        if p.owed ≤ 1 then faultFrom (start + size + 1) 0 none rest
        else faultFrom start (size + 1) (some (p.next b)) rest
      else some ⟨.invalidContinuation, start⟩

/-- The first ill-formed piece of a byte sequence. -/
def firstFault? (bytes : List UInt8) : Option Fault := faultFrom 0 0 none bytes

/-- The text that well-formed bytes encode. -/
def decode? (bytes : List UInt8) : Option Text :=
  match firstFault? bytes with
  | none => some (decode bytes)
  | some _ => none

/-! ## Cutting -/

/-- As much of a text as fits into a number of bytes. When the last character does not
fit as a whole, its first bytes do; then each byte beyond ASCII is written as its
number. -/
def clipped (limit : Nat) (t : Text) : Text :=
  let bytes := (encode t).take limit
  match decode? bytes with
  | some cut => cut
  | none =>
      bytes.flatMap fun b =>
        if b.toNat < 0x80 then [Char.ofNat b.toNat]
        else '\\' :: 'x' :: Nat.toDigits 16 b.toNat

end Iconsmith.Text.Utf8
