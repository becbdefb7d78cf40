import Iconsmith.Proofs.Assets.Sources
import Iconsmith.Proofs.Text.Wellformed

set_option autoImplicit false

/-!
# Decoding of source files

Whatever the bytes of a source file are, reading it gives a text. Valid bytes give their text and
nothing is noted. Other bytes are noted once, at the end of the longest beginning that is valid,
and give a text that keeps this beginning (`readSource_of_read`). Which bytes are valid is said
by the encoder of the standard library, so that the encoder of this one is not its own judge.
-/

namespace Iconsmith.Assets

open Text.Utf8

/-- The longest beginning of some bytes that is valid. -/
structure IsLongestValid (head bytes : List UInt8) : Prop where
  isPrefix : head <+: bytes
  valid : head.toByteArray.IsValidUTF8
  longest : ∀ other, other <+: bytes → other.toByteArray.IsValidUTF8 →
    other.length ≤ head.length

/-- The warning that the bytes of a file are not valid from an offset on. -/
def decodingWarning (path : Disk.Path) (reason : Reason) (offset : Nat) : Log.Record :=
  ⟨.warning, .assets, path.text ++ " is not valid UTF-8 (".toList ++ reason.text ++
    " at byte ".toList ++ Text.ofNat offset ++ "), decoding with replacement".toList⟩

/-- Notes and a text that some bytes of the file at a path may give. -/
structure IsReading (path : Disk.Path) (bytes : List UInt8) (notes : List Note) (text : Text) :
    Prop where
  kept : ∀ t : Text, t.utf8Encode = bytes.toByteArray → text = t ∧ notes = []
  replaced : ¬bytes.toByteArray.IsValidUTF8 → ∃ head t reason later,
    IsLongestValid head bytes ∧ t.utf8Encode = head.toByteArray ∧
      text = t ++ replacement :: later ∧
      notes.map Note.record = [decodingWarning path reason head.length]
  again : text.utf8Encode = bytes.toByteArray ↔ notes = []

theorem utf8Encode_eq_iff {t : Text} {bytes : List UInt8} :
    t.utf8Encode = bytes.toByteArray ↔ encode t = bytes := by
  rw [← encode_eq_utf8Encode, List.toByteArray_inj]

theorem isValidUTF8_encode (t : Text) : (encode t).toByteArray.IsValidUTF8 :=
  isValidUTF8_iff.2 ⟨t, rfl⟩

/-- Bytes without a fault are kept as they are. -/
theorem isReading_of_encode (path : Disk.Path) (t : Text) : IsReading path (encode t) [] t where
  kept := by
    intro other hother
    have hsame := congrArg decode (utf8Encode_eq_iff.1 hother)
    rw [decode_encode, decode_encode] at hsame
    exact ⟨hsame.symm, rfl⟩
  replaced := fun hbroken => absurd (isValidUTF8_encode t) hbroken
  again := iff_of_true (utf8Encode_eq_iff.2 rfl) rfl

/-- Bytes with a fault are noted at the first one and are not valid. -/
theorem isReading_of_fault (path : Disk.Path) {bytes : List UInt8} {fault : Text.Utf8.Fault}
    (h : firstFault? bytes = some fault) :
    IsReading path bytes [.replaced path.text fault] (decode bytes) := by
  have hbroken : ∀ t, encode t ≠ bytes := by
    rintro t rfl
    rw [firstFault?_encode] at h
    cases h
  refine ⟨?_, ?_, ?_⟩
  · intro t ht
    exact absurd (utf8Encode_eq_iff.1 ht) (hbroken t)
  · intro _
    obtain ⟨t, rest, later, hbytes, hoffset, htext, hlongest⟩ := exists_of_firstFault? h
    refine ⟨encode t, t, fault.reason, later, ⟨?_, ?_, ?_⟩, utf8Encode_eq_iff.2 rfl, htext, ?_⟩
    · exact ⟨rest, hbytes.symm⟩
    · exact isValidUTF8_encode t
    · intro other hprefix hvalid
      obtain ⟨u, rfl⟩ := isValidUTF8_iff.1 hvalid
      exact hlongest u hprefix
    · rw [hoffset]
      rfl
  · -- What is decoded is a text, and the bytes are those of none.
    apply iff_of_false
    · intro hsame
      exact hbroken _ (utf8Encode_eq_iff.1 hsame)
    · exact List.cons_ne_nil _ _

/-- Reading a file gives a text, whatever its bytes are. If they are valid it is the text that
they encode, and nothing is noted; otherwise one warning names the length of the longest beginning
that is valid, and the text begins with that of this beginning and a replacement character. So
the text encodes the bytes exactly if nothing is noted. -/
theorem readSource_of_read {tree : Disk.Tree} {path : Disk.Path} {bytes : List UInt8}
    (h : tree.read path = .ok bytes) :
    ∃ notes text, readSource tree path = ⟨notes, .ok text⟩ ∧ IsReading path bytes notes text := by
  obtain ⟨place, hlocate, hfile⟩ := Disk.Tree.read_eq_ok_iff.1 h
  refine ⟨_, _, readSource_of_file hlocate hfile, ?_⟩
  cases hfault : firstFault? bytes with
  | none =>
      have hnotes : (textOf path.text bytes).1 = [] := by rw [textOf, hfault]
      have hreading := isReading_of_encode path (decode bytes)
      rw [encode_decode hfault] at hreading
      rwa [hnotes]
  | some fault =>
      have hnotes : (textOf path.text bytes).1 = [.replaced path.text fault] := by
        rw [textOf, hfault]
      rw [hnotes]
      exact isReading_of_fault path hfault

/-! ## A file that is not valid -/

/-- A letter of two bytes, then three bytes that would be a surrogate, then the beginning of a
letter of four bytes that an ASCII letter cuts off. -/
def strayBytes : List UInt8 := [0xC3, 0xA9, 0xED, 0xA0, 0x80, 0xF0, 0x9F, 0x98, 0x61]

def strayPath : Disk.Path := Disk.Path.ofText "icon.svg".toList

def strayTree : Disk.Tree := Disk.Tree.empty.plant ["icon.svg".toList] (.file strayBytes)

/-- The letter is kept, the three bytes become three replacement characters, and what was cut
off becomes one. -/
theorem readSource_strayTree :
    strayTree.read strayPath = .ok strayBytes ∧
      (readSource strayTree strayPath).result = .ok "é\ufffd\ufffd\ufffd\ufffda".toList ∧
      ∃ notes text, readSource strayTree strayPath = ⟨notes, .ok text⟩ ∧
        IsReading strayPath strayBytes notes text := by
  have hread : strayTree.read strayPath = .ok strayBytes := by decide
  exact ⟨hread, by decide +kernel, readSource_of_read hread⟩

end Iconsmith.Assets
