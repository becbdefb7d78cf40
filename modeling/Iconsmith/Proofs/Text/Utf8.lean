import Iconsmith.Text.Utf8

set_option autoImplicit false

/-!
# Encoded text

The bytes of a text are decoded to the text, without any fault (`decode_encode`,
`firstFault?_encode`). The bytes of one character do the work: the first opens it and the others
complete it (`encodeChar_cases`), and then both machines stand at the start of the next
character. The ranges of the second byte, which leave out overlong forms and surrogates, are
never missed, because a character is neither a surrogate nor greater than the last code point.
-/

namespace Iconsmith.Text.Utf8

/-! ## Bytes that complete a character -/

/-- Continuation bytes that complete a character that has begun. -/
inductive Completes (c : Char) : Pending → List UInt8 → Prop where
  | last {p : Pending} {b : UInt8} : p.accepts b → p.owed ≤ 1 → Char.ofNat (p.bitsWith b) = c →
      Completes c p [b]
  | more {p : Pending} {b : UInt8} {rest : List UInt8} : p.accepts b → ¬p.owed ≤ 1 →
      Completes c (p.next b) rest → Completes c p (b :: rest)

variable {c : Char} {p : Pending} {bytes : List UInt8}

theorem Completes.decodeFrom (h : Completes c p bytes) (rest : List UInt8) :
    decodeFrom (some p) (bytes ++ rest) = c :: decodeFrom none rest := by
  induction h with
  | last haccepts howed hc =>
      rw [List.singleton_append, Utf8.decodeFrom, if_pos haccepts, if_pos howed, hc]
  | more haccepts howed _ ih =>
      rw [List.cons_append, Utf8.decodeFrom, if_pos haccepts, if_neg howed, ih]

theorem Completes.faultFrom (h : Completes c p bytes) (rest : List UInt8) (start size : Nat) :
    faultFrom start size (some p) (bytes ++ rest) =
      faultFrom (start + size + bytes.length) 0 none rest := by
  induction h generalizing size with
  | last haccepts howed _ =>
      rw [List.singleton_append, Utf8.faultFrom, if_pos haccepts, if_pos howed]
      rfl
  | @more p b bytes haccepts howed _ ih =>
      rw [List.cons_append, Utf8.faultFrom, if_pos haccepts, if_neg howed, ih, List.length_cons]
      congr 1
      omega

/-! ## Characters -/

theorem toNat_ofNat {n : Nat} (h : n < 0x100) : (UInt8.ofNat n).toNat = n := by
  rw [UInt8.toNat_ofNat']
  omega

/-- A continuation byte with six bits is accepted where nothing narrower is asked. -/
theorem accepts_ofNat {p : Pending} {n : Nat} (hn : n < 0x40) (hleast : p.least ≤ 0x80 + n)
    (hgreatest : 0x80 + n ≤ p.greatest) : p.accepts (UInt8.ofNat (0x80 + n)) := by
  have hbyte : (UInt8.ofNat (0x80 + n)).toNat = 0x80 + n := toNat_ofNat (by omega)
  rw [Pending.accepts, hbyte, Bool.and_eq_true]
  exact ⟨decide_eq_true hleast, decide_eq_true hgreatest⟩

theorem bitsWith_ofNat (p : Pending) {n : Nat} (hn : n < 0x40) :
    p.bitsWith (UInt8.ofNat (0x80 + n)) = p.bits * 0x40 + n := by
  unfold Pending.bitsWith
  rw [toNat_ofNat (by omega), Nat.add_sub_cancel_left]

/-- A character is neither a surrogate nor greater than the last code point. -/
theorem toNat_cases (c : Char) :
    c.toNat < 0xD800 ∨ 0xDFFF < c.toNat ∧ c.toNat < 0x110000 := by
  have hvalid := c.valid
  rwa [UInt32.isValidChar, Nat.isValidChar] at hvalid

theorem completes_one {bits x : Nat} {least greatest : Nat} (hx : x < 0x40)
    (hleast : least ≤ 0x80 + x) (hgreatest : 0x80 + x ≤ greatest)
    (hc : c.toNat = bits * 0x40 + x) :
    Completes c ⟨1, least, greatest, bits⟩ [UInt8.ofNat (0x80 + x)] := by
  refine .last (accepts_ofNat hx hleast hgreatest) (Nat.le_refl 1) ?_
  rw [bitsWith_ofNat _ hx, ← hc, Char.ofNat_toNat]

theorem completes_cons {owed bits x : Nat} {least greatest : Nat} (howed : 1 < owed)
    (hx : x < 0x40) (hleast : least ≤ 0x80 + x) (hgreatest : 0x80 + x ≤ greatest)
    (h : Completes c ⟨owed - 1, 0x80, 0xBF, bits * 0x40 + x⟩ bytes) :
    Completes c ⟨owed, least, greatest, bits⟩ (UInt8.ofNat (0x80 + x) :: bytes) := by
  refine .more (accepts_ofNat hx hleast hgreatest) (Nat.not_le_of_lt howed) ?_
  rw [Pending.next, bitsWith_ofNat _ hx]
  exact h

/-- The byte that opens a character of two. -/
theorem opening_two {x : Nat} (hleast : 2 ≤ x) (hgreatest : x < 0x20) :
    opening (UInt8.ofNat (0xC0 + x)) = .longer ⟨1, 0x80, 0xBF, x⟩ := by
  rw [opening, toNat_ofNat (by omega), if_neg (by omega), if_neg (by omega), if_pos (by omega),
    Nat.add_sub_cancel_left]

/-- The byte that opens a character of three, with the range that is left for the next. -/
theorem opening_three {x : Nat} (hx : x < 0x10) :
    ∃ least greatest, opening (UInt8.ofNat (0xE0 + x)) = .longer ⟨2, least, greatest, x⟩ ∧
      (least = 0x80 ∨ x = 0 ∧ least = 0xA0) ∧ (greatest = 0xBF ∨ x = 0xD ∧ greatest = 0x9F) := by
  rw [opening, toNat_ofNat (by omega), if_neg (by omega), if_neg (by omega), if_neg (by omega)]
  by_cases hzero : x = 0
  · exact ⟨0xA0, 0xBF, by rw [hzero]; rfl, Or.inr ⟨hzero, rfl⟩, Or.inl rfl⟩
  · rw [if_neg (by omega)]
    by_cases hsurrogate : x = 0xD
    · exact ⟨0x80, 0x9F, by rw [hsurrogate]; rfl, Or.inl rfl, Or.inr ⟨hsurrogate, rfl⟩⟩
    · rw [if_neg (by omega), if_pos (by omega), Nat.add_sub_cancel_left]
      exact ⟨0x80, 0xBF, rfl, Or.inl rfl, Or.inl rfl⟩

/-- The byte that opens a character of four, with the range that is left for the next. -/
theorem opening_four {x : Nat} (hx : x < 5) :
    ∃ least greatest, opening (UInt8.ofNat (0xF0 + x)) = .longer ⟨3, least, greatest, x⟩ ∧
      (least = 0x80 ∨ x = 0 ∧ least = 0x90) ∧ (greatest = 0xBF ∨ x = 4 ∧ greatest = 0x8F) := by
  have hcases : x = 0 ∨ x = 1 ∨ x = 2 ∨ x = 3 ∨ x = 4 := by omega
  rcases hcases with rfl | rfl | rfl | rfl | rfl
  · exact ⟨0x90, 0xBF, rfl, Or.inr ⟨rfl, rfl⟩, Or.inl rfl⟩
  · exact ⟨0x80, 0xBF, rfl, Or.inl rfl, Or.inl rfl⟩
  · exact ⟨0x80, 0xBF, rfl, Or.inl rfl, Or.inl rfl⟩
  · exact ⟨0x80, 0xBF, rfl, Or.inl rfl, Or.inl rfl⟩
  · exact ⟨0x80, 0x8F, rfl, Or.inl rfl, Or.inr ⟨rfl, rfl⟩⟩

/-- The bytes of a character: one that is the character, or one that opens it and others that
complete it. -/
theorem encodeChar_cases (c : Char) :
    (∃ b, encodeChar c = [b] ∧ opening b = .char c) ∨
      ∃ b p bytes, encodeChar c = b :: bytes ∧ opening b = .longer p ∧ Completes c p bytes := by
  have hvalid := toNat_cases c
  unfold encodeChar
  generalize hn : c.toNat = n at hvalid
  dsimp only
  split
  · rename_i h₁
    refine Or.inl ⟨_, rfl, ?_⟩
    rw [opening, toNat_ofNat (by omega), ← hn, Char.ofNat_toNat]
    exact if_pos (hn ▸ h₁)
  · rename_i h₁
    refine Or.inr ?_
    split
    · rename_i h₂
      refine ⟨_, _, _, rfl, opening_two (by omega) (by omega), ?_⟩
      exact completes_one (by omega) (by omega) (by omega) (by omega)
    · rename_i h₂
      split
      · rename_i h₃
        obtain ⟨least, greatest, hopening, hleast, hgreatest⟩ :=
          opening_three (x := n / 0x1000) (by omega)
        refine ⟨_, _, _, rfl, hopening, ?_⟩
        refine completes_cons (by omega) (by omega) (by omega) (by omega) ?_
        exact completes_one (by omega) (by omega) (by omega) (by omega)
      · rename_i h₃
        obtain ⟨least, greatest, hopening, hleast, hgreatest⟩ :=
          opening_four (x := n / 0x40000) (by omega)
        refine ⟨_, _, _, rfl, hopening, ?_⟩
        refine completes_cons (by omega) (by omega) (by omega) (by omega) ?_
        refine completes_cons (by omega) (by omega) (by omega) (by omega) ?_
        exact completes_one (by omega) (by omega) (by omega) (by omega)

/-! ## Texts -/

theorem decodeFrom_encodeChar (c : Char) (rest : List UInt8) :
    decodeFrom none (encodeChar c ++ rest) = c :: decodeFrom none rest := by
  rcases encodeChar_cases c with ⟨b, heq, hopening⟩ | ⟨b, p, bytes, heq, hopening, hcompletes⟩
  · rw [heq, List.singleton_append, decodeFrom, hopening]
  · rw [heq, List.cons_append, decodeFrom, hopening]
    exact hcompletes.decodeFrom rest

theorem faultFrom_encodeChar (c : Char) (rest : List UInt8) (start : Nat) :
    faultFrom start 0 none (encodeChar c ++ rest) =
      faultFrom (start + (encodeChar c).length) 0 none rest := by
  rcases encodeChar_cases c with ⟨b, heq, hopening⟩ | ⟨b, p, bytes, heq, hopening, hcompletes⟩
  · rw [heq, List.singleton_append, faultFrom, hopening]
    rfl
  · rw [heq, List.cons_append, faultFrom, hopening]
    dsimp only
    rw [hcompletes.faultFrom, List.length_cons, Nat.add_assoc, Nat.add_comm 1]

theorem encode_cons (c : Char) (t : Text) : encode (c :: t) = encodeChar c ++ encode t :=
  List.flatMap_cons

/-- Text that has been encoded is decoded to itself, in front of any bytes. -/
theorem decode_encode_append (t : Text) (rest : List UInt8) :
    decode (encode t ++ rest) = t ++ decode rest := by
  induction t with
  | nil => rfl
  | cons c t ih =>
      rw [encode_cons, List.append_assoc, decode, decodeFrom_encodeChar]
      exact congrArg (c :: ·) ih

theorem decode_encode (t : Text) : decode (encode t) = t := by
  have happend := decode_encode_append t []
  rwa [List.append_nil, show decode [] = [] from rfl, List.append_nil] at happend

/-- Text that has been encoded has no fault, whatever its offset. -/
theorem faultFrom_encode_append (t : Text) (rest : List UInt8) (start : Nat) :
    faultFrom start 0 none (encode t ++ rest) =
      faultFrom (start + (encode t).length) 0 none rest := by
  induction t generalizing start with
  | nil => rfl
  | cons c t ih =>
      rw [encode_cons, List.append_assoc, faultFrom_encodeChar, ih, List.length_append,
        Nat.add_assoc]

theorem firstFault?_encode (t : Text) : firstFault? (encode t) = none := by
  have happend := faultFrom_encode_append t [] 0
  rwa [List.append_nil] at happend

end Iconsmith.Text.Utf8
