import Iconsmith.Proofs.Text.Utf8

set_option autoImplicit false

/-!
# Well-formed bytes

Which bytes are those of a text, and what the decoder makes of the others. `encode` writes the
bytes that the standard library writes (`encode_eq_utf8Encode`). At the start of a character
there are two cases: the bytes of a character follow, or an ill-formed piece, which is where the
first fault begins (`head_cases`). So bytes without a fault are those of the text that they are
decoded to (`encode_decode`), and otherwise the first fault stands right behind the longest
beginning that is well-formed (`exists_of_firstFault?`).
-/

namespace Iconsmith.Text.Utf8

/-! ## The standard encoding -/

/-- The bytes of a character are those that the standard library gives it. -/
theorem encodeChar_eq_utf8EncodeChar (c : Char) : encodeChar c = String.utf8EncodeChar c := by
  have hvalid := toNat_cases c
  unfold encodeChar String.utf8EncodeChar
  rw [show c.val.toNat = c.toNat from rfl]
  generalize c.toNat = n at hvalid
  dsimp only
  split
  · rename_i hone
    have hother : n ≤ 127 := by omega
    rw [if_pos hother]
  · rename_i hone
    have hother : ¬n ≤ 127 := by omega
    rw [if_neg hother]
    split
    · rename_i htwo
      have hother : n ≤ 2047 := by omega
      have hlead : 0xC0 + n / 0x40 = n / 64 % 32 + 192 := by omega
      rw [if_pos hother, hlead, Nat.add_comm 0x80]
    · rename_i htwo
      have hother : ¬n ≤ 2047 := by omega
      rw [if_neg hother]
      split
      · rename_i hthree
        have hother : n ≤ 65535 := by omega
        have hlead : 0xE0 + n / 0x1000 = n / 4096 % 16 + 224 := by omega
        rw [if_pos hother, hlead, Nat.add_comm 0x80, Nat.add_comm 0x80]
      · rename_i hthree
        have hother : ¬n ≤ 65535 := by omega
        have hlead : 0xF0 + n / 0x40000 = n / 262144 % 8 + 240 := by omega
        rw [if_neg hother, hlead, Nat.add_comm 0x80, Nat.add_comm 0x80, Nat.add_comm 0x80]

theorem encode_eq_utf8Encode (t : Text) : (encode t).toByteArray = t.utf8Encode := by
  have hchar : encodeChar = String.utf8EncodeChar := funext encodeChar_eq_utf8EncodeChar
  rw [encode, hchar]
  rfl

/-- Bytes are valid when they are those of some text. -/
theorem isValidUTF8_iff {bytes : List UInt8} :
    bytes.toByteArray.IsValidUTF8 ↔ ∃ t, encode t = bytes := by
  constructor
  · intro h
    obtain ⟨t, ht⟩ := h
    rw [← encode_eq_utf8Encode] at ht
    exact ⟨t, (List.toByteArray_inj.1 ht).symm⟩
  · rintro ⟨t, rfl⟩
    exact ⟨t, encode_eq_utf8Encode t⟩

/-! ## Bytes that complete a character -/

variable {c : Char} {p : Pending} {b : UInt8} {bytes : List UInt8}

/-- A byte that is accepted brings six bits. -/
theorem exists_of_accepts (hleast : 0x80 ≤ p.least) (hgreatest : p.greatest ≤ 0xBF)
    (h : p.accepts b) :
    ∃ x < 0x40, b = UInt8.ofNat (0x80 + x) ∧ p.least ≤ 0x80 + x ∧ 0x80 + x ≤ p.greatest := by
  rw [Pending.accepts, Bool.and_eq_true, decide_eq_true_iff, decide_eq_true_iff] at h
  obtain ⟨hlow, hhigh⟩ := h
  have hsum : 0x80 + (b.toNat - 0x80) = b.toNat := by omega
  refine ⟨b.toNat - 0x80, by omega, ?_, by omega, by omega⟩
  rw [hsum, UInt8.ofNat_toNat]

/-- The last byte that is owed completes the character. -/
theorem exists_of_completes_one {least greatest bits : Nat} (hleast : 0x80 ≤ least)
    (hgreatest : greatest ≤ 0xBF) (h : Completes c ⟨1, least, greatest, bits⟩ bytes) :
    ∃ x < 0x40, bytes = [UInt8.ofNat (0x80 + x)] ∧ least ≤ 0x80 + x ∧ 0x80 + x ≤ greatest ∧
      c = Char.ofNat (bits * 0x40 + x) := by
  cases h with
  | last haccepts _ hc =>
      obtain ⟨x, hx, rfl, hlow, hhigh⟩ := exists_of_accepts hleast hgreatest haccepts
      rw [bitsWith_ofNat _ hx] at hc
      exact ⟨x, hx, rfl, hlow, hhigh, hc.symm⟩
  | more _ howed _ => exact absurd (Nat.le_refl 1) howed

/-- While more bytes are owed, one that is accepted brings its bits and the others follow. -/
theorem exists_of_completes_more {owed least greatest bits : Nat} (howed : 1 < owed)
    (hleast : 0x80 ≤ least) (hgreatest : greatest ≤ 0xBF)
    (h : Completes c ⟨owed, least, greatest, bits⟩ bytes) :
    ∃ x < 0x40, ∃ rest, bytes = UInt8.ofNat (0x80 + x) :: rest ∧ least ≤ 0x80 + x ∧
      0x80 + x ≤ greatest ∧ Completes c ⟨owed - 1, 0x80, 0xBF, bits * 0x40 + x⟩ rest := by
  cases h with
  | last _ hlast _ => exact absurd hlast (Nat.not_le_of_lt howed)
  | more haccepts _ hrest =>
      obtain ⟨x, hx, rfl, hlow, hhigh⟩ := exists_of_accepts hleast hgreatest haccepts
      rw [Pending.next, bitsWith_ofNat _ hx] at hrest
      exact ⟨x, hx, _, rfl, hlow, hhigh, hrest⟩

/-! ## Bytes that open a character -/

/-- A byte that opens a longer character, by the number of bytes that follow it. -/
theorem opening_cases (h : opening b = .longer p) :
    (∃ x, 2 ≤ x ∧ x < 0x20 ∧ b = UInt8.ofNat (0xC0 + x) ∧ p = ⟨1, 0x80, 0xBF, x⟩) ∨
      (∃ x least greatest, b = UInt8.ofNat (0xE0 + x) ∧ p = ⟨2, least, greatest, x⟩ ∧ x < 0x10 ∧
        0x80 ≤ least ∧ greatest ≤ 0xBF ∧ (x = 0 → least = 0xA0) ∧ (x = 0xD → greatest = 0x9F)) ∨
      ∃ x least greatest, b = UInt8.ofNat (0xF0 + x) ∧ p = ⟨3, least, greatest, x⟩ ∧ x < 5 ∧
        0x80 ≤ least ∧ greatest ≤ 0xBF ∧ (x = 0 → least = 0x90) ∧ (x = 4 → greatest = 0x8F) := by
  have hbyte : ∀ k n, b.toNat = k + n → b = UInt8.ofNat (k + n) := by
    intro k n hn
    rw [← hn, UInt8.ofNat_toNat]
  dsimp only [opening] at h
  split at h
  · cases h
  split at h
  · cases h
  split at h
  · cases h
    exact Or.inl ⟨_, by omega, by omega, hbyte _ _ (by omega), rfl⟩
  split at h
  · cases h
    exact Or.inr (Or.inl ⟨_, _, _, hbyte _ _ (by omega), rfl, by omega⟩)
  split at h
  · cases h
    exact Or.inr (Or.inl ⟨_, _, _, hbyte _ _ (by omega), rfl, by omega⟩)
  split at h
  · cases h
    exact Or.inr (Or.inl ⟨_, _, _, hbyte _ _ (by omega), rfl, by omega⟩)
  split at h
  · cases h
    exact Or.inr (Or.inr ⟨_, _, _, hbyte _ _ (by omega), rfl, by omega⟩)
  split at h
  · cases h
    exact Or.inr (Or.inr ⟨_, _, _, hbyte _ _ (by omega), rfl, by omega⟩)
  split at h
  · cases h
    exact Or.inr (Or.inr ⟨_, _, _, hbyte _ _ (by omega), rfl, by omega⟩)
  · cases h

/-! ## Characters from their bits -/

/-- The number of a code point that is no surrogate. -/
theorem toNat_charOfNat {n : Nat} (h : n < 0xD800 ∨ 0xDFFF < n ∧ n < 0x110000) :
    (Char.ofNat n).toNat = n := by
  have hvalid : n.isValidChar := h
  have hsame : (Char.ofNatAux n hvalid).toNat = n := rfl
  rwa [Char.ofNat, dif_pos hvalid]

theorem encodeChar_two {x y : Nat} (hlow : 2 ≤ x) (hhigh : x < 0x20) (hy : y < 0x40) :
    encodeChar (Char.ofNat (x * 0x40 + y)) = [UInt8.ofNat (0xC0 + x), UInt8.ofNat (0x80 + y)] := by
  have hlead : (x * 0x40 + y) / 0x40 = x := by omega
  have hlast : (x * 0x40 + y) % 0x40 = y := by omega
  dsimp only [encodeChar]
  rw [toNat_charOfNat (by omega), if_neg (by omega), if_pos (by omega), hlead, hlast]

theorem encodeChar_three {x y z : Nat} (hx : x < 0x10) (hy : y < 0x40) (hz : z < 0x40)
    (hshort : x = 0 → 0x20 ≤ y) (hsurrogate : x = 0xD → y < 0x20) :
    encodeChar (Char.ofNat ((x * 0x40 + y) * 0x40 + z)) =
      [UInt8.ofNat (0xE0 + x), UInt8.ofNat (0x80 + y), UInt8.ofNat (0x80 + z)] := by
  have hlead : ((x * 0x40 + y) * 0x40 + z) / 0x1000 = x := by omega
  have hnext : ((x * 0x40 + y) * 0x40 + z) / 0x40 % 0x40 = y := by omega
  have hlast : ((x * 0x40 + y) * 0x40 + z) % 0x40 = z := by omega
  dsimp only [encodeChar]
  rw [toNat_charOfNat (by omega), if_neg (by omega), if_neg (by omega), if_pos (by omega), hlead,
    hnext, hlast]

theorem encodeChar_four {x y z w : Nat} (hx : x < 5) (hy : y < 0x40) (hz : z < 0x40)
    (hw : w < 0x40) (hshort : x = 0 → 0x10 ≤ y) (hgreat : x = 4 → y < 0x10) :
    encodeChar (Char.ofNat (((x * 0x40 + y) * 0x40 + z) * 0x40 + w)) =
      [UInt8.ofNat (0xF0 + x), UInt8.ofNat (0x80 + y), UInt8.ofNat (0x80 + z),
        UInt8.ofNat (0x80 + w)] := by
  have hlead : (((x * 0x40 + y) * 0x40 + z) * 0x40 + w) / 0x40000 = x := by omega
  have hnext : (((x * 0x40 + y) * 0x40 + z) * 0x40 + w) / 0x1000 % 0x40 = y := by omega
  have hthird : (((x * 0x40 + y) * 0x40 + z) * 0x40 + w) / 0x40 % 0x40 = z := by omega
  have hlast : (((x * 0x40 + y) * 0x40 + z) * 0x40 + w) % 0x40 = w := by omega
  dsimp only [encodeChar]
  rw [toNat_charOfNat (by omega), if_neg (by omega), if_neg (by omega), if_neg (by omega), hlead,
    hnext, hthird, hlast]

/-- A byte that is a character by itself is the bytes of this character. -/
theorem encodeChar_of_opening (h : opening b = .char c) : encodeChar c = [b] := by
  dsimp only [opening] at h
  split at h
  · rename_i hsmall
    cases h
    dsimp only [encodeChar]
    rw [toNat_charOfNat (by omega), if_pos hsmall, UInt8.ofNat_toNat]
  · -- No other byte is a character by itself.
    repeat' split at h
    all_goals cases h

/-- A byte that opens a character and the bytes that complete it are the bytes of the
character. -/
theorem encodeChar_of_completes (h : opening b = .longer p) (hbytes : Completes c p bytes) :
    encodeChar c = b :: bytes := by
  rcases opening_cases h with ⟨x, hlow, hhigh, rfl, rfl⟩ |
    ⟨x, least, greatest, rfl, rfl, hx, hleast, hgreatest, hshort, hsurrogate⟩ |
    ⟨x, least, greatest, rfl, rfl, hx, hleast, hgreatest, hshort, hgreat⟩
  · obtain ⟨y, hy, rfl, -, -, rfl⟩ := exists_of_completes_one (by decide) (by decide) hbytes
    exact encodeChar_two hlow hhigh hy
  · obtain ⟨y, hy, rest, rfl, hylow, hyhigh, hrest⟩ :=
      exists_of_completes_more (by decide) hleast hgreatest hbytes
    obtain ⟨z, hz, rfl, -, -, rfl⟩ := exists_of_completes_one (by decide) (by decide) hrest
    exact encodeChar_three hx hy hz (by omega) (by omega)
  · obtain ⟨y, hy, rest, rfl, hylow, hyhigh, hrest⟩ :=
      exists_of_completes_more (by decide) hleast hgreatest hbytes
    obtain ⟨z, hz, last, rfl, -, -, hlast⟩ :=
      exists_of_completes_more (by decide) (by decide) (by decide) hrest
    obtain ⟨w, hw, rfl, -, -, rfl⟩ := exists_of_completes_one (by decide) (by decide) hlast
    exact encodeChar_four hx hy hz hw (by omega) (by omega)

/-! ## The head of some bytes -/

/-- Some bytes at the start of a character, or after the beginning of one, at which there is a
fault: it is the first one, wherever they stand, and becomes a replacement character. -/
structure IsFaulty (pending : Option Pending) (reason : Reason) (bytes : List UInt8) : Prop where
  fault : ∀ start size, faultFrom start size pending bytes = some ⟨reason, start⟩
  replaced : ∃ later, decodeFrom pending bytes = replacement :: later

/-- After the beginning of a character there are bytes that complete it, or there is a fault. -/
theorem pending_cases (p : Pending) (bytes : List UInt8) :
    (∃ c more rest, bytes = more ++ rest ∧ Completes c p more) ∨
      ∃ reason, IsFaulty (some p) reason bytes := by
  induction bytes generalizing p with
  | nil => exact Or.inr ⟨.unexpectedEnd, fun _ _ => rfl, [], rfl⟩
  | cons b bytes ih =>
      by_cases haccepts : p.accepts b = true
      · by_cases howed : p.owed ≤ 1
        · exact Or.inl ⟨_, [b], bytes, rfl, .last haccepts howed rfl⟩
        · rcases ih (p.next b) with ⟨c, more, rest, rfl, hmore⟩ | ⟨reason, hfault, later, hlater⟩
          · exact Or.inl ⟨c, b :: more, rest, rfl, .more haccepts howed hmore⟩
          · refine Or.inr ⟨reason, fun start size => ?_, later, ?_⟩
            · rw [faultFrom, if_pos haccepts, if_neg howed, hfault]
            · rw [decodeFrom, if_pos haccepts, if_neg howed, hlater]
      · -- The byte is read again as the start of a character, after the replacement.
        refine Or.inr ⟨.invalidContinuation, fun start size => ?_, ?_⟩
        · rw [faultFrom, if_neg haccepts]
        · rw [decodeFrom, if_neg haccepts]
          cases opening b with
          | char c => exact ⟨_, rfl⟩
          | longer q => exact ⟨_, rfl⟩
          | invalid => exact ⟨_, rfl⟩

/-- At the start of a character there are the bytes of one, or there is a fault. -/
theorem head_cases (b : UInt8) (bytes : List UInt8) :
    (∃ c rest, b :: bytes = encodeChar c ++ rest) ∨
      ∃ reason, IsFaulty none reason (b :: bytes) := by
  cases hopening : opening b with
  | char c =>
      refine Or.inl ⟨c, bytes, ?_⟩
      rw [encodeChar_of_opening hopening]
      rfl
  | longer p =>
      rcases pending_cases p bytes with
        ⟨c, more, rest, rfl, hmore⟩ | ⟨reason, hfault, later, hlater⟩
      · refine Or.inl ⟨c, rest, ?_⟩
        rw [encodeChar_of_completes hopening hmore]
        rfl
      · refine Or.inr ⟨reason, fun start size => ?_, later, ?_⟩
        · rw [faultFrom, hopening]
          exact hfault start 1
        · rw [decodeFrom, hopening]
          exact hlater
  | invalid =>
      refine Or.inr ⟨.invalidStart, fun start size => ?_, decodeFrom none bytes, ?_⟩
      · rw [faultFrom, hopening]
      · rw [decodeFrom, hopening]

/-! ## Whole byte sequences -/

theorem encodeChar_ne_nil (c : Char) : encodeChar c ≠ [] := by
  rcases encodeChar_cases c with ⟨b, h, -⟩ | ⟨b, p, bytes, h, -⟩
  · rw [h]
    exact List.cons_ne_nil _ _
  · rw [h]
    exact List.cons_ne_nil _ _

/-- Bytes begin with those of a text, and either end there or go on with a fault. -/
theorem exists_encode_append (bytes : List UInt8) :
    ∃ t rest, bytes = encode t ++ rest ∧ (rest = [] ∨ ∃ reason, IsFaulty none reason rest) := by
  induction hlength : bytes.length using Nat.strongRecOn generalizing bytes with
  | _ n ih =>
      cases bytes with
      | nil => exact ⟨[], [], rfl, Or.inl rfl⟩
      | cons b bytes =>
          rcases head_cases b bytes with ⟨c, more, hbytes⟩ | hfaulty
          · have hpos := List.length_pos_iff.2 (encodeChar_ne_nil c)
            have hless : more.length < n := by
              rw [← hlength, hbytes, List.length_append]
              omega
            obtain ⟨t, rest, rfl, hrest⟩ := ih more.length hless more rfl
            refine ⟨c :: t, rest, ?_, hrest⟩
            rw [hbytes, encode_cons, List.append_assoc]
          · exact ⟨[], b :: bytes, rfl, Or.inr hfaulty⟩

/-- A fault is not found before the character at which the search begins. -/
theorem le_offset_of_faultFrom {start size : Nat} {pending : Option Pending}
    {bytes : List UInt8} {fault : Fault} (h : faultFrom start size pending bytes = some fault) :
    start ≤ fault.offset := by
  -- The start is that of the character that is pending, and moves on when it is complete.
  induction bytes generalizing start size pending with
  | nil =>
      cases pending with
      | none => cases h
      | some p =>
          cases h
          exact Nat.le_refl start
  | cons b bytes ih =>
      cases pending with
      | none =>
          rw [faultFrom] at h
          cases hopening : opening b with
          | char c =>
              rw [hopening] at h
              exact Nat.le_of_succ_le (ih h)
          | longer p =>
              rw [hopening] at h
              exact ih h
          | invalid =>
              rw [hopening] at h
              cases h
              exact Nat.le_refl start
      | some p =>
          rw [faultFrom] at h
          split at h
          · split at h
            · have hle := ih h
              omega
            · exact ih h
          · cases h
            exact Nat.le_refl start

/-! ## The first fault -/

/-- Bytes have no fault exactly if they are those of a text. -/
theorem firstFault?_eq_none_iff : firstFault? bytes = none ↔ ∃ t, encode t = bytes := by
  constructor
  · intro h
    obtain ⟨t, rest, rfl, rfl | ⟨reason, hfaulty⟩⟩ := exists_encode_append bytes
    · exact ⟨t, (List.append_nil _).symm⟩
    · rw [firstFault?, faultFrom_encode_append, hfaulty.fault] at h
      cases h
  · rintro ⟨t, rfl⟩
    exact firstFault?_encode t

/-- Bytes without a fault are those of the text that they are decoded to. -/
theorem encode_decode (h : firstFault? bytes = none) : encode (decode bytes) = bytes := by
  obtain ⟨t, rfl⟩ := firstFault?_eq_none_iff.1 h
  rw [decode_encode]

/-- The first fault stands behind the bytes of a text, which are as many as any text has whose
bytes the sequence begins with. The decoder keeps this text and goes on with a replacement
character. -/
theorem exists_of_firstFault? {fault : Fault} (h : firstFault? bytes = some fault) :
    ∃ t rest later, bytes = encode t ++ rest ∧ (encode t).length = fault.offset ∧
      decode bytes = t ++ replacement :: later ∧
      ∀ other, encode other <+: bytes → (encode other).length ≤ (encode t).length := by
  obtain ⟨t, rest, rfl, rfl | ⟨reason, hfault, later, hlater⟩⟩ := exists_encode_append bytes
  · rw [List.append_nil, firstFault?_encode] at h
    cases h
  · have hoffset := h
    rw [firstFault?, faultFrom_encode_append, hfault, Option.some.injEq] at hoffset
    obtain rfl := hoffset
    refine ⟨t, rest, later, rfl, (Nat.zero_add _).symm, ?_, ?_⟩
    · rw [decode_encode_append]
      exact congrArg (t ++ ·) hlater
    · -- Behind the bytes of any text the search goes on, and finds the same fault.
      rintro other ⟨more, hmore⟩
      rw [← hmore, firstFault?, faultFrom_encode_append] at h
      have hle := le_offset_of_faultFrom h
      simpa using hle

end Iconsmith.Text.Utf8
