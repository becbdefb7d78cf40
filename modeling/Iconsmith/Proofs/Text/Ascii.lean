import Iconsmith.Text.Case

set_option autoImplicit false

/-!
# ASCII characters

The letters and digits of ASCII, and the characters before its letters. What all of its characters
have in common is found by going through them (`of_ascii`); so the digits are their own capitals,
and no capital form brings in a blank, a quote or another character before the letters.
-/

namespace Iconsmith.Text

/-- What can be seen by going through the ASCII characters holds of each of them. -/
theorem of_ascii {p : Char → Prop} (h : ∀ n < 128, p (Char.ofNat n)) {c : Char}
    (hc : c.toNat < 128) : p c := by
  have hcase := h c.toNat hc
  rwa [Char.ofNat_toNat] at hcase

/-! ## Letters and digits -/

theorem toNat_lt_of_isLower {c : Char} (h : c.isLower) : c.toNat < 128 := by
  have hrange : (decide (c.val ≥ 97) && decide (c.val ≤ 122)) = true := h
  rw [Bool.and_eq_true, decide_eq_true_eq, decide_eq_true_eq, UInt32.le_iff_toNat_le] at hrange
  exact Nat.lt_of_le_of_lt (UInt32.le_iff_toNat_le.1 hrange.2) (by decide)

theorem toNat_lt_of_isDigit {c : Char} (h : c.isDigit) : c.toNat < 128 := by
  simp only [Char.isDigit, Bool.and_eq_true, decide_eq_true_eq, ge_iff_le,
    UInt32.le_iff_toNat_le] at h
  exact Nat.lt_of_le_of_lt h.2 (by decide)

theorem not_isDigit_of_isLower {c : Char} (h : c.isLower) : ¬c.isDigit :=
  of_ascii (p := fun c => c.isLower → ¬c.isDigit) (by decide) (toNat_lt_of_isLower h) h

theorem isAlphanum_iff {c : Char} : c.isAlphanum ↔ c.isUpper ∨ c.isLower ∨ c.isDigit := by
  show (c.isUpper || c.isLower || c.isDigit) = true ↔ _
  rw [Bool.or_eq_true, Bool.or_eq_true, or_assoc]

/-- A digit is its own capital. -/
theorem capital_of_isDigit {d : Char} (h : d.isDigit) : capital d = [d] :=
  of_ascii (p := fun d => d.isDigit → capital d = [d]) (by decide) (toNat_lt_of_isDigit h) h

/-! ## Characters before the letters -/

/-- A character before the letters: a control character, a blank, a mark or a digit. -/
def IsBeforeLetters (c : Char) : Prop := 0 < c.toNat ∧ c.toNat < 65

instance : DecidablePred IsBeforeLetters := fun c =>
  inferInstanceAs (Decidable (0 < c.toNat ∧ c.toNat < 65))

theorem IsBeforeLetters.ne_ofNat {c : Char} (hc : IsBeforeLetters c) {n : Nat} (h : 65 ≤ n) :
    c ≠ Char.ofNat n := by
  rintro rfl
  obtain ⟨hpos, hle⟩ := hc
  by_cases hvalid : n.isValidChar
  · rw [Char.ofNat, dif_pos hvalid] at hle
    have hsame : (Char.ofNatAux n hvalid).toNat = n := rfl
    omega
  · rw [Char.ofNat, dif_neg hvalid] at hpos
    exact absurd hpos (by decide)

/-- The capital form of a character holds one before the letters only if the character is that
one. -/
theorem IsBeforeLetters.not_mem_capital {b c : Char} (hb : IsBeforeLetters b) (h : b ≠ c) :
    b ∉ capital c := by
  have hlong : ∀ row ∈ longCapitals, ∀ n ∈ row.2, 65 ≤ n := by decide +kernel
  have hruns : ∀ run ∈ capitalRuns, 65 ≤ (run.first : Int) + run.shift := by decide +kernel
  rw [capital]
  split
  · rename_i hsmall
    rw [List.mem_singleton]
    have hupper : c.toUpper = c ∨ 65 ≤ c.toUpper.toNat :=
      of_ascii (p := fun c => c.toUpper = c ∨ 65 ≤ c.toUpper.toNat) (by decide) hsmall
    rcases hupper with hsame | hlarge
    · rwa [hsame]
    · rintro rfl
      exact absurd hb.2 (Nat.not_lt_of_le hlarge)
  · rw [mapped]
    split
    · rename_i image hlookup
      intro hmem
      obtain ⟨n, hn, heq⟩ := List.mem_map.1 hmem
      obtain ⟨before, after, hrows, -⟩ := List.lookup_eq_some_iff.1 hlookup
      have hrow : (c.toNat, image) ∈ longCapitals := by simp [hrows]
      exact hb.ne_ofNat (hlong _ hrow n hn) heq.symm
    · rw [List.mem_singleton]
      cases hfound : capitalRuns.findSome? fun run => run.image? c.toNat with
      | none => exact h
      | some d =>
          obtain ⟨run, hrun, himage⟩ := List.exists_of_findSome?_eq_some hfound
          rw [CaseRun.image?] at himage
          split at himage
          · rename_i hin
            cases himage
            simp only [Bool.and_eq_true, decide_eq_true_eq] at hin
            have hshifted := hruns run hrun
            exact hb.ne_ofNat (by omega)
          · cases himage

end Iconsmith.Text
