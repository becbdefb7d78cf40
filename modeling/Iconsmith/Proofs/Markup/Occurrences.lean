import Iconsmith.Proofs.Markup.Alike

set_option autoImplicit false

/-!
# What stands in alike texts

Alike texts differ in the two forms of a colour only. A character that is in neither form
stands in both texts, with alike texts after it (`Alike.suffix`), and so does any literal that
begins with one and has no quotes (`Alike.infix_iff`). A literal with quotes that cannot begin
a colour is at the heads of both texts when it is at that of one (`Alike.of_literal`,
`Alike.of_literal_right`).
-/

namespace Iconsmith.Markup

/-! ## Foreign characters -/

/-- A character that stands in neither form of a colour. -/
def IsForeign (c : Char) : Prop := c ∉ '#' :: '0' :: currentColour

instance : DecidablePred IsForeign := fun c =>
  inferInstanceAs (Decidable (c ∉ '#' :: '0' :: currentColour))

theorem IsForeign.not_mem_zeroColour {c : Char} (hc : IsForeign c) {zeros : Text}
    (hzeros : ∀ d ∈ zeros, d = '0') : c ∉ zeroColour zeros := by
  have hown : ∀ d ∈ ['"', '#', '0'], d ∈ '#' :: '0' :: currentColour := by decide
  exact Markup.not_mem_zeroColour hzeros fun hmem => hc (hown c hmem)

theorem IsForeign.not_mem_currentColour {c : Char} (hc : IsForeign c) : c ∉ currentColour :=
  fun hmem => hc (List.mem_cons_of_mem _ (List.mem_cons_of_mem _ hmem))

/-- An end of two texts together that begins with a character which the first lacks is an end of
the second. -/
theorem suffix_of_suffix_append {c : Char} {s d t : Text} (hc : c ∉ d)
    (h : c :: s <:+ d ++ t) : c :: s <:+ t := by
  induction d with
  | nil => exact h
  | cons x d ih =>
      rw [List.mem_cons, not_or] at hc
      rcases List.suffix_cons_iff.1 h with heq | h
      · exact absurd (List.cons.inj heq).1 hc.1
      · exact ih hc.2 h

variable {t t' : Text} {c : Char} {l s : Text}

/-- Where a foreign character stands in the first text it stands in the second, and what follows
it is alike. -/
theorem Alike.suffix (h : Alike [] [] t t') (hc : IsForeign c) (hs : c :: s <:+ t) :
    ∃ s', c :: s' <:+ t' ∧ Alike [] [] s s' := by
  induction h with
  | rest => exact absurd (List.suffix_nil.1 hs) (List.cons_ne_nil c s)
  | @char d t t' h ih =>
      rcases List.suffix_cons_iff.1 hs with heq | hs
      · obtain ⟨rfl, rfl⟩ := List.cons.inj heq
        exact ⟨t', List.suffix_refl _, h⟩
      · obtain ⟨s', hs', halike⟩ := ih hs
        exact ⟨s', hs'.trans (List.suffix_cons d t'), halike⟩
  | @colour zeros t t' hzeros h ih =>
      obtain ⟨s', hs', halike⟩ := ih (suffix_of_suffix_append (hc.not_mem_zeroColour hzeros) hs)
      exact ⟨s', hs'.trans (List.suffix_append currentColour t'), halike⟩

/-- The same when it is seen in the second text. -/
theorem Alike.suffix_right (h : Alike [] [] t t') (hc : IsForeign c) (hs : c :: s <:+ t') :
    ∃ s₀, c :: s₀ <:+ t ∧ Alike [] [] s₀ s := by
  induction h with
  | rest => exact absurd (List.suffix_nil.1 hs) (List.cons_ne_nil c s)
  | @char d t t' h ih =>
      rcases List.suffix_cons_iff.1 hs with heq | hs
      · obtain ⟨rfl, rfl⟩ := List.cons.inj heq
        exact ⟨t, List.suffix_refl _, h⟩
      · obtain ⟨s₀, hs₀, halike⟩ := ih hs
        exact ⟨s₀, hs₀.trans (List.suffix_cons d t), halike⟩
  | @colour zeros t t' _ h ih =>
      obtain ⟨s₀, hs₀, halike⟩ := ih (suffix_of_suffix_append hc.not_mem_currentColour hs)
      exact ⟨s₀, hs₀.trans (List.suffix_append (zeroColour zeros) t), halike⟩

/-- A literal without quotes stands in both texts or in neither, if colours lack its first
character. -/
theorem Alike.infix_iff (h : Alike [] [] t t') (hc : IsForeign c) (hl : '"' ∉ l) :
    c :: l <:+: t ↔ c :: l <:+: t' := by
  rw [List.infix_iff_prefix_suffix, List.infix_iff_prefix_suffix]
  constructor
  · rintro ⟨u, ⟨x, rfl⟩, hu⟩
    obtain ⟨s', hs', halike⟩ := h.suffix hc hu
    obtain ⟨x', rfl, -⟩ := halike.of_append hl (Nat.zero_le _)
    exact ⟨c :: (l ++ x'), List.prefix_append (c :: l) x', hs'⟩
  · rintro ⟨u, ⟨x, rfl⟩, hu⟩
    obtain ⟨s₀, hs₀, halike⟩ := h.suffix_right hc hu
    have hlead := halike.prefix_of_prefix hl (List.prefix_append l x)
    exact ⟨c :: s₀, List.cons_prefix_cons.2 ⟨rfl, hlead⟩, hs₀⟩

/-- Alike texts begin with the same character. -/
theorem Alike.head?_eq (h : Alike [] [] t t') : t'.head? = t.head? := by
  cases h with
  | rest => rfl
  | char c _ => rfl
  | colour _ _ => rfl

/-- A text without quotes at the head of the second is at the head of the first. -/
theorem Alike.of_append_right {u : Text} (h : Alike [] [] u (l ++ t')) (hl : '"' ∉ l) :
    ∃ t, u = l ++ t ∧ Alike [] [] t t' := by
  induction l generalizing u with
  | nil => exact ⟨u, rfl, h⟩
  | cons c l ih =>
      rw [List.mem_cons, not_or] at hl
      obtain ⟨s, rfl, hs⟩ := h.of_cons_right (Ne.symm hl.1) (Nat.zero_le _)
      obtain ⟨t, rfl, ht⟩ := ih hs hl.2
      exact ⟨t, rfl, ht⟩

/-- A foreign character stands in both texts or in neither. -/
theorem Alike.mem_iff (h : Alike [] [] t t') (hc : IsForeign c) : c ∈ t ↔ c ∈ t' := by
  rw [← List.singleton_infix_iff, ← List.singleton_infix_iff]
  exact h.infix_iff hc List.not_mem_nil

/-- The first lines of alike texts are alike. -/
theorem Alike.firstLine (h : Alike [] [] t t') :
    Alike [] [] (t.takeWhile (· ≠ '\n')) (t'.takeWhile (· ≠ '\n')) := by
  have hfeed : IsForeign '\n' := by decide
  have hkept : ∀ {d : Text}, '\n' ∉ d → ∀ c ∈ d, decide (c ≠ '\n') = true := by
    intro d hd c hc
    exact decide_eq_true fun heq => hd (heq ▸ hc)
  induction h with
  | rest => exact .rest
  | @char c t t' h ih =>
      by_cases hc : c = '\n'
      · subst hc
        exact .rest
      · rw [List.takeWhile_cons_of_pos (by simpa using hc),
          List.takeWhile_cons_of_pos (by simpa using hc)]
        exact .char c ih
  | @colour zeros t t' hzeros h ih =>
      rw [List.takeWhile_append_of_pos (hkept (hfeed.not_mem_zeroColour hzeros)),
        List.takeWhile_append_of_pos (hkept hfeed.not_mem_currentColour)]
      exact .colour hzeros ih

/-- Whether a quote stands in a literal at its end or before a certain character. -/
def hasQuoteBefore (d : Char) : Text → Bool
  | [] => false
  | ['"'] => true
  | '"' :: c :: rest => c = d || hasQuoteBefore d (c :: rest)
  | _ :: rest => hasQuoteBefore d rest

/-- A literal in which no quote can begin a colour of zeros stands at the heads of both texts. -/
theorem Alike.of_literal {u : Text} (h : Alike [] [] (l ++ t) u)
    (hl : hasQuoteBefore '#' l = false) : ∃ t', u = l ++ t' ∧ Alike [] [] t t' := by
  fun_induction hasQuoteBefore '#' l generalizing u with
  | case1 => exact ⟨u, rfl, h⟩
  | case2 => cases hl
  | case3 c rest ih =>
      rw [Bool.or_eq_false_iff, decide_eq_false_iff_not] at hl
      obtain ⟨s, rfl, hs | ⟨zeros, v, v', -, heq, -⟩⟩ := h.of_quote (Nat.zero_le _)
      · obtain ⟨t', rfl, ht'⟩ := ih hs hl.2
        exact ⟨t', rfl, ht'⟩
      · -- A colour would begin here, but no hash follows a quote in the literal.
        exact absurd (List.cons.inj heq).1 hl.1
  | case4 c rest hlast hquote ih =>
      have hc : c ≠ '"' := by
        rintro rfl
        cases rest with
        | nil => exact hlast rfl rfl
        | cons d rest => exact hquote d rest rfl rfl
      obtain ⟨s, rfl, hs⟩ := h.of_cons hc (Nat.zero_le _)
      obtain ⟨t', rfl, ht'⟩ := ih hs hl
      exact ⟨t', rfl, ht'⟩

/-- A quote in the second text stands in the first, and ends the head of a colour if what
follows is not alike. -/
theorem Alike.of_quote_right {u : Text} (h : Alike [] [] u ('"' :: t')) :
    ∃ t, u = '"' :: t ∧ (Alike [] [] t t' ∨ t'.head? = some 'c') := by
  generalize ht : '"' :: t' = s at h
  cases h with
  | rest => cases ht
  | char d h =>
      cases ht
      exact ⟨_, rfl, Or.inl h⟩
  | colour _ h =>
      cases ht
      exact ⟨_, rfl, Or.inr rfl⟩

/-- A literal in which no quote can begin the current colour stands at the heads of both texts
when it stands at that of the second. -/
theorem Alike.of_literal_right {u : Text} (h : Alike [] [] u (l ++ t'))
    (hl : hasQuoteBefore 'c' l = false) : ∃ t, u = l ++ t ∧ Alike [] [] t t' := by
  fun_induction hasQuoteBefore 'c' l generalizing u with
  | case1 => exact ⟨u, rfl, h⟩
  | case2 => cases hl
  | case3 c rest ih =>
      rw [Bool.or_eq_false_iff, decide_eq_false_iff_not] at hl
      obtain ⟨s, rfl, hs | hhead⟩ := h.of_quote_right
      · obtain ⟨t, rfl, ht⟩ := ih hs hl.2
        exact ⟨t, rfl, ht⟩
      · -- Here the second text has the colour, whose quote is followed by its first letter.
        exact absurd (Option.some.inj hhead) hl.1
  | case4 c rest hlast hquote ih =>
      have hc : c ≠ '"' := by
        rintro rfl
        cases rest with
        | nil => exact hlast rfl rfl
        | cons d rest => exact hquote d rest rfl rfl
      obtain ⟨s, rfl, hs⟩ := h.of_cons_right hc (Nat.zero_le _)
      obtain ⟨t, rfl, ht⟩ := ih hs hl
      exact ⟨t, rfl, ht⟩

end Iconsmith.Markup
