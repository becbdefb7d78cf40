import Iconsmith.Text.Basic
import Mathlib.Data.List.Infix

set_option autoImplicit false

/-!
# Replacing in parts of a text

A text is replaced in part by part: what no match begins in is kept
(`replaceSpans_append_of_none`), and a match is replaced as a whole
(`replaceSpans_append_of_some`). When every match costs the text a character of some kind, a
text that has lost none of that kind had no match (`span_eq_none_of_countP_le`). A literal is
replaced in the pieces of a text between characters that it lacks (`replaceAll_append_cons`), one of
a single character at each place where it stands (`replaceAll_singleton`), and replacing it keeps
just the texts without it (`replaceAll_eq_self_iff`).
-/

namespace Iconsmith.Text

variable {span : Text → Option Nat} {fill : Text}

theorem replaceSpans_cons_of_none {c : Char} {t : Text} (h : span (c :: t) = none) :
    replaceSpans span fill 0 (c :: t) = c :: replaceSpans span fill 0 t := by
  simp only [replaceSpans, h]

/-- What stands before the first match is kept. -/
theorem replaceSpans_append_of_none (before after : Text)
    (h : ∀ u, u <:+ before → u ≠ [] → span (u ++ after) = none) :
    replaceSpans span fill 0 (before ++ after) = before ++ replaceSpans span fill 0 after := by
  induction before with
  | nil => rfl
  | cons c before ih =>
      have hhead : span (c :: (before ++ after)) = none :=
        h (c :: before) (List.suffix_refl _) (List.cons_ne_nil c before)
      have htail := ih fun u hu => h u (hu.trans (List.suffix_cons c before))
      rw [List.cons_append, replaceSpans_cons_of_none hhead, htail, List.cons_append]

/-- What stands before an end of a text is kept when no match begins in it. -/
theorem replaceSpans_of_suffix (fill : Text) {t after : Text} (hsuffix : after <:+ t)
    (h : ∀ u, u <:+ t → after.length < u.length → span u = none) :
    ∃ before, t = before ++ after ∧
      replaceSpans span fill 0 t = before ++ replaceSpans span fill 0 after := by
  obtain ⟨before, rfl⟩ := hsuffix
  refine ⟨before, rfl, replaceSpans_append_of_none before after fun u hu hne => h _ ?_ ?_⟩
  · obtain ⟨x, rfl⟩ := hu
    exact ⟨x, (List.append_assoc x u after).symm⟩
  · rw [List.length_append]
    exact Nat.lt_add_of_pos_left (List.length_pos_iff.2 hne)

/-- A text in which no match can begin is kept before any other. -/
theorem replaceSpans_append_of_not_mem {first : Char}
    (hspan : ∀ c t, c ≠ first → span (c :: t) = none) {before : Text} (after : Text)
    (h : first ∉ before) :
    replaceSpans span fill 0 (before ++ after) = before ++ replaceSpans span fill 0 after := by
  refine replaceSpans_append_of_none before after fun u hu hne => ?_
  cases u with
  | nil => exact absurd rfl hne
  | cons c u =>
      have hc : c ≠ first := fun heq => h (heq ▸ hu.subset List.mem_cons_self)
      exact hspan c (u ++ after) hc

theorem replaceSpans_skip (skipped after : Text) :
    replaceSpans span fill skipped.length (skipped ++ after) = replaceSpans span fill 0 after := by
  induction skipped with
  | nil => rfl
  | cons c skipped ih => exact ih

/-- A match is replaced as a whole. -/
theorem replaceSpans_append_of_some {c : Char} {found after : Text}
    (h : span (c :: found ++ after) = some (found.length + 1)) :
    replaceSpans span fill 0 (c :: found ++ after) = fill ++ replaceSpans span fill 0 after := by
  rw [List.cons_append] at h ⊢
  simp only [replaceSpans, h, replaceSpans_skip]

/-! ## Matches -/

/-- A part of a text: a character that is kept, or a match that is replaced. -/
inductive Segment where
  | kept (c : Char)
  | found (s : Text)
  deriving DecidableEq

/-- A part as it stands in the text. -/
def Segment.text : Segment → Text
  | .kept c => [c]
  | .found s => s

/-- A part after matches have been replaced. -/
def Segment.filled (fill : Text) : Segment → Text
  | .kept c => [c]
  | .found _ => fill

/-- The parts of a text in which matches are replaced, where `skip` characters still belong to
the last one. -/
def segments (span : Text → Option Nat) : Nat → Text → List Segment
  | _, [] => []
  | skip + 1, _ :: rest => segments span skip rest
  | 0, c :: rest =>
      match span (c :: rest) with
      | some (length + 1) => .found (c :: rest.take length) :: segments span length rest
      | _ => .kept c :: segments span 0 rest

/-- The parts make up the text. -/
theorem flatMap_text_segments (skip : Nat) (t : Text) :
    (segments span skip t).flatMap Segment.text = t.drop skip := by
  induction t generalizing skip with
  | nil => rw [segments, List.drop_nil, List.flatMap_nil]
  | cons c rest ih =>
      cases skip with
      | succ skip => exact ih skip
      | zero =>
          rw [segments, List.drop_zero]
          split
          · rename_i length _
            rw [List.flatMap_cons, ih, Segment.text, List.cons_append, List.take_append_drop]
          · rw [List.flatMap_cons, ih, Segment.text, List.drop_zero, List.singleton_append]

/-- A text is replaced in part by part. -/
theorem replaceSpans_eq_flatMap (fill : Text) (skip : Nat) (t : Text) :
    replaceSpans span fill skip t = (segments span skip t).flatMap (Segment.filled fill) := by
  induction t generalizing skip with
  | nil => rw [replaceSpans, segments, List.flatMap_nil]
  | cons c rest ih =>
      cases skip with
      | succ skip => exact ih skip
      | zero =>
          rw [replaceSpans, segments]
          cases span (c :: rest) with
          | none => exact congrArg (c :: ·) (ih 0)
          | some n =>
              cases n with
              | zero => exact congrArg (c :: ·) (ih 0)
              | succ length => exact congrArg (fill ++ ·) (ih length)

/-- A text keeps or loses characters, and takes in those of the filling. -/
theorem mem_replaceSpans {c : Char} {skip : Nat} {t : Text}
    (h : c ∈ replaceSpans span fill skip t) : c ∈ fill ∨ c ∈ t := by
  rw [replaceSpans_eq_flatMap] at h
  obtain ⟨part, hpart, hc⟩ := List.mem_flatMap.1 h
  cases part with
  | found s => exact Or.inl hc
  | kept d =>
      have htext : c ∈ (segments span skip t).flatMap Segment.text :=
        List.mem_flatMap.2 ⟨_, hpart, hc⟩
      rw [flatMap_text_segments] at htext
      exact Or.inr (List.mem_of_mem_drop htext)

/-- What is replaced is what has been found at some place. -/
theorem exists_span_of_found {skip : Nat} {t s : Text} (h : .found s ∈ segments span skip t) :
    ∃ u n, u <:+ t ∧ span u = some n ∧ s = u.take n := by
  have hlater : ∀ {c : Char} {rest : Text}, (∃ u n, u <:+ rest ∧ span u = some n ∧ s = u.take n) →
      ∃ u n, u <:+ c :: rest ∧ span u = some n ∧ s = u.take n :=
    fun ⟨u, n, hu, hspan, hs⟩ => ⟨u, n, hu.trans (List.suffix_cons _ _), hspan, hs⟩
  -- On the text: a match begins here or at a later suffix.
  induction t generalizing skip with
  | nil =>
      rw [segments] at h
      cases h
  | cons c rest ih =>
      cases skip with
      | succ skip => exact hlater (ih h)
      | zero =>
          rw [segments] at h
          split at h
          · rename_i length hspan
            rcases List.mem_cons.1 h with heq | hmem
            · cases heq
              exact ⟨_, _, List.suffix_refl _, hspan, rfl⟩
            · exact hlater (ih hmem)
          · rcases List.mem_cons.1 h with heq | hmem
            · cases heq
            · exact hlater (ih hmem)

/-- What could be found at some place is found, unless the place is inside of another match. -/
theorem found_or_inside {skip : Nat} {t u : Text} {n : Nat} (hu : u <:+ t.drop skip)
    (hne : u ≠ []) (hspan : span u = some (n + 1)) :
    .found (u.take (n + 1)) ∈ segments span skip t ∨
      ∃ x y, .found (x ++ y) ∈ segments span skip t ∧ x ≠ [] ∧ y ≠ [] ∧ y <+: u := by
  induction t generalizing skip with
  | nil =>
      rw [List.drop_nil] at hu
      exact absurd (List.suffix_nil.1 hu) hne
  | cons c rest ih =>
      cases skip with
      | succ skip => exact ih hu
      | zero =>
          rw [List.drop_zero] at hu
          rw [segments]
          rcases List.suffix_cons_iff.1 hu with rfl | hu
          · rw [hspan]
            exact Or.inl List.mem_cons_self
          · split
            · rename_i length _
              by_cases hlength : u.length ≤ (rest.drop length).length
              · have hafter : u <:+ rest.drop length :=
                  List.suffix_of_suffix_length_le hu (List.drop_suffix length rest) hlength
                rcases ih hafter with hfound | ⟨x, y, hfound, hx, hy, hyu⟩
                · exact Or.inl (List.mem_cons_of_mem _ hfound)
                · exact Or.inr ⟨x, y, List.mem_cons_of_mem _ hfound, hx, hy, hyu⟩
              · -- The place is before the end of the match at the head.
                obtain ⟨x, rfl⟩ := hu
                rw [List.length_drop, List.length_append] at hlength
                have hpos := List.length_pos_iff.2 hne
                refine Or.inr ⟨c :: x, u.take (length - x.length), ?_, List.cons_ne_nil c x, ?_,
                  List.take_prefix _ u⟩
                · rw [List.take_append, List.take_of_length_le (by omega)]
                  exact List.mem_cons_self
                · rw [← List.length_pos_iff, List.length_take]
                  omega
            · rw [← List.drop_zero (l := rest)] at hu
              rcases ih hu with hfound | ⟨x, y, hfound, hx, hy, hyu⟩
              · exact Or.inl (List.mem_cons_of_mem _ hfound)
              · exact Or.inr ⟨x, y, List.mem_cons_of_mem _ hfound, hx, hy, hyu⟩

/-! ## Literals -/

section Literals

variable {pattern : Text}

theorem literalSpan_eq_none {t : Text} : literalSpan pattern t = none ↔ ¬pattern <+: t := by
  rw [literalSpan, ite_eq_right_iff, ← List.isPrefixOf_iff_prefix]
  exact forall_congr' fun _ => iff_of_false (Option.some_ne_none _) id

/-- Whether a literal occurs in a text. -/
def holds (pattern : Text) : Text → Bool
  | [] => pattern.isPrefixOf []
  | c :: t => pattern.isPrefixOf (c :: t) || holds pattern t

theorem holds_iff {t : Text} : holds pattern t ↔ pattern <:+: t := by
  induction t with
  | nil => rw [holds, List.isPrefixOf_iff_prefix, List.prefix_nil, List.infix_nil]
  | cons c t ih =>
      rw [holds, Bool.or_eq_true, List.isPrefixOf_iff_prefix, ih, List.infix_cons_iff]

/-- What a literal occurs in is settled in one pass over the text. -/
instance decidableInfix (t : Text) : Decidable (pattern <:+: t) := decidable_of_iff _ holds_iff

/-- A text in which a literal does not occur is kept. -/
theorem replaceAll_of_not_infix (fill : Text) {t : Text} (h : ¬pattern <:+: t) :
    replaceAll pattern fill t = t := by
  refine replaceSpans_of_span_eq_none _ fill t fun u hu => literalSpan_eq_none.2 fun hleads => ?_
  exact h (hleads.isInfix.trans hu.isInfix)

/-- A literal is replaced where it stands first. -/
theorem replaceAll_append_literal (fill : Text) (before after : Text) (hne : pattern ≠ [])
    (h : ¬pattern <:+: before ++ pattern.dropLast) :
    replaceAll pattern fill (before ++ (pattern ++ after)) =
      before ++ (fill ++ replaceAll pattern fill after) := by
  have hbefore : ∀ u, u <:+ before → u ≠ [] → ¬pattern <+: u ++ (pattern ++ after) := by
    intro u hu hnil hleads
    have hcut : u ++ pattern.dropLast <+: u ++ (pattern ++ after) :=
      (List.prefix_append_right_inj u).2
        ((List.dropLast_prefix pattern).trans (List.prefix_append _ _))
    have hlength : pattern.length ≤ (u ++ pattern.dropLast).length := by
      have hpos := List.length_pos_iff.2 hnil
      rw [List.length_append, List.length_dropLast]
      omega
    have hinside := List.prefix_of_prefix_length_le hleads hcut hlength
    obtain ⟨x, rfl⟩ := hu
    exact h (hinside.isInfix.trans ⟨x, [], by simp⟩)
  obtain ⟨c, found, rfl⟩ := List.exists_cons_of_ne_nil hne
  have hmatch : literalSpan (c :: found) (c :: found ++ after) = some (found.length + 1) :=
    if_pos (List.isPrefixOf_iff_prefix.2 (List.prefix_append _ _))
  rw [replaceAll, replaceSpans_append_of_none before _ fun u hu hnil =>
    literalSpan_eq_none.2 (hbefore u hu hnil), replaceSpans_append_of_some hmatch]
  rfl

theorem replaceSpans_literal_append_cons (fill : Text) {c : Char} (hc : c ∉ pattern)
    (t u : Text) (skip : Nat) (hskip : skip ≤ t.length) :
    replaceSpans (literalSpan pattern) fill skip (t ++ c :: u) =
      replaceSpans (literalSpan pattern) fill skip t ++ c ::
        replaceSpans (literalSpan pattern) fill 0 u := by
  have hbound : ∀ t, pattern <+: t ++ c :: u ↔ pattern <+: t := fun t =>
    ⟨prefix_of_prefix_append (by simpa using hc), fun h => h.trans (List.prefix_append _ _)⟩
  induction t generalizing skip with
  | nil =>
      obtain rfl := Nat.le_zero.1 hskip
      have hspan : literalSpan pattern (c :: u) = none ∨ literalSpan pattern (c :: u) = some 0 := by
        rw [literalSpan]
        split
        · rename_i hleads
          have hnil := (hbound []).1 (List.isPrefixOf_iff_prefix.1 hleads)
          exact Or.inr (by rw [List.prefix_nil.1 hnil]; rfl)
        · exact Or.inl rfl
      rcases hspan with hspan | hspan <;> simp [replaceSpans, hspan]
  | cons x t ih =>
      cases skip with
      | succ skip => exact ih skip (Nat.le_of_succ_le_succ hskip)
      | zero =>
          have hspan : literalSpan pattern (x :: (t ++ c :: u)) = literalSpan pattern (x :: t) := by
            have hhead := hbound (x :: t)
            rw [List.cons_append, ← List.isPrefixOf_iff_prefix, ← List.isPrefixOf_iff_prefix,
              ← Bool.eq_iff_iff] at hhead
            rw [literalSpan, literalSpan, hhead]
          rw [List.cons_append, replaceSpans, replaceSpans, hspan]
          split
          · rename_i length hlength
            have hle : length ≤ t.length := by
              rw [literalSpan, Option.ite_none_right_eq_some] at hlength
              have hleads := (List.isPrefixOf_iff_prefix.1 hlength.1).length_le
              rw [Option.some.inj hlength.2, List.length_cons] at hleads
              exact Nat.le_of_succ_le_succ hleads
            rw [ih length hle, List.append_assoc]
          · rw [ih 0 (Nat.zero_le _), List.cons_append]

/-- Where a character stands that a literal lacks, the literal is replaced before and after. -/
theorem replaceAll_append_cons (fill : Text) {c : Char} (hc : c ∉ pattern) (t u : Text) :
    replaceAll pattern fill (t ++ c :: u) =
      replaceAll pattern fill t ++ c :: replaceAll pattern fill u :=
  replaceSpans_literal_append_cons fill hc t u 0 (Nat.zero_le _)

theorem replaceAll_append_gap (fill : Text) {gap : Text} (hne : gap ≠ [])
    (hgap : ∀ c ∈ gap, c ∉ pattern) (t u : Text) :
    replaceAll pattern fill (t ++ gap ++ u) =
      replaceAll pattern fill t ++ gap ++ replaceAll pattern fill u := by
  induction gap generalizing t with
  | nil => exact absurd rfl hne
  | cons c gap ih =>
      obtain ⟨hc, hrest⟩ := List.forall_mem_cons.1 hgap
      rw [List.append_assoc, List.append_assoc, List.cons_append, List.cons_append,
        replaceAll_append_cons fill hc]
      cases gap with
      | nil => rfl
      | cons d gap =>
          have hinner := ih (List.cons_ne_nil d gap) hrest []
          rw [List.nil_append] at hinner
          rw [hinner]
          rfl

/-- In parts that are joined by a gap with none of its characters, a literal is replaced part by
part. -/
theorem replaceAll_joined (fill : Text) {gap : Text} (hne : gap ≠ [])
    (hgap : ∀ c ∈ gap, c ∉ pattern) (parts : List Text) :
    replaceAll pattern fill (joined gap parts) =
      joined gap (parts.map (replaceAll pattern fill)) := by
  fun_induction joined gap parts with
  | case1 => rfl
  | case2 part => rfl
  | case3 part next more ih =>
      rw [replaceAll_append_gap fill hne hgap, ih]
      rfl

/-- A literal of one character is replaced character by character. -/
theorem replaceAll_singleton (c : Char) (fill t : Text) :
    replaceAll [c] fill t = t.flatMap fun d => if d = c then fill else [d] := by
  induction t with
  | nil => rfl
  | cons d t ih =>
      rw [replaceAll] at ih ⊢
      rw [List.flatMap_cons]
      by_cases hd : d = c
      · have hspan : literalSpan [c] (d :: t) = some 1 := by simp [literalSpan, hd]
        rw [if_pos hd, ← ih]
        simp only [replaceSpans, hspan]
      · have hspan : literalSpan [c] (d :: t) = none := by simp [literalSpan, Ne.symm hd]
        rw [if_neg hd, replaceSpans_cons_of_none hspan, ih, List.singleton_append]

/-- What is found for a literal is the literal. -/
theorem eq_of_found {skip : Nat} {t s : Text}
    (h : .found s ∈ segments (literalSpan pattern) skip t) : s = pattern := by
  obtain ⟨u, n, -, hspan, rfl⟩ := exists_span_of_found h
  rw [literalSpan, Option.ite_none_right_eq_some] at hspan
  obtain ⟨hleads, heq⟩ := hspan
  obtain ⟨after, rfl⟩ := List.isPrefixOf_iff_prefix.1 hleads
  rw [← Option.some.inj heq, List.take_left]

/-- Every match makes a text longer or shorter by as much as the filling differs from it. -/
theorem length_flatMap_filled (fill : Text) {parts : List Segment}
    (hparts : ∀ s, .found s ∈ parts → s = pattern) :
    (parts.flatMap (Segment.filled fill)).length + parts.count (.found pattern) * pattern.length =
      (parts.flatMap Segment.text).length + parts.count (.found pattern) * fill.length := by
  induction parts with
  | nil => rw [List.count_nil, Nat.zero_mul, Nat.zero_mul, List.flatMap_nil, List.flatMap_nil]
  | cons part parts ih =>
      have hrest := ih fun s hs => hparts s (List.mem_cons_of_mem part hs)
      rw [List.flatMap_cons, List.flatMap_cons, List.length_append, List.length_append]
      -- Only a match counts, with the length of the literal on the one side and of the filling on
      -- the other.
      cases part with
      | kept c =>
          rw [List.count_cons_of_ne (by simp)]
          simp only [Segment.filled, Segment.text]
          omega
      | found s =>
          obtain rfl := hparts s List.mem_cons_self
          rw [List.count_cons_self, Nat.add_one_mul, Nat.add_one_mul]
          simp only [Segment.filled, Segment.text]
          omega

/-- Parts that make up the text before and after keep what stands in it, if the filling is as
long as a match. -/
theorem filled_eq_of_flatMap_eq {parts : List Segment}
    (hparts : ∀ s, .found s ∈ parts → s = pattern) (hlength : fill.length = pattern.length)
    (h : parts.flatMap (Segment.filled fill) = parts.flatMap Segment.text) :
    ∀ part ∈ parts, part.filled fill = part.text := by
  induction parts with
  | nil =>
      intro part hpart
      cases hpart
  | cons part parts ih =>
      have heven : (part.filled fill).length = part.text.length := by
        cases part with
        | kept c => rfl
        | found s =>
            obtain rfl := hparts s List.mem_cons_self
            exact hlength
      rw [List.flatMap_cons, List.flatMap_cons] at h
      obtain ⟨hpart, hrest⟩ := List.append_inj h heven
      refine List.forall_mem_cons.2 ⟨hpart, ?_⟩
      exact ih (fun s hs => hparts s (List.mem_cons_of_mem part hs)) hrest

/-- Replacing a literal keeps just the texts without it, unless it is replaced by itself. -/
theorem replaceAll_eq_self_iff (hne : pattern ≠ []) {t : Text} :
    replaceAll pattern fill t = t ↔ fill = pattern ∨ ¬pattern <:+: t := by
  have hparts : ∀ s, .found s ∈ segments (literalSpan pattern) 0 t → s = pattern :=
    fun s => eq_of_found
  have htext : (segments (literalSpan pattern) 0 t).flatMap Segment.text = t := by
    rw [flatMap_text_segments, List.drop_zero]
  rw [replaceAll, replaceSpans_eq_flatMap]
  constructor
  · intro h
    by_contra hboth
    obtain ⟨hfill, hinfix⟩ := not_or.1 hboth
    have hfound : .found pattern ∈ segments (literalSpan pattern) 0 t := by
      obtain ⟨before, after, heq⟩ := not_not.1 hinfix
      obtain ⟨c, rest, hpattern⟩ := List.exists_cons_of_ne_nil hne
      have hsuffix : pattern ++ after <:+ t.drop 0 := by
        rw [List.drop_zero, ← heq, List.append_assoc]
        exact List.suffix_append before _
      have hspan : literalSpan pattern (pattern ++ after) = some (rest.length + 1) := by
        rw [literalSpan, if_pos (List.isPrefixOf_iff_prefix.2 (List.prefix_append _ _)), hpattern]
        rfl
      rcases found_or_inside hsuffix (List.append_ne_nil_of_left_ne_nil hne after) hspan with
        hmem | ⟨x, y, hmem, -⟩
      · rwa [hparts _ hmem] at hmem
      · rwa [hparts _ hmem] at hmem
    have hlength : fill.length = pattern.length := by
      have hsum := length_flatMap_filled fill hparts
      rw [h, htext] at hsum
      have hproduct := Nat.add_left_cancel hsum
      exact (Nat.eq_of_mul_eq_mul_left (List.count_pos_iff.2 hfound) hproduct).symm
    exact hfill (filled_eq_of_flatMap_eq hparts hlength (h.trans htext.symm) _ hfound)
  · rintro (rfl | hinfix)
    · -- Every match is filled with what it is.
      have hsame : ∀ part ∈ segments (literalSpan fill) 0 t, part.filled fill = part.text := by
        intro part hpart
        cases part with
        | kept c => rfl
        | found s => exact (hparts s hpart).symm
      rw [List.flatMap_congr hsame, htext]
    · rw [← replaceSpans_eq_flatMap]
      exact replaceAll_of_not_infix fill hinfix

end Literals

/-! ## Counting -/

section Counting

variable {p : Char → Bool}

/-- A filling without characters of a kind brings none of them into the text. -/
theorem countP_replaceSpans_le (hfill : fill.countP p = 0) (t : Text) (skip : Nat) :
    (replaceSpans span fill skip t).countP p ≤ (t.drop skip).countP p := by
  induction t generalizing skip with
  | nil => simp [replaceSpans]
  | cons c t ih =>
      cases skip with
      | succ skip => exact ih skip
      | zero =>
          rw [replaceSpans, List.drop_zero]
          split
          · rename_i length _
            have hrest := ih length
            have hdrop : (t.drop length).countP p ≤ t.countP p :=
              (List.drop_sublist length t).countP_le
            have hhead : t.countP p ≤ (c :: t).countP p := (List.sublist_cons_self c t).countP_le
            rw [List.countP_append, hfill]
            omega
          · have hrest := ih 0
            rw [List.drop_zero] at hrest
            rw [List.countP_cons, List.countP_cons]
            omega

/-- A text from which no character of a kind has gone had no match, if every match holds one. -/
theorem span_eq_none_of_countP_le (hfill : fill.countP p = 0)
    (hspan : ∀ u n, span u = some n → 0 < (u.take n).countP p) {t : Text}
    (h : t.countP p ≤ (replaceSpans span fill 0 t).countP p) :
    ∀ u, u <:+ t → span u = none := by
  have hempty : span [] = none := by
    cases hnil : span [] with
    | none => rfl
    | some n =>
        have hpos := hspan [] n hnil
        simp at hpos
  induction t with
  | nil =>
      intro u hu
      rwa [List.suffix_nil.1 hu]
  | cons c t ih =>
      have hhead : span (c :: t) = none := by
        cases hmatch : span (c :: t) with
        | none => rfl
        | some n =>
            -- The first match would take a counted character away for good.
            have hpos := hspan (c :: t) n hmatch
            cases n with
            | zero => simp at hpos
            | succ n =>
                have hsplit := congrArg (List.countP p) (List.take_append_drop (n + 1) (c :: t))
                have hrest : (replaceSpans span fill n t).countP p ≤ (t.drop n).countP p :=
                  countP_replaceSpans_le hfill t n
                rw [List.countP_append, List.drop_succ_cons] at hsplit
                rw [replaceSpans, hmatch, List.countP_append, hfill] at h
                omega
      rw [replaceSpans_cons_of_none hhead, List.countP_cons, List.countP_cons] at h
      intro u hu
      rcases List.suffix_cons_iff.1 hu with rfl | hu
      · exact hhead
      · exact ih (by omega) u hu

end Counting

end Iconsmith.Text
