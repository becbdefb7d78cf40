import Iconsmith.Proofs.Drawing.Cleanability
import Iconsmith.Proofs.Drawing.Refinement
import Iconsmith.Proofs.Markup.Occurrences
import Iconsmith.Proofs.Text.Fields

set_option autoImplicit false

/-!
# Cleaning twice

A cleaned text can hold something to clean: a deletion joins what stood around it, and a colour
is looked for after the closing quote of the one before. `clean_clean_iff` says when the second
cleaning changes nothing: when what the deletions leave is bare (`IsBare`) and no two colours of
zeros share a quote (`SharesQuote`), as in every drawing of plain elements.

The deletions take characters away and the last cleaning takes hashes away, and nothing brings
either back, so each of them must be without effect where all together are
(`clean_eq_self_iff`). Recolouring leaves an alike text, which is bare when the text before was
(`isBare_alike`), and a colour in it must have come from a shared quote
(`hasColour_withCurrentColour_iff`).
-/

namespace Iconsmith.Drawing

open Markup

/-! ## Where the cleanings find something -/

/-- The first line of a text. -/
def firstLine (t : Text) : Text := t.takeWhile (· ≠ '\n')

/-- A line has a declaration when the opening of one is followed by a closing bracket. -/
theorem isSome_afterDeclaration?_iff (t : Text) :
    (afterDeclaration? t).isSome ↔ ∃ s, "<?xml".toList ++ s <:+ t ∧ '>' ∈ s := by
  induction t with
  | nil =>
      constructor
      · intro h
        cases h
      · rintro ⟨s, hs, -⟩
        exact absurd (List.suffix_nil.1 hs) (List.cons_ne_nil _ _)
  | cons c t ih =>
      rw [afterDeclaration?]
      cases hafter : afterDeclaration? t with
      | some after =>
          obtain ⟨s, hs, hclose⟩ := ih.1 (by rw [hafter]; rfl)
          exact iff_of_true rfl ⟨s, hs.trans (List.suffix_cons c t), hclose⟩
      | none =>
          have hlater : ¬∃ s, "<?xml".toList ++ s <:+ t ∧ '>' ∈ s := by
            rw [← ih, hafter]
            exact Bool.false_ne_true
          dsimp only
          constructor
          · intro h
            cases hlead : "<?xml".toList.isPrefixOf? (c :: t) with
            | none =>
                rw [hlead] at h
                cases h
            | some s =>
                rw [hlead] at h
                dsimp only at h
                rw [Option.isSome_map, Text.isSome_cutFirst_iff] at h
                exact ⟨s, List.isPrefixOf?_eq_some_iff_append_eq.1 hlead ▸ List.suffix_refl _, h⟩
          · rintro ⟨s, hs, hclose⟩
            rcases List.suffix_cons_iff.1 hs with heq | hs
            · rw [List.isPrefixOf?_eq_some_iff_append_eq.2 heq]
              dsimp only
              rw [Option.isSome_map, Text.isSome_cutFirst_iff]
              exact hclose
            · exact absurd ⟨s, hs, hclose⟩ hlater

/-- Alike lines have a declaration both or neither. -/
theorem isSome_afterDeclaration?_alike {t t' : Text} (h : Alike [] [] t t') :
    (afterDeclaration? t).isSome ↔ (afterDeclaration? t').isSome := by
  have hopen : IsForeign '<' := by decide
  have hclose : IsForeign '>' := by decide
  rw [isSome_afterDeclaration?_iff, isSome_afterDeclaration?_iff]
  constructor
  · rintro ⟨s, hs, hmem⟩
    obtain ⟨u, hu, halike⟩ := h.suffix (s := "?xml".toList ++ s) hopen hs
    obtain ⟨s', rfl, hs'⟩ := halike.of_append (by decide) (Nat.zero_le _)
    exact ⟨s', hu, (hs'.mem_iff hclose).1 hmem⟩
  · rintro ⟨s, hs, hmem⟩
    obtain ⟨u, hu, halike⟩ := h.suffix_right (s := "?xml".toList ++ s) hopen hs
    obtain ⟨s₀, rfl, hs₀⟩ := halike.of_literal_right (by decide)
    exact ⟨s₀, hu, (hs₀.mem_iff hclose).2 hmem⟩

/-- What goes on from the first two digits of a length up to its closing quote. -/
def IsLengthEnd (w : Text) : Prop := w ≠ [] ∧ ∀ c ∈ w, isLengthChar c

theorem quote_not_mem_of_isLengthEnd {w : Text} (h : IsLengthEnd w) : '"' ∉ w := fun hmem =>
  not_mem_of_isLengthChar (h.2 _ hmem) (by simp)

theorem afterLength?_eq_some {t u : Text} :
    afterLength? t = some u ↔ ∃ w, IsLengthEnd w ∧ t = "25".toList ++ (w ++ '"' :: u) := by
  unfold afterLength?
  constructor
  · intro h
    split at h
    · rename_i c rest hlead
      split at h
      · rename_i after hc hdrop
        cases h
        obtain ⟨w, hw, rfl⟩ := Text.exists_of_dropWhile_eq hdrop
        exact ⟨c :: w, ⟨List.cons_ne_nil _ _, List.forall_mem_cons.2 ⟨hc, hw⟩⟩,
          Text.isPrefixOf?_eq_some.1 hlead⟩
      · cases h
    · cases h
  · rintro ⟨w, ⟨hne, hw⟩, rfl⟩
    obtain ⟨c, w, rfl⟩ := List.exists_cons_of_ne_nil hne
    have hdrop : (w ++ '"' :: u).dropWhile isLengthChar = '"' :: u := by
      rw [List.dropWhile_append_of_pos fun d hd => hw d (List.mem_cons_of_mem c hd)]
      rfl
    have hlead : "25".toList.isPrefixOf? ("25".toList ++ (c :: w ++ '"' :: u)) =
        some (c :: (w ++ '"' :: u)) := List.isPrefixOf?_eq_some_iff_append_eq.2 rfl
    simp only [hlead, hw c List.mem_cons_self, hdrop]

/-- No end of a tag stands before the one at the head of a text. -/
theorem eq_nil_of_emptyTag {rest body after : Text}
    (hbody : '/' :: '>' :: rest = body ++ '/' :: '>' :: after)
    (hno : ¬"/>".toList <:+: body ++ ['/']) : body = [] := by
  match body, hbody with
  | [], _ => rfl
  | ['/'], hbody => exact absurd (List.cons.inj hbody).2 (by simp)
  | _ :: d :: body, hbody =>
      simp only [List.cons_append, List.cons.injEq] at hbody
      obtain ⟨rfl, rfl, -⟩ := hbody
      exact absurd (List.IsPrefix.isInfix ⟨body ++ ['/'], rfl⟩) hno

/-- An empty tag ends at the first end of one, if no line ends before it. -/
theorem afterEmptyTag?_eq_some {t after : Text} :
    afterEmptyTag? t = some after ↔
      ∃ body, t = body ++ '/' :: '>' :: after ∧ '\n' ∉ body ∧ ¬"/>".toList <:+: body ++ ['/'] := by
  fun_induction afterEmptyTag? t with
  | case1 =>
      refine iff_of_false nofun ?_
      rintro ⟨body, hbody, -⟩
      exact absurd hbody.symm (List.append_ne_nil_of_right_ne_nil _ (List.cons_ne_nil _ _))
  | case2 rest =>
      constructor
      · intro h
        cases h
        exact ⟨[], rfl, List.not_mem_nil, by decide⟩
      · rintro ⟨body, hbody, -, hno⟩
        obtain rfl := eq_nil_of_emptyTag hbody hno
        cases hbody
        rfl
  | case3 rest hne =>
      refine iff_of_false nofun ?_
      rintro ⟨body, hbody, hline, -⟩
      cases body with
      | nil => cases (List.cons.inj hbody).1
      | cons c body => exact hline ((List.cons.inj hbody).1 ▸ List.mem_cons_self)
  | case4 c rest hne hc ih =>
      rw [ih]
      constructor
      · rintro ⟨body, rfl, hline, hno⟩
        refine ⟨c :: body, rfl, by simp [Ne.symm hc, hline], ?_⟩
        rw [List.cons_append, List.infix_cons_iff]
        rintro (hlead | hlater)
        · -- An end that began here would have been found first.
          obtain ⟨rfl, hnext⟩ := List.cons_prefix_cons.1 hlead
          obtain ⟨x, hx⟩ := hnext.trans (List.prefix_append (body ++ ['/']) ('>' :: after))
          exact hne x rfl ((List.append_cons body '/' ('>' :: after)).trans hx.symm)
        · exact hno hlater
      · rintro ⟨body, hbody, hline, hno⟩
        cases body with
        | nil =>
            obtain ⟨rfl, rfl⟩ := List.cons.inj hbody
            exact absurd rfl (hne after rfl)
        | cons d body =>
            obtain ⟨rfl, rfl⟩ := List.cons.inj hbody
            refine ⟨body, rfl, fun hmem => hline (List.mem_cons_of_mem c hmem), fun hlater => ?_⟩
            exact hno (hlater.trans (List.suffix_cons c (body ++ ['/'])).isInfix)

/-- An empty tag ends on the first line when its end stands there. -/
theorem isSome_afterEmptyTag?_iff (t : Text) :
    (afterEmptyTag? t).isSome ↔ "/>".toList <:+: firstLine t := by
  fun_induction afterEmptyTag? t with
  | case1 => decide
  | case2 rest =>
      refine iff_of_true rfl (List.IsPrefix.isInfix ?_)
      exact ⟨firstLine rest, rfl⟩
  | case3 rest _ =>
      have hline : firstLine ('\n' :: rest) = [] := rfl
      rw [hline]
      decide
  | case4 c rest hno hc ih =>
      have hline : firstLine (c :: rest) = c :: firstLine rest :=
        List.takeWhile_cons_of_pos (decide_eq_true hc)
      rw [ih, hline, List.infix_cons_iff]
      refine ⟨Or.inr, fun h => h.resolve_left fun hlead => ?_⟩
      obtain ⟨rfl, hrest⟩ := List.cons_prefix_cons.1 hlead
      obtain ⟨x, hx⟩ := hrest.trans (List.takeWhile_prefix _)
      exact hno x rfl hx.symm

/-- The head of the tag of a background, up to the attribute that fills with nothing. -/
def backgroundHead (w h : Text) : Text :=
  "<rect width=\"".toList ++ ("25".toList ++ (w ++ '"' :: (" height=\"".toList ++
    ("25".toList ++ (h ++ '"' :: " fill=\"none\"".toList)))))

theorem backgroundHead_append (w h t : Text) : backgroundHead w h ++ t =
    "<rect width=\"".toList ++ ("25".toList ++ (w ++ '"' :: (" height=\"".toList ++
      ("25".toList ++ (h ++ '"' :: (" fill=\"none\"".toList ++ t)))))) := by
  have hassoc : ∀ a b c d e : Text,
      (a ++ (b ++ (w ++ '"' :: (c ++ (d ++ (h ++ '"' :: e)))))) ++ t =
        a ++ (b ++ (w ++ '"' :: (c ++ (d ++ (h ++ '"' :: (e ++ t)))))) := by
    intro a b c d e
    simp
  exact hassoc _ _ _ _ _

theorem afterBackground?_eq_some_iff {u after : Text} :
    afterBackground? u = some after ↔ ∃ w h t, IsLengthEnd w ∧ IsLengthEnd h ∧
      u = backgroundHead w h ++ t ∧ afterEmptyTag? t = some after := by
  rw [afterBackground?]
  constructor
  · intro h
    obtain ⟨t₁, h₁, h⟩ := Option.bind_eq_some_iff.1 h
    obtain ⟨t₂, h₂, h⟩ := Option.bind_eq_some_iff.1 h
    obtain ⟨t₃, h₃, h⟩ := Option.bind_eq_some_iff.1 h
    obtain ⟨t₄, h₄, h⟩ := Option.bind_eq_some_iff.1 h
    obtain ⟨t₅, h₅, h⟩ := Option.bind_eq_some_iff.1 h
    obtain ⟨w, hw, hwidth⟩ := afterLength?_eq_some.1 h₂
    obtain ⟨l, hl, hheight⟩ := afterLength?_eq_some.1 h₄
    refine ⟨w, l, t₅, hw, hl, ?_, h⟩
    rw [backgroundHead_append, Text.isPrefixOf?_eq_some.1 h₁, hwidth,
      Text.isPrefixOf?_eq_some.1 h₃, hheight, Text.isPrefixOf?_eq_some.1 h₅]
  · rintro ⟨w, l, t, hw, hl, hu, hend⟩
    rw [backgroundHead_append] at hu
    have h₁ := Text.isPrefixOf?_eq_some.2 hu
    have h₂ : afterLength? ("25".toList ++ (w ++ '"' :: (" height=\"".toList ++
        ("25".toList ++ (l ++ '"' :: (" fill=\"none\"".toList ++ t)))))) =
          some (" height=\"".toList ++ ("25".toList ++
            (l ++ '"' :: (" fill=\"none\"".toList ++ t)))) :=
      afterLength?_eq_some.2 ⟨w, hw, rfl⟩
    have h₃ : " height=\"".toList.isPrefixOf? (" height=\"".toList ++ ("25".toList ++
        (l ++ '"' :: (" fill=\"none\"".toList ++ t)))) =
          some ("25".toList ++ (l ++ '"' :: (" fill=\"none\"".toList ++ t))) :=
      Text.isPrefixOf?_eq_some.2 rfl
    have h₄ : afterLength? ("25".toList ++ (l ++ '"' :: (" fill=\"none\"".toList ++ t))) =
        some (" fill=\"none\"".toList ++ t) := afterLength?_eq_some.2 ⟨l, hl, rfl⟩
    have h₅ : " fill=\"none\"".toList.isPrefixOf? (" fill=\"none\"".toList ++ t) = some t :=
      Text.isPrefixOf?_eq_some.2 rfl
    simp only [h₁, h₂, h₃, h₄, h₅, bind, Option.bind_some, hend]

/-- A background has the head of its tag with two lengths, and the end of the tag on the same
line. -/
theorem isSome_backgroundSpan_iff (u : Text) :
    (backgroundSpan u).isSome ↔ ∃ w h s, IsLengthEnd w ∧ IsLengthEnd h ∧
      u = '<' :: ("rect width=\"25".toList ++ (w ++ ("\" height=\"25".toList ++
        (h ++ ("\" fill=\"none".toList ++ s))))) ∧
      s.head? = some '"' ∧ "/>".toList <:+: firstLine s := by
  have hline : ∀ s, firstLine ('"' :: s) = '"' :: firstLine s := fun s => rfl
  rw [backgroundSpan, Option.isSome_map]
  constructor
  · intro h
    obtain ⟨after, h⟩ := Option.isSome_iff_exists.1 h
    obtain ⟨w, l, t, hw, hl, hu, hend⟩ := afterBackground?_eq_some_iff.1 h
    refine ⟨w, l, '"' :: t, hw, hl, hu.trans (backgroundHead_append w l t), rfl, ?_⟩
    rw [hline, List.infix_cons_iff]
    exact Or.inr ((isSome_afterEmptyTag?_iff t).1 (Option.isSome_of_eq_some hend))
  · rintro ⟨w, l, s, hw, hl, hu, hhead, htag⟩
    obtain ⟨t, rfl⟩ := List.head?_eq_some_iff.1 hhead
    rw [hline, List.infix_cons_iff] at htag
    obtain ⟨after, hend⟩ := Option.isSome_iff_exists.1 ((isSome_afterEmptyTag?_iff t).2
      (htag.resolve_left fun hlead => absurd (List.cons_prefix_cons.1 hlead).1 (by decide)))
    exact Option.isSome_of_eq_some (afterBackground?_eq_some_iff.2
      ⟨w, l, t, hw, hl, hu.trans (backgroundHead_append w l t).symm, hend⟩)

/-- Where the first of two alike texts has a background, the second has one, and the other way
round. -/
theorem exists_backgroundSpan_alike {t t' : Text} (h : Alike [] [] t t') :
    (∃ u, u <:+ t ∧ (backgroundSpan u).isSome) ↔ ∃ u, u <:+ t' ∧ (backgroundSpan u).isSome := by
  have hopen : IsForeign '<' := by decide
  have hslash : IsForeign '/' := by decide
  constructor
  · rintro ⟨u, hu, hspan⟩
    obtain ⟨w, l, s, hw, hl, rfl, hhead, htag⟩ := (isSome_backgroundSpan_iff u).1 hspan
    obtain ⟨_, hu', h₀⟩ := h.suffix hopen hu
    obtain ⟨_, rfl, h₁⟩ := h₀.of_literal (by decide)
    obtain ⟨_, rfl, h₂⟩ := h₁.of_append (quote_not_mem_of_isLengthEnd hw) (Nat.zero_le _)
    obtain ⟨_, rfl, h₃⟩ := h₂.of_literal (by decide)
    obtain ⟨_, rfl, h₄⟩ := h₃.of_append (quote_not_mem_of_isLengthEnd hl) (Nat.zero_le _)
    obtain ⟨s', rfl, h₅⟩ := h₄.of_literal (by decide)
    have hheads := h₅.head?_eq
    have htags : "/>".toList <:+: firstLine s ↔ "/>".toList <:+: firstLine s' :=
      h₅.firstLine.infix_iff (l := ['>']) hslash (by decide)
    exact ⟨_, hu', (isSome_backgroundSpan_iff _).2
      ⟨w, l, s', hw, hl, rfl, hheads ▸ hhead, htags.1 htag⟩⟩
  · rintro ⟨u, hu, hspan⟩
    obtain ⟨w, l, s, hw, hl, rfl, hhead, htag⟩ := (isSome_backgroundSpan_iff u).1 hspan
    obtain ⟨_, hu', h₀⟩ := h.suffix_right hopen hu
    obtain ⟨_, rfl, h₁⟩ := h₀.of_literal_right (by decide)
    obtain ⟨_, rfl, h₂⟩ := h₁.of_append_right (quote_not_mem_of_isLengthEnd hw)
    obtain ⟨_, rfl, h₃⟩ := h₂.of_literal_right (by decide)
    obtain ⟨_, rfl, h₄⟩ := h₃.of_append_right (quote_not_mem_of_isLengthEnd hl)
    obtain ⟨s₀, rfl, h₅⟩ := h₄.of_literal_right (by decide)
    have hheads := h₅.head?_eq
    have htags : "/>".toList <:+: firstLine s₀ ↔ "/>".toList <:+: firstLine s :=
      h₅.firstLine.infix_iff (l := ['>']) hslash (by decide)
    exact ⟨_, hu', (isSome_backgroundSpan_iff _).2
      ⟨w, l, s₀, hw, hl, rfl, hheads ▸ hhead, htags.2 htag⟩⟩

/-! ## Texts that nothing is taken from -/

/-- A text in which there is nothing to take away: its first line has no declaration, and
nowhere in it does a background or the tag of a title begin. -/
structure IsBare (t : Text) : Prop where
  undeclared : afterDeclaration? (firstLine t) = none
  unfilled : ∀ u, u <:+ t → backgroundSpan u = none
  untitled : ¬"<title".toList <:+: t

/-- Alike texts are bare both or neither. -/
theorem isBare_alike {t t' : Text} (h : Alike [] [] t t') : IsBare t ↔ IsBare t' := by
  have hdeclaration := isSome_afterDeclaration?_alike h.firstLine
  have hbackground := exists_backgroundSpan_alike h
  have htitle : "<title".toList <:+: t ↔ "<title".toList <:+: t' :=
    h.infix_iff (c := '<') (l := "title".toList) (by decide) (by decide)
  have hnone : ∀ s : Text, (∀ u, u <:+ s → backgroundSpan u = none) ↔
      ¬∃ u, u <:+ s ∧ (backgroundSpan u).isSome := by
    intro s
    simp only [not_exists, not_and, Option.isSome_iff_ne_none, ne_eq, not_not]
  have hline : ∀ s : Text, afterDeclaration? (firstLine s) = none ↔
      ¬(afterDeclaration? (firstLine s)).isSome := by
    intro s
    simp
  constructor
  · rintro ⟨hd, hb, ht⟩
    exact ⟨(hline t').2 fun hd' => (hline t).1 hd (hdeclaration.2 hd'),
      (hnone t').2 fun hb' => (hnone t).1 hb (hbackground.2 hb'), fun ht' => ht (htitle.2 ht')⟩
  · rintro ⟨hd, hb, ht⟩
    exact ⟨(hline t).2 fun hd' => (hline t').1 hd (hdeclaration.1 hd'),
      (hnone t).2 fun hb' => (hnone t').1 hb (hbackground.1 hb'), fun ht' => ht (htitle.1 ht')⟩

theorem literalSpan_title_eq_none_iff (t : Text) :
    (∀ u, u <:+ t → Text.literalSpan "<title".toList u = none) ↔ ¬"<title".toList <:+: t := by
  have hspan : ∀ u : Text, Text.literalSpan "<title".toList u = none ↔ ¬"<title".toList <+: u := by
    intro u
    rw [Text.literalSpan, ← List.isPrefixOf_iff_prefix]
    split <;> simp_all
  simp only [hspan, List.infix_iff_prefix_suffix, not_exists, not_and]
  exact ⟨fun h u hlead hu => h u hu hlead, fun h u hu hlead => h u hlead hu⟩

/-- What is left after the first three cleanings, which only take parts away. -/
def trimmed (t : Text) : Text := withoutTitle (withoutBackground (withoutDeclaration t))

theorem clean_eq_withCurrentColour (t : Text) : clean t = withCurrentColour (trimmed t) := rfl

theorem afterDeclaration?_suffix {t after : Text} (h : afterDeclaration? t = some after) :
    after <:+ t ∧ after ≠ t := by
  induction t with
  | nil => cases h
  | cons c t ih =>
      have hlength : ∀ {u : Text}, u <:+ t → u ≠ c :: t := by
        rintro u hu rfl
        exact absurd hu.length_le (Nat.not_succ_le_self _)
      have hcons : ∀ {u : Text}, u <:+ t → u <:+ c :: t ∧ u ≠ c :: t := fun hu =>
        ⟨hu.trans (List.suffix_cons c t), hlength hu⟩
      rw [afterDeclaration?] at h
      split at h
      · rename_i found hfound
        cases h
        exact hcons (ih hfound).1
      · split at h
        · rename_i body hlead
          obtain ⟨⟨before, after⟩, hcut, rfl⟩ := Option.map_eq_some_iff.1 h
          obtain ⟨rfl, -⟩ := Text.cutFirst_eq_some.1 hcut
          have hsplit := List.isPrefixOf?_eq_some_iff_append_eq.1 hlead
          have htail : "?xml".toList ++ (before ++ '>' :: after) = t := (List.cons.inj hsplit).2
          refine hcons ⟨"?xml".toList ++ (before ++ ['>']), ?_⟩
          rw [← htail, List.append_assoc, List.append_assoc]
          rfl
        · cases h

theorem withoutDeclaration_suffix (t : Text) : withoutDeclaration t <:+ t := by
  have hsplit : firstLine t ++ t.dropWhile (· ≠ '\n') = t := List.takeWhile_append_dropWhile
  rw [withoutDeclaration]
  split
  · rename_i after hafter
    obtain ⟨x, hx⟩ := (afterDeclaration?_suffix hafter).1
    refine ⟨x, ?_⟩
    rw [← List.append_assoc, hx]
    exact hsplit
  · exact List.suffix_refl t

/-- A text from which the declaration takes nothing has none. -/
theorem afterDeclaration?_of_eq {t : Text} (h : withoutDeclaration t = t) :
    afterDeclaration? (firstLine t) = none := by
  have hsplit : firstLine t ++ t.dropWhile (· ≠ '\n') = t := List.takeWhile_append_dropWhile
  cases hafter : afterDeclaration? (firstLine t) with
  | none => rfl
  | some after =>
      rw [withoutDeclaration] at h
      simp only [show t.takeWhile (· ≠ '\n') = firstLine t from rfl, hafter] at h
      have hsame := List.append_cancel_right (h.trans hsplit.symm)
      exact absurd hsame (afterDeclaration?_suffix hafter).2

/-! ## Deletions -/

/-- Trimming brings no character of any kind into a text. -/
theorem countP_trimmed_le (p : Char → Bool) (t : Text) :
    (trimmed t).countP p ≤ (withoutBackground (withoutDeclaration t)).countP p ∧
      (withoutBackground (withoutDeclaration t)).countP p ≤ (withoutDeclaration t).countP p ∧
        (withoutDeclaration t).countP p ≤ t.countP p :=
  ⟨Text.countP_replaceSpans_le rfl _ 0, Text.countP_replaceSpans_le rfl _ 0,
    (withoutDeclaration_suffix t).sublist.countP_le⟩

/-- A text that is as long after a deletion as before has no match of it. -/
theorem span_eq_none_of_length_le {span : Text → Option Nat}
    (hpos : ∀ u n, span u = some n → 0 < n ∧ u ≠ []) {t : Text}
    (h : t.length ≤ (Text.replaceSpans span [] 0 t).length) : ∀ u, u <:+ t → span u = none := by
  refine Text.span_eq_none_of_countP_le (p := fun _ => true) List.countP_nil
    (fun u n hspan => ?_) ?_
  · obtain ⟨hn, hu⟩ := hpos u n hspan
    have hlength := List.length_pos_iff.2 hu
    rw [List.countP_true, List.length_take]
    omega
  · simpa only [List.countP_true] using h

theorem backgroundSpan_pos (u : Text) (n : Nat) (h : backgroundSpan u = some n) :
    0 < n ∧ u ≠ [] := by
  obtain ⟨after, hafter, rfl⟩ := Option.map_eq_some_iff.1 h
  obtain ⟨body, rfl⟩ := afterBackground?_eq_some hafter
  refine ⟨?_, List.cons_ne_nil _ _⟩
  simp only [List.length_cons, List.length_append]
  omega

theorem literalSpan_title_pos (u : Text) (n : Nat)
    (h : Text.literalSpan "<title".toList u = some n) : 0 < n ∧ u ≠ [] := by
  rw [Text.literalSpan] at h
  split at h
  · rename_i hlead
    cases h
    refine ⟨by decide, ?_⟩
    rintro rfl
    cases hlead
  · cases h

/-- Trimming takes nothing from a text exactly when it is bare. -/
theorem trimmed_eq_self_iff (t : Text) : trimmed t = t ↔ IsBare t := by
  constructor
  · intro h
    -- No step may take a character away, for none brings one back.
    obtain ⟨htitle, hbackground, hdeclaration⟩ := countP_trimmed_le (fun _ => true) t
    simp only [h, List.countP_true] at htitle hbackground hdeclaration
    have hundeclared : withoutDeclaration t = t :=
      (withoutDeclaration_suffix t).eq_of_length (by omega)
    rw [hundeclared] at htitle
    have hunfilled := span_eq_none_of_length_le backgroundSpan_pos htitle
    have hkept : withoutBackground t = t :=
      Text.replaceSpans_of_span_eq_none backgroundSpan [] t hunfilled
    rw [trimmed, hundeclared, hkept] at h
    have huntitled := span_eq_none_of_length_le literalSpan_title_pos (congrArg List.length h).ge
    exact ⟨afterDeclaration?_of_eq hundeclared, hunfilled,
      (literalSpan_title_eq_none_iff t).1 huntitled⟩
  · rintro ⟨hundeclared, hunfilled, huntitled⟩
    have hdeclaration : withoutDeclaration t = t := by
      rw [withoutDeclaration]
      simp only [show t.takeWhile (· ≠ '\n') = firstLine t from rfl, hundeclared]
    have hbackground : withoutBackground t = t :=
      Text.replaceSpans_of_span_eq_none backgroundSpan [] t hunfilled
    rw [trimmed, hdeclaration, hbackground]
    exact Text.replaceSpans_of_span_eq_none _ [] t
      ((literalSpan_title_eq_none_iff t).2 huntitled)

/-! ## Colours that are left -/

/-- A quoted colour of zeros stands in the text. -/
def HasColour (t : Text) : Prop := ∃ u, u <:+ t ∧ (zeroColourSpan u).isSome

theorem isSome_zeroColourSpan_iff (t : Text) :
    (zeroColourSpan t).isSome ↔ ∃ zeros v, (∀ c ∈ zeros, c = '0') ∧ t = zeroColour zeros ++ v := by
  constructor
  · intro h
    obtain ⟨n, hn⟩ := Option.isSome_iff_exists.1 h
    obtain ⟨zeros, v, hzeros, heq, -⟩ := zeroColourSpan_eq_some hn
    exact ⟨zeros, v, hzeros, heq⟩
  · rintro ⟨zeros, v, hzeros, rfl⟩
    have hdrop : (zeros ++ '"' :: v).dropWhile (· = '0') = '"' :: v := by
      rw [List.dropWhile_append_of_pos fun c hc => decide_eq_true (hzeros c hc)]
      rfl
    have hsplit : zeroColour zeros ++ v = '"' :: '#' :: '0' :: (zeros ++ '"' :: v) := by
      simp [zeroColour]
    rw [hsplit]
    simp only [zeroColourSpan, hdrop, Option.isSome_some]

theorem hasColour_cons_iff {c : Char} {t : Text} :
    HasColour (c :: t) ↔ (zeroColourSpan (c :: t)).isSome ∨ HasColour t := by
  constructor
  · rintro ⟨u, hu, hspan⟩
    rcases List.suffix_cons_iff.1 hu with rfl | hu
    · exact Or.inl hspan
    · exact Or.inr ⟨u, hu, hspan⟩
  · rintro (hspan | ⟨u, hu, hspan⟩)
    · exact ⟨c :: t, List.suffix_refl _, hspan⟩
    · exact ⟨u, hu.trans (List.suffix_cons c t), hspan⟩

/-- No colour begins before the first quote. -/
theorem hasColour_append_iff {l t : Text} (hl : '"' ∉ l) : HasColour (l ++ t) ↔ HasColour t := by
  induction l with
  | nil => exact Iff.rfl
  | cons c l ih =>
      rw [List.mem_cons, not_or] at hl
      rw [List.cons_append, hasColour_cons_iff, zeroColourSpan_of_ne _ (Ne.symm hl.1), ih hl.2]
      exact or_iff_right Bool.false_ne_true

theorem forall_zeroColourSpan_iff (t : Text) :
    (∀ u, u <:+ t → zeroColourSpan u = none) ↔ ¬HasColour t := by
  simp only [HasColour, not_exists, not_and, Option.isSome_iff_ne_none, ne_eq, not_not]

/-- A text whose hashes survive recolouring has no colour. -/
theorem not_hasColour_of_countP_le {t : Text}
    (h : t.countP (· = '#') ≤ (withCurrentColour t).countP (· = '#')) : ¬HasColour t := by
  rw [← forall_zeroColourSpan_iff]
  refine Text.span_eq_none_of_countP_le (by decide) (fun u n hspan => ?_) h
  obtain ⟨zeros, v, -, rfl, rfl⟩ := zeroColourSpan_eq_some hspan
  simp [zeroColour]

theorem withCurrentColour_of_not_hasColour {t : Text} (h : ¬HasColour t) :
    withCurrentColour t = t :=
  Text.replaceSpans_of_span_eq_none _ _ t ((forall_zeroColourSpan_iff t).2 h)

/-- Whether a colour of zeros follows a quote is the same in alike texts. -/
theorem isSome_zeroColourSpan_alike {t t' : Text} (h : Alike [] [] t t') :
    (zeroColourSpan ('"' :: t)).isSome ↔ (zeroColourSpan ('"' :: t')).isSome := by
  rw [isSome_zeroColourSpan_iff, isSome_zeroColourSpan_iff]
  constructor
  · rintro ⟨zeros, v, hzeros, heq⟩
    rw [zeroColour_append] at heq
    obtain rfl := (List.cons.inj heq).2
    obtain ⟨x, rfl, hx⟩ := h.of_append (quote_not_mem_colour hzeros) (Nat.zero_le _)
    obtain ⟨v', rfl⟩ := List.head?_eq_some_iff.1 (hx.head?_eq.trans rfl)
    exact ⟨zeros, v', hzeros, (zeroColour_append zeros v').symm⟩
  · rintro ⟨zeros, v, hzeros, heq⟩
    rw [zeroColour_append] at heq
    obtain rfl := (List.cons.inj heq).2
    obtain ⟨x, rfl, hx⟩ := h.of_append_right (quote_not_mem_colour hzeros)
    obtain ⟨v', rfl⟩ := List.head?_eq_some_iff.1 (hx.head?_eq.symm.trans rfl)
    exact ⟨zeros, v', hzeros, (zeroColour_append zeros v').symm⟩

/-- Two colours of zeros share a quote, the closing one of the first. -/
def SharesQuote (t : Text) : Prop :=
  ∃ zeros more, (∀ c ∈ zeros ++ more, c = '0') ∧
    '"' :: '#' :: '0' :: (zeros ++ zeroColour more) <:+: t

theorem SharesQuote.cons_cases {c : Char} {t : Text} (h : SharesQuote (c :: t)) :
    (zeroColourSpan (c :: t)).isSome ∨ SharesQuote t := by
  obtain ⟨zeros, more, hzeros, hinfix⟩ := h
  rcases List.infix_cons_iff.1 hinfix with ⟨x, hx⟩ | hinfix
  · refine Or.inl ((isSome_zeroColourSpan_iff _).2
      ⟨zeros, ('#' :: '0' :: (more ++ ['"'])) ++ x, fun d hd => ?_, ?_⟩)
    · exact hzeros d (List.mem_append_left _ hd)
    · rw [← hx]
      simp [zeroColour]
  · exact Or.inr ⟨zeros, more, hzeros, hinfix⟩

theorem SharesQuote.cons {t : Text} (c : Char) (h : SharesQuote t) : SharesQuote (c :: t) := by
  obtain ⟨zeros, more, hzeros, hinfix⟩ := h
  exact ⟨zeros, more, hzeros, List.infix_cons hinfix⟩

theorem sharesQuote_append_iff {l t : Text} (hl : '"' ∉ l) :
    SharesQuote (l ++ t) ↔ SharesQuote t := by
  induction l with
  | nil => exact Iff.rfl
  | cons c l ih =>
      rw [List.mem_cons, not_or] at hl
      refine ⟨fun h => (ih hl.2).1 (h.cons_cases.resolve_left ?_),
        fun h => ((ih hl.2).2 h).cons c⟩
      rw [zeroColourSpan_of_ne _ (Ne.symm hl.1)]
      exact Bool.false_ne_true

/-- A quote is shared after a colour, or its closing quote is. -/
theorem sharesQuote_colour_iff {zeros v : Text} (hzeros : ∀ c ∈ zeros, c = '0') :
    SharesQuote (zeroColour zeros ++ v) ↔ (zeroColourSpan ('"' :: v)).isSome ∨ SharesQuote v := by
  have hplain := quote_not_mem_colour hzeros
  -- The closing quote of the first colour is the only one in it that may be shared.
  have hquote : ∀ {zeros : Text}, (∀ c ∈ zeros, c = '0') → '"' ∉ zeros := fun hall hmem =>
    quote_not_mem_colour hall (List.mem_cons_of_mem _ (List.mem_cons_of_mem _ hmem))
  rw [zeroColour_append]
  constructor
  · rintro ⟨first, more, hall, hinfix⟩
    rw [List.infix_cons_iff] at hinfix
    rcases hinfix with hhead | hinfix
    · -- The two colours begin at the head, and the first ends at its closing quote.
      obtain ⟨x, hx⟩ := hhead
      have hfirst : '"' ∉ first := hquote fun c hc => hall c (List.mem_append_left more hc)
      have heq : first ++ '"' :: ('#' :: '0' :: (more ++ ['"']) ++ x) = zeros ++ '"' :: v := by
        simpa [zeroColour] using hx
      have hcut := congrArg (Text.cutFirst '"') heq
      rw [Text.cutFirst_append _ hfirst, Text.cutFirst_append _ (hquote hzeros)] at hcut
      have hrest := (Prod.mk.inj (Option.some.inj hcut)).2
      refine Or.inl ((isSome_zeroColourSpan_iff _).2 ⟨more, x, fun c hc => ?_, ?_⟩)
      · exact hall c (List.mem_append_right first hc)
      · rw [← hrest]
        rfl
    · have hlater : SharesQuote ('#' :: '0' :: zeros ++ '"' :: v) := ⟨first, more, hall, hinfix⟩
      exact ((sharesQuote_append_iff hplain).1 hlater).cons_cases
  · rintro (hspan | hshared)
    · obtain ⟨more, w, hmore, heq⟩ := (isSome_zeroColourSpan_iff _).1 hspan
      refine ⟨zeros, more, fun c hc => ?_, List.IsPrefix.isInfix ⟨w, ?_⟩⟩
      · exact (List.mem_append.1 hc).elim (hzeros c) (hmore c)
      · rw [heq]
        simp
    · exact ((sharesQuote_append_iff hplain).2 (hshared.cons '"')).cons '"'

/-- What begins no colour begins none after what follows has been recoloured. -/
theorem zeroColourSpan_recoloured {c : Char} {t : Text} (h : zeroColourSpan (c :: t) = none) :
    zeroColourSpan (c :: withCurrentColour t) = none := by
  by_cases hc : c = '"'
  · subst hc
    have hnone : ¬(zeroColourSpan ('"' :: withCurrentColour t)).isSome := by
      rw [← isSome_zeroColourSpan_alike (alike_withCurrentColour t), h]
      exact Bool.false_ne_true
    exact Option.not_isSome_iff_eq_none.1 hnone
  · exact zeroColourSpan_of_ne _ hc

/-- After a colour that has been replaced there is a colour at its closing quote or later. -/
theorem hasColour_currentColour_append (t : Text) :
    HasColour (currentColour ++ t) ↔ (zeroColourSpan ('"' :: t)).isSome ∨ HasColour t := by
  have hsplit : currentColour ++ t = '"' :: ("currentColor".toList ++ '"' :: t) := by
    simp [currentColour]
  have hopening : zeroColourSpan ('"' :: ("currentColor".toList ++ '"' :: t)) = none :=
    zeroColourSpan_closing (by simp)
  rw [hsplit, hasColour_cons_iff, hopening, hasColour_append_iff (by decide), hasColour_cons_iff]
  exact or_iff_right Bool.false_ne_true

/-- Recolouring leaves a colour where two of them shared a quote. -/
theorem hasColour_withCurrentColour_iff (t : Text) :
    HasColour (withCurrentColour t) ↔ SharesQuote t := by
  -- On the length, as a colour is replaced as a whole.
  induction hn : t.length using Nat.strong_induction_on generalizing t with
  | _ n ih =>
      cases t with
      | nil =>
          refine iff_of_false ?_ ?_
          · rintro ⟨u, hu, hspan⟩
            rw [List.suffix_nil.1 hu] at hspan
            cases hspan
          · rintro ⟨zeros, more, -, hinfix⟩
            cases List.infix_nil.1 hinfix
      | cons c t =>
          rw [List.length_cons] at hn
          cases hspan : zeroColourSpan (c :: t) with
          | none =>
              have hshared : SharesQuote (c :: t) ↔ SharesQuote t := by
                refine ⟨fun h => h.cons_cases.resolve_left ?_, fun h => h.cons c⟩
                rw [hspan]
                exact Bool.false_ne_true
              rw [withCurrentColour_cons hspan, hasColour_cons_iff, zeroColourSpan_recoloured hspan,
                hshared, ih t.length (by omega) t rfl]
              exact or_iff_right Bool.false_ne_true
          | some length =>
              obtain ⟨zeros, v, hzeros, heq, rfl⟩ := zeroColourSpan_eq_some hspan
              have hlength := congrArg List.length heq
              simp only [zeroColour, List.length_cons, List.length_append] at hlength
              have hrest := ih v.length (by omega) v rfl
              rw [heq] at hspan ⊢
              -- On both sides: at the closing quote of the colour, or behind it.
              rw [withCurrentColour_colour hspan, sharesQuote_colour_iff hzeros,
                hasColour_currentColour_append, hrest,
                isSome_zeroColourSpan_alike (alike_withCurrentColour v)]

/-! ## Drawings that are written out -/

theorem isZeroColour_recoloured (v : Text) : isZeroColour (recoloured v) = false := by
  rw [recoloured]
  split
  · rfl
  · rename_i h
    exact Bool.eq_false_iff.2 h

theorem recoloured_recoloured (v : Text) : recoloured (recoloured v) = recoloured v := by
  rw [recoloured, isZeroColour_recoloured]
  rfl

/-- Neither a colour of zeros nor the current colour is a length. -/
theorem isLength_recoloured (v : Text) : isLength (recoloured v) = isLength v := by
  rw [recoloured]
  split
  · rename_i hzero
    obtain ⟨zeros, rfl, -⟩ := (isZeroColour_iff v).1 hzero
    rfl
  · rfl

theorem isUnfilledRow_recoloured (row : Text × Text) :
    isUnfilledRow (row.1, recoloured row.2) = isUnfilledRow row := by
  rw [isUnfilledRow, recoloured]
  split
  · rename_i hzero
    obtain ⟨zeros, hvalue, -⟩ := (isZeroColour_iff row.2).1 hzero
    rw [isUnfilledRow, hvalue]
    simp
  · rfl

/-- Recolouring makes no background and takes none away. -/
theorem isBackground_recoloured (name : Text) (rows : List (Text × Text)) :
    isBackground name (rows.map fun row => (row.1, recoloured row.2)) = isBackground name rows := by
  match rows with
  | [] => rfl
  | [_] => rfl
  | [_, _] => rfl
  | width :: height :: fill :: _ =>
      simp only [isBackground, isLengthRow, List.map_cons, isLength_recoloured,
        isUnfilledRow_recoloured]

theorem recolouredMark_recolouredMark (mark : Mark) :
    recolouredMark (recolouredMark mark) = recolouredMark mark := by
  cases mark with
  | closing name => rfl
  | opening name rows isEmpty =>
      simp only [recolouredMark, List.map_map, Function.comp_def, recoloured_recoloured]

theorem isBackgroundMark_recolouredMark (mark : Mark) :
    isBackgroundMark (recolouredMark mark) = isBackgroundMark mark := by
  cases mark with
  | closing name => rfl
  | opening name rows isEmpty => exact isBackground_recoloured name rows

/-- Cleaning marks leaves nothing to clean. -/
theorem cleanedMarks_cleanedMarks (marks : List Mark) :
    cleanedMarks (cleanedMarks marks) = cleanedMarks marks := by
  induction marks with
  | nil => rfl
  | cons mark marks ih =>
      rw [cleanedMarks_cons]
      split
      · exact ih
      · rename_i hkept
        rw [cleanedMarks_cons, isBackgroundMark_recolouredMark, if_neg hkept, ih,
          recolouredMark_recolouredMark]

/-- What is left of plain marks is plain. -/
theorem isPlainMark_recolouredMark {mark : Mark} (h : IsPlainMark mark) :
    IsPlainMark (recolouredMark mark) := by
  obtain ⟨hwritable, hhollow, huntitled⟩ := h
  refine ⟨isWritable_recolouredMark hwritable, ?_, ?_⟩
  · cases mark with
    | closing name => exact trivial
    | opening name rows isEmpty =>
        intro hbackground
        exact hhollow ((isBackground_recoloured name rows).symm.trans hbackground)
  · cases mark with
    | closing name => exact trivial
    | opening name rows isEmpty => exact huntitled

/-- Cleaning the text of plain marks twice is the same as cleaning it once. -/
theorem clean_clean_marksText {marks : List Mark} (h : ∀ mark ∈ marks, IsPlainMark mark) :
    clean (clean (marksText marks)) = clean (marksText marks) := by
  have hclean : ∀ {marks : List Mark}, (∀ mark ∈ marks, IsPlainMark mark) →
      clean (marksText marks) = marksText (cleanedMarks marks) := fun h =>
    clean_marksText (fun mark hmark => (h mark hmark).1) (fun mark hmark => (h mark hmark).2.1)
      fun mark hmark => (h mark hmark).2.2
  have hcleaned : ∀ mark ∈ cleanedMarks marks, IsPlainMark mark := by
    intro mark hmark
    obtain ⟨old, hold, rfl⟩ := List.mem_map.1 hmark
    exact isPlainMark_recolouredMark (h old (List.mem_filter.1 hold).1)
  rw [hclean h, hclean hcleaned, cleanedMarks_cleanedMarks]

/-! ## Cleaning twice -/

/-- Cleaning leaves a text as it is exactly when that is bare and without colours. -/
theorem clean_eq_self_iff (t : Text) : clean t = t ↔ IsBare t ∧ ¬HasColour t := by
  rw [clean_eq_withCurrentColour]
  constructor
  · intro h
    have hcolour : ¬HasColour (trimmed t) := by
      -- Trimming cannot make up for the hashes that recolouring takes.
      obtain ⟨htitle, hbackground, hdeclaration⟩ := countP_trimmed_le (· = '#') t
      apply not_hasColour_of_countP_le
      rw [h]
      exact htitle.trans (hbackground.trans hdeclaration)
    rw [withCurrentColour_of_not_hasColour hcolour] at h
    rw [h] at hcolour
    exact ⟨(trimmed_eq_self_iff t).1 h, hcolour⟩
  · rintro ⟨hbare, hcolour⟩
    rw [(trimmed_eq_self_iff t).2 hbare]
    exact withCurrentColour_of_not_hasColour hcolour

/-- Cleaning a text twice is the same as cleaning it once exactly when what the first three
cleanings leave of it is bare and no two of its colours share a quote. So it is with every
drawing of plain elements. -/
theorem clean_clean_iff (t : Text) :
    (clean (clean t) = clean t ↔ IsBare (trimmed t) ∧ ¬SharesQuote (trimmed t)) ∧
      ∀ root, (∀ e ∈ elements root, IsPlain e) → t = written root →
        clean (clean t) = clean t := by
  constructor
  · rw [clean_eq_self_iff, clean_eq_withCurrentColour, hasColour_withCurrentColour_iff,
      isBare_alike (alike_withCurrentColour (trimmed t))]
  · rintro root h rfl
    exact clean_clean_marksText (isPlainMark_of_mem_marks root h)

theorem clean_clean_framed : (∀ e ∈ elements framed, IsPlain e) ∧
    clean (clean (written framed)) = clean (written framed) :=
  ⟨by decide, (clean_clean_iff (written framed)).2 framed (by decide) rfl⟩

/-- A drawing in whose description two colours share a quote. -/
def sharing : Text := "<svg><desc>\"#0\"#0\"</desc></svg>".toList

/-- The second cleaning takes the colour that the first has left. -/
theorem clean_clean_sharing : clean (clean sharing) ≠ clean sharing := by
  decide

end Iconsmith.Drawing
