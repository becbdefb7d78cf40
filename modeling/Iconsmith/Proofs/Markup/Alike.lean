import Iconsmith.Proofs.Markup.Cuts

set_option autoImplicit false

/-!
# Alike texts

Two texts are alike up to a rest of each when, before the rests, they differ in no more than
quoted colours of zeros in the first, for which the second has the current colour (`Alike`).
What is read off the first before its rest is read off the second too, and alike texts are
left (`ReadsPiece.alike`). With rests that differ and no colours this says that reading looks
at no more than it takes; with empty rests, that the colours do not matter to it.
-/

namespace Iconsmith.Markup

/-! ## The relation -/

/-- A quoted colour of zeros, with the zeros after the first. -/
def zeroColour (zeros : Text) : Text := '"' :: '#' :: '0' :: (zeros ++ ['"'])

/-- The quoted current colour. -/
def currentColour : Text := '"' :: ("currentColor".toList ++ ['"'])

theorem mem_zeroColour {zeros : Text} (hzeros : ∀ c ∈ zeros, c = '0') {c : Char}
    (hc : c ∈ zeroColour zeros) : c ∈ ['"', '#', '0'] := by
  simp only [zeroColour, List.mem_cons, List.mem_append, List.not_mem_nil, or_false] at hc ⊢
  rcases hc with rfl | rfl | rfl | hmem | rfl
  · exact Or.inl rfl
  · exact Or.inr (Or.inl rfl)
  · exact Or.inr (Or.inr rfl)
  · exact Or.inr (Or.inr (hzeros c hmem))
  · exact Or.inl rfl

/-- A character that differs from those of the colours of zeros stands in none of them. -/
theorem not_mem_zeroColour {zeros : Text} (hzeros : ∀ c ∈ zeros, c = '0') {c : Char}
    (hc : c ∉ ['"', '#', '0']) : c ∉ zeroColour zeros :=
  fun hmem => hc (mem_zeroColour hzeros hmem)

theorem quote_not_mem_colour {zeros : Text} (hzeros : ∀ c ∈ zeros, c = '0') :
    '"' ∉ '#' :: '0' :: zeros := by
  simp only [List.mem_cons, not_or]
  exact ⟨by decide, by decide, fun hmem => absurd (hzeros _ hmem) (by decide)⟩

theorem zeroColour_append (zeros t : Text) :
    zeroColour zeros ++ t = '"' :: ('#' :: '0' :: zeros ++ '"' :: t) := by
  simp [zeroColour]

/-- Texts that are alike up to two rests. -/
inductive Alike (rest rest' : Text) : Text → Text → Prop where
  | rest : Alike rest rest' rest rest'
  | char (c : Char) {t t' : Text} : Alike rest rest' t t' → Alike rest rest' (c :: t) (c :: t')
  | colour {zeros t t' : Text} : (∀ c ∈ zeros, c = '0') → Alike rest rest' t t' →
      Alike rest rest' (zeroColour zeros ++ t) (currentColour ++ t')

variable {rest rest' t t' u : Text}

theorem Alike.refl (t : Text) : Alike [] [] t t := by
  induction t with
  | nil => exact .rest
  | cons c t ih => exact .char c ih

/-- A text before two rests is alike itself. -/
theorem Alike.append (rest rest' t : Text) : Alike rest rest' (t ++ rest) (t ++ rest') := by
  induction t with
  | nil => exact .rest
  | cons c t ih => exact .char c ih

theorem Alike.length (h : Alike rest rest' t t') :
    rest.length ≤ t.length ∧ rest'.length ≤ t'.length := by
  induction h with
  | rest => exact ⟨Nat.le_refl _, Nat.le_refl _⟩
  | char c _ ih => exact ⟨Nat.le_succ_of_le ih.1, Nat.le_succ_of_le ih.2⟩
  | colour _ _ ih =>
      simp only [List.length_append]
      omega

/-- Nothing is left of the second text when nothing is left of the first before its rest. -/
theorem Alike.eq_rest (h : Alike rest rest' rest u) : u = rest' := by
  generalize ht : rest = t at h
  cases h with
  | rest => rfl
  | char c h =>
      have := h.length.1
      rw [List.length_cons] at this
      omega
  | @colour zeros t t' _ h =>
      have := h.length.1
      rw [List.length_append, zeroColour, List.length_cons] at this
      omega

/-- A character that is no quote stands in both texts. -/
theorem Alike.of_cons {c : Char} (h : Alike rest rest' (c :: t) u) (hc : c ≠ '"')
    (hlength : rest.length ≤ t.length) : ∃ t', u = c :: t' ∧ Alike rest rest' t t' := by
  generalize ht : c :: t = s at h
  cases h with
  | rest =>
      rw [← ht, List.length_cons] at hlength
      omega
  | char d h =>
      cases ht
      exact ⟨_, rfl, h⟩
  | colour _ h =>
      cases ht
      exact absurd rfl hc

/-- The same when it is seen in the second text. -/
theorem Alike.of_cons_right {c : Char} (h : Alike rest rest' u (c :: t')) (hc : c ≠ '"')
    (hlength : rest'.length ≤ t'.length) : ∃ t, u = c :: t ∧ Alike rest rest' t t' := by
  generalize ht : c :: t' = s at h
  cases h with
  | rest =>
      rw [← ht, List.length_cons] at hlength
      omega
  | char d h =>
      cases ht
      exact ⟨_, rfl, h⟩
  | colour _ h =>
      cases ht
      exact absurd rfl hc

/-- A quote stands in both texts, and begins colours if what follows is not alike. -/
theorem Alike.of_quote (h : Alike rest rest' ('"' :: t) u) (hlength : rest.length ≤ t.length) :
    ∃ t', u = '"' :: t' ∧ (Alike rest rest' t t' ∨
      ∃ zeros v v', (∀ c ∈ zeros, c = '0') ∧ t = '#' :: '0' :: (zeros ++ '"' :: v) ∧
        t' = "currentColor".toList ++ '"' :: v' ∧ Alike rest rest' v v') := by
  generalize ht : '"' :: t = s at h
  cases h with
  | rest =>
      rw [← ht, List.length_cons] at hlength
      omega
  | char d h =>
      cases ht
      exact ⟨_, rfl, Or.inl h⟩
  | @colour zeros v v' hzeros h =>
      have htail := (List.cons.inj ht).2
      refine ⟨"currentColor".toList ++ '"' :: v', ?_, Or.inr ⟨zeros, v, v', hzeros, ?_, rfl, h⟩⟩
      · simp [currentColour]
      · simp [htail]

/-- Both texts begin with the same character before their rests. -/
theorem Alike.head? (h : Alike rest rest' t u) (hlength : rest.length < t.length) :
    u.head? = t.head? := by
  cases h with
  | rest => exact absurd hlength (Nat.lt_irrefl _)
  | char c _ => rfl
  | colour _ _ => rfl

/-! ## Literals, gaps and names -/

theorem Alike.of_append {l : Text} (h : Alike rest rest' (l ++ t) u) (hl : '"' ∉ l)
    (hlength : rest.length ≤ t.length) : ∃ t', u = l ++ t' ∧ Alike rest rest' t t' := by
  induction l generalizing u with
  | nil => exact ⟨u, rfl, h⟩
  | cons c l ih =>
      rw [List.mem_cons, not_or] at hl
      have hlonger : rest.length ≤ (l ++ t).length := by
        rw [List.length_append]
        omega
      obtain ⟨s, rfl, hs⟩ := Alike.of_cons h (Ne.symm hl.1) hlonger
      obtain ⟨t', rfl, ht'⟩ := ih hs hl.2
      exact ⟨t', rfl, ht'⟩

theorem after?_alike {literal : String} (h : Alike rest rest' t t') (hl : '"' ∉ literal.toList)
    (hread : after? literal t = some u) (hlength : rest.length ≤ u.length) :
    ∃ u', after? literal t' = some u' ∧ Alike rest rest' u u' := by
  obtain rfl := after?_eq_some.1 hread
  obtain ⟨u', rfl, hu'⟩ := h.of_append hl hlength
  exact ⟨u', after?_eq_some.2 rfl, hu'⟩

/-- A literal that the first text does not begin with does not begin the second, when there is
enough of both before the rests. -/
theorem Alike.not_leading {l t t' : Text} (h : Alike rest rest' t t') (hl : '"' ∉ l)
    (hread : ¬l <+: t) (hlength : l.length + rest.length ≤ t.length) : ¬l <+: t' := by
  induction l generalizing t t' with
  | nil => exact absurd List.nil_prefix hread
  | cons c l ih =>
      rw [List.mem_cons, not_or] at hl
      rw [List.length_cons] at hlength
      intro hlead
      cases h with
      | rest => omega
      | char d h =>
          rw [List.cons_prefix_cons] at hlead hread
          rw [List.length_cons] at hlength
          exact ih h hl.2 (fun htail => hread ⟨hlead.1, htail⟩) (by omega) hlead.2
      | colour _ h =>
          rw [currentColour, List.cons_append, List.cons_prefix_cons] at hlead
          exact hl.1 hlead.1.symm

/-- The characters of a class, which has no quotes, are the same at the heads of both texts. -/
theorem Alike.dropWhile {p : Char → Bool} (h : Alike rest rest' t t') (hp : p '"' = false)
    (hlength : rest.length < (t.dropWhile p).length) :
    t'.takeWhile p = t.takeWhile p ∧
      Alike rest rest' (t.dropWhile p) (t'.dropWhile p) := by
  induction h with
  | rest =>
      have := (List.dropWhile_suffix p (l := rest)).length_le
      omega
  | @char c t t' h ih =>
      by_cases hc : p c = true
      · rw [List.dropWhile_cons_of_pos hc] at hlength ⊢
        obtain ⟨htake, hdrop⟩ := ih hlength
        rw [List.takeWhile_cons_of_pos hc, List.takeWhile_cons_of_pos hc, htake,
          List.dropWhile_cons_of_pos hc]
        exact ⟨rfl, hdrop⟩
      · rw [List.takeWhile_cons_of_neg hc, List.takeWhile_cons_of_neg hc,
          List.dropWhile_cons_of_neg hc, List.dropWhile_cons_of_neg hc]
        exact ⟨rfl, .char c h⟩
  | @colour zeros t t' hzeros h ih =>
      -- A colour begins with a quote, at which taking and dropping stop in both texts.
      have hneg : ¬p '"' = true := by simp [hp]
      rw [zeroColour, currentColour, List.cons_append, List.cons_append,
        List.takeWhile_cons_of_neg hneg, List.takeWhile_cons_of_neg hneg,
        List.dropWhile_cons_of_neg hneg, List.dropWhile_cons_of_neg hneg]
      exact ⟨rfl, .colour hzeros h⟩

theorem skipGap_alike (h : Alike rest rest' t t')
    (hlength : rest.length < (skipGap t).length) :
    Alike rest rest' (skipGap t) (skipGap t') :=
  (h.dropWhile (by decide) hlength).2

theorem gap?_alike (h : Alike rest rest' t t') (hread : gap? t = some u)
    (hlength : rest.length < u.length) :
    ∃ u', gap? t' = some u' ∧ Alike rest rest' u u' := by
  obtain ⟨c, s, rfl, hc, rfl⟩ := gap?_eq_some.1 hread
  have hquote : c ≠ '"' := by
    rintro rfl
    exact absurd hc (by decide)
  have hskip := length_skipGap s
  obtain ⟨s', rfl, hs⟩ := h.of_cons hquote (by omega)
  exact ⟨_, gap?_eq_some.2 ⟨c, s', rfl, hc, rfl⟩, skipGap_alike hs hlength⟩

theorem readName_alike {raw : Text} (h : Alike rest rest' t t')
    (hread : readName t = .ok (raw, u)) (hlength : rest.length < u.length) :
    ∃ u', readName t' = .ok (raw, u') ∧ Alike rest rest' u u' := by
  have hshorter := length_readName hread
  obtain ⟨⟨c, s, rfl, hc⟩, rfl, rfl, hnul⟩ := readName_eq_ok.1 hread
  obtain ⟨htake, hdrop⟩ := h.dropWhile (p := isNameChar) (by decide) hlength
  have hquote : c ≠ '"' := by
    rintro rfl
    exact absurd hc (by decide)
  obtain ⟨s', rfl, -⟩ := h.of_cons hquote (by
    rw [List.length_cons] at hshorter
    omega)
  refine ⟨_, readName_eq_ok.2 ⟨⟨c, s', rfl, hc⟩, htake.symm, rfl, ?_⟩, hdrop⟩
  rw [hdrop.head? hlength]
  exact hnul

theorem equals?_alike (h : Alike rest rest' t t') (hread : equals? t = some u)
    (hlength : rest.length < u.length) :
    ∃ u', equals? t' = some u' ∧ Alike rest rest' u u' := by
  obtain ⟨s, hs, rfl⟩ := equals?_eq_some.1 hread
  have hskip := length_skipGap s
  have hgap := skipGap_alike h (by
    rw [hs, List.length_cons]
    omega)
  rw [hs] at hgap
  obtain ⟨s', hs', halike⟩ := hgap.of_cons (by decide) (by omega)
  exact ⟨_, equals?_eq_some.2 ⟨s', hs', rfl⟩, skipGap_alike halike hlength⟩

/-! ## References and values -/

theorem digitsFrom_alike {digit? : Nat → Char → Option Nat} {base place value n : Nat}
    (hdigit : ∀ place, digit? place '"' = none) (h : Alike rest rest' t t')
    (hread : digitsFrom digit? base place value t = some (n, u))
    (hlength : rest.length ≤ u.length) :
    ∃ u', digitsFrom digit? base place value t' = some (n, u') ∧
      Alike rest rest' u u' := by
  induction t generalizing place value t' with
  | nil => cases hread
  | cons c s ih =>
      have hshorter := (suffix_digitsFrom hread).2
      rw [List.length_cons] at hshorter
      rw [digitsFrom.eq_def] at hread
      cases hd : digit? place c with
      | none =>
          simp only [hd] at hread
          cases hread
      | some d =>
          simp only [hd] at hread
          have hquote : c ≠ '"' := by
            rintro rfl
            rw [hdigit place] at hd
            cases hd
          obtain ⟨s', rfl, hs⟩ := h.of_cons hquote (by omega)
          split at hread
          · rename_i after
            cases hread
            obtain ⟨u', rfl, hu⟩ := hs.of_cons (by decide) hlength
            refine ⟨u', ?_, hu⟩
            rw [digitsFrom.eq_def]
            simp only [hd]
          · rename_i hsemicolon
            obtain ⟨u', hu', hu⟩ := ih hs hread
            refine ⟨u', ?_, hu⟩
            have hlonger := (suffix_digitsFrom hread).2
            have hhead := hs.head? (by omega)
            rw [digitsFrom.eq_def]
            simp only [hd]
            split
            · rename_i after
              -- Where no semicolon follows in one text, none follows in the other.
              obtain ⟨tail, htail⟩ := List.head?_eq_some_iff.1 hhead.symm
              exact absurd htail (hsemicolon tail)
            · exact hu'

theorem ReadsReference.alike {part : Part} (hread : ReadsReference t part u)
    (h : Alike rest rest' t t') (hlength : rest.length ≤ u.length) :
    ∃ u', ReadsReference t' part u' ∧ Alike rest rest' u u' := by
  have hshorter := hread.suffix.2
  -- Hash, letter x, digits and semicolon are no quotes, so none of them stands in a colour.
  cases hread with
  | @hex digits _ n c hnumber hchar =>
      have hlonger := (suffix_digitsFrom hnumber).2
      simp only [List.length_cons] at hshorter
      obtain ⟨s, rfl, hs⟩ := h.of_cons (by decide) (by
        rw [List.length_cons]
        omega)
      obtain ⟨s', rfl, hs'⟩ := hs.of_cons (by decide) (by omega)
      have hquote : ∀ place, hexDigitAt? place '"' = none := by
        intro place
        rw [hexDigitAt?]
        split <;> rfl
      obtain ⟨u', hu', hu⟩ := digitsFrom_alike hquote hs' hnumber hlength
      exact ⟨u', .hex hu' hchar, hu⟩
  | @decimal digits _ n c hx hnumber hchar =>
      have hlonger := (suffix_digitsFrom hnumber).2
      obtain ⟨s, rfl, hs⟩ := h.of_cons (by decide) (by omega)
      obtain ⟨u', hu', hu⟩ := digitsFrom_alike (fun _ => rfl) hs hnumber hlength
      refine ⟨u', .decimal ?_ hu' hchar, hu⟩
      rw [hs.head? (by omega)]
      exact hx
  | @named _ name _ hhash hname =>
      have hlonger : rest.length < (';' :: u).length := by
        rw [List.length_cons]
        omega
      obtain ⟨s, hs, halike⟩ := readName_alike h hname hlonger
      obtain ⟨u', rfl, hu⟩ := halike.of_cons (by decide) hlength
      refine ⟨u', .named ?_ hs, hu⟩
      rw [h.head? (by omega)]
      exact hhash

/-- Characters that a value between some quotes holds as they are. -/
structure StandsIn (close c : Char) : Prop where
  close : c ≠ close
  opening : c ≠ '<'
  reference : c ≠ '&'
  gap : isGap c = false
  char : isChar c

theorem readsParts_cons {close c : Char} {v : List Part} (hc : StandsIn close c) :
    ReadsParts close (c :: t) v u ↔ ∃ w, v = .char c :: w ∧ ReadsParts close t w u := by
  have hgap := hc.gap
  have hself : (if isGap c then ' ' else c) = c := by rw [hgap]; rfl
  constructor
  · intro h
    cases h with
    | close => exact absurd rfl hc.close
    | reference _ _ _ => exact absurd rfl hc.reference
    | lineEnd _ _ _ => exact absurd hgap (by decide)
    | char _ _ _ _ _ hrest => exact ⟨_, by rw [hself], hrest⟩
  · rintro ⟨w, rfl, h⟩
    have hline : ¬(c = '\r' ∧ t.head? = some '\n') := by
      rintro ⟨rfl, -⟩
      exact absurd hgap (by decide)
    have hread := ReadsParts.char hc.close hc.opening hc.reference hline (Or.inr hc.char) h
    rw [hself] at hread
    exact hread

theorem readsParts_append {close : Char} {s : Text} {v : List Part}
    (hs : ∀ c ∈ s, StandsIn close c) :
    ReadsParts close (s ++ t) v u ↔ ∃ w, v = s.map .char ++ w ∧ ReadsParts close t w u := by
  induction s generalizing v with
  | nil => simp
  | cons c s ih =>
      rw [List.cons_append, readsParts_cons (hs c List.mem_cons_self)]
      constructor
      · rintro ⟨w, rfl, h⟩
        obtain ⟨w', rfl, h'⟩ := (ih fun d hd => hs d (List.mem_cons_of_mem c hd)).1 h
        exact ⟨w', rfl, h'⟩
      · rintro ⟨w, rfl, h⟩
        exact ⟨_, rfl, (ih fun d hd => hs d (List.mem_cons_of_mem c hd)).2 ⟨w, rfl, h⟩⟩

/-- Whether the beginning of a colour of zeros stands in a value. -/
def HoldsColour (v : List Part) : Prop := [.char '#', .char '0'] <:+: v

/-- Values that name the same entities, and differ only if the first holds a colour of
zeros. -/
structure PartsAlike (v v' : List Part) : Prop where
  entities : v'.filterMap Part.entity? = v.filterMap Part.entity?
  same : v' = v ∨ HoldsColour v

theorem PartsAlike.refl (v : List Part) : PartsAlike v v := ⟨rfl, Or.inl rfl⟩

theorem PartsAlike.cons {v v' : List Part} (p : Part) (h : PartsAlike v v') :
    PartsAlike (p :: v) (p :: v') := by
  refine ⟨by rw [List.filterMap_cons, List.filterMap_cons, h.entities], ?_⟩
  rcases h.same with rfl | hcolour
  · exact Or.inl rfl
  · exact Or.inr (hcolour.trans (List.suffix_cons p v).isInfix)

/-- A colour of zeros in a value may become the current colour. -/
theorem PartsAlike.colour {zeros : Text} {v v' : List Part}
    (h : v'.filterMap Part.entity? = v.filterMap Part.entity?) :
    PartsAlike (('#' :: '0' :: zeros).map .char ++ v) ("currentColor".toList.map .char ++ v') := by
  refine ⟨?_, Or.inr ⟨[], zeros.map .char ++ v, rfl⟩⟩
  rw [List.filterMap_append, List.filterMap_append, filterMap_entity?_map_char,
    filterMap_entity?_map_char, h]

/-- The characters of colours stand in values. -/
theorem standsIn_colours {close : Char} (hclose : close = '"' ∨ close = '\'') {zeros : Text}
    (hzeros : ∀ c ∈ zeros, c = '0') :
    (∀ c ∈ '#' :: '0' :: zeros, StandsIn close c) ∧
      ∀ c ∈ "currentColor".toList, StandsIn close c := by
  have hdecide : ∀ c : Char, c ∈ ('#' :: '0' :: "currentColor".toList) → StandsIn close c := by
    intro c hc
    have hall : ∀ d ∈ ('#' :: '0' :: "currentColor".toList),
        (d ≠ '"' ∧ d ≠ '\'') ∧ d ≠ '<' ∧ d ≠ '&' ∧ isGap d = false ∧ isChar d = true := by decide
    obtain ⟨⟨hdouble, hsingle⟩, hopening, hreference, hgap, hchar⟩ := hall c hc
    refine ⟨?_, hopening, hreference, hgap, hchar⟩
    rcases hclose with rfl | rfl
    · exact hdouble
    · exact hsingle
  refine ⟨fun c hc => hdecide c ?_, fun c hc => hdecide c ?_⟩
  · simp only [List.mem_cons] at hc ⊢
    rcases hc with rfl | rfl | hc
    · exact Or.inl rfl
    · exact Or.inr (Or.inl rfl)
    · exact Or.inr (Or.inl (hzeros c hc))
  · exact List.mem_cons_of_mem _ (List.mem_cons_of_mem _ hc)

/-- A colour that stands in a value with the other quotes may become the current colour. -/
theorem ReadsParts.replaceColour {close : Char} (hclose : close = '"' ∨ close = '\'')
    (hquote : '"' ≠ close) {zeros z : Text} (hzeros : ∀ c ∈ zeros, c = '0') {w : List Part}
    (hread : ReadsParts close ('#' :: '0' :: (zeros ++ '"' :: z)) w u) :
    ∃ w₀, ReadsParts close z w₀ u ∧ ∀ z' w' u', ReadsParts close z' w' u' → PartsAlike w₀ w' →
      ∃ v', ReadsParts close ('"' :: ("currentColor".toList ++ '"' :: z')) v' u' ∧
        PartsAlike (.char '"' :: w) v' := by
  obtain ⟨hplain, hplain'⟩ := standsIn_colours hclose hzeros
  have hdouble : StandsIn close '"' := ⟨hquote, by decide, by decide, by decide, by decide⟩
  rw [← List.cons_append, ← List.cons_append] at hread
  obtain ⟨w₁, rfl, hw₁⟩ := (readsParts_append hplain).1 hread
  obtain ⟨w₀, rfl, hw₀⟩ := (readsParts_cons hdouble).1 hw₁
  refine ⟨w₀, hw₀, fun z' w' u' hread' hw => ?_⟩
  have hafter := (readsParts_cons hdouble).2 ⟨w', rfl, hread'⟩
  have hcolour := (readsParts_append hplain').2 ⟨_, rfl, hafter⟩
  refine ⟨_, (readsParts_cons hdouble).2 ⟨_, rfl, hcolour⟩, ?_⟩
  exact PartsAlike.cons _ (PartsAlike.colour (hw.cons (.char '"')).entities)

/-- A value is read from alike texts alike, unless a colour begins with its closing quote. -/
theorem ReadsParts.alike {close : Char} (hclose : close = '"' ∨ close = '\'') {v : List Part}
    (hread : ReadsParts close t v u) (h : Alike rest rest' t t')
    (hlength : rest.length ≤ u.length) :
    u.head? = some '#' ∨
      ∃ v' u', ReadsParts close t' v' u' ∧ PartsAlike v v' ∧ Alike rest rest' u u' := by
  -- By induction on the length, as a colour takes several characters at a time.
  induction hn : t.length using Nat.strong_induction_on generalizing t t' v with
  | _ n ih =>
      have hshorter := hread.length
      cases hread with
      | close =>
          by_cases hquote : close = '"'
          · subst hquote
            obtain ⟨u', rfl, hu | ⟨zeros, w, w', -, rfl, -, -⟩⟩ := h.of_quote hlength
            · exact Or.inr ⟨[], u', .close, .refl [], hu⟩
            · exact Or.inl rfl
          · obtain ⟨u', rfl, hu⟩ := h.of_cons hquote hlength
            exact Or.inr ⟨[], u', .close, .refl [], hu⟩
      | @reference s after _ part w hamp href hrest =>
          have h₁ := hrest.length
          have h₂ := href.suffix.2
          rw [List.length_cons] at hn
          obtain ⟨s', rfl, hs⟩ := h.of_cons (by decide) (by omega)
          obtain ⟨after', href', hafter⟩ := href.alike hs (by omega)
          rcases ih after.length (by omega) hrest hafter rfl with hhead | ⟨w', u', hread', hw, hu⟩
          · exact Or.inl hhead
          · exact Or.inr ⟨part :: w', u', .reference hamp href' hread', hw.cons part, hu⟩
      | @lineEnd s _ w hreturn hhead hrest =>
          have h₁ := hrest.length
          rw [List.length_cons] at hn
          obtain ⟨s', rfl, hs⟩ := h.of_cons (by decide) (by omega)
          have hhead' : s'.head? = some '\n' := (hs.head? (by omega)).trans hhead
          rcases ih s.length (by omega) hrest hs rfl with hcolour | ⟨w', u', hread', hw, hu⟩
          · exact Or.inl hcolour
          · exact Or.inr ⟨w', u', .lineEnd hreturn hhead' hread', hw, hu⟩
      | @char c s _ w hcloses hopening hamp hline hc hrest =>
          have h₁ := hrest.length
          rw [List.length_cons] at hn
          have hgo : ∀ s', Alike rest rest' s s' → u.head? = some '#' ∨
              ∃ v' u', ReadsParts close (c :: s') v' u' ∧
                PartsAlike (.char (if isGap c then ' ' else c) :: w) v' ∧
                  Alike rest rest' u u' := by
            intro s' hs
            have hline' : ¬(c = '\r' ∧ s'.head? = some '\n') := by
              rw [hs.head? (by omega)]
              exact hline
            rcases ih s.length (by omega) hrest hs rfl with hcolour | ⟨w', u', hread', hw, hu⟩
            · exact Or.inl hcolour
            · exact Or.inr ⟨_, u', .char hcloses hopening hamp hline' hc hread', hw.cons _, hu⟩
          by_cases hquote : c = '"'
          · subst hquote
            obtain ⟨s', rfl, hs | ⟨zeros, z, z', hzeros, rfl, rfl, hz⟩⟩ :=
              h.of_quote (by omega)
            · exact hgo s' hs
            · -- A colour stands in the value, which has the other quotes.
              obtain ⟨w₀, hw₀, hreplace⟩ := hrest.replaceColour hclose hcloses hzeros
              simp only [List.length_cons, List.length_append] at hn
              rcases ih z.length (by omega) hw₀ hz rfl with hcolour | ⟨w', u', hread', hw, hu⟩
              · exact Or.inl hcolour
              · obtain ⟨v', hv', halike⟩ := hreplace z' w' u' hread' hw
                exact Or.inr ⟨v', u', hv', halike, hu⟩
          · obtain ⟨s', rfl, hs⟩ := h.of_cons hquote (by omega)
            exact hgo s' hs

/-- Two written attributes of one name with alike values. -/
structure WrittenAlike (w w' : Written) : Prop where
  raw : w'.raw = w.raw
  value : PartsAlike w.value w'.value

theorem readValue_alike {v : List Part} (h : Alike rest rest' t t')
    (hread : readValue t = .ok (v, u)) (hlength : rest.length ≤ u.length) :
    u.head? = some '#' ∨
      ∃ v' u', readValue t' = .ok (v', u') ∧ PartsAlike v v' ∧ Alike rest rest' u u' := by
  obtain ⟨close, s, hclose, rfl, hparts⟩ := readValue_eq_ok.1 hread
  have hshorter := hparts.length
  have hgo : ∀ s', Alike rest rest' s s' → t' = close :: s' → u.head? = some '#' ∨
      ∃ v' u', readValue t' = .ok (v', u') ∧ PartsAlike v v' ∧ Alike rest rest' u u' := by
    rintro s' hs rfl
    rcases hparts.alike hclose hs hlength with hhead | ⟨v', u', hread', hv, hu⟩
    · exact Or.inl hhead
    · exact Or.inr ⟨v', u', readValue_eq_ok.2 ⟨close, s', hclose, rfl, hread'⟩, hv, hu⟩
  by_cases hquote : close = '"'
  · subst hquote
    obtain ⟨s', rfl, hs | ⟨zeros, z, z', hzeros, rfl, rfl, hz⟩⟩ := h.of_quote (by omega)
    · exact hgo s' hs rfl
    · -- The value is a colour as a whole.
      obtain ⟨hplain, hplain'⟩ := standsIn_colours (Or.inl rfl) hzeros
      rw [← List.cons_append, ← List.cons_append] at hparts
      obtain ⟨w, rfl, hw⟩ := (readsParts_append hplain).1 hparts
      cases hw with
      | close =>
          refine Or.inr ⟨_, z', readValue_eq_ok.2 ⟨'"', _, Or.inl rfl, rfl,
            (readsParts_append hplain').2 ⟨[], rfl, .close⟩⟩, .colour rfl, hz⟩
      | char hne _ _ _ _ _ => exact absurd rfl hne
  · obtain ⟨s', rfl, hs⟩ := h.of_cons hquote (by omega)
    exact hgo s' hs rfl

theorem readAttribute_alike {w : Written} (h : Alike rest rest' t t')
    (hread : readAttribute t = .ok (w, u)) (hlength : rest.length ≤ u.length) :
    u.head? = some '#' ∨ ∃ w' u', readAttribute t' = .ok (w', u') ∧ WrittenAlike w w' ∧
      Alike rest rest' u u' := by
  obtain ⟨afterName, afterEquals, hname, hequals, hvalue, -⟩ := readAttribute_eq_ok.1 hread
  obtain ⟨close, s, -, rfl, hparts⟩ := readValue_eq_ok.1 hvalue
  have h₁ := hparts.length
  have h₂ := length_equals? hequals
  rw [List.length_cons] at h₂
  obtain ⟨afterName', hname', halike⟩ := readName_alike h hname (by omega)
  obtain ⟨afterEquals', hequals', halike'⟩ := equals?_alike halike hequals (by
    rw [List.length_cons]
    omega)
  rcases readValue_alike halike' hvalue hlength with hhead | ⟨v', u', hvalue', hv, hu⟩
  · exact Or.inl hhead
  · exact Or.inr ⟨⟨w.raw, v', u'.length⟩, u', readAttribute_eq_ok.2
      ⟨afterName', afterEquals', hname', hequals', hvalue', rfl⟩, ⟨rfl, hv⟩, hu⟩

/-! ## Attributes -/

/-- A name does not end a tag. -/
theorem tagEnd?_of_readName {raw : Text} (h : readName t = .ok (raw, u)) : tagEnd? t = none := by
  obtain ⟨⟨c, s, rfl, hc⟩, -⟩ := readName_eq_ok.1 h
  rw [tagEnd?.eq_def]
  split
  · rename_i heq
    obtain rfl := (List.cons.inj heq).1
    exact absurd hc (by decide)
  · rename_i heq
    obtain rfl := (List.cons.inj heq).1
    exact absurd hc (by decide)
  · rfl

theorem ReadsAttributes.head?_ne {ws : List Written} {ending : Ending}
    (h : ReadsAttributes t ws ending u) : t.head? ≠ some '#' := by
  intro hhead
  obtain ⟨s, rfl⟩ := List.head?_eq_some_iff.1 hhead
  cases h with
  | ending hend =>
      have hskip : skipGap ('#' :: s) = '#' :: s := List.dropWhile_cons_of_neg (by decide)
      rw [hskip] at hend
      cases hend
  | cons _ hgap _ _ => cases hgap

theorem ReadsAttributes.alike {ws : List Written} {ending : Ending}
    (hread : ReadsAttributes t ws ending u) (h : Alike rest rest' t t')
    (hlength : rest.length ≤ u.length) :
    ∃ ws' u', ReadsAttributes t' ws' ending u' ∧ List.Forall₂ WrittenAlike ws ws' ∧
      Alike rest rest' u u' := by
  induction hread generalizing t' with
  | @ending t u ending hend =>
      rcases tagEnd?_eq_some.1 hend with ⟨rfl, heq⟩ | ⟨rfl, heq⟩
      · have hskip := skipGap_alike h (by
          rw [heq, List.length_cons]
          omega)
        rw [heq] at hskip
        obtain ⟨u', hu', hu⟩ := hskip.of_cons (by decide) hlength
        exact ⟨[], u', .ending (tagEnd?_eq_some.2 (Or.inl ⟨rfl, hu'⟩)), .nil, hu⟩
      · have hskip := skipGap_alike h (by
          rw [heq, List.length_cons, List.length_cons]
          omega)
        rw [heq] at hskip
        obtain ⟨s', hs', hs⟩ := hskip.of_cons (by decide) (by
          rw [List.length_cons]
          omega)
        obtain ⟨u', rfl, hu⟩ := hs.of_cons (by decide) hlength
        exact ⟨[], u', .ending (tagEnd?_eq_some.2 (Or.inr ⟨rfl, hs'⟩)), .nil, hu⟩
  | @cons t first after u w ws ending _ hgap hattribute hrest ih =>
      have h₁ := hrest.length
      have h₂ := length_readAttribute hattribute
      obtain ⟨first', hgap', halike⟩ := gap?_alike h hgap (by omega)
      rcases readAttribute_alike halike hattribute (by omega) with
        hhead | ⟨w', after', hread', hw, hafter⟩
      · -- The value would end inside a colour, but a hash neither ends a tag nor begins a gap.
        exact absurd hhead hrest.head?_ne
      · obtain ⟨ws', u', hrest', hws, hu⟩ := ih hafter hlength
        refine ⟨w' :: ws', u', .cons ?_ hgap' hread' hrest', .cons hw hws, hu⟩
        obtain ⟨c, s, rfl, hc, rfl⟩ := gap?_eq_some.1 hgap'
        obtain ⟨_, _, hname, -⟩ := readAttribute_eq_ok.1 hread'
        have hskip : skipGap (c :: s) = skipGap s := List.dropWhile_cons_of_pos hc
        rw [hskip]
        exact tagEnd?_of_readName hname

/-! ## Texts up to a mark -/

/-- Characters that may be in a document and do not begin the mark are passed over. -/
theorem readUpTo_append {close : String} {s : Text}
    (hs : ∀ c ∈ s, isChar c ∧ ∀ d ∈ close.toList.head?, c ≠ d) (hclose : close.toList ≠ []) :
    readUpTo close (s ++ t) = readUpTo close t := by
  induction s with
  | nil => rfl
  | cons c s ih =>
      obtain ⟨hchar, hstart⟩ := hs c List.mem_cons_self
      have hmark : ¬close.toList <+: c :: (s ++ t) := by
        obtain ⟨d, l, hl⟩ := List.exists_cons_of_ne_nil hclose
        rw [hl, List.cons_prefix_cons]
        rintro ⟨rfl, -⟩
        exact hstart d (by rw [hl]; rfl) rfl
      rw [List.cons_append, readUpTo_cons hmark hchar]
      exact ih fun d hd => hs d (List.mem_cons_of_mem c hd)

/-- Marks that no colour begins or goes on. -/
def IsApart (close : String) : Prop :=
  close.toList ≠ [] ∧ '"' ∉ close.toList ∧
    ∀ d ∈ close.toList.head?, d ∉ '#' :: '0' :: currentColour

instance (close : String) : Decidable (IsApart close) :=
  have : Decidable (∀ d ∈ close.toList.head?, d ∉ '#' :: '0' :: currentColour) :=
    Option.decidableForallMem _
  inferInstanceAs (Decidable (_ ∧ _ ∧ _))

theorem colours_pass {close : String} (hclose : IsApart close) {zeros : Text}
    (hzeros : ∀ c ∈ zeros, c = '0') :
    (∀ c ∈ zeroColour zeros, isChar c ∧ ∀ d ∈ close.toList.head?, c ≠ d) ∧
      ∀ c ∈ currentColour, isChar c ∧ ∀ d ∈ close.toList.head?, c ≠ d := by
  have hall : ∀ c ∈ '#' :: '0' :: currentColour, isChar c ∧ ∀ d ∈ close.toList.head?, c ≠ d := by
    intro c hc
    have hchar : ∀ d ∈ '#' :: '0' :: currentColour, isChar d = true := by decide
    refine ⟨hchar c hc, fun d hd heq => ?_⟩
    exact hclose.2.2 d hd (heq ▸ hc)
  have hown : ∀ c ∈ ['"', '#', '0'], c ∈ '#' :: '0' :: currentColour := by decide
  refine ⟨fun c hc => hall c (hown c (mem_zeroColour hzeros hc)), fun c hc => hall c ?_⟩
  exact List.mem_cons_of_mem _ (List.mem_cons_of_mem _ hc)

theorem readUpTo_alike {close : String} (hclose : IsApart close) (h : Alike rest rest' t t')
    (hread : readUpTo close t = .ok ((), u)) (hlength : rest.length ≤ u.length) :
    ∃ u', readUpTo close t' = .ok ((), u') ∧ Alike rest rest' u u' := by
  have hpos : 0 < close.toList.length := List.length_pos_iff.2 hclose.1
  induction h with
  | rest =>
      have := length_readUpTo hread
      omega
  | @char c t t' h ih =>
      rw [readUpTo] at hread
      rw [readUpTo]
      split at hread
      · rename_i after hafter
        cases hread
        obtain ⟨u', hu', hu⟩ := after?_alike (.char c h) hclose.2.1 hafter hlength
        exact ⟨u', by rw [hu'], hu⟩
      · rename_i hafter
        split at hread
        · rename_i hchar
          have hlonger := length_readUpTo hread
          obtain ⟨u', hread', hu⟩ := ih hread
          have hmark := (Alike.char c h).not_leading hclose.2.1 (after?_eq_none.1 hafter) (by
            rw [List.length_cons]
            omega)
          refine ⟨u', ?_, hu⟩
          rw [after?_eq_none.2 hmark]
          simp only [hchar, if_true]
          exact hread'
        · cases hread
  | colour hzeros h ih =>
      obtain ⟨hpass, hpass'⟩ := colours_pass hclose hzeros
      rw [readUpTo_append hpass hclose.1] at hread
      rw [readUpTo_append hpass' hclose.1]
      exact ih hread

/-! ## Document types -/

/-- Two ways of cutting a text at a character that stands in the first part of one cut only
after the first part of the other. -/
theorem exists_of_append_eq {s d w : Text} (h : s ++ t = d ++ w) (hw : ∀ c ∈ w.head?, c ∉ s) :
    ∃ d', d = s ++ d' ∧ t = d' ++ w := by
  rcases List.append_eq_append_iff.1 h with ⟨d', hd, ht⟩ | ⟨x, hs, hx⟩
  · exact ⟨d', hd, ht⟩
  · cases x with
    | nil =>
        rw [List.append_nil] at hs
        exact ⟨[], by rw [hs, List.append_nil], hx.symm⟩
    | cons c x =>
        refine absurd ?_ (hw c (by rw [hx]; rfl))
        rw [hs]
        exact List.mem_append_right d List.mem_cons_self

/-- A literal goes on after a colour in it, which has to stand in it whole: its closing quote is
no character of a colour unless it is the one that begins it. -/
theorem quotedBody_colour {isOwn : Char → Bool} {close : Char} (hclose : close = '"' ∨ close = '\'')
    {zeros v : Text} (hzeros : ∀ c ∈ zeros, c = '0') (hv : ∀ c ∈ v, isOwn c ∧ c ≠ close)
    (hs : v ++ close :: u = zeroColour zeros ++ t) :
    u.head? = some '#' ∨ close = '\'' ∧ isOwn '"' ∧
      ∃ v₀, t = v₀ ++ close :: u ∧ ∀ c ∈ v₀, isOwn c ∧ c ≠ close := by
  rcases hclose with rfl | rfl
  · left
    cases v with
    | nil =>
        have htail := (List.cons.inj hs).2
        rw [htail]
        rfl
    | cons d v =>
        have hd := (List.cons.inj hs).1
        exact absurd hd (hv d List.mem_cons_self).2
  · right
    obtain ⟨v₀, rfl, rfl⟩ := exists_of_append_eq hs.symm fun c hc => by
      obtain rfl : '\'' = c := Option.some.inj hc
      exact not_mem_zeroColour hzeros (by decide)
    refine ⟨rfl, ?_, v₀, rfl, fun e he => hv e (List.mem_append_right _ he)⟩
    exact (hv '"' (List.mem_append_left _ List.mem_cons_self)).1

/-- The body of a literal, with its closing quote. -/
theorem quotedBody_alike {isOwn : Char → Bool} (hown : ∀ c ∈ currentColour, c ≠ '"' → isOwn c)
    {close : Char} (hclose : close = '"' ∨ close = '\'') {v : Text}
    (hv : ∀ c ∈ v, isOwn c ∧ c ≠ close) (h : Alike rest rest' (v ++ close :: u) t')
    (hlength : rest.length ≤ u.length) :
    u.head? = some '#' ∨ ∃ v' u', t' = v' ++ close :: u' ∧ (∀ c ∈ v', isOwn c ∧ c ≠ close) ∧
      Alike rest rest' u u' := by
  generalize hs : v ++ close :: u = s at h
  induction h generalizing v with
  | rest =>
      have := congrArg List.length hs
      simp only [List.length_append, List.length_cons] at this
      omega
  | @char c t t' h ih =>
      cases v with
      | nil =>
          obtain ⟨rfl, rfl⟩ := List.cons.inj hs
          exact Or.inr ⟨[], t', rfl, by simp, h⟩
      | cons d v =>
          obtain ⟨rfl, htail⟩ := List.cons.inj hs
          rcases ih (fun e he => hv e (List.mem_cons_of_mem d he)) htail with
            hhead | ⟨v', u', rfl, hv', hu⟩
          · exact Or.inl hhead
          · refine Or.inr ⟨d :: v', u', rfl, fun e he => ?_, hu⟩
            rcases List.mem_cons.1 he with rfl | he
            · exact hv e List.mem_cons_self
            · exact hv' e he
  | colour hzeros h ih =>
      rcases quotedBody_colour hclose hzeros hv hs with hhead | ⟨rfl, hdouble, v₀, rfl, hv₀⟩
      · exact Or.inl hhead
      rcases ih hv₀ rfl with hhead | ⟨v', u', rfl, hv', hu⟩
      · exact Or.inl hhead
      have hcolour : ∀ c ∈ currentColour, isOwn c ∧ c ≠ '\'' := by
        intro c hc
        have hsingle : c ≠ '\'' := by
          rintro rfl
          exact absurd hc (by decide)
        by_cases hquote : c = '"'
        · rw [hquote] at hsingle ⊢
          exact ⟨hdouble, hsingle⟩
        · exact ⟨hown c hc hquote, hsingle⟩
      refine Or.inr ⟨currentColour ++ v', u', by rw [List.append_assoc], fun e he => ?_, hu⟩
      rcases List.mem_append.1 he with he | he
      · exact hcolour e he
      · exact hv' e he

theorem Quoted.alike {isOwn : Char → Bool} (hown : ∀ c ∈ currentColour, c ≠ '"' → isOwn c)
    (hread : Quoted isOwn t u) (h : Alike rest rest' t t') (hlength : rest.length ≤ u.length) :
    u.head? = some '#' ∨ ∃ u', Quoted isOwn t' u' ∧ Alike rest rest' u u' := by
  obtain ⟨close, v, hclose, rfl, hv⟩ := hread
  have hlonger : rest.length ≤ (v ++ close :: u).length := by
    rw [List.length_append, List.length_cons]
    omega
  have hgo : ∀ s', Alike rest rest' (v ++ close :: u) s' → t' = close :: s' →
      u.head? = some '#' ∨ ∃ u', Quoted isOwn t' u' ∧ Alike rest rest' u u' := by
    rintro s' hs rfl
    rcases quotedBody_alike hown hclose hv hs hlength with hhead | ⟨v', u', rfl, hv', hu⟩
    · exact Or.inl hhead
    · exact Or.inr ⟨u', ⟨close, v', hclose, rfl, hv'⟩, hu⟩
  by_cases hdouble : close = '"'
  · subst hdouble
    obtain ⟨s', rfl, hs | ⟨zeros, z, z', hzeros, heq, rfl, hz⟩⟩ := h.of_quote hlonger
    · exact hgo s' hs rfl
    · -- The literal is a colour as a whole.
      have hcut : Text.cutFirst '"' (v ++ '"' :: u) = some (v, u) :=
        Text.cutFirst_eq_some.2 ⟨rfl, fun hmem => (hv _ hmem).2 rfl⟩
      have hcut' : Text.cutFirst '"' (v ++ '"' :: u) = some ('#' :: '0' :: zeros, z) :=
        Text.cutFirst_eq_some.2 ⟨heq, quote_not_mem_colour hzeros⟩
      obtain ⟨rfl, rfl⟩ := Prod.mk.inj (Option.some.inj (hcut.symm.trans hcut'))
      refine Or.inr ⟨z', ⟨'"', "currentColor".toList, hclose, rfl, fun c hc => ?_⟩, hz⟩
      have hne : c ≠ '"' := by
        rintro rfl
        exact absurd hc (by decide)
      exact ⟨hown c (List.mem_cons_of_mem _ (List.mem_append_left _ hc)) hne, hne⟩
  · obtain ⟨s', rfl, hs⟩ := h.of_cons hdouble hlonger
    exact hgo s' hs rfl

theorem ReadsOutside.alike (hread : ReadsOutside t u) (h : Alike rest rest' t t')
    (hlength : rest.length ≤ u.length) :
    u.head? = some '#' ∨ ∃ u', ReadsOutside t' u' ∧ Alike rest rest' u u' := by
  have hchar : ∀ c ∈ currentColour, c ≠ '"' → isChar c := by decide
  have hpublic : ∀ c ∈ currentColour, c ≠ '"' → isPublicChar c := by decide
  -- The lengths show each time that the part read ends before the common rest.
  cases hread with
  | @system first second u hsystem hgap hliteral =>
      have h₁ := hliteral.length
      obtain ⟨c, s, rfl, hc, rfl⟩ := gap?_eq_some.1 hgap
      have h₂ := length_skipGap s
      obtain ⟨first', hsystem', hfirst⟩ := after?_alike h (by decide) hsystem (by
        rw [List.length_cons]
        omega)
      obtain ⟨second', hgap', hsecond⟩ := gap?_alike hfirst hgap (by omega)
      rcases hliteral.alike hchar hsecond hlength with hhead | ⟨u', hliteral', hu⟩
      · exact Or.inl hhead
      · exact Or.inr ⟨u', .system hsystem' hgap' hliteral', hu⟩
  | @published first second third fourth u hfirst hsecond hthird hgap hliteral =>
      have h₁ := hliteral.length
      have h₂ := hthird.length
      obtain ⟨c, s, rfl, hc, rfl⟩ := gap?_eq_some.1 hsecond
      obtain ⟨d, z, rfl, hd, rfl⟩ := gap?_eq_some.1 hgap
      have h₃ := length_skipGap s
      have h₄ := length_skipGap z
      rw [List.length_cons] at h₂
      obtain ⟨first', hfirst', halike⟩ := after?_alike h (by decide) hfirst (by
        rw [List.length_cons]
        omega)
      obtain ⟨second', hsecond', halike⟩ := gap?_alike halike hsecond (by omega)
      rcases hthird.alike hpublic halike (by
        rw [List.length_cons]
        omega) with hhead | ⟨third', hthird', halike⟩
      · -- White space has to follow the public identifier.
        obtain rfl : d = '#' := Option.some.inj hhead
        exact absurd hd (by decide)
      · obtain ⟨fourth', hgap', halike⟩ := gap?_alike halike hgap (by omega)
        rcases hliteral.alike hchar halike hlength with hhead | ⟨u', hliteral', hu⟩
        · exact Or.inl hhead
        · exact Or.inr ⟨u', .published hfirst' hsecond' hthird' hgap' hliteral', hu⟩

theorem ReadsHead.alike {isOutside : Bool} (hread : ReadsHead t isOutside ('>' :: u))
    (h : Alike rest rest' t t') (hlength : rest.length ≤ u.length) :
    ∃ u', ReadsHead t' isOutside ('>' :: u') ∧ Alike rest rest' u u' := by
  generalize hw : '>' :: u = w at hread
  have hw' := congrArg List.length hw
  rw [List.length_cons] at hw'
  cases hread with
  | @inside first afterName name hgap hname _ _ =>
      have h₁ := length_skipGap afterName
      have h₂ := length_readName hname
      obtain ⟨first', hgap', hfirst⟩ := gap?_alike h hgap (by omega)
      obtain ⟨afterName', hname', hafter⟩ := readName_alike hfirst hname (by omega)
      have hskip := skipGap_alike hafter (by omega)
      rw [← hw] at hskip
      obtain ⟨u', hu', hu⟩ := hskip.of_cons (by decide) hlength
      have hread := ReadsHead.inside hgap' hname' (by rw [hu']; rfl) (by rw [hu']; rfl)
      rw [hu'] at hread
      exact ⟨u', hread, hu⟩
  | @outside first afterName z name hgap hname houtside =>
      have h₁ := length_skipGap afterName
      have h₂ := length_readName hname
      have h₃ := length_skipGap z
      have h₄ := houtside.length
      obtain ⟨first', hgap', hfirst⟩ := gap?_alike h hgap (by omega)
      obtain ⟨afterName', hname', hafter⟩ := readName_alike hfirst hname (by omega)
      rcases houtside.alike (skipGap_alike hafter (by omega)) (by omega) with
        hhead | ⟨z', houtside', hz⟩
      · -- A declaration ends with a bracket, and no hash comes before it.
        obtain ⟨s, rfl⟩ := List.head?_eq_some_iff.1 hhead
        have hskip : skipGap ('#' :: s) = '#' :: s := List.dropWhile_cons_of_neg (by decide)
        rw [hskip] at hw
        cases hw
      · have hskip := skipGap_alike hz (by omega)
        rw [← hw] at hskip
        obtain ⟨u', hu', hu⟩ := hskip.of_cons (by decide) hlength
        have hread := ReadsHead.outside hgap' hname' houtside'
        rw [hu'] at hread
        exact ⟨u', hread, hu⟩

/-! ## Pieces -/

/-- Pieces that differ in no more than colours of zeros, in where they stand, and in that the
second document type leaves more to be declared outside. -/
inductive PieceAlike : Piece → Piece → Prop where
  | opening (raw : Text) {ws ws' : List Written} (ending : Ending) (left left' : Nat) :
      List.Forall₂ WrittenAlike ws ws' →
        PieceAlike (.opening raw ws ending left) (.opening raw ws' ending left')
  | closing (raw : Text) : PieceAlike (.closing raw) (.closing raw)
  | instruction (target : Text) : PieceAlike (.instruction target) (.instruction target)
  | comment : PieceAlike .comment .comment
  | verbatim : PieceAlike .verbatim .verbatim
  | doctype {m m' : Bool} : (m = true → m' = true) →
      PieceAlike (.doctype (.plain m)) (.doctype (.plain m'))
  | reference (part : Part) (left left' : Nat) :
      PieceAlike (.reference part left) (.reference part left')
  | data {d d' : Text} : d'.all isGap = d.all isGap → PieceAlike (.data d) (.data d')

theorem readClosingTag_alike {raw : Text} (h : Alike rest rest' t t')
    (hread : readClosingTag t = .ok (raw, u)) (hlength : rest.length ≤ u.length) :
    ∃ u', readClosingTag t' = .ok (raw, u') ∧ Alike rest rest' u u' := by
  obtain ⟨afterName, hname, hclose⟩ := readClosingTag_eq_ok.1 hread
  have hshorter := length_skipGap afterName
  rw [hclose, List.length_cons] at hshorter
  obtain ⟨afterName', hname', hafter⟩ := readName_alike h hname (by omega)
  have hskip := skipGap_alike hafter (by
    rw [hclose, List.length_cons]
    omega)
  rw [hclose] at hskip
  obtain ⟨u', hu', hu⟩ := hskip.of_cons (by decide) hlength
  exact ⟨u', readClosingTag_eq_ok.2 ⟨afterName', hname', hu'⟩, hu⟩

theorem readInstruction_alike {target : Text} (h : Alike rest rest' t t')
    (hread : readInstruction t = .ok (target, u)) (hlength : rest.length ≤ u.length) :
    ∃ u', readInstruction t' = .ok (target, u') ∧ Alike rest rest' u u' := by
  have hmark : "?>".toList.length = 2 := rfl
  obtain ⟨afterName, hname, hreserved, hend⟩ := readInstruction_eq_ok.1 hread
  rcases hend with hend | ⟨hend, body, hgap, hbody⟩
  · have hlonger := congrArg List.length (after?_eq_some.1 hend)
    rw [List.length_append] at hlonger
    obtain ⟨afterName', hname', hafter⟩ := readName_alike h hname (by omega)
    obtain ⟨u', hend', hu⟩ := after?_alike hafter (by decide) hend hlength
    exact ⟨u', readInstruction_eq_ok.2 ⟨afterName', hname', hreserved, Or.inl hend'⟩, hu⟩
  · have hlonger := length_readUpTo hbody
    obtain ⟨c, z, rfl, hc, rfl⟩ := gap?_eq_some.1 hgap
    have hshorter := length_skipGap z
    obtain ⟨afterName', hname', hafter⟩ := readName_alike h hname (by
      rw [List.length_cons]
      omega)
    obtain ⟨body', hgap', hbody'⟩ := gap?_alike hafter hgap (by omega)
    obtain ⟨u', hread', hu⟩ := readUpTo_alike (by decide) hbody' hbody hlength
    refine ⟨u', readInstruction_eq_ok.2
      ⟨afterName', hname', hreserved, Or.inr ⟨?_, body', hgap', hread'⟩⟩, hu⟩
    obtain ⟨c', z', rfl, hc', -⟩ := gap?_eq_some.1 hgap'
    rw [after?_eq_none]
    intro hlead
    obtain rfl := (List.cons_prefix_cons.1 hlead).1
    exact absurd hc' (by decide)

/-- Markup is read off alike texts alike. A document that does not stand alone leaves no less
to be declared outside. -/
theorem ReadsPiece.alike {alone alone' : Bool} {piece : Piece}
    (halone : alone' = true → alone = true) (hread : ReadsPiece alone t piece u)
    (hmarkup : ∀ d, piece ≠ .data d) (h : Alike rest rest' t t')
    (hlength : rest.length ≤ u.length) :
    ∃ piece' u', ReadsPiece alone' t' piece' u' ∧ PieceAlike piece piece' ∧
      Alike rest rest' u u' := by
  have hshorter := hread.length
  cases hread with
  | @opening s afterName _ raw ws ending hname hattributes =>
      have h₁ := hattributes.length
      have h₂ := length_readName hname
      obtain ⟨s', rfl, hs⟩ := h.of_cons (by decide) (by omega)
      obtain ⟨afterName', hname', hafter⟩ := readName_alike hs hname (by omega)
      obtain ⟨ws', u', hattributes', hws, hu⟩ := hattributes.alike hafter hlength
      exact ⟨_, u', .opening hname' hattributes', .opening raw ending _ _ hws, hu⟩
  | @closing s raw _ hclosing =>
      have h₁ := length_readClosingTag hclosing
      obtain ⟨s₁, rfl, hs₁⟩ := h.of_cons (by decide) (by
        rw [List.length_cons]
        omega)
      obtain ⟨s₂, rfl, hs₂⟩ := hs₁.of_cons (by decide) (by omega)
      obtain ⟨u', hclosing', hu⟩ := readClosingTag_alike hs₂ hclosing hlength
      exact ⟨_, u', .closing hclosing', .closing raw, hu⟩
  | @instruction s target _ hinstruction =>
      have h₁ := length_readInstruction hinstruction
      obtain ⟨s₁, rfl, hs₁⟩ := h.of_cons (by decide) (by
        rw [List.length_cons]
        omega)
      obtain ⟨s₂, rfl, hs₂⟩ := hs₁.of_cons (by decide) (by omega)
      obtain ⟨u', hinstruction', hu⟩ := readInstruction_alike hs₂ hinstruction hlength
      exact ⟨_, u', .instruction hinstruction', .instruction target, hu⟩
  | @comment s _ hcomment =>
      have h₁ := length_readUpTo hcomment
      have hmark : "--".toList.length = 2 := rfl
      rw [List.length_cons] at h₁
      obtain ⟨s₁, heq, hs₁⟩ := Alike.of_append (l := '<' :: '!' :: "--".toList) h (by decide)
        (by omega)
      obtain rfl := heq
      obtain ⟨z', hread', hz⟩ := readUpTo_alike (by decide) hs₁ hcomment (by
        rw [List.length_cons]
        omega)
      obtain ⟨u', rfl, hu⟩ := hz.of_cons (by decide) hlength
      exact ⟨_, u', .comment hread', .comment, hu⟩
  | @verbatim s _ hverbatim =>
      have h₁ := length_readUpTo hverbatim
      obtain ⟨s₁, heq, hs₁⟩ := Alike.of_append (l := '<' :: '!' :: "[CDATA[".toList) h (by decide)
        (by omega)
      obtain rfl := heq
      obtain ⟨u', hread', hu⟩ := readUpTo_alike (by decide) hs₁ hverbatim hlength
      exact ⟨_, u', .verbatim hread', .verbatim, hu⟩
  | @doctype s _ isOutside hhead =>
      have h₁ := hhead.length
      rw [List.length_cons] at h₁
      obtain ⟨s₁, heq, hs₁⟩ := Alike.of_append (l := '<' :: '!' :: "DOCTYPE".toList) h (by decide)
        (by omega)
      obtain rfl := heq
      obtain ⟨u', hhead', hu⟩ := hhead.alike hs₁ hlength
      refine ⟨_, u', .doctype hhead', .doctype ?_, hu⟩
      cases alone <;> cases alone' <;> simp_all
  | @reference s _ part hreference =>
      have hreads := readReference_eq_ok.1 hreference
      have h₁ := hreads.suffix.2
      obtain ⟨s', rfl, hs⟩ := h.of_cons (by decide) (by omega)
      obtain ⟨u', hread', hu⟩ := hreads.alike hs hlength
      exact ⟨_, u', .reference (readReference_eq_ok.2 hread'), .reference part _ _, hu⟩
  | @data d _ _ _ _ => exact absurd rfl (hmarkup d)

/-! ## Character data -/

/-- A literal at the head of the second text is one at the head of the first. -/
theorem Alike.prefix_of_prefix {l : Text} (h : Alike [] [] t t') (hl : '"' ∉ l)
    (hlead : l <+: t') : l <+: t := by
  induction l generalizing t t' with
  | nil => exact List.nil_prefix
  | cons c l ih =>
      rw [List.mem_cons, not_or] at hl
      obtain ⟨s', rfl, hs'⟩ := List.cons_prefix_iff.1 hlead
      obtain ⟨s, rfl, hs⟩ := h.of_cons_right (Ne.symm hl.1) (Nat.zero_le _)
      exact List.cons_prefix_cons.2 ⟨rfl, ih hs hl.2 hs'⟩

theorem isData_append_of_plain {s d : Text} (hs : ∀ c ∈ s, (isChar c ∧ c ≠ '<' ∧ c ≠ '&') ∧ c ≠ ']')
    (hd : IsData d) : IsData (s ++ d) := by
  induction s with
  | nil => exact hd
  | cons c s ih =>
      obtain ⟨hc, hbracket⟩ := hs c List.mem_cons_self
      refine isData_cons.2 ⟨hc, ?_, ih fun e he => hs e (List.mem_cons_of_mem c he)⟩
      intro hlead
      exact hbracket (List.cons_prefix_cons.1 hlead).1.symm

theorem IsData.alike {d : Text} (hd : IsData d) (hu : EndsData u) (h : Alike [] [] (d ++ u) t') :
    ∃ d' u', t' = d' ++ u' ∧ IsData d' ∧ EndsData u' ∧ Alike [] [] u u' ∧
      d'.all isGap = d.all isGap ∧ (d' = [] → d = []) := by
  generalize hs : d ++ u = s at h
  induction h generalizing d with
  | rest =>
      obtain ⟨rfl, rfl⟩ := List.append_eq_nil_iff.1 hs
      exact ⟨[], [], rfl, isData_nil, hu, .rest, rfl, id⟩
  | @char c t t' h ih =>
      cases d with
      | nil =>
          rw [List.nil_append] at hs
          subst hs
          exact ⟨[], c :: t', rfl, isData_nil, hu, .char c h, rfl, id⟩
      | cons e d =>
          obtain ⟨rfl, rfl⟩ := List.cons.inj hs
          obtain ⟨hchar, hend, hrest⟩ := isData_cons.1 hd
          obtain ⟨d', u', rfl, hd', hu', hlater, hgaps, -⟩ := ih hrest rfl
          refine ⟨e :: d', u', rfl, isData_cons.2 ⟨hchar, ?_, hd'⟩, hu', hlater, ?_, ?_⟩
          · -- An end mark in the second text would be one in the first.
            intro hlead
            obtain ⟨rfl, htail⟩ := List.cons_prefix_cons.1 hlead
            have hwhole := h.prefix_of_prefix (by decide) (htail.trans (List.prefix_append d' u'))
            refine hend (List.cons_prefix_cons.2 ⟨rfl, Text.prefix_of_prefix_append ?_ hwhole⟩)
            intro c hc
            rcases hu c hc with rfl | rfl
            · decide
            · decide
          · rw [List.all_cons, List.all_cons, hgaps]
          · intro hnil
            cases hnil
  | @colour zeros t t' hzeros h ih =>
      -- What ends the data stands in no colour, so the colour lies in the data as a whole.
      have hhead : ∀ c ∈ u.head?, c ∉ zeroColour zeros := by
        intro c hc
        rcases hu c hc with rfl | rfl
        · exact not_mem_zeroColour hzeros (by decide)
        · exact not_mem_zeroColour hzeros (by decide)
      obtain ⟨d, rfl, rfl⟩ := exists_of_append_eq hs.symm hhead
      have hrest : IsData d :=
        ⟨fun c hc => hd.chars c (List.mem_append_right _ hc),
          fun hend => hd.noEnd (hend.trans (List.suffix_append _ d).isInfix)⟩
      obtain ⟨d', u', rfl, hd', hu', hlater, -, -⟩ := ih hrest rfl
      have hown : ∀ c ∈ currentColour, (isChar c ∧ c ≠ '<' ∧ c ≠ '&') ∧ c ≠ ']' := by decide
      refine ⟨currentColour ++ d', u', (List.append_assoc _ _ _).symm,
        isData_append_of_plain hown hd', hu', hlater, ?_, fun hnil => ?_⟩
      · rfl
      · cases hnil

/-- Every piece is read off texts that are alike to their ends alike. -/
theorem ReadsPiece.alike_whole {alone : Bool} (alone' : Bool) {piece : Piece}
    (halone : alone' = true → alone = true) (hread : ReadsPiece alone t piece u)
    (h : Alike [] [] t t') :
    ∃ piece' u', ReadsPiece alone' t' piece' u' ∧ PieceAlike piece piece' ∧
      Alike [] [] u u' := by
  by_cases hmarkup : ∀ d, piece ≠ .data d
  · exact hread.alike halone hmarkup h (Nat.zero_le _)
  · obtain ⟨d, hpiece⟩ := not_forall_not.1 hmarkup
    subst hpiece
    cases hread with
    | data hne hd hu =>
        obtain ⟨d', u', rfl, hd', hu', hlater, hgaps, hnil⟩ := hd.alike hu h
        exact ⟨.data d', u', .data (fun h => hne (hnil h)) hd' hu', .data hgaps, hlater⟩

end Iconsmith.Markup
