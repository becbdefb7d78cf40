import Iconsmith.Proofs.Markup.Runs
import Iconsmith.Proofs.Replacing

set_option autoImplicit false

/-!
# Runs of trimmed texts

A text is trimmed when what some matches cover is left out. If matches are found where pieces
begin, or inside pieces that are the same without them, the run of the trimmed text shadows the
run of the whole text from piece to piece (`Runs.trims`). Character data that a match is left
out of runs on behind it, so it is held back until the data has ended (`Held`).
-/

namespace Iconsmith.Markup

/-! ## Character data -/

/-- Pieces other than data follow data. -/
theorem ReadsPiece.endsData {alone : Bool} {u v : Text} {piece : Piece}
    (h : ReadsPiece alone u piece v) (hmarkup : ∀ d, piece ≠ .data d) : EndsData u := by
  have hmark : ∀ {t : Text} {c : Char}, c = '<' ∨ c = '&' → EndsData (c :: t) := by
    intro t c hc e he
    cases he
    exact hc
  cases h with
  | data _ _ _ => exact absurd rfl (hmarkup _)
  | reference _ => exact hmark (Or.inr rfl)
  | _ => exact hmark (Or.inl rfl)

/-- Data after data is data, unless the end mark of verbatim text would arise. -/
theorem isData_append {d e : Text} (hd : IsData d) (he : IsData e)
    (hjoint : d.getLast? = some ']' → ∀ c ∈ e.head?, c ≠ ']' ∧ c ≠ '>') : IsData (d ++ e) := by
  induction d with
  | nil => exact he
  | cons c d ih =>
      obtain ⟨hc, hend, hrest⟩ := isData_cons.1 hd
      refine isData_cons.2 ⟨hc, ?_, ih hrest fun hlast => hjoint ?_⟩
      · show ¬[']', ']', '>'] <+: c :: (d ++ e)
        rintro ⟨w, hw⟩
        obtain ⟨rfl, hfirst⟩ := List.cons.inj hw
        cases d with
        | nil =>
            cases e with
            | nil => cases hfirst
            | cons x e => exact (hjoint rfl x rfl).1 (List.cons.inj hfirst).1.symm
        | cons x d =>
            obtain ⟨rfl, hsecond⟩ := List.cons.inj hfirst
            cases d with
            | nil =>
                cases e with
                | nil => cases hsecond
                | cons y e => exact (hjoint rfl y rfl).2 (List.cons.inj hsecond).1.symm
            | cons y d =>
                obtain ⟨rfl, -⟩ := List.cons.inj hsecond
                exact hend ⟨d, rfl⟩
      · cases d with
        | nil => cases hlast
        | cons x d => exact (List.getLast?_cons_cons).trans hlast

/-- Pieces alike are data together. -/
theorem PieceAlike.ne_data {piece piece' : Piece} (h : PieceAlike piece piece')
    (hmarkup : ∀ d, piece ≠ .data d) : ∀ d, piece' ≠ .data d := by
  rintro d rfl
  cases h
  exact hmarkup _ rfl

theorem readsPiece_data {alone : Bool} {t d u : Text} (h : ReadsPiece alone t (.data d) u) :
    t = d ++ u ∧ d ≠ [] ∧ IsData d ∧ EndsData u := by
  cases h with
  | data hne hd hu => exact ⟨rfl, hne, hd, hu⟩

namespace Document

/-- Character data `d` has been read and not been taken yet, where `before` has been read of the
whole text and `u` follows. Whether it ends here or not, it ends as the text before does, or
with no bracket. -/
structure Held (p : Progress) (before d u : Text) : Prop where
  data : IsData d
  taken : d ≠ [] → Takes p (.data d) p
  place : d = [] ∨ (p.frames ≠ [] ∧ d.getLast? ≠ some ']') ∨
    (EndsData u ∧ d.getLast? = before.getLast?)

variable {alone alone' : Bool} {p p' q r : Progress} {before d u v : Text}

theorem Held.nil (p : Progress) (before u : Text) : Held p before [] u :=
  ⟨isData_nil, fun hne => absurd rfl hne, Or.inl rfl⟩

/-- Data that has ended is taken before what follows. -/
theorem Held.runs (h : Held p before d u) (hends : EndsData v) (hruns : Runs alone p v r []) :
    Runs alone p (d ++ v) r [] := by
  by_cases hnil : d = []
  · rw [hnil]
    exact hruns
  · exact .step (.data hnil h.data hends) trivial (h.taken hnil) hruns

/-- Data inside an element that is held back may go on behind anything, unless it ends in a
bracket. -/
theorem Held.goOn (h : Held p before d u) (hinside : p.frames ≠ [])
    (hlast : before.getLast? ≠ some ']') (before' v : Text) : Held p before' d v := by
  refine ⟨h.data, h.taken, ?_⟩
  rcases h.place with hnil | hplace | ⟨-, hsame⟩
  · exact Or.inl hnil
  · exact Or.inr (Or.inl hplace)
  · exact Or.inr (Or.inl ⟨hinside, hsame ▸ hlast⟩)

/-- How a match goes on: pieces of the whole text are taken up to `v`, and what is left of them
is taken by the shadow. -/
structure GoesOn (alone alone' : Bool) (trimmed : Text → Text) (whole before d u : Text)
    (p' r : Progress) (before' d' v : Text) (q q' : Progress) : Prop where
  split : whole = before' ++ v
  shorter : v.length < u.length
  begins : Begins alone whole v
  runs : Runs alone q v r []
  going : Going q
  shadow : Shadows 0 q q'
  held : Held q' before' d' v
  back : ∀ r', Runs alone' q' (d' ++ trimmed v) r' [] → Runs alone' p' (d ++ trimmed u) r' []

theorem Runs.eq_of_nil {v : Text} (h : Runs alone p [] r v) : r = p := by
  generalize ht : ([] : Text) = t at h
  cases h with
  | refl => rfl
  | step hread _ _ _ =>
      have hlength := hread.length
      rw [← ht] at hlength
      exact absurd hlength (Nat.not_lt_zero _)

/-- Data behind data that has been held back is held back with it. -/
theorem Held.append (h : Held p before d (v ++ u)) (hv : v ≠ []) (hdata : IsData v)
    (hends : EndsData u) (htakes : Takes p (.data v) p) :
    Held p (before ++ v) (d ++ v) u := by
  have hplace : d = [] ∨ (p.frames ≠ [] ∧ d.getLast? ≠ some ']') := by
    rcases h.place with hnil | hinside | ⟨hended, -⟩
    · exact Or.inl hnil
    · exact Or.inr hinside
    · obtain ⟨c, w, rfl⟩ := List.exists_cons_of_ne_nil hv
      obtain ⟨-, hopening, hreference⟩ := hdata.chars c List.mem_cons_self
      exact absurd (hended c rfl) (not_or.2 ⟨hopening, hreference⟩)
  refine ⟨isData_append h.data hdata fun hlast => ?_, fun _ => ?_, Or.inr (Or.inr ⟨hends, ?_⟩)⟩
  · rcases hplace with rfl | ⟨-, hnot⟩
    · cases hlast
    · exact absurd hlast hnot
  · rcases hplace with rfl | ⟨hinside, -⟩
    · exact htakes
    · exact .data (Or.inl hinside)
  · rw [List.getLast?_append_of_ne_nil _ hv, List.getLast?_append_of_ne_nil _ hv]

/-- A piece is kept in the trimmed text: no match begins in it, or it is alike without the
matches in it. -/
def IsKept (alone' : Bool) (span : Text → Option Nat) (u : Text) (piece : Piece) (v : Text) :
    Prop :=
  (∀ s, s <:+ u → v.length < s.length → span s = none) ∨
    ∃ piece', (∀ d, piece ≠ .data d) ∧ PieceAlike piece piece' ∧
      ReadsPiece alone' (Text.replaceSpans span [] 0 u) piece' (Text.replaceSpans span [] 0 v)

/-- Markup that is kept is read in the trimmed text. -/
theorem IsKept.exists_reads {span : Text → Option Nat} {piece : Piece}
    (h : IsKept alone' span u piece v) (halone : alone' = true → alone = true)
    (hread : ReadsPiece alone u piece v) (hmarkup : ∀ d, piece ≠ .data d) :
    ∃ piece', PieceAlike piece piece' ∧
      ReadsPiece alone' (Text.replaceSpans span [] 0 u) piece' (Text.replaceSpans span [] 0 v) := by
  rcases h with hnone | ⟨piece', -, hpiece, hread'⟩
  · obtain ⟨c, rfl, hkept⟩ := Text.replaceSpans_of_suffix [] hread.suffix hnone
    obtain ⟨piece', u', hread', hpiece, hu'⟩ := hread.alike halone hmarkup
      (Alike.append v (Text.replaceSpans span [] 0 v) c) (Nat.le_refl _)
    obtain rfl := hu'.eq_rest
    exact ⟨piece', hpiece, hkept ▸ hread'⟩
  · exact ⟨piece', hpiece, hread'⟩

/-- Markup that is kept ends the data that has been held back. -/
theorem Held.goesOn_markup {span : Text → Option Nat} {whole : Text} {piece : Piece}
    (h : Held p' before d u) (halone : alone' = true → alone = true) (hsplit : whole = before ++ u)
    (hu : Begins alone whole u) (hread : ReadsPiece alone u piece v)
    (hmarkup : ∀ d, piece ≠ .data d) (hkept : IsKept alone' span u piece v)
    (hp : Going p) (hplain : IsPlainPiece piece) (htakes : Takes p piece q)
    (hq : q.account.IsFaultless) (hrest : Runs alone q v r []) (hshadow : Shadows 0 p p') :
    ∃ before' q', GoesOn alone alone' (Text.replaceSpans span [] 0) whole before d u p' r
      before' [] v q q' := by
  obtain ⟨c, rfl⟩ := hread.suffix
  obtain ⟨piece', halike, hread'⟩ := hkept.exists_reads halone hread hmarkup
  obtain ⟨q', htakes', hshadow'⟩ := (htakes.shadows hp halike hplain hq).2 p' hshadow
  refine ⟨before ++ c, q', ?_, hread.length, .next hu (read_of_readsPiece hread), hrest,
    htakes.going hp hplain, hshadow', .nil q' (before ++ c) v, fun r' hruns => ?_⟩
  · rw [hsplit, List.append_assoc]
  · exact h.runs (hread'.endsData (halike.ne_data hmarkup))
      (.step hread' (isPlainPiece_alike halike hplain) htakes' hruns)

/-- Data that no match begins in is held back with the data before it. -/
theorem Held.goesOn_data {span : Text → Option Nat} {whole e : Text}
    (h : Held p' before d (e ++ v)) (hsplit : whole = before ++ (e ++ v))
    (hu : Begins alone whole (e ++ v)) (hread : ReadsPiece alone (e ++ v) (.data e) v)
    (hnone : ∀ s, s <:+ e ++ v → v.length < s.length → span s = none)
    (hp : Going p) (htakes : Takes p (.data e) q) (hq : q.account.IsFaultless)
    (hrest : Runs alone q v r []) (hshadow : Shadows 0 p p') :
    GoesOn alone alone' (Text.replaceSpans span [] 0) whole before d (e ++ v) p' r
      (before ++ e) (d ++ e) v q p' := by
  obtain ⟨-, hne, he, hends⟩ := readsPiece_data hread
  have hplain : IsPlainPiece (.data e) := trivial
  obtain ⟨q', htakes', hshadow'⟩ := (htakes.shadows hp (.data rfl) hplain hq).2 p' hshadow
  obtain rfl : q' = p' := by
    cases htakes'
    rfl
  refine ⟨?_, hread.length, .next hu (read_of_readsPiece hread), hrest, htakes.going hp hplain,
    hshadow', h.append hne he hends htakes', fun r' hruns => ?_⟩
  · rw [hsplit, List.append_assoc]
  · obtain ⟨c, heq, htrimmed⟩ := Text.replaceSpans_of_suffix [] (List.suffix_append e v) hnone
    obtain rfl := List.append_cancel_right heq
    rw [List.append_assoc] at hruns
    exact htrimmed ▸ hruns

/-- A text that has not been read to its end goes on with a match or with a piece. -/
theorem Held.exists_goesOn {span : Text → Option Nat} {whole : Text} (hheld : Held p' before d u)
    (halone : alone' = true → alone = true)
    (hkept : ∀ v piece, span u = none → ReadsPiece alone u piece v → IsKept alone' span u piece v)
    (hmatch : (span u).isSome → ∃ before' d' v q q', GoesOn alone alone'
      (Text.replaceSpans span [] 0) whole before d u p' r before' d' v q q')
    (hr : r.account.IsFaultless) (hne : u ≠ []) (hsplit : whole = before ++ u)
    (hu : Begins alone whole u) (h : Runs alone p u r []) (hp : Going p)
    (hshadow : Shadows 0 p p') :
    ∃ before' d' v q q', GoesOn alone alone' (Text.replaceSpans span [] 0) whole before d u p' r
      before' d' v q q' := by
  cases hspan : span u with
  | some length => exact hmatch (by rw [hspan]; rfl)
  | none =>
      generalize hw : ([] : Text) = w at h
      cases h with
      | refl => exact absurd hw.symm hne
      | @step _ q _ _ v _ piece hread hplain htakes hrest =>
          subst hw
          have hq := hrest.faultless (htakes.going hp hplain) hr
          have hpiece := hkept v piece hspan hread
          by_cases hmarkup : ∀ d, piece ≠ .data d
          · obtain ⟨before', q', hgo⟩ := hheld.goesOn_markup halone hsplit hu hread hmarkup
              hpiece hp hplain htakes hq hrest hshadow
            exact ⟨before', [], v, q, q', hgo⟩
          · obtain ⟨e, rfl⟩ := not_forall_not.1 hmarkup
            obtain ⟨rfl, -⟩ := readsPiece_data hread
            have hnone := hpiece.resolve_right fun ⟨_, hdata, _⟩ => hdata e rfl
            exact ⟨before ++ e, d ++ e, v, q, p',
              hheld.goesOn_data hsplit hu hread hnone hp htakes hq hrest hshadow⟩

/-- The run of a trimmed text shadows the run of the whole text. -/
theorem Runs.trims {span : Text → Option Nat} {whole : Text}
    (halone : alone' = true → alone = true)
    (hkept : ∀ u v piece, Begins alone whole u → span u = none → ReadsPiece alone u piece v →
      IsKept alone' span u piece v)
    (hmatch : ∀ {before d u p p'}, whole = before ++ u → Begins alone whole u →
      (span u).isSome → Runs alone p u r [] → Going p → Shadows 0 p p' → Held p' before d u →
        ∃ before' d' v q q', GoesOn alone alone' (Text.replaceSpans span [] 0) whole before d u p' r
          before' d' v q q')
    (hr : r.account.IsFaultless) {u : Text} (hsplit : whole = before ++ u)
    (hu : Begins alone whole u) (h : Runs alone p u r []) (hp : Going p)
    (hshadow : Shadows 0 p p') (hheld : Held p' before d u) :
    ∃ r', Runs alone' p' (d ++ Text.replaceSpans span [] 0 u) r' [] ∧ Shadows 0 r r' := by
  -- By induction on what is left to read, as a match may go on over several pieces.
  induction hn : u.length using Nat.strong_induction_on generalizing before d u p p' with
  | _ n ih =>
      by_cases hne : u = []
      · subst hne
        rw [h.eq_of_nil]
        exact ⟨p', hheld.runs (fun c hc => by cases hc) (.refl p' []), hshadow⟩
      · obtain ⟨before', d', v, q, q', hgo⟩ := hheld.exists_goesOn halone
          (fun v piece => hkept u v piece hu)
          (fun hspan => hmatch hsplit hu hspan h hp hshadow hheld) hr hne hsplit hu h hp hshadow
        obtain ⟨r', hruns, hr'⟩ := ih v.length (hn ▸ hgo.shorter) hgo.split hgo.begins hgo.runs
          hgo.going hgo.shadow hgo.held rfl
        exact ⟨r', hgo.back r' hruns, hr'⟩

end Document

end Iconsmith.Markup
