import Iconsmith.Proofs.Markup.Runs

set_option autoImplicit false

/-!
# How documents begin and end

What is said in asides before the root leaves no trace in a reading (`Runs.passes`). A text that
can be taken from its first character to its end needs no declaration to be opened
(`parse_of_reaches`), so a run to its end is all that has to be shown for a document
(`parse_of_runs`); and a document that is read without fault has one (`runs_of_parse`).
-/

namespace Iconsmith.Markup

/-! ## Documents without declarations -/

/-- A document that begins with its text. -/
def Opened.bare (t : Text) : Opened := ⟨t, false, t, [], false⟩

/-- A text in wider units has a NUL character first, or behind a bracket. -/
theorem wideStart?_eq_none {c : Char} {t : Text} (hc : c ≠ '\x00')
    (ht : c = '<' → t.head? ≠ some '\x00') : wideStart? (c :: t) = none := by
  rw [wideStart?.eq_def]
  split
  · rename_i heq
    obtain ⟨rfl, rfl⟩ := List.cons.inj heq
    exact absurd rfl (ht rfl)
  · rename_i heq
    exact absurd (List.cons.inj heq).1 hc
  · rename_i heq
    obtain ⟨rfl, rfl⟩ := List.cons.inj heq
    exact absurd rfl (ht rfl)
  · rename_i heq
    exact absurd (List.cons.inj heq).1 hc
  · rfl

/-- A piece begins with neither a byte order mark nor the start of a wider encoding. Data does
not either if it is white space, as it is outside of all elements. -/
theorem ReadsPiece.head {alone : Bool} {t u : Text} {piece : Piece}
    (h : ReadsPiece alone t piece u) (hdata : ∀ d, piece = .data d → d.all isGap = true) :
    wideStart? t = none ∧ t.head? ≠ some '\ufeff' := by
  have hbracket : ∀ {c : Char} {s : Text}, c ≠ '\x00' →
      wideStart? ('<' :: c :: s) = none ∧ ('<' :: c :: s).head? ≠ some '\ufeff' := by
    intro c s hc
    refine ⟨wideStart?_eq_none (by decide) fun _ hhead => hc (Option.some.inj hhead), ?_⟩
    rw [List.head?_cons]
    decide
  cases h with
  | opening hname _ =>
      obtain ⟨⟨c, rest, rfl, hstart⟩, -⟩ := readName_eq_ok.1 hname
      exact hbracket fun hc => absurd (hc ▸ hstart) (by decide)
  | closing _ => exact hbracket (by decide)
  | instruction _ => exact hbracket (by decide)
  | comment _ => exact hbracket (by decide)
  | verbatim _ => exact hbracket (by decide)
  | doctype _ => exact hbracket (by decide)
  | reference _ =>
      refine ⟨wideStart?_eq_none (by decide) fun hopening => absurd hopening (by decide), ?_⟩
      rw [List.head?_cons]
      decide
  | @data d u hne _ _ =>
      obtain ⟨c, d, rfl⟩ := List.exists_cons_of_ne_nil hne
      have hgap : isGap c = true := List.all_eq_true.1 (hdata _ rfl) c List.mem_cons_self
      have hne : ∀ {e : Char}, isGap e = false → c ≠ e := by
        rintro e he rfl
        exact absurd hgap (by rw [he]; exact Bool.false_ne_true)
      refine ⟨wideStart?_eq_none (hne (by decide)) fun hopening =>
        absurd hopening (hne (by decide)), fun hmark => ?_⟩
      exact hne (by decide) (Option.some.inj hmark)

/-- A piece is no declaration, whose name is reserved. -/
theorem ReadsPiece.not_declaration {alone : Bool} {t u rest : Text} {piece : Piece} {c : Char}
    (h : ReadsPiece alone t piece u) (ht : after? "<?xml" t = some (c :: rest)) :
    isGap c = false := by
  obtain rfl := after?_eq_some.1 ht
  rw [Bool.eq_false_iff]
  intro hc
  generalize hs : "<?xml".toList ++ c :: rest = s at h
  cases h with
  | @instruction t target u hread =>
      obtain rfl : t = "xml".toList ++ c :: rest := (List.cons.inj (List.cons.inj hs).2).2.symm
      obtain ⟨afterName, hname, hreserved, -⟩ := readInstruction_eq_ok.1 hread
      have hstop : isNameChar c = false := Bool.eq_false_iff.2 fun hname =>
        absurd hc (by rw [isGap_eq_false hname]; exact Bool.false_ne_true)
      have hnul : c ≠ '\x00' := fun hnul => absurd (hnul ▸ hc) (by decide)
      cases (readName_append (by decide) hstop hnul).symm.trans hname
      exact hreserved (by decide)
  | opening hname _ =>
      obtain ⟨⟨d, rest, rfl, hstart⟩, -⟩ := readName_eq_ok.1 hname
      obtain rfl := (List.cons.inj (List.cons.inj hs).2).1
      exact absurd hstart (by decide)
  | data hne hd _ =>
      obtain ⟨d, e, rfl⟩ := List.exists_cons_of_ne_nil hne
      obtain rfl := (List.cons.inj hs).1
      exact absurd rfl (hd.chars _ List.mem_cons_self).2.1
  | closing _ => cases hs
  | comment _ => cases hs
  | verbatim _ => cases hs
  | doctype _ => cases hs
  | reference _ => cases hs

/-- A document that is read from its first character on is opened as it stands, behind a byte
order mark too. -/
theorem ReadsPiece.opens {alone : Bool} {t u : Text} {piece : Piece}
    (h : ReadsPiece alone t piece u) (hdata : ∀ d, piece = .data d → d.all isGap = true) :
    openText t = some (.bare t) ∧ openText ('\ufeff' :: t) = some (.bare t) := by
  have hopen : ∀ known, openWith known t = some (.bare t) := by
    intro known
    rw [openWith]
    split
    · rename_i c rest ht
      rw [h.not_declaration ht, if_neg Bool.false_ne_true]
      rfl
    · rfl
  obtain ⟨hwide, hmark⟩ := h.head hdata
  refine ⟨?_, ?_⟩
  · rw [openText.eq_def]
    split
    · rename_i heq
      rw [hwide] at heq
      cases heq
    · exact absurd rfl hmark
    · exact hopen _
  · exact hopen _

/-! ## What stands before the root -/

/-- Pieces that say nothing about a drawing. -/
def IsAside : Piece → Prop
  | .comment | .instruction _ | .data _ => True
  | _ => False

/-- From one text up to another stand whole asides. -/
inductive Passes (alone : Bool) : Text → Text → Prop where
  | done (t : Text) : Passes alone t t
  | next {t u v : Text} {piece : Piece} : Piece.read alone t = ([piece], some u) →
      IsAside piece → Passes alone u v → Passes alone t v

namespace Document

variable {alone : Bool} {p p' q r : Progress} {t u : Text}

/-- An aside leaves no trace in the shadow. -/
theorem Takes.passes {piece : Piece} (h : Takes p piece q) (haside : IsAside piece)
    (hshadow : Shadows 0 p p') : Shadows 0 q p' := by
  cases h with
  | comment => exact hshadow
  | data _ => exact hshadow
  | instruction target =>
      exact ⟨hshadow.doctype, hshadow.plain, hshadow.frames, hshadow.root, hshadow.ids,
        hshadow.tellable, hshadow.going, hshadow.faultless, hshadow.spent⟩
  | _ => exact haside.elim

theorem Runs.passes (hpasses : Passes alone t u) (h : Runs alone p t r []) (hp : Going p)
    (hshadow : Shadows 0 p p') : ∃ q, Runs alone q u r [] ∧ Going q ∧ Shadows 0 q p' := by
  induction hpasses generalizing p with
  | done t => exact ⟨p, h, hp, hshadow⟩
  | @next t u v piece hread haside _ ih =>
      generalize hend : ([] : Text) = w at h
      cases h with
      | refl =>
          subst hend
          cases hread
          exact ih (.refl _ _) hp hshadow
      | step hpiece hplain htakes hrest =>
          subst hend
          cases (read_of_readsPiece hpiece).symm.trans hread
          exact ih hrest (htakes.going hp hplain) (htakes.passes haside hshadow)

/-! ## Whole documents -/

/-- The complaints about a document hold no error: it is well formed, and keeps the other rules
that only complaints are made about. -/
def IsFaultless (t : Text) : Prop :=
  ∀ opened p, openText t = some opened → takeAll opened = .ok p → p.account.IsFaultless

/-- A reading that has come to the end of a document with a root. -/
structure Ended (r : Progress) (root : Element) : Prop where
  frames : r.frames = []
  root : r.root = some root
  tellable : r.isTellable = true
  faultless : r.account.IsFaultless

theorem going_start (opened : Opened) : Going (.start opened) :=
  ⟨rfl, ⟨false, rfl⟩, fun hne => absurd rfl hne⟩

/-- A reading that begins without complaints shadows any that begins. -/
theorem shadows_start (opened : Opened) (t : Text) :
    Shadows 0 (.start opened) (.start (.bare t)) :=
  ⟨rfl, ⟨false, false, rfl, rfl, id⟩, .nil, rfl, List.Subset.refl _, fun _ => rfl,
    going_start _, rfl, rfl⟩

theorem areForgiven_of_isFaultless {a : Account} (h : a.IsFaultless) :
    a.complaints.areForgiven = true := by
  rw [Account.IsFaultless, Complaints.hasError, List.any_eq_false] at h
  rw [Complaints.areForgiven]
  cases hlatest : a.complaints.latestFirst with
  | nil => rfl
  | cons c cs =>
      have hc := h c (by rw [hlatest]; exact List.mem_cons_self)
      cases hseverity : c.severity with
      | warning => simp [hseverity]
      | error => simp [hseverity] at hc

/-- A document that is read without fault has a run to its end. -/
theorem runs_of_parse {root : Element} {opened : Opened} (h : parse t = .ok root)
    (hfaultless : IsFaultless t) (hopened : openText t = some opened)
    (hplain : IsPlainText opened.alone opened.text) :
    ∃ r, Runs opened.alone (.start opened) opened.text r [] ∧ Ended r root := by
  rw [parse, hopened] at h
  simp only at h
  split at h
  · cases h
  · rename_i r htake
    have hr := hfaultless opened r hopened htake
    obtain ⟨-, hruns⟩ := runs_of_foldlM hplain (going_start opened) htake hr
    refine ⟨r, hruns, ?_⟩
    rw [conclude] at h
    split at h
    · rename_i e hframes hroot
      split at h
      · cases h
      · split at h
        · cases h
        · split at h
          · rename_i htellable
            cases h
            exact ⟨hframes, hroot, htellable, hr⟩
          · cases h
    · cases h

/-- A text that is taken to its end is a document, behind a byte order mark too. -/
theorem parse_of_reaches (h : Reaches false (.start (.bare t)) t r []) (hroot : r.root ≠ none) :
    parse t = conclude (.bare t) r ∧ parse ('\ufeff' :: t) = conclude (.bare t) r := by
  have hopen : openText t = some (.bare t) ∧ openText ('\ufeff' :: t) = some (.bare t) := by
    generalize hend : ([] : Text) = w at h
    cases h with
    | refl => exact absurd rfl hroot
    | @step _ _ _ _ _ _ piece hpiece htake _ =>
        refine hpiece.opens fun d hd => ?_
        subst hd
        replace htake : takeBefore (.start (.bare t)) (.data d) = .ok _ := htake
        rw [takeBefore] at htake
        split at htake
        · assumption
        · cases htake
  have htake : takeAll (.bare t) = .ok r := h.foldlM_pieces
  exact ⟨by simp only [parse, hopen.1, htake], by simp only [parse, hopen.2, htake]⟩

/-- A run to the end of a text reads it, as a document and behind a byte order mark. -/
theorem parse_of_runs {root : Element} (h : Runs false (.start (.bare t)) t r [])
    (hr : Ended r root) : parse t = .ok root ∧ parse ('\ufeff' :: t) = .ok root := by
  have hconclude : conclude (.bare t) r = .ok root := by
    rw [conclude, hr.frames, hr.root]
    simp [Opened.bare, areForgiven_of_isFaultless hr.faultless, hr.tellable]
  rw [← hconclude]
  exact parse_of_reaches (h.reaches (going_start _)) (by
    rw [hr.root]
    exact Option.some_ne_none root)

/-- What ends a document, ends it in the shadow too. -/
theorem Shadows.ended {r' : Progress} {root : Element} (h : Shadows 0 r r') (hr : Ended r root) :
    ∃ root', root'.name = root.name ∧ Ended r' root' := by
  have hname := h.root
  rw [hr.root] at hname
  obtain ⟨root', hroot', hsame⟩ := Option.map_eq_some_iff.1 hname
  exact ⟨root', hsame, h.frames_eq_nil.2 hr.frames, hroot', h.tellable hr.tellable, h.faultless⟩

/-- A reading that shadows another shadows itself. -/
theorem Shadows.self {depth : Nat} (h : Shadows depth p p') : Shadows 0 p' p' := by
  obtain ⟨-, m', -, hm', -⟩ := h.plain
  exact ⟨rfl, ⟨m', m', hm', hm', id⟩, List.forall₂_same.2 fun f _ => ⟨rfl, rfl, rfl⟩, rfl,
    List.Subset.refl _, id, h.going, h.faultless, h.spent⟩

end Document

end Iconsmith.Markup
