import Iconsmith.Proofs.Markup.Faultless
import Iconsmith.Proofs.Markup.Trees

set_option autoImplicit false

/-!
# Readings and their shadows

`Takes` says what a piece can do to a reading in a document whose document type declares
nothing. A reading shadows another when the same elements are open in both, save the innermost
few of the other, and no more has been used or complained about (`Shadows`). A piece that the
other takes without fault is taken by the shadow (`Takes.shadows`), and elements that close
again leave no trace in it (`Takes.hides`).
-/

namespace Iconsmith.Markup.Document

/-! ## What a piece can do -/

/-- A reading that goes on, where nothing is declared in the document type. -/
structure Going (p : Progress) : Prop where
  going : p.isOver = false
  plain : ∃ m, p.doctype.getD .none = .plain m
  single : p.frames ≠ [] → p.root = none

/-- An element has been opened. -/
def tagged (p : Progress) (raw : Text) (r : TagResult) : Progress :=
  { p with
    account := r.account
    frames := ⟨raw, r.tag, []⟩ :: p.frames
    ids := r.ids
    isTellable := p.isTellable && r.tag.isTellable }

/-- What a piece can do, when nothing is declared in the document type. -/
inductive Takes (p : Progress) : Piece → Progress → Prop where
  | broken {raw : Text} {ws : List Written} {left : Nat} {draft : Draft} :
      (p.frames = [] → p.root = none) →
        readAttributes (p.surroundings Doctype.maxNesting) p.account raw ws = .ok draft →
          Takes p (.opening raw ws .broken left) { p with account := draft.account }
  | opened {raw : Text} {ws : List Written} {left : Nat} {r : TagResult} :
      (p.frames = [] → p.root = none) → p.frames.length < Progress.maxDepth →
        Tag.read (p.surroundings Doctype.maxNesting) p.scope p.ids p.account raw ws left = .ok r →
          Takes p (.opening raw ws .opened left) (tagged p raw r)
  | closed {raw : Text} {ws : List Written} {left : Nat} {r : TagResult} :
      (p.frames = [] → p.root = none) → p.frames.length < Progress.maxDepth →
        Tag.read (p.surroundings Doctype.maxNesting) p.scope p.ids p.account raw ws left = .ok r →
          Takes p (.opening raw ws .closed left)
            ((tagged p raw r).finish (Frame.element ⟨raw, r.tag, []⟩) p.frames)
  | closing {f : Frame} {outer : List Frame} : p.frames = f :: outer →
      Takes p (.closing f.raw) (p.finish f.element outer)
  | data {d : Text} : p.frames ≠ [] ∨ d.all isGap = true → Takes p (.data d) p
  | comment : Takes p .comment p
  | instruction (target : Text) :
      Takes p (.instruction target) (p.complainAll (targetComplaints target))
  | verbatim : p.frames ≠ [] → Takes p .verbatim p
  | char {c : Char} {left : Nat} : p.frames ≠ [] → Takes p (.reference (.char c) left) p
  | entity {name : Text} {left : Nat} : p.frames ≠ [] → p.doctype.getD .none = .plain true →
      Takes p (.reference (.entity name) left) (p.complainAll [.warning])
  | doctype {d : Doctype} : p.frames = [] → p.root = none → p.doctype = none →
      Takes p (.doctype d) (takeDoctype p d)

theorem openElement_eq_ok {p q : Progress} {raw : Text} {ws : List Written} {ending : Ending}
    {left : Nat} (hplace : p.frames = [] → p.root = none)
    (h : p.openElement Doctype.maxNesting raw ws ending left = .ok q) :
    Takes p (.opening raw ws ending left) q := by
  rw [Progress.openElement] at h
  split at h
  · rename_i hending
    subst hending
    obtain ⟨draft, hdraft, h⟩ := bind_eq_ok.1 h
    cases h
    exact .broken hplace hdraft
  · split at h
    · cases h
    · rename_i hending hdepth
      rw [Nat.not_le] at hdepth
      obtain ⟨r, hr, h⟩ := bind_eq_ok.1 h
      cases ending with
      | opened =>
          cases h
          exact .opened hplace hdepth hr
      | closed =>
          simp only [if_true, Progress.closeElement] at h
          cases h
          exact .closed hplace hdepth hr
      | broken => exact absurd rfl hending

theorem takeBefore_eq_ok {p q : Progress} {piece : Piece} (hframes : p.frames = [])
    (hroot : p.root = none) (h : takeBefore p piece = .ok q) : Takes p piece q := by
  cases piece with
  | opening raw ws ending left => exact openElement_eq_ok (fun _ => hroot) h
  | closing raw => cases h
  | data d =>
      rw [takeBefore] at h
      split at h
      · rename_i hgap
        cases h
        exact .data (Or.inr hgap)
      · cases h
  | reference part left => cases h
  | comment =>
      cases h
      exact .comment
  | instruction target =>
      cases h
      exact .instruction target
  | verbatim => cases h
  | doctype d =>
      rw [takeBefore] at h
      split at h
      · rename_i hnone
        cases h
        exact .doctype hframes hroot (Option.isNone_iff_eq_none.1 hnone)
      · cases h
  | broken kind s => cases kind <;> cases h

/-- After the root nothing ends a reading but an error before. -/
theorem takeAfter_eq_ok {p q : Progress} {piece : Piece} (h : takeAfter p piece = .ok q) :
    Takes p piece q ∨ (q.isOver = true ∧ ¬q.account.IsFaultless) := by
  -- After the root a piece out of place ends the reading, and only where an error has been made.
  have hover : ∀ {x : Except Stop Progress}, x = .ok q →
      (x = if p.account.complaints.hasError then .ok { p with isOver := true } else p.stop none) →
        q.isOver = true ∧ ¬q.account.IsFaultless := by
    rintro x rfl hx
    split at hx
    · rename_i herror
      cases hx
      exact ⟨rfl, fun hfaultless => absurd herror (by rw [hfaultless]; decide)⟩
    · cases hx
  cases piece with
  | comment =>
      cases h
      exact Or.inl .comment
  | instruction target =>
      cases h
      exact Or.inl (.instruction target)
  | data d =>
      rw [takeAfter] at h
      split at h
      · rename_i hgap
        cases h
        exact Or.inl (.data (Or.inr hgap))
      · exact Or.inr (hover h rfl)
  | broken kind s =>
      cases kind with
      | aside => cases h
      | doctype => exact Or.inr (hover h rfl)
      | opening => exact Or.inr (hover h rfl)
      | other => exact Or.inr (hover h rfl)
  | opening raw ws ending left => exact Or.inr (hover h rfl)
  | closing raw => exact Or.inr (hover h rfl)
  | reference part left => exact Or.inr (hover h rfl)
  | verbatim => exact Or.inr (hover h rfl)
  | doctype d => exact Or.inr (hover h rfl)

/-- A document type that declares nothing has no entities of its own. -/
theorem entities_of_plain {p : Progress} {m : Bool} (h : p.doctype.getD .none = .plain m) :
    (p.surroundings Doctype.maxNesting).entities = ⟨[], m⟩ := by
  rw [Surroundings.entities, Progress.surroundings, h]
  rfl

theorem takeInside_eq_ok {p q : Progress} {piece : Piece} (hp : Going p) (hframes : p.frames ≠ [])
    (h : takeInside Doctype.maxNesting p piece = .ok q) : Takes p piece q := by
  cases piece with
  | opening raw ws ending left =>
      rw [takeInside] at h
      exact openElement_eq_ok (fun hnil => absurd hnil hframes) h
  | closing raw =>
      rw [takeInside, Progress.closeElement] at h
      split at h
      · cases h
      · rename_i f outer heq
        split at h
        · rename_i hraw
          cases h
          subst hraw
          exact .closing heq
        · cases h
  | data d =>
      cases h
      exact .data (Or.inl hframes)
  | comment =>
      cases h
      exact .comment
  | instruction target =>
      cases h
      exact .instruction target
  | verbatim =>
      cases h
      exact .verbatim hframes
  | doctype d => cases h
  | broken kind s => cases kind <;> cases h
  | reference part left =>
      cases part with
      | char c =>
          cases h
          exact .char hframes
      | entity name =>
          obtain ⟨m, hm⟩ := hp.plain
          rw [takeInside, entities_of_plain hm] at h
          cases m with
          | false => cases h
          | true =>
              cases h
              exact .entity hframes hm

theorem take_eq_ok {p q : Progress} {piece : Piece} (hp : Going p) (h : take p piece = .ok q) :
    Takes p piece q ∨ (q.isOver = true ∧ ¬q.account.IsFaultless) := by
  rcases take_of_place hp.going piece with ⟨hframes, hroot, heq⟩ | ⟨-, -, heq⟩ | ⟨hframes, heq⟩
  · exact Or.inl (takeBefore_eq_ok hframes hroot (heq ▸ h))
  · exact takeAfter_eq_ok (heq ▸ h)
  · exact Or.inl (takeInside_eq_ok hp hframes (heq ▸ h))

theorem take_of_inside {p : Progress} (hp : Going p) (hframes : p.frames ≠ []) (piece : Piece) :
    take p piece = takeInside Doctype.maxNesting p piece := by
  rcases take_of_place hp.going piece with ⟨hnil, -⟩ | ⟨hnil, -⟩ | ⟨-, heq⟩
  · exact absurd hnil hframes
  · exact absurd hnil hframes
  · exact heq

/-- What `Takes` says is what taking does. -/
theorem Takes.take {p q : Progress} {piece : Piece} (hp : Going p) (h : Takes p piece q) :
    take p piece = .ok q := by
  cases h with
  | broken hplace hdraft =>
      rw [take_opening hp.going hplace, Progress.openElement, if_pos rfl]
      exact bind_eq_ok.2 ⟨_, hdraft, rfl⟩
  | opened hplace hdepth hr =>
      rw [take_opening hp.going hplace, Progress.openElement, if_neg (by decide),
        if_neg (Nat.not_le.2 hdepth)]
      exact bind_eq_ok.2 ⟨_, hr, rfl⟩
  | closed hplace hdepth hr =>
      rw [take_opening hp.going hplace, Progress.openElement, if_neg (by decide),
        if_neg (Nat.not_le.2 hdepth)]
      refine bind_eq_ok.2 ⟨_, hr, ?_⟩
      simp only [if_true, Progress.closeElement]
      rfl
  | closing hframes =>
      rw [take_of_inside hp (by rw [hframes]; exact List.cons_ne_nil _ _), takeInside,
        Progress.closeElement, hframes]
      simp only [if_true]
  -- What stands before, inside and after the root is taken alike in all three places.
  | @data d hplace =>
      rcases take_of_place hp.going (.data d) with ⟨hnil, -, heq⟩ | ⟨hnil, -, heq⟩ | ⟨-, heq⟩
      · rw [heq, takeBefore, if_pos (hplace.resolve_left (fun hne => hne hnil))]
      · rw [heq, takeAfter, if_pos (hplace.resolve_left (fun hne => hne hnil))]
      · rw [heq, takeInside]
  | comment =>
      rcases take_of_place hp.going .comment with ⟨-, -, heq⟩ | ⟨-, -, heq⟩ | ⟨-, heq⟩
      · exact heq
      · exact heq
      · rw [heq, takeInside]
  | instruction target =>
      rcases take_of_place hp.going (.instruction target) with ⟨-, -, heq⟩ | ⟨-, -, heq⟩ | ⟨-, heq⟩
      · exact heq
      · exact heq
      · rw [heq, takeInside]
  | verbatim hframes => rw [take_of_inside hp hframes, takeInside]
  | char hframes => rw [take_of_inside hp hframes, takeInside]
  | entity hframes hm =>
      rw [take_of_inside hp hframes, takeInside, entities_of_plain hm]
      rfl
  | @doctype d hframes hroot hnone =>
      rcases take_of_place hp.going (.doctype d) with ⟨-, -, heq⟩ | ⟨-, ⟨e, hsome⟩, -⟩ | ⟨hne, -⟩
      · rw [heq, takeBefore, hnone]
        rfl
      · rw [hroot] at hsome
        cases hsome
      · exact absurd hframes hne

/-! ## Elements that are finished -/

section Finished

variable (p : Progress) (e : Element) (frames : List Frame)

@[simp] theorem finish_account : (p.finish e frames).account = p.account := by
  cases frames <;> rfl

@[simp] theorem finish_doctype : (p.finish e frames).doctype = p.doctype := by
  cases frames <;> rfl

@[simp] theorem finish_ids : (p.finish e frames).ids = p.ids := by
  cases frames <;> rfl

@[simp] theorem finish_isTellable : (p.finish e frames).isTellable = p.isTellable := by
  cases frames <;> rfl

@[simp] theorem finish_isOver : (p.finish e frames).isOver = p.isOver := by
  cases frames <;> rfl

end Finished

/-- A piece that declares no namespace by a colour, and is no document type that declares
anything. -/
def IsPlainPiece : Piece → Prop
  | .opening _ ws _ _ => ∀ w ∈ ws, IsPlainWritten w
  | .doctype d => ∃ m, d = .plain m
  | _ => True

theorem Going.finish {p : Progress} (hp : Going p) (e : Element) {frames : List Frame}
    (hroot : frames ≠ [] → p.root = none) : Going (p.finish e frames) := by
  refine ⟨by rw [finish_isOver]; exact hp.going, by rw [finish_doctype]; exact hp.plain, ?_⟩
  cases frames with
  | nil => exact fun hne => absurd rfl hne
  | cons f outer => exact fun _ => hroot (List.cons_ne_nil f outer)

/-- A tag may open an element wherever a tag may stand. -/
theorem Going.tagged {p : Progress} (hp : Going p) (hplace : p.frames = [] → p.root = none)
    (raw : Text) (r : TagResult) : Going (tagged p raw r) := by
  refine ⟨hp.going, hp.plain, fun _ => ?_⟩
  by_cases hnil : p.frames = []
  · exact hplace hnil
  · exact hp.single hnil

theorem Takes.going {p q : Progress} {piece : Piece} (hp : Going p) (hpiece : IsPlainPiece piece)
    (h : Takes p piece q) : Going q := by
  cases h with
  | broken _ _ => exact ⟨hp.going, hp.plain, hp.single⟩
  | opened hplace _ _ => exact hp.tagged hplace _ _
  | closed hplace _ _ => exact (hp.tagged hplace _ _).finish _ hp.single
  | closing hframes =>
      refine hp.finish _ fun _ => hp.single ?_
      rw [hframes]
      exact List.cons_ne_nil _ _
  | data _ => exact hp
  | comment => exact hp
  | instruction target => exact ⟨hp.going, hp.plain, hp.single⟩
  | verbatim _ => exact hp
  | char _ => exact hp
  | entity _ _ => exact ⟨hp.going, hp.plain, hp.single⟩
  | doctype hframes _ _ => exact ⟨hp.going, hpiece, fun hne => absurd hframes hne⟩

/-! ## Shadows -/

/-- Open elements of one name in one scope, whatever is in them. -/
structure FrameAlike (f f' : Frame) : Prop where
  raw : f'.raw = f.raw
  name : f'.tag.name = f.tag.name
  scope : f'.tag.scope = f.tag.scope

/-- The second reading has the elements open that the first has, save the innermost `depth` of
those, and no more is used or complained about in it. -/
structure Shadows (depth : Nat) (p p' : Progress) : Prop where
  doctype : p'.doctype.isSome = p.doctype.isSome
  plain : ∃ m m', p.doctype.getD .none = .plain m ∧ p'.doctype.getD .none = .plain m' ∧
    (m = true → m' = true)
  frames : List.Forall₂ FrameAlike (p.frames.drop depth) p'.frames
  root : p'.root.map Element.name = p.root.map Element.name
  ids : p'.ids ⊆ p.ids
  tellable : p.isTellable = true → p'.isTellable = true
  going : Going p'
  faultless : p'.account.IsFaultless
  spent : p'.account.spent = 0

theorem forall₂_eq_nil_iff {fs fs' : List Frame} (h : List.Forall₂ FrameAlike fs fs') :
    fs' = [] ↔ fs = [] := by
  cases h with
  | nil => exact Iff.rfl
  | cons _ _ => simp

namespace Shadows

variable {p p' : Progress} {depth : Nat}

theorem frames_eq_nil (h : Shadows 0 p p') : p'.frames = [] ↔ p.frames = [] :=
  forall₂_eq_nil_iff h.frames

theorem root_eq_none (h : Shadows depth p p') : p'.root = none ↔ p.root = none := by
  rw [← Option.map_eq_none_iff (f := Element.name), h.root, Option.map_eq_none_iff]

theorem scope (h : Shadows 0 p p') : p'.scope = p.scope := by
  have hframes : List.Forall₂ FrameAlike p.frames p'.frames := h.frames
  rw [Progress.scope, Progress.scope]
  cases hfs : p.frames with
  | nil => rw [h.frames_eq_nil.2 hfs]
  | cons f outer =>
      rw [hfs] at hframes
      obtain ⟨f', outer', hf, -, heq⟩ := List.forall₂_cons_left_iff.1 hframes
      rw [heq]
      exact hf.scope

theorem length (h : Shadows 0 p p') : p'.frames.length = p.frames.length :=
  (List.Forall₂.length_eq (R := FrameAlike) h.frames).symm

theorem frames_ne_nil (h : Shadows 0 p p') (hinside : p.frames ≠ []) : p'.frames ≠ [] :=
  fun hnil => hinside (h.frames_eq_nil.1 hnil)

/-- Whatever the first reading has used and complained about, a shadow is one as long as it has
done neither. -/
theorem withAccount (h : Shadows depth p p') (account : Account) {account' : Account}
    (hfaultless : account'.IsFaultless) (hspent : account'.spent = 0) :
    Shadows depth { p with account := account } { p' with account := account' } :=
  ⟨h.doctype, h.plain, h.frames, h.root, h.ids, h.tellable,
    ⟨h.going.going, h.going.plain, h.going.single⟩, hfaultless, hspent⟩

/-- Warnings do not matter. -/
theorem complainAll (h : Shadows depth p p') {cs : List Complaint}
    (hcs : ∀ c ∈ cs, c.severity ≠ .error) :
    Shadows depth (p.complainAll cs) (p'.complainAll cs) :=
  h.withAccount _ (Account.isFaultless_complainAll.2 ⟨h.faultless, hcs⟩) h.spent

theorem finish (h : Shadows depth p p') {e e' : Element} {frames frames' : List Frame}
    (hframes : List.Forall₂ FrameAlike frames frames') (hname : e'.name = e.name)
    (hgoing : Going (p'.finish e' frames')) :
    Shadows 0 (p.finish e frames) (p'.finish e' frames') := by
  refine ⟨?_, ?_, ?_, ?_, ?_, ?_, hgoing, ?_, ?_⟩
  · rw [finish_doctype, finish_doctype]
    exact h.doctype
  · rw [finish_doctype, finish_doctype]
    exact h.plain
  · -- What is finished goes to the frame around it, or becomes the root.
    cases hframes with
    | nil => exact .nil
    | cons hf houter => exact .cons ⟨hf.raw, hf.name, hf.scope⟩ houter
  · cases hframes with
    | nil => exact congrArg some hname
    | cons hf houter => exact h.root
  · rw [finish_ids, finish_ids]
    exact h.ids
  · rw [finish_isTellable, finish_isTellable]
    exact h.tellable
  · rw [finish_account]
    exact h.faultless
  · rw [finish_account]
    exact h.spent

/-- Where a tag stands in the first reading, it stands in the second. -/
theorem place (h : Shadows 0 p p') (hplace : p.frames = [] → p.root = none) :
    p'.frames = [] → p'.root = none := fun hnil =>
  h.root_eq_none.2 (hplace (h.frames_eq_nil.1 hnil))

theorem tagged (h : Shadows 0 p p') (raw : Text) {r r' : TagResult}
    (hgoing : Going (tagged p' raw r')) (hname : r'.tag.name = r.tag.name)
    (hscope : r'.tag.scope = r.tag.scope) (htellable : r'.tag.isTellable = r.tag.isTellable)
    (hids : r'.ids ⊆ r.ids) (hfaultless : r'.account.IsFaultless)
    (hspent : r'.account.spent = 0) :
    Shadows 0 (tagged p raw r) (tagged p' raw r') := by
  refine ⟨h.doctype, h.plain, .cons ⟨rfl, hname, hscope⟩ h.frames, h.root, hids, ?_, hgoing,
    hfaultless, hspent⟩
  intro htells
  obtain ⟨hp, hr⟩ := Bool.and_eq_true_iff.1 htells
  exact Bool.and_eq_true_iff.2 ⟨h.tellable hp, htellable.trans hr⟩

/-- The attributes of a tag that breaks off are read in the shadow as well. -/
theorem exists_draft (h : Shadows 0 p p') {raw : Text} {ws ws' : List Written} {draft : Draft}
    (hws : List.Forall₂ WrittenAlike ws ws') (hplain : ∀ w ∈ ws, IsPlainWritten w)
    (hdraft : readAttributes (p.surroundings Doctype.maxNesting) p.account raw ws = .ok draft)
    (hfaultless : draft.account.IsFaultless) :
    ∃ draft', readAttributes (p'.surroundings Doctype.maxNesting) p'.account raw ws' =
        .ok draft' ∧
      Shadows 0 { p with account := draft.account } { p' with account := draft'.account } := by
  obtain ⟨m, m', hm, hdeclares, himp⟩ := h.plain
  have hm' : (p'.surroundings Doctype.maxNesting).doctype = .plain m' := hdeclares
  obtain ⟨draft', hdraft', halike⟩ :=
    (readAttributes_alike hm hm' himp hws hplain hdraft hfaultless).2 p'.account h.faultless
      h.spent
  exact ⟨draft', hdraft', h.withAccount draft.account halike.faultless halike.spent⟩

/-- A tag that is read without fault is read in the shadow, as an element of its name. -/
theorem exists_tag (h : Shadows 0 p p') {raw : Text} {ws ws' : List Written} {left : Nat}
    (left' : Nat) {r : TagResult} (hws : List.Forall₂ WrittenAlike ws ws')
    (hplain : ∀ w ∈ ws, IsPlainWritten w) (hplace : p.frames = [] → p.root = none)
    (hr : Tag.read (p.surroundings Doctype.maxNesting) p.scope p.ids p.account raw ws left = .ok r)
    (hfaultless : r.account.IsFaultless) :
    ∃ r', Tag.read (p'.surroundings Doctype.maxNesting) p'.scope p'.ids p'.account raw ws' left' =
        .ok r' ∧ r'.tag.name = r.tag.name ∧
          Shadows 0 (Document.tagged p raw r) (Document.tagged p' raw r') := by
  obtain ⟨m, m', hm, hdeclares, himp⟩ := h.plain
  have hm' : (p'.surroundings Doctype.maxNesting).doctype = .plain m' := hdeclares
  obtain ⟨-, -, hgo⟩ := Tag.read_alike hm hm' himp left' hws hplain hr hfaultless
  obtain ⟨r', hr', hname, hscope, htellable, hids, hfaultless', hspent⟩ :=
    hgo p'.ids p'.account h.ids h.faultless h.spent
  rw [← h.scope] at hr'
  exact ⟨r', hr', hname, h.tagged raw (h.going.tagged (h.place hplace) raw r') hname hscope
    htellable hids hfaultless' hspent⟩

/-- The innermost element of a reading is open in its shadow, inside the same others. -/
theorem exists_frame (h : Shadows 0 p p') {f : Frame} {outer : List Frame}
    (hframes : p.frames = f :: outer) :
    ∃ f' outer', p'.frames = f' :: outer' ∧ FrameAlike f f' ∧
      List.Forall₂ FrameAlike outer outer' := by
  have hall : List.Forall₂ FrameAlike p.frames p'.frames := h.frames
  rw [hframes] at hall
  obtain ⟨f', outer', hf, houter, hframes'⟩ := List.forall₂_cons_left_iff.1 hall
  exact ⟨f', outer', hframes', hf, houter⟩

/-- Where entities may be declared elsewhere, they may be in the shadow. -/
theorem mayBeOutside (h : Shadows depth p p') (hp : p.doctype.getD .none = .plain true) :
    p'.doctype.getD .none = .plain true := by
  obtain ⟨m, m', hm, hm', himp⟩ := h.plain
  have htrue : m = true := by
    rw [hm] at hp
    exact congrArg (fun d : Doctype => d.entities.mayBeOutside) hp
  rw [hm', himp htrue]

/-- A document type that declares nothing is taken in a shadow before the root. -/
theorem takeDoctype (h : Shadows 0 p p') {m m' : Bool} (himp : m = true → m' = true) :
    Shadows 0 (Document.takeDoctype p (.plain m)) (Document.takeDoctype p' (.plain m')) :=
  ⟨rfl, ⟨m, m', rfl, rfl, himp⟩, h.frames, h.root, h.ids, h.tellable,
    ⟨h.going.going, ⟨m', rfl⟩, h.going.single⟩, h.faultless, rfl⟩

end Shadows

theorem isPlainPiece_alike {piece piece' : Piece} (h : PieceAlike piece piece')
    (hplain : IsPlainPiece piece) : IsPlainPiece piece' := by
  cases h with
  | @opening raw ws ws' ending left left' hws =>
      have hall : ∀ w ∈ ws, IsPlainWritten w := hplain
      show ∀ w' ∈ ws', IsPlainWritten w'
      clear hplain
      induction hws with
      | nil => exact fun w' hw' => absurd hw' List.not_mem_nil
      | @cons w w' ws ws' hw _ ih =>
          refine List.forall_mem_cons.2 ⟨fun hdeclared => ?_, ih fun v hv =>
            hall v (List.mem_cons_of_mem w hv)⟩
          rw [hw.raw] at hdeclared
          have hcolourless := hall w List.mem_cons_self hdeclared
          rw [hw.value.same.resolve_right hcolourless]
          exact hcolourless
  | doctype hm => exact ⟨_, rfl⟩
  | _ => trivial

/-- What a piece does without fault, an alike one does in the shadow. -/
theorem Takes.shadows {p q : Progress} {piece piece' : Piece} (hp : Going p)
    (hpiece : PieceAlike piece piece') (hplain : IsPlainPiece piece) (h : Takes p piece q)
    (hq : q.account.IsFaultless) :
    p.account.IsFaultless ∧
      ∀ p', Shadows 0 p p' → ∃ q', Takes p' piece' q' ∧ Shadows 0 q q' := by
  have hplain' := isPlainPiece_alike hpiece hplain
  obtain ⟨m₀, hplain₀⟩ := hp.plain
  have hm₀ : (p.surroundings Doctype.maxNesting).doctype = .plain m₀ := hplain₀
  cases h with
  -- The accounts of the readings part here: that the first has no fault says nothing of what the
  -- second has used, so a tag is read again in the surroundings of the shadow.
  | broken hplace hdraft =>
      cases hpiece with
      | opening _ _ _ _ hws =>
          refine ⟨(readAttributes_alike hm₀ hm₀ id hws hplain hdraft hq).1, fun p' hshadow => ?_⟩
          obtain ⟨draft', hdraft', hafter⟩ := hshadow.exists_draft hws hplain hdraft hq
          exact ⟨_, .broken (hshadow.place hplace) hdraft', hafter⟩
  | @opened raw ws left r hplace hdepth hr =>
      cases hpiece with
      | opening _ _ _ left' hws =>
          obtain ⟨haccount, -, -⟩ := Tag.read_alike hm₀ hm₀ id left' hws hplain hr hq
          refine ⟨haccount, fun p' hshadow => ?_⟩
          obtain ⟨r', hr', -, htagged⟩ := hshadow.exists_tag left' hws hplain hplace hr hq
          have hdepth' : p'.frames.length < Progress.maxDepth := hshadow.length ▸ hdepth
          exact ⟨_, .opened (hshadow.place hplace) hdepth' hr', htagged⟩
  | @closed raw ws left r hplace hdepth hr =>
      rw [finish_account] at hq
      cases hpiece with
      | opening _ _ _ left' hws =>
          obtain ⟨haccount, -, -⟩ := Tag.read_alike hm₀ hm₀ id left' hws hplain hr hq
          refine ⟨haccount, fun p' hshadow => ?_⟩
          obtain ⟨r', hr', hname, htagged⟩ := hshadow.exists_tag left' hws hplain hplace hr hq
          have hdepth' : p'.frames.length < Progress.maxDepth := hshadow.length ▸ hdepth
          have htakes := Takes.closed (hshadow.place hplace) hdepth' hr'
          exact ⟨_, htakes, htagged.finish hshadow.frames hname
            (htakes.going hshadow.going hplain')⟩
  | closing hframes =>
      rw [finish_account] at hq
      cases hpiece with
      | closing =>
          refine ⟨hq, fun p' hshadow => ?_⟩
          obtain ⟨f', outer', hframes', hf, houter⟩ := hshadow.exists_frame hframes
          have htakes := Takes.closing hframes'
          rw [hf.raw] at htakes
          exact ⟨_, htakes, hshadow.finish houter hf.name (htakes.going hshadow.going hplain')⟩
  | data hplace =>
      cases hpiece with
      | data hgap =>
          refine ⟨hq, fun p' hshadow => ⟨p', .data ?_, hshadow⟩⟩
          rw [hgap]
          exact hplace.imp_left hshadow.frames_ne_nil
  | comment =>
      cases hpiece with
      | comment => exact ⟨hq, fun p' hshadow => ⟨p', .comment, hshadow⟩⟩
  | instruction target =>
      cases hpiece with
      | instruction =>
          obtain ⟨haccount, hwarnings⟩ := Account.isFaultless_complainAll.1 hq
          exact ⟨haccount, fun p' hshadow =>
            ⟨_, .instruction target, hshadow.complainAll hwarnings⟩⟩
  | verbatim hframes =>
      cases hpiece with
      | verbatim =>
          exact ⟨hq, fun p' hshadow => ⟨p', .verbatim (hshadow.frames_ne_nil hframes), hshadow⟩⟩
  | char hframes =>
      cases hpiece with
      | reference =>
          exact ⟨hq, fun p' hshadow => ⟨p', .char (hshadow.frames_ne_nil hframes), hshadow⟩⟩
  | entity hframes hentity =>
      cases hpiece with
      | reference =>
          obtain ⟨haccount, hwarnings⟩ := Account.isFaultless_complainAll.1 hq
          exact ⟨haccount, fun p' hshadow =>
            ⟨_, .entity (hshadow.frames_ne_nil hframes) (hshadow.mayBeOutside hentity),
              hshadow.complainAll hwarnings⟩⟩
  | doctype hframes hroot hnone =>
      cases hpiece with
      | doctype himp =>
          refine ⟨hq, fun p' hshadow => ⟨_, .doctype (hshadow.frames_eq_nil.2 hframes)
            (hshadow.root_eq_none.2 hroot) ?_, hshadow.takeDoctype himp⟩⟩
          rw [← Option.not_isSome_iff_eq_none, hshadow.doctype, hnone]
          exact Bool.false_ne_true

/-! ## Elements that close again -/

/-- How many of some elements are open after a piece. Nothing is given if it closes another. -/
def depthAfter : Nat → Piece → Option Nat
  | depth, .opening _ _ .opened _ => some (depth + 1)
  | 0, .closing _ => none
  | depth + 1, .closing _ => some depth
  | depth, _ => some depth

theorem finish_of_ne_nil (p : Progress) (e : Element) {frames : List Frame} (h : frames ≠ []) :
    (p.finish e frames).root = p.root ∧ ∀ depth fs',
      List.Forall₂ FrameAlike (frames.drop depth) fs' →
        List.Forall₂ FrameAlike ((p.finish e frames).frames.drop depth) fs' := by
  obtain ⟨f, outer, rfl⟩ := List.exists_cons_of_ne_nil h
  refine ⟨rfl, fun depth fs' hframes => ?_⟩
  cases depth with
  | zero =>
      obtain ⟨f', outer', hf, houter, rfl⟩ := List.forall₂_cons_left_iff.1 hframes
      exact .cons ⟨hf.raw, hf.name, hf.scope⟩ houter
  | succ depth => exact hframes

/-- An element that is finished inside another leaves no trace in the shadow. -/
theorem Shadows.finish_inside {p p' : Progress} {depth : Nat} {frames : List Frame}
    (h : Shadows depth { p with frames := frames } p') (hinside : p'.frames ≠ []) (e : Element) :
    Shadows depth (p.finish e frames) p' := by
  -- Frames that are hidden lie outside those of the shadow, so some are left.
  have hne : frames ≠ [] := by
    rintro rfl
    have hframes : List.Forall₂ FrameAlike ([].drop depth) p'.frames := h.frames
    rw [List.drop_nil] at hframes
    exact hinside ((forall₂_eq_nil_iff hframes).2 rfl)
  obtain ⟨hroot, hframes⟩ := finish_of_ne_nil p e hne
  refine ⟨?_, ?_, hframes depth _ h.frames, ?_, ?_, ?_, h.going, h.faultless, h.spent⟩
  · rw [finish_doctype]
    exact h.doctype
  · rw [finish_doctype]
    exact h.plain
  · rw [hroot]
    exact h.root
  · rw [finish_ids]
    exact h.ids
  · rw [finish_isTellable]
    exact h.tellable

/-- The tag of an element inside leaves no trace but that the element is open. -/
theorem Shadows.tagged_inside {p p' : Progress} {depth left : Nat} {raw : Text}
    {ws : List Written} {r : TagResult} (hp : Going p) (h : Shadows depth p p')
    (hplain : ∀ w ∈ ws, IsPlainWritten w)
    (hr : Tag.read (p.surroundings Doctype.maxNesting) p.scope p.ids p.account raw ws left = .ok r)
    (hfaultless : r.account.IsFaultless) :
    Shadows depth { Document.tagged p raw r with frames := p.frames } p' := by
  obtain ⟨m, hplain₀⟩ := hp.plain
  have hm : (p.surroundings Doctype.maxNesting).doctype = .plain m := hplain₀
  have hsame : List.Forall₂ WrittenAlike ws ws :=
    List.forall₂_same.2 fun w _ => ⟨rfl, .refl w.value⟩
  obtain ⟨-, hids, -⟩ := Tag.read_alike hm hm id left hsame hplain hr hfaultless
  exact ⟨h.doctype, h.plain, h.frames, h.root, List.Subset.trans h.ids hids,
    fun htells => h.tellable (Bool.and_eq_true_iff.1 htells).1, h.going, h.faultless, h.spent⟩

/-- A piece inside an element that the shadow has open leaves no trace in the shadow, as long as
it closes nothing that is open there. -/
theorem Takes.hides {p q p' : Progress} {piece : Piece} {depth after : Nat} (hp : Going p)
    (hplain : IsPlainPiece piece) (h : Takes p piece q) (hq : q.account.IsFaultless)
    (hdepth : depthAfter depth piece = some after) (hshadow : Shadows depth p p')
    (hinside : p'.frames ≠ []) : Shadows after q p' := by
  have hcomplained : ∀ account : Account, Shadows depth { p with account := account } p' :=
    fun account => hshadow.withAccount account hshadow.faultless hshadow.spent
  cases h with
  | broken _ _ =>
      cases hdepth
      exact hcomplained _
  | @opened raw ws left r hplace _ hr =>
      cases hdepth
      have htagged := hshadow.tagged_inside hp hplain hr hq
      exact ⟨htagged.doctype, htagged.plain, htagged.frames, htagged.root, htagged.ids,
        htagged.tellable, htagged.going, htagged.faultless, htagged.spent⟩
  | closed hplace _ hr =>
      cases hdepth
      rw [finish_account] at hq
      exact (hshadow.tagged_inside hp hplain hr hq).finish_inside hinside _
  | @closing f outer hframes =>
      cases depth with
      | zero => cases hdepth
      | succ depth =>
          cases hdepth
          have hall := hshadow.frames
          rw [hframes] at hall
          have houter : Shadows after { p with frames := outer } p' :=
            ⟨hshadow.doctype, hshadow.plain, hall, hshadow.root, hshadow.ids, hshadow.tellable,
              hshadow.going, hshadow.faultless, hshadow.spent⟩
          exact houter.finish_inside hinside _
  | data _ =>
      cases hdepth
      exact hshadow
  | comment =>
      cases hdepth
      exact hshadow
  | instruction target =>
      cases hdepth
      exact hcomplained _
  | verbatim _ =>
      cases hdepth
      exact hshadow
  | char _ =>
      cases hdepth
      exact hshadow
  | entity _ _ =>
      cases hdepth
      exact hcomplained _
  | doctype hframes _ _ =>
      have hall := hshadow.frames
      rw [hframes, List.drop_nil] at hall
      exact absurd ((forall₂_eq_nil_iff hall).2 rfl) hinside

end Iconsmith.Markup.Document
