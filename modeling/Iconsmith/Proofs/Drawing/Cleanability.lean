import Iconsmith.Drawing.Read
import Iconsmith.Proofs.Drawing.WrittenMarks
import Iconsmith.Proofs.Markup.Openings
import Iconsmith.Proofs.Markup.Trimming

set_option autoImplicit false

/-!
# Drawings that stay readable

The cleanings know nothing of markup and may break a drawing that could be read
(`not_read_clean`). They do not when what they take away is made of whole parts of the drawing
(`IsCleanable`): a drawing that is read without fault is then still read after all cleanings
(`exists_read_clean`). Each cleaning leaves a text whose run shadows the run of the text
before, and the runs of alike texts shadow one another.
-/

namespace Iconsmith.Drawing

open Markup Markup.Document

/-! ## Colours -/

theorem zeroColourSpan_eq_some {t : Text} {n : Nat} (h : zeroColourSpan t = some n) :
    ∃ zeros v, (∀ c ∈ zeros, c = '0') ∧ t = zeroColour zeros ++ v ∧
      n = zeros.length + 4 := by
  obtain ⟨zeros, v, hzeros, rfl, rfl⟩ := exists_of_zeroColourSpan h
  exact ⟨zeros, v, hzeros, by simp [zeroColour], rfl⟩

theorem withCurrentColour_cons {c : Char} {t : Text} (h : zeroColourSpan (c :: t) = none) :
    withCurrentColour (c :: t) = c :: withCurrentColour t :=
  Text.replaceSpans_cons_of_none h

/-- A colour of zeros becomes the current colour, and what follows its closing quote is
recoloured on its own. -/
theorem withCurrentColour_colour {zeros v : Text}
    (h : zeroColourSpan (zeroColour zeros ++ v) = some (zeros.length + 4)) :
    withCurrentColour (zeroColour zeros ++ v) = currentColour ++ withCurrentColour v := by
  rw [zeroColour] at h ⊢
  rw [withCurrentColour, Text.replaceSpans_append_of_some (by rw [h]; simp)]
  rfl

/-- Cleaning the colours of a text makes an alike text of it. -/
theorem alike_withCurrentColour (t : Text) : Alike [] [] t (withCurrentColour t) := by
  -- On the length, as a colour is replaced as a whole.
  induction hn : t.length using Nat.strong_induction_on generalizing t with
  | _ n ih =>
      cases t with
      | nil => exact .rest
      | cons c t =>
          rw [List.length_cons] at hn
          cases hspan : zeroColourSpan (c :: t) with
          | none =>
              rw [withCurrentColour_cons hspan]
              exact .char c (ih t.length (by omega) t rfl)
          | some length =>
              obtain ⟨zeros, v, hzeros, heq, rfl⟩ := zeroColourSpan_eq_some hspan
              have hlength := congrArg List.length heq
              simp only [zeroColour, List.length_cons, List.length_append] at hlength
              rw [heq] at hspan ⊢
              rw [withCurrentColour_colour hspan]
              exact .colour hzeros (ih v.length (by omega) v rfl)

/-! ## Background -/

theorem afterLength?_suffix {t u : Text} (h : afterLength? t = some u) : u <:+ t := by
  unfold afterLength? at h
  split at h
  · rename_i c rest hlead
    have hrest : rest <:+ t :=
      (List.suffix_cons c rest).trans ⟨_, List.isPrefixOf?_eq_some_iff_append_eq.1 hlead⟩
    split at h
    · rename_i after _ hdrop
      cases h
      have hafter := List.dropWhile_suffix isLengthChar (l := rest)
      rw [hdrop] at hafter
      exact (List.suffix_cons '"' u).trans (hafter.trans hrest)
    · cases h
  · cases h

theorem afterEmptyTag?_suffix {t u : Text} (h : afterEmptyTag? t = some u) : u <:+ t := by
  induction t with
  | nil => cases h
  | cons c t ih =>
      unfold afterEmptyTag? at h
      split at h
      · rename_i heq
        cases heq
      · rename_i rest heq
        cases h
        rw [heq]
        exact (List.suffix_cons '>' u).trans (List.suffix_cons '/' _)
      · rename_i heq
        cases heq
        split at h
        · cases h
        · exact (ih h).trans (List.suffix_cons _ _)

/-- A background begins with the tag of a rectangle. -/
theorem afterBackground?_eq_some {u after : Text} (h : afterBackground? u = some after) :
    ∃ body, u = '<' :: 'r' :: 'e' :: 'c' :: 't' :: ' ' :: (body ++ after) := by
  unfold afterBackground? at h
  obtain ⟨t₁, h₁, h⟩ := Option.bind_eq_some_iff.1 h
  obtain ⟨t₂, h₂, h⟩ := Option.bind_eq_some_iff.1 h
  obtain ⟨t₃, h₃, h⟩ := Option.bind_eq_some_iff.1 h
  obtain ⟨t₄, h₄, h⟩ := Option.bind_eq_some_iff.1 h
  obtain ⟨t₅, h₅, h⟩ := Option.bind_eq_some_iff.1 h
  have hfill : t₅ <:+ t₄ := ⟨_, (Text.isPrefixOf?_eq_some.1 h₅).symm⟩
  have hheight : t₃ <:+ t₂ := ⟨_, (Text.isPrefixOf?_eq_some.1 h₃).symm⟩
  obtain ⟨body, rfl⟩ : after <:+ t₁ := (afterEmptyTag?_suffix h).trans
    (hfill.trans ((afterLength?_suffix h₄).trans (hheight.trans (afterLength?_suffix h₂))))
  exact ⟨"width=\"".toList ++ body, by rw [Text.isPrefixOf?_eq_some.1 h₁, List.append_assoc]; rfl⟩

theorem replaceSpans_background {u after : Text} (h : afterBackground? u = some after) :
    Text.replaceSpans backgroundSpan [] 0 u = Text.replaceSpans backgroundSpan [] 0 after := by
  obtain ⟨body, rfl⟩ := afterBackground?_eq_some h
  have hspan : backgroundSpan ('<' :: ("rect ".toList ++ body) ++ after) =
      some (("rect ".toList ++ body).length + 1) := by
    have hsame : '<' :: ("rect ".toList ++ body) ++ after =
        '<' :: 'r' :: 'e' :: 'c' :: 't' :: ' ' :: (body ++ after) := rfl
    rw [hsame, backgroundSpan, h, Option.map_some]
    simp only [String.reduceToList, List.length_cons, List.length_append, List.length_nil,
      Option.some.injEq]
    omega
  exact Text.replaceSpans_append_of_some hspan

/-! ## What is trimmed -/

/-- What a cleaning takes away from a text are parts of one kind, and what holds other matches is
still the same piece without them. -/
structure IsTrimmable (span : Text → Option Nat) (IsPart : Text → Text → Prop) (whole : Text) :
    Prop where
  parts : ∀ before u, whole = before ++ u → Begins false whole u → (span u).isSome → IsPart before u
  kept : ∀ u v piece, Begins false whole u → span u = none → ReadsPiece false u piece v →
    IsKept false span u piece v

/-- A background that covers whole elements, and is not preceded by a bracket with which a mark
may arise. -/
def IsBackgroundPart (before u : Text) : Prop :=
  before.getLast? ≠ some ']' ∧ ∀ after, afterBackground? u = some after → Closes false 0 u after

/-- A title that is an empty tag, and whose rest is character data. -/
def IsTitlePart (_ u : Text) : Prop :=
  ∃ raw ws left x v, Piece.read false u = ([.opening raw ws .closed left], some v) ∧
    u = "<title".toList ++ (x ++ v) ∧ IsData x ∧ (QName.ofRaw raw).base ≠ rootName

section Stages

variable {whole before d u : Text} {p p' r : Progress}

/-- A background goes, and the run goes on behind it. -/
theorem goesOn_background (hpart : IsBackgroundPart before u) (hsplit : whole = before ++ u)
    (hbegins : Begins false whole u) (hspan : (backgroundSpan u).isSome)
    (h : Runs false p u r []) (hp : Going p) (hr : r.account.IsFaultless)
    (hroot : Document.rootName? r = some rootName) (hshadow : Shadows 0 p p')
    (hheld : Held p' before d u) :
    ∃ before' d' v q q', GoesOn false false (Text.replaceSpans backgroundSpan [] 0) whole before d
      u p' r before' d' v q q' := by
  rw [backgroundSpan, Option.isSome_map] at hspan
  obtain ⟨after, hafter⟩ := Option.isSome_iff_exists.1 hspan
  have hcloses := hpart.2 after hafter
  have htrimmed := replaceSpans_background hafter
  obtain ⟨body, rfl⟩ := afterBackground?_eq_some hafter
  have hinside : p.frames ≠ [] := by
    generalize hend : ([] : Text) = w at h
    cases h with
    | step hpiece hplain htakes hrest =>
        obtain ⟨raw, afterName, ws, ending, left, rfl, hname, hattributes⟩ :=
          hpiece.exists_opening (by decide)
        have hrect : readName ("rect".toList ++ ' ' :: (body ++ after)) =
            .ok ("rect".toList, ' ' :: (body ++ after)) :=
          readName_append (by decide) (by decide) (by decide)
        cases hrect.symm.trans hname
        exact frames_ne_nil_of_opening hp htakes hplain hattributes.ending_ne hrest hroot
          (by decide) (by decide)
    | refl => cases hend
  have hinside' : p'.frames ≠ [] := fun hnil => hinside (hshadow.frames_eq_nil.1 hnil)
  obtain ⟨q, hruns, hq, hshadow'⟩ := h.hides hcloses hp hr hshadow hinside'
  refine ⟨before ++ ("<rect ".toList ++ body), d, after, q, p', ?_, ?_,
    hbegins.trans hcloses.begins, hruns, hq, hshadow', hheld.goOn hinside' hpart.1 _ _, ?_⟩
  · rw [hsplit, List.append_assoc, List.append_assoc]
    rfl
  · simp only [List.length_cons, List.length_append]
    omega
  · rw [htrimmed]
    exact fun r' h => h

/-- What is left of an empty tag behind its first characters begins and ends like no mark of
verbatim text. -/
theorem title_tail {x v raw afterName : Text} {ws : List Written}
    (hname : readName ("title".toList ++ (x ++ v)) = .ok (raw, afterName))
    (hattributes : ReadsAttributes afterName ws .closed v) :
    (∀ c ∈ x.head?, c ≠ ']' ∧ c ≠ '>') ∧ x.getLast? = some '>' := by
  obtain ⟨-, -, hafter, -⟩ := readName_eq_ok.1 hname
  rw [List.dropWhile_append_of_pos (by decide)] at hafter
  refine ⟨fun c hc => ?_, ?_⟩
  · obtain ⟨x, rfl⟩ := List.head?_eq_some_iff.1 hc
    by_cases hchar : isNameChar c
    · exact ⟨fun h => absurd (h ▸ hchar) (by decide), fun h => absurd (h ▸ hchar) (by decide)⟩
    · rw [List.cons_append, List.dropWhile_cons_of_neg hchar] at hafter
      subst hafter
      rcases hattributes.head_of_closed with hgap | rfl
      · exact ⟨fun h => absurd (h ▸ hgap) (by decide), fun h => absurd (h ▸ hgap) (by decide)⟩
      · exact ⟨by decide, by decide⟩
  · have hsuffix : '>' :: v <:+ x ++ v :=
      hattributes.suffix.trans (hafter ▸ List.dropWhile_suffix isNameChar)
    obtain ⟨m, hm⟩ := hsuffix
    rw [List.append_cons] at hm
    rw [← List.append_cancel_right hm]
    exact List.getLast?_concat

theorem replaceSpans_title {x v : Text} (hx : IsData x) :
    Text.replaceSpans (Text.literalSpan "<title".toList) [] 0 ("<title".toList ++ (x ++ v)) =
      x ++ Text.replaceSpans (Text.literalSpan "<title".toList) [] 0 v := by
  have hmatch : Text.literalSpan "<title".toList ('<' :: "title".toList ++ (x ++ v)) =
      some ("title".toList.length + 1) := by
    rw [Text.literalSpan, if_pos]
    · rfl
    · exact List.isPrefixOf_iff_prefix.2 (List.prefix_append "<title".toList (x ++ v))
  have hcut : Text.replaceSpans (Text.literalSpan "<title".toList) [] 0
      ('<' :: "title".toList ++ (x ++ v)) =
        [] ++ Text.replaceSpans (Text.literalSpan "<title".toList) [] 0 (x ++ v) :=
    Text.replaceSpans_append_of_some hmatch
  refine hcut.trans ?_
  exact Text.replaceSpans_append_of_not_mem (fun _ t => literalSpan_title_of_ne t) v
    fun hopening => (hx.chars _ hopening).2.1 rfl

/-- The first characters of a title go, and the rest of it is data before what follows. -/
theorem goesOn_title (hpart : IsTitlePart before u) (hsplit : whole = before ++ u)
    (hbegins : Begins false whole u) (h : Runs false p u r []) (hp : Going p)
    (hr : r.account.IsFaultless) (hroot : Document.rootName? r = some rootName)
    (hshadow : Shadows 0 p p') (hheld : Held p' before d u) :
    ∃ before' d' v q q', GoesOn false false
      (Text.replaceSpans (Text.literalSpan "<title".toList) [] 0) whole before d u p' r
        before' d' v q q' := by
  obtain ⟨raw, ws, left, x, v, hread, rfl, hx, hbase⟩ := hpart
  generalize hend : ([] : Text) = w at h
  cases h with
  | refl => cases hend
  | @step _ q _ _ _ _ _ hpiece hplain htakes hrest =>
      subst hend
      cases (read_of_readsPiece hpiece).symm.trans hread
      have hq := htakes.going hp hplain
      obtain ⟨raw', afterName, ws', ending, left', heq, hname, hattributes⟩ :=
        hpiece.exists_opening (by decide)
      cases heq
      have hraw : raw ≠ rootName := by
        obtain ⟨-, hraw, -⟩ := readName_eq_ok.1 hname
        rw [List.takeWhile_cons_of_pos (by decide)] at hraw
        rintro rfl
        cases hraw
      have hinside := frames_ne_nil_of_opening hp htakes hplain hattributes.ending_ne hrest hroot
        hraw hbase
      have hinside' : p'.frames ≠ [] := fun hnil => hinside (hshadow.frames_eq_nil.1 hnil)
      obtain ⟨hhead, hlast⟩ := title_tail hname hattributes
      have hne : x ≠ [] := by
        rintro rfl
        cases hlast
      have hshadow' := htakes.hides hp hplain (hrest.faultless hq hr) rfl hshadow hinside'
      refine ⟨before ++ ("<title".toList ++ x), d ++ x, v, q, p', ?_, ?_, .next hbegins hread,
        hrest, hq, hshadow', ?_, ?_⟩
      · rw [hsplit, List.append_assoc, List.append_assoc]
      · simp only [List.length_append]
        have := List.length_pos_iff.2 hne
        omega
      · refine ⟨isData_append hheld.data hx fun _ => hhead, fun _ => .data (Or.inl hinside'),
          Or.inr (Or.inl ⟨hinside', ?_⟩)⟩
        rw [List.getLast?_append_of_ne_nil _ hne, hlast]
        decide
      · rw [replaceSpans_title hx, ← List.append_assoc]
        exact fun r' h => h

/-- What is trimmed off a text leaves a run that shadows the run before. -/
theorem IsTrimmable.exists_runs {span : Text → Option Nat} {IsPart : Text → Text → Prop}
    (htrim : IsTrimmable span IsPart whole)
    (hgo : ∀ {before d u p p'}, IsPart before u → whole = before ++ u → Begins false whole u →
      (span u).isSome → Runs false p u r [] → Going p → Shadows 0 p p' → Held p' before d u →
        ∃ before' d' v q q', GoesOn false false (Text.replaceSpans span [] 0) whole before d u p' r
          before' d' v q q')
    (h : Runs false p whole r []) (hr : r.account.IsFaultless) (hself : Shadows 0 p p) :
    ∃ r', Runs false p (Text.replaceSpans span [] 0 whole) r' [] ∧ Shadows 0 r r' :=
  h.trims id htrim.kept
    (fun hsplit hbegins hspan => hgo (htrim.parts _ _ hsplit hbegins hspan) hsplit hbegins hspan)
    hr rfl .here hself.going hself (Held.nil p [] whole)

end Stages

/-! ## All cleanings -/

/-- The text without a byte order mark. -/
def withoutMark : Text → Text
  | '\ufeff' :: t => t
  | t => t

/-- What the first cleaning leaves of a text behind a byte order mark. -/
def body (t : Text) : Text := withoutMark (withoutDeclaration t)

/-- The cleanings take away no more than whole parts of a text. The first takes nothing but
asides together with the declaration, and what it leaves is what was to be read before. In the
text neither a document type declares anything nor a colour names a namespace: what entities grow
to is measured against the length of the text so far, which every cleaning changes. -/
structure IsCleanable (t : Text) : Prop where
  opens : ∃ opened, openText t = some opened ∧ IsPlainText opened.alone opened.text ∧
    Passes opened.alone opened.text (body t)
  backgrounds : IsTrimmable backgroundSpan IsBackgroundPart (body t)
  titles : IsTrimmable (Text.literalSpan "<title".toList) IsTitlePart (withoutBackground (body t))

/-- The cleanings keep a byte order mark. -/
theorem clean_eq (t : Text) :
    clean t = withCurrentColour (withoutTitle (withoutBackground (body t))) ∨
      clean t = '\ufeff' :: withCurrentColour (withoutTitle (withoutBackground (body t))) := by
  rw [clean, body, withoutMark.eq_def]
  split
  · rename_i rest heq
    refine Or.inr ?_
    rw [heq, withoutBackground, Text.replaceSpans_cons_of_none (backgroundSpan_of_ne _ (by decide)),
      withoutTitle, Text.replaceAll,
      Text.replaceSpans_cons_of_none (literalSpan_title_of_ne _ (by decide)), withCurrentColour,
      Text.replaceSpans_cons_of_none (zeroColourSpan_of_ne _ (by decide))]
    rfl
  · exact Or.inl rfl

/-- The root of a reading that has ended. -/
theorem rootName?_of_ended {r : Progress} {root : Element} (h : Ended r root)
    (hname : root.name = rootName) : Document.rootName? r = some rootName := by
  rw [Document.rootName?, h.root, ← hname]
  rfl

/-- A drawing that is read without fault is read after all cleanings, when these take away no
more than whole parts of it. -/
theorem exists_read_clean {t : Text} {root : Element} (h : read t = .ok root)
    (hfaultless : Document.IsFaultless t) (hclean : IsCleanable t) :
    ∃ root', read (clean t) = .ok root' := by
  obtain ⟨hparse, hname⟩ := read_eq_ok.1 h
  obtain ⟨opened, hopened, hplain, hpasses⟩ := hclean.opens
  obtain ⟨r, hruns, hr⟩ := runs_of_parse hparse hfaultless hopened hplain
  obtain ⟨final, hfinal⟩ : ∃ final,
    final = withCurrentColour (withoutTitle (withoutBackground (body t))) := ⟨_, rfl⟩
  -- The declaration: all later readings begin as that of the cleaned text does.
  obtain ⟨q, hbody, hq, hshadow⟩ :=
    hruns.passes hpasses (going_start opened) (shadows_start opened final)
  have hself := hshadow.self
  obtain ⟨r₀, v₀, hruns₀, hr₀, hv₀⟩ :=
    hbody.shadows (fun halone : false = true => by cases halone) hq hr.faultless
      (Alike.refl (body t)) hshadow
  obtain rfl := hv₀.eq_rest
  obtain ⟨root₀, hname₀, hended₀⟩ := hr₀.ended hr
  have hroot₀ := rootName?_of_ended hended₀ (hname₀.trans hname)
  obtain ⟨r₁, hruns₁, hr₁⟩ := hclean.backgrounds.exists_runs
    (fun hpart hsplit hbegins hspan hrun hp hshadow hheld => goesOn_background hpart hsplit hbegins
      hspan hrun hp hended₀.faultless hroot₀ hshadow hheld) hruns₀ hended₀.faultless hself
  obtain ⟨root₁, hname₁, hended₁⟩ := hr₁.ended hended₀
  have hroot₁ := rootName?_of_ended hended₁ (hname₁.trans (hname₀.trans hname))
  obtain ⟨r₂, hruns₂, hr₂⟩ := hclean.titles.exists_runs
    (fun hpart hsplit hbegins _ hrun hp hshadow hheld => goesOn_title hpart hsplit hbegins hrun hp
      hended₁.faultless hroot₁ hshadow hheld) hruns₁ hended₁.faultless hself
  obtain ⟨root₂, hname₂, hended₂⟩ := hr₂.ended hended₁
  obtain ⟨r₃, v₃, hruns₃, hr₃, hv₃⟩ :=
    hruns₂.shadows id hself.going hended₂.faultless (alike_withCurrentColour _) hself
  obtain rfl := hv₃.eq_rest
  obtain ⟨root₃, hname₃, hended₃⟩ := hr₃.ended hended₂
  have hdrawn : root₃.name = rootName :=
    hname₃.trans (hname₂.trans (hname₁.trans (hname₀.trans hname)))
  have hcleaned := clean_eq t
  rw [← hfinal] at hcleaned
  have hruns : Runs false (.start (.bare final))
    (withCurrentColour (withoutTitle (withoutBackground (body t)))) r₃ [] := hruns₃
  rw [← hfinal] at hruns
  obtain ⟨hplainly, hbehind⟩ := parse_of_runs hruns hended₃
  rcases hcleaned with heq | heq
  · exact ⟨root₃, read_eq_ok.2 ⟨heq ▸ hplainly, hdrawn⟩⟩
  · exact ⟨root₃, read_eq_ok.2 ⟨heq ▸ hbehind, hdrawn⟩⟩

/-! ## A drawing that stays readable -/

/-- What follows the title of a drawing. -/
def afterTitle : Text := "</svg>".toList

/-- What follows the background of the drawing. -/
def afterRect : Text := "<title/>".toList ++ afterTitle

/-- What follows the tag of its root. -/
def afterRoot : Text :=
  "<rect width=\"256\" height=\"256\" fill=\"none\"/>".toList ++ afterRect

/-- The drawing without its declaration. -/
def undeclared : Text := "<svg fill=\"#000\">".toList ++ afterRoot

/-- The drawing without its background. -/
def unfilled : Text := "<svg fill=\"#000\">".toList ++ afterRect

/-- A drawing in which every cleaning finds something. -/
def untidy : Text := "<?xml version=\"1.0\"?>".toList ++ undeclared

section Untidy

/-- An attribute of the drawing. -/
def attributeOf (raw value : String) (left : Nat) : Written :=
  ⟨raw.toList, value.toList.map .char, left⟩

theorem read_undeclared : Piece.read false undeclared = ([.opening rootName
    [attributeOf "fill" "#000" (afterRoot.length + 1)] .opened (afterRoot.length + 1)],
      some afterRoot) := by rfl

theorem read_unfilled : Piece.read false unfilled = ([.opening rootName
    [attributeOf "fill" "#000" (afterRect.length + 1)] .opened (afterRect.length + 1)],
      some afterRect) := by rfl

theorem read_afterRoot : Piece.read false afterRoot = ([.opening "rect".toList
    [attributeOf "width" "256" (afterRect.length + 27),
      attributeOf "height" "256" (afterRect.length + 14),
      attributeOf "fill" "none" (afterRect.length + 2)] .closed (afterRect.length + 2)],
        some afterRect) := by rfl

theorem read_afterRect : Piece.read false afterRect =
    ([.opening "title".toList [] .closed (afterTitle.length + 2)], some afterTitle) := by rfl

theorem read_afterTitle : Piece.read false afterTitle = ([.closing rootName], some []) := by rfl

theorem begins_afterRect {u : Text} (h : Begins false afterRect u) :
    u = afterRect ∨ u = afterTitle ∨ u = [] := by
  rcases h.cases_head read_afterRect with rfl | h
  · exact Or.inl rfl
  · rcases h.cases_head read_afterTitle with rfl | h
    · exact Or.inr (Or.inl rfl)
    · exact Or.inr (Or.inr h.eq_nil)

theorem begins_undeclared {u : Text} (h : Begins false undeclared u) :
    u = undeclared ∨ u = afterRoot ∨ Begins false afterRect u := by
  rcases h.cases_head read_undeclared with rfl | h
  · exact Or.inl rfl
  · exact Or.inr (h.cases_head read_afterRoot)

/-- Nothing is declared in the drawing. -/
theorem isPlainText_undeclared : IsPlainText false undeclared := by
  refine ⟨fun u hu => ?_, fun u v raw ws ending left hu hread w hw hdeclared => ?_⟩
  · rintro ⟨body, isOutside, rest, rfl, -⟩
    rcases begins_undeclared hu with heq | heq | hu
    · cases heq
    · cases heq
    · rcases begins_afterRect hu with heq | heq | heq
      · cases heq
      · cases heq
      · cases heq
  · rcases begins_undeclared hu with rfl | rfl | hu
    · cases read_undeclared.symm.trans hread
      obtain rfl := List.mem_singleton.1 hw
      exact absurd hdeclared (by decide)
    · cases read_afterRoot.symm.trans hread
      simp only [List.mem_cons, List.not_mem_nil, or_false] at hw
      rcases hw with rfl | rfl | rfl
      · exact absurd hdeclared (by decide)
      · exact absurd hdeclared (by decide)
      · exact absurd hdeclared (by decide)
    · rcases begins_afterRect hu with rfl | rfl | rfl
      · cases read_afterRect.symm.trans hread
        exact absurd hw List.not_mem_nil
      · cases read_afterTitle.symm.trans hread
      · cases hread

/-- A piece in which nothing matches is kept. -/
theorem isKept_of_tails {span : Text → Option Nat} {u v : Text} {piece : Piece}
    (h : ∀ s ∈ u.tails, v.length < s.length → span s = none) : IsKept false span u piece v :=
  Or.inl fun s hs => h s ((List.mem_tails s u).2 hs)

theorem isTrimmable_undeclared : IsTrimmable backgroundSpan IsBackgroundPart undeclared := by
  refine ⟨fun before u hsplit hu hspan => ?_, fun u v piece hu hspan hread => ?_⟩
  · -- The only match begins behind the root's tag; the other pieces hold none.
    rcases begins_undeclared hu with rfl | rfl | hu
    · exact absurd hspan (by decide)
    · obtain rfl : before = "<svg fill=\"#000\">".toList :=
        List.append_cancel_right (hsplit.symm.trans rfl)
      refine ⟨by decide, fun after hafter => ?_⟩
      have hrect : afterBackground? afterRoot = some afterRect := by rfl
      obtain rfl := Option.some.inj (hrect.symm.trans hafter)
      exact .next read_afterRoot rfl (.done _)
    · rcases begins_afterRect hu with rfl | rfl | rfl
      · exact absurd hspan (by decide)
      · exact absurd hspan (by decide)
      · exact absurd hspan (by decide)
  · have hpiece := read_of_readsPiece hread
    rcases begins_undeclared hu with rfl | rfl | hu
    · cases read_undeclared.symm.trans hpiece
      exact isKept_of_tails (by decide)
    · exact absurd hspan (by decide)
    · rcases begins_afterRect hu with rfl | rfl | rfl
      · cases read_afterRect.symm.trans hpiece
        exact isKept_of_tails (by decide)
      · cases read_afterTitle.symm.trans hpiece
        exact isKept_of_tails (by decide)
      · cases hpiece
        exact isKept_of_tails (by decide)

theorem isTrimmable_unfilled :
    IsTrimmable (Text.literalSpan "<title".toList) IsTitlePart unfilled := by
  -- Behind the root, the pieces are those after the background of the text above.
  have hbegins : ∀ {u}, Begins false unfilled u → u = unfilled ∨ Begins false afterRect u :=
    fun h => h.cases_head read_unfilled
  refine ⟨fun before u hsplit hu hspan => ?_, fun u v piece hu hspan hread => ?_⟩
  · rcases hbegins hu with rfl | hu
    · exact absurd hspan (by decide)
    · rcases begins_afterRect hu with rfl | rfl | rfl
      · exact ⟨_, _, _, "/>".toList, afterTitle, read_afterRect, rfl, ⟨by decide, by decide⟩,
          by decide⟩
      · exact absurd hspan (by decide)
      · exact absurd hspan (by decide)
  · have hpiece := read_of_readsPiece hread
    rcases hbegins hu with rfl | hu
    · cases read_unfilled.symm.trans hpiece
      exact isKept_of_tails (by decide)
    · rcases begins_afterRect hu with rfl | rfl | rfl
      · exact absurd hspan (by decide)
      · cases read_afterTitle.symm.trans hpiece
        exact isKept_of_tails (by decide)
      · cases hpiece
        exact isKept_of_tails (by decide)

theorem isCleanable_untidy : IsCleanable untidy := by
  refine ⟨⟨⟨untidy, false, undeclared, [], false⟩, by rfl, isPlainText_undeclared, ?_⟩, ?_, ?_⟩
  · exact .done undeclared
  · exact isTrimmable_undeclared
  · exact isTrimmable_unfilled

theorem isFaultless_untidy : Document.IsFaultless untidy := by
  intro opened p hopened htake
  have hopen : openText untidy = some ⟨untidy, false, undeclared, [], false⟩ := by rfl
  cases hopen.symm.trans hopened
  have hcount : (takeAll ⟨untidy, false, undeclared, [], false⟩).toOption.map
      (fun p => p.account.complaints.hasError) = some false := by rfl
  rw [htake] at hcount
  exact Option.some.inj hcount

theorem exists_read_untidy : ∃ root, read untidy = .ok root := ⟨_, by rfl⟩

theorem exists_read_clean_untidy :
    (∃ root, read untidy = .ok root) ∧ ∃ root', read (clean untidy) = .ok root' := by
  obtain ⟨root, hroot⟩ := exists_read_untidy
  exact ⟨⟨root, hroot⟩, exists_read_clean hroot isFaultless_untidy isCleanable_untidy⟩

end Untidy

/-- Drawings that cannot be read after all cleanings: a title with something in it, one with the
end mark of verbatim text, a background with something in it, one behind a bracket, colours
that name namespaces, in tags and in a document type, an instruction on the first line, and an
encoding that is forgotten. -/
def fragile : List Text :=
  ["<svg><title>x</title></svg>".toList,
    "<svg><title id=\"]]>\"/></svg>".toList,
    "<svg><rect width=\"256\" height=\"256\" fill=\"none\"><path/></rect></svg>".toList,
    "<svg>]<rect width=\"256\" height=\"256\" fill=\"none\"/>]></svg>".toList,
    "<svg xmlns:a=\"#0\" xmlns:b=\"currentColor\" a:x=\"\" b:x=\"\"/>".toList,
    ("<!DOCTYPE svg [<!ATTLIST svg xmlns:a CDATA \"#0\" xmlns:b CDATA \"currentColor\">]>".toList ++
      "<svg a:x=\"\" b:x=\"\"/>".toList),
    "<svg><g/><?xml-x?></svg>".toList,
    "<?xml version=\"1.0\" encoding=\"ISO-8859-1\"?><svg><a÷/></svg>".toList]

theorem not_read_clean_fragile :
    ∀ t ∈ fragile, (read t).isOk = true ∧ (read (clean t)).isOk = false := by
  decide +kernel

theorem not_read_clean : ¬∀ t root, read t = .ok root → ∃ root', read (clean t) = .ok root' := by
  intro h
  obtain ⟨hread, hclean⟩ := not_read_clean_fragile _ List.mem_cons_self
  cases hroot : read "<svg><title>x</title></svg>".toList with
  | error fault =>
      rw [hroot] at hread
      cases hread
  | ok root =>
      obtain ⟨root', hroot'⟩ := h _ root hroot
      rw [hroot'] at hclean
      cases hclean

end Iconsmith.Drawing
