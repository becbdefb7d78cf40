import Iconsmith.Elm.Expression
import Iconsmith.Proofs.Catalog.Names
import Iconsmith.Proofs.Markup.Writing

set_option autoImplicit false

/-!
# Names of functions

The function for an attribute is named after it: hyphens go, and characters become capitals. No
blank and no quote comes in by that (`not_mem_attributeName`), so a name that is spelled without
them gives one that is, however its characters are capitalised.

On a name in kebab case this is the way in which icons get their functions (`humped_eq_camelName`),
and so the name is read back from the capitals. The mark behind a keyword is no letter, so a marked
keyword is the function of no other attribute. Hence names of small letters and single hyphens have
functions of their own, whose names hold no hyphen and are no keywords (`attributeName_eq_iff`).
-/

namespace Iconsmith.Elm

open Markup

/-! ## Names -/

variable {b : Char} {name : Text}

theorem not_mem_humped (hb : Text.IsBeforeLetters b) (h : b ∉ name) : b ∉ humped name := by
  fun_induction humped name with
  | case1 rest ih => simp_all
  | case2 c rest hc ih =>
      simp only [List.mem_cons, not_or] at h
      rw [List.mem_append, not_or]
      exact ⟨hb.not_mem_capital h.2.1, ih h.2.2⟩
  | case3 c rest hc ih =>
      simp only [List.mem_cons, not_or] at h ⊢
      exact ⟨h.1, ih h.2⟩
  | case4 => exact h

theorem not_mem_attributeName (hb : Text.IsBeforeLetters b) (h : b ∉ name) :
    b ∉ attributeName name := by
  have hhumped := not_mem_humped hb h
  rw [attributeName]
  split
  · rw [List.mem_append, not_or, List.mem_singleton]
    refine ⟨hhumped, ?_⟩
    rintro rfl
    exact absurd hb (by decide)
  · exact hhumped

/-- What is no character of names stands in none. -/
theorem not_mem_of_isName (hb : isNameChar b = false) (h : isName name) : b ∉ name := by
  intro hmem
  have hchar := isNameChar_of_isName h b hmem
  rw [hb] at hchar
  cases hchar

theorem space_not_mem_of_isName (h : isName name) : ' ' ∉ name :=
  not_mem_of_isName (by decide) h

theorem lineFeed_not_mem_of_isName (h : isName name) : '\n' ∉ name :=
  not_mem_of_isName (by decide) h

/-! ## Names that are told apart -/

/-- Whether a name is made of segments of small letters, one at least in each, with single hyphens
between them. -/
def IsHyphenated (name : Text) : Prop :=
  ∀ segment ∈ Text.fields '-' name, segment ≠ [] ∧ ∀ c ∈ segment, c.isLower

instance : DecidablePred IsHyphenated := fun name =>
  inferInstanceAs (Decidable
    (∀ segment ∈ Text.fields '-' name, segment ≠ [] ∧ ∀ c ∈ segment, c.isLower))

theorem beginsWith_isLower {segment : Text} (hne : segment ≠ [])
    (h : ∀ c ∈ segment, c.isLower) : Catalog.BeginsWith Char.isLower segment := by
  obtain ⟨c, rest, rfl⟩ := List.exists_cons_of_ne_nil hne
  exact Catalog.beginsWith_cons.2 (h c List.mem_cons_self)

theorem IsHyphenated.isSegmented (h : IsHyphenated name) : Catalog.IsSegmented name := by
  obtain ⟨first, more, hfields⟩ := List.exists_cons_of_ne_nil (Text.fields_ne_nil '-' name)
  obtain ⟨hne, hletters⟩ := h first (by simp [hfields])
  constructor
  · intro segment hsegment
    obtain ⟨hne, hletters⟩ := h segment hsegment
    exact ⟨hne, fun c hc => Or.inl (hletters c hc)⟩
  · rw [Text.eq_append_flatMap_of_fields hfields, Catalog.beginsWith_append hne]
    exact beginsWith_isLower hne hletters

/-- Names of letters and single hyphens are in kebab case. -/
theorem IsHyphenated.isKebab (h : IsHyphenated name) : Catalog.isKebab name := by
  have hkebab := h.isSegmented.isKebab_fused
  rwa [h.isSegmented.fused_eq_self fun segment hsegment =>
    beginsWith_isLower (h segment hsegment).1 (h segment hsegment).2] at hkebab

/-- Behind its first letter a name in kebab case is joined as the slug of an icon is. -/
theorem humped_eq_pascalFrom (h : Catalog.isKebabFrom false name) :
    humped name = Catalog.pascalFrom false name := by
  fun_induction humped name with
  | case1 rest ih => cases h
  | case2 c rest hfeed ih =>
      have hword : Catalog.isKebab (c :: rest) := h
      obtain ⟨hlower, hrest⟩ := Catalog.isKebab_cons.1 hword
      have hgap := (Catalog.isWordGap_eq_false (Or.inl hlower)).1
      rw [ih hrest, Catalog.pascalFrom, if_pos (by decide), Catalog.pascalFrom, hgap,
        if_neg Bool.false_ne_true, if_pos rfl]
  | case3 c rest hlast ih =>
      rw [Catalog.isKebabFrom, if_neg Bool.false_ne_true] at h
      split at h
      · -- A hyphen here would be the last character.
        rename_i hc
        cases rest with
        | nil => cases h
        | cons d rest => exact absurd rfl (hlast d rest hc)
      · rw [Bool.and_eq_true, Bool.or_eq_true] at h
        obtain ⟨hchar, hrest⟩ := h
        have hgap := (Catalog.isWordGap_eq_false hchar).1
        rw [ih hrest, Catalog.pascalFrom, hgap, if_neg Bool.false_ne_true,
          if_neg Bool.false_ne_true, List.singleton_append]
  | case4 => rfl

/-- The function for an attribute in kebab case is called as that for an icon would be. -/
theorem humped_eq_camelName (h : Catalog.isKebab name) :
    humped name = Catalog.camelName (Catalog.pascalName name) := by
  cases name with
  | nil => cases h
  | cons c rest =>
      obtain ⟨hlower, hrest⟩ := Catalog.isKebab_cons.1 h
      rw [Catalog.camelName_pascalName_cons h, humped, humped_eq_pascalFrom hrest]
      rintro d more rfl
      exact absurd hlower (by decide)

/-- The attribute that a function is named after. -/
def attributeOf (function : Text) : Text := Catalog.kebabName (function.filter fun c => c ≠ '_')

/-- Whether a keyword has been marked or not, the attribute is found again. -/
theorem attributeOf_attributeName (h : Catalog.isKebab name) :
    attributeOf (attributeName name) = name := by
  have hread : Catalog.kebabName (humped name) = name := by
    rw [humped_eq_camelName h, Catalog.kebabName_camelName h]
  have hletters : (humped name).filter (fun c => c ≠ '_') = humped name := by
    apply List.filter_eq_self.2
    intro c hc
    rw [humped_eq_camelName h] at hc
    have halphanum := Catalog.isAlphanum_of_mem_camelName h hc
    simp only [decide_eq_true_eq]
    rintro rfl
    exact absurd halphanum (by decide)
  rw [attributeName, attributeOf]
  split
  · have hmark : ['_'].filter (fun c => c ≠ '_') = [] := by decide
    rw [List.filter_append, hletters, hmark, List.append_nil, hread]
  · rw [hletters, hread]

theorem hyphen_not_mem_attributeName (h : Catalog.isKebab name) : '-' ∉ attributeName name := by
  have hhumped : '-' ∉ humped name := by
    intro hmem
    rw [humped_eq_camelName h] at hmem
    exact absurd (Catalog.isAlphanum_of_mem_camelName h hmem) (by decide)
  rw [attributeName]
  split
  · simp [hhumped]
  · exact hhumped

/-- No keyword ends in the mark, so a marked one is none. -/
theorem attributeName_not_mem_keywords (name : Text) : attributeName name ∉ keywords := by
  have hmark : ∀ word ∈ keywords, '_' ∉ word := by decide
  rw [attributeName]
  split
  · intro hmem
    exact hmark _ hmem (by simp)
  · rename_i hother
    simpa using hother

/-- Attributes whose names are made of segments of small letters with single hyphens between them
have functions of their own, whose names hold no hyphen and are no keywords. -/
theorem attributeName_eq_iff :
    (∀ name other : Text, IsHyphenated name → IsHyphenated other →
      (attributeName name = attributeName other ↔ name = other)) ∧
    (∀ name : Text, IsHyphenated name → '-' ∉ attributeName name) ∧
    ∀ name : Text, attributeName name ∉ keywords := by
  refine ⟨?_, ?_, attributeName_not_mem_keywords⟩
  · intro name other h hother
    constructor
    · intro heq
      rw [← attributeOf_attributeName h.isKebab, heq, attributeOf_attributeName hother.isKebab]
    · intro heq
      rw [heq]
  · intro name h
    exact hyphen_not_mem_attributeName h.isKebab

/-- A keyword, and names that become alike but for their capitals. -/
theorem attributeName_eq_iff_marked :
    attributeName "type".toList ≠ attributeName "ty-pe".toList ∧
      attributeName "stroke-width".toList ≠ attributeName "strok-ewidth".toList ∧
        '-' ∉ attributeName "x-y-z".toList := by
  obtain ⟨hdistinct, hhyphen, -⟩ := attributeName_eq_iff
  refine ⟨?_, ?_, hhyphen _ (by decide)⟩
  · intro heq
    exact absurd ((hdistinct _ _ (by decide) (by decide)).1 heq) (by decide)
  · intro heq
    exact absurd ((hdistinct _ _ (by decide) (by decide)).1 heq) (by decide)

end Iconsmith.Elm
