import Iconsmith.Catalog.Entry
import Iconsmith.Proofs.Text.Ascii
import Iconsmith.Proofs.Text.Fields
import Mathlib.Data.List.Flatten
import Mathlib.Data.List.Nodup

set_option autoImplicit false

/-!
# Names of slugs

The name of a function is made from a slug by joining its words, each with a capital. From a slug in
kebab case, whose words begin with letters, it is read back (`kebabName_camelName`). A digit has no
capital, so of the hyphen before a word that begins with one nothing is left: the name tells a slug
but for such hyphens, and these alone make slugs collide (`camel_ofSlug_eq_iff`).
-/

namespace Iconsmith.Catalog

/-! ## Slugs in kebab case -/

/-- Whether words of small letters and digits, each of which begins with a letter, are divided
by single hyphens; `fresh` tells that a word begins here. -/
def isKebabFrom (fresh : Bool) : Text → Bool
  | [] => !fresh
  | c :: rest =>
      if fresh then c.isLower && isKebabFrom false rest
      else if c = '-' then isKebabFrom true rest
      else (c.isLower || c.isDigit) && isKebabFrom false rest

/-- Whether a slug is written in kebab case. -/
def isKebab (slug : Text) : Bool := isKebabFrom true slug

theorem isKebab_cons {c : Char} {rest : Text} :
    isKebab (c :: rest) ↔ c.isLower ∧ isKebabFrom false rest := by
  rw [isKebab, isKebabFrom, if_pos rfl, Bool.and_eq_true]

/-- A name in which each capital has become a hyphen and a small letter. -/
def kebabName (name : Text) : Text :=
  name.flatMap fun c => if c.isUpper then ['-', c.toLower] else [c]

/-- Small letters and digits go on with a word, and are no capitals. -/
theorem isWordGap_eq_false {c : Char} (h : c.isLower ∨ c.isDigit) :
    isWordGap c = false ∧ c.isUpper = false := by
  have hsmall : c.toNat < 128 := h.elim Text.toNat_lt_of_isLower Text.toNat_lt_of_isDigit
  exact Text.of_ascii (p := fun c => c.isLower ∨ c.isDigit →
    isWordGap c = false ∧ c.isUpper = false) (by decide) hsmall h

/-- A small letter is the small form of its capital. -/
theorem exists_capital {c : Char} (h : c.isLower) :
    ∃ d : Char, Text.capital c = [d] ∧ Text.small d = [c] ∧ d.isUpper ∧ d.toLower = c ∧
      d ≠ '\n' := by
  refine ⟨c.toUpper, ?_⟩
  exact Text.of_ascii (p := fun c => c.isLower → Text.capital c = [c.toUpper] ∧
    Text.small c.toUpper = [c] ∧ c.toUpper.isUpper ∧ c.toUpper.toLower = c ∧ c.toUpper ≠ '\n')
    (by decide) (Text.toNat_lt_of_isLower h) h

theorem kebabName_cons_of_isUpper {d : Char} (h : d.isUpper) (rest : Text) :
    kebabName (d :: rest) = '-' :: d.toLower :: kebabName rest := by
  simp [kebabName, h]

theorem kebabName_cons_of_not_isUpper {c : Char} (h : c.isUpper = false) (rest : Text) :
    kebabName (c :: rest) = c :: kebabName rest := by
  simp [kebabName, h]

/-- The words of a slug in kebab case are found again in its pascal name. -/
theorem kebabName_pascalFrom {fresh : Bool} {t : Text} (h : isKebabFrom fresh t) :
    kebabName (pascalFrom fresh t) = if fresh then '-' :: t else t := by
  induction t generalizing fresh with
  | nil =>
      cases fresh with
      | true => cases h
      | false => rfl
  | cons c rest ih =>
      rw [isKebabFrom] at h
      cases fresh with
      | true =>
          rw [if_pos rfl, Bool.and_eq_true] at h
          obtain ⟨d, hcapital, -, hupper, hlower, -⟩ := exists_capital h.1
          rw [pascalFrom, (isWordGap_eq_false (Or.inl h.1)).1, if_neg (by simp), if_pos rfl,
            if_pos rfl, hcapital, List.singleton_append, kebabName_cons_of_isUpper hupper,
            hlower, ih h.2, if_neg (by simp)]
      | false =>
          rw [if_neg (by simp)] at h
          by_cases hc : c = '-'
          · -- A hyphen is left out, and the next word brings it back.
            rw [if_pos hc] at h
            subst hc
            rw [pascalFrom, if_pos (by decide), ih h, if_pos rfl, if_neg (by simp)]
          · rw [if_neg hc, Bool.and_eq_true, Bool.or_eq_true] at h
            obtain ⟨hgap, hupper⟩ := isWordGap_eq_false h.1
            rw [pascalFrom, hgap, if_neg (by simp), if_neg (by simp), if_neg (by simp),
              List.singleton_append, kebabName_cons_of_not_isUpper hupper, ih h.2,
              if_neg (by simp)]

/-- The pascal name of a slug in kebab case is made of letters and digits. -/
theorem isAlphanum_of_mem_pascalFrom {fresh : Bool} {t : Text} (h : isKebabFrom fresh t) {c : Char}
    (hc : c ∈ pascalFrom fresh t) : c.isAlphanum := by
  induction t generalizing fresh with
  | nil => cases hc
  | cons d rest ih =>
      rw [isKebabFrom] at h
      cases fresh with
      | true =>
          rw [if_pos rfl, Bool.and_eq_true] at h
          obtain ⟨e, hcapital, -, hupper, -, -⟩ := exists_capital h.1
          rw [pascalFrom, (isWordGap_eq_false (Or.inl h.1)).1, if_neg Bool.false_ne_true,
            if_pos rfl, hcapital, List.singleton_append, List.mem_cons] at hc
          rcases hc with rfl | hc
          · exact Text.isAlphanum_iff.2 (Or.inl hupper)
          · exact ih h.2 hc
      | false =>
          rw [if_neg Bool.false_ne_true] at h
          by_cases hd : d = '-'
          · -- The hyphen is left out.
            rw [if_pos hd] at h
            subst hd
            rw [pascalFrom, if_pos (by decide)] at hc
            exact ih h hc
          · rw [if_neg hd, Bool.and_eq_true, Bool.or_eq_true] at h
            rw [pascalFrom, (isWordGap_eq_false h.1).1, if_neg Bool.false_ne_true,
              if_neg Bool.false_ne_true, List.singleton_append, List.mem_cons] at hc
            rcases hc with rfl | hc
            · exact Text.isAlphanum_iff.2 (Or.inr h.1)
            · exact ih h.2 hc

/-- A slug in kebab case begins as the name of its function does. -/
theorem camelName_pascalName_cons {c : Char} {rest : Text} (h : isKebab (c :: rest)) :
    camelName (pascalName (c :: rest)) = c :: pascalFrom false rest := by
  obtain ⟨hlower, -⟩ := isKebab_cons.1 h
  obtain ⟨d, hcapital, hsmall, -, -, hfeed⟩ := exists_capital hlower
  have hgap := (isWordGap_eq_false (Or.inl hlower)).1
  rw [pascalName, pascalFrom, hgap, if_neg Bool.false_ne_true, if_pos rfl, hcapital,
    List.singleton_append, camelName, if_neg hfeed, hsmall, List.singleton_append]

/-- A slug in kebab case is told by the name of its function. -/
theorem kebabName_camelName {slug : Text} (h : isKebab slug) :
    kebabName (camelName (pascalName slug)) = slug := by
  cases slug with
  | nil => cases h
  | cons c rest =>
      obtain ⟨hlower, hrest⟩ := isKebab_cons.1 h
      have hupper := (isWordGap_eq_false (Or.inl hlower)).2
      rw [camelName_pascalName_cons h, kebabName_cons_of_not_isUpper hupper,
        kebabName_pascalFrom hrest, if_neg Bool.false_ne_true]

/-- The name of the function for a slug in kebab case is made of letters and digits. -/
theorem isAlphanum_of_mem_camelName {slug : Text} (h : isKebab slug) {c : Char}
    (hc : c ∈ camelName (pascalName slug)) : c.isAlphanum := by
  cases slug with
  | nil => cases h
  | cons d rest =>
      obtain ⟨hlower, hrest⟩ := isKebab_cons.1 h
      rw [camelName_pascalName_cons h, List.mem_cons] at hc
      rcases hc with rfl | hc
      · exact Text.isAlphanum_iff.2 (Or.inr (Or.inl hlower))
      · exact isAlphanum_of_mem_pascalFrom hrest hc

/-! ## Hyphens before digits -/

/-- Whether a text begins with a character of a class. -/
def BeginsWith (p : Char → Bool) (t : Text) : Prop := t.head?.any p = true

instance (p : Char → Bool) : DecidablePred (BeginsWith p) := fun t =>
  inferInstanceAs (Decidable (t.head?.any p = true))

@[simp]
theorem beginsWith_cons {p : Char → Bool} {c : Char} {t : Text} :
    BeginsWith p (c :: t) ↔ p c = true := by
  rw [BeginsWith, List.head?_cons, Option.any_some]

theorem beginsWith_append {p : Char → Bool} {s : Text} (h : s ≠ []) (t : Text) :
    BeginsWith p (s ++ t) ↔ BeginsWith p s := by
  rw [BeginsWith, BeginsWith, List.head?_append_of_ne_nil _ h]

/-- A slug without the hyphens that stand right before a digit. -/
def fused : Text → Text
  | [] => []
  | c :: rest => if c = '-' ∧ BeginsWith Char.isDigit rest then fused rest else c :: fused rest

/-- Whether a word begins with a digit or goes on with it does not show. -/
theorem pascalFrom_digit (fresh : Bool) {d : Char} (h : d.isDigit) (rest : Text) :
    pascalFrom fresh (d :: rest) = d :: pascalFrom false rest := by
  obtain ⟨hgap, -⟩ := isWordGap_eq_false (Or.inr h)
  rw [pascalFrom, hgap, if_neg Bool.false_ne_true, Text.capital_of_isDigit h, ite_self]
  rfl

/-- Hyphens before digits leave no trace in the pascal name. -/
theorem pascalFrom_fused (fresh : Bool) (t : Text) :
    pascalFrom fresh (fused t) = pascalFrom fresh t := by
  induction t generalizing fresh with
  | nil => rfl
  | cons c rest ih =>
      rw [fused]
      by_cases h : c = '-' ∧ BeginsWith Char.isDigit rest
      · -- The word that begins behind the hyphen begins with a digit, as if none began there.
        rw [if_pos h, ih]
        obtain ⟨rfl, hbegins⟩ := h
        cases rest with
        | nil => cases hbegins
        | cons d rest =>
            have hdigit : d.isDigit := beginsWith_cons.1 hbegins
            have hgap : isWordGap '-' = true := by decide
            rw [pascalFrom_digit fresh hdigit, pascalFrom, if_pos hgap,
              pascalFrom_digit true hdigit]
      · rw [if_neg h, pascalFrom, pascalFrom, ih, ih]

/-! ## Slugs of segments -/

/-- Whether a segment is made of small letters and digits, with at least one of them. -/
def IsSegment (segment : Text) : Prop :=
  segment ≠ [] ∧ ∀ c ∈ segment, c.isLower ∨ c.isDigit

/-- Slugs of one or more segments, divided by single hyphens, that begin with a letter. -/
structure IsSegmented (slug : Text) : Prop where
  segments : ∀ segment ∈ Text.fields '-' slug, IsSegment segment
  begins : BeginsWith Char.isLower slug

instance : DecidablePred IsSegment := fun segment =>
  inferInstanceAs (Decidable (segment ≠ [] ∧ ∀ c ∈ segment, c.isLower ∨ c.isDigit))

instance : DecidablePred IsSegmented := fun slug =>
  decidable_of_iff
    ((∀ segment ∈ Text.fields '-' slug, IsSegment segment) ∧ BeginsWith Char.isLower slug)
    ⟨fun h => ⟨h.1, h.2⟩, fun h => ⟨h.segments, h.begins⟩⟩

theorem fused_append {s : Text} (h : '-' ∉ s) (t : Text) : fused (s ++ t) = s ++ fused t := by
  induction s with
  | nil => rfl
  | cons c s ih =>
      rw [List.mem_cons, not_or] at h
      rw [List.cons_append, fused, if_neg fun hc => h.1 hc.1.symm, ih h.2, List.cons_append]

/-- A segment as it stands in a slug without hyphens before digits: behind its hyphen, or right
behind the segment before it. -/
def attached (segment : Text) : Text :=
  if BeginsWith Char.isDigit segment then segment else '-' :: segment

/-- The segments after the first lose their hyphens when they begin with digits. -/
theorem fused_flatMap {segments : List Text} (h : ∀ s ∈ segments, s ≠ [] ∧ '-' ∉ s) :
    fused (segments.flatMap ('-' :: ·)) = segments.flatMap attached := by
  induction segments with
  | nil => rfl
  | cons s segments ih =>
      obtain ⟨⟨hne, hs⟩, hothers⟩ := List.forall_mem_cons.1 h
      have hrest := ih hothers
      have hbegins := beginsWith_append hne (p := Char.isDigit) (segments.flatMap ('-' :: ·))
      rw [List.flatMap_cons, List.flatMap_cons, List.cons_append, fused, attached]
      by_cases hdigit : BeginsWith Char.isDigit s
      · rw [if_pos ⟨rfl, hbegins.2 hdigit⟩, if_pos hdigit, fused_append hs, hrest]
      · rw [if_neg fun h => hdigit (hbegins.1 h.2), if_neg hdigit, fused_append hs, hrest,
          List.cons_append]

theorem attached_of_beginsWith {segment : Text} (h : BeginsWith Char.isLower segment) :
    attached segment = '-' :: segment := by
  cases segment with
  | nil => cases h
  | cons c rest =>
      apply if_neg
      intro hdigit
      exact Text.not_isDigit_of_isLower (beginsWith_cons.1 h) (beginsWith_cons.1 hdigit)

/-! ## Kebab case without hyphens before digits -/

theorem isKebabFrom_append {s : Text} (h : ∀ c ∈ s, c.isLower ∨ c.isDigit) (t : Text) :
    isKebabFrom false (s ++ t) = isKebabFrom false t := by
  induction s with
  | nil => rfl
  | cons c s ih =>
      obtain ⟨hc, hs⟩ := List.forall_mem_cons.1 h
      have hhyphen : c ≠ '-' := by
        rintro rfl
        exact absurd hc (by decide)
      have hplain : (c.isLower || c.isDigit) = true := by simpa using hc
      rw [List.cons_append, isKebabFrom, if_neg Bool.false_ne_true, if_neg hhyphen, hplain,
        Bool.true_and, ih hs]

theorem isKebabFrom_append_of_beginsWith {s : Text} (h : IsSegment s)
    (hbegins : BeginsWith Char.isLower s) (t : Text) :
    isKebabFrom true (s ++ t) = isKebabFrom false t := by
  obtain ⟨c, rest, rfl⟩ := List.exists_cons_of_ne_nil h.1
  have hlower : c.isLower = true := beginsWith_cons.1 hbegins
  rw [List.cons_append, isKebabFrom, if_pos rfl, hlower, Bool.true_and,
    isKebabFrom_append fun e he => h.2 e (List.mem_cons_of_mem c he)]

theorem isKebabFrom_attached {s : Text} (h : IsSegment s) (t : Text) :
    isKebabFrom false (attached s ++ t) = isKebabFrom false t := by
  rw [attached]
  by_cases hdigit : BeginsWith Char.isDigit s
  · rw [if_pos hdigit, isKebabFrom_append h.2]
  · -- The first character is no digit, and so the hyphen stands before a letter.
    have hbegins : BeginsWith Char.isLower s := by
      obtain ⟨c, rest, rfl⟩ := List.exists_cons_of_ne_nil h.1
      rw [beginsWith_cons] at hdigit ⊢
      exact (h.2 c List.mem_cons_self).resolve_right hdigit
    rw [if_neg hdigit, List.cons_append, isKebabFrom, if_neg Bool.false_ne_true, if_pos rfl,
      isKebabFrom_append_of_beginsWith h hbegins]

theorem isKebabFrom_flatMap_attached {segments : List Text} (h : ∀ s ∈ segments, IsSegment s) :
    isKebabFrom false (segments.flatMap attached) = true := by
  induction segments with
  | nil => rfl
  | cons s segments ih =>
      obtain ⟨hs, hothers⟩ := List.forall_mem_cons.1 h
      rw [List.flatMap_cons, isKebabFrom_attached hs, ih hothers]

/-- A slug of segments is its first segment and the others behind hyphens. -/
theorem IsSegmented.exists_eq {slug : Text} (h : IsSegmented slug) :
    ∃ first more, slug = first ++ more.flatMap ('-' :: ·) ∧
      fused slug = first ++ more.flatMap attached ∧
        IsSegment first ∧ BeginsWith Char.isLower first ∧ (∀ s ∈ more, IsSegment s) ∧
          Text.fields '-' slug = first :: more := by
  obtain ⟨first, more, hfields⟩ := List.exists_cons_of_ne_nil (Text.fields_ne_nil '-' slug)
  have hslug : slug = first ++ more.flatMap ('-' :: ·) := Text.eq_append_flatMap_of_fields hfields
  obtain ⟨hfirst, hmore⟩ := List.forall_mem_cons.1 (hfields ▸ h.segments)
  have hhyphens : ∀ s ∈ first :: more, '-' ∉ s :=
    hfields ▸ fun s hs => Text.not_mem_of_mem_fields hs
  obtain ⟨hone, hothers⟩ := List.forall_mem_cons.1 hhyphens
  refine ⟨first, more, hslug, ?_, hfirst, ?_, hmore, hfields⟩
  · rw [hslug, fused_append hone, fused_flatMap fun s hs => ⟨(hmore s hs).1, hothers s hs⟩]
  · have hbegins := h.begins
    rwa [hslug, beginsWith_append hfirst.1] at hbegins

theorem IsSegmented.isKebab_fused {slug : Text} (h : IsSegmented slug) :
    isKebab (fused slug) = true := by
  obtain ⟨first, more, -, hfused, hfirst, hbegins, hmore, -⟩ := h.exists_eq
  rw [isKebab, hfused, isKebabFrom_append_of_beginsWith hfirst hbegins,
    isKebabFrom_flatMap_attached hmore]

/-! ## Which slugs collide -/

/-- The name of its function tells a slug but for the hyphens before digits. -/
theorem IsSegmented.kebabName_camelName {slug : Text} (h : IsSegmented slug) :
    kebabName (camelName (pascalName slug)) = fused slug := by
  have hkebab := Catalog.kebabName_camelName h.isKebab_fused
  rwa [pascalName, pascalFrom_fused] at hkebab

/-- Slugs whose segments begin with letters have no hyphens before digits. -/
theorem IsSegmented.fused_eq_self {slug : Text} (h : IsSegmented slug)
    (hbegin : ∀ segment ∈ Text.fields '-' slug, BeginsWith Char.isLower segment) :
    fused slug = slug := by
  obtain ⟨first, more, hslug, hfused, -, -, -, hfields⟩ := h.exists_eq
  rw [hfields] at hbegin
  have hattached : more.flatMap attached = more.flatMap ('-' :: ·) := by
    apply List.flatMap_congr
    intro segment hsegment
    exact attached_of_beginsWith (hbegin segment (List.mem_cons_of_mem first hsegment))
  rw [hfused, hattached, ← hslug]

theorem IsSegmented.camel_eq_iff {slug other : Text} (h : IsSegmented slug)
    (hother : IsSegmented other) :
    (Entry.ofSlug slug).camel = (Entry.ofSlug other).camel ↔ fused slug = fused other := by
  constructor
  · intro heq
    rw [← h.kebabName_camelName, ← hother.kebabName_camelName]
    exact congrArg kebabName heq
  · intro heq
    have hcamel : ∀ t, (Entry.ofSlug t).camel = camelName (pascalFrom true (fused t)) := by
      intro t
      rw [pascalFrom_fused]
      rfl
    rw [hcamel, hcamel, heq]

theorem nodup_camel_ofSlugs_iff {slugs : List Text} (h : ∀ slug ∈ slugs, IsSegmented slug) :
    ((ofSlugs slugs).map Entry.camel).Nodup ↔ (slugs.map fused).Nodup := by
  rw [ofSlugs, List.map_map, List.nodup_iff_pairwise_ne, List.nodup_iff_pairwise_ne,
    List.pairwise_map, List.pairwise_map]
  apply List.Pairwise.iff_of_mem
  intro slug other hslug hother
  exact not_congr ((h slug hslug).camel_eq_iff (h other hother))

/-- Two slugs of segments have the same function name exactly if they become equal when the hyphens
before digits are left out. So slugs whose segments all begin with letters never collide, and the
functions of a catalog of slugs have distinct names exactly if the slugs stay distinct without
these hyphens. -/
theorem camel_ofSlug_eq_iff :
    (∀ slug other : Text, IsSegmented slug → IsSegmented other →
      ((Entry.ofSlug slug).camel = (Entry.ofSlug other).camel ↔ fused slug = fused other)) ∧
    (∀ slug other : Text, IsSegmented slug → IsSegmented other →
      (∀ segment ∈ Text.fields '-' slug, BeginsWith Char.isLower segment) →
      (∀ segment ∈ Text.fields '-' other, BeginsWith Char.isLower segment) →
      (Entry.ofSlug slug).camel = (Entry.ofSlug other).camel → slug = other) ∧
    ∀ slugs : List Text, (∀ slug ∈ slugs, IsSegmented slug) →
      (((ofSlugs slugs).map Entry.camel).Nodup ↔ (slugs.map fused).Nodup) := by
  refine ⟨fun slug other h hother => h.camel_eq_iff hother, ?_, ?_⟩
  · intro slug other h hother hbegin hbegins heq
    rw [← h.fused_eq_self hbegin, ← hother.fused_eq_self hbegins]
    exact (h.camel_eq_iff hother).1 heq
  · exact fun slugs h => nodup_camel_ofSlugs_iff h

/-- Slugs with digits, two of which collide, and a pair with one letter fewer in a word. -/
theorem camel_ofSlug_eq_iff_digits :
    (Entry.ofSlug "dice-4-b2".toList).camel = (Entry.ofSlug "dice4-b2".toList).camel ∧
      (Entry.ofSlug "dice-4b".toList).camel ≠ (Entry.ofSlug "dice4-b".toList).camel ∧
      (Entry.ofSlug "arrow-up".toList).camel ≠ (Entry.ofSlug "arrow-u-p".toList).camel ∧
      ((ofSlugs ["dice-4".toList, "dice-4b".toList, "dice4-b".toList]).map Entry.camel).Nodup := by
  obtain ⟨hcollide, hletters, hdistinct⟩ := camel_ofSlug_eq_iff
  refine ⟨?_, ?_, ?_, ?_⟩
  · exact (hcollide _ _ (by decide) (by decide)).2 (by decide)
  · intro heq
    exact absurd ((hcollide _ _ (by decide) (by decide)).1 heq) (by decide)
  · intro heq
    have hsame := hletters _ _ (by decide) (by decide) (by decide) (by decide) heq
    exact absurd hsame (by decide)
  · exact (hdistinct _ (by decide)).2 (by decide)

end Iconsmith.Catalog
