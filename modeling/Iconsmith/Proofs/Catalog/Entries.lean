import Iconsmith.Catalog.Manifest
import Mathlib.Data.List.Forall2
import Mathlib.Data.List.Nodup
import Mathlib.Data.List.Perm.Basic

set_option autoImplicit false

/-!
# Entries and faults of items

What an item of a manifest stands for is said by a relation: `IsEntry` relates an object to the
entry with its names and its alias, whatever else the object has. What is wrong with an item is
said by another one: `HasIssue` has a rule for each kind of fault. Validation gives the entry if
there is one, and otherwise all faults in the order of the fields (`validates_entryOfJson`); of a
list of items it gives the entries, or the faults of the first item that has some
(`entriesOfJson_eq_ok_iff`, `entriesOfJson_eq_error_iff`).
-/

namespace Iconsmith

/-! ## Members of objects -/

namespace Json

variable {members : List (Text × Json)} {name : Text} {value : Json}

/-- The value that an object has for a name: that of the last member with this name. -/
def Holds (members : List (Text × Json)) (name : Text) (value : Json) : Prop :=
  ∃ before after, members = before ++ (name, value) :: after ∧ ∀ m ∈ after, m.1 ≠ name

/-- An object without a member of a name. -/
def Lacks (members : List (Text × Json)) (name : Text) : Prop := ∀ m ∈ members, m.1 ≠ name

theorem member?_eq_none_iff : member? name members = none ↔ Lacks members name := by
  rw [member?, List.lookup_eq_none_iff]
  constructor
  · intro h m hm heq
    exact bne_iff_ne.1 (h m (List.mem_reverse.2 hm)) heq.symm
  · intro h m hm
    exact bne_iff_ne.2 (Ne.symm (h m (List.mem_reverse.1 hm)))

theorem member?_eq_some_iff : member? name members = some value ↔ Holds members name value := by
  rw [member?, List.lookup_eq_some_iff]
  constructor
  · rintro ⟨after, before, hmembers, hafter⟩
    refine ⟨before.reverse, after.reverse, ?_, fun m hm => ?_⟩
    · rw [← List.reverse_reverse members, hmembers]
      simp
    · exact Ne.symm (bne_iff_ne.1 (hafter m (List.mem_reverse.1 hm)))
  · rintro ⟨before, after, rfl, hafter⟩
    refine ⟨after.reverse, before.reverse, by simp, fun m hm => ?_⟩
    exact bne_iff_ne.2 (Ne.symm (hafter m (List.mem_reverse.1 hm)))

theorem Holds.unique {other : Json} (h : Holds members name value)
    (hother : Holds members name other) : value = other := by
  rw [← member?_eq_some_iff] at h hother
  exact Option.some.inj (h.symm.trans hother)

theorem Holds.not_lacks (h : Holds members name value) : ¬Lacks members name := by
  rw [← member?_eq_some_iff] at h
  rw [← member?_eq_none_iff, h]
  exact Option.some_ne_none value

end Json

namespace Catalog

open Json (Holds Lacks)

/-! ## Entries -/

/-- An object with a slug for its name and a pascal name. -/
structure HasNames (members : List (Text × Json)) (slug pascal : Text) : Prop where
  slug : Holds members "name".toList (.string slug)
  pascal : Holds members "pascal_name".toList (.string pascal)

/-- An object with an alias, or without one. -/
inductive HasAlias (members : List (Text × Json)) : Option Alias → Prop where
  | absent : Lacks members "alias".toList → HasAlias members none
  | null : Holds members "alias".toList .null → HasAlias members none
  | object {inner : List (Text × Json)} {slug pascal : Text} :
      Holds members "alias".toList (.object inner) → HasNames inner slug pascal →
        HasAlias members (some ⟨slug, pascal⟩)

/-- An item that stands for an entry. -/
inductive IsEntry : Json → Entry → Prop where
  | object {members : List (Text × Json)} {slug pascal : Text} {aka : Option Alias} :
      HasNames members slug pascal → HasAlias members aka →
        IsEntry (.object members) ⟨slug, pascal, aka⟩

/-- An item that stands for some entry. -/
def IsFit (item : Json) : Prop := ∃ entry, IsEntry item entry

/-! ## Faults -/

/-- What is wrong with the text field of an object that is reached by `place`. -/
inductive FieldIssue (place : List Text) (members : List (Text × Json)) (name : Text) :
    Issue → Prop where
  | missing : Lacks members name → FieldIssue place members name ⟨.missing, place ++ [name]⟩
  | notText {value : Json} : Holds members name value → (∀ t, value ≠ .string t) →
      FieldIssue place members name ⟨.notText, place ++ [name]⟩

/-- What is wrong with the names of an object. -/
def NamesIssue (place : List Text) (members : List (Text × Json)) (issue : Issue) : Prop :=
  FieldIssue place members "name".toList issue ∨ FieldIssue place members "pascal_name".toList issue

/-- What is wrong with the alias of an object. -/
inductive AliasIssue (members : List (Text × Json)) : Issue → Prop where
  | notAlias {value : Json} : Holds members "alias".toList value → value ≠ .null →
      (∀ inner, value ≠ .object inner) → AliasIssue members ⟨.notAlias, ["alias".toList]⟩
  | names {inner : List (Text × Json)} {issue : Issue} :
      Holds members "alias".toList (.object inner) → NamesIssue ["alias".toList] inner issue →
        AliasIssue members issue

/-- What is wrong with an item. -/
inductive HasIssue : Json → Issue → Prop where
  | notEntry {item : Json} : (∀ members, item ≠ .object members) →
      HasIssue item ⟨.notEntry, []⟩
  | names {members : List (Text × Json)} {issue : Issue} :
      NamesIssue [] members issue → HasIssue (.object members) issue
  | aka {members : List (Text × Json)} {issue : Issue} :
      AliasIssue members issue → HasIssue (.object members) issue

/-- The places of the names of an object that is reached by `place`. -/
def namePlaces (place : List Text) : List (List Text) :=
  [place ++ ["name".toList], place ++ ["pascal_name".toList]]

/-- The places of an alias and of its names. -/
def aliasPlaces : List (List Text) := ["alias".toList] :: namePlaces ["alias".toList]

/-- The places of an item, in the order of the fields. -/
def fieldOrder : List (List Text) := [] :: (namePlaces [] ++ aliasPlaces)

/-! ## Validation -/

section Validation

variable {α β : Type} {a : Except (List Issue) α} {b : Except (List Issue) β}

/-- The faults in a result. -/
def issuesOf : Except (List Issue) α → List Issue
  | .ok _ => []
  | .error issues => issues

/-- A result that is a value that fits, or all the faults there are, in the order of the places. -/
structure Validates (a : Except (List Issue) α) (fits : α → Prop) (hasIssue : Issue → Prop)
    (places : List (List Text)) : Prop where
  ok_iff : ∀ x, a = .ok x ↔ fits x
  error_ne : a ≠ .error []
  mem_iff : ∀ issue, issue ∈ issuesOf a ↔ hasIssue issue
  order : ((issuesOf a).map Issue.place).Sublist places

theorem both_eq_ok_iff {p : α × β} : both a b = .ok p ↔ a = .ok p.1 ∧ b = .ok p.2 := by
  obtain ⟨x, y⟩ := p
  cases a <;> cases b <;> simp [both]

theorem issuesOf_both : issuesOf (both a b) = issuesOf a ++ issuesOf b := by
  cases a <;> cases b <;> simp [both, issuesOf]

theorem both_ne_error_nil (ha : a ≠ .error []) (hb : b ≠ .error []) : both a b ≠ .error [] := by
  cases a with
  | ok x => cases b <;> simp_all [both]
  | error issues => cases b <;> simp_all [both]

/-- Two results side by side are validated when each of them is. -/
theorem Validates.both {fits : α → Prop} {fits' : β → Prop} {hasIssue hasIssue' : Issue → Prop}
    {places places' : List (List Text)} (ha : Validates a fits hasIssue places)
    (hb : Validates b fits' hasIssue' places') :
    Validates (Catalog.both a b) (fun p => fits p.1 ∧ fits' p.2)
      (fun issue => hasIssue issue ∨ hasIssue' issue) (places ++ places') where
  ok_iff p := by rw [both_eq_ok_iff, ha.ok_iff, hb.ok_iff]
  error_ne := both_ne_error_nil ha.error_ne hb.error_ne
  mem_iff issue := by rw [issuesOf_both, List.mem_append, ha.mem_iff, hb.mem_iff]
  order := by
    rw [issuesOf_both, List.map_append]
    exact ha.order.append hb.order

variable {fits : α → Prop} {hasIssue : Issue → Prop} {places : List (List Text)}

theorem Validates.of_ok {x : α} (hfits : fits x) (hunique : ∀ y, fits y → y = x)
    (hnone : ∀ issue, ¬hasIssue issue) : Validates (.ok x) fits hasIssue places where
  ok_iff y := by
    constructor
    · rintro ⟨⟩
      exact hfits
    · intro hy
      rw [hunique y hy]
  error_ne := by rintro ⟨⟩
  mem_iff issue := iff_of_false List.not_mem_nil (hnone issue)
  order := List.nil_sublist places

theorem Validates.of_issue {issue : Issue} (hfits : ∀ x, ¬fits x)
    (hissue : ∀ other, hasIssue other ↔ other = issue) (hplace : issue.place ∈ places) :
    Validates (.error [issue] : Except (List Issue) α) fits hasIssue places where
  ok_iff x := iff_of_false (by rintro ⟨⟩) (hfits x)
  error_ne := by rintro ⟨⟩
  mem_iff other := by rw [issuesOf, List.mem_singleton, hissue]
  order := List.singleton_sublist.2 hplace

/-- A result is still validated when the value is turned into another. -/
theorem Validates.map (f : α → β) (h : Validates a fits hasIssue places) :
    Validates (a.map f) (fun y => ∃ x, fits x ∧ f x = y) hasIssue places := by
  obtain ⟨hok, hne, hmem, horder⟩ := h
  cases a with
  | ok x =>
      refine ⟨fun y => ?_, by rintro ⟨⟩, hmem, horder⟩
      constructor
      · rintro ⟨⟩
        exact ⟨x, (hok x).1 rfl, rfl⟩
      · rintro ⟨z, hz, rfl⟩
        cases (hok z).2 hz
        rfl
  | error issues =>
      refine ⟨fun y => iff_of_false (by rintro ⟨⟩) ?_, fun heq => hne ?_, hmem, horder⟩
      · rintro ⟨x, hx, -⟩
        cases (hok x).2 hx
      · cases heq
        rfl

theorem Validates.congr {fits' : α → Prop} {hasIssue' : Issue → Prop} {places' : List (List Text)}
    (h : Validates a fits hasIssue places) (hfits : ∀ x, fits x ↔ fits' x)
    (hissue : ∀ issue, hasIssue issue ↔ hasIssue' issue) (hplaces : places.Sublist places') :
    Validates a fits' hasIssue' places' where
  ok_iff x := (h.ok_iff x).trans (hfits x)
  error_ne := h.error_ne
  mem_iff issue := (h.mem_iff issue).trans (hissue issue)
  order := h.order.trans hplaces

end Validation

/-! ## Fields -/

theorem validates_textField (place : List Text) (members : List (Text × Json)) (name : Text) :
    Validates (textField place members name) (fun t => Holds members name (.string t))
      (FieldIssue place members name) [place ++ [name]] := by
  rw [textField]
  cases hmember : Json.member? name members with
  | none =>
      have hlacks := Json.member?_eq_none_iff.1 hmember
      refine .of_issue (fun t ht => ht.not_lacks hlacks) (fun other => ?_) List.mem_cons_self
      constructor
      · rintro (- | ⟨hholds, -⟩)
        · rfl
        · exact absurd hlacks hholds.not_lacks
      · rintro rfl
        exact .missing hlacks
  | some value =>
      have hvalue := Json.member?_eq_some_iff.1 hmember
      by_cases htext : ∃ t, value = .string t
      · obtain ⟨t, rfl⟩ := htext
        refine .of_ok hvalue (fun u hu => ?_) fun issue hissue => ?_
        · cases hvalue.unique hu
          rfl
        · rcases hissue with hlacks | ⟨hholds, hother⟩
          · exact hvalue.not_lacks hlacks
          · exact hother t (hholds.unique hvalue)
      · -- Any other value is one fault, of whatever kind the value is.
        have hother : ∀ t, value ≠ .string t := fun t heq => htext ⟨t, heq⟩
        have hnot : FieldIssue place members name ⟨.notText, place ++ [name]⟩ :=
          .notText hvalue hother
        have hfault : Validates (.error [⟨.notText, place ++ [name]⟩] : Except (List Issue) Text)
            (fun t => Holds members name (.string t)) (FieldIssue place members name)
            [place ++ [name]] := by
          refine .of_issue (fun t ht => hother t (hvalue.unique ht)) (fun other => ?_)
            List.mem_cons_self
          constructor
          · rintro (hlacks | -)
            · exact absurd hlacks hvalue.not_lacks
            · rfl
          · rintro rfl
            exact hnot
        cases value with
        | string t => exact absurd rfl (hother t)
        | _ => exact hfault

theorem validates_nameFields (place : List Text) (members : List (Text × Json)) :
    Validates (nameFields place members) (fun p => HasNames members p.1 p.2)
      (NamesIssue place members) (namePlaces place) := by
  have hboth := (validates_textField place members "name".toList).both
    (validates_textField place members "pascal_name".toList)
  refine hboth.congr (fun p => ?_) (fun issue => Iff.rfl) (List.Sublist.refl _)
  exact ⟨fun ⟨hslug, hpascal⟩ => ⟨hslug, hpascal⟩, fun ⟨hslug, hpascal⟩ => ⟨hslug, hpascal⟩⟩

/-- An object whose alias is the value `null` has none. -/
theorem validates_aliasField_null {members : List (Text × Json)}
    (h : Holds members "alias".toList .null) :
    Validates (.ok none : Except (List Issue) (Option Alias)) (HasAlias members)
      (AliasIssue members) aliasPlaces := by
  refine .of_ok (.null h) (fun aka haka => ?_) fun issue hissue => ?_
  · cases haka with
    | absent => rfl
    | null => rfl
    | object hholds => cases h.unique hholds
  · cases hissue with
    | notAlias hholds hnull => exact hnull (hholds.unique h)
    | names hholds => cases h.unique hholds

/-- An object without an alias. -/
theorem validates_aliasField_absent {members : List (Text × Json)}
    (h : Lacks members "alias".toList) :
    Validates (.ok none : Except (List Issue) (Option Alias)) (HasAlias members)
      (AliasIssue members) aliasPlaces := by
  refine .of_ok (.absent h) (fun aka haka => ?_) fun issue hissue => ?_
  · cases haka with
    | absent => rfl
    | null => rfl
    | object hholds => exact absurd h hholds.not_lacks
  · cases hissue with
    | notAlias hholds => exact hholds.not_lacks h
    | names hholds => exact hholds.not_lacks h

/-- An object whose alias is an object has the faults of its names. -/
theorem validates_aliasField_object {members inner : List (Text × Json)}
    (h : Holds members "alias".toList (.object inner)) :
    Validates ((nameFields ["alias".toList] inner).map fun p => some (Alias.mk p.1 p.2))
      (HasAlias members) (AliasIssue members) aliasPlaces := by
  refine ((validates_nameFields ["alias".toList] inner).map _).congr (fun aka => ?_)
    (fun issue => ?_) (List.sublist_cons_self _ _)
  · constructor
    · rintro ⟨⟨slug, pascal⟩, hnames, rfl⟩
      exact .object h hnames
    · rintro (hlacks | hnull | ⟨hholds, hnames⟩)
      · exact absurd hlacks h.not_lacks
      · cases h.unique hnull
      · cases h.unique hholds
        exact ⟨(_, _), hnames, rfl⟩
  · constructor
    · exact .names h
    · rintro (⟨hholds, -, hother⟩ | ⟨hholds, hnames⟩)
      · exact absurd (hholds.unique h) (hother inner)
      · cases hholds.unique h
        exact hnames

/-- An object whose alias is any other value has this one fault. -/
theorem validates_aliasField_other {members : List (Text × Json)} {value : Json}
    (h : Holds members "alias".toList value) (hnull : value ≠ .null)
    (hobject : ∀ inner, value ≠ .object inner) :
    Validates (.error [⟨.notAlias, ["alias".toList]⟩] : Except (List Issue) (Option Alias))
      (HasAlias members) (AliasIssue members) aliasPlaces := by
  refine .of_issue (fun aka haka => ?_) (fun other => ?_) List.mem_cons_self
  · cases haka with
    | absent hlacks => exact h.not_lacks hlacks
    | null hholds => exact hnull (h.unique hholds)
    | object hholds => exact hobject _ (h.unique hholds)
  · constructor
    · intro hother
      cases hother with
      | notAlias => rfl
      | names hholds => exact absurd (h.unique hholds) (hobject _)
    · rintro rfl
      exact .notAlias h hnull hobject

theorem validates_aliasField (members : List (Text × Json)) :
    Validates (aliasField members) (HasAlias members) (AliasIssue members) aliasPlaces := by
  cases hmember : Json.member? "alias".toList members with
  | none =>
      simp only [aliasField, hmember]
      exact validates_aliasField_absent (Json.member?_eq_none_iff.1 hmember)
  | some value =>
      have hvalue := Json.member?_eq_some_iff.1 hmember
      cases value with
      | null =>
          simp only [aliasField, hmember]
          exact validates_aliasField_null hvalue
      | object inner =>
          have hfield : aliasField members =
              (nameFields ["alias".toList] inner).map fun p => some (Alias.mk p.1 p.2) := by
            simp only [aliasField, hmember]
            cases nameFields ["alias".toList] inner <;> rfl
          rw [hfield]
          exact validates_aliasField_object hvalue
      | bool | number | string | array =>
          simp only [aliasField, hmember]
          exact validates_aliasField_other hvalue (by rintro ⟨⟩) (by rintro inner ⟨⟩)

/-! ## Items -/

/-- An item gives the entry that it stands for, or all that is wrong with it. -/
theorem validates_entryOfJson (item : Json) :
    Validates (entryOfJson item) (IsEntry item) (HasIssue item) fieldOrder := by
  cases item with
  | object members =>
      -- The names and the alias are validated side by side, so the faults of both are kept.
      have hboth := (validates_nameFields [] members).both (validates_aliasField members)
      have hentry : entryOfJson (.object members) =
          (both (nameFields [] members) (aliasField members)).map
            fun p => ⟨p.1.1, p.1.2, p.2⟩ := by
        rw [entryOfJson]
        cases both (nameFields [] members) (aliasField members) <;> rfl
      rw [hentry]
      refine (hboth.map _).congr (fun entry => ?_) (fun issue => ?_) (List.sublist_cons_self _ _)
      · constructor
        · rintro ⟨⟨⟨slug, pascal⟩, aka⟩, ⟨hnames, haka⟩, rfl⟩
          exact .object hnames haka
        · rintro ⟨hnames, haka⟩
          exact ⟨((_, _), _), ⟨hnames, haka⟩, rfl⟩
      · constructor
        · rintro (hnames | haka)
          · exact .names hnames
          · exact .aka haka
        · rintro (hother | hnames | haka)
          · exact absurd rfl (hother members)
          · exact Or.inl hnames
          · exact Or.inr haka
  | null | bool | number | string | array =>
      refine .of_issue (fun entry hentry => by cases hentry) (fun other => ?_) List.mem_cons_self
      constructor
      · rintro ⟨⟩
        rfl
      · rintro rfl
        exact .notEntry (by rintro members ⟨⟩)

/-- Faults with which an item is refused: all that is wrong with it, in the order of the fields. -/
structure Refuses (item : Json) (issues : List Issue) : Prop where
  ne_nil : issues ≠ []
  mem_iff : ∀ issue, issue ∈ issues ↔ HasIssue item issue
  order : (issues.map Issue.place).Sublist fieldOrder

/-- There is one way to refuse an item, as no two fields have one place. -/
theorem Refuses.unique {item : Json} {issues others : List Issue} (h : Refuses item issues)
    (hother : Refuses item others) : issues = others := by
  -- Both lists have the same members, and are in the order in which the fields stand.
  have hplaces : fieldOrder.Pairwise
      (fun p q => fieldOrder.idxOf p < fieldOrder.idxOf q) := by decide
  have hnodup : fieldOrder.Nodup := by decide
  have hperm : issues.Perm others := by
    refine (List.perm_ext_iff_of_nodup ?_ ?_).2 fun issue => ?_
    · exact (hnodup.sublist h.order).of_map
    · exact (hnodup.sublist hother.order).of_map
    · rw [h.mem_iff, hother.mem_iff]
  have hsorted : ∀ {list : List Issue}, (list.map Issue.place).Sublist fieldOrder →
      list.Pairwise fun i j => fieldOrder.idxOf i.place < fieldOrder.idxOf j.place := by
    intro list horder
    have hmapped := List.Pairwise.sublist horder hplaces
    rwa [List.pairwise_map] at hmapped
  refine hperm.eq_of_pairwise (fun i j _ _ hij hji => ?_) (hsorted h.order) (hsorted hother.order)
  exact absurd hij (Nat.lt_asymm hji)

theorem entryOfJson_eq_ok_iff {item : Json} {entry : Entry} :
    entryOfJson item = .ok entry ↔ IsEntry item entry :=
  (validates_entryOfJson item).ok_iff entry

theorem entryOfJson_eq_error_iff {item : Json} {issues : List Issue} :
    entryOfJson item = .error issues ↔ Refuses item issues := by
  have hrefuses : ∀ {found}, entryOfJson item = .error found → Refuses item found := by
    intro found h
    obtain ⟨-, hne, hmem, horder⟩ := validates_entryOfJson item
    rw [h] at hne hmem horder
    exact ⟨fun hnil => hne (hnil ▸ rfl), hmem, horder⟩
  refine ⟨hrefuses, fun h => ?_⟩
  cases hitem : entryOfJson item with
  | error found => rw [(hrefuses hitem).unique h]
  | ok entry =>
      obtain ⟨issue, hissue⟩ := List.exists_mem_of_ne_nil issues h.ne_nil
      have hmem := ((validates_entryOfJson item).mem_iff issue).2 ((h.mem_iff issue).1 hissue)
      rw [hitem] at hmem
      exact absurd hmem List.not_mem_nil

/-! ## Lists of items -/

/-- A list of items gives an entry for each of them, in the same order. -/
theorem entriesOfJson_eq_ok_iff {items : List Json} {entries : List Entry} :
    entriesOfJson items = .ok entries ↔ List.Forall₂ IsEntry items entries := by
  induction items generalizing entries with
  | nil =>
      rw [entriesOfJson, List.forall₂_nil_left_iff]
      exact ⟨fun h => (Except.ok.inj h).symm, fun h => h ▸ rfl⟩
  | cons item items ih =>
      rw [entriesOfJson, List.forall₂_cons_left_iff]
      constructor
      · intro h
        split at h
        · cases h
        · rename_i entry hentry
          split at h
          · cases h
          · rename_i more hmore
            cases h
            exact ⟨entry, more, entryOfJson_eq_ok_iff.1 hentry, ih.1 hmore, rfl⟩
      · rintro ⟨entry, more, hentry, hmore, rfl⟩
        rw [entryOfJson_eq_ok_iff.2 hentry, ih.2 hmore]

/-- Otherwise it gives the faults of the first item that has some. -/
theorem entriesOfJson_eq_error_iff {items : List Json} {issues : List Issue} :
    entriesOfJson items = .error issues ↔ ∃ good bad rest,
      items = good ++ bad :: rest ∧ (∀ item ∈ good, IsFit item) ∧ Refuses bad issues := by
  induction items with
  | nil =>
      rw [entriesOfJson]
      refine iff_of_false (by rintro ⟨⟩) ?_
      rintro ⟨good, bad, rest, hitems, -⟩
      cases good <;> cases hitems
  | cons item items ih =>
      rw [entriesOfJson]
      constructor
      · intro h
        split at h
        · rename_i found hfound
          cases h
          exact ⟨[], item, items, rfl, fun _ hmem => absurd hmem List.not_mem_nil,
            entryOfJson_eq_error_iff.1 hfound⟩
        · rename_i entry hentry
          split at h
          · rename_i found hmore
            cases h
            obtain ⟨good, bad, rest, rfl, hgood, hbad⟩ := ih.1 hmore
            have hitem : IsFit item := ⟨entry, entryOfJson_eq_ok_iff.1 hentry⟩
            exact ⟨item :: good, bad, rest, rfl, List.forall_mem_cons.2 ⟨hitem, hgood⟩, hbad⟩
          · cases h
      · rintro ⟨good, bad, rest, hitems, hgood, hbad⟩
        cases good with
        | nil =>
            cases hitems
            rw [entryOfJson_eq_error_iff.2 hbad]
        | cons first good =>
            cases hitems
            obtain ⟨⟨entry, hentry⟩, hmore⟩ := List.forall_mem_cons.1 hgood
            rw [entryOfJson_eq_ok_iff.2 hentry, ih.2 ⟨good, bad, rest, rfl, hmore, hbad⟩]

theorem exists_entriesOfJson_iff {items : List Json} :
    (∃ entries, entriesOfJson items = .ok entries) ↔ ∀ item ∈ items, IsFit item := by
  simp only [entriesOfJson_eq_ok_iff]
  induction items with
  | nil => exact iff_of_true ⟨[], .nil⟩ fun _ h => absurd h List.not_mem_nil
  | cons item items ih =>
      rw [List.forall_mem_cons, ← ih]
      constructor
      · rintro ⟨entries, h⟩
        cases h with
        | cons hentry hmore => exact ⟨⟨_, hentry⟩, _, hmore⟩
      · rintro ⟨⟨entry, hentry⟩, more, hmore⟩
        exact ⟨entry :: more, .cons hentry hmore⟩

end Catalog

end Iconsmith
