import Iconsmith.Proofs.Markup.Alike
import Mathlib.Data.List.Forall2

set_option autoImplicit false

/-!
# Faultless tags

A reading is faultless when no error has been complained about. In documents without a
document type of their own making, what a faultless tag leaves depends on its names and on the
namespaces it declares, and not on the other values (`Tag.read_alike`).
-/

namespace Iconsmith.Markup

/-! ## Complaints -/

namespace Complaints

theorem hasError_add (r : Complaints) (c : Complaint) :
    (r.add c).hasError = (r.hasError || decide (c.severity = .error)) := by
  rw [add]
  split
  · rw [hasError, hasError, List.any_cons, Bool.or_comm]
  · rename_i hfull
    cases hseverity : c.severity with
    | warning => simp
    | error =>
        rw [hseverity, count, limit] at hfull
        have hpos : 0 < r.latestFirst.countP fun c => c.severity = .error := by omega
        obtain ⟨d, hd, herror⟩ := List.countP_pos_iff.1 hpos
        have hold : r.hasError = true := List.any_eq_true.2 ⟨d, hd, herror⟩
        rw [hold]
        rfl

theorem hasError_addAll (r : Complaints) (cs : List Complaint) :
    (r.addAll cs).hasError = (r.hasError || cs.any fun c => c.severity = .error) := by
  induction cs generalizing r with
  | nil => simp
  | cons c cs ih => rw [addAll_cons, ih, hasError_add, List.any_cons, Bool.or_assoc]

end Complaints

/-- No error has been complained about. -/
def Account.IsFaultless (a : Account) : Prop := a.complaints.hasError = false

theorem Account.isFaultless_complainAll {a : Account} {cs : List Complaint} :
    (a.complainAll cs).IsFaultless ↔ a.IsFaultless ∧ ∀ c ∈ cs, c.severity ≠ .error := by
  rw [IsFaultless, complainAll, Complaints.hasError_addAll, Bool.or_eq_false_iff,
    List.any_eq_false]
  simp [IsFaultless]

theorem Account.isFaultless_complain {a : Account} {c : Complaint} :
    (a.complain c).IsFaultless ↔ a.IsFaultless ∧ c.severity ≠ .error := by
  have hall : (a.complainAll [c]).IsFaultless ↔ _ := isFaultless_complainAll
  rw [List.forall_mem_singleton] at hall
  exact hall

/-! ## Entities that nothing declares -/

section Undeclared

variable {s : Surroundings} {m : Bool}

theorem check_plain (hs : s.doctype = .plain m) (depth : Nat) (a : Account) (name : Text) :
    s.entities.check depth a name = if m then some (a.complain .warning) else none := by
  have hentities : s.entities = ⟨[], m⟩ := by rw [Surroundings.entities, hs]; rfl
  cases depth with
  | zero => rw [hentities, Entities.check]; rfl
  | succ depth => rw [hentities, Entities.check]; rfl

theorem foldlM_check_plain (hs : s.doctype = .plain m) (depth : Nat) (names : List Text)
    (a : Account) :
    names.foldlM (s.entities.check depth) a =
      if names = [] ∨ m = true then some (a.complainAll (names.map fun _ => .warning))
      else none := by
  induction names generalizing a with
  | nil => rfl
  | cons name names ih =>
      rw [List.foldlM_cons, check_plain hs]
      cases m with
      | false => rfl
      | true =>
          rw [if_pos rfl, if_pos (Or.inr rfl), Option.bind_eq_bind, Option.bind_some, ih,
            if_pos (Or.inr rfl)]
          rfl

theorem withText_plain (hs : s.doctype = .plain m) (names : List Text) :
    s.entities.withText names = [] := by
  rw [Entities.withText, List.filter_eq_nil_iff]
  intro name _
  rw [Surroundings.entities, hs]
  simp [Doctype.plain, Entities.text?]

theorem spacedExpansion_plain (hs : s.doctype = .plain m) (depth : Nat) (name : Text) :
    s.entities.spacedExpansion depth name = [] := by
  cases depth with
  | zero => rfl
  | succ depth =>
      have htext : s.entities.text? name = none := by
        rw [Surroundings.entities, hs]
        rfl
      rw [Entities.spacedExpansion, htext]
      rfl

/-- The entities that a value names are as good as their names in it. -/
theorem namespaceParts_plain {s' : Surroundings} {m' : Bool} (hs : s.doctype = .plain m)
    (hs' : s'.doctype = .plain m') (depth depth' : Nat) (value : List Part) :
    s'.entities.namespaceParts depth' value = s.entities.namespaceParts depth value := by
  rw [Entities.namespaceParts, Entities.namespaceParts]
  refine List.flatMap_congr fun part _ => ?_
  cases part with
  | char c => rfl
  | entity name =>
      simp only [spacedExpansion_plain hs, spacedExpansion_plain hs']

theorem settle_plain (hs : s.doctype = .plain m) (ends : LineEnds) (depth : Nat) (a : Account)
    (name : Text) : s.entities.settle ends depth a name = a := by
  cases depth with
  | zero => rfl
  | succ depth =>
      have htext : s.entities.text? name = none := by
        rw [Surroundings.entities, hs]
        rfl
      rw [Entities.settle, htext]

theorem rule?_plain (hs : s.doctype = .plain m) (element name : Text) :
    s.rule? element name = none := by
  rw [Surroundings.rule?, hs]
  rfl

theorem presets_plain (hs : s.doctype = .plain m) (element : Text) : s.presets element = [] := by
  rw [Surroundings.presets, hs]
  rfl

theorem foldl_settle_plain (hs : s.doctype = .plain m) (ends : LineEnds) (depth : Nat)
    (names : List Text) (a : Account) : names.foldl (s.entities.settle ends depth) a = a := by
  induction names with
  | nil => rfl
  | cons name names ih => rw [List.foldl_cons, settle_plain hs, ih]

theorem isIdentifying_plain (hs : s.doctype = .plain m) (element : Text) :
    isIdentifying s element = fun a => decide (a.raw = Doctype.Draft.identifierName) := by
  funext a
  simp [isIdentifying, rule?_plain hs]

end Undeclared

/-! ## Attributes in order -/

/-- Attributes of one name with alike values. -/
structure AttributeAlike (a a' : Attribute) : Prop where
  raw : a'.raw = a.raw
  name : a'.name = a.name
  value : PartsAlike a.value a'.value

/-- The second draft has come as far as the first, without fault. -/
structure DraftAlike (d d' : Draft) : Prop where
  bound : d'.bound = d.bound
  attributes : List.Forall₂ AttributeAlike d.attributes d'.attributes
  faultless : d'.account.IsFaultless
  spent : d'.account.spent = 0

section Drafts

variable {s s' : Surroundings} {m m' : Bool}

/-- Entities are taken when none is named, or they may be declared outside. -/
theorem Draft.takeEntities_eq_ok (hs : s.doctype = .plain m) {d e : Draft} {value : List Part}
    {left : Nat} (h : d.takeEntities s value left = .ok e) :
    (value.filterMap Part.entity? = [] ∨ m = true) ∧ e.bound = d.bound ∧
      e.attributes = d.attributes ∧ (e.account.IsFaultless → d.account.IsFaultless) := by
  rw [Draft.takeEntities] at h
  simp only [foldlM_check_plain hs] at h
  split at h
  · cases h
  · rename_i a ha
    split at ha
    · rename_i hnames
      cases ha
      split at h
      · cases h
        exact ⟨hnames, rfl, rfl, fun hfaultless =>
          (Account.isFaultless_complainAll.1 hfaultless).1⟩
      · cases h
    · cases ha

theorem Draft.takeEntities_of_plain (hs : s.doctype = .plain m) {d : Draft} {value : List Part}
    (left : Nat) (hnames : value.filterMap Part.entity? = [] ∨ m = true)
    (hspent : d.account.spent = 0) (hfaultless : d.account.IsFaultless) :
    ∃ e, d.takeEntities s value left = .ok e ∧ e.bound = d.bound ∧
      e.attributes = d.attributes ∧ e.account.IsFaultless ∧ e.account.spent = 0 := by
  rw [Draft.takeEntities]
  simp only [foldlM_check_plain hs, if_pos hnames, withText_plain hs]
  have hzero : ∀ a : Account, (a.spend (a.costOf [])).spent = a.spent := fun a => rfl
  have hcheap : ∀ a : Account, a.spent = 0 → ∀ read, a.isAffordable read = true := by
    intro a ha read
    simp [Account.isAffordable, ha]
  rw [if_pos]
  · refine ⟨_, rfl, rfl, rfl, ?_, hspent⟩
    refine Account.isFaultless_complainAll.2 ⟨hfaultless, ?_⟩
    intro c hc
    obtain ⟨_, -, rfl⟩ := List.mem_map.1 hc
    decide
  · rw [hcheap _ (by rw [hzero]; exact hspent), Bool.or_true]

/-- What is said about the declaration of a space, or of the default namespace. -/
def judge (space : Option Text) (uri : Text) (left : Nat) : List Complaint × Bool :=
  match space with
  | none => judgeDefault uri left
  | some space => judgeSpace space uri left

/-- Where a declaration stands does not matter when it is without fault. -/
theorem judge_faultless {space : Option Text} {uri : Text} {left : Nat}
    (h : ∀ c ∈ (judge space uri left).1, c.severity ≠ .error) (left' : Nat) :
    judge space uri left' = judge space uri left := by
  cases space with
  | none =>
      rw [judge, judgeDefault] at h
      rw [judge, judge, judgeDefault, judgeDefault]
      split_ifs at h ⊢ <;> simp_all
  | some space =>
      rw [judge, judgeSpace] at h
      rw [judge, judge, judgeSpace, judgeSpace]
      split_ifs at h ⊢ <;> simp_all

/-- The name of a namespace as a value gives it. -/
def uriOf (s : Surroundings) (words : Bool) (value : List Part) : Text :=
  let parts := s.entities.namespaceParts s.nesting value
  plainText (if words then asWords parts else parts)

theorem Draft.takeDeclaration_eq (s : Surroundings) (d : Draft) (space : Option Text)
    (words : Bool) (value : List Part) (left : Nat) :
    d.takeDeclaration s space words value left =
      let judged := judge space (uriOf s words value) left
      let complained : Draft := { d with account := d.account.complainAll judged.1 }
      if !judged.2 then .ok complained
      else if (d.bound.lookup space).isSome then complained.stop none
      else .ok { complained with bound := (space, uriOf s words value) :: d.bound } := by
  cases space with
  | none => rfl
  | some space => rfl

/-- A declaration of a namespace that is taken without fault is taken again. -/
theorem Draft.takeDeclaration_alike (hs : s.doctype = .plain m) (hs' : s'.doctype = .plain m')
    {d e : Draft} {space : Option Text} {words : Bool} {value : List Part} {left : Nat}
    (left' : Nat) (h : d.takeDeclaration s space words value left = .ok e)
    (he : e.account.IsFaultless) :
    d.account.IsFaultless ∧ ∀ d', DraftAlike d d' →
      ∃ e', d'.takeDeclaration s' space words value left' = .ok e' ∧ DraftAlike e e' := by
  have huri : uriOf s' words value = uriOf s words value := by
    rw [uriOf, uriOf, namespaceParts_plain hs hs' s.nesting s'.nesting value]
  rw [Draft.takeDeclaration_eq] at h
  simp only [Draft.takeDeclaration_eq, huri]
  generalize uriOf s words value = uri at h
  dsimp only at h
  have hgo : (d.account.complainAll (judge space uri left).1).IsFaultless →
      d.account.IsFaultless ∧ judge space uri left' = judge space uri left ∧
        ∀ d', DraftAlike d d' →
          (d'.account.complainAll (judge space uri left).1).IsFaultless := by
    intro hfaultless
    obtain ⟨hd, hjudge⟩ := Account.isFaultless_complainAll.1 hfaultless
    exact ⟨hd, judge_faultless hjudge left',
      fun d' halike => Account.isFaultless_complainAll.2 ⟨halike.faultless, hjudge⟩⟩
  split_ifs at h with hmade hbound
  · cases h
    obtain ⟨hd, hsame, hfaultless⟩ := hgo he
    refine ⟨hd, fun d' halike => ?_⟩
    rw [hsame, if_pos hmade]
    exact ⟨_, rfl, halike.bound, halike.attributes, hfaultless d' halike, halike.spent⟩
  · cases h
  · cases h
    obtain ⟨hd, hsame, hfaultless⟩ := hgo he
    refine ⟨hd, fun d' halike => ?_⟩
    rw [hsame, if_neg hmade, halike.bound, if_neg hbound]
    exact ⟨_, rfl, rfl, halike.attributes, hfaultless d' halike, halike.spent⟩

/-- The declarations of a tag hold no colour. -/
def IsPlainWritten (w : Written) : Prop :=
  (declared? (QName.ofRaw w.raw)).isSome → ¬HoldsColour w.value

/-- What a draft has before the entities of an attribute are taken. -/
def Draft.named (d : Draft) (raw : Text) : Draft :=
  if (QName.ofRaw? raw).isNone then { d with account := d.account.complain .error } else d

/-- What a draft has when the complaints about an attribute itself have been made. -/
def Draft.owned (d : Draft) (name : QName) (value : List Part) : Draft :=
  { d with account := d.account.complainAll (ownComplaints name value) }

theorem Draft.take_plain (hs : s.doctype = .plain m) (element : Text) (d : Draft) (w : Written) :
    Draft.take s element d w =
      (do
        let d₁ ← (d.named w.raw).takeEntities s w.value w.left
        let d₂ := d₁.owned (QName.ofRaw w.raw) w.value
        match declared? (QName.ofRaw w.raw) with
        | some space => d₂.takeDeclaration s space false w.value w.left
        | none =>
            return { d₂ with
              attributes := ⟨w.raw, QName.ofRaw w.raw, w.value⟩ :: d₂.attributes }) := by
  rw [Draft.take, rule?_plain hs]
  rfl

theorem Draft.isFaultless_of_named {d : Draft} {raw : Text}
    (h : (d.named raw).account.IsFaultless) :
    d.account.IsFaultless ∧ ∀ d' : Draft, d'.named raw = d' := by
  rw [named] at h
  split at h
  · exact absurd rfl (Account.isFaultless_complain.1 h).2
  · rename_i hraw
    exact ⟨h, fun d' => if_neg hraw⟩

theorem ownComplaints_ne_error (name : QName) (value : List Part) :
    ∀ c ∈ Draft.ownComplaints name value, c.severity ≠ .error := by
  intro c hc
  rw [Draft.ownComplaints] at hc
  split at hc
  · rw [List.mem_singleton.1 hc]
    decide
  · exact absurd hc List.not_mem_nil

/-- What comes before the last step in taking an attribute leaves alike drafts alike. -/
theorem Draft.takeEntities_alike (hs : s.doctype = .plain m) (hs' : s'.doctype = .plain m')
    (hm : m = true → m' = true) {d d₁ : Draft} {raw : Text} {value value' : List Part}
    {left : Nat} (left' : Nat) (hvalue : PartsAlike value value')
    (h : (d.named raw).takeEntities s value left = .ok d₁)
    (hfaultless : (d₁.owned (QName.ofRaw raw) value).account.IsFaultless) :
    d.account.IsFaultless ∧ ∀ d', DraftAlike d d' →
      ∃ d₁', (d'.named raw).takeEntities s' value' left' = .ok d₁' ∧
        DraftAlike (d₁.owned (QName.ofRaw raw) value) (d₁'.owned (QName.ofRaw raw) value') := by
  obtain ⟨hnames, hbound, hattributes, hback⟩ := Draft.takeEntities_eq_ok hs h
  obtain ⟨hd, hnamed⟩ :=
    Draft.isFaultless_of_named (hback (Account.isFaultless_complainAll.1 hfaultless).1)
  rw [hnamed] at hbound hattributes
  refine ⟨hd, fun d' halike => ?_⟩
  rw [hnamed]
  obtain ⟨d₁', hentities', hbound', hattributes', hfaultless', hspent'⟩ :=
    Draft.takeEntities_of_plain hs' left' (hvalue.entities.symm ▸ hnames.imp_right hm)
      halike.spent halike.faultless
  refine ⟨d₁', hentities', ?_, ?_, ?_, hspent'⟩
  · exact hbound'.trans (halike.bound.trans hbound.symm)
  · show List.Forall₂ AttributeAlike d₁.attributes d₁'.attributes
    rw [hattributes, hattributes']
    exact halike.attributes
  · exact Account.isFaultless_complainAll.2 ⟨hfaultless', ownComplaints_ne_error _ _⟩

/-- An attribute that is taken without fault is taken again with an alike value. -/
theorem Draft.take_alike (hs : s.doctype = .plain m) (hs' : s'.doctype = .plain m')
    (hm : m = true → m' = true) {element : Text} {d e : Draft} {w w' : Written}
    (hw : WrittenAlike w w') (hplain : IsPlainWritten w)
    (h : Draft.take s element d w = .ok e) (he : e.account.IsFaultless) :
    d.account.IsFaultless ∧ ∀ d', DraftAlike d d' →
      ∃ e', Draft.take s' element d' w' = .ok e' ∧ DraftAlike e e' := by
  obtain ⟨_, value, left⟩ := w
  obtain ⟨raw, value', left'⟩ := w'
  obtain ⟨rfl, hvalue⟩ := hw
  rw [Draft.take_plain hs] at h
  simp only [Draft.take_plain hs']
  obtain ⟨d₁, hentities, h⟩ := bind_eq_ok.1 h
  cases hdeclared : declared? (QName.ofRaw raw) with
  | none =>
      simp only [hdeclared] at h
      cases h
      obtain ⟨hd, hgo⟩ := Draft.takeEntities_alike hs hs' hm left' hvalue hentities he
      refine ⟨hd, fun d' halike => ?_⟩
      obtain ⟨d₁', hentities', hbound', hattributes', hfaultless', hspent'⟩ := hgo d' halike
      exact ⟨_, bind_eq_ok.2 ⟨d₁', hentities', rfl⟩, hbound',
        .cons ⟨rfl, rfl, hvalue⟩ hattributes', hfaultless', hspent'⟩
  | some space =>
      simp only [hdeclared] at h
      have hsame : value' = value := hvalue.same.resolve_right (hplain (by rw [hdeclared]; rfl))
      subst hsame
      obtain ⟨hfaultless, hlast⟩ := Draft.takeDeclaration_alike hs hs' left' h he
      obtain ⟨hd, hgo⟩ :=
        Draft.takeEntities_alike hs hs' hm left' hvalue hentities hfaultless
      refine ⟨hd, fun d' halike => ?_⟩
      obtain ⟨d₁', hentities', halike'⟩ := hgo d' halike
      obtain ⟨e', he', hfinal⟩ := hlast _ halike'
      exact ⟨e', bind_eq_ok.2 ⟨d₁', hentities', he'⟩, hfinal⟩

/-- Attributes that are taken one after another without fault are taken again with alike values. -/
theorem foldlM_take_alike (hs : s.doctype = .plain m) (hs' : s'.doctype = .plain m')
    (hm : m = true → m' = true) {element : Text} {ws ws' : List Written}
    (hws : List.Forall₂ WrittenAlike ws ws') (hplain : ∀ w ∈ ws, IsPlainWritten w) {d e : Draft}
    (h : ws.foldlM (Draft.take s element) d = .ok e) (he : e.account.IsFaultless) :
    d.account.IsFaultless ∧ ∀ d', DraftAlike d d' →
      ∃ e', ws'.foldlM (Draft.take s' element) d' = .ok e' ∧ DraftAlike e e' := by
  induction hws generalizing d with
  | nil =>
      cases h
      exact ⟨he, fun d' halike => ⟨d', rfl, halike⟩⟩
  | @cons w w' ws ws' hw hws ih =>
      rw [List.foldlM_cons] at h
      obtain ⟨d₁, hfirst, hrest⟩ := bind_eq_ok.1 h
      -- Faults stay, so that there is none in the end says that there was none in between.
      obtain ⟨hd₁, hlater⟩ := ih (fun w hw => hplain w (List.mem_cons_of_mem _ hw)) hrest
      obtain ⟨hd, hgo⟩ := Draft.take_alike hs hs' hm hw (hplain w List.mem_cons_self) hfirst hd₁
      refine ⟨hd, fun d' halike => ?_⟩
      obtain ⟨d₁', hfirst', halike'⟩ := hgo d' halike
      obtain ⟨e', hrest', hfinal⟩ := hlater d₁' halike'
      rw [List.foldlM_cons]
      exact ⟨e', bind_eq_ok.2 ⟨d₁', hfirst', hrest'⟩, hfinal⟩

/-- Attributes that are read without fault are read again with alike values. -/
theorem readAttributes_alike (hs : s.doctype = .plain m) (hs' : s'.doctype = .plain m')
    (hm : m = true → m' = true) {raw : Text} {ws ws' : List Written}
    (hws : List.Forall₂ WrittenAlike ws ws') (hplain : ∀ w ∈ ws, IsPlainWritten w)
    {account : Account} {e : Draft} (h : readAttributes s account raw ws = .ok e)
    (he : e.account.IsFaultless) :
    account.IsFaultless ∧ ∀ account', account'.IsFaultless → account'.spent = 0 →
      ∃ e', readAttributes s' account' raw ws' = .ok e' ∧ DraftAlike e e' := by
  simp only [readAttributes] at h ⊢
  by_cases hraw : (QName.ofRaw? raw).isNone = true
  · simp only [hraw, if_true] at h
    have hnamed := (foldlM_take_alike hs hs' hm hws hplain h he).1
    exact absurd rfl (Account.isFaultless_complain.1 hnamed).2
  · simp only [hraw] at h ⊢
    obtain ⟨haccount, hgo⟩ := foldlM_take_alike hs hs' hm hws hplain h he
    exact ⟨haccount, fun _ hfaultless hspent => hgo _ ⟨rfl, .nil, hfaultless, hspent⟩⟩

/-! ## Identifiers -/

theorem mapM_char?_eq_none {v : List Part} :
    v.mapM Part.char? = none ↔ v.filterMap Part.entity? ≠ [] := by
  induction v with
  | nil => simp
  | cons p v ih =>
      cases p with
      | char c =>
          rw [List.mapM_cons]
          have hentity : (Part.char c :: v).filterMap Part.entity? = v.filterMap Part.entity? := rfl
          rw [hentity, ← ih]
          simp only [Part.char?, Option.bind_eq_bind, Option.bind_some]
          cases v.mapM Part.char? <;> simp
      | entity name => simp [List.mapM_cons, Part.char?, Part.entity?]

theorem mem_of_mapM_char? {v : List Part} {t : Text} (h : v.mapM Part.char? = some t) {c : Char}
    (hc : Part.char c ∈ v) : c ∈ t := by
  induction v generalizing t with
  | nil => exact absurd hc List.not_mem_nil
  | cons p v ih =>
      rw [List.mapM_cons] at h
      obtain ⟨d, hd, h⟩ := Option.bind_eq_some_iff.1 h
      obtain ⟨s, hs, h⟩ := Option.bind_eq_some_iff.1 h
      cases h
      rcases List.mem_cons.1 hc with rfl | hc
      · cases hd
        exact List.mem_cons_self
      · exact List.mem_cons_of_mem d (ih hs hc)

/-- No colour stands in an identifier. -/
theorem not_mem_of_isIdentifier {id : Text} (h : isIdentifier id) : '#' ∉ id := by
  intro hmem
  rw [isIdentifier.eq_def] at h
  rw [← List.takeWhile_append_dropWhile (p := isGap) (l := id), List.mem_append] at hmem
  rcases hmem with hmem | hmem
  · exact absurd (List.mem_takeWhile_imp hmem) (by decide)
  · split at h
    · rename_i c rest heq
      rw [Bool.and_eq_true, List.all_eq_true] at h
      have hskip : id.dropWhile isGap = c :: rest := heq
      rw [hskip, ← List.takeWhile_append_dropWhile (p := isIdentifierChar) (l := rest),
        List.mem_cons, List.mem_append] at hmem
      rcases hmem with rfl | hmem | hmem
      · exact absurd h.1 (by decide)
      · exact absurd (List.mem_takeWhile_imp hmem) (by decide)
      · exact absurd (h.2 _ hmem) (by decide)
    · cases h

theorem takeIdentifier_of_none {a : Attribute} (left : Nat) (used : List Text × Complaints)
    (hid : a.value.mapM Part.char? = none) : takeIdentifier left used a = used := by
  rw [takeIdentifier, hid]

/-- What is told of the errors does not matter. -/
theorem takeIdentifier_of_some {a : Attribute} (left : Nat) (ids : List Text) (r : Complaints)
    {id : Text} (hid : a.value.mapM Part.char? = some id)
    (hname : a.raw = Doctype.Draft.identifierName) :
    ∃ malformed used,
      takeIdentifier left (ids, r) a =
        let complaints := if !isIdentifier id then r.add ⟨.error, malformed⟩ else r
        if id = [] || ids.contains id then (ids, complaints.add ⟨.error, used⟩)
        else (id :: ids, complaints) := by
  simp only [takeIdentifier, hid, hname, decide_true, Bool.true_and]
  exact ⟨_, _, rfl⟩

/-- An identifier that is taken without fault is one, and was not used before. -/
theorem takeIdentifier_faultless {a : Attribute} (left : Nat) {ids : List Text} {r : Complaints}
    {id : Text} (hid : a.value.mapM Part.char? = some id)
    (hname : a.raw = Doctype.Draft.identifierName) :
    (takeIdentifier left (ids, r) a).2.hasError = false ↔
      r.hasError = false ∧ isIdentifier id = true ∧ id ≠ [] ∧ id ∉ ids := by
  obtain ⟨malformed, used, heq⟩ := takeIdentifier_of_some left ids r hid hname
  rw [heq]
  cases hidentifier : isIdentifier id with
  | false =>
      simp only [Bool.not_false, if_true]
      split <;> simp [Complaints.hasError_add]
  | true =>
      simp only [Bool.not_true, Bool.false_eq_true, if_false]
      split
      · rename_i hused
        simp only [Bool.or_eq_true, decide_eq_true_eq, List.contains_iff_mem] at hused
        simp only [Complaints.hasError_add, decide_true, Bool.or_true, Bool.true_eq_false, true_and,
          false_iff, not_and]
        exact fun _ hne hmem => hused.elim hne hmem
      · rename_i hfresh
        simp only [Bool.or_eq_true, decide_eq_true_eq, List.contains_iff_mem, not_or] at hfresh
        exact ⟨fun hr => ⟨hr, trivial, hfresh.1, hfresh.2⟩, fun h => h.1⟩

theorem takeIdentifier_of_faultless {a : Attribute} (left : Nat) {ids : List Text}
    {r : Complaints} {id : Text} (hid : a.value.mapM Part.char? = some id)
    (hname : a.raw = Doctype.Draft.identifierName)
    (h : (takeIdentifier left (ids, r) a).2.hasError = false) :
    (takeIdentifier left (ids, r) a).1 = id :: ids := by
  obtain ⟨-, -, hne, hfresh⟩ := (takeIdentifier_faultless left hid hname).1 h
  obtain ⟨malformed, used, heq⟩ := takeIdentifier_of_some left ids r hid hname
  have hunused : ¬(decide (id = []) || ids.contains id) = true := by
    simp only [Bool.or_eq_true, decide_eq_true_eq, List.contains_iff_mem, not_or]
    exact ⟨hne, hfresh⟩
  rw [heq]
  simp only [if_neg hunused]

/-- An identifier that is taken without fault is taken again, and was not used before. -/
theorem takeIdentifier_alike {a a' : Attribute} (ha : AttributeAlike a a')
    (hname : a.raw = Doctype.Draft.identifierName) {left : Nat} (left' : Nat) {ids : List Text}
    {r : Complaints} (h : (takeIdentifier left (ids, r) a).2.hasError = false) :
    r.hasError = false ∧ ids ⊆ (takeIdentifier left (ids, r) a).1 ∧
      ∀ ids' r', ids' ⊆ ids → r'.hasError = false →
        (takeIdentifier left' (ids', r') a').2.hasError = false ∧
          (takeIdentifier left' (ids', r') a').1 ⊆ (takeIdentifier left (ids, r) a).1 := by
  have hname' : a'.raw = Doctype.Draft.identifierName := ha.raw.trans hname
  cases hid : a.value.mapM Part.char? with
  | none =>
      have hid' : a'.value.mapM Part.char? = none := by
        rw [mapM_char?_eq_none, ha.value.entities, ← mapM_char?_eq_none]
        exact hid
      rw [takeIdentifier_of_none left _ hid] at h ⊢
      refine ⟨h, List.Subset.refl _, fun ids' r' hids hr => ?_⟩
      rw [takeIdentifier_of_none left' _ hid']
      exact ⟨hr, hids⟩
  | some id =>
      obtain ⟨hr, hidentifier, hne, hfresh⟩ := (takeIdentifier_faultless left hid hname).1 h
      rw [takeIdentifier_of_faultless left hid hname h]
      have hsame : a'.value = a.value := by
        refine ha.value.same.resolve_right fun hcolour => ?_
        have hmem : Part.char '#' ∈ a.value := hcolour.subset List.mem_cons_self
        exact not_mem_of_isIdentifier hidentifier (mem_of_mapM_char? hid hmem)
      have hid' : a'.value.mapM Part.char? = some id := hsame.symm ▸ hid
      refine ⟨hr, List.subset_cons_self id ids, fun ids' r' hids hr' => ?_⟩
      have hfaultless : (takeIdentifier left' (ids', r') a').2.hasError = false :=
        (takeIdentifier_faultless left' hid' hname').2
          ⟨hr', hidentifier, hne, fun hmem => hfresh (hids hmem)⟩
      rw [takeIdentifier_of_faultless left' hid' hname' hfaultless]
      exact ⟨hfaultless, List.cons_subset_cons id hids⟩

/-- Identifiers that are taken without fault are taken again, and were not used before. -/
theorem foldl_takeIdentifier_alike {as as' : List Attribute}
    (has : List.Forall₂ AttributeAlike as as')
    (hnames : ∀ a ∈ as, a.raw = Doctype.Draft.identifierName) {left : Nat} (left' : Nat)
    {ids : List Text} {r : Complaints}
    (h : (as.foldl (takeIdentifier left) (ids, r)).2.hasError = false) :
    r.hasError = false ∧ ids ⊆ (as.foldl (takeIdentifier left) (ids, r)).1 ∧
      ∀ ids' r', ids' ⊆ ids → r'.hasError = false →
        (as'.foldl (takeIdentifier left') (ids', r')).2.hasError = false ∧
          (as'.foldl (takeIdentifier left') (ids', r')).1 ⊆
            (as.foldl (takeIdentifier left) (ids, r)).1 := by
  induction has generalizing ids r with
  | nil => exact ⟨h, List.Subset.refl _, fun ids' r' hids hr => ⟨hr, hids⟩⟩
  | @cons a a' as as' ha has ih =>
      rw [List.foldl_cons] at h
      simp only [List.foldl_cons]
      obtain ⟨hfirst, hgrown, hgo⟩ := ih (fun b hb => hnames b (List.mem_cons_of_mem a hb)) h
      obtain ⟨hr, hgrown₁, hgo₁⟩ :=
        takeIdentifier_alike ha (hnames a List.mem_cons_self) left' hfirst
      refine ⟨hr, List.Subset.trans hgrown₁ hgrown, fun ids' r' hids hr' => ?_⟩
      obtain ⟨hfirst', hids'⟩ := hgo₁ ids' r' hids hr'
      exact hgo _ _ hids' hfirst'

/-! ## Tags -/

/-- What becomes of the attributes of a tag when nothing is declared in the document type,
where `found` is what is said about its names. -/
def Draft.result (draft : Draft) (s : Surroundings) (scope : Scope) (ids : List Text)
    (raw : Text) (left : Nat) (found : List Complaint) : TagResult :=
  let inside := draft.bound ++ scope
  let attributes := draft.attributes.reverse
  let used := (attributes.filter fun a => a.raw = Doctype.Draft.identifierName).foldl
    (takeIdentifier left) (ids, draft.account.complaints.addAll found)
  let account : Account := ⟨draft.account.standings, draft.account.spent, used.2⟩
  let name := QName.ofRaw raw
  let namespace? := inside.elementNamespace? name.space
  let kept := keptName namespace? name raw
  let tellable := attributes.all fun a =>
    let expanded := a.name.expanded inside
    canTell expanded.space (keptName expanded.space a.name a.raw)
  ⟨⟨kept, attributeTable inside (s.entities.valueOf account Doctype.maxNesting) attributes,
    inside, tellable && canTell namespace? kept⟩, used.1, account⟩

theorem Tag.read_eq_ok (hs : s.doctype = .plain m) {scope : Scope} {ids : List Text}
    {account : Account} {raw : Text} {ws : List Written} {left : Nat} {r : TagResult} :
    Tag.read s scope ids account raw ws left = .ok r ↔
      ∃ draft found, readAttributes s account raw ws = .ok draft ∧
        nameComplaints? (draft.bound ++ scope) (QName.ofRaw raw)
          (draft.attributes.reverse.map Attribute.name) [] = some found ∧
            r = draft.result s scope ids raw left found := by
  simp only [Tag.read, presets_plain hs, isIdentifying_plain hs, foldl_settle_plain hs,
    List.map_nil, List.filterMap_nil, List.filter_nil, List.append_nil]
  constructor
  · intro h
    obtain ⟨draft, hdraft, h⟩ := bind_eq_ok.1 h
    split at h
    · cases h
    · rename_i found hfound
      cases h
      exact ⟨draft, found, hdraft, hfound, rfl⟩
  · rintro ⟨draft, found, hdraft, hfound, rfl⟩
    refine bind_eq_ok.2 ⟨draft, hdraft, ?_⟩
    rw [hfound]
    rfl

theorem map_name_alike {as as' : List Attribute} (h : List.Forall₂ AttributeAlike as as') :
    as'.map Attribute.name = as.map Attribute.name := by
  induction h with
  | nil => rfl
  | cons ha _ ih => rw [List.map_cons, List.map_cons, ha.name, ih]

/-- A question about names alone has one answer for alike attributes. -/
theorem all_alike {as as' : List Attribute} (h : List.Forall₂ AttributeAlike as as')
    (tell : Text → QName → Bool) :
    (as'.all fun a => tell a.raw a.name) = as.all fun a => tell a.raw a.name := by
  induction h with
  | nil => rfl
  | cons ha _ ih => rw [List.all_cons, List.all_cons, ha.raw, ha.name, ih]

/-- What is said about a tag is the same for drafts that are alike. -/
theorem Draft.result_alike {d d' : Draft} (h : DraftAlike d d') (s s' : Surroundings)
    (scope : Scope) (ids ids' : List Text) (raw : Text) (left left' : Nat)
    (found : List Complaint) :
    (d'.result s' scope ids' raw left' found).tag.name =
        (d.result s scope ids raw left found).tag.name ∧
      (d'.result s' scope ids' raw left' found).tag.scope =
          (d.result s scope ids raw left found).tag.scope ∧
        (d'.result s' scope ids' raw left' found).tag.isTellable =
          (d.result s scope ids raw left found).tag.isTellable := by
  simp only [Draft.result, h.bound, true_and]
  congr 1
  exact all_alike (List.rel_reverse h.attributes) fun raw name =>
    canTell (name.expanded (d.bound ++ scope)).space
      (keptName (name.expanded (d.bound ++ scope)).space name raw)

/-- A tag that is read without fault is read again with alike values. -/
theorem Tag.read_alike (hs : s.doctype = .plain m) (hs' : s'.doctype = .plain m')
    (hm : m = true → m' = true) {scope : Scope} {ids : List Text} {account : Account}
    {raw : Text} {ws ws' : List Written} {left : Nat} (left' : Nat) {r : TagResult}
    (hws : List.Forall₂ WrittenAlike ws ws') (hplain : ∀ w ∈ ws, IsPlainWritten w)
    (h : Tag.read s scope ids account raw ws left = .ok r) (hr : r.account.IsFaultless) :
    account.IsFaultless ∧ ids ⊆ r.ids ∧
      ∀ ids' account', ids' ⊆ ids → account'.IsFaultless → account'.spent = 0 →
        ∃ r', Tag.read s' scope ids' account' raw ws' left' = .ok r' ∧
          r'.tag.name = r.tag.name ∧ r'.tag.scope = r.tag.scope ∧
            r'.tag.isTellable = r.tag.isTellable ∧ r'.ids ⊆ r.ids ∧
              r'.account.IsFaultless ∧ r'.account.spent = 0 := by
  obtain ⟨draft, found, hdraft, hfound, rfl⟩ := (Tag.read_eq_ok hs).1 h
  have hids := fun as' has => @foldl_takeIdentifier_alike
    (draft.attributes.reverse.filter fun a => a.raw = Doctype.Draft.identifierName) as' has
    (fun a ha => by simpa using (List.mem_filter.1 ha).2) left left' _ _ hr
  obtain ⟨hnoted, hgrown, -⟩ := hids _ (List.forall₂_same.2 fun a _ => ⟨rfl, rfl, .refl a.value⟩)
  rw [Complaints.hasError_addAll, Bool.or_eq_false_iff] at hnoted
  obtain ⟨haccount, hagain⟩ := readAttributes_alike hs hs' hm hws hplain hdraft hnoted.1
  refine ⟨haccount, hgrown, fun ids' account' hids' hfaultless hspent => ?_⟩
  obtain ⟨draft', hdraft', halike⟩ := hagain account' hfaultless hspent
  have hattributes := List.rel_reverse halike.attributes
  have hfiltered := List.rel_filter (q := fun a => a.raw = Doctype.Draft.identifierName)
    (p := fun a => a.raw = Doctype.Draft.identifierName)
    (fun a a' ha => by simp only [AttributeAlike.raw ha]) hattributes
  obtain ⟨-, -, hgo⟩ := hids _ hfiltered
  obtain ⟨hfaultless', hids'⟩ := hgo ids' (draft'.account.complaints.addAll found) hids' (by
    rw [Complaints.hasError_addAll, Bool.or_eq_false_iff]
    exact ⟨halike.faultless, hnoted.2⟩)
  obtain ⟨hname, hscope, htellable⟩ :=
    Draft.result_alike halike s s' scope ids ids' raw left left' found
  refine ⟨draft'.result s' scope ids' raw left' found, (Tag.read_eq_ok hs').2
    ⟨draft', found, hdraft', ?_, rfl⟩, hname, hscope, htellable, hids', hfaultless',
    halike.spent⟩
  rw [halike.bound, map_name_alike hattributes, hfound]

end Drafts

end Iconsmith.Markup
