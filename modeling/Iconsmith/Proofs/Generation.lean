import Iconsmith.Elm.Demo
import Iconsmith.Generation
import Iconsmith.Proofs.Assets.Completeness
import Iconsmith.Proofs.Assets.Sources
import Mathlib.Data.List.Forall2

set_option autoImplicit false

/-!
# Which icons are generated

Of a catalog exactly those entries become icons for which every weight has a drawing that can
be read (`forall₂_generateEach`); each icon has the expressions of its drawings, whatever the
order in which they came. The others are counted as failures.
-/

namespace Iconsmith

open Assets

/-! ## Lines on the standard output -/

namespace Report

theorem textOn_append (stream : Stream) (colour : Bool) (threshold : Nat)
    (before after : List Event) :
    textOn stream colour threshold (before ++ after) =
      textOn stream colour threshold before ++ textOn stream colour threshold after := by
  simp [textOn]

/-- Events that tell nothing on the standard output: records and failures. -/
def Event.isAside : Event → Bool
  | .log _ | .failure _ _ => true
  | _ => false

theorem textOn_output_of_isAside (colour : Bool) (threshold : Nat) {events : List Event}
    (h : ∀ e ∈ events, e.isAside) : textOn .output colour threshold events = [] := by
  induction events with
  | nil => rfl
  | cons e events ih =>
      have hrest := ih fun other hother => h other (List.mem_cons_of_mem e hother)
      have haside := h e List.mem_cons_self
      have hfirst : textOn .output colour threshold [e] = [] := by
        simp only [textOn, List.flatMap_cons, List.flatMap_nil, List.append_nil]
        cases e with
        | log record =>
            simp only [Event.lines]
            split <;> rfl
        | failure message detail =>
            simp only [Event.lines]
            split <;> rfl
        | success message => cases haside
        | succeeded count => cases haside
        | failed count => cases haside
      have hsplit := textOn_append .output colour threshold [e] events
      rw [hfirst, hrest] at hsplit
      exact hsplit

end Report

namespace Generation

/-! ## One icon -/

/-- The expression for the drawing of an icon in a weight, if there is one that can be
read. -/
def expression? (icons : IconTable) (slug : Text) (weight : Weight) : Option Text :=
  (drawing? icons slug weight).bind fun drawing => (expressionOf drawing).toOption

/-- Whether every weight has an expression. -/
def isDrawn (expressions : Weight → Option Text) : Bool :=
  Weight.all.all fun w => (expressions w).isSome

theorem isDrawn_iff (expressions : Weight → Option Text) :
    isDrawn expressions ↔ ∀ w, (expressions w).isSome := by
  rw [isDrawn, List.all_eq_true]
  exact ⟨fun h w => h w (Weight.mem_all w), fun h w _ => h w⟩

/-- A drawing that does not stop the generation gives its expression, if it can be read. -/
theorem eq_of_readDrawing {name : Text} {row : Weight × Text} {found : Option (Weight × Text)}
    (h : (readDrawing name row).result = .ok found) :
    found = (expressionOf row.2).toOption.map fun expression => (row.1, expression) := by
  rw [readDrawing] at h
  rw [expressionOf]
  cases hread : Drawing.read (Drawing.clean row.2) with
  | ok root =>
      rw [hread] at h
      cases h
      rfl
  | error fault =>
      rw [hread] at h
      cases hevent : faultEvent? name row.1 fault with
      | some event =>
          simp only [hevent] at h
          cases h
          rfl
      | none =>
          simp only [hevent] at h
          cases h

/-- The drawings that can be read give their expressions in order. -/
theorem eq_of_readDrawings {name : Text} {rows found : List (Weight × Text)}
    (h : (readDrawings name rows).result = .ok found) :
    found = rows.filterMap fun row =>
      (expressionOf row.2).toOption.map fun expression => (row.1, expression) := by
  induction rows generalizing found with
  | nil =>
      cases h
      rfl
  | cons row rows ih =>
      obtain ⟨first, hfirst, hrest⟩ := Outcome.exists_of_bind_eq_ok h
      obtain ⟨others, hothers, hfound⟩ := Outcome.exists_of_bind_eq_ok hrest
      obtain rfl : first.toList ++ others = found := Except.ok.inj hfound
      rw [ih hothers, eq_of_readDrawing hfirst, List.filterMap_cons]
      cases (expressionOf row.2).toOption <;> rfl

/-- Rows whose values give something, with what they give. -/
def rowsWith {κ ν μ : Type} (f : ν → Option μ) (rows : List (κ × ν)) : List (κ × μ) :=
  rows.filterMap fun row => (f row.2).map fun value => (row.1, value)

theorem lookup_rowsWith {κ ν μ : Type} [DecidableEq κ] (f : ν → Option μ) {rows : List (κ × ν)}
    (hdistinct : (rows.map Prod.fst).Nodup) (k : κ) :
    (rowsWith f rows).lookup k = (rows.lookup k).bind f := by
  induction rows with
  | nil => rfl
  | cons row rows ih =>
      rw [List.map_cons, List.nodup_cons] at hdistinct
      have hrest := ih hdistinct.2
      rw [rowsWith] at hrest ⊢
      rw [List.lookup_cons]
      cases hvalue : f row.2 with
      | none =>
          rw [List.filterMap_cons_none (by rw [hvalue]; rfl), hrest]
          by_cases hk : k = row.1
          · -- The key of a row that gives nothing is that of no other row.
            have hnone : rows.lookup k = none := by
              rw [List.lookup_eq_none_iff]
              intro other hother
              have hne : k ≠ other.1 := fun heq =>
                hdistinct.1 (hk ▸ heq ▸ List.mem_map_of_mem hother)
              simpa using hne
            rw [hnone, hk, beq_self_eq_true]
            exact hvalue.symm
          · rw [beq_false_of_ne hk]
      | some value =>
          rw [List.filterMap_cons_some (by rw [hvalue]; rfl), List.lookup_cons]
          by_cases hk : k = row.1
          · rw [hk, beq_self_eq_true]
            exact hvalue.symm
          · rw [beq_false_of_ne hk]
            exact hrest

theorem nodup_keys_rowsWith {κ ν μ : Type} (f : ν → Option μ) {rows : List (κ × ν)}
    (hdistinct : (rows.map Prod.fst).Nodup) : ((rowsWith f rows).map Prod.fst).Nodup := by
  refine hdistinct.sublist ?_
  induction rows with
  | nil => exact List.Sublist.refl _
  | cons row rows ih =>
      have hrest := ih (List.nodup_cons.1 hdistinct).2
      rw [rowsWith] at hrest ⊢
      cases hvalue : f row.2 with
      | none =>
          rw [List.filterMap_cons_none (by rw [hvalue]; rfl)]
          exact hrest.cons _
      | some value =>
          rw [List.filterMap_cons_some (by rw [hvalue]; rfl)]
          exact hrest.cons_cons _

/-- The expression for the drawing of a record in a weight. -/
def recordExpression? (record : Record) (weight : Weight) : Option Text :=
  (record.get? weight).bind fun drawing => (expressionOf drawing).toOption

/-- An icon that was generated for an entry has some expressions. -/
structure Shows (icon : Elm.Generated) (entry : Entry) (expressions : Weight → Option Text) :
    Prop where
  entry : icon.entry = entry
  expressions : ∀ w, icon.expressions.get? w = expressions w

/-- An entry becomes an icon exactly if every weight has a drawing that can be read, and it
has the expressions of these. -/
theorem shows_of_generateIcon {entry : Entry} {record : Record} {found : Option Elm.Generated}
    (h : (generateIcon entry record).result = .ok found) :
    found.isSome = isDrawn (recordExpression? record) ∧
      ∀ icon, found = some icon → Shows icon entry (recordExpression? record) := by
  rw [generateIcon] at h
  by_cases hcomplete : isComplete (keysOf record) = true
  · rw [if_pos hcomplete] at h
    obtain ⟨expressions, hread, hrest⟩ := Outcome.exists_of_bind_eq_ok h
    have hrows : expressions = rowsWith (fun drawing => (expressionOf drawing).toOption)
        record.rows := eq_of_readDrawings hread
    have hdistinct : (expressions.map Prod.fst).Nodup := by
      rw [hrows]
      exact nodup_keys_rowsWith _ record.distinct
    have hget : ∀ w, (Table.ofList expressions).get? w = recordExpression? record w := by
      intro w
      rw [Table.get?, Table.rows_ofList hdistinct, hrows]
      exact lookup_rowsWith _ record.distinct w
    have hsize : record.size = Weight.all.length := by
      have hkeys := (length_eq_iff_forall_mem (show record.keys.Nodup from record.distinct)).2
        fun w => (Table.isSome_get?_iff record w).1 ((isComplete_keysOf record).1 hcomplete w)
      rw [← hkeys, Table.keys, List.length_map]
      rfl
    have hkeysLength : (expressions.map Prod.fst).length = expressions.length :=
      List.length_map Prod.fst
    have hdrawn : isDrawn (recordExpression? record) ↔ expressions.length = record.size := by
      rw [isDrawn_iff, hsize, ← hkeysLength, length_eq_iff_forall_mem hdistinct]
      simp only [← hget, Table.isSome_get?_iff, Table.keys, Table.rows_ofList hdistinct]
    by_cases hlength : expressions.length = record.size
    · rw [if_pos hlength] at hrest
      cases hrest
      refine ⟨(hdrawn.2 hlength).symm, fun icon hicon => ?_⟩
      cases hicon
      exact ⟨rfl, hget⟩
    · rw [if_neg hlength] at hrest
      cases hrest
      refine ⟨?_, fun icon hicon => by cases hicon⟩
      exact (Bool.eq_false_iff.2 fun h => hlength (hdrawn.1 h)).symm
  · rw [if_neg hcomplete] at h
    cases h
    refine ⟨?_, fun icon hicon => by cases hicon⟩
    refine (Bool.eq_false_iff.2 fun h => hcomplete ?_).symm
    rw [isComplete_keysOf]
    intro w
    have hw := (isDrawn_iff _).1 h w
    rw [recordExpression?] at hw
    exact Option.isSome_of_isSome_bind hw

/-! ## All icons -/

/-- An entry without a record has no drawings. -/
theorem recordExpression?_getD (icons : IconTable) (slug : Text) :
    recordExpression? ((icons.get? slug).getD Table.empty) = expression? icons slug := by
  funext w
  rw [recordExpression?, expression?, drawing?]
  cases icons.get? slug <;> rfl

theorem shows_of_generateIcon_getD {icons : IconTable} {entry : Entry}
    {found : Option Elm.Generated}
    (h : (generateIcon entry ((icons.get? entry.slug).getD Table.empty)).result = .ok found) :
    found.isSome = isDrawn (expression? icons entry.slug) ∧
      ∀ icon, found = some icon → Shows icon entry (expression? icons entry.slug) := by
  rw [← recordExpression?_getD]
  exact shows_of_generateIcon h

/-- The entries that become icons. -/
def drawnEntries (icons : IconTable) (entries : List Entry) : List Entry :=
  entries.filter fun e => isDrawn (expression? icons e.slug)

theorem drawnEntries_cons (icons : IconTable) (entry : Entry) (entries : List Entry) :
    drawnEntries icons (entry :: entries) =
      if isDrawn (expression? icons entry.slug) then entry :: drawnEntries icons entries
      else drawnEntries icons entries :=
  List.filter_cons

/-- A batch before which one more entry has been processed, with its icon if it has one. -/
def Batch.cons (found : Option Elm.Generated) (b : Batch) : Batch :=
  match found with
  | some icon => ⟨icon :: b.icons, b.passes + 1, b.failures⟩
  | none => ⟨b.icons, b.passes, b.failures + 1⟩

/-- What is told after an icon has been generated. -/
def doneEvents (found : Option Elm.Generated) (entry : Entry) : List Event :=
  if found.isSome then [.done entry.camel] else []

/-- When a first entry and then all others have been processed, their batch is put together. -/
theorem exists_of_generateEach_cons {icons : IconTable} {entry : Entry} {entries : List Entry}
    {batch : Batch} (h : (generateEach icons (entry :: entries)).result = .ok batch) :
    ∃ found others,
      (generateIcon entry ((icons.get? entry.slug).getD Table.empty)).result = .ok found ∧
      (generateEach icons entries).result = .ok others ∧ batch = others.cons found ∧
      (generateEach icons (entry :: entries)).events =
        (generateIcon entry ((icons.get? entry.slug).getD Table.empty)).events ++
          doneEvents found entry ++ (generateEach icons entries).events := by
  obtain ⟨found, hfound, hrest⟩ := Outcome.exists_of_bind_eq_ok h
  rw [generateEach, Outcome.events_bind_of_ok _ hfound]
  simp only [List.append_assoc]
  cases found with
  | none =>
      obtain ⟨others, hothers, hbatch⟩ := Outcome.exists_of_bind_eq_ok hrest
      refine ⟨none, others, hfound, hothers, (Except.ok.inj hbatch).symm, congrArg _ ?_⟩
      rw [Outcome.events_bind_of_ok _ hothers]
      exact List.append_nil _
  | some icon =>
      obtain ⟨done, hdone, hafter⟩ := Outcome.exists_of_bind_eq_ok hrest
      obtain ⟨others, hothers, hbatch⟩ := Outcome.exists_of_bind_eq_ok hafter
      refine ⟨some icon, others, hfound, hothers, (Except.ok.inj hbatch).symm, congrArg _ ?_⟩
      rw [Outcome.events_bind_of_ok _ hdone, Outcome.events_bind_of_ok _ hothers]
      exact congrArg _ (List.append_nil _)

/-- The icons that are generated are those of the entries that have all drawings, in the order
of the catalog, and the failures are the others. -/
theorem forall₂_generateEach {icons : IconTable} {entries : List Entry} {batch : Batch}
    (h : (generateEach icons entries).result = .ok batch) :
    List.Forall₂ (fun icon e => Shows icon e (expression? icons e.slug)) batch.icons
        (drawnEntries icons entries) ∧
      batch.icons.length + batch.failures = entries.length := by
  induction entries generalizing batch with
  | nil =>
      cases h
      exact ⟨.nil, rfl⟩
  | cons entry entries ih =>
      obtain ⟨found, others, hfound, hothers, rfl, -⟩ := exists_of_generateEach_cons h
      obtain ⟨hsome, hshows⟩ := shows_of_generateIcon_getD hfound
      obtain ⟨hicons, hcount⟩ := ih hothers
      rw [drawnEntries_cons, ← hsome]
      cases found with
      | none =>
          refine ⟨hicons, ?_⟩
          show others.icons.length + (others.failures + 1) = entries.length + 1
          omega
      | some icon =>
          refine ⟨.cons (hshows icon rfl) hicons, ?_⟩
          show others.icons.length + 1 + others.failures = entries.length + 1
          omega

/-- As many entries pass as there are icons. -/
theorem passes_of_generateEach {icons : IconTable} {entries : List Entry} {batch : Batch}
    (h : (generateEach icons entries).result = .ok batch) : batch.passes = batch.icons.length := by
  induction entries generalizing batch with
  | nil =>
      cases h
      rfl
  | cons entry entries ih =>
      obtain ⟨found, others, -, hothers, rfl, -⟩ := exists_of_generateEach_cons h
      have hsame := ih hothers
      cases found with
      | none => exact hsame
      | some icon => exact congrArg (· + 1) hsame

/-! ## What is assembled -/

/-- The function of an entry with the expressions of its drawings, and that of its alias. -/
def definition (previews : Text) (expressions : Weight → Option Text) (entry : Entry) : Text :=
  Elm.iconFunction previews entry
      (Weight.all.map fun w => Elm.branch w ((expressions w).getD [])) ++
    (Elm.aliasFunction? previews entry).getD []

/-- The module of some entries with the expressions of their drawings. -/
def assembled (previews name : Text) (expressions : Text → Weight → Option Text)
    (entries : List Entry) : Text :=
  Elm.header (entries.flatMap Entry.exportedNames) name ++ Elm.named name Elm.support ++
    entries.flatMap fun e => definition previews (expressions e.slug) e

theorem mapM_some_of_forall₂ {α β γ : Type} {f : α → Option γ} {g : β → γ} {as : List α}
    {bs : List β} (h : List.Forall₂ (fun a b => f a = some (g b)) as bs) :
    as.mapM f = some (bs.map g) := by
  induction h with
  | nil => rfl
  | cons hfirst _ ih =>
      rw [List.mapM_cons, hfirst, ih]
      rfl

/-- The branches of an icon show all its expressions. -/
theorem branches?_of_shows {icon : Elm.Generated} {entry : Entry}
    {expressions : Weight → Option Text} (h : Shows icon entry expressions)
    (hdrawn : isDrawn expressions) :
    Elm.branches? icon.expressions Weight.all =
      some (Weight.all.map fun w => Elm.branch w ((expressions w).getD [])) := by
  rw [Elm.branches?]
  refine mapM_some_of_forall₂ (List.forall₂_same.2 fun w _ => ?_)
  obtain ⟨expression, hexpression⟩ := Option.isSome_iff_exists.1 ((isDrawn_iff _).1 hdrawn w)
  rw [h.expressions w, hexpression]
  rfl

theorem definitions?_of_shows {previews : Text} {icon : Elm.Generated} {entry : Entry}
    {expressions : Weight → Option Text} (h : Shows icon entry expressions)
    (hdrawn : isDrawn expressions) :
    Elm.definitions? previews icon = some (definition previews expressions entry) := by
  rw [Elm.definitions?, Elm.iconFunction?, branches?_of_shows h hdrawn, h.entry]
  rfl

/-- The icons that show some entries export the names of these. -/
theorem exportedNames_of_shows {expressions : Text → Weight → Option Text}
    {icons : List Elm.Generated} {entries : List Entry}
    (h : List.Forall₂ (fun icon e => Shows icon e (expressions e.slug)) icons entries) :
    icons.flatMap Elm.Generated.exportedNames = entries.flatMap Entry.exportedNames ∧
      icons.map (fun icon => icon.entry.camel) = entries.map Entry.camel := by
  induction h with
  | nil => exact ⟨rfl, rfl⟩
  | cons hfirst _ ih =>
      obtain ⟨hexported, hnames⟩ := ih
      constructor
      · rw [List.flatMap_cons, List.flatMap_cons, hexported, Elm.Generated.exportedNames,
          hfirst.entry]
      · rw [List.map_cons, List.map_cons, hnames, hfirst.entry]

/-- The module of the icons that show some entries is assembled from these. -/
theorem moduleText?_of_shows (previews name : Text) {expressions : Text → Weight → Option Text}
    {icons : List Elm.Generated} {entries : List Entry}
    (h : List.Forall₂ (fun icon e => Shows icon e (expressions e.slug)) icons entries)
    (hdrawn : ∀ e ∈ entries, isDrawn (expressions e.slug)) :
    Elm.moduleText? previews icons name = some (assembled previews name expressions entries) := by
  have hdefinitions : icons.mapM (Elm.definitions? previews) =
      some (entries.map fun e => definition previews (expressions e.slug) e) := by
    refine mapM_some_of_forall₂ ?_
    have hboth := (List.forall₂_and_left entries icons).2 ⟨hdrawn, h.flip⟩
    exact hboth.flip.imp fun icon e hshows => definitions?_of_shows hshows.2 hshows.1
  rw [Elm.moduleText?, hdefinitions, (exportedNames_of_shows h).1, Option.map_some, assembled,
    List.flatten_eq_flatMap, List.flatMap_map]
  rfl

/-! ## What is printed -/

/-- Events that are reported with nothing on the standard output. -/
def AreAside (events : List Event) : Prop := ∀ e ∈ events, e.report.isAside

theorem areAside_bind {α β : Type} {x : Part α} {f : α → Part β} (hx : AreAside x.events)
    (hf : ∀ a, AreAside (f a).events) : AreAside (x >>= f).events := by
  cases hresult : x.result with
  | ok a =>
      rw [Outcome.events_bind_of_ok f hresult]
      intro e he
      rcases List.mem_append.1 he with he | he
      · exact hx e he
      · exact hf a e he
  | error fault =>
      rw [Outcome.events_bind_of_error f hresult]
      exact hx

theorem areAside_readDrawing (name : Text) (row : Weight × Text) :
    AreAside (readDrawing name row).events := by
  rw [readDrawing]
  split
  · intro e he
    rw [List.mem_singleton] at he
    subst he
    rfl
  · rename_i fault hread
    split
    · rename_i event hevent
      intro e he
      rw [List.mem_singleton] at he
      subst he
      cases fault with
      | otherRoot other =>
          rw [faultEvent?] at hevent
          obtain ⟨message, -, rfl⟩ := Option.map_eq_some_iff.1 hevent
          rfl
      | unreadable other =>
          rw [faultEvent?] at hevent
          obtain ⟨message, -, rfl⟩ := Option.map_eq_some_iff.1 hevent
          rfl
    · exact fun e he => by cases he

theorem areAside_readDrawings (name : Text) (rows : List (Weight × Text)) :
    AreAside (readDrawings name rows).events := by
  induction rows with
  | nil => exact fun e he => by cases he
  | cons row rows ih =>
      refine areAside_bind (areAside_readDrawing name row) fun first => ?_
      exact areAside_bind ih fun others e he => by cases he

/-- While one icon is generated, nothing is printed on the standard output. -/
theorem areAside_generateIcon (entry : Entry) (record : Record) :
    AreAside (generateIcon entry record).events := by
  rw [generateIcon]
  split
  · refine areAside_bind (areAside_readDrawings entry.camel record.rows) fun expressions => ?_
    split <;> exact fun e he => by cases he
  · intro e he
    rw [List.mem_singleton] at he
    subst he
    rfl

/-- What events leave on the standard output. -/
def printed (colour : Bool) (threshold : Nat) (events : List Event) : Text :=
  Report.textOn .output colour threshold (events.map Event.report)

theorem printed_append (colour : Bool) (threshold : Nat) (before after : List Event) :
    printed colour threshold (before ++ after) =
      printed colour threshold before ++ printed colour threshold after := by
  rw [printed, List.map_append, Report.textOn_append]
  rfl

theorem printed_of_areAside (colour : Bool) (threshold : Nat) {events : List Event}
    (h : AreAside events) : printed colour threshold events = [] := by
  refine Report.textOn_output_of_isAside colour threshold fun e he => ?_
  obtain ⟨event, hevent, rfl⟩ := List.mem_map.1 he
  exact h event hevent

/-- The line that tells that the icon of an entry is done. -/
def doneLine (colour : Bool) (entry : Entry) : Text :=
  Report.painted colour .green ['✓'] ++ ' ' :: ("DONE ".toList ++ entry.camel) ++ ['\n']

/-- On the standard output a line is printed for every icon, in the order of the catalog. -/
theorem printed_generateEach (colour : Bool) (threshold : Nat) {icons : IconTable}
    {entries : List Entry} {batch : Batch}
    (h : (generateEach icons entries).result = .ok batch) :
    printed colour threshold (generateEach icons entries).events =
      (drawnEntries icons entries).flatMap (doneLine colour) := by
  induction entries generalizing batch with
  | nil => rfl
  | cons entry entries ih =>
      obtain ⟨found, others, hfound, hothers, -, hevents⟩ := exists_of_generateEach_cons h
      obtain ⟨hsome, -⟩ := shows_of_generateIcon_getD hfound
      have haside := printed_of_areAside colour threshold
        (areAside_generateIcon entry ((icons.get? entry.slug).getD Table.empty))
      rw [hevents, printed_append, printed_append, haside, List.nil_append, ih hothers,
        drawnEntries_cons, ← hsome]
      cases found with
      | none => rfl
      | some icon =>
          refine congrArg (· ++ _) ?_
          simp [doneEvents, printed, Report.textOn, Event.report, Report.Event.lines, doneLine]

end Generation

end Iconsmith
