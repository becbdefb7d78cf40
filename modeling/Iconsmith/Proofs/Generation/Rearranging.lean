import Iconsmith.Proofs.Generation.Completion
import Mathlib.Data.List.TakeWhile

set_option autoImplicit false

/-!
# Order of the drawings

The drawings of an icon are read in the order in which they were loaded, and that depends on the
layout. Whether there is an icon, and what the module shows of it, depends on the drawings alone;
what is told is told in another order (`generateIcon_of_perm`). A drawing with names that cannot
be told is the exception: it stops the generation wherever it stands, and the drawings behind it
are not told (`not_forall_failures_perm`).
-/

namespace Iconsmith

/-! ## Modules of equal icons -/

namespace Elm

/-- Two icons of one entry with the same expression for each weight. -/
structure ShowSame (icon other : Generated) : Prop where
  entry : icon.entry = other.entry
  expressions : ∀ w, icon.expressions.get? w = other.expressions.get? w

theorem ShowSame.refl (icon : Generated) : ShowSame icon icon := ⟨rfl, fun _ => rfl⟩

variable {icon other : Generated}

theorem ShowSame.iconFunction?_eq (h : ShowSame icon other) (previews : Text) :
    iconFunction? previews icon = iconFunction? previews other := by
  have hbranches : branches? icon.expressions = branches? other.expressions := by
    funext weights
    simp only [branches?, h.expressions]
  rw [iconFunction?, iconFunction?, hbranches, h.entry]

theorem ShowSame.definitions?_eq (h : ShowSame icon other) (previews : Text) :
    definitions? previews icon = definitions? previews other := by
  rw [definitions?, definitions?, h.iconFunction?_eq, h.entry]

/-- Icons that show the same one by one make the same module. -/
theorem moduleText?_of_showSame {icons others : List Generated}
    (h : List.Forall₂ ShowSame icons others) (previews name : Text) :
    moduleText? previews icons name = moduleText? previews others name := by
  have hboth : icons.mapM (definitions? previews) = others.mapM (definitions? previews) ∧
      icons.flatMap Generated.exportedNames = others.flatMap Generated.exportedNames := by
    induction h with
    | nil => exact ⟨rfl, rfl⟩
    | cons hfirst _ ih =>
        obtain ⟨hdefinitions, hnames⟩ := ih
        constructor
        · rw [List.mapM_cons, List.mapM_cons, hfirst.definitions?_eq, hdefinitions]
        · rw [List.flatMap_cons, List.flatMap_cons, hnames, Generated.exportedNames,
            Generated.exportedNames, hfirst.entry]
  rw [moduleText?, moduleText?, hboth.1, hboth.2]

end Elm

namespace Generation

open Assets

/-! ## What is told of the drawings -/

/-- The drawings that are read before one stops the generation. -/
def readRows (rows : List (Weight × Text)) : List (Weight × Text) :=
  rows.takeWhile fun row => !decide (IsUntellable row.2)

theorem readRows_eq_self {rows : List (Weight × Text)} (h : ∀ row ∈ rows, ¬IsUntellable row.2) :
    readRows rows = rows := by
  rw [readRows, List.takeWhile_eq_self_iff]
  intro row hrow
  simpa using h row hrow

/-- Nothing is told of a drawing that stops the generation. -/
theorem events_readDrawing_of_isUntellable (name : Text) {row : Weight × Text}
    (h : IsUntellable row.2) : (readDrawing name row).events = [] := by
  rw [readDrawing, h]
  rfl

/-- Reading drawings tells what reading each of them tells, up to one that stops it. -/
theorem events_readDrawings (name : Text) (rows : List (Weight × Text)) :
    (readDrawings name rows).events =
      (readRows rows).flatMap fun row => (readDrawing name row).events := by
  induction rows with
  | nil => rfl
  | cons row rows ih =>
      rw [readDrawings, readRows, List.takeWhile_cons]
      cases hfirst : (readDrawing name row).result with
      | error fault =>
          obtain ⟨-, hbad⟩ := readDrawing_eq_error.1 hfirst
          rw [Outcome.events_bind_of_error _ hfirst, events_readDrawing_of_isUntellable name hbad]
          simp [hbad]
      | ok first =>
          have hgood : ¬IsUntellable row.2 := by
            intro hbad
            cases hfirst.symm.trans (readDrawing_eq_error.2 ⟨rfl, hbad⟩)
          have hrest : ∀ next : List (Weight × Text) → List (Weight × Text),
              (readDrawings name rows >>= fun others => (pure (next others) : Part _)).events =
                (readDrawings name rows).events := by
            intro next
            cases hothers : (readDrawings name rows).result with
            | error fault => exact Outcome.events_bind_of_error _ hothers
            | ok others =>
                rw [Outcome.events_bind_of_ok _ hothers]
                exact List.append_nil _
          rw [Outcome.events_bind_of_ok _ hfirst, hrest, ih, readRows]
          simp [hgood]

/-- The failures that are told of the drawings of an icon. -/
theorem failures_readDrawings_eq (name : Text) (rows : List (Weight × Text)) :
    failures (readDrawings name rows).events = (readRows rows).filterMap (failure? name) := by
  rw [events_readDrawings]
  induction readRows rows with
  | nil => rfl
  | cons row rows ih =>
      rw [List.flatMap_cons, failures_append, failures_readDrawing, ih, List.filterMap_cons]
      cases failure? name row <;> rfl

/-- An icon with a complete record tells of its drawings and of nothing else. -/
theorem events_generateIcon (entry : Entry) {record : Record} (h : absent record = []) :
    (generateIcon entry record).events = (readDrawings entry.camel record.rows).events := by
  rw [generateIcon, isComplete_keysOf_eq, if_pos (decide_eq_true h)]
  cases hread : (readDrawings entry.camel record.rows).result with
  | error fault => exact Outcome.events_bind_of_error _ hread
  | ok expressions =>
      rw [Outcome.events_bind_of_ok _ hread]
      refine (congrArg _ ?_).trans (List.append_nil _)
      split <;> rfl

/-! ## Records with the same drawings -/

section Rearranged

variable {record other : Record} (h : record.rows.Perm other.rows)

include h

theorem recordExpression?_of_perm : recordExpression? record = recordExpression? other := by
  funext w
  rw [recordExpression?, recordExpression?, Table.get?_eq_of_perm h]

theorem absent_of_perm : absent record = absent other := by
  simp only [absent, Table.get?_eq_of_perm h]

theorem isComplete_of_perm : isComplete (keysOf record) = isComplete (keysOf other) := by
  rw [isComplete_keysOf_eq, isComplete_keysOf_eq, absent_of_perm h]

/-- The generation stops in one order of the drawings if it stops in another. -/
theorem generateIcon_eq_error_iff_of_perm (entry : Entry) (fault : Drawing.Fault) :
    (generateIcon entry record).result = .error fault ↔
      (generateIcon entry other).result = .error fault := by
  rw [generateIcon_eq_error, generateIcon_eq_error, isComplete_of_perm h]
  simp only [h.mem_iff]

/-- There is an icon in one order of the drawings if there is one in another. -/
theorem exists_generateIcon_iff_of_perm (entry : Entry) :
    (∃ icon, (generateIcon entry record).result = .ok (some icon)) ↔
      ∃ icon, (generateIcon entry other).result = .ok (some icon) := by
  rw [exists_generateIcon_some_iff, exists_generateIcon_some_iff, recordExpression?_of_perm h]

theorem generateIcon_eq_none_iff_of_perm (entry : Entry) :
    (generateIcon entry record).result = .ok none ↔
      (generateIcon entry other).result = .ok none := by
  have hsome := exists_generateIcon_iff_of_perm h entry
  have herror := generateIcon_eq_error_iff_of_perm h entry
  cases hresult : (generateIcon entry record).result with
  | error fault => simp [(herror fault).1 hresult]
  | ok found =>
      cases hother : (generateIcon entry other).result with
      | error fault => cases hresult.symm.trans ((herror fault).2 hother)
      | ok found' =>
          rw [hresult, hother] at hsome
          cases found <;> cases found' <;> simp_all

/-- Whether there are expressions for an icon, and which, does not depend on the order. -/
theorem showSame_of_perm {entry : Entry} {icon icon' : Elm.Generated}
    (hicon : (generateIcon entry record).result = .ok (some icon))
    (hicon' : (generateIcon entry other).result = .ok (some icon')) : Elm.ShowSame icon icon' := by
  have hshows := (shows_of_generateIcon hicon).2 icon rfl
  have hshows' := (shows_of_generateIcon hicon').2 icon' rfl
  constructor
  · rw [hshows.entry, hshows'.entry]
  · intro w
    rw [hshows.expressions w, hshows'.expressions w, recordExpression?_of_perm h]

/-- A record that lacks weights is told in the same way in every order. -/
theorem generateIcon_eq_of_perm (entry : Entry) (hincomplete : absent record ≠ []) :
    generateIcon entry record = generateIcon entry other := by
  have hother : absent other ≠ [] := absent_of_perm h ▸ hincomplete
  rw [generateIcon, generateIcon, isComplete_keysOf_eq, isComplete_keysOf_eq,
    decide_eq_false hincomplete, decide_eq_false hother, missing_keysOf, missing_keysOf,
    absent_of_perm h]
  rfl

/-- When no drawing stops the generation, the same is told in some order. -/
theorem events_generateIcon_of_perm {entry : Entry} {found : Option Elm.Generated}
    (hfound : (generateIcon entry record).result = .ok found) :
    (generateIcon entry record).events.Perm (generateIcon entry other).events := by
  by_cases hcomplete : absent record = []
  · have htold := (exists_generateIcon_iff entry).1 ⟨found, hfound⟩ hcomplete
    have htold' : ∀ row ∈ other.rows, ¬IsUntellable row.2 := fun row hrow =>
      htold row (h.mem_iff.2 hrow)
    have hcomplete' : absent other = [] := absent_of_perm h ▸ hcomplete
    rw [events_generateIcon entry hcomplete, events_generateIcon entry hcomplete',
      events_readDrawings, events_readDrawings, readRows_eq_self htold, readRows_eq_self htold']
    exact h.flatMap_right _
  · rw [generateIcon_eq_of_perm h entry hcomplete]

end Rearranged

/-- Of two records with the same drawings in different orders, both have an icon, or neither has,
or both stop the generation for the same fault. The icons have the same function, so any module
with the one is that with the other. For missing weights the outcomes are the same. Otherwise what
is told is told in another order, as long as no drawing stops the generation; if one does, the
failures are those of the drawings before the first of this kind, in either order. -/
theorem generateIcon_of_perm (entry : Entry) {record other : Record}
    (h : record.rows.Perm other.rows) :
    ((∃ icon, (generateIcon entry record).result = .ok (some icon)) ↔
      ∃ icon, (generateIcon entry other).result = .ok (some icon)) ∧
    ((generateIcon entry record).result = .ok none ↔
      (generateIcon entry other).result = .ok none) ∧
    (∀ fault, (generateIcon entry record).result = .error fault ↔
      (generateIcon entry other).result = .error fault) ∧
    (∀ icon icon', (generateIcon entry record).result = .ok (some icon) →
      (generateIcon entry other).result = .ok (some icon') →
      ∀ previews, (Elm.iconFunction? previews icon).isSome ∧
        Elm.iconFunction? previews icon = Elm.iconFunction? previews icon' ∧
        ∀ before after name, Elm.moduleText? previews (before ++ icon :: after) name =
          Elm.moduleText? previews (before ++ icon' :: after) name) ∧
    (absent record ≠ [] → generateIcon entry record = generateIcon entry other) ∧
    (∀ found, (generateIcon entry record).result = .ok found →
      (generateIcon entry record).events.Perm (generateIcon entry other).events ∧
      (failures (generateIcon entry record).events).Perm
        (failures (generateIcon entry other).events)) ∧
    ∀ fault, (generateIcon entry record).result = .error fault →
      failures (generateIcon entry record).events =
        (readRows record.rows).filterMap (failure? entry.camel) ∧
      failures (generateIcon entry other).events =
        (readRows other.rows).filterMap (failure? entry.camel) := by
  refine ⟨exists_generateIcon_iff_of_perm h entry, generateIcon_eq_none_iff_of_perm h entry,
    generateIcon_eq_error_iff_of_perm h entry, ?_, generateIcon_eq_of_perm h entry, ?_, ?_⟩
  · intro icon icon' hicon hicon' previews
    have hsame := showSame_of_perm h hicon hicon'
    obtain ⟨hdrawn, hshows⟩ := shows_of_generateIcon hicon
    refine ⟨(isWhole_of_shows (hshows icon rfl) hdrawn.symm).function previews,
      hsame.iconFunction?_eq previews, fun before after name => ?_⟩
    have hrefl : ∀ icons, List.Forall₂ Elm.ShowSame icons icons := fun icons =>
      List.forall₂_same.2 fun icon _ => Elm.ShowSame.refl icon
    exact Elm.moduleText?_of_showSame
      (List.rel_append (hrefl before) (.cons hsame (hrefl after))) previews name
  · intro found hfound
    have hevents := events_generateIcon_of_perm h hfound
    exact ⟨hevents, (hevents.map Event.report).filter Report.Event.isFailure⟩
  · intro fault hfault
    -- Only a complete record has drawings that are read at all.
    obtain ⟨-, hcomplete, -⟩ := generateIcon_eq_error.1 hfault
    rw [isComplete_keysOf_eq, decide_eq_true_iff] at hcomplete
    have hcomplete' : absent other = [] := absent_of_perm h ▸ hcomplete
    rw [events_generateIcon entry hcomplete, events_generateIcon entry hcomplete']
    exact ⟨failures_readDrawings_eq _ _, failures_readDrawings_eq _ _⟩

/-! ## Records in the opposite order -/

/-- A record with its drawings in the opposite order. -/
def reversed (record : Record) : Record where
  rows := record.rows.reverse
  distinct := by
    rw [List.map_reverse, List.nodup_reverse]
    exact record.distinct

theorem perm_reversed (record : Record) : record.rows.Perm (reversed record).rows :=
  (List.reverse_perm record.rows).symm

/-- Two bad drawings are told in the order in which they are read. -/
theorem generateIcon_of_perm_reversed :
    (recordWith "<svg".toList "<a/>".toList).rows.Perm
      (reversed (recordWith "<svg".toList "<a/>".toList)).rows ∧
    (generateIcon plainEntry (reversed (recordWith "<svg".toList "<a/>".toList))).result =
      .ok none ∧
    failures (generateIcon plainEntry (reversed (recordWith "<svg".toList "<a/>".toList))).events =
      [.failure "a is malformed (fill)".toList "Root element was a".toList,
        .failure "a could not be parsed (thin)".toList "Error parsing SVG".toList] ∧
    (failures (generateIcon plainEntry (recordWith "<svg".toList "<a/>".toList)).events).Perm
      (failures
        (generateIcon plainEntry (reversed (recordWith "<svg".toList "<a/>".toList))).events) := by
  have hperm := perm_reversed (recordWith "<svg".toList "<a/>".toList)
  obtain ⟨-, hnone, -, -, -, htold, -⟩ := generateIcon_of_perm plainEntry hperm
  exact ⟨hperm, hnone.1 result_generateIcon_mixed, by decide +kernel,
    (htold _ result_generateIcon_mixed).2⟩

/-- It is not so that the same failures are told in every order: a drawing with names that cannot
be told keeps those behind it from being told. -/
theorem not_forall_failures_perm :
    ¬ ∀ (entry : Entry) (record other : Record), record.rows.Perm other.rows →
      (failures (generateIcon entry record).events).Perm
        (failures (generateIcon entry other).events) := by
  intro hall
  let record := recordWith "<a/>".toList "<svg><x:a/><g xmlns=\"u\"/></svg>".toList
  have hlength := (hall plainEntry record (reversed record) (perm_reversed record)).length_eq
  have hfirst : (failures (generateIcon plainEntry record).events).length = 1 := by
    decide +kernel
  have hsecond : (failures (generateIcon plainEntry (reversed record)).events).length = 0 := by
    decide +kernel
  rw [hfirst, hsecond] at hlength
  cases hlength

end Generation

end Iconsmith
