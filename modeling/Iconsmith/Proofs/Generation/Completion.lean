import Iconsmith.Proofs.Confinement

set_option autoImplicit false

/-!
# Icons are generated whole

The drawings of an icon are read one after another, and one that cannot be read does not keep
the others from being read. Whether there is an icon is decided at the end by counting. So an
icon has all its weights or there is none, and then each failure has been told once, in the order
of the record (`generateIcon_cases`). It is otherwise where a drawing of a complete record has
names that cannot be told: there is no icon and no word about it (`not_forall_generateIcon`).
-/

namespace Iconsmith

/-! ## Reported failures -/

/-- Events that tell of a failure. -/
def Report.Event.isFailure : Report.Event → Bool
  | .failure _ _ => true
  | _ => false

namespace Generation

open Assets

/-- The failures among some events, as they are reported. -/
def failures (events : List Event) : List Report.Event :=
  (events.map Event.report).filter Report.Event.isFailure

theorem failures_append (before after : List Event) :
    failures (before ++ after) = failures before ++ failures after := by
  rw [failures, List.map_append, List.filter_append]
  rfl

/-- Of one event the standard error shows what fails, when records of debugging are not shown. -/
theorem textOn_error_report (colour : Bool) {threshold : Nat}
    (hthreshold : Log.Level.debug.number < threshold) (e : Event) :
    Report.textOn .error colour threshold [e.report] =
      Report.textOn .error colour threshold (failures [e]) := by
  cases e with
  | parsed children =>
      have hhidden : ∀ message, Log.Record.shownAt threshold
          ⟨.debug, .drawing, message⟩ = false := fun message =>
        decide_eq_false (Nat.not_le_of_lt hthreshold)
      simp [Report.textOn, failures, Event.report, Report.Event.lines, Report.Event.isFailure,
        hhidden]
  | incomplete name missing => rfl
  | malformed name weight message => rfl
  | unreadable name weight message => rfl
  | done name =>
      simp [Report.textOn, failures, Event.report, Report.Event.lines, Report.Event.isFailure]

/-- On the standard error there is nothing but failures when records of debugging are not
shown. -/
theorem textOn_error_eq (colour : Bool) {threshold : Nat}
    (hthreshold : Log.Level.debug.number < threshold) (events : List Event) :
    Report.textOn .error colour threshold (events.map Event.report) =
      Report.textOn .error colour threshold (failures events) := by
  induction events with
  | nil => rfl
  | cons e events ih =>
      have hevent := textOn_error_report colour hthreshold e
      have hfirst := Report.textOn_append .error colour threshold [e.report]
        (events.map Event.report)
      have hrest := Report.textOn_append .error colour threshold (failures [e]) (failures events)
      rw [← failures_append] at hrest
      exact hfirst.trans ((congrArg₂ (· ++ ·) hevent ih).trans hrest.symm)

/-! ## One drawing -/

/-- A drawing that can be read once it has been cleaned. -/
def IsReadable (drawing : Text) : Prop :=
  ∃ root, Drawing.read (Drawing.clean drawing) = .ok root

/-- What is reported of the drawing of an icon in a weight that cannot be read. -/
def failure? (name : Text) (row : Weight × Text) : Option Report.Event :=
  match Drawing.read (Drawing.clean row.2) with
  | .ok _ => none
  | .error (.otherRoot root) =>
      some (.failure (name ++ " is malformed (".toList ++ row.1.name ++ [')'])
        ("Root element was ".toList ++ root))
  | .error (.unreadable fault) =>
      (Drawing.Fault.unreadable fault).message?.map
        (.failure (name ++ " could not be parsed (".toList ++ row.1.name ++ [')']))

theorem failure?_eq_none_iff {name : Text} {row : Weight × Text} :
    failure? name row = none ↔ IsReadable row.2 ∨ IsUntellable row.2 := by
  rw [failure?, IsReadable, IsUntellable]
  cases Drawing.read (Drawing.clean row.2) with
  | ok root => simp
  | error fault =>
      cases fault with
      | otherRoot root => simp
      | unreadable reason => cases reason <;> simp [Drawing.Fault.message?]

theorem failures_readDrawing (name : Text) (row : Weight × Text) :
    failures (readDrawing name row).events = (failure? name row).toList := by
  rw [readDrawing, failure?]
  cases Drawing.read (Drawing.clean row.2) with
  | ok root => rfl
  | error fault =>
      cases fault with
      | otherRoot root => rfl
      | unreadable reason => cases reason <;> rfl

/-! ## The drawings of a record -/

/-- Each drawing that cannot be read is told once, in order. -/
theorem failures_readDrawings {name : Text} {rows found : List (Weight × Text)}
    (h : (readDrawings name rows).result = .ok found) :
    failures (readDrawings name rows).events = rows.filterMap (failure? name) := by
  induction rows generalizing found with
  | nil => rfl
  | cons row rows ih =>
      obtain ⟨first, hfirst, hrest⟩ := Outcome.exists_of_bind_eq_ok h
      obtain ⟨others, hothers, -⟩ := Outcome.exists_of_bind_eq_ok hrest
      rw [readDrawings, Outcome.events_bind_of_ok _ hfirst, Outcome.events_bind_of_ok _ hothers,
        failures_append, failures_append, failures_readDrawing, ih hothers, List.filterMap_cons]
      cases failure? name row <;> simp [failures, pure, Outcome.of]

/-- The weights that a record lacks, in canonical order. -/
def absent (record : Record) : List Weight :=
  Weight.all.filter fun w => (record.get? w).isNone

theorem absent_eq_nil_iff {record : Record} :
    absent record = [] ↔ ∀ w, (record.get? w).isSome := by
  rw [absent, List.filter_eq_nil_iff]
  constructor
  · intro h w
    have hw := h w (Weight.mem_all w)
    rwa [Bool.not_eq_true, Option.isNone_eq_false_iff] at hw
  · intro h w _
    rw [Bool.not_eq_true, Option.isNone_eq_false_iff]
    exact h w

/-- The weights that are told to be missing are those that the record lacks. -/
theorem missing_keysOf (record : Record) : missing (keysOf record) = absent record := by
  refine List.filter_congr fun w _ => ?_
  have hkeys : (keysOf record).filterMap WeightKey.weight? = record.keys := by
    rw [keysOf, List.filterMap_map]
    exact List.filterMap_some
  rw [hkeys, List.contains_eq_mem, decide_eq_decide.2 (Table.isSome_get?_iff record w).symm,
    Bool.decide_coe, Option.not_isSome]

theorem isComplete_keysOf_eq (record : Record) :
    isComplete (keysOf record) = decide (absent record = []) :=
  Bool.eq_iff_iff.2
    ((isComplete_keysOf record).trans (absent_eq_nil_iff.symm.trans decide_eq_true_iff.symm))

/-! ## One icon -/

/-- What is told of an icon for which no drawing stops the generation: its missing weights or,
when it has all, the drawings that cannot be read. -/
theorem failures_generateIcon {entry : Entry} {record : Record} {found : Option Elm.Generated}
    (h : (generateIcon entry record).result = .ok found) :
    failures (generateIcon entry record).events =
      if absent record = [] then record.rows.filterMap (failure? entry.camel)
      else [.failure (entry.camel ++ " is missing weights".toList)
        (Text.joined [',', ' '] ((absent record).map Weight.name))] := by
  rw [generateIcon] at h ⊢
  rw [isComplete_keysOf_eq] at h ⊢
  by_cases hcomplete : absent record = []
  · rw [decide_eq_true hcomplete, if_pos rfl] at h ⊢
    obtain ⟨expressions, hread, hrest⟩ := Outcome.exists_of_bind_eq_ok h
    rw [if_pos hcomplete, ← failures_readDrawings hread, Outcome.events_bind_of_ok _ hread]
    refine (congrArg failures ?_).trans (congrArg failures (List.append_nil _))
    refine congrArg _ ?_
    split <;> rfl
  · rw [decide_eq_false hcomplete, if_neg (by simp), if_neg hcomplete, missing_keysOf]
    rfl

theorem isSome_expressionOf_iff {drawing : Text} :
    ((expressionOf drawing).toOption).isSome ↔ IsReadable drawing := by
  rw [expressionOf, IsReadable]
  cases Drawing.read (Drawing.clean drawing) with
  | ok root => exact iff_of_true rfl ⟨root, rfl⟩
  | error fault => exact iff_of_false Bool.false_ne_true (by rintro ⟨root, hroot⟩; cases hroot)

/-- A record shows an icon in all weights when each weight has a drawing that can be read. -/
theorem isDrawn_recordExpression?_iff {record : Record} : isDrawn (recordExpression? record) ↔
    ∀ w, ∃ drawing, record.get? w = some drawing ∧ IsReadable drawing := by
  rw [isDrawn_iff]
  refine forall_congr' fun w => ?_
  rw [recordExpression?]
  cases record.get? w with
  | none => simp
  | some drawing => simpa using isSome_expressionOf_iff

/-- An icon has exactly the six weights of its record, and for each the expression for the
drawing of that weight. -/
structure IsWhole (icon : Elm.Generated) (entry : Entry) (record : Record) : Prop where
  entry : icon.entry = entry
  weights : icon.expressions.keys.Perm Weight.all
  expressions : ∀ w drawing root, record.get? w = some drawing →
    Drawing.read (Drawing.clean drawing) = .ok root →
      icon.expressions.get? w = some (Elm.element root)
  function : ∀ previews, (Elm.iconFunction? previews icon).isSome

theorem isWhole_of_shows {icon : Elm.Generated} {entry : Entry} {record : Record}
    (h : Shows icon entry (recordExpression? record))
    (hdrawn : isDrawn (recordExpression? record)) :
    IsWhole icon entry record where
  entry := h.entry
  weights := by
    refine (List.perm_ext_iff_of_nodup icon.expressions.distinct (by decide)).2 fun w => ?_
    refine iff_of_true ((Table.isSome_get?_iff icon.expressions w).1 ?_) (Weight.mem_all w)
    rw [h.expressions w]
    exact (isDrawn_iff _).1 hdrawn w
  expressions := by
    intro w drawing root hdrawing hread
    rw [h.expressions w, recordExpression?, hdrawing, Option.bind_some, expressionOf, hread]
    rfl
  function := by
    intro previews
    rw [Elm.iconFunction?, branches?_of_shows h hdrawn]
    rfl

/-- The generation of an icon comes to an end unless a complete record has a drawing with names
that cannot be told. -/
theorem exists_generateIcon_iff (entry : Entry) {record : Record} :
    (∃ found, (generateIcon entry record).result = .ok found) ↔
      (absent record = [] → ∀ row ∈ record.rows, ¬IsUntellable row.2) := by
  rw [absent_eq_nil_iff, ← isComplete_keysOf]
  cases hresult : (generateIcon entry record).result with
  | ok found =>
      refine iff_of_true ⟨found, rfl⟩ fun hcomplete row hrow hbad => ?_
      have hfailed : (generateIcon entry record).result = .error (.unreadable .untellable) :=
        generateIcon_eq_error.2 ⟨rfl, hcomplete, row, hrow, hbad⟩
      cases hfailed.symm.trans hresult
  | error fault =>
      obtain ⟨-, hcomplete, row, hrow, hbad⟩ := generateIcon_eq_error.1 hresult
      exact iff_of_false nofun fun hnone => hnone hcomplete row hrow hbad

/-- A drawing of a record that shows an icon in all weights can be read. -/
theorem isReadable_of_isDrawn {record : Record} (hdrawn : isDrawn (recordExpression? record))
    {row : Weight × Text} (hrow : row ∈ record.rows) : IsReadable row.2 := by
  obtain ⟨drawing, hdrawing, hread⟩ := isDrawn_recordExpression?_iff.1 hdrawn row.1
  obtain rfl := Option.some.inj (hdrawing.symm.trans (Table.get?_eq_some_iff.2 hrow))
  exact hread

/-- There is an icon exactly if the record shows one in all weights. -/
theorem exists_generateIcon_some_iff (entry : Entry) {record : Record} :
    (∃ icon, (generateIcon entry record).result = .ok (some icon)) ↔
      isDrawn (recordExpression? record) := by
  constructor
  · rintro ⟨icon, hicon⟩
    exact (shows_of_generateIcon hicon).1.symm
  · intro hdrawn
    obtain ⟨found, hfound⟩ := (exists_generateIcon_iff entry).2 fun _ row hrow hbad => by
      obtain ⟨root, hroot⟩ := isReadable_of_isDrawn hdrawn hrow
      cases hroot.symm.trans hbad
    obtain ⟨icon, rfl⟩ := Option.isSome_iff_exists.1 ((shows_of_generateIcon hfound).1.trans hdrawn)
    exact ⟨icon, hfound⟩

/-- When there is no icon for a complete record, one of its drawings has been told. -/
theorem filterMap_failure?_ne_nil {entry : Entry} {record : Record}
    (h : (generateIcon entry record).result = .ok none) (hcomplete : absent record = []) :
    record.rows.filterMap (failure? entry.camel) ≠ [] := by
  intro hnil
  have htold := (exists_generateIcon_iff _).1 ⟨none, h⟩ hcomplete
  have hread : ∀ row ∈ record.rows, IsReadable row.2 := fun row hrow =>
    (failure?_eq_none_iff.1 (List.filterMap_eq_nil_iff.1 hnil row hrow)).resolve_right
      (htold row hrow)
  have hdrawn : isDrawn (recordExpression? record) := by
    refine isDrawn_recordExpression?_iff.2 fun w => ?_
    obtain ⟨drawing, hdrawing⟩ := Option.isSome_iff_exists.1 (absent_eq_nil_iff.1 hcomplete w)
    exact ⟨drawing, hdrawing, hread _ (Table.get?_eq_some_iff.1 hdrawing)⟩
  obtain ⟨icon, hicon⟩ := (exists_generateIcon_some_iff entry).2 hdrawn
  cases hicon.symm.trans h

/-- For any entry and record, there is an icon exactly if the record has all six weights and all
its drawings can be read, and the icon has the six weights with the expressions for their own
drawings. Otherwise there is none, and the failures on the standard error are one for the missing
weights, in canonical order, or one for each drawing that cannot be read, in the order of the
record. The generation comes to an end unless a complete record has a drawing with names that
cannot be told. -/
theorem generateIcon_cases (entry : Entry) (record : Record) :
    ((∃ found, (generateIcon entry record).result = .ok found) ↔
      (absent record = [] → ∀ row ∈ record.rows, ¬IsUntellable row.2)) ∧
    ((∃ icon, (generateIcon entry record).result = .ok (some icon)) ↔
      ∀ w, ∃ drawing, record.get? w = some drawing ∧ IsReadable drawing) ∧
    (∀ icon, (generateIcon entry record).result = .ok (some icon) →
      IsWhole icon entry record ∧ failures (generateIcon entry record).events = []) ∧
    ((generateIcon entry record).result = .ok none →
      failures (generateIcon entry record).events ≠ [] ∧
      failures (generateIcon entry record).events =
        if absent record = [] then record.rows.filterMap (failure? entry.camel)
        else [.failure (entry.camel ++ " is missing weights".toList)
          (Text.joined [',', ' '] ((absent record).map Weight.name))]) ∧
    ∀ colour threshold, printed colour threshold (generateIcon entry record).events = [] ∧
      (Log.Level.debug.number < threshold →
        Report.textOn .error colour threshold
            ((generateIcon entry record).events.map Event.report) =
          Report.textOn .error colour threshold (failures (generateIcon entry record).events)) := by
  refine ⟨exists_generateIcon_iff entry, ?_, fun icon hicon => ?_, fun hnone => ?_,
    fun colour threshold => ⟨?_, fun hthreshold => textOn_error_eq colour hthreshold _⟩⟩
  · exact (exists_generateIcon_some_iff entry).trans isDrawn_recordExpression?_iff
  · obtain ⟨hdrawn, hshows⟩ := shows_of_generateIcon hicon
    refine ⟨isWhole_of_shows (hshows icon rfl) hdrawn.symm, ?_⟩
    have hcomplete : absent record = [] := absent_eq_nil_iff.2 fun w => by
      obtain ⟨drawing, hdrawing, -⟩ := isDrawn_recordExpression?_iff.1 hdrawn.symm w
      exact Option.isSome_of_eq_some hdrawing
    rw [failures_generateIcon hicon, if_pos hcomplete, List.filterMap_eq_nil_iff]
    exact fun row hrow => failure?_eq_none_iff.2 (Or.inl (isReadable_of_isDrawn hdrawn.symm hrow))
  · rw [failures_generateIcon hnone]
    refine ⟨?_, rfl⟩
    split
    · rename_i hcomplete
      exact filterMap_failure?_ne_nil hnone hcomplete
    · exact List.cons_ne_nil _ _
  · exact printed_of_areAside colour threshold (areAside_generateIcon entry record)

/-! ## Records with bad drawings -/

/-- A record with all weights, in which two drawings are given. -/
def recordWith (thin fill : Text) : Record :=
  Table.ofList (Weight.all.map fun w =>
    (w, if w = .thin then thin else if w = .fill then fill else "<svg/>".toList))

/-- An entry for a record. -/
def plainEntry : Entry := ⟨"a".toList, "A".toList, none⟩

theorem result_generateIcon_mixed :
    (generateIcon plainEntry (recordWith "<svg".toList "<a/>".toList)).result = .ok none := by
  rfl

/-- Of a drawing that is cut off and one with another root each is told. -/
theorem generateIcon_cases_mixed :
    failures (generateIcon plainEntry (recordWith "<svg".toList "<a/>".toList)).events =
      [.failure "a could not be parsed (thin)".toList "Error parsing SVG".toList,
        .failure "a is malformed (fill)".toList "Root element was a".toList] := by
  obtain ⟨-, -, -, hnone, -⟩ :=
    generateIcon_cases plainEntry (recordWith "<svg".toList "<a/>".toList)
  rw [(hnone result_generateIcon_mixed).2]
  decide

/-- It is not so that every icon is generated or told to be missing: a drawing with names that
cannot be told stops the generation. -/
theorem not_forall_generateIcon :
    ¬ ∀ (entry : Entry) (record : Record),
      ∃ found, (generateIcon entry record).result = .ok found ∧
        (found.isSome ↔ ∀ w, ∃ drawing, record.get? w = some drawing ∧ IsReadable drawing) := by
  intro hall
  let drawing := "<svg><x:a/><g xmlns=\"u\"/></svg>".toList
  have hbad : IsUntellable drawing := by decide
  obtain ⟨found, hfound, -⟩ := hall plainEntry (recordWith drawing "<svg/>".toList)
  have hrow : (.thin, drawing) ∈ (recordWith drawing "<svg/>".toList).rows := by decide
  exact (exists_generateIcon_iff _).1 ⟨found, hfound⟩ (by decide) _ hrow hbad

end Generation

end Iconsmith
