import Iconsmith.Proofs.Generation.Completion

set_option autoImplicit false

/-!
# Accounts of a batch

The entries of a catalog are processed one after another, as many as the limit allows. What a
batch says at the end is settled by what becomes of each of them: its icons, the counts of what
passed and what failed, and all that was told on the way (`Accounts`). A smaller limit gives the
first icons of a larger one. All this holds when no entry stops the generation
(`generate_accounts`); one that does leaves no accounts (`not_forall_accounts`).
-/

namespace Iconsmith.Generation

open Assets

/-! ## Limits -/

theorem limited_of_pos {limit : Int} (h : 0 < limit) (entries : List Entry) :
    limited (some limit) entries = entries.take limit.toNat := by
  cases limit with
  | ofNat n =>
      cases n with
      | zero => cases h
      | succ n => rfl
  | negSucc n => cases h

theorem limited_of_nonpos {limit : Int} (h : limit ≤ 0) (entries : List Entry) :
    limited (some limit) entries = entries := by
  cases limit with
  | ofNat n =>
      cases n with
      | zero => rfl
      | succ n => exact absurd (Int.natCast_pos.2 n.succ_pos) (Int.not_lt.2 h)
  | negSucc n => rfl

/-! ## Entries one by one -/

/-- What becomes of an entry that is processed. -/
abbrev processed (icons : IconTable) (entry : Entry) : Part (Option Elm.Generated) :=
  generateIcon entry ((icons.get? entry.slug).getD Table.empty)

/-- The number of icons that are told to be done. -/
def doneCount (events : List Event) : Nat :=
  (events.map Event.report).countP fun report => report matches .success _

theorem doneCount_append (before after : List Event) :
    doneCount (before ++ after) = doneCount before + doneCount after := by
  rw [doneCount, List.map_append, List.countP_append]
  rfl

/-- While an icon is generated, it is not yet told to be done. -/
theorem doneCount_generateIcon (entry : Entry) (record : Record) :
    doneCount (generateIcon entry record).events = 0 := by
  rw [doneCount, List.countP_eq_zero]
  intro report hreport hdone
  obtain ⟨event, hevent, rfl⟩ := List.mem_map.1 hreport
  have haside := areAside_generateIcon entry record event hevent
  cases hreported : event.report <;> simp_all [Report.Event.isAside]

/-- What a batch and what has been told say of the entries that were processed, of which each has
become an icon or not. -/
structure Accounts (table : IconTable) (entries : List Entry) (found : List (Option Elm.Generated))
    (events : List Event) (batch : Batch) : Prop where
  outcomes : List.Forall₂ (fun entry icon => (processed table entry).result = .ok icon)
    entries found
  icons : batch.icons = found.reduceOption
  passes : batch.passes = batch.icons.length
  total : batch.passes + batch.failures = entries.length
  told : events = (entries.zip found).flatMap fun row =>
    (processed table row.1).events ++ doneEvents row.2 row.1
  printed : ∀ colour threshold, printed colour threshold events =
    batch.icons.flatMap fun icon => doneLine colour icon.entry
  done : doneCount events = batch.passes
  failed : ∀ entry ∈ entries, (processed table entry).result = .ok none →
    failures (processed table entry).events ≠ []

namespace Accounts

variable {table : IconTable} {entry : Entry} {entries : List Entry}
  {found : List (Option Elm.Generated)} {events : List Event} {batch : Batch}

/-- Accounts are kept when one more entry is processed first. -/
theorem cons (h : Accounts table entries found events batch) {icon : Option Elm.Generated}
    (hicon : (processed table entry).result = .ok icon) :
    Accounts table (entry :: entries) (icon :: found)
      ((processed table entry).events ++ doneEvents icon entry ++ events) (batch.cons icon) := by
  obtain ⟨-, hshows⟩ := shows_of_generateIcon hicon
  have hquiet : ∀ colour threshold,
      Generation.printed colour threshold (processed table entry).events = [] :=
    fun colour threshold => printed_of_areAside colour threshold (areAside_generateIcon entry _)
  have hcount : doneCount (processed table entry).events = 0 := doneCount_generateIcon entry _
  have hfailed : ∀ other ∈ entry :: entries, (processed table other).result = .ok none →
      failures (processed table other).events ≠ [] := fun other _ hnone =>
    ((generateIcon_cases other _).2.2.2.1 hnone).1
  have houtcomes : List.Forall₂ (fun entry icon => (processed table entry).result = .ok icon)
      (entry :: entries) (icon :: found) := .cons hicon h.outcomes
  cases icon with
  | none =>
      refine ⟨houtcomes, h.icons, h.passes, ?_, ?_, fun colour threshold => ?_, ?_, hfailed⟩
      · show batch.passes + (batch.failures + 1) = entries.length + 1
        have htotal := h.total
        omega
      · rw [List.zip_cons_cons, List.flatMap_cons, ← h.told]
      · rw [printed_append, printed_append, hquiet, h.printed]
        rfl
      · rw [doneCount_append, doneCount_append, hcount, h.done]
        show 0 + 0 + batch.passes = batch.passes
        omega
  | some icon =>
      refine ⟨houtcomes, ?_, congrArg (· + 1) h.passes, ?_, ?_, fun colour threshold => ?_, ?_,
        hfailed⟩
      · rw [List.reduceOption_cons_of_some, ← h.icons]
        rfl
      · show batch.passes + 1 + batch.failures = entries.length + 1
        have htotal := h.total
        omega
      · rw [List.zip_cons_cons, List.flatMap_cons, ← h.told]
      · have hline : Generation.printed colour threshold (doneEvents (some icon) entry) =
            doneLine colour icon.entry := by
          rw [(hshows icon rfl).entry]
          simp [doneEvents, Generation.printed, Report.textOn, Event.report, Report.Event.lines,
            doneLine]
        rw [printed_append, printed_append, hquiet, h.printed, hline]
        rfl
      · rw [doneCount_append, doneCount_append, hcount, h.done]
        show 0 + 1 + batch.passes = batch.passes + 1
        omega

end Accounts

/-- When all entries have been processed, there are accounts of them. -/
theorem exists_accounts {icons : IconTable} {entries : List Entry} {batch : Batch}
    (h : (generateEach icons entries).result = .ok batch) :
    ∃ found, Accounts icons entries found (generateEach icons entries).events batch := by
  induction entries generalizing batch with
  | nil =>
      cases h
      exact ⟨[], .nil, rfl, rfl, rfl, rfl, fun _ _ => rfl, rfl, fun _ hentry => by cases hentry⟩
  | cons entry entries ih =>
      obtain ⟨icon, others, hicon, hothers, rfl, hevents⟩ := exists_of_generateEach_cons h
      obtain ⟨found, haccounts⟩ := ih hothers
      rw [hevents]
      exact ⟨icon :: found, haccounts.cons hicon⟩

/-! ## Smaller and larger limits -/

/-- The icons of the first entries are the first icons of all of them. -/
theorem exists_generateEach_prefix {icons : IconTable} {entries more : List Entry} {batch : Batch}
    (hfirsts : entries <+: more) (h : (generateEach icons more).result = .ok batch) :
    ∃ first, (generateEach icons entries).result = .ok first ∧ first.icons <+: batch.icons := by
  have hnone := exists_generateEach_iff.1 ⟨batch, h⟩
  obtain ⟨first, hfirst⟩ := exists_generateEach_iff.2 fun entry hentry =>
    hnone entry (hfirsts.subset hentry)
  refine ⟨first, hfirst, ?_⟩
  rw [icons_of_generateEach hfirst, icons_of_generateEach h]
  exact hfirsts.filterMap _

/-- The entries for a smaller limit are the first ones of those for a larger limit, or for none. -/
theorem limited_isPrefix {less : Int} {more : Option Int} (hless : 0 < less)
    (hmore : ∀ limit ∈ more, less ≤ limit) (entries : List Entry) :
    limited (some less) entries <+: limited more entries := by
  rw [limited_of_pos hless]
  cases more with
  | none => exact List.take_prefix _ _
  | some limit =>
      have hle := hmore limit rfl
      rw [limited_of_pos (Int.lt_of_lt_of_le hless hle)]
      exact List.take_prefix_take_left (Int.toNat_le_toNat hle)

/-- For any catalog, table and limit: the entries to process are the first ones up to a positive
limit, and else all. Unless one of them stops the generation, there is a batch with accounts of
them, and a smaller limit gives a batch as well, whose icons are the first ones. -/
theorem generate_accounts (catalog : List Entry) (icons : IconTable) :
    limited none catalog = catalog ∧
    (∀ limit : Int, limit ≤ 0 → limited (some limit) catalog = catalog) ∧
    (∀ limit : Int, 0 < limit → limited (some limit) catalog = catalog.take limit.toNat) ∧
    (∀ limit, (∃ batch, (generate catalog icons limit).result = .ok batch) ↔
      ∀ entry ∈ limited limit catalog, ¬StopsAt icons entry) ∧
    (∀ limit batch, (generate catalog icons limit).result = .ok batch →
      ∃ found, Accounts icons (limited limit catalog) found (generate catalog icons limit).events
        batch) ∧
    ∀ (less : Int) (more : Option Int) (batch : Batch), 0 < less →
      (∀ limit ∈ more, less ≤ limit) → (generate catalog icons more).result = .ok batch →
        ∃ first, (generate catalog icons (some less)).result = .ok first ∧
          first.icons <+: batch.icons := by
  refine ⟨rfl, fun limit hlimit => limited_of_nonpos hlimit catalog,
    fun limit hlimit => limited_of_pos hlimit catalog, fun limit => exists_generateEach_iff,
    fun limit batch hbatch => exists_accounts hbatch, ?_⟩
  intro less more batch hless hmore hbatch
  exact exists_generateEach_prefix (limited_isPrefix hless hmore catalog) hbatch

/-! ## Three entries -/

/-- Three entries, of which the second has no record. -/
def threeEntries : List Entry := ["a".toList, "b".toList, "c".toList].map Entry.ofSlug

/-- A table with records of the first and the third entry. -/
def twoRecords : IconTable :=
  Table.ofList (["a".toList, "c".toList].map fun slug =>
    (slug, recordWith "<svg/>".toList "<svg/>".toList))

theorem exists_generate_threeEntries :
    ∃ batch, (generate threeEntries twoRecords none).result = .ok batch ∧ batch.passes = 2 ∧
      batch.icons.flatMap (fun icon => doneLine false icon.entry) =
        "✓ DONE a\n✓ DONE c\n".toList :=
  ⟨_, rfl, rfl, rfl⟩

/-- Of the three entries two pass and one fails, and with a limit of one the first passes. -/
theorem generate_accounts_three :
    ∃ batch first, (generate threeEntries twoRecords none).result = .ok batch ∧
      batch.passes = 2 ∧ batch.failures = 1 ∧
      printed false 30 (generate threeEntries twoRecords none).events =
        "✓ DONE a\n✓ DONE c\n".toList ∧
      (generate threeEntries twoRecords (some 1)).result = .ok first ∧
      first.icons <+: batch.icons := by
  obtain ⟨-, -, -, -, haccounts, hfirsts⟩ := generate_accounts threeEntries twoRecords
  obtain ⟨batch, hbatch, hpasses, hlines⟩ := exists_generate_threeEntries
  obtain ⟨found, hfound⟩ := haccounts none batch hbatch
  obtain ⟨first, hfirst, hicons⟩ := hfirsts 1 none batch Int.one_pos (by simp) hbatch
  have htotal : batch.passes + batch.failures = 3 := hfound.total
  exact ⟨batch, first, hbatch, hpasses, by omega, (hfound.printed false 30).trans hlines, hfirst,
    hicons⟩

/-- A drawing with names that cannot be told leaves no accounts of the entries. -/
theorem not_forall_accounts :
    ¬ ∀ (catalog : List Entry) (icons : IconTable) (limit : Option Int),
      ∃ batch, (generate catalog icons limit).result = .ok batch ∧
        batch.passes + batch.failures = (limited limit catalog).length := by
  intro hall
  let drawing := "<svg><x:a/><g xmlns=\"u\"/></svg>".toList
  have hbad : IsUntellable drawing := by decide
  let icons : IconTable := Table.ofList [("a".toList, recordWith drawing "<svg/>".toList)]
  obtain ⟨batch, hbatch, -⟩ := hall [plainEntry] icons none
  refine exists_generateEach_iff.1 ⟨batch, hbatch⟩ plainEntry List.mem_cons_self ?_
  exact ⟨by decide, (.thin, drawing), by decide, hbad⟩

end Iconsmith.Generation
