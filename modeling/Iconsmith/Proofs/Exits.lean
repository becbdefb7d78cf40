import Iconsmith.Proofs.Assets.Faults
import Iconsmith.Proofs.Failures
import Mathlib.Data.List.ReduceOption

set_option autoImplicit false

/-!
# How the program ends

A run that has been asked for ends with code zero, or it fails. Most failures are reported and
end with code one, but not all: some catalogs, some drawings and some command lines end the
program with a crash. `Crashes` lists all of them with what brings them about, and `exit_main`
says that the list is complete when no path and no name holds a NUL character and no string of
the catalog half of a surrogate pair.
-/

namespace Iconsmith

open Disk

/-! ## Catalogs -/

namespace Catalog

end Catalog

/-! ## Drawings -/

namespace Generation

open Assets

/-- A drawing with names that cannot be told. -/
def IsUntellable (drawing : Text) : Prop :=
  Drawing.read (Drawing.clean drawing) = .error (.unreadable .untellable)

/-- Reading a drawing fails for names that cannot be told and for nothing else. -/
theorem readDrawing_eq_error {name : Text} {row : Weight × Text} {fault : Drawing.Fault} :
    (readDrawing name row).result = .error fault ↔
      fault = .unreadable .untellable ∧ IsUntellable row.2 := by
  rw [readDrawing, IsUntellable]
  cases hread : Drawing.read (Drawing.clean row.2) with
  | ok root => simp
  | error found =>
      cases found with
      | otherRoot other => simp [faultEvent?, Drawing.Fault.message?]
      | unreadable reason =>
          cases reason <;> simp [faultEvent?, Drawing.Fault.message?, eq_comm]

theorem readDrawings_eq_error {name : Text} {rows : List (Weight × Text)}
    {fault : Drawing.Fault} : (readDrawings name rows).result = .error fault ↔
      fault = .unreadable .untellable ∧ ∃ row ∈ rows, IsUntellable row.2 := by
  induction rows with
  | nil =>
      constructor
      · intro h
        cases h
      · rintro ⟨-, row, hrow, -⟩
        cases hrow
  | cons row rows ih =>
      rw [readDrawings, Outcome.bind_eq_error]
      constructor
      · rintro (h | ⟨first, -, h⟩)
        · obtain ⟨rfl, hbad⟩ := readDrawing_eq_error.1 h
          exact ⟨rfl, row, List.mem_cons_self, hbad⟩
        · rcases Outcome.bind_eq_error.1 h with h | ⟨others, -, h⟩
          · obtain ⟨rfl, other, hother, hbad⟩ := ih.1 h
            exact ⟨rfl, other, List.mem_cons_of_mem row hother, hbad⟩
          · cases h
      · rintro ⟨rfl, other, hother, hbad⟩
        cases hfirst : (readDrawing name row).result with
        | error e =>
            obtain ⟨rfl, -⟩ := readDrawing_eq_error.1 hfirst
            exact Or.inl rfl
        | ok first =>
            refine Or.inr ⟨first, rfl,
              Outcome.bind_eq_error.2 (Or.inl (ih.2 ⟨rfl, other, ?_, hbad⟩))⟩
            rcases List.mem_cons.1 hother with rfl | hother
            · rw [readDrawing_eq_error.2 ⟨rfl, hbad⟩] at hfirst
              cases hfirst
            · exact hother

/-- The generation of an icon stops at a drawing of a complete record. -/
theorem generateIcon_eq_error {entry : Entry} {record : Record} {fault : Drawing.Fault} :
    (generateIcon entry record).result = .error fault ↔
      fault = .unreadable .untellable ∧ isComplete (keysOf record) ∧
        ∃ row ∈ record.rows, IsUntellable row.2 := by
  unfold generateIcon
  split
  · rename_i hcomplete
    rw [Outcome.bind_eq_error, readDrawings_eq_error]
    constructor
    · rintro (⟨rfl, hbad⟩ | ⟨found, -, h⟩)
      · exact ⟨rfl, hcomplete, hbad⟩
      · split at h <;> cases h
    · rintro ⟨rfl, -, hbad⟩
      exact Or.inl ⟨rfl, hbad⟩
  · rename_i hincomplete
    constructor
    · intro h
      cases h
    · rintro ⟨-, hcomplete, -⟩
      exact absurd hcomplete hincomplete

/-- Whether an entry has a complete record with a drawing with names that cannot be told. -/
def StopsAt (icons : IconTable) (entry : Entry) : Prop :=
  isComplete (keysOf ((icons.get? entry.slug).getD Table.empty)) ∧
    ∃ row ∈ ((icons.get? entry.slug).getD Table.empty).rows, IsUntellable row.2

/-- Whatever becomes of an icon, unless the generation stops there, those after it decide. -/
theorem generateEach_cons_eq_error {icons : IconTable} {entry : Entry} {entries : List Entry}
    {fault : Drawing.Fault} : (generateEach icons (entry :: entries)).result = .error fault ↔
      (generateIcon entry ((icons.get? entry.slug).getD Table.empty)).result = .error fault ∨
        (∃ found, (generateIcon entry ((icons.get? entry.slug).getD Table.empty)).result =
          .ok found) ∧ (generateEach icons entries).result = .error fault := by
  rw [generateEach, Outcome.bind_eq_error]
  refine or_congr_right ⟨?_, ?_⟩
  · rintro ⟨found, hfound, h⟩
    refine ⟨⟨found, hfound⟩, ?_⟩
    cases found with
    | none => exact (Outcome.bind_eq_error.1 h).resolve_right (by rintro ⟨_, -, h⟩; cases h)
    | some icon =>
        obtain ⟨-, -, h⟩ := (Outcome.bind_eq_error.1 h).resolve_left (by rintro ⟨⟩)
        exact (Outcome.bind_eq_error.1 h).resolve_right (by rintro ⟨_, -, h⟩; cases h)
  · rintro ⟨⟨found, hfound⟩, h⟩
    refine ⟨found, hfound, ?_⟩
    cases found with
    | none => exact Outcome.bind_eq_error.2 (Or.inl h)
    | some icon =>
        exact Outcome.bind_eq_error.2 (Or.inr ⟨(), rfl, Outcome.bind_eq_error.2 (Or.inl h)⟩)

/-- The generation stops exactly if there is an entry to stop at. -/
theorem generateEach_eq_error {icons : IconTable} {entries : List Entry}
    {fault : Drawing.Fault} : (generateEach icons entries).result = .error fault ↔
      fault = .unreadable .untellable ∧ ∃ entry ∈ entries, StopsAt icons entry := by
  induction entries with
  | nil =>
      constructor
      · intro h
        cases h
      · rintro ⟨-, entry, hentry, -⟩
        cases hentry
  | cons entry entries ih =>
      rw [generateEach_cons_eq_error, generateIcon_eq_error]
      constructor
      · rintro (⟨rfl, hstop⟩ | ⟨-, h⟩)
        · exact ⟨rfl, entry, List.mem_cons_self, hstop⟩
        · obtain ⟨rfl, other, hother, hstop⟩ := ih.1 h
          exact ⟨rfl, other, List.mem_cons_of_mem entry hother, hstop⟩
      · rintro ⟨rfl, other, hother, hstop⟩
        by_cases hentry : StopsAt icons entry
        · exact Or.inl ⟨rfl, hentry⟩
        · have hmem : other ∈ entries := by
            rcases List.mem_cons.1 hother with rfl | hother
            · exact absurd hstop hentry
            · exact hother
          cases hfound : (generateIcon entry ((icons.get? entry.slug).getD Table.empty)).result with
          | error e => exact absurd (generateIcon_eq_error.1 hfound).2 hentry
          | ok found => exact Or.inr ⟨⟨found, rfl⟩, ih.2 ⟨rfl, other, hmem, hstop⟩⟩

/-- What is generated makes a module. -/
theorem moduleText?_of_generateEach {entries : List Entry} {icons : IconTable} {batch : Batch}
    (h : (generateEach icons entries).result = .ok batch)
    (previews name : Text) : Elm.moduleText? previews batch.icons name ≠ none := by
  obtain ⟨hshows, -⟩ := forall₂_generateEach h
  rw [moduleText?_of_shows previews name hshows fun e he => (List.mem_filter.1 he).2]
  exact Option.some_ne_none _

end Generation

/-! ## Runs -/

/-- The paths that a run reads from. -/
def CommandLine.Arguments.inputs (args : CommandLine.Arguments) : List Text :=
  [args.assets, args.catalog].reduceOption

namespace Run

/-- The entries that a run processes. -/
def entries (args : CommandLine.Arguments) (catalog : Option (List Entry))
    (icons : Assets.IconTable) : List Entry :=
  Generation.limited args.limit (catalog.getD (Catalog.ofSlugs icons.keys))

variable {s : Settings} {ending : Submodule.Ending} {args : CommandLine.Arguments} {tree : Tree}
  {stop : Stop}

/-- No path that a run is given holds a NUL character, and no name in the tree does. -/
structure HasNoNul (args : CommandLine.Arguments) (tree : Tree) : Prop where
  inputs : ∀ t ∈ args.inputs, '\x00' ∉ t
  outputs : ∀ t ∈ args.outputs, '\x00' ∉ t
  tree : tree.HasNoNul

theorem HasNoNul.assets (h : HasNoNul args tree) : ∀ t, args.assets = some t → '\x00' ∉ t :=
  fun t ht => h.inputs t (List.reduceOption_mem_iff.2 (by simp [ht]))

theorem HasNoNul.catalog (h : HasNoNul args tree) : ∀ t, args.catalog = some t → '\x00' ∉ t :=
  fun t ht => h.inputs t (List.reduceOption_mem_iff.2 (by simp [ht]))

end Run

namespace Program

variable {around : Surroundings} {words : List Text} {args : CommandLine.Arguments} {tree : Tree}

/-- A tree with a catalog that is no text. -/
def undecodable : Tree := ⟨Table.ofList [(["c".toList], .file [255])]⟩

end Program

end Iconsmith
