import Iconsmith.Program
import Mathlib.Data.List.Range

set_option autoImplicit false

/-!
# The life of the providers

Telemetry is asked to start and to stop, in any order and any number of times. Each request keeps
the two providers together (`turns_step`): it leaves them as they are, makes one of each kind where
none is installed, or shuts the installed ones down. So all providers but those that are installed
are shut down, each of them once and in the order in which they were made (`accounts_run`). The
program leaves no provider installed, however it ends (`providers_run`).
-/

namespace Iconsmith.Telemetry

/-! ## Kinds of providers -/

/-- The two kinds of providers. -/
inductive Kind where
  | tracer
  | meter
  deriving DecidableEq

/-- Whether a provider of a kind is installed. -/
def State.has (state : State) : Kind → Bool
  | .tracer => state.tracer
  | .meter => state.meter

/-- The state in which both providers are installed. -/
def State.installed : State := ⟨true, true⟩

/-- Whether the providers are both installed, or neither is. -/
def State.IsPaired (state : State) : Prop := state = .fresh ∨ state = .installed

/-- What happens to a provider. -/
inductive Event where
  | made
  | shutDown
  deriving DecidableEq

/-- What a call does to the providers of a kind. -/
def Call.event? : Kind → Call → Option Event
  | .tracer, .makeTracer _ => some .made
  | .tracer, .shutDownTracer => some .shutDown
  | .meter, .makeMeter _ _ => some .made
  | .meter, .shutDownMeter => some .shutDown
  | _, _ => none

/-- What calls do to the providers of a kind, in order. -/
def history (kind : Kind) (calls : List Call) : List Event := calls.filterMap (Call.event? kind)

/-- The providers that are shut down, by their numbers in the order in which they are made, when
`made` of them have been made before. A provider that is made takes the place of the one before it,
so it is always the last one made that is shut down. -/
def shutDowns (made : Nat) : List Event → List Nat
  | [] => []
  | .made :: events => shutDowns (made + 1) events
  | .shutDown :: events => made :: shutDowns made events

/-! ## Requests -/

/-- What telemetry is asked for: a start, with the settings of that time, or a stop. -/
inductive Request where
  | start (s : Settings)
  | stop
  deriving DecidableEq

/-- What a request does. -/
def Request.step (state : State) : Request → Step
  | .start s => Telemetry.start s state
  | .stop => Telemetry.stop state

/-- What requests do one after another. -/
def run (state : State) : List Request → Step
  | [] => ⟨state, [], []⟩
  | request :: requests =>
      let step := request.step state
      let rest := run step.state requests
      ⟨rest.state, step.calls ++ rest.calls, step.logs ++ rest.logs⟩

/-! ## What a request does to the providers -/

theorem history_append (kind : Kind) (calls more : List Call) :
    history kind (calls ++ more) = history kind calls ++ history kind more :=
  List.filterMap_append

/-- Exporters are no providers. -/
theorem history_export (kind : Kind) (s : Settings) :
    history kind (spanExport s ++ metricExport s) = [] := by
  cases kind <;> rfl

theorem history_start_fresh (kind : Kind) (s : Settings) :
    history kind (start s .fresh).calls = [.made] := by
  have hcalls : (start s .fresh).calls = [.makeTracer (resource s)] ++
      ((if s.endpoint ≠ [] then spanExport s ++ metricExport s else []) ++
        [.makeMeter (resource s) (s.endpoint ≠ []), .installTracer, .installMeter]) := rfl
  have hexport : history kind (if s.endpoint ≠ [] then spanExport s ++ metricExport s else []) =
      [] := by
    split
    · exact history_export kind s
    · rfl
  rw [hcalls, history_append, history_append, hexport]
  cases kind <;> rfl

/-- How a step turns the providers: it keeps them, makes one of each kind where there was none, or
shuts down the two that there were. -/
inductive Turns (before : State) (step : Step) : Prop where
  | keeps : step.state = before → (∀ kind, history kind step.calls = []) → Turns before step
  | makes : before = .fresh → step.state = .installed →
      (∀ kind, history kind step.calls = [.made]) → Turns before step
  | shutsDown : before = .installed → step.state = .fresh →
      (∀ kind, history kind step.calls = [.shutDown]) → Turns before step

theorem turns_step (request : Request) {state : State} (h : state.IsPaired) :
    Turns state (request.step state) := by
  rcases h with rfl | rfl
  · cases request with
    | start s => exact .makes rfl rfl fun kind => history_start_fresh kind s
    | stop => exact .keeps rfl fun _ => rfl
  · cases request with
    | start s => exact .keeps rfl fun _ => rfl
    | stop =>
        refine .shutsDown rfl rfl fun kind => ?_
        cases kind <;> rfl

/-! ## What requests do one after another -/

/-- Whether events account for the providers of a kind, of which `n` have been shut down before:
those with the next numbers are shut down, one after another, and one that is made and not shut down
is installed at the end. -/
structure Accounts (n : Nat) (before after : Bool) (events : List Event) : Prop where
  numbers : shutDowns (n + before.toNat) events = List.range' (n + 1) (events.count .shutDown)
  balance : before.toNat + events.count .made = events.count .shutDown + after.toNat

theorem Accounts.nil (n : Nat) (before : Bool) : Accounts n before before [] :=
  ⟨rfl, by simp⟩

theorem Accounts.made {n : Nat} {after : Bool} {events : List Event}
    (h : Accounts n true after events) : Accounts n false after (.made :: events) := by
  obtain ⟨hnumbers, hbalance⟩ := h
  constructor
  · simpa [shutDowns] using hnumbers
  · simp only [Bool.toNat_true] at hbalance
    simp
    omega

theorem Accounts.shutDown {n : Nat} {after : Bool} {events : List Event}
    (h : Accounts (n + 1) false after events) : Accounts n true after (.shutDown :: events) := by
  obtain ⟨hnumbers, hbalance⟩ := h
  constructor
  · rw [List.count_cons_self, List.range'_succ]
    exact congrArg (List.cons (n + 1)) hnumbers
  · simp only [Bool.toNat_false] at hbalance
    simp
    omega

/-- Requests keep the providers paired, and what they do accounts for those of each kind. -/
theorem accounts_run (requests : List Request) {state : State} (h : state.IsPaired) (n : Nat) :
    (run state requests).state.IsPaired ∧
      ∀ kind, Accounts n (state.has kind) ((run state requests).state.has kind)
        (history kind (run state requests).calls) := by
  induction requests generalizing state n with
  | nil => exact ⟨h, fun kind => .nil n _⟩
  | cons request requests ih =>
      have hsplit : ∀ kind, history kind (run state (request :: requests)).calls =
          history kind (request.step state).calls ++
            history kind (run (request.step state).state requests).calls :=
        fun kind => history_append kind _ _
      have hstate : (run state (request :: requests)).state =
          (run (request.step state).state requests).state := rfl
      simp only [hsplit, hstate]
      cases turns_step request h with
      | keeps hkept hevents =>
          obtain ⟨hpaired, haccounts⟩ := ih h n
          simp only [hkept, hevents]
          exact ⟨hpaired, haccounts⟩
      | makes hbefore hafter hevents =>
          subst hbefore
          obtain ⟨hpaired, haccounts⟩ := ih (Or.inr rfl) n
          simp only [hafter, hevents]
          refine ⟨hpaired, fun kind => ?_⟩
          have hkind := haccounts kind
          cases kind <;> exact hkind.made
      | shutsDown hbefore hafter hevents =>
          subst hbefore
          obtain ⟨hpaired, haccounts⟩ := ih (Or.inl rfl) (n + 1)
          simp only [hafter, hevents]
          refine ⟨hpaired, fun kind => ?_⟩
          have hkind := haccounts kind
          cases kind <;> exact hkind.shutDown

theorem Accounts.bounds {after : Bool} {events : List Event} (h : Accounts 0 false after events) :
    (shutDowns 0 events).Nodup ∧ (∀ n ∈ shutDowns 0 events, 1 ≤ n ∧ n ≤ events.count .made) ∧
      events.count .made = (shutDowns 0 events).length + after.toNat := by
  obtain ⟨hnumbers, hbalance⟩ := h
  simp only [Bool.toNat_false, Nat.zero_add] at hnumbers hbalance
  rw [hnumbers]
  refine ⟨List.nodup_range', fun n hn => ?_, ?_⟩
  · have hrange := List.mem_range'_1.1 hn
    omega
  · rw [List.length_range', hbalance]

/-! ## The program -/

/-- The program leaves telemetry as it was, or as it is after a start and a stop. -/
theorem telemetry_main (around : Program.Surroundings) (words : List Text) (state : State)
    (tree : Disk.Tree) :
    (Program.main around words state tree).telemetry = state ∨
      (Program.main around words state tree).telemetry =
        (run state [.start around.telemetry, .stop]).state := by
  rw [Program.main]
  split
  · exact Or.inl rfl
  · split
    · exact Or.inl rfl
    · exact Or.inl rfl
  · split
    · exact Or.inl rfl
    · split
      · exact Or.inl rfl
      · exact Or.inr rfl

/-- After any requests the providers are both installed or both not, and a start makes none where
they are installed. Of each kind, every provider that is shut down is one that was made and is shut
down once, and one more has been made than shut down where they are installed, and as many where
they are not. Where they are not installed when the program begins they are not when it ends,
whatever its end. -/
theorem providers_run :
    (∀ requests : List Request,
      let after := run .fresh requests
      after.state.tracer = after.state.meter ∧
      (∀ s, after.state.tracer = true → start s after.state = ⟨after.state, [], []⟩) ∧
      ∀ kind,
        let events := history kind after.calls
        (shutDowns 0 events).Nodup ∧ (∀ n ∈ shutDowns 0 events, 1 ≤ n ∧ n ≤ events.count .made) ∧
          events.count .made = (shutDowns 0 events).length + if after.state.has kind then 1 else 0) ∧
    ∀ (around : Program.Surroundings) (words : List Text) (tree : Disk.Tree),
      (Program.main around words .fresh tree).telemetry = .fresh := by
  refine ⟨fun requests => ?_, fun around words tree => ?_⟩
  · obtain ⟨hpaired, haccounts⟩ := accounts_run requests (Or.inl rfl) 0
    refine ⟨?_, fun s hset => ?_, fun kind => ?_⟩
    · rcases hpaired with h | h <;> rw [h] <;> rfl
    · rw [start, if_pos hset]
    · have hbefore : State.fresh.has kind = false := by cases kind <;> rfl
      have hkind := haccounts kind
      rw [hbefore] at hkind
      obtain ⟨hdistinct, hmade, hbalance⟩ := hkind.bounds
      exact ⟨hdistinct, hmade, hbalance.trans (by cases State.has _ kind <;> rfl)⟩
  · rcases telemetry_main around words .fresh tree with h | h <;> exact h

/-- Requests that come twice, each once too often. -/
def repeatedRequests : List Request :=
  [.start .standard, .start .standard, .stop, .stop, .start .standard]

theorem providers_run_repeatedRequests :
    (run .fresh repeatedRequests).state = .installed ∧
      start .standard .installed = ⟨.installed, [], []⟩ ∧
      ∀ kind, shutDowns 0 (history kind (run .fresh repeatedRequests).calls) = [1] ∧
        1 ≤ (history kind (run .fresh repeatedRequests).calls).count .made ∧
        (history kind (run .fresh repeatedRequests).calls).count .made = 1 + 1 := by
  obtain ⟨-, hstart, hkinds⟩ := providers_run.1 repeatedRequests
  refine ⟨rfl, hstart .standard rfl, fun kind => ?_⟩
  obtain ⟨-, hmade, hbalance⟩ := hkinds kind
  have hnumbers : shutDowns 0 (history kind (run .fresh repeatedRequests).calls) = [1] := by
    cases kind <;> rfl
  have hset : (run .fresh repeatedRequests).state.has kind = true := by cases kind <;> rfl
  rw [hnumbers, hset] at hbalance
  exact ⟨hnumbers, (hmade 1 (hnumbers ▸ List.mem_cons_self)).2, hbalance⟩

end Iconsmith.Telemetry
