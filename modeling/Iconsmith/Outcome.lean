set_option autoImplicit false

/-!
# Outcomes

What a computation leaves behind: the events it reported, in order, and a result
or the fault that stopped it. Events that were reported before a fault are kept.
-/

namespace Iconsmith

/-- Reported events and a result or a fault. -/
structure Outcome (ε φ α : Type) where
  events : List ε
  result : Except φ α

namespace Outcome

variable {ε φ α β : Type}

/-- An outcome without events. -/
def of (result : Except φ α) : Outcome ε φ α := ⟨[], result⟩

/-- An outcome that is nothing but events. -/
def report (events : List ε) : Outcome ε φ Unit := ⟨events, .ok ()⟩

/-- One computation after another; a fault of the first stops both. -/
def bind (x : Outcome ε φ α) (f : α → Outcome ε φ β) : Outcome ε φ β :=
  match x.result with
  | .error e => ⟨x.events, .error e⟩
  | .ok a => ⟨x.events ++ (f a).events, (f a).result⟩

instance : Monad (Outcome ε φ) where
  pure a := of (.ok a)
  bind := bind

instance : MonadExcept φ (Outcome ε φ) where
  throw e := of (.error e)
  tryCatch x handle :=
    match x.result with
    | .error e => ⟨x.events ++ (handle e).events, (handle e).result⟩
    | .ok _ => x

/-- The same outcome with its events and faults renamed. -/
def map {ε' φ' : Type} (event : ε → ε') (fault : φ → φ') (x : Outcome ε φ α) :
    Outcome ε' φ' α :=
  ⟨x.events.map event, x.result.mapError fault⟩

/-! ## Equations -/

theorem bind_of_ok (events : List ε) (a : α) (f : α → Outcome ε φ β) :
    bind ⟨events, .ok a⟩ f = ⟨events ++ (f a).events, (f a).result⟩ := rfl

/-- The result of two computations does not depend on their events. -/
theorem result_bind (x : Outcome ε φ α) (f : α → Outcome ε φ β) :
    (bind x f).result = (match x.result with | .ok a => (f a).result | .error e => .error e) := by
  cases x with
  | mk events result => cases result <;> rfl

/-- After a computation that gives a result, the next one decides. -/
theorem result_bind_of_ok {x : Outcome ε φ α} {a : α} (f : α → Outcome ε φ β)
    (h : x.result = .ok a) : (x >>= f).result = (f a).result := by
  obtain ⟨events, result⟩ := x
  cases h
  rfl

/-- The events of a computation that gives a result come before those of the next. -/
theorem events_bind_of_ok {x : Outcome ε φ α} {a : α} (f : α → Outcome ε φ β)
    (h : x.result = .ok a) : (x >>= f).events = x.events ++ (f a).events := by
  obtain ⟨events, result⟩ := x
  cases h
  rfl

/-- The events of a computation that fails are all there is. -/
theorem events_bind_of_error {x : Outcome ε φ α} {fault : φ} (f : α → Outcome ε φ β)
    (h : x.result = .error fault) : (x >>= f).events = x.events := by
  obtain ⟨events, result⟩ := x
  cases h
  rfl

/-- Two computations give a result when both do. -/
theorem exists_of_bind_eq_ok {x : Outcome ε φ α} {f : α → Outcome ε φ β} {b : β}
    (h : (x >>= f).result = .ok b) : ∃ a, x.result = .ok a ∧ (f a).result = .ok b := by
  have hresult := result_bind x f
  cases hx : x.result with
  | error e =>
      rw [hx] at hresult
      exact absurd (hresult.symm.trans h) (by simp)
  | ok a =>
      rw [hx] at hresult
      exact ⟨a, rfl, hresult.symm.trans h⟩

/-- Two computations fail when the first does, or when the second does after it. -/
theorem bind_eq_error {x : Outcome ε φ α} {f : α → Outcome ε φ β} {fault : φ} :
    (x >>= f).result = .error fault ↔
      x.result = .error fault ∨ ∃ a, x.result = .ok a ∧ (f a).result = .error fault := by
  have hresult : (x >>= f).result = _ := result_bind x f
  rw [hresult]
  cases x.result with
  | error e => simp
  | ok a => simp

/-- A renamed computation gives what it gives otherwise. -/
theorem map_eq_ok {ε' φ' : Type} {event : ε → ε'} {fault : φ → φ'} {x : Outcome ε φ α} {a : α} :
    (x.map event fault).result = .ok a ↔ x.result = .ok a := by
  obtain ⟨events, result⟩ := x
  constructor
  · intro h
    cases result with
    | ok b =>
        cases h
        rfl
    | error e => cases h
  · rintro rfl
    rfl

end Outcome

end Iconsmith
