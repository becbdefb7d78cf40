import Iconsmith.Outcome

set_option autoImplicit false

/-!
# Going through lists

Many computations go through a list and carry a state from item to item; the first fault stops
them. What each step does to the state is lifted here to what all of them do, by induction on the
list. So it is with two computations that go through a list side by side (`Related`).
-/

namespace Iconsmith.Outcome

variable {ε φ α β : Type} {f : β → α → Outcome ε φ β} {as : List α}

/-- What follows on a result is all that a computation depends on after it. -/
theorem bind_congr_of_ok {x : Outcome ε φ α} {a : α} {g h : α → Outcome ε φ β}
    (hx : x.result = .ok a) (hnext : g a = h a) : (x >>= g) = (x >>= h) := by
  obtain ⟨events, result⟩ := x
  obtain rfl : result = .ok a := hx
  show bind _ g = bind _ h
  rw [bind_of_ok, bind_of_ok, hnext]

/-- Steps that are the same for every item of a list are the same for all of it. -/
theorem foldlM_congr {g : β → α → Outcome ε φ β} (h : ∀ a ∈ as, ∀ b, f b a = g b a) (b : β) :
    as.foldlM f b = as.foldlM g b := by
  induction as generalizing b with
  | nil => rfl
  | cons a as ih =>
      obtain ⟨hfirst, hrest⟩ := List.forall_mem_cons.1 h
      rw [List.foldlM_cons, List.foldlM_cons, hfirst]
      exact congrArg _ (funext (ih hrest))

/-- Steps without events and faults are an ordinary fold. -/
theorem foldlM_eq_pure {g : β → α → β} (h : ∀ a ∈ as, ∀ b, f b a = pure (g b a)) (b : β) :
    as.foldlM f b = pure (as.foldl g b) := by
  induction as generalizing b with
  | nil => rfl
  | cons a as ih =>
      obtain ⟨hfirst, hrest⟩ := List.forall_mem_cons.1 h
      rw [List.foldlM_cons, hfirst]
      exact ih hrest (g b a)

/-- Steps without faults give what an ordinary fold gives. -/
theorem result_foldlM {g : β → α → β} (h : ∀ a ∈ as, ∀ b, (f b a).result = .ok (g b a)) (b : β) :
    (as.foldlM f b).result = .ok (as.foldl g b) := by
  induction as generalizing b with
  | nil => rfl
  | cons a as ih =>
      obtain ⟨hfirst, hrest⟩ := List.forall_mem_cons.1 h
      rw [List.foldlM_cons, result_bind_of_ok _ (hfirst b)]
      exact ih hrest (g b a)

/-- Of events of one kind, steps without faults leave what each of them leaves, in order. -/
theorem filter_events_foldlM {g : β → α → β} {p : ε → Bool} {left : α → List ε}
    (h : ∀ a ∈ as, ∀ b, (f b a).result = .ok (g b a) ∧ (f b a).events.filter p = left a) (b : β) :
    (as.foldlM f b).events.filter p = as.flatMap left := by
  induction as generalizing b with
  | nil => rfl
  | cons a as ih =>
      obtain ⟨hfirst, hrest⟩ := List.forall_mem_cons.1 h
      rw [List.foldlM_cons, events_bind_of_ok _ (hfirst b).1, List.filter_append, (hfirst b).2,
        ih hrest, List.flatMap_cons]

/-- What every step keeps is kept by all of them. -/
theorem invariant_of_foldlM {P : β → Prop} {b c : β}
    (hstep : ∀ a ∈ as, ∀ b c, P b → (f b a).result = .ok c → P c) (hb : P b)
    (h : (as.foldlM f b).result = .ok c) : P c := by
  induction as generalizing b with
  | nil =>
      cases h
      exact hb
  | cons a as ih =>
      obtain ⟨hfirst, hrest⟩ := List.forall_mem_cons.1 hstep
      rw [List.foldlM_cons] at h
      obtain ⟨middle, hmiddle, hmore⟩ := exists_of_bind_eq_ok h
      exact ih hrest (hfirst b middle hb hmiddle) hmore

/-- When all steps have been made, each of them has. -/
theorem exists_of_foldlM {b c : β} (h : (as.foldlM f b).result = .ok c) :
    ∀ a ∈ as, ∃ before after, (f before a).result = .ok after := by
  induction as generalizing b with
  | nil =>
      intro a ha
      cases ha
  | cons a as ih =>
      rw [List.foldlM_cons] at h
      obtain ⟨middle, hmiddle, hmore⟩ := exists_of_bind_eq_ok h
      exact List.forall_mem_cons.2 ⟨⟨b, middle, hmiddle⟩, ih hmore⟩

/-- Steps of which each can be made or not, whatever has been done before, can all be made if
each of them can. -/
theorem exists_foldlM_iff {P : α → Prop}
    (h : ∀ a ∈ as, ∀ b, (∃ c, (f b a).result = .ok c) ↔ P a) (b : β) :
    (∃ c, (as.foldlM f b).result = .ok c) ↔ ∀ a ∈ as, P a := by
  constructor
  · rintro ⟨c, hc⟩ a ha
    obtain ⟨before, after, hafter⟩ := exists_of_foldlM hc a ha
    exact (h a ha before).1 ⟨after, hafter⟩
  · intro hall
    induction as generalizing b with
    | nil => exact ⟨b, rfl⟩
    | cons a as ih =>
        obtain ⟨hfirst, hrest⟩ := List.forall_mem_cons.1 h
        obtain ⟨ha, hmore⟩ := List.forall_mem_cons.1 hall
        obtain ⟨middle, hmiddle⟩ := (hfirst b).2 ha
        rw [List.foldlM_cons, result_bind_of_ok _ hmiddle]
        exact ih hrest middle hmore

/-- More steps go on from the result of the first ones. -/
theorem result_foldlM_append {more : List α} {b c : β} (h : (as.foldlM f b).result = .ok c) :
    ((as ++ more).foldlM f b).result = (more.foldlM f c).result := by
  induction as generalizing b with
  | nil =>
      cases h
      rfl
  | cons a as ih =>
      rw [List.foldlM_cons] at h
      obtain ⟨middle, hmiddle, hrest⟩ := exists_of_bind_eq_ok h
      rw [List.cons_append, List.foldlM_cons, result_bind_of_ok _ hmiddle]
      exact ih hrest

/-- What has stopped the first steps has stopped all of them. -/
theorem foldlM_append_eq_error {more : List α} {b : β} {fault : φ}
    (h : (as.foldlM f b).result = .error fault) :
    ((as ++ more).foldlM f b).result = .error fault := by
  induction as generalizing b with
  | nil => cases h
  | cons a as ih =>
      rw [List.foldlM_cons] at h
      rw [List.cons_append, List.foldlM_cons]
      rcases bind_eq_error.1 h with hfirst | ⟨middle, hmiddle, hrest⟩
      · exact bind_eq_error.2 (Or.inl hfirst)
      · exact bind_eq_error.2 (Or.inr ⟨middle, hmiddle, ih hrest⟩)

/-! ## Two computations -/

variable {γ δ : Type}

/-- Two computations that fail for the same fault, or give results that are related. -/
inductive Related (R : α → β → Prop) (x : Outcome ε φ α) (y : Outcome ε φ β) : Prop where
  | failed (fault : φ) : x.result = .error fault → y.result = .error fault → Related R x y
  | done (a : α) (b : β) : x.result = .ok a → y.result = .ok b → R a b → Related R x y

theorem Related.of_eq {R : α → α → Prop} (hR : ∀ a, R a a) {x y : Outcome ε φ α}
    (h : x.result = y.result) : Related R x y := by
  cases hx : x.result with
  | error fault => exact .failed fault hx (h ▸ hx)
  | ok a => exact .done a a hx (h ▸ hx) (hR a)

theorem Related.bind {R : α → β → Prop} {S : γ → δ → Prop} {x : Outcome ε φ α}
    {y : Outcome ε φ β} {f : α → Outcome ε φ γ} {g : β → Outcome ε φ δ} (h : Related R x y)
    (hnext : ∀ a b, R a b → Related S (f a) (g b)) : Related S (x >>= f) (y >>= g) := by
  cases h with
  | failed fault hx hy =>
      exact .failed fault (bind_eq_error.2 (Or.inl hx)) (bind_eq_error.2 (Or.inl hy))
  | done a b hx hy hab =>
      have hf := result_bind_of_ok f hx
      have hg := result_bind_of_ok g hy
      cases hnext a b hab with
      | failed fault ha hb => exact .failed fault (hf.trans ha) (hg.trans hb)
      | done c d ha hb hcd => exact .done c d (hf.trans ha) (hg.trans hb) hcd

/-- Side by side, steps that keep a relation keep it all the way. -/
theorem Related.foldlM {R : β → γ → Prop} {g : γ → α → Outcome ε φ γ} {b : β} {c : γ}
    (hstep : ∀ a ∈ as, ∀ b c, R b c → Related R (f b a) (g c a)) (h : R b c) :
    Related R (as.foldlM f b) (as.foldlM g c) := by
  induction as generalizing b c with
  | nil => exact .done b c rfl rfl h
  | cons a as ih =>
      obtain ⟨hfirst, hrest⟩ := List.forall_mem_cons.1 hstep
      rw [List.foldlM_cons, List.foldlM_cons]
      exact (hfirst b c h).bind fun b c h => ih hrest h

theorem Related.error_iff {R : α → β → Prop} {x : Outcome ε φ α} {y : Outcome ε φ β}
    (h : Related R x y) (fault : φ) : x.result = .error fault ↔ y.result = .error fault := by
  cases h with
  | failed other hx hy => rw [hx, hy, Except.error.injEq, Except.error.injEq]
  | done a b hx hy _ =>
      rw [hx, hy]
      exact iff_of_false nofun nofun

theorem Related.of_ok {R : α → β → Prop} {x : Outcome ε φ α} {y : Outcome ε φ β} {a : α}
    (h : Related R x y) (hx : x.result = .ok a) : ∃ b, y.result = .ok b ∧ R a b := by
  cases h with
  | failed fault hfault _ => cases hfault.symm.trans hx
  | done other b hother hy hab =>
      cases hother.symm.trans hx
      exact ⟨b, hy, hab⟩

end Iconsmith.Outcome
