import Iconsmith.Assets.Completeness
import Iconsmith.Proofs.Table
import Mathlib.Data.List.Nodup
import Mathlib.Data.List.Perm.Subperm
import Mathlib.Data.Set.Function

set_option autoImplicit false

/-!
# Complete records

A record is complete when its keys name the six weights in some order (`isComplete_iff_perm`). Two
functions look at the keys: `isComplete` stops at a key that names no weight or one that has been
named, and `missing` passes over such keys. They agree about records of six keys, and about records
whose keys are weights; the weights that are missing are then those that are no keys
(`isComplete_iff`).
-/

namespace Iconsmith.Assets

/-! ## Keys and the weights that they name -/

/-- Keys complete what has been seen when each names a new weight, no two name the same one, and
with those that were seen there are six. -/
theorem completes_iff (seen : List Weight) (keys : List WeightKey) :
    completes seen keys = true ↔
      (∀ named ∈ keys.map WeightKey.weight?, ∃ w, named = some w ∧ w ∉ seen) ∧
        (keys.map WeightKey.weight?).Nodup ∧
          seen.length + keys.length = Weight.all.length := by
  -- On the keys; what has been seen grows by the weight that a key names.
  induction keys generalizing seen with
  | nil => simp [completes]
  | cons key keys ih =>
      rw [completes, List.map_cons, List.forall_mem_cons, List.nodup_cons]
      cases hkey : key.weight? with
      | none => simp
      | some w =>
          have hrest := ih (w :: seen)
          rw [Bool.and_eq_true, hrest]
          simp only [Bool.not_eq_true', List.contains_eq_mem, decide_eq_false_iff_not,
            List.mem_cons, not_or, List.length_cons]
          constructor
          · rintro ⟨hw, hnew, hdistinct, hlength⟩
            refine ⟨⟨⟨w, rfl, hw⟩, fun named hnamed => ?_⟩, ⟨fun hmem => ?_, hdistinct⟩, by omega⟩
            · obtain ⟨v, hv, -, hseen⟩ := hnew named hnamed
              exact ⟨v, hv, hseen⟩
            · -- A later key for the same weight would name one that has been seen.
              obtain ⟨v, hv, hne, -⟩ := hnew _ hmem
              exact hne (Option.some.inj hv).symm
          · rintro ⟨⟨⟨v, hv, hw⟩, hnew⟩, ⟨honce, hdistinct⟩, hlength⟩
            obtain rfl := Option.some.inj hv
            refine ⟨hw, fun named hnamed => ?_, hdistinct, by omega⟩
            obtain ⟨u, rfl, hu⟩ := hnew named hnamed
            refine ⟨u, rfl, ?_, hu⟩
            rintro rfl
            exact honce hnamed

theorem nodup_map_some_all : (Weight.all.map some).Nodup := by decide

theorem some_mem_map_some_all (w : Weight) : some w ∈ Weight.all.map some :=
  List.mem_map_of_mem (Weight.mem_all w)

/-- A record is complete when its keys name the weights in some order. -/
theorem isComplete_iff_perm {keys : List WeightKey} :
    isComplete keys = true ↔ (keys.map WeightKey.weight?).Perm (Weight.all.map some) := by
  rw [isComplete, completes_iff]
  constructor
  · -- Distinct weights are some of the six, and as there are six they are all of them.
    rintro ⟨hnamed, hdistinct, hlength⟩
    have hsub : (keys.map WeightKey.weight?).Subperm (Weight.all.map some) := by
      apply List.subperm_of_subset hdistinct
      intro named hmem
      obtain ⟨w, rfl, -⟩ := hnamed named hmem
      exact some_mem_map_some_all w
    apply hsub.perm_of_length_le
    simpa using Nat.le_of_eq hlength.symm
  · intro hperm
    refine ⟨fun named hmem => ?_, hperm.nodup_iff.2 nodup_map_some_all, ?_⟩
    · obtain ⟨w, -, rfl⟩ := List.mem_map.1 (hperm.mem_iff.1 hmem)
      exact ⟨w, rfl, List.not_mem_nil⟩
    · simpa using hperm.length_eq

/-- A weight is missing when no key names it. -/
theorem mem_missing {keys : List WeightKey} {w : Weight} :
    w ∈ missing keys ↔ some w ∉ keys.map WeightKey.weight? := by
  simp [missing, Weight.mem_all]

theorem missing_eq_nil_iff {keys : List WeightKey} :
    missing keys = [] ↔ ∀ w, some w ∈ keys.map WeightKey.weight? := by
  rw [List.eq_nil_iff_forall_not_mem]
  simp only [mem_missing, not_not]

/-! ## Complete records -/

/-- A record is complete when it has six keys and no weight is missing. -/
theorem isComplete_iff_missing {keys : List WeightKey} :
    isComplete keys = true ↔ missing keys = [] ∧ keys.length = Weight.all.length := by
  rw [isComplete_iff_perm, missing_eq_nil_iff]
  constructor
  · intro hperm
    refine ⟨fun w => hperm.mem_iff.2 (some_mem_map_some_all w), ?_⟩
    simpa using hperm.length_eq
  · rintro ⟨hall, hlength⟩
    -- The six weights are among what six keys name, so there is no room for anything else.
    have hsub : (Weight.all.map some).Subperm (keys.map WeightKey.weight?) := by
      apply List.subperm_of_subset nodup_map_some_all
      intro named hmem
      obtain ⟨w, -, rfl⟩ := List.mem_map.1 hmem
      exact hall w
    refine (hsub.perm_of_length_le ?_).symm
    simpa using Nat.le_of_eq hlength

/-- Distinct keys make a complete record when they stand for the weights one to one. -/
theorem isComplete_iff_bijOn {keys : List WeightKey} (hkeys : keys.Nodup) :
    isComplete keys = true ↔
      Set.BijOn WeightKey.weight? {key | key ∈ keys} (Set.range some) := by
  rw [isComplete_iff_perm]
  constructor
  · intro hperm
    refine ⟨?_, ?_, ?_⟩
    · intro key hkey
      obtain ⟨w, -, hw⟩ := List.mem_map.1 (hperm.mem_iff.1 (List.mem_map_of_mem hkey))
      exact ⟨w, hw⟩
    · -- Two keys that name one weight would name it twice, and none is named twice.
      intro key hkey other hother heq
      exact List.inj_on_of_nodup_map (hperm.nodup_iff.2 nodup_map_some_all) hkey hother heq
    · rintro named ⟨w, rfl⟩
      exact List.mem_map.1 (hperm.mem_iff.2 (some_mem_map_some_all w))
  · rintro ⟨hnamed, hinjective, hall⟩
    have hdistinct : (keys.map WeightKey.weight?).Nodup :=
      List.Nodup.map_on (fun key hkey other hother heq => hinjective hkey hother heq) hkeys
    rw [List.perm_ext_iff_of_nodup hdistinct nodup_map_some_all]
    intro named
    constructor
    · intro hmem
      obtain ⟨key, hkey, rfl⟩ := List.mem_map.1 hmem
      obtain ⟨w, hw⟩ := hnamed hkey
      exact hw ▸ some_mem_map_some_all w
    · intro hmem
      obtain ⟨w, -, rfl⟩ := List.mem_map.1 hmem
      exact List.mem_map.2 (hall ⟨w, rfl⟩)

/-! ## Records whose keys are weights -/

/-- Whether a key is a weight, and not a text that may name one. -/
def WeightKey.IsWeight (key : WeightKey) : Prop := ∃ w, key = .weight w

instance : DecidablePred WeightKey.IsWeight
  | .weight w => isTrue ⟨w, rfl⟩
  | .named _ => isFalse fun ⟨_, h⟩ => WeightKey.noConfusion h

theorem some_mem_map_weight?_iff {keys : List WeightKey} (hkeys : ∀ key ∈ keys, key.IsWeight)
    {w : Weight} : some w ∈ keys.map WeightKey.weight? ↔ .weight w ∈ keys := by
  constructor
  · intro hmem
    obtain ⟨key, hkey, hw⟩ := List.mem_map.1 hmem
    obtain ⟨v, rfl⟩ := hkeys key hkey
    obtain rfl := Option.some.inj hw
    exact hkey
  · exact fun hmem => List.mem_map.2 ⟨_, hmem, rfl⟩

/-- The weights that are missing are those that are no keys. -/
theorem missing_eq_filter {keys : List WeightKey} (hkeys : ∀ key ∈ keys, key.IsWeight) :
    missing keys = Weight.all.filter fun w => .weight w ∉ keys := by
  apply List.filter_congr
  intro w _
  have hnamed := some_mem_map_weight?_iff hkeys (w := w)
  simp only [List.contains_eq_mem, List.mem_filterMap, ← List.mem_map, hnamed, decide_not]

/-- Distinct weights are a complete record as soon as none is missing. -/
theorem isComplete_iff_missing_eq_nil {keys : List WeightKey} (hdistinct : keys.Nodup)
    (hkeys : ∀ key ∈ keys, key.IsWeight) : isComplete keys = true ↔ missing keys = [] := by
  constructor
  · exact fun h => (isComplete_iff_missing.1 h).1
  · intro h
    rw [missing_eq_nil_iff] at h
    rw [isComplete_iff_bijOn hdistinct]
    refine ⟨?_, ?_, ?_⟩
    · intro key hkey
      obtain ⟨w, rfl⟩ := hkeys key hkey
      exact ⟨w, rfl⟩
    · intro key hkey other hother heq
      obtain ⟨w, rfl⟩ := hkeys key hkey
      obtain ⟨v, rfl⟩ := hkeys other hother
      exact congrArg WeightKey.weight (Option.some.inj heq)
    · rintro named ⟨w, rfl⟩
      exact List.mem_map.1 (h w)

/-- Distinct weights are all weights exactly if there are six of them. -/
theorem length_eq_iff_forall_mem {weights : List Weight} (hdistinct : weights.Nodup) :
    weights.length = Weight.all.length ↔ ∀ w, w ∈ weights := by
  have hsub : weights.Subperm Weight.all :=
    List.subperm_of_subset hdistinct fun w _ => Weight.mem_all w
  constructor
  · intro hlength w
    have hperm := hsub.perm_of_length_le (Nat.le_of_eq hlength.symm)
    exact hperm.mem_iff.2 (Weight.mem_all w)
  · intro hall
    have hother : Weight.all.Subperm weights :=
      List.subperm_of_subset (by decide) fun w _ => hall w
    exact Nat.le_antisymm hsub.length_le hother.length_le

/-- A record of drawings is complete when every weight has one. -/
theorem isComplete_keysOf (record : Record) :
    isComplete (keysOf record) = true ↔ ∀ w, (record.get? w).isSome := by
  have hkeys : ∀ key ∈ keysOf record, key.IsWeight := by
    intro key hkey
    obtain ⟨w, -, rfl⟩ := List.mem_map.1 hkey
    exact ⟨w, rfl⟩
  have hweight : Function.Injective WeightKey.weight := fun _ _ h => WeightKey.weight.inj h
  have hdistinct : (keysOf record).Nodup := List.Nodup.map hweight record.distinct
  rw [isComplete_iff_missing_eq_nil hdistinct hkeys, missing_eq_nil_iff]
  apply forall_congr'
  intro w
  rw [some_mem_map_weight?_iff hkeys, keysOf, List.mem_map_of_injective hweight,
    Table.isSome_get?_iff]

/-! ## Agreement -/

/-- A record is complete exactly if it has six keys and no weight is missing, which is to say that
its keys stand for the six weights one to one. When its keys are weights and it is not complete,
some weight is missing; the weights that are missing are then those that are no keys, in canonical
order. -/
theorem isComplete_iff (record : Table WeightKey Text) :
    (isComplete record.keys = true ↔ missing record.keys = [] ∧ record.size = 6) ∧
      (isComplete record.keys = true ↔
        Set.BijOn WeightKey.weight? {key | key ∈ record.keys} (Set.range some)) ∧
      (isComplete record.keys = false → (∀ key ∈ record.keys, key.IsWeight) →
        missing record.keys ≠ [] ∧
          missing record.keys = Weight.all.filter fun w => .weight w ∉ record.keys) := by
  have hdistinct : record.keys.Nodup := record.distinct
  have hsize : record.keys.length = record.size := List.length_map _
  refine ⟨?_, isComplete_iff_bijOn hdistinct, fun hincomplete hkeys => ⟨?_, ?_⟩⟩
  · rw [isComplete_iff_missing, hsize]
    exact Iff.rfl
  · intro hnone
    rw [(isComplete_iff_missing_eq_nil hdistinct hkeys).2 hnone] at hincomplete
    cases hincomplete
  · exact missing_eq_filter hkeys

/-- A record with the six weights, some as they are and some by name. -/
def mixedRecord : Table WeightKey Text :=
  Table.ofList [(.named " BOLD ".toList, "b".toList), (.weight .thin, "t".toList),
    (.named "Regular".toList, "r".toList), (.weight .fill, "f".toList),
    (.named "light".toList, "l".toList), (.named "DuoTone".toList, "d".toList)]

/-- A record with three of the weights. -/
def partialRecord : Table WeightKey Text :=
  Table.ofList [(.weight .fill, "f".toList), (.weight .thin, "t".toList),
    (.weight .regular, "r".toList)]

theorem isComplete_iff_mixedRecord :
    (missing mixedRecord.keys = [] ∧ mixedRecord.size = 6 ∧
        Set.BijOn WeightKey.weight? {key | key ∈ mixedRecord.keys} (Set.range some)) ∧
      isComplete partialRecord.keys = false ∧
        (∀ key ∈ partialRecord.keys, key.IsWeight) ∧ missing partialRecord.keys ≠ [] ∧
          missing partialRecord.keys = [.light, .bold, .duotone] := by
  obtain ⟨hmissing, hbijective, -⟩ := isComplete_iff mixedRecord
  have hcomplete : isComplete mixedRecord.keys = true := by decide
  obtain ⟨hnone, hsize⟩ := hmissing.1 hcomplete
  obtain ⟨-, -, hlisted⟩ := isComplete_iff partialRecord
  have hincomplete : isComplete partialRecord.keys = false := by decide
  have hkeys : ∀ key ∈ partialRecord.keys, key.IsWeight := by decide
  obtain ⟨hsome, hfilter⟩ := hlisted hincomplete hkeys
  exact ⟨⟨hnone, hsize, hbijective.1 hcomplete⟩, hincomplete, hkeys, hsome,
    hfilter.trans (by decide)⟩

end Iconsmith.Assets
