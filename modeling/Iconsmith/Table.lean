set_option autoImplicit false

/-!
# Tables

A table maps distinct keys to values and remembers the order in which the keys
came. Setting a key again replaces its value and leaves its place. The rows are
the view of a table: `keys_set` and `get?_set` say what setting does to it.
-/

namespace Iconsmith

/-- Rows with distinct keys, in the order of insertion. -/
@[ext]
structure Table (κ ν : Type) where
  rows : List (κ × ν)
  distinct : (rows.map Prod.fst).Nodup

namespace Table

variable {κ ν : Type} [DecidableEq κ]

instance [DecidableEq ν] : DecidableEq (Table κ ν) := fun s t =>
  decidable_of_iff (s.rows = t.rows) ⟨Table.ext, fun h => h ▸ rfl⟩

/-- The table without rows. -/
def empty : Table κ ν := ⟨[], by simp⟩

instance : EmptyCollection (Table κ ν) := ⟨empty⟩

instance : Inhabited (Table κ ν) := ⟨empty⟩

/-- The keys in order. -/
def keys (t : Table κ ν) : List κ := t.rows.map Prod.fst

/-- The number of rows. -/
def size (t : Table κ ν) : Nat := t.rows.length

/-- The value of a key. -/
def get? (t : Table κ ν) (k : κ) : Option ν := t.rows.lookup k

/-! ## Setting -/

/-- Rows in which `k` has the value `v`: in its old place, or else at the end. -/
def setRows (k : κ) (v : ν) : List (κ × ν) → List (κ × ν)
  | [] => [(k, v)]
  | (l, w) :: rest => if l = k then (l, v) :: rest else (l, w) :: setRows k v rest

theorem map_fst_setRows (k : κ) (v : ν) (rows : List (κ × ν)) :
    (setRows k v rows).map Prod.fst =
      if k ∈ rows.map Prod.fst then rows.map Prod.fst else rows.map Prod.fst ++ [k] := by
  induction rows with
  | nil => simp [setRows]
  | cons row rest ih =>
      obtain ⟨l, w⟩ := row
      by_cases h : l = k
      · simp [setRows, h]
      · have h' : ¬ k = l := fun e => h e.symm
        by_cases hm : k ∈ rest.map Prod.fst
        · rw [if_pos hm] at ih
          rw [if_pos (by simp [h']; simpa using hm)]
          simp [setRows, h, ih]
        · rw [if_neg hm] at ih
          rw [if_neg (by simp [h']; simpa using hm)]
          simp [setRows, h, ih]

/-- The table in which `k` has the value `v`. -/
def set (t : Table κ ν) (k : κ) (v : ν) : Table κ ν where
  rows := setRows k v t.rows
  distinct := by
    rw [map_fst_setRows]
    by_cases h : k ∈ t.rows.map Prod.fst
    · rw [if_pos h]
      exact t.distinct
    · rw [if_neg h, List.nodup_append]
      exact ⟨t.distinct, by simp, fun a ha b hb => by
        simp only [List.mem_singleton] at hb
        rintro rfl
        exact h (hb ▸ ha)⟩

/-- A new key comes last and an old one keeps its place. -/
theorem keys_set (t : Table κ ν) (k : κ) (v : ν) :
    (t.set k v).keys = if k ∈ t.keys then t.keys else t.keys ++ [k] :=
  map_fst_setRows k v t.rows

theorem lookup_setRows (k l : κ) (v : ν) (rows : List (κ × ν)) :
    (setRows k v rows).lookup l = if l = k then some v else rows.lookup l := by
  induction rows with
  | nil =>
      by_cases h : l = k
      · simp [setRows, h]
      · simp [setRows, List.lookup_cons, beq_false_of_ne h, h]
  | cons row rest ih =>
      obtain ⟨m, w⟩ := row
      by_cases h : m = k
      · subst h
        by_cases hl : l = m
        · simp [setRows, hl]
        · simp [setRows, List.lookup_cons, beq_false_of_ne hl, hl]
      · by_cases hl : l = m
        · subst hl
          simp [setRows, h]
        · simp [setRows, h, List.lookup_cons, beq_false_of_ne hl, ih]

/-- Setting changes the value of its key and of no other. -/
theorem get?_set (t : Table κ ν) (k l : κ) (v : ν) :
    (t.set k v).get? l = if l = k then some v else t.get? l :=
  lookup_setRows k l v t.rows

/-- The table of a list of pairs; the last pair of a key gives its value. -/
def ofList (pairs : List (κ × ν)) : Table κ ν :=
  pairs.foldl (fun t pair => t.set pair.1 pair.2) empty

/-- The rows of `s` set in `t`, one after another. -/
def update (t s : Table κ ν) : Table κ ν :=
  s.rows.foldl (fun t pair => t.set pair.1 pair.2) t

/-! ## Selecting and sorting -/

/-- The table without the rows whose key fails the test. -/
def filterKeys (keep : κ → Bool) (t : Table κ ν) : Table κ ν where
  rows := t.rows.filter fun row => keep row.1
  distinct := t.distinct.sublist (List.filter_sublist.map Prod.fst)

/-- The table without one key. -/
def erase (t : Table κ ν) (k : κ) : Table κ ν := t.filterKeys fun l => !decide (l = k)

/-- The rows sorted by key, where `le` is the order of the keys. -/
def sortedByKey (le : κ → κ → Bool) (t : Table κ ν) : Table κ ν where
  rows := t.rows.mergeSort fun a b => le a.1 b.1
  distinct := ((List.mergeSort_perm t.rows _).map Prod.fst).nodup_iff.2 t.distinct

end Table

end Iconsmith
