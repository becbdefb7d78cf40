import Iconsmith.Table
import Mathlib.Data.List.Induction
import Mathlib.Data.List.Nodup

set_option autoImplicit false

/-!
# Tables and their rows

A table is seen through `get?` and through its rows. Erasing a key takes its value away and no
other; rows with distinct keys make a table with just these rows (`rows_ofList`).
-/

namespace Iconsmith.Table

/-! ## Looking rows up -/

/-- In rows with distinct keys every row is the one that is found for its key. -/
theorem lookup_of_nodup {κ ν : Type} [BEq κ] [LawfulBEq κ] {rows : List (κ × ν)}
    (hdistinct : (rows.map Prod.fst).Nodup) {row : κ × ν} (hrow : row ∈ rows) :
    rows.lookup row.1 = some row.2 := by
  induction rows with
  | nil => cases hrow
  | cons first rows ih =>
      rw [List.map_cons, List.nodup_cons] at hdistinct
      rcases List.mem_cons.1 hrow with rfl | hrow
      · rw [List.lookup_cons, beq_self_eq_true]
      · have hne : row.1 ≠ first.1 := fun heq =>
          hdistinct.1 (heq ▸ List.mem_map_of_mem hrow)
        rw [List.lookup_cons, beq_false_of_ne hne]
        exact ih hdistinct.2 hrow

/-- Distinct keys are kept as they are where repeated ones are left out. -/
theorem eraseDups_of_nodup {κ : Type} [BEq κ] [LawfulBEq κ] {keys : List κ} (h : keys.Nodup) :
    keys.eraseDups = keys := by
  induction keys with
  | nil => rfl
  | cons k keys ih =>
      obtain ⟨hk, hkeys⟩ := List.nodup_cons.1 h
      have hothers : keys.filter (fun l => !l == k) = keys := by
        rw [List.filter_eq_self]
        intro l hl
        have hne : l ≠ k := fun heq => hk (heq ▸ hl)
        simp [hne]
      rw [List.eraseDups_cons, hothers, ih hkeys]

theorem keys_sortedByKey {κ ν : Type} (le : κ → κ → Bool) (t : Table κ ν) :
    (t.sortedByKey le).keys = t.keys.mergeSort le :=
  List.map_mergeSort fun _ _ _ _ => rfl

/-! ## Values of keys -/

variable {κ ν : Type} [DecidableEq κ]

/-- A table without a key has lost the value of that key and of no other. -/
theorem get?_erase (t : Table κ ν) (k l : κ) :
    (t.erase k).get? l = if l = k then none else t.get? l := by
  obtain ⟨rows, distinct⟩ := t
  simp only [get?, erase, filterKeys]
  clear distinct
  induction rows with
  | nil => simp
  | cons row rest ih =>
      obtain ⟨m, w⟩ := row
      -- On the rows: the one of the key is left out, and any other is found as before.
      by_cases hm : m = k
      · subst hm
        rw [List.filter_cons_of_neg (by simp), ih]
        by_cases hl : l = m
        · simp [hl]
        · simp [hl, List.lookup_cons, beq_false_of_ne hl]
      · rw [List.filter_cons_of_pos (by simpa using hm), List.lookup_cons, List.lookup_cons, ih]
        by_cases hl : l = m
        · subst hl
          simp [hm]
        · simp [beq_false_of_ne hl]

theorem keys_erase (t : Table κ ν) (k : κ) :
    (t.erase k).keys = t.keys.filter fun l => l ≠ k := by
  rw [keys, keys, erase, filterKeys, List.filter_map]
  exact congrArg _ (List.filter_congr fun row _ => by simp)

/-- A key has a value exactly if it is one of the keys. -/
theorem isSome_get?_iff (t : Table κ ν) (k : κ) : (t.get? k).isSome ↔ k ∈ t.keys := by
  obtain ⟨rows, distinct⟩ := t
  simp only [get?, keys]
  clear distinct
  induction rows with
  | nil => simp
  | cons row rest ih =>
      rw [List.lookup_cons, List.map_cons, List.mem_cons]
      by_cases hk : k = row.1
      · simp [hk]
      · rw [beq_false_of_ne hk, ih]
        simp [hk]

/-- A key that has a value is one of the keys. -/
theorem mem_keys_of_get? {t : Table κ ν} {k : κ} {v : ν} (h : t.get? k = some v) :
    k ∈ t.keys :=
  (isSome_get?_iff t k).1 (by rw [h]; rfl)

/-- The rows of a table are its keys with their values. -/
theorem get?_eq_some_iff {t : Table κ ν} {k : κ} {v : ν} :
    t.get? k = some v ↔ (k, v) ∈ t.rows := by
  constructor
  · intro h
    obtain ⟨before, after, hrows, -⟩ := List.lookup_eq_some_iff.1 h
    rw [hrows]
    exact List.mem_append_right _ List.mem_cons_self
  · exact fun h => lookup_of_nodup t.distinct h

/-- Tables with the same rows, in whatever order, have the same values. -/
theorem get?_eq_of_perm {s t : Table κ ν} (h : s.rows.Perm t.rows) (k : κ) :
    s.get? k = t.get? k :=
  Option.ext fun v => by rw [get?_eq_some_iff, get?_eq_some_iff, h.mem_iff]

/-- A table is given by its keys in order and their values. -/
theorem eq_of_keys_eq {s t : Table κ ν} (hkeys : s.keys = t.keys)
    (h : ∀ k, s.get? k = t.get? k) : s = t := by
  refine Table.ext (List.ext_getElem ?_ fun n hs ht => ?_)
  · simpa [keys] using congrArg List.length hkeys
  · have hkey : s.rows[n].1 = t.rows[n].1 := by
      have hnth := congrArg (fun keys : List κ => keys[n]?) hkeys
      simpa [keys, List.getElem?_map, hs, ht] using hnth
    have hrow : s.get? s.rows[n].1 = some s.rows[n].2 :=
      lookup_of_nodup s.distinct (List.getElem_mem hs)
    have hother : t.get? t.rows[n].1 = some t.rows[n].2 :=
      lookup_of_nodup t.distinct (List.getElem_mem ht)
    rw [h, hkey, hother, Option.some.injEq] at hrow
    exact Prod.ext hkey hrow.symm

/-- Sorting changes no value. -/
theorem get?_sortedByKey (le : κ → κ → Bool) (t : Table κ ν) (k : κ) :
    (t.sortedByKey le).get? k = t.get? k := by
  ext v
  rw [get?_eq_some_iff, get?_eq_some_iff]
  exact (List.mergeSort_perm t.rows _).mem_iff

theorem setRows_eq_self {k : κ} {v : ν} {rows : List (κ × ν)} (h : rows.lookup k = some v) :
    setRows k v rows = rows := by
  induction rows with
  | nil => cases h
  | cons row rows ih =>
      rw [setRows]
      by_cases hk : row.1 = k
      · rw [List.lookup_cons, hk, beq_self_eq_true] at h
        rw [if_pos hk, ← Option.some.inj h]
      · rw [List.lookup_cons, beq_false_of_ne (Ne.symm hk)] at h
        rw [if_neg hk, ih h]

/-- Setting a key to the value that it has changes nothing. -/
theorem set_eq_self {t : Table κ ν} {k : κ} {v : ν} (h : t.get? k = some v) : t.set k v = t :=
  Table.ext (setRows_eq_self h)

/-! ## Tables of rows -/

theorem setRows_of_not_mem {k : κ} (v : ν) {rows : List (κ × ν)}
    (h : k ∉ rows.map Prod.fst) : setRows k v rows = rows ++ [(k, v)] := by
  induction rows with
  | nil => rfl
  | cons row rows ih =>
      rw [List.map_cons, List.mem_cons, not_or] at h
      rw [setRows, if_neg (Ne.symm h.1), ih h.2]
      rfl

/-- Rows with new and distinct keys are set one after another at the end. -/
theorem rows_foldl_set (rows : List (κ × ν)) (t : Table κ ν)
    (h : ((t.rows ++ rows).map Prod.fst).Nodup) :
    (rows.foldl (fun t pair => t.set pair.1 pair.2) t).rows = t.rows ++ rows := by
  induction rows generalizing t with
  | nil => simp
  | cons row rows ih =>
      have hnew : row.1 ∉ t.rows.map Prod.fst := by
        rw [List.map_append, List.nodup_append] at h
        intro hmem
        exact h.2.2 _ hmem row.1 (by simp) rfl
      have hset : (t.set row.1 row.2).rows = t.rows ++ [row] :=
        setRows_of_not_mem row.2 hnew
      rw [List.foldl_cons, ih, hset]
      · simp
      · rw [hset]
        simpa using h

/-- Rows with distinct keys are the rows of their table. -/
theorem rows_ofList {rows : List (κ × ν)} (h : (rows.map Prod.fst).Nodup) :
    (ofList rows).rows = rows :=
  rows_foldl_set rows empty h

/-- A table is that of its rows. -/
theorem ofList_rows (t : Table κ ν) : ofList t.rows = t :=
  Table.ext (rows_ofList t.distinct)

/-! ## Tables of pairs -/

variable {pairs : List (κ × ν)} {k : κ}

theorem keys_foldl_set [BEq κ] [LawfulBEq κ] (pairs : List (κ × ν)) (t : Table κ ν) :
    (pairs.foldl (fun t pair => t.set pair.1 pair.2) t).keys =
      t.keys ++ ((pairs.map Prod.fst).filter fun k => !decide (k ∈ t.keys)).eraseDups := by
  induction pairs generalizing t with
  | nil => simp
  | cons pair pairs ih =>
      rw [List.foldl_cons, ih, keys_set, List.map_cons]
      by_cases hk : pair.1 ∈ t.keys
      · rw [if_pos hk, List.filter_cons_of_neg (by simpa using hk)]
      · rw [if_neg hk, List.filter_cons_of_pos (by simpa using hk), List.eraseDups_cons,
          List.filter_filter, List.append_assoc, List.singleton_append]
        refine congrArg (fun keys => t.keys ++ pair.1 :: List.eraseDups keys) ?_
        exact List.filter_congr fun l _ => by simp [Bool.and_comm, beq_eq_decide]

/-- The keys of a table are those of its pairs, each where it came first. -/
theorem keys_ofList [BEq κ] [LawfulBEq κ] (pairs : List (κ × ν)) :
    (ofList pairs).keys = (pairs.map Prod.fst).eraseDups := by
  have hkeys := keys_foldl_set pairs empty
  have hempty : (empty : Table κ ν).keys = [] := rfl
  simpa [hempty, ofList] using hkeys

/-- The keys of a table are keys of the pairs that it was made of. -/
theorem mem_keys_ofList : k ∈ (ofList pairs).keys ↔ k ∈ pairs.map Prod.fst := by
  rw [keys_ofList, List.mem_eraseDups]

theorem get?_foldl_set (pairs : List (κ × ν)) (t : Table κ ν) (k : κ) :
    (pairs.foldl (fun t pair => t.set pair.1 pair.2) t).get? k =
      (pairs.reverse.lookup k).or (t.get? k) := by
  induction pairs generalizing t with
  | nil => rfl
  | cons pair pairs ih =>
      have hone : [pair].lookup k = if k = pair.1 then some pair.2 else none := by
        rw [List.lookup_cons]
        split <;> simp_all
      rw [List.foldl_cons, ih, get?_set, List.reverse_cons, List.lookup_append, Option.or_assoc,
        hone]
      split <;> rfl

/-- A key has the value of the last of its pairs. -/
theorem get?_ofList (pairs : List (κ × ν)) (k : κ) :
    (ofList pairs).get? k = pairs.reverse.lookup k := by
  have hvalue := get?_foldl_set pairs empty k
  have hempty : (empty : Table κ ν).get? k = none := rfl
  rwa [hempty, Option.or_none] at hvalue

theorem mem_of_mem_rows_ofList {row : κ × ν} (h : row ∈ (ofList pairs).rows) : row ∈ pairs := by
  have hvalue := get?_eq_some_iff.2 h
  rw [get?_ofList] at hvalue
  obtain ⟨before, after, hpairs, -⟩ := List.lookup_eq_some_iff.1 hvalue
  rw [← List.mem_reverse, hpairs]
  exact List.mem_append_right _ List.mem_cons_self

/-- A pair after which its key does not come again gives the value of the key. -/
theorem get?_ofList_of_last {before after : List (κ × ν)} {v : ν}
    (hlast : k ∉ after.map Prod.fst) :
    (ofList (before ++ (k, v) :: after)).get? k = some v := by
  rw [get?_ofList, List.reverse_append, List.reverse_cons, List.append_assoc]
  refine List.lookup_eq_some_iff.2 ⟨after.reverse, before.reverse, rfl, fun pair hpair => ?_⟩
  refine bne_iff_ne.2 fun heq => hlast ?_
  rw [heq]
  exact List.mem_map_of_mem (List.mem_reverse.1 hpair)

/-- In a table of keys that all have one value every key has it. -/
theorem get?_ofList_const {keys : List κ} (h : k ∈ keys) (v : ν) :
    (ofList (keys.map fun k => (k, v))).get? k = some v := by
  have hkey : k ∈ (ofList (keys.map fun k => (k, v))).keys := by
    rw [mem_keys_ofList, List.map_map]
    simpa [Function.comp_def] using h
  obtain ⟨value, hvalue⟩ := Option.isSome_iff_exists.1 ((isSome_get?_iff _ k).2 hkey)
  obtain ⟨l, -, hpair⟩ := List.mem_map.1 (mem_of_mem_rows_ofList (get?_eq_some_iff.1 hvalue))
  rw [hvalue, (Prod.mk.inj hpair).2]

/-! ## Updates -/

/-- New keys come after the old ones, and old keys keep their places. -/
theorem keys_update [BEq κ] [LawfulBEq κ] (t s : Table κ ν) :
    (t.update s).keys = t.keys ++ s.keys.filter fun k => k ∉ t.keys := by
  rw [update, keys_foldl_set, eraseDups_of_nodup (s.distinct.filter _), keys, keys]
  simp only [decide_not]

/-- A key has its value in the table that is set, and otherwise the one that it had. -/
theorem get?_update (t s : Table κ ν) (k : κ) :
    (t.update s).get? k = (s.get? k).or (t.get? k) := by
  rw [update, get?_foldl_set, ← get?_ofList, ofList_rows]

theorem update_set (t s : Table κ ν) (k : κ) (v : ν) :
    t.update (s.set k v) = (t.update s).set k v := by
  apply eq_of_keys_eq
  · rw [keys_set, keys_update, keys_update, keys_set]
    by_cases hs : k ∈ s.keys <;> by_cases ht : k ∈ t.keys <;> simp [hs, ht]
  · intro l
    rw [get?_set, get?_update, get?_update, get?_set]
    split <;> simp

/-- Setting pairs is an update with their table. -/
theorem foldl_set_eq_update (pairs : List (κ × ν)) (t : Table κ ν) :
    pairs.foldl (fun t pair => t.set pair.1 pair.2) t = t.update (ofList pairs) := by
  induction pairs using List.reverseRecOn with
  | nil => rfl
  | append_singleton pairs pair ih =>
      rw [ofList, List.foldl_append, List.foldl_append, ih]
      exact (update_set t (ofList pairs) pair.1 pair.2).symm

theorem ofList_append (pairs more : List (κ × ν)) :
    ofList (pairs ++ more) = (ofList pairs).update (ofList more) := by
  rw [ofList, List.foldl_append, foldl_set_eq_update more]
  rfl

end Iconsmith.Table
