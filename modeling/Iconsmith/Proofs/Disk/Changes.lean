import Iconsmith.Disk.Change
import Iconsmith.Proofs.Table
import Mathlib.Tactic.Push

set_option autoImplicit false

/-!
# What changes do to a tree

A tree is seen through `get?`, and each change is described by what stands where after it.
Making folders only adds folders where nothing stood (`Grown`). A temporary file comes to a
place that was free and is none of those to be kept clear (`createTemporary_eq_ok`). A
renaming takes an item from one place and puts it at the place to which a path leads, where
no folder stood (`rename_eq_ok`).
-/

namespace Iconsmith.Disk.Tree

/-! ## Single entries -/

/-- Something stands at the working directory in any case. -/
theorem ne_nil_of_free {tree : Tree} {place : Place} (h : tree.get? place = none) : place ≠ [] := by
  rintro rfl
  cases h

/-- Away from the working directory an item stands where it has been put. -/
theorem get?_put {tree : Tree} {place : Place} (item : Item) (h : place ≠ []) (other : Place) :
    (tree.put place item).get? other = if other = place then some item else tree.get? other := by
  cases other with
  | nil => rw [if_neg (Ne.symm h)]; rfl
  | cons name rest => exact Table.get?_set tree.entries place (name :: rest) item

theorem get?_put_of_ne {tree : Tree} {place other : Place} (item : Item) (h : other ≠ place) :
    (tree.put place item).get? other = tree.get? other := by
  cases other with
  | nil => rfl
  | cons name rest =>
      have key := Table.get?_set tree.entries place (name :: rest) item
      rw [if_neg h] at key
      exact key

/-- Putting an item where it stands changes nothing. -/
theorem put_eq_self {tree : Tree} {place : Place} {item : Item} (hne : place ≠ [])
    (h : tree.get? place = some item) : tree.put place item = tree := by
  cases place with
  | nil => exact absurd rfl hne
  | cons name rest => exact congrArg Tree.mk (Table.set_eq_self h)

/-- Nothing stands where an entry has been removed. -/
theorem get?_remove {tree : Tree} {place : Place} (h : place ≠ []) (other : Place) :
    (tree.remove place).get? other = if other = place then none else tree.get? other := by
  cases other with
  | nil => rw [if_neg (Ne.symm h)]; rfl
  | cons name rest => exact Table.get?_erase tree.entries place (name :: rest)

theorem get?_remove_of_ne {tree : Tree} {place other : Place} (h : other ≠ place) :
    (tree.remove place).get? other = tree.get? other := by
  cases other with
  | nil => rfl
  | cons name rest =>
      have key := Table.get?_erase tree.entries place (name :: rest)
      rw [if_neg h] at key
      exact key

/-! ## Files -/

/-- The bytes of the file that stands at a place. -/
def file? (tree : Tree) (place : Place) : Option (List UInt8) :=
  match tree.get? place with
  | some (.file bytes) => some bytes
  | _ => none

theorem file?_eq_some_iff {tree : Tree} {place : Place} {bytes : List UInt8} :
    tree.file? place = some bytes ↔ tree.get? place = some (.file bytes) := by
  unfold file?
  split
  · rename_i found h
    rw [h]
    simp
  · rename_i hno
    constructor
    · intro h
      cases h
    · intro h
      exact absurd h (hno bytes)

theorem file?_congr {a b : Tree} {place : Place} (h : a.get? place = b.get? place) :
    a.file? place = b.file? place := by
  unfold file?
  rw [h]

theorem file?_put {tree : Tree} {place : Place} (bytes : List UInt8) (h : place ≠ [])
    (other : Place) :
    (tree.put place (.file bytes)).file? other =
      if other = place then some bytes else tree.file? other := by
  by_cases ho : other = place
  · rw [if_pos ho, file?_eq_some_iff, get?_put _ h, if_pos ho]
  · rw [if_neg ho]
    exact file?_congr (get?_put_of_ne _ ho)

theorem file?_remove (tree : Tree) (place other : Place) :
    (tree.remove place).file? other = if other = place then none else tree.file? other := by
  by_cases ho : other = place
  · subst ho
    rw [if_pos rfl]
    cases other with
    | nil => rfl
    | cons name rest => rw [file?, get?_remove (by simp), if_pos rfl]
  · rw [if_neg ho]
    exact file?_congr (get?_remove_of_ne ho)

/-! ## Growth -/

/-- What one tree has become by making folders where nothing stood. -/
def Grown (before after : Tree) : Prop :=
  ∀ place, after.get? place = before.get? place ∨
    before.get? place = none ∧ after.get? place = some .folder

theorem Grown.refl (tree : Tree) : Grown tree tree := fun _ => Or.inl rfl

theorem Grown.trans {a b c : Tree} (hab : Grown a b) (hbc : Grown b c) : Grown a c := by
  intro place
  rcases hab place with h | ⟨ha, hb⟩ <;> rcases hbc place with h' | ⟨hb', hc⟩
  · exact Or.inl (h'.trans h)
  · exact Or.inr ⟨h ▸ hb', hc⟩
  · exact Or.inr ⟨ha, h'.trans hb⟩
  · rw [hb] at hb'
    cases hb'

/-- What stood somewhere still stands there. -/
theorem Grown.get?_of_some {a b : Tree} (h : Grown a b) {place : Place} {item : Item}
    (hi : a.get? place = some item) : b.get? place = some item := by
  rcases h place with e | ⟨hn, -⟩
  · exact e.trans hi
  · rw [hi] at hn
    cases hn

/-- No file comes or goes. -/
theorem Grown.file?_eq {a b : Tree} (h : Grown a b) (place : Place) :
    b.file? place = a.file? place := by
  rcases h place with e | ⟨ha, hb⟩
  · exact file?_congr e
  · simp [file?, ha, hb]

theorem grown_put {tree : Tree} {place : Place} (h : tree.get? place = none) :
    Grown tree (tree.put place .folder) := by
  intro other
  by_cases ho : other = place
  · subst ho
    exact Or.inr ⟨h, by rw [get?_put _ (ne_nil_of_free h), if_pos rfl]⟩
  · exact Or.inl (get?_put_of_ne _ ho)

/-- A folder is made where nothing stands, as an entry of the folder that its path leads to. -/
theorem makeFolder_eq_ok {tree made : Tree} {p : Path} :
    tree.makeFolder p = .ok made ↔ ∃ place name, tree.locateParent p = .ok (place, name) ∧
      isDots name = false ∧ tree.get? (place ++ [name]) = none ∧
        made = tree.put (place ++ [name]) .folder := by
  unfold makeFolder
  constructor
  · intro h
    split at h
    · cases h
    · rename_i place name hparent
      split at h
      · cases h
      · rename_i hdots
        split at h
        · cases h
        · rename_i hfree
          cases h
          exact ⟨place, name, hparent, by simpa using hdots, hfree, rfl⟩
  · rintro ⟨place, name, hparent, hdots, hfree, rfl⟩
    simp only [hparent, hdots, hfree, Bool.false_eq_true, if_false]

theorem grown_of_makeFolder {tree made : Tree} {p : Path} (h : tree.makeFolder p = .ok made) :
    Grown tree made := by
  obtain ⟨place, name, -, -, hfree, rfl⟩ := makeFolder_eq_ok.1 h
  exact grown_put hfree

/-- What making one folder does to a tree is what making those on the way does too, if it may be
nothing, one thing after another, and for the folder above what it is for a folder. -/
theorem makeFolders_induction {P : Path → Tree → Tree → Prop} (refl : ∀ p tree, P p tree tree)
    (trans : ∀ {p a b c}, P p a b → P p b c → P p a c)
    (above : ∀ {p a b}, P p.parent a b → P p a b)
    (make : ∀ {p tree made}, tree.makeFolder p = .ok made → P p tree made) (room : Nat)
    (tree : Tree) (p : Path) : P p tree (makeFolders room tree p).1 := by
  fun_induction makeFolders room tree p with
  | case1 => exact refl _ _
  | case2 _ _ _ hmake => exact make hmake
  | case3 => exact refl _ _
  | case4 _ _ _ _ _ _ _ _ hway ih =>
      rw [hway] at ih
      exact above ih
  | case5 _ _ _ _ _ _ _ hway _ hmake ih =>
      rw [hway] at ih
      exact trans (above ih) (make hmake)
  | case6 _ _ _ _ _ _ _ hway _ _ _ ih =>
      rw [hway] at ih
      exact above ih
  | case7 _ _ _ _ _ _ _ hway _ _ _ ih =>
      rw [hway] at ih
      exact above ih
  | case8 => exact refl _ _

/-- Making folders, as far as it gets, only adds folders. -/
theorem grown_makeFolders (room : Nat) (tree : Tree) (p : Path) :
    Grown tree (makeFolders room tree p).1 :=
  makeFolders_induction (P := fun _ => Grown) (fun _ => Grown.refl) Grown.trans id
    grown_of_makeFolder room tree p

theorem grown_ensureFolder (tree : Tree) (p : Path) : Grown tree (tree.ensureFolder p).1 :=
  grown_makeFolders maxMissing tree p

/-! ## Places of paths -/

/-- The place that a path names, whether or not its components can be followed. -/
def placeOf (p : Path) : Place := p.parts.foldl stepPlace []

/-- A component is followed from a folder to something that stands there, if its name is not too
long. -/
theorem follow_cons_eq_ok {tree : Tree} {start place : Place} {part : Text} {more : List Text} :
    tree.follow start (part :: more) = .ok place ↔ tree.isFolderAt start ∧
      Text.Utf8.size part ≤ maxName ∧ (tree.get? (stepPlace start part)).isSome ∧
        tree.follow (stepPlace start part) more = .ok place := by
  rw [follow]
  constructor
  · intro h
    split at h
    · cases h
    · rename_i hfolder
      split at h
      · cases h
      · rename_i hshort
        split at h
        · rename_i item hitem
          exact ⟨by simpa using hfolder, Nat.le_of_not_lt hshort, Option.isSome_of_eq_some hitem, h⟩
        · cases h
  · rintro ⟨hfolder, hshort, hitem, h⟩
    obtain ⟨item, hitem⟩ := Option.isSome_iff_exists.1 hitem
    rw [hfolder, if_neg (by simp), if_neg (Nat.not_lt_of_le hshort), hitem]
    exact h

theorem eq_foldl_of_follow {tree : Tree} {parts : List Text} :
    ∀ {start place : Place}, tree.follow start parts = .ok place →
      place = parts.foldl stepPlace start := by
  induction parts with
  | nil => intro start place h; cases h; rfl
  | cons part more ih => intro start place h; exact ih (follow_cons_eq_ok.1 h).2.2.2

theorem foldl_stepPlace_mem_wayFrom (parts : List Text) :
    ∀ start : Place, parts.foldl stepPlace start ∈ wayFrom start parts := by
  induction parts with
  | nil => intro start; exact List.mem_singleton_self start
  | cons part more ih => intro start; exact List.mem_cons_of_mem _ (ih (stepPlace start part))

/-- A path leads to the place that it names. -/
theorem placeOf_mem_wayFrom (p : Path) : placeOf p ∈ wayFrom [] p.parts :=
  foldl_stepPlace_mem_wayFrom p.parts []

/-- The folder of an entry is found by all components but the last, which has to be no longer than
a name may be. -/
theorem locateParent_eq_ok {tree : Tree} {p : Path} {found : Place × Text} :
    tree.locateParent p = .ok found ↔
      passable p.text = .ok () ∧ p.anchor = .here ∧
        tree.follow [] p.parts.dropLast = .ok found.1 ∧ tree.isFolderAt found.1 ∧
          Text.Utf8.size p.name ≤ maxName ∧ p.name = found.2 := by
  obtain ⟨place, name⟩ := found
  unfold locateParent
  constructor
  · intro h
    -- Each refusal is one of the conditions on the right.
    split at h
    · cases h
    · rename_i hpassable
      split at h
      · rename_i hanchor
        split at h
        · cases h
        · rename_i hfollow
          split at h
          · cases h
          · rename_i hfolder
            split at h
            · cases h
            · rename_i hshort
              cases h
              exact ⟨hpassable, hanchor, hfollow, by simpa using hfolder,
                Nat.le_of_not_lt hshort, rfl⟩
      · cases h
  · rintro ⟨hpassable, hanchor, hfollow, hfolder, hshort, rfl⟩
    dsimp only at hfollow hfolder
    rw [hpassable, hanchor]
    dsimp only
    rw [hfollow]
    dsimp only
    rw [hfolder, if_neg (by simp), if_neg (Nat.not_lt_of_le hshort)]

/-- A component that is no dots leads to the entry of its name. -/
theorem stepPlace_of_isDots {name : Text} (h : isDots name = false) (place : Place) :
    stepPlace place name = place ++ [name] := by
  simp only [isDots, Bool.or_eq_false_iff, decide_eq_false_iff_not] at h
  rw [stepPlace, if_neg (by simp [h.1.1, h.1.2]), if_neg h.2]

/-- A path whose name is no dots has its name as the last component. -/
theorem parts_of_isDots {p : Path} (h : isDots p.name = false) :
    p.parts = p.parts.dropLast ++ [p.name] := by
  have hne : p.parts ≠ [] := by
    intro hnil
    simp [Path.name, hnil, isDots] at h
  rw [Path.name, List.getLast?_eq_getLast_of_ne_nil hne, Option.getD_some,
    List.dropLast_append_getLast hne]

/-- A last component that names an entry of its folder names the place of the path. -/
theorem placeOf_of_locateParent {tree : Tree} {p : Path} {place : Place} {name : Text}
    (h : tree.locateParent p = .ok (place, name)) (hd : isDots name = false) :
    placeOf p = place ++ [name] := by
  obtain ⟨-, -, hfollow, -, -, hname⟩ := locateParent_eq_ok.1 h
  obtain rfl : p.name = name := hname
  rw [placeOf, parts_of_isDots hd, List.foldl_append, ← eq_foldl_of_follow hfollow]
  exact stepPlace_of_isDots hd place

/-! ## Fresh files -/

/-- The number of a tag can be read off it. -/
theorem ofDigitChars_tag (n : Nat) : Nat.ofDigitChars 10 (tag n) 0 = n := by
  have zeros : ∀ (k : Nat) (t : Text),
      Nat.ofDigitChars 10 (List.replicate k '0' ++ t) 0 = Nat.ofDigitChars 10 t 0 := by
    intro k t
    induction k with
    | zero => rfl
    | succ k ih => simpa [List.replicate_succ, Nat.ofDigitChars_cons] using ih
  rw [tag, zeros, Text.ofNat, Nat.ofDigitChars_ten_toDigits]

theorem temporaryName_injective (name : Text) : Function.Injective (temporaryName name) := by
  intro m n h
  simp only [temporaryName, List.cons_append, List.cons.injEq, true_and, List.append_assoc,
    List.append_cancel_left_eq, List.append_cancel_right_eq] at h
  rw [← ofDigitChars_tag m, h, ofDigitChars_tag]

/-- Some number as small as this has a temporary name that is free and leads to no place
taken: otherwise more names than there are entries and places taken would be in use. -/
theorem exists_freshNumber (tree : Tree) (taken : List Place) (place : Place) (name : Text) :
    ∃ n ∈ List.range (tree.entries.size + taken.length + 1),
      tree.get? (place ++ [temporaryName name n]) = none ∧
        place ++ [temporaryName name n] ∉ taken := by
  by_contra hall
  -- There are more numbers than names that are in use, so two of them would have one name.
  push Not at hall
  let fresh := fun n => place ++ [temporaryName name n]
  have hinj : Function.Injective fresh := by
    intro m n h
    exact temporaryName_injective name (by simpa [fresh] using h)
  have hsub : (List.range (tree.entries.size + taken.length + 1)).map fresh ⊆
      tree.entries.keys ++ taken := by
    intro q hq
    obtain ⟨n, hn, rfl⟩ := List.mem_map.1 hq
    rw [List.mem_append]
    cases hg : tree.get? (fresh n) with
    | none => exact Or.inr (hall n hn hg)
    | some item =>
        refine Or.inl (Table.mem_keys_of_get? (v := item) ?_)
        cases hf : fresh n with
        | nil => simp [fresh] at hf
        | cons first rest => rw [← hf]; simpa [get?, hf] using hg
  have hlen := (List.nodup_range.map hinj).length_le_of_subset hsub
  simp only [List.length_map, List.length_range, List.length_append, Table.keys,
    Table.size] at hlen
  omega

theorem freshNumber_spec (tree : Tree) (taken : List Place) (place : Place) (name : Text) :
    tree.get? (place ++ [temporaryName name (tree.freshNumber taken place name)]) = none ∧
      place ++ [temporaryName name (tree.freshNumber taken place name)] ∉ taken := by
  obtain ⟨n, hn, hfree, haway⟩ := exists_freshNumber tree taken place name
  unfold freshNumber
  cases hf : (List.range (tree.entries.size + taken.length + 1)).find? fun n =>
      (tree.get? (place ++ [temporaryName name n])).isNone &&
        !taken.contains (place ++ [temporaryName name n]) with
  | none =>
      have hnone := List.find?_eq_none.1 hf n hn
      simp [hfree, haway] at hnone
  | some m =>
      have hm := List.find?_some hf
      simpa using hm

/-- A temporary file comes into the folder that its path leads to, with a fresh name. -/
theorem createTemporary_eq_ok_iff {tree created : Tree} {taken : List Place} {folder : Path}
    {name : Text} {bytes : List UInt8} {place : Place} :
    tree.createTemporary taken folder name bytes = .ok (created, place) ↔
      ∃ found, tree.locate folder = .ok found ∧ tree.isFolderAt found ∧
        '\x00' ∉ temporaryName name (tree.freshNumber taken found name) ∧
        Text.Utf8.size (temporaryName name (tree.freshNumber taken found name)) ≤ maxName ∧
        place = found ++ [temporaryName name (tree.freshNumber taken found name)] ∧
        created = tree.put place (.file bytes) := by
  unfold createTemporary
  constructor
  · intro h
    cases hlocate : tree.locate folder with
    | error fault =>
        rw [hlocate] at h
        cases h
    | ok found =>
        rw [hlocate] at h
        dsimp only at h
        split at h
        · cases h
        · rename_i hnul
          split at h
          · cases h
          · rename_i hshort
            split at h
            · cases h
            · rename_i hfolder
              cases h
              exact ⟨found, rfl, by simpa using hfolder, by simpa using hnul,
                Nat.le_of_not_lt hshort, rfl, rfl⟩
  · rintro ⟨found, hlocate, hfolder, hnul, hshort, rfl, rfl⟩
    rw [hlocate]
    dsimp only
    rw [if_neg (by simpa using hnul), if_neg (Nat.not_lt_of_le hshort), hfolder]
    rfl

/-- A temporary file comes to a free place that is none of those taken. -/
theorem createTemporary_eq_ok {tree created : Tree} {taken : List Place} {folder : Path}
    {name : Text} {bytes : List UInt8} {place : Place}
    (h : tree.createTemporary taken folder name bytes = .ok (created, place)) :
    tree.get? place = none ∧ place ∉ taken ∧ created = tree.put place (.file bytes) := by
  obtain ⟨found, -, -, -, -, rfl, rfl⟩ := createTemporary_eq_ok_iff.1 h
  obtain ⟨hfree, haway⟩ := freshNumber_spec tree taken found name
  exact ⟨hfree, haway, rfl⟩

/-! ## Renaming -/

/-- A renaming takes an item from its place and puts it at the place that a path names,
where no folder stands. -/
theorem rename_eq_ok {tree renamed : Tree} {source : Place} {p : Path}
    (h : tree.rename source p = .ok renamed) :
    placeOf p ≠ [] ∧ tree.get? (placeOf p) ≠ some .folder ∧
      ∃ item, tree.get? source = some item ∧
        renamed = (tree.remove source).put (placeOf p) item := by
  unfold rename at h
  dsimp only at h
  split at h
  · cases h
  · cases h
  · rename_i place name hl
    by_cases hd : isDots name = true
    · simp [hd] at h
    · have hplace := placeOf_of_locateParent hl (by simpa using hd)
      rw [hplace]
      refine ⟨by simp, ?_⟩
      rw [if_neg hd] at h
      cases hs : tree.get? source with
      | none => simp [hs] at h
      | some item =>
          rw [hs] at h
          cases ht : tree.get? (place ++ [name]) with
          | none =>
              rw [ht] at h
              cases h
              exact ⟨by simp, item, rfl, rfl⟩
          | some other =>
              rw [ht] at h
              cases other with
              | folder => cases h
              | file bytes =>
                  cases h
                  exact ⟨by simp, item, rfl, rfl⟩

end Iconsmith.Disk.Tree
