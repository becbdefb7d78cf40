import Iconsmith.Output
import Iconsmith.Proofs.Disk.Changes
import Mathlib.Data.List.Forall2

set_option autoImplicit false

/-!
# The files that writing leaves

Writing has two loops. While the temporary files are staged, each of them stands at a place
that was free and leads to no output, and all else only gains folders (`Staging`). While the
targets are replaced, the files at other places stay (`file?_replace`). Together they give
`file?_write`: however writing ends, the files are those from before, overwritten by the
outputs whose targets have been replaced, and no temporary file is left.
-/

namespace Iconsmith.Output

open Disk Disk.Tree

/-! ## Replaced outputs -/

/-- The bytes that the last of some outputs for a place brings there. -/
def content? : List Output → Place → Option (List UInt8)
  | [], _ => none
  | o :: more, place =>
      (content? more place).or
        (if placeOf o.path = place then some (Text.Utf8.encode o.content) else none)

/-- How many temporary files are moved to their targets before one cannot be moved. -/
def movedCount (tree : Tree) : List Staged → Nat
  | [] => 0
  | s :: more =>
      match tree.rename s.place s.path with
      | .error _ => 0
      | .ok tree => movedCount tree more + 1

/-- The outputs whose targets are replaced when some outputs are written. -/
def replaced (tree : Tree) (outputs : List Output) : List Output :=
  match stage (places outputs) tree [] outputs with
  | (_, _, some _) => []
  | (tree, staged, none) => outputs.take (movedCount tree staged)

/-- What a place is given comes from an output that names it. -/
theorem exists_of_content? {outputs : List Output} {place : Place} {bytes : List UInt8}
    (h : content? outputs place = some bytes) :
    ∃ o ∈ outputs, placeOf o.path = place ∧ Text.Utf8.encode o.content = bytes := by
  induction outputs with
  | nil => cases h
  | cons o more ih =>
      cases hm : content? more place with
      | some found =>
          simp only [content?, hm, Option.some_or, Option.some.injEq] at h
          subst h
          obtain ⟨o', ho', rest⟩ := ih hm
          exact ⟨o', List.mem_cons_of_mem _ ho', rest⟩
      | none =>
          by_cases hp : placeOf o.path = place
          · simp only [content?, hm, Option.none_or, if_pos hp, Option.some.injEq] at h
            exact ⟨o, List.mem_cons_self, hp, h⟩
          · simp [content?, hm, hp] at h

theorem content?_eq_none {outputs : List Output} {place : Place}
    (h : ∀ o ∈ outputs, placeOf o.path ≠ place) : content? outputs place = none := by
  cases hc : content? outputs place with
  | none => rfl
  | some bytes =>
      obtain ⟨o, ho, hp, -⟩ := exists_of_content? hc
      exact absurd hp (h o ho)

theorem replaced_subset (tree : Tree) (outputs : List Output) :
    replaced tree outputs ⊆ outputs := by
  unfold replaced
  split
  · exact List.nil_subset outputs
  · exact List.take_subset _ outputs

/-- The place that an output names is one of those that its path leads through. -/
theorem placeOf_mem_places {outputs : List Output} {o : Output} (h : o ∈ outputs) :
    placeOf o.path ∈ places outputs :=
  List.mem_flatMap.2 ⟨o, h, placeOf_mem_wayFrom o.path⟩

/-! ## Staging -/

/-- The invariant of staging: each temporary file holds the content of its output, at a
place of its own that was free before and is none of those taken. Elsewhere only folders
have come. -/
structure Staging (taken : List Place) (before tree : Tree) (staged : List Staged)
    (done : List Output) : Prop where
  holds : List.Forall₂
    (fun s o => s.path = o.path ∧ tree.file? s.place = some (Text.Utf8.encode o.content))
    staged done
  distinct : (staged.map Staged.place).Nodup
  away : ∀ s ∈ staged, s.place ∉ taken
  fresh : ∀ s ∈ staged, before.get? s.place = none
  elsewhere : ∀ place ∉ staged.map Staged.place, tree.get? place = before.get? place ∨
    before.get? place = none ∧ tree.get? place = some .folder

theorem Staging.start (taken : List Place) (tree : Tree) : Staging taken tree tree [] [] where
  holds := List.Forall₂.nil
  distinct := List.nodup_nil
  away := by simp
  fresh := by simp
  elsewhere := fun _ _ => Or.inl rfl

section Steps

variable {taken : List Place} {before tree after : Tree} {staged : List Staged}
  {done : List Output}

/-- Temporary files that are kept hold what they held. -/
theorem holds_of_file?_eq
    (h : List.Forall₂ (fun s o => s.path = o.path ∧
      tree.file? s.place = some (Text.Utf8.encode o.content)) staged done)
    (hkept : ∀ s ∈ staged, after.file? s.place = tree.file? s.place) :
    List.Forall₂ (fun s o => s.path = o.path ∧
      after.file? s.place = some (Text.Utf8.encode o.content)) staged done := by
  refine List.forall₂_iff_zip.2 ⟨h.length_eq, fun {s o} hz => ?_⟩
  obtain ⟨hpath, hfile⟩ := (List.forall₂_iff_zip.1 h).2 hz
  exact ⟨hpath, (hkept s (List.of_mem_zip hz).1).trans hfile⟩

/-- Every staged place holds a file. -/
theorem Staging.get?_ne_none (h : Staging taken before tree staged done) {s : Staged}
    (hs : s ∈ staged) : tree.get? s.place ≠ none := by
  obtain ⟨n, hn, rfl⟩ := List.mem_iff_getElem.1 hs
  obtain ⟨-, hfile⟩ := h.holds.get hn (h.holds.length_eq ▸ hn)
  intro hnone
  rw [file?_eq_some_iff] at hfile
  cases hnone.symm.trans hfile

/-- Away from the temporary files, the files are those from before. -/
theorem Staging.file?_eq (h : Staging taken before tree staged done) {place : Place}
    (hplace : place ∉ staged.map Staged.place) : tree.file? place = before.file? place := by
  rcases h.elsewhere place hplace with heq | ⟨hfree, hfolder⟩
  · exact file?_congr heq
  · rw [file?, file?, hfree, hfolder]

/-- Making folders keeps what has been staged. -/
theorem Staging.grow (h : Staging taken before tree staged done) (hg : Grown tree after) :
    Staging taken before after staged done where
  holds := holds_of_file?_eq h.holds fun s _ => hg.file?_eq s.place
  distinct := h.distinct
  away := h.away
  fresh := h.fresh
  elsewhere := by
    intro place hp
    rcases h.elsewhere place hp with e | ⟨hb, ht⟩
    · rcases hg place with e' | ⟨ht, ha⟩
      · exact Or.inl (e'.trans e)
      · exact Or.inr ⟨e ▸ ht, ha⟩
    · exact Or.inr ⟨hb, hg.get?_of_some ht⟩

/-- A new temporary file comes to those that are staged. -/
theorem Staging.create (h : Staging taken before tree staged done) {o : Output} {place : Place}
    (hfree : tree.get? place = none) (haway : place ∉ taken)
    (hafter : after = tree.put place (.file (Text.Utf8.encode o.content))) :
    Staging taken before after (staged ++ [⟨place, o.path⟩]) (done ++ [o]) := by
  subst hafter
  have hne := ne_nil_of_free hfree
  have hnew : place ∉ staged.map Staged.place := by
    intro hmem
    obtain ⟨s, hs, rfl⟩ := List.mem_map.1 hmem
    exact h.get?_ne_none hs hfree
  have hbefore : before.get? place = none := by
    rcases h.elsewhere place hnew with e | ⟨hb, -⟩
    · exact e ▸ hfree
    · exact hb
  have hlast : ∀ {P : Staged → Prop}, (∀ s ∈ staged, P s) → P ⟨place, o.path⟩ →
      ∀ s ∈ staged ++ [⟨place, o.path⟩], P s := by
    intro P hold hthis s hs
    rcases List.mem_append.1 hs with hs | hs
    · exact hold s hs
    · exact List.mem_singleton.1 hs ▸ hthis
  constructor
  case holds =>
    refine List.rel_append (holds_of_file?_eq h.holds fun s hs => ?_)
      (List.Forall₂.cons ⟨rfl, ?_⟩ List.Forall₂.nil)
    · have hother : s.place ≠ place := fun heq => hnew (heq ▸ List.mem_map_of_mem hs)
      rw [file?_put _ hne, if_neg hother]
    · rw [file?_put _ hne, if_pos rfl]
  case distinct =>
    rw [List.map_append, List.nodup_append]
    refine ⟨h.distinct, by simp, ?_⟩
    intro a ha b hb he
    simp only [List.map_cons, List.map_nil, List.mem_singleton] at hb
    subst hb he
    exact hnew ha
  case away => exact hlast h.away haway
  case fresh => exact hlast h.fresh hbefore
  case elsewhere =>
    intro other hother
    rw [List.map_append, List.mem_append, not_or] at hother
    rw [get?_put_of_ne _ (by simpa using hother.2)]
    exact h.elsewhere other hother.1

end Steps

/-- However staging ends, the invariant holds of the outputs staged, which are all of them
unless there is a fault. -/
theorem staging_stage {taken : List Place} {before : Tree} (outputs : List Output) :
    ∀ {tree : Tree} {staged : List Staged} {done : List Output},
      Staging taken before tree staged done →
      ∃ more, Staging taken before (stage taken tree staged outputs).1
          (stage taken tree staged outputs).2.1 (done ++ more) ∧
        ((stage taken tree staged outputs).2.2 = none → more = outputs) := by
  -- On the outputs; making folders and a temporary file each keep what staging holds.
  induction outputs with
  | nil =>
      intro tree staged done h
      exact ⟨[], by simpa [stage] using h, fun _ => rfl⟩
  | cons o rest ih =>
      intro tree staged done h
      have hgrown := grown_ensureFolder tree o.path.parent
      cases hf : tree.ensureFolder o.path.parent with
      | mk between stopped =>
          rw [hf] at hgrown
          have hbetween := h.grow hgrown
          cases stopped with
          | some e => exact ⟨[], by simpa [stage, hf] using hbetween, by simp [stage, hf]⟩
          | none =>
              cases hc : between.createTemporary taken o.path.parent o.path.name
                  (Text.Utf8.encode o.content) with
              | error e =>
                  exact ⟨[], by simpa [stage, hf, hc] using hbetween, by simp [stage, hf, hc]⟩
              | ok created =>
                  obtain ⟨after, place⟩ := created
                  obtain ⟨hfree, haway, hafter⟩ := createTemporary_eq_ok hc
                  obtain ⟨more, hmore, hall⟩ := ih (hbetween.create hfree haway hafter)
                  refine ⟨o :: more, ?_, ?_⟩
                  · simpa [stage, hf, hc] using hmore
                  · intro hnone
                    rw [hall (by simpa [stage, hf, hc] using hnone)]

/-! ## Replacing and discarding -/

/-- A temporary file that is moved leaves its place and stands at its target. -/
theorem file?_rename {tree renamed : Tree} {source : Place} {p : Path} {bytes : List UInt8}
    (hfile : tree.file? source = some bytes) (h : tree.rename source p = .ok renamed)
    {place : Place} (hplace : place ≠ source) :
    renamed.file? place = if place = placeOf p then some bytes else tree.file? place := by
  obtain ⟨hne, -, item, hitem, rfl⟩ := rename_eq_ok h
  obtain rfl : .file bytes = item := Option.some.inj ((file?_eq_some_iff.1 hfile).symm.trans hitem)
  rw [file?_put _ hne, file?_remove, if_neg hplace]

/-- Away from the temporary files, replacing leaves the files that were there, overwritten by
the outputs of the temporary files that could be moved. -/
theorem file?_replace {taken : List Place} (staged : List Staged) :
    ∀ {tree : Tree} {done : List Output},
      List.Forall₂ (fun s o => s.path = o.path ∧
        tree.file? s.place = some (Text.Utf8.encode o.content)) staged done →
      (staged.map Staged.place).Nodup → (∀ s ∈ staged, s.place ∉ taken) →
      (∀ o ∈ done, placeOf o.path ∈ taken) → ∀ place ∉ staged.map Staged.place,
        (replace tree staged).1.file? place =
          (content? (done.take (movedCount tree staged)) place).or (tree.file? place) := by
  induction staged with
  | nil => intro tree done _ _ _ _ place _; simp [replace, movedCount, content?]
  | cons s more ih =>
      intro tree done hholds hnodup haway htaken place hplace
      obtain ⟨o, os, ⟨hpath, hfile⟩, hrest, rfl⟩ := List.forall₂_cons_left_iff.1 hholds
      rw [List.map_cons, List.nodup_cons] at hnodup
      rw [List.map_cons, List.mem_cons, not_or] at hplace
      cases hr : tree.rename s.place s.path with
      | error e => simp [replace, movedCount, hr, content?]
      | ok renamed =>
          have hstill : List.Forall₂ (fun s o => s.path = o.path ∧
              renamed.file? s.place = some (Text.Utf8.encode o.content)) more os := by
            refine holds_of_file?_eq hrest fun t ht => ?_
            have hother : t.place ≠ s.place := fun heq =>
              hnodup.1 (heq ▸ List.mem_map_of_mem ht)
            have htarget : t.place ≠ placeOf s.path := fun heq =>
              haway t (List.mem_cons_of_mem _ ht) (heq ▸ hpath ▸ htaken o List.mem_cons_self)
            rw [file?_rename hfile hr hother, if_neg htarget]
          have hind := ih hstill hnodup.2 (fun t ht => haway t (List.mem_cons_of_mem _ ht))
            (fun o' ho' => htaken o' (List.mem_cons_of_mem _ ho')) place hplace.2
          simp only [replace, movedCount, hr, List.take_succ_cons, content?]
          rw [hind, file?_rename hfile hr hplace.1, Option.or_assoc, hpath]
          congr 1
          by_cases hp : placeOf o.path = place
          · simp [hp]
          · simp [hp, Ne.symm hp]

/-- Replacing without a fault moves every temporary file. -/
theorem movedCount_of_replace (staged : List Staged) :
    ∀ {tree : Tree}, (replace tree staged).2 = none → movedCount tree staged = staged.length := by
  induction staged with
  | nil => intro tree _; rfl
  | cons s more ih =>
      intro tree h
      cases hr : tree.rename s.place s.path with
      | error e => simp [replace, hr] at h
      | ok renamed =>
          simp only [replace, hr] at h
          simp [movedCount, hr, ih h]

/-- Discarding takes away the temporary files and nothing else. -/
theorem file?_discard (staged : List Staged) :
    ∀ (tree : Tree) (place : Place), (discard tree staged).file? place =
      if place ∈ staged.map Staged.place then none else tree.file? place := by
  induction staged with
  | nil => intro tree place; simp [discard]
  | cons s more ih =>
      intro tree place
      have hstep : discard tree (s :: more) = discard (tree.remove s.place) more := rfl
      rw [hstep, ih, file?_remove]
      by_cases hm : place ∈ more.map Staged.place
      · simp [hm]
      · by_cases hp : place = s.place <;> simp [hm, hp]

/-! ## Writing -/

/-- However writing ends, the files are those from before, overwritten by the outputs whose
targets have been replaced. -/
theorem file?_write (tree : Tree) (outputs : List Output) (place : Place) :
    (write tree outputs).1.file? place =
      (content? (replaced tree outputs) place).or (tree.file? place) := by
  obtain ⟨more, hstaging, hall⟩ :=
    staging_stage outputs (Staging.start (places outputs) tree)
  have haside : ∀ place ∈ (stage (places outputs) tree [] outputs).2.1.map Staged.place,
      content? (replaced tree outputs) place = none ∧ tree.file? place = none := by
    intro place hplace
    obtain ⟨s, hs, rfl⟩ := List.mem_map.1 hplace
    refine ⟨content?_eq_none fun o ho he => ?_, by rw [file?, hstaging.fresh s hs]⟩
    exact hstaging.away s hs (he ▸ placeOf_mem_places (replaced_subset tree outputs ho))
  cases hs : stage (places outputs) tree [] outputs with
  | mk between rest =>
      obtain ⟨staged, stopped⟩ := rest
      rw [hs] at hstaging hall haside
      by_cases hplace : place ∈ staged.map Staged.place
      · obtain ⟨hcontent, hfile⟩ := haside place hplace
        rw [hcontent, hfile]
        cases stopped with
        | some fault => simp only [write, hs, file?_discard, if_pos hplace, Option.or_none]
        | none => simp only [write, hs, file?_discard, if_pos hplace, Option.or_none]
      · cases stopped with
        | some fault =>
            simp only [write, hs, file?_discard, if_neg hplace, replaced, content?,
              Option.none_or]
            exact hstaging.file?_eq hplace
        | none =>
            obtain rfl := hall rfl
            have hreplace := file?_replace staged hstaging.holds hstaging.distinct hstaging.away
              (fun o ho => placeOf_mem_places (by simpa using ho)) place hplace
            simp only [write, hs, file?_discard, if_neg hplace, replaced]
            rw [hreplace, hstaging.file?_eq hplace, List.nil_append]

/-- Writing without a fault replaces the targets of all outputs. -/
theorem replaced_of_write {tree : Tree} {outputs : List Output}
    (h : (write tree outputs).2 = none) : replaced tree outputs = outputs := by
  obtain ⟨more, hstaging, hall⟩ :=
    staging_stage outputs (Staging.start (places outputs) tree)
  cases hs : stage (places outputs) tree [] outputs with
  | mk between rest =>
      obtain ⟨staged, stopped⟩ := rest
      rw [hs] at hstaging hall
      cases stopped with
      | some fault => simp [write, hs] at h
      | none =>
          obtain rfl := hall rfl
          have hmoved := movedCount_of_replace staged (by simpa [write, hs] using h)
          have hlen := hstaging.holds.length_eq
          simp only [replaced, hs]
          rw [hmoved, hlen, List.nil_append, List.take_length]

end Iconsmith.Output
