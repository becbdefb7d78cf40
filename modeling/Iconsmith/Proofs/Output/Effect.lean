import Iconsmith.Proofs.Output.Rewriting

set_option autoImplicit false

/-!
# The whole effect of writing

Wherever writing stops, the folders are those that staging has left (`isFolderAt_write_eq`), and
staging makes them on the ways to the folders of the outputs alone (`exists_way_of_stage`). With
what is known of the files this says what stands at every place afterwards (`effect_write`): no
temporary file, what stood there before unless an output names the place, and nothing new but
outputs and missing folders. When writing comes to its end each output can be read with its own
path, the last for its place showing.
-/

namespace Iconsmith.Output

open Disk Disk.Tree

/-! ## Folders on every exit -/

/-- Wherever staging stops, a folder was there before or is on the way to that of an output. -/
theorem exists_way_of_stage {taken : List Place} {q : Place} (outputs : List Output) :
    ∀ {tree : Tree} {staged : List Staged}, (stage taken tree staged outputs).1.isFolderAt q →
      tree.isFolderAt q ∨ ∃ o ∈ outputs, q ∈ wayFrom [] o.path.parent.parts := by
  induction outputs with
  | nil => exact Or.inl
  | cons o more ih =>
      intro tree staged h
      -- Away from the way to this output its step makes no folder, and the rest is by induction.
      by_cases hway : q ∈ wayFrom [] o.path.parent.parts
      · exact Or.inr ⟨o, List.mem_cons_self, hway⟩
      have hsame : (tree.ensureFolder o.path.parent).1.isFolderAt q = tree.isFolderAt q := by
        rw [isFolderAt, isFolderAt, get?_ensureFolder_of_not_mem hway]
      rw [stage] at h
      split at h
      · rename_i between fault hfolder
        rw [hfolder] at hsame
        exact Or.inl (hsame ▸ h)
      · rename_i between hfolder
        rw [hfolder] at hsame
        split at h
        · exact Or.inl (hsame ▸ h)
        · rename_i created place hcreate
          obtain ⟨hfree, -, rfl⟩ := createTemporary_eq_ok hcreate
          have hput := isFolderAt_put (isFolderAt_of_free hfree) (Text.Utf8.encode o.content) q
          rcases ih h with hbefore | ⟨later, hlater, hq⟩
          · exact Or.inl (hsame ▸ hput ▸ hbefore)
          · exact Or.inr ⟨later, List.mem_cons_of_mem o hlater, hq⟩

/-- Wherever writing stops, the folders are those that staging has left. -/
theorem isFolderAt_write_eq (tree : Tree) (outputs : List Output) (q : Place) :
    (write tree outputs).1.isFolderAt q =
      (stage (places outputs) tree [] outputs).1.isFolderAt q := by
  obtain ⟨done, hstaging, hall⟩ := staging_stage outputs (Staging.start (places outputs) tree)
  cases hstage : stage (places outputs) tree [] outputs with
  | mk between rest =>
      obtain ⟨staged, stopped⟩ := rest
      rw [hstage] at hstaging hall
      cases stopped with
      | some fault =>
          simp only [write, hstage]
          refine isFolderAt_discard staged (fun s hs => ?_) q
          obtain ⟨o, -, -, hfile⟩ := hstaging.exists_of_mem hs
          exact isFolderAt_of_file hfile
      | none =>
          obtain rfl := hall rfl
          simp only [write, hstage]
          exact Moving.isFolderAt_discard_replace hstaging.moving q

/-! ## Contents -/

/-- The last output for a place brings its bytes there. -/
theorem content?_append_cons {earlier later : List Output} {o : Output}
    (hlast : ∀ l ∈ later, placeOf l.path ≠ placeOf o.path) :
    content? (earlier ++ o :: later) (placeOf o.path) = some (Text.Utf8.encode o.content) := by
  induction earlier with
  | nil => rw [List.nil_append, content?, content?_eq_none hlast, Option.none_or, if_pos rfl]
  | cons first more ih => rw [List.cons_append, content?, ih, Option.some_or]

/-- An output that has been written can be read with its own path. -/
theorem read_write_of_content? {tree : Tree} {outputs : List Output}
    (h : (write tree outputs).2 = none) {o : Output} (ho : o ∈ outputs) (htidy : o.path.IsTidy)
    {bytes : List UInt8} (hbytes : content? outputs (placeOf o.path) = some bytes) :
    (write tree outputs).1.read o.path = .ok bytes := by
  obtain ⟨between, staged, hstage, hreplace, -⟩ := exists_of_write h
  have hstaging := staging_of_stage hstage
  obtain ⟨s, hs, hpath⟩ := hstaging.exists_staged ho
  obtain ⟨⟨found, hparent, hdots⟩, -⟩ :=
    (replace_eq_none_iff staged hstaging.moving).1 hreplace s hs
  rw [hpath] at hparent
  have hplace := placeOf_of_locateParent hparent hdots
  have hafter : (write tree outputs).1.get? (placeOf o.path) = some (.file bytes) := by
    rw [← file?_eq_some_iff, file?_write, replaced_of_write h, hbytes, Option.some_or]
  have hfolders : ∀ q, between.isFolderAt q → (write tree outputs).1.isFolderAt q := by
    intro q hq
    rwa [isFolderAt_write_eq, hstage]
  obtain ⟨hpassable, hanchor, hfollow, hfolder, hshort, hname⟩ :=
    locateParent_eq_ok.1 (locateParent_of_folders hfolders hparent)
  rw [← hname] at hdots hplace
  have hstep : stepPlace found.1 o.path.name = placeOf o.path :=
    (stepPlace_of_isDots hdots found.1).trans hplace.symm
  refine read_eq_ok_iff.2 ⟨placeOf o.path,
    (locate_eq_ok_of_isTidy htidy).2 ⟨hpassable, hanchor, ?_⟩, hafter⟩
  rw [parts_of_isDots hdots, follow_append, hfollow]
  refine follow_cons_eq_ok.2 ⟨hfolder, hshort, ?_, ?_⟩
  · rw [hstep, hafter]
    rfl
  · rw [hstep]
    rfl

/-! ## The effect -/

/-- A change of a tree that is owed to some outputs: what stood at places that none of them
names is still there, and what is new is an output or a folder on the way to one. -/
structure IsOwedTo (outputs : List Output) (before after : Tree) : Prop where
  kept : ∀ place item, before.get? place = some item →
    (∀ o ∈ outputs, placeOf o.path ≠ place) → after.get? place = some item
  added : ∀ place item, before.get? place = none → after.get? place = some item →
    (∃ o ∈ outputs, placeOf o.path = place ∧ item = .file (Text.Utf8.encode o.content)) ∨
      item = .folder ∧ ∃ o ∈ outputs, place ∈ wayFrom [] o.path.parent.parts

/-- Wherever writing stops, every folder is still there. -/
theorem get?_write_of_folder {tree : Tree} (outputs : List Output) {place : Place}
    (h : tree.get? place = some .folder) :
    (write tree outputs).1.get? place = some .folder := by
  obtain ⟨done, hstaging, -⟩ := staging_stage outputs (Staging.start (places outputs) tree)
  have hplace : place ∉ (stage (places outputs) tree [] outputs).2.1.map Staged.place := by
    intro hmem
    obtain ⟨s, hs, rfl⟩ := List.mem_map.1 hmem
    rw [hstaging.fresh s hs] at h
    cases h
  have hbetween : (stage (places outputs) tree [] outputs).1.get? place = some .folder := by
    rcases hstaging.elsewhere place hplace with hsame | ⟨-, hmade⟩
    · rw [hsame, h]
    · exact hmade
  have hafter := isFolderAt_write_eq tree outputs place
  rw [isFolderAt, isFolderAt, hbetween] at hafter
  exact beq_iff_eq.1 hafter

/-- Wherever writing stops, what it has changed is owed to the outputs. -/
theorem isOwedTo_write (tree : Tree) (outputs : List Output) :
    IsOwedTo outputs tree (write tree outputs).1 where
  kept := by
    intro place item hbefore hnamed
    have hnone : content? (replaced tree outputs) place = none :=
      content?_eq_none fun o ho => hnamed o (replaced_subset tree outputs ho)
    have hfile : (write tree outputs).1.file? place = tree.file? place := by
      rw [file?_write, hnone, Option.none_or]
    cases item with
    | file bytes => rwa [← file?_eq_some_iff, hfile, file?_eq_some_iff]
    | folder => exact get?_write_of_folder outputs hbefore
  added := by
    intro place item hbefore hafter
    have hno : tree.file? place = none := by rw [file?, hbefore]
    cases item with
    | file bytes =>
        rw [← file?_eq_some_iff, file?_write, hno, Option.or_none] at hafter
        obtain ⟨o, ho, hplace, rfl⟩ := exists_of_content? hafter
        exact Or.inl ⟨o, replaced_subset tree outputs ho, hplace, rfl⟩
    | folder =>
        have hfolder : (write tree outputs).1.isFolderAt place := beq_iff_eq.2 hafter
        rw [isFolderAt_write_eq] at hfolder
        rcases exists_way_of_stage outputs hfolder with hold | hway
        · rw [isFolderAt, hbefore] at hold
          cases hold
        · exact Or.inr ⟨rfl, hway⟩

/-- Wherever writing stops, nothing stands where it has staged a temporary file. -/
theorem get?_write_of_staged (tree : Tree) (outputs : List Output) {s : Staged}
    (hs : s ∈ (stage (places outputs) tree [] outputs).2.1) :
    (write tree outputs).1.get? s.place = none := by
  obtain ⟨done, hstaging, -⟩ := staging_stage outputs (Staging.start (places outputs) tree)
  have hfresh := hstaging.fresh s hs
  rw [← hfresh]
  refine get?_eq_of_file?_eq ?_ ?_
  · rw [file?_write, content?_eq_none, Option.none_or]
    intro o ho heq
    exact hstaging.away s hs (heq ▸ placeOf_mem_places (replaced_subset tree outputs ho))
  · obtain ⟨o, -, -, hfile⟩ := hstaging.exists_of_mem hs
    rw [isFolderAt_write_eq, isFolderAt_of_file hfile, isFolderAt, hfresh]
    rfl

/-- The whole effect of writing. Wherever it stops, no temporary file is left and what has
changed is owed to the outputs; when it comes to its end, each place that is named holds the
bytes of the last output that names it, and these are read with the path of every output that
names it. -/
theorem effect_write (tree : Tree) (outputs : List Output) :
    (∀ s ∈ (stage (places outputs) tree [] outputs).2.1,
        (write tree outputs).1.get? s.place = none) ∧
      IsOwedTo outputs tree (write tree outputs).1 ∧
      ((write tree outputs).2 = none → ∀ earlier o later, outputs = earlier ++ o :: later →
        (∀ l ∈ later, placeOf l.path ≠ placeOf o.path) →
          (write tree outputs).1.get? (placeOf o.path) = some (.file (Text.Utf8.encode o.content)) ∧
            ∀ named ∈ outputs, placeOf named.path = placeOf o.path → named.path.IsTidy →
              (write tree outputs).1.read named.path = .ok (Text.Utf8.encode o.content)) := by
  refine ⟨fun s hs => get?_write_of_staged tree outputs hs, isOwedTo_write tree outputs, ?_⟩
  intro hnone earlier o later hsplit hlast
  have hbytes : content? outputs (placeOf o.path) = some (Text.Utf8.encode o.content) := by
    rw [hsplit, content?_append_cons hlast]
  constructor
  · rw [← file?_eq_some_iff, file?_write, replaced_of_write hnone, hbytes, Option.some_or]
  · intro named hnamed hplace htidy
    exact read_write_of_content? hnone hnamed htidy (hplace ▸ hbytes)

/-- A folder with a file beside it. -/
def folderBesideFile : Tree :=
  ⟨⟨[(["d".toList], .folder), (["a".toList], .file [111])], by decide⟩⟩

/-- Two outputs for one place, in a folder that is missing and by two paths. -/
def namedTwice : List Output :=
  [⟨Path.ofText "d/e/b".toList, "m".toList⟩, ⟨Path.ofText "d/../d/e/b".toList, "n".toList⟩]

/-- The second output shows by either path, and the missing folder and the place of the outputs
are all that is new. -/
theorem effect_write_namedTwice :
    (write folderBesideFile namedTwice).2 = none ∧
      (∀ o ∈ namedTwice, (write folderBesideFile namedTwice).1.read o.path = .ok [110]) ∧
      (write folderBesideFile namedTwice).1.get? ["a".toList] = some (.file [111]) ∧
      ∀ place item, folderBesideFile.get? place = none →
        (write folderBesideFile namedTwice).1.get? place = some item →
          (∃ o ∈ namedTwice, placeOf o.path = place ∧ item = .file (Text.Utf8.encode o.content)) ∨
            item = .folder ∧ ∃ o ∈ namedTwice, place ∈ wayFrom [] o.path.parent.parts := by
  obtain ⟨-, hchange, hend⟩ := effect_write folderBesideFile namedTwice
  have hnone : (write folderBesideFile namedTwice).2 = none := by decide
  have hread := (hend hnone [⟨Path.ofText "d/e/b".toList, "m".toList⟩]
    ⟨Path.ofText "d/../d/e/b".toList, "n".toList⟩ [] rfl (by decide)).2
  refine ⟨hnone, fun o ho => hread o ho ?_ ?_, ?_, hchange.added⟩
  · revert o
    decide
  · rcases List.mem_cons.1 ho with rfl | ho
    · exact Path.isTidy_ofText _
    · rw [List.mem_singleton.1 ho]
      exact Path.isTidy_ofText _
  · exact hchange.kept ["a".toList] (.file [111]) (by decide) (by decide)

end Iconsmith.Output
