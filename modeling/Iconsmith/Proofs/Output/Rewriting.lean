import Iconsmith.Proofs.Disk.Keeping
import Iconsmith.Proofs.Output.Writing

set_option autoImplicit false

/-!
# Writing again

Writing changes nothing but the places that the paths of the outputs lead through
(`get?_write_of_not_mem`), and it keeps all folders. So the second of two writings goes as the
first: it finds the folders that this one made, draws the same temporary names (`stage_again`),
can move its files to the same targets, and leaves the tree as it is (`write_write`).
-/

namespace Iconsmith.Output

open Disk Disk.Tree

/-! ## Steps of writing -/

/-- What staging does with one output when it comes to an end without a fault. -/
theorem exists_of_stage_cons {taken : List Place} {tree after : Tree} {staged found : List Staged}
    {o : Output} {more : List Output}
    (h : stage taken tree staged (o :: more) = (after, found, none)) :
    ∃ between created place, tree.ensureFolder o.path.parent = (between, none) ∧
      between.createTemporary taken o.path.parent o.path.name (Text.Utf8.encode o.content) =
        .ok (created, place) ∧
      stage taken created (staged ++ [⟨place, o.path⟩]) more = (after, found, none) := by
  rw [stage] at h
  split at h
  · cases h
  · rename_i between hfolder
    split at h
    · cases h
    · rename_i created place hcreate
      exact ⟨between, created, place, hfolder, hcreate, h⟩

/-- Staging that comes to an end without a fault has staged all outputs. -/
theorem staging_of_stage {tree between : Tree} {outputs : List Output} {staged : List Staged}
    (h : stage (places outputs) tree [] outputs = (between, staged, none)) :
    Staging (places outputs) tree between staged outputs := by
  obtain ⟨more, hstaging, hall⟩ := staging_stage outputs (Staging.start (places outputs) tree)
  rw [h] at hstaging hall
  rwa [hall rfl, List.nil_append] at hstaging

/-- Writing without a fault stages all outputs and moves all temporary files. -/
theorem exists_of_write {tree : Tree} {outputs : List Output} (h : (write tree outputs).2 = none) :
    ∃ between staged, stage (places outputs) tree [] outputs = (between, staged, none) ∧
      (replace between staged).2 = none ∧
      (write tree outputs).1 = discard (replace between staged).1 staged := by
  cases hstage : stage (places outputs) tree [] outputs with
  | mk between rest =>
      obtain ⟨staged, stopped⟩ := rest
      cases stopped with
      | some fault => simp [write, hstage] at h
      | none =>
          refine ⟨between, staged, rfl, ?_, ?_⟩
          · simpa [write, hstage] using h
          · simp [write, hstage]

/-- A temporary file holds the content of an output with its path. -/
theorem Staging.exists_of_mem {taken : List Place} {before tree : Tree} {staged : List Staged}
    {outputs : List Output} (h : Staging taken before tree staged outputs) {s : Staged}
    (hs : s ∈ staged) : ∃ o ∈ outputs, s.path = o.path ∧
      tree.get? s.place = some (.file (Text.Utf8.encode o.content)) := by
  obtain ⟨n, hn, rfl⟩ := List.mem_iff_getElem.1 hs
  have hn' : n < outputs.length := h.holds.length_eq ▸ hn
  obtain ⟨hpath, hfile⟩ := h.holds.get hn hn'
  exact ⟨outputs[n], List.getElem_mem hn', hpath, file?_eq_some_iff.1 hfile⟩

theorem Staging.exists_staged {taken : List Place} {before tree : Tree} {staged : List Staged}
    {outputs : List Output} (h : Staging taken before tree staged outputs) {o : Output}
    (ho : o ∈ outputs) : ∃ s ∈ staged, s.path = o.path := by
  obtain ⟨n, hn, rfl⟩ := List.mem_iff_getElem.1 ho
  have hn' : n < staged.length := h.holds.length_eq ▸ hn
  exact ⟨staged[n], List.getElem_mem hn', (h.holds.get hn' hn).1⟩

/-! ## Moving -/

/-- The invariant of moving temporary files to their targets: each of them is still there, and
none stands at a target. -/
structure Moving (tree : Tree) (staged : List Staged) : Prop where
  files : ∀ s ∈ staged, ∃ bytes, tree.get? s.place = some (.file bytes)
  distinct : (staged.map Staged.place).Nodup
  apart : ∀ s ∈ staged, ∀ t ∈ staged, s.place ≠ placeOf t.path

/-- When all outputs are staged the moving can begin. -/
theorem Staging.moving {before tree : Tree} {staged : List Staged} {outputs : List Output}
    (h : Staging (places outputs) before tree staged outputs) : Moving tree staged where
  files := fun s hs => by
    obtain ⟨o, -, -, hfile⟩ := h.exists_of_mem hs
    exact ⟨_, hfile⟩
  distinct := h.distinct
  apart := fun s hs t ht heq => by
    obtain ⟨o, ho, hpath, -⟩ := h.exists_of_mem ht
    exact h.away s hs (heq ▸ hpath ▸ placeOf_mem_places ho)

section Moving

variable {tree renamed : Tree} {s : Staged} {staged : List Staged}

theorem Moving.rename (h : Moving tree (s :: staged))
    (hrename : tree.rename s.place s.path = .ok renamed) : Moving renamed staged where
  files := fun t ht => by
    obtain ⟨bytes, hfile⟩ := h.files t (List.mem_cons_of_mem s ht)
    obtain ⟨hne, -, item, -, rfl⟩ := rename_eq_ok hrename
    have hdistinct := h.distinct
    rw [List.map_cons, List.nodup_cons] at hdistinct
    have hother : t.place ≠ s.place := fun heq => hdistinct.1 (heq ▸ List.mem_map_of_mem ht)
    have htarget := h.apart t (List.mem_cons_of_mem s ht) s List.mem_cons_self
    exact ⟨bytes, by rw [get?_put_of_ne _ htarget, get?_remove_of_ne hother, hfile]⟩
  distinct := (List.nodup_cons.1 h.distinct).2
  apart := fun t ht u hu => h.apart t (List.mem_cons_of_mem s ht) u (List.mem_cons_of_mem s hu)

theorem Moving.isFolderAt_rename (h : Moving tree (s :: staged))
    (hrename : tree.rename s.place s.path = .ok renamed) (q : Place) :
    renamed.isFolderAt q = tree.isFolderAt q := by
  obtain ⟨bytes, hfile⟩ := h.files s List.mem_cons_self
  exact Disk.Tree.isFolderAt_rename hfile hrename q

end Moving

/-- Moving temporary files changes no folder. -/
theorem isFolderAt_replace (staged : List Staged) :
    ∀ {tree : Tree}, Moving tree staged →
      ∀ q, (replace tree staged).1.isFolderAt q = tree.isFolderAt q := by
  induction staged with
  | nil => intro tree _ q; rfl
  | cons s more ih =>
      intro tree h q
      cases hrename : tree.rename s.place s.path with
      | error fault => rw [replace, hrename]
      | ok renamed =>
          rw [replace, hrename]
          exact (ih (h.rename hrename) q).trans (h.isFolderAt_rename hrename q)

/-- All temporary files can be moved exactly if their paths are targets from the beginning. -/
theorem replace_eq_none_iff (staged : List Staged) :
    ∀ {tree : Tree}, Moving tree staged →
      ((replace tree staged).2 = none ↔ ∀ s ∈ staged, tree.IsTarget s.path) := by
  induction staged with
  | nil =>
      intro tree _
      exact iff_of_true rfl fun s hs => absurd hs List.not_mem_nil
  | cons s more ih =>
      intro tree h
      obtain ⟨bytes, hfile⟩ := h.files s List.mem_cons_self
      rw [List.forall_mem_cons]
      cases hrename : tree.rename s.place s.path with
      | error fault =>
          rw [replace, hrename]
          refine iff_of_false (Option.some_ne_none _) fun htargets => ?_
          rw [rename_of_isTarget hfile htargets.1] at hrename
          cases hrename
      | ok renamed =>
          rw [replace, hrename]
          refine (ih (h.rename hrename)).trans ?_
          rw [and_iff_right (isTarget_of_rename hrename)]
          have hfolders := h.isFolderAt_rename hrename
          exact forall₂_congr fun t _ =>
            ⟨fun ht => ht.of_folders hfolders, fun ht => ht.of_folders fun q => (hfolders q).symm⟩

theorem filter_not_mem_cons (keys : List Place) (place : Place) (more : List Place) :
    (keys.filter fun q => q ≠ place).filter (fun q => q ∉ more) =
      keys.filter fun q => q ∉ place :: more := by
  rw [List.filter_filter]
  exact List.filter_congr fun q _ => by simp [Bool.and_comm]

/-- Temporary files that are moved over files leave the other entries in their order. -/
theorem keys_replace (staged : List Staged) :
    ∀ {tree : Tree}, Moving tree staged → (∀ s ∈ staged, placeOf s.path ∈ tree.entries.keys) →
      (replace tree staged).2 = none → (replace tree staged).1.entries.keys =
        tree.entries.keys.filter fun q => q ∉ staged.map Staged.place := by
  induction staged with
  | nil =>
      intro tree _ _ _
      simp [replace]
  | cons s more ih =>
      intro tree h htargets hnone
      obtain ⟨htarget, hmore⟩ := List.forall_mem_cons.1 htargets
      cases hrename : tree.rename s.place s.path with
      | error fault =>
          rw [replace, hrename] at hnone
          cases hnone
      | ok renamed =>
          rw [replace, hrename] at hnone ⊢
          -- A move onto a file that is there takes the place of the temporary file away.
          have hkeys : renamed.entries.keys = tree.entries.keys.filter fun q => q ≠ s.place := by
            obtain ⟨-, -, item, -, rfl⟩ := rename_eq_ok hrename
            have hapart := h.apart s List.mem_cons_self s List.mem_cons_self
            rw [Tree.put, Tree.remove, Table.keys_set, Table.keys_erase, if_pos]
            simpa using ⟨htarget, Ne.symm hapart⟩
          rw [ih (h.rename hrename) ?_ hnone, hkeys]
          · exact filter_not_mem_cons _ _ _
          · intro t ht
            rw [hkeys]
            have hapart := h.apart s List.mem_cons_self t (List.mem_cons_of_mem s ht)
            simpa using ⟨hmore t ht, Ne.symm hapart⟩

theorem root_replace (staged : List Staged) :
    ∀ {tree : Tree}, (∀ s ∈ staged, s.place ≠ []) →
      (replace tree staged).1.entries.get? [] = tree.entries.get? [] := by
  induction staged with
  | nil => intro tree _; rfl
  | cons s more ih =>
      intro tree h
      obtain ⟨hfirst, hmore⟩ := List.forall_mem_cons.1 h
      cases hrename : tree.rename s.place s.path with
      | error fault => rw [replace, hrename]
      | ok renamed =>
          rw [replace, hrename]
          exact (ih hmore).trans (root_rename hfirst hrename)

theorem root_discard (staged : List Staged) :
    ∀ {tree : Tree}, (∀ s ∈ staged, s.place ≠ []) →
      (discard tree staged).entries.get? [] = tree.entries.get? [] := by
  induction staged with
  | nil => intro tree _; rfl
  | cons s more ih =>
      intro tree h
      obtain ⟨hfirst, hmore⟩ := List.forall_mem_cons.1 h
      exact (ih hmore).trans (root_remove hfirst)

/-- What is left of temporary files is discarded from the entries. -/
theorem keys_discard (staged : List Staged) :
    ∀ (tree : Tree), (discard tree staged).entries.keys =
      tree.entries.keys.filter fun q => q ∉ staged.map Staged.place := by
  induction staged with
  | nil => intro tree; simp [discard]
  | cons s more ih =>
      intro tree
      have hstep : discard tree (s :: more) = discard (tree.remove s.place) more := rfl
      rw [hstep, ih, Tree.remove, Table.keys_erase]
      exact filter_not_mem_cons _ _ _

/-! ## Folders through a writing -/

/-- Making the folder of an output changes nothing away from its way. -/
theorem get?_ensureFolder_parent {taken : List Place} {tree between : Tree} {p : Path}
    (hway : wayFrom [] p.parts ⊆ taken) (h : tree.ensureFolder p.parent = (between, none))
    {q : Place} (hq : q ∉ taken) : between.get? q = tree.get? q := by
  have hsame : (tree.ensureFolder p.parent).1.get? q = tree.get? q :=
    get?_ensureFolder_of_not_mem fun hmem => hq (hway (wayFrom_dropLast_subset [] p.parts hmem))
  rwa [h] at hsame

theorem wayFrom_subset_places {outputs : List Output} {o : Output} (ho : o ∈ outputs) :
    wayFrom [] o.path.parts ⊆ places outputs :=
  fun _ hplace => List.mem_flatMap.2 ⟨o, ho, hplace⟩

/-- Staging keeps folders, and makes them only on the ways of the outputs. -/
theorem isFolderAt_stage {taken : List Place} {outputs : List Output} :
    ∀ {tree after : Tree} {staged found : List Staged},
      (∀ o ∈ outputs, wayFrom [] o.path.parts ⊆ taken) →
      stage taken tree staged outputs = (after, found, none) → ∀ q,
        (tree.isFolderAt q → after.isFolderAt q) ∧
          (q ∉ taken → after.isFolderAt q = tree.isFolderAt q) := by
  induction outputs with
  | nil =>
      intro tree after staged found _ h q
      cases h
      exact ⟨id, fun _ => rfl⟩
  | cons o more ih =>
      intro tree after staged found htaken h q
      obtain ⟨hway, hmore⟩ := List.forall_mem_cons.1 htaken
      obtain ⟨between, created, place, hfolder, hcreate, hrest⟩ := exists_of_stage_cons h
      obtain ⟨hfree, -, rfl⟩ := createTemporary_eq_ok hcreate
      obtain ⟨hkept, haway⟩ := ih hmore hrest q
      rw [isFolderAt_put (isFolderAt_of_free hfree)] at hkept haway
      have hgrown := grown_ensureFolder tree o.path.parent
      rw [hfolder] at hgrown
      refine ⟨fun hq => hkept ?_, fun hq => (haway hq).trans ?_⟩
      · have hitem := hgrown.get?_of_some (beq_iff_eq.1 hq)
        exact beq_iff_eq.2 hitem
      · rw [isFolderAt, isFolderAt, get?_ensureFolder_parent hway hfolder hq]

/-- Discarding what is left of temporary files changes no folder. -/
theorem isFolderAt_discard (staged : List Staged) :
    ∀ {tree : Tree}, (∀ s ∈ staged, tree.isFolderAt s.place = false) →
      ∀ q, (discard tree staged).isFolderAt q = tree.isFolderAt q := by
  induction staged with
  | nil => intro tree _ q; rfl
  | cons s more ih =>
      intro tree h q
      obtain ⟨hfirst, hmore⟩ := List.forall_mem_cons.1 h
      have hremove := isFolderAt_remove hfirst
      have hrest : ∀ t ∈ more, (tree.remove s.place).isFolderAt t.place = false := by
        intro t ht
        rw [hremove, hmore t ht]
      exact (ih hrest q).trans (hremove q)

/-- When temporary files have been moved and what is left of them is discarded, the folders are
those from before. -/
theorem Moving.isFolderAt_discard_replace {tree : Tree} {staged : List Staged}
    (h : Moving tree staged) (q : Place) :
    (discard (replace tree staged).1 staged).isFolderAt q = tree.isFolderAt q := by
  have hreplace := isFolderAt_replace staged h
  refine (isFolderAt_discard staged (fun s hs => ?_) q).trans (hreplace q)
  obtain ⟨bytes, hfile⟩ := h.files s hs
  rw [hreplace, isFolderAt_of_file hfile]

/-- An output brings something to the place that it names. -/
theorem isSome_content? {outputs : List Output} {o : Output} (ho : o ∈ outputs) :
    (content? outputs (placeOf o.path)).isSome := by
  induction outputs with
  | nil => cases ho
  | cons first more ih =>
      rw [content?, Option.isSome_or]
      rcases List.mem_cons.1 ho with rfl | ho
      · simp
      · rw [ih ho]
        rfl

section Writing

variable {tree : Tree} {outputs : List Output} (h : (write tree outputs).2 = none)

include h in
/-- Writing keeps folders, and makes them only on the ways of the outputs. -/
theorem isFolderAt_write (q : Place) :
    (tree.isFolderAt q → (write tree outputs).1.isFolderAt q) ∧
      (q ∉ places outputs → (write tree outputs).1.isFolderAt q = tree.isFolderAt q) := by
  obtain ⟨between, staged, hstage, -, hafter⟩ := exists_of_write h
  rw [hafter, (staging_of_stage hstage).moving.isFolderAt_discard_replace]
  exact isFolderAt_stage (fun _ => wayFrom_subset_places) hstage q

include h in
/-- Away from the ways of the outputs writing changes nothing. -/
theorem get?_write_of_not_mem {q : Place} (hq : q ∉ places outputs) :
    (write tree outputs).1.get? q = tree.get? q := by
  refine get?_eq_of_file?_eq ?_ ((isFolderAt_write h q).2 hq)
  rw [file?_write, content?_eq_none, Option.none_or]
  intro o ho heq
  exact hq (heq ▸ placeOf_mem_places (replaced_subset tree outputs ho))

include h in
/-- Every output that has been written is a file. -/
theorem isSome_file?_write {o : Output} (ho : o ∈ outputs) :
    ((write tree outputs).1.file? (placeOf o.path)).isSome := by
  obtain ⟨bytes, hbytes⟩ := Option.isSome_iff_exists.1 (isSome_content? ho)
  rw [file?_write, replaced_of_write h, hbytes]
  rfl

include h in
/-- The path of every output that has been written starts at the working directory. -/
theorem anchor_of_write {o : Output} (ho : o ∈ outputs) : o.path.anchor = .here := by
  obtain ⟨between, staged, hstage, hreplace, -⟩ := exists_of_write h
  have hstaging := staging_of_stage hstage
  obtain ⟨s, hs, hpath⟩ := hstaging.exists_staged ho
  have htarget := (replace_eq_none_iff staged hstaging.moving).1 hreplace s hs
  obtain ⟨found, hparent, -⟩ := htarget.located
  exact hpath ▸ (locateParent_eq_ok.1 hparent).2.1

end Writing

/-! ## The second writing -/

/-- One output is staged again as before in a tree that agrees away from the places taken and has
the folders that were made: it makes no folder, and its temporary file comes to the same place. -/
theorem stageOne_again {taken : List Place} {a b between created : Tree} {o : Output}
    {bytes : List UInt8} {place : Place} (hway : wayFrom [] o.path.parts ⊆ taken)
    (htidy : o.path.IsTidy) (hagree : ∀ q ∉ taken, a.get? q = b.get? q)
    (hmade : ∀ q, between.isFolderAt q → b.isFolderAt q)
    (hfolder : a.ensureFolder o.path.parent = (between, none))
    (hcreate : between.createTemporary taken o.path.parent o.path.name bytes =
      .ok (created, place)) :
    b.ensureFolder o.path.parent = (b, none) ∧
      b.createTemporary taken o.path.parent o.path.name bytes =
        .ok (b.put place (.file bytes), place) ∧
      b.get? place = none ∧
      ∀ q ∉ taken, created.get? q = (b.put place (.file bytes)).get? q := by
  obtain ⟨hfree, haway, rfl⟩ := createTemporary_eq_ok hcreate
  have hbetween : ∀ q ∉ taken, between.get? q = b.get? q := fun q hq =>
    (get?_ensureFolder_parent hway hfolder hq).trans (hagree q hq)
  have hcreate' := createTemporary_of_agree hbetween hmade hcreate
  obtain ⟨found, hlocate, hfound, -⟩ := createTemporary_eq_ok_iff.1 hcreate'
  have hne := ne_nil_of_free hfree
  refine ⟨ensureFolder_of_located htidy.parent hlocate hfound, hcreate',
    (hbetween place haway).symm.trans hfree, fun q hq => ?_⟩
  rw [get?_put _ hne, get?_put _ hne, hbetween q hq]

/-- Staging the outputs again goes as before in a tree that agrees away from the places taken and
has the folders that were made: they stay as they are, and the temporary files come to the same
places. -/
theorem stage_again {taken : List Place} {outputs : List Output} :
    ∀ {a b after : Tree} {staged found : List Staged},
      (∀ o ∈ outputs, wayFrom [] o.path.parts ⊆ taken) → (∀ o ∈ outputs, o.path.IsTidy) →
      (∀ q ∉ taken, a.get? q = b.get? q) → (∀ q, after.isFolderAt q → b.isFolderAt q) →
      stage taken a staged outputs = (after, found, none) →
      ∃ again new, stage taken b staged outputs = (again, found, none) ∧ found = staged ++ new ∧
        (∀ q, again.isFolderAt q = b.isFolderAt q) ∧
        again.entries.get? [] = b.entries.get? [] ∧
        again.entries.keys = b.entries.keys ++ new.map Staged.place := by
  induction outputs with
  | nil =>
      intro a b after staged found _ _ _ _ h
      cases h
      exact ⟨b, [], rfl, (List.append_nil _).symm, fun q => rfl, rfl, (List.append_nil _).symm⟩
  | cons o more ih =>
      intro a b after staged found htaken htidy hagree hfolders h
      obtain ⟨hway, hmore⟩ := List.forall_mem_cons.1 htaken
      obtain ⟨ho, hothers⟩ := List.forall_mem_cons.1 htidy
      obtain ⟨between, created, place, hfolder, hcreate, hrest⟩ := exists_of_stage_cons h
      have hmade : ∀ q, between.isFolderAt q → b.isFolderAt q := by
        intro q hq
        obtain ⟨hfree, -, rfl⟩ := createTemporary_eq_ok hcreate
        rw [← isFolderAt_put (isFolderAt_of_free hfree)] at hq
        exact hfolders q ((isFolderAt_stage hmore hrest q).1 hq)
      obtain ⟨hensure, hcreate', hfree', hnext⟩ :=
        stageOne_again hway ho hagree hmade hfolder hcreate
      have hput := isFolderAt_put (isFolderAt_of_free hfree') (Text.Utf8.encode o.content)
      obtain ⟨again, new, hstage, rfl, hsame, hroot, hnew⟩ := ih hmore hothers hnext
        (fun q hq => by rw [hput]; exact hfolders q hq) hrest
      refine ⟨again, ⟨place, o.path⟩ :: new, ?_, ?_, ?_, ?_, ?_⟩
      · rw [stage, hensure]
        dsimp only
        rw [hcreate']
        exact hstage
      · rw [List.append_assoc]
        rfl
      · intro q
        rw [hsame, hput]
      · rw [hroot, root_put (ne_nil_of_free hfree')]
      · rw [hnew, keys_put_of_free hfree', List.append_assoc]
        rfl

/-- The entries after temporary files have come last, been moved over entries and been discarded
are those from before. -/
theorem Staging.keys_discard_replace {tree again : Tree} {outputs : List Output}
    {staged : List Staged} (h : Staging (places outputs) tree again staged outputs)
    (hoccupied : ∀ o ∈ outputs, placeOf o.path ∈ tree.entries.keys)
    (hkeys : again.entries.keys = tree.entries.keys ++ staged.map Staged.place)
    (hreplaced : (replace again staged).2 = none) :
    (discard (replace again staged).1 staged).entries.keys = tree.entries.keys := by
  have htargets : ∀ s ∈ staged, placeOf s.path ∈ again.entries.keys := by
    intro s hs
    obtain ⟨o, ho, hpath, -⟩ := h.exists_of_mem hs
    rw [hkeys, hpath]
    exact List.mem_append_left _ (hoccupied o ho)
  have hold : tree.entries.keys.filter (fun q => q ∉ staged.map Staged.place) =
      tree.entries.keys := by
    refine List.filter_eq_self.2 fun q hq => decide_eq_true fun hmem => ?_
    obtain ⟨s, hs, rfl⟩ := List.mem_map.1 hmem
    obtain ⟨bytes, hfile⟩ := h.moving.files s hs
    rw [mem_keys_iff (ne_nil_of_file hfile), h.fresh s hs] at hq
    cases hq
  have hnew : (staged.map Staged.place).filter (fun q => q ∉ staged.map Staged.place) = [] := by
    simp
  rw [keys_discard, keys_replace staged h.moving htargets hreplaced, hkeys, List.filter_append,
    hold, hnew, List.append_nil, hold]

/-- The root is none of the places that are moved or discarded. -/
theorem Moving.root_discard_replace {tree : Tree} {staged : List Staged} (h : Moving tree staged) :
    (discard (replace tree staged).1 staged).entries.get? [] = tree.entries.get? [] := by
  have hne : ∀ s ∈ staged, s.place ≠ [] := by
    intro s hs
    obtain ⟨bytes, hfile⟩ := h.files s hs
    exact ne_nil_of_file hfile
  rw [root_discard staged hne, root_replace staged hne]

/-- Writing again what has been written succeeds and changes nothing. -/
theorem write_write {tree : Tree} {outputs : List Output} (htidy : ∀ o ∈ outputs, o.path.IsTidy)
    (h : (write tree outputs).2 = none) :
    write (write tree outputs).1 outputs = ((write tree outputs).1, none) := by
  obtain ⟨between, staged, hstage, hreplace, hafter⟩ := exists_of_write h
  have hmoving := (staging_of_stage hstage).moving
  have hfolders : ∀ q, (write tree outputs).1.isFolderAt q = between.isFolderAt q := by
    intro q
    rw [hafter, hmoving.isFolderAt_discard_replace]
  -- Staging comes to the same temporary files, and they can be moved to the same targets.
  obtain ⟨again, staged, hagain, rfl, hsame, hroot, hkeys⟩ :=
    stage_again (fun _ => wayFrom_subset_places) htidy
      (fun q hq => (get?_write_of_not_mem h hq).symm) (fun q hq => (hfolders q).trans hq) hstage
  have hstaging := staging_of_stage hagain
  have hreplaced : (replace again staged).2 = none := by
    refine (replace_eq_none_iff staged hstaging.moving).2 fun s hs => ?_
    have htarget := (replace_eq_none_iff staged hmoving).1 hreplace s hs
    exact htarget.of_folders fun q => (hfolders q).symm.trans (hsame q).symm
  have hwrite : write (write tree outputs).1 outputs =
      (discard (replace again staged).1 staged, none) := by
    rw [write, hagain]
    simp [hreplaced]
  have hleft : (write (write tree outputs).1 outputs).1 =
      discard (replace again staged).1 staged := congrArg Prod.fst hwrite
  rw [hwrite]
  refine congrArg (Prod.mk · none) (eq_of_keys_eq ?_ ?_ fun q => ?_)
  · refine hstaging.keys_discard_replace (fun o ho => ?_) hkeys hreplaced
    obtain ⟨bytes, hbytes⟩ := Option.isSome_iff_exists.1 (isSome_file?_write h ho)
    have hitem := file?_eq_some_iff.1 hbytes
    rw [mem_keys_iff (ne_nil_of_file hitem), hitem]
    rfl
  · rw [hstaging.moving.root_discard_replace, hroot]
  · refine get?_eq_of_file?_eq ?_ ?_
    · rw [← hleft, file?_write, replaced_of_write (congrArg Prod.snd hwrite), file?_write,
        replaced_of_write h]
      cases content? outputs q <;> rfl
    · rw [hstaging.moving.isFolderAt_discard_replace, hsame]

end Iconsmith.Output
