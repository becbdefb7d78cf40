import Iconsmith.Proofs.Disk.Entries
import Iconsmith.Proofs.Disk.Framing

set_option autoImplicit false

/-!
# Following paths

A path that has been read from text is tidy: it is followed by its components
(`Tree.locate_eq_ok_of_isTidy`). Where it leads through folders to a folder it does so in every
tree with these folders (`Tree.locate_of_folders`), and making that folder again changes nothing
(`Tree.ensureFolder_of_located`).
-/

namespace Iconsmith

namespace Disk

/-! ## Tidy paths -/

/-- A path as it is read from text. -/
def Path.IsTidy (p : Path) : Prop := ∀ part ∈ p.parts, isPart part ∧ '/' ∉ part

theorem Path.isTidy_ofText (t : Text) : (ofText t).IsTidy := by
  intro part hpart
  obtain ⟨hfield, hkept⟩ := List.mem_filter.1 hpart
  exact ⟨hkept, Text.not_mem_of_mem_fields hfield⟩

theorem Path.IsTidy.parent {p : Path} (h : p.IsTidy) : p.parent.IsTidy := fun part hpart =>
  h part (List.dropLast_subset _ hpart)

/-- A path that leads on from where it starts by all of its components. -/
def Path.IsPlain (p : Path) : Prop := ∀ part ∈ p.parts, IsPlainName part

instance (p : Path) : Decidable p.IsPlain :=
  inferInstanceAs (Decidable (∀ part ∈ p.parts, IsPlainName part))

theorem Path.IsPlain.isTidy {p : Path} (h : p.IsPlain) : p.IsTidy := fun part hpart =>
  ⟨(h part hpart).part, (h part hpart).slash⟩

theorem Path.text_of_ne_nil {p : Path} (h : p.parts ≠ []) :
    p.text = p.anchor.text ++ Text.joined ['/'] p.parts := by
  unfold Path.text
  split
  · rename_i hnil
    exact absurd hnil h
  · rfl

/-- A path that starts at the root shows it. -/
theorem Path.head?_text_of_anchor {p : Path} (h : p.anchor ≠ .here) :
    p.text.head? = some '/' := by
  obtain ⟨anchor, parts⟩ := p
  cases anchor with
  | here => exact absurd rfl h
  | root => cases parts <;> rfl
  | doubleRoot => cases parts <;> rfl

/-- The text of a relative tidy path begins with another character than a slash. -/
theorem Path.IsTidy.exists_head?_text {p : Path} (h : p.IsTidy) (hanchor : p.anchor = .here) :
    ∃ c, p.text.head? = some c ∧ c ≠ '/' := by
  obtain ⟨anchor, parts⟩ := p
  obtain rfl : anchor = .here := hanchor
  cases parts with
  | nil => exact ⟨'.', rfl, by decide⟩
  | cons part more =>
      obtain ⟨hkept, hslash⟩ := h part List.mem_cons_self
      cases part with
      | nil => cases hkept
      | cons c part =>
          refine ⟨c, ?_, fun hc => hslash (hc ▸ List.mem_cons_self)⟩
          cases more <;> rfl

/-! ## Ways of plain parts -/

namespace Tree

theorem foldl_stepPlace_of_isPlain {parts : List Text} (h : ∀ part ∈ parts, IsPlainName part)
    (start : Place) : parts.foldl stepPlace start = start ++ parts := by
  induction parts generalizing start with
  | nil => exact (List.append_nil start).symm
  | cons part parts ih =>
      obtain ⟨hpart, hmore⟩ := List.forall_mem_cons.1 h
      rw [List.foldl_cons, stepPlace_of_isPlainName hpart, ih hmore, List.append_assoc]
      rfl

/-- A plain path names the place of its components. -/
theorem placeOf_of_isPlain {p : Path} (h : p.IsPlain) : placeOf p = p.parts :=
  foldl_stepPlace_of_isPlain h []

/-- Plain components lead through the places between the start and the end. -/
theorem mem_wayFrom_of_isPlain {parts : List Text} (h : ∀ part ∈ parts, IsPlainName part)
    {start place : Place} : place ∈ wayFrom start parts ↔
      start <+: place ∧ place <+: start ++ parts := by
  induction parts generalizing start with
  | nil =>
      rw [wayFrom, List.mem_singleton, List.append_nil]
      constructor
      · rintro rfl
        exact ⟨List.prefix_refl _, List.prefix_refl _⟩
      · rintro ⟨hstart, hend⟩
        exact hend.eq_of_length_le hstart.length_le
  | cons part parts ih =>
      obtain ⟨hpart, hmore⟩ := List.forall_mem_cons.1 h
      rw [wayFrom, List.mem_cons, stepPlace_of_isPlainName hpart, ih hmore, List.append_assoc,
        List.singleton_append]
      constructor
      · rintro (rfl | ⟨hstart, hend⟩)
        · exact ⟨List.prefix_refl _, List.prefix_append _ _⟩
        · exact ⟨(List.prefix_append _ _).trans hstart, hend⟩
      · rintro ⟨⟨more, rfl⟩, hend⟩
        cases more with
        | nil => exact Or.inl (List.append_nil start)
        | cons next more =>
            rw [List.prefix_append_right_inj, List.cons_prefix_cons] at hend
            refine Or.inr ⟨⟨more, ?_⟩, ?_⟩
            · rw [hend.1, List.append_assoc, List.singleton_append]
            · rw [List.prefix_append_right_inj, hend.1, List.cons_prefix_cons]
              exact ⟨rfl, hend.2⟩

theorem mem_wayFrom_append {start place : Place} {parts more : List Text} :
    place ∈ wayFrom start (parts ++ more) ↔
      place ∈ wayFrom start parts ∨ place ∈ wayFrom (parts.foldl stepPlace start) more := by
  induction parts generalizing start with
  | nil =>
      have hstart : start ∈ wayFrom start more := by
        cases more <;> exact List.mem_cons_self
      rw [List.nil_append, List.foldl_nil, wayFrom, List.mem_singleton]
      constructor
      · exact Or.inr
      · rintro (rfl | hplace)
        · exact hstart
        · exact hplace
  | cons part parts ih =>
      rw [List.cons_append, wayFrom, wayFrom, List.mem_cons, List.mem_cons, ih, List.foldl_cons,
        or_assoc]

theorem wayFrom_dropLast_subset (start : Place) (parts : List Text) :
    wayFrom start parts.dropLast ⊆ wayFrom start parts := by
  intro place hplace
  cases hlast : parts.getLast? with
  | none =>
      rw [List.getLast?_eq_none_iff.1 hlast] at hplace ⊢
      exact hplace
  | some last =>
      rw [← List.dropLast_append_getLast? last hlast]
      exact mem_wayFrom_append.2 (Or.inl hplace)

/-- Whether components that are followed from a folder never lead out of another one that lies
so many levels above it. -/
def staysWithin : Nat → List Text → Bool
  | _, [] => true
  | depth, part :: more =>
      if part = ['.', '.'] then 0 < depth && staysWithin (depth - 1) more
      else staysWithin (depth + 1) more

theorem prefix_of_mem_wayFrom {parts : List Text}
    (htidy : ∀ part ∈ parts, Path.isPart part ∧ '/' ∉ part) {root below place : Place}
    (hstays : staysWithin below.length parts) (hplace : place ∈ wayFrom (root ++ below) parts) :
    root <+: place := by
  -- On the components; what lies below the root shrinks at dots and grows at names.
  induction parts generalizing below with
  | nil =>
      rw [wayFrom, List.mem_singleton] at hplace
      exact hplace ▸ List.prefix_append root below
  | cons part parts ih =>
      obtain ⟨hpart, hmore⟩ := List.forall_mem_cons.1 htidy
      rw [staysWithin] at hstays
      rcases List.mem_cons.1 hplace with rfl | hplace
      · exact List.prefix_append root below
      · split at hstays
        · rename_i hforth
          rw [Bool.and_eq_true, decide_eq_true_eq, List.length_pos_iff] at hstays
          obtain ⟨hne, hstays⟩ := hstays
          have hback : place ∈ wayFrom (root ++ below.dropLast) parts := by
            rwa [hforth, stepPlace, if_neg (by decide), if_pos rfl,
              List.dropLast_append_of_ne_nil hne] at hplace
          exact ih hmore (by rwa [List.length_dropLast]) hback
        · rename_i hforth
          have hon : place ∈ wayFrom (root ++ (below ++ [part])) parts := by
            rwa [stepPlace_of_isPlainName ⟨hpart.1, hforth, hpart.2⟩,
              List.append_assoc] at hplace
          exact ih hmore (by rwa [List.length_append]) hon

/-! ## Following tidy paths -/

variable {tree a b : Tree} {p : Path} {place : Place}

/-- The fields of the text of a relative tidy path are followed as its components are: those of
a path without components are a single dot. -/
theorem fields_text_of_isTidy (htidy : p.IsTidy) (hanchor : p.anchor = .here) :
    (∀ tree : Tree, tree.follow [] (Text.fields '/' p.text) = tree.follow [] p.parts) ∧
      ∀ q, q ∈ wayFrom [] (Text.fields '/' p.text) ↔ q ∈ wayFrom [] p.parts := by
  by_cases hparts : p.parts = []
  · have htext : p.text = ['.'] := by
      rw [Path.text, hanchor, hparts]
    rw [htext, hparts]
    refine ⟨fun tree => rfl, fun q => ?_⟩
    show q ∈ [[], []] ↔ q ∈ [[]]
    simp
  · have htext : p.text = Text.joined ['/'] p.parts := by
      rw [Path.text_of_ne_nil hparts, hanchor]
      rfl
    rw [htext, Text.fields_joined hparts fun part hpart => (htidy part hpart).2]
    exact ⟨fun tree => rfl, fun q => Iff.rfl⟩

/-- A tidy path is followed by its components. -/
theorem locate_eq_ok_of_isTidy (htidy : p.IsTidy) : tree.locate p = .ok place ↔
    passable p.text = .ok () ∧ p.anchor = .here ∧ tree.follow [] p.parts = .ok place := by
  rw [locate, locateText_eq_ok]
  constructor
  · rintro ⟨hpassable, -, hhead, hfollow⟩
    have hanchor : p.anchor = .here := by
      by_contra hroot
      exact hhead (Path.head?_text_of_anchor hroot)
    rw [(fields_text_of_isTidy htidy hanchor).1] at hfollow
    exact ⟨hpassable, hanchor, hfollow⟩
  · rintro ⟨hpassable, hanchor, hfollow⟩
    obtain ⟨c, hhead, hc⟩ := htidy.exists_head?_text hanchor
    rw [(fields_text_of_isTidy htidy hanchor).1]
    refine ⟨hpassable, fun hnil => ?_, fun hslash => ?_, hfollow⟩
    · rw [hnil] at hhead
      cases hhead
    · exact hc (Option.some.inj (hhead.symm.trans hslash))

/-- The reason why its components cannot be followed is that for which a tidy path is refused. -/
theorem locate_of_follow_error (htidy : p.IsTidy) (hanchor : p.anchor = .here) {cause : Cause}
    (hpassable : passable p.text = .ok ()) (hfollow : tree.follow [] p.parts = .error cause) :
    tree.locate p = refuse p.text cause := by
  obtain ⟨c, hhead, hc⟩ := htidy.exists_head?_text hanchor
  rw [← (fields_text_of_isTidy htidy hanchor).1] at hfollow
  refine locateText_of_follow_error hpassable (fun hnil => ?_) (fun hslash => ?_) hfollow
  · rw [hnil] at hhead
    cases hhead
  · exact hc (Option.some.inj (hhead.symm.trans hslash))

theorem eq_placeOf_of_locate (htidy : p.IsTidy) (h : tree.locate p = .ok place) :
    place = placeOf p :=
  eq_foldl_of_follow ((locate_eq_ok_of_isTidy htidy).1 h).2.2

/-- A tidy path is located in the same way in two trees with the same kinds of items on its
way. -/
theorem locate_congr_of_isTidy (htidy : p.IsTidy)
    (h : p.anchor = .here → ∀ other ∈ wayFrom [] p.parts, SameKind a b other) :
    a.locate p = b.locate p := by
  by_cases hanchor : p.anchor = .here
  · refine locate_congr fun other hother => h hanchor other ?_
    exact ((fields_text_of_isTidy htidy hanchor).2 other).1 hother
  · -- Paths from the root lead out of both trees.
    obtain ⟨rest, hrest⟩ := List.head?_eq_some_iff.1 (Path.head?_text_of_anchor hanchor)
    rw [locate, locate, hrest]
    rfl

/-! ## Names that are too long -/

/-- A name that is too long is found out where it would be an entry of a folder. -/
theorem follow_eq_nameTooLong_iff {parts : List Text} {start : Place} :
    tree.follow start parts = .error .nameTooLong ↔
      ∃ before part more, parts = before ++ part :: more ∧ maxName < Text.Utf8.size part ∧
        ∃ place, tree.follow start before = .ok place ∧ tree.isFolderAt place := by
  constructor
  · intro h
    -- Names on the way that stand there are short, so the long one is the first that is refused.
    induction parts generalizing start with
    | nil => cases h
    | cons part parts ih =>
        rw [follow] at h
        split at h
        · cases h
        · rename_i hfolder
          split at h
          · rename_i hlong
            exact ⟨[], part, parts, rfl, hlong, start, rfl, by simpa using hfolder⟩
          · rename_i hshort
            split at h
            · rename_i item hitem
              obtain ⟨before, long, more, rfl, hlong, place, hfollow, hplace⟩ := ih h
              refine ⟨part :: before, long, more, rfl, hlong, place, ?_, hplace⟩
              rw [follow, if_neg hfolder, if_neg hshort, hitem]
              exact hfollow
            · cases h
  · rintro ⟨before, part, more, rfl, hlong, place, hfollow, hplace⟩
    rw [follow_append, hfollow]
    show tree.follow place (part :: more) = _
    rw [follow, hplace, if_neg (by simp), if_pos hlong]

/-- Components are followed unless something is missing, is no folder, or has too long a name. -/
theorem cause_of_follow {parts : List Text} {start : Place} {cause : Cause}
    (h : tree.follow start parts = .error cause) :
    cause = .notFound ∨ cause = .notFolder ∨ cause = .nameTooLong := by
  induction parts generalizing start with
  | nil => cases h
  | cons part parts ih =>
      rw [follow] at h
      split at h
      · exact Or.inr (Or.inl (Except.error.inj h).symm)
      · split at h
        · exact Or.inr (Or.inr (Except.error.inj h).symm)
        · split at h
          · exact ih h
          · exact Or.inl (Except.error.inj h).symm

/-- Whatever is refused is refused under the path as it was written. -/
theorem fault_of_locateText {t : Text} {fault : AccessFault}
    (h : tree.locateText t = .error fault) :
    fault = .nul ∨ ∃ cause, (cause = .notFound ∨ cause = .notFolder ∨ cause = .nameTooLong) ∧
      fault = .refused ⟨cause, t, none⟩ := by
  unfold locateText passable at h
  split at h
  · rename_i e hpassable
    split at hpassable
    · cases hpassable
      cases h
      exact Or.inl rfl
    · split at hpassable
      · cases hpassable
        cases h
        exact Or.inr ⟨.nameTooLong, Or.inr (Or.inr rfl), rfl⟩
      · cases hpassable
  · split at h
    · cases h
      exact Or.inr ⟨.notFound, Or.inl rfl, rfl⟩
    · cases h
      exact Or.inr ⟨.notFound, Or.inl rfl, rfl⟩
    · split at h
      · cases h
      · rename_i cause hfollow
        cases h
        exact Or.inr ⟨cause, cause_of_follow hfollow, rfl⟩

/-- A test is refused for a path that is too long, and for nothing else. -/
theorem fault_of_test {passes : Item → Bool} {fault : AccessFault}
    (h : tree.test passes p = .error fault) :
    fault = .refused ⟨.nameTooLong, p.text, none⟩ := by
  rw [test] at h
  cases hlocate : tree.locate p with
  | ok place =>
      rw [hlocate] at h
      cases h
  | error e =>
      rw [hlocate] at h
      rcases fault_of_locateText hlocate with rfl | ⟨cause, hcause, rfl⟩
      · cases h
      · rcases hcause with rfl | rfl | rfl <;> cases h
        rfl

theorem test_of_refused {passes : Item → Bool} {cause : Cause}
    (h : tree.locate p = refuse p.text cause) (hcause : cause = .notFound ∨ cause = .notFolder) :
    tree.test passes p = .ok false := by
  rw [test, h]
  rcases hcause with rfl | rfl <;> rfl

/-- A tidy path that can be tested in one tree can be tested in another, unless a name in it turns
out to be too long there and not here. -/
theorem exists_test_of_test (htidy : p.IsTidy) {passes : Item → Bool} {passed : Bool}
    (h : a.test passes p = .ok passed)
    (hlong : p.anchor = .here → b.follow [] p.parts = .error .nameTooLong →
      a.follow [] p.parts = .error .nameTooLong) : ∃ found, b.test passes p = .ok found := by
  cases hpassable : passable p.text with
  | error fault =>
      have hlocate : ∀ tree : Tree, tree.locate p = .error fault := by
        intro tree
        unfold locate locateText
        rw [hpassable]
      have hsame : a.test passes p = b.test passes p := by
        refine test_congr ((hlocate a).trans (hlocate b).symm) fun other hother => ?_
        cases (hlocate a).symm.trans hother
      exact ⟨passed, hsame.symm.trans h⟩
  | ok _ =>
      by_cases hanchor : p.anchor = .here
      · cases hfollow : b.follow [] p.parts with
        | ok place =>
            rw [test, (locate_eq_ok_of_isTidy htidy).2 ⟨hpassable, hanchor, hfollow⟩]
            exact ⟨_, rfl⟩
        | error cause =>
            have hrefused := locate_of_follow_error htidy hanchor hpassable hfollow
            -- Only a name that is too long makes a test fail; other refusals are passed as nothing.
            rcases cause_of_follow hfollow with hcause | hcause | rfl
            · exact ⟨false, test_of_refused hrefused (Or.inl hcause)⟩
            · exact ⟨false, test_of_refused hrefused (Or.inr hcause)⟩
            · rw [test, locate_of_follow_error htidy hanchor hpassable
                (hlong hanchor hfollow)] at h
              cases h
      · obtain ⟨rest, hrest⟩ := List.head?_eq_some_iff.1 (Path.head?_text_of_anchor hanchor)
        refine ⟨false, test_of_refused ?_ (Or.inl rfl)⟩
        rw [hrest] at hpassable ⊢
        rw [locate, hrest, locateText, hpassable]

/-! ## Folders on the way -/

section Folders

variable {parts : List Text} {start : Place} (hfolders : ∀ q, a.isFolderAt q → b.isFolderAt q)

/-- Components that lead to a folder lead there through folders. -/
theorem isFolderAt_of_mem_wayFrom (hfollow : tree.follow start parts = .ok place)
    (hplace : tree.isFolderAt place) {q : Place} (hq : q ∈ wayFrom start parts) :
    tree.isFolderAt q := by
  induction parts generalizing start with
  | nil =>
      cases hfollow
      rwa [List.mem_singleton.1 hq]
  | cons part parts ih =>
      obtain ⟨hfolder, -, -, hmore⟩ := follow_cons_eq_ok.1 hfollow
      rcases List.mem_cons.1 hq with rfl | hq
      · exact hfolder
      · exact ih hmore hq

theorem sameKind_of_isFolderAt (ha : a.isFolderAt place) (hb : b.isFolderAt place) :
    SameKind a b place := by
  rw [SameKind, beq_iff_eq.1 ha, beq_iff_eq.1 hb]

include hfolders in
/-- Components that lead to a folder do so in every tree with the same folders. -/
theorem follow_of_folders (hfollow : a.follow start parts = .ok place)
    (hplace : a.isFolderAt place) : b.follow start parts = .ok place := by
  rw [← hfollow]
  refine (follow_congr fun q hq => ?_).symm
  have hfolder := isFolderAt_of_mem_wayFrom hfollow hplace hq
  exact sameKind_of_isFolderAt hfolder (hfolders q hfolder)

include hfolders in
theorem locate_of_folders (hlocate : a.locate p = .ok place) (hplace : a.isFolderAt place) :
    b.locate p = .ok place := by
  obtain ⟨hpassable, hnil, hhead, hfollow⟩ := locateText_eq_ok.1 hlocate
  exact locateText_eq_ok.2 ⟨hpassable, hnil, hhead, follow_of_folders hfolders hfollow hplace⟩

include hfolders in
/-- The folder of an entry is found in every tree with the same folders. -/
theorem locateParent_of_folders {found : Place × Text} (h : a.locateParent p = .ok found) :
    b.locateParent p = .ok found := by
  obtain ⟨hpassable, hanchor, hfollow, hfolder, hrest⟩ := locateParent_eq_ok.1 h
  exact locateParent_eq_ok.2 ⟨hpassable, hanchor, follow_of_folders hfolders hfollow hfolder,
    hfolders _ hfolder, hrest⟩

/-- A path that can be followed has a folder in which its last component can be followed, unless
it has none. -/
theorem locateParent_of_located (htidy : p.IsTidy) (hlocate : tree.locate p = .ok place) :
    ∃ found, tree.locateParent p = .ok (found, p.name) ∧
      (isDots p.name = false → (tree.get? (found ++ [p.name])).isSome) := by
  obtain ⟨hpassable, hanchor, hfollow⟩ := (locate_eq_ok_of_isTidy htidy).1 hlocate
  cases hlast : p.parts.getLast? with
  | none =>
      have hnil : p.parts = [] := List.getLast?_eq_none_iff.1 hlast
      have hname : p.name = [] := by
        rw [Path.name, hlast]
        rfl
      have hparent : tree.follow [] p.parts.dropLast = .ok [] := by
        rw [hnil]
        rfl
      refine ⟨[], locateParent_eq_ok.2 ⟨hpassable, hanchor, hparent, rfl, ?_, rfl⟩, fun hdots => ?_⟩
      · rw [hname]
        exact Nat.zero_le _
      · rw [hname] at hdots
        cases hdots
  | some last =>
      have hname : p.name = last := by
        rw [Path.name, hlast]
        rfl
      rw [← List.dropLast_append_getLast? last hlast, follow_append, ← hname] at hfollow
      cases hway : tree.follow [] p.parts.dropLast with
      | error cause =>
          rw [hway] at hfollow
          cases hfollow
      | ok found =>
          rw [hway] at hfollow
          obtain ⟨hfolder, hshort, hitem, -⟩ := follow_cons_eq_ok.1 hfollow
          refine ⟨found, locateParent_eq_ok.2 ⟨hpassable, hanchor, hway, hfolder, hshort, rfl⟩,
            fun hdots => ?_⟩
          rwa [stepPlace_of_isDots hdots] at hitem

/-- Where something is no folder can be made. -/
theorem makeFolder_of_located (htidy : p.IsTidy) (hlocate : tree.locate p = .ok place) :
    tree.makeFolder p = refuse p.text .exists := by
  obtain ⟨found, hparent, hitem⟩ := locateParent_of_located htidy hlocate
  rw [makeFolder, hparent]
  dsimp only
  split
  · rfl
  · rename_i hdots
    obtain ⟨item, hitem⟩ := Option.isSome_iff_exists.1 (hitem (by simpa using hdots))
    rw [hitem]

/-- Making a folder that is there changes nothing. -/
theorem ensureFolder_of_located (htidy : p.IsTidy) (hlocate : tree.locate p = .ok place)
    (hplace : tree.isFolderAt place) : tree.ensureFolder p = (tree, none) := by
  have hexists := makeFolder_of_located htidy hlocate
  rw [ensureFolder]
  unfold makeFolders
  rw [hexists]
  show (tree, (tree.existingFolder p _).map FolderFault.access) = _
  rw [existingFolder, isFolder_eq hlocate hplace]
  rfl

end Folders

end Tree

end Disk

end Iconsmith
