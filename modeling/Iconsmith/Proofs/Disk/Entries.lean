import Iconsmith.Proofs.Disk.Looking

set_option autoImplicit false

/-!
# Entries of folders

In a tree that a file system can hold, every name is one component of a path and whatever stands
somewhere stands in a folder (`Tree.IsProper`). What comes of an access to an entry of a folder
that has been found is then settled by the entry and by the length of its path alone
(`Tree.locate_child_of_short`, `Tree.locate_child_of_long`).
-/

namespace Iconsmith.Disk

/-- A path that the system takes: neither its last component nor the whole of it is too long. -/
structure Path.IsShort (p : Path) : Prop where
  name : Text.Utf8.size p.name ≤ Tree.maxName
  text : Text.Utf8.size p.text ≤ Tree.maxPath

instance (p : Path) : Decidable p.IsShort :=
  decidable_of_iff (Text.Utf8.size p.name ≤ Tree.maxName ∧ Text.Utf8.size p.text ≤ Tree.maxPath)
    ⟨fun ⟨hname, htext⟩ => ⟨hname, htext⟩, fun ⟨hname, htext⟩ => ⟨hname, htext⟩⟩

instance (name : Text) : Decidable (IsPlainName name) :=
  decidable_of_iff (Path.isPart name ∧ name ≠ ['.', '.'] ∧ '/' ∉ name)
    ⟨fun ⟨hpart, hforth, hslash⟩ => ⟨hpart, hforth, hslash⟩,
      fun ⟨hpart, hforth, hslash⟩ => ⟨hpart, hforth, hslash⟩⟩

theorem Path.name_child (p : Path) (name : Text) : (p.child name).name = name := by
  simp [Path.name, child]

/-- An entry with a name that is not longer has a path that is short as well. -/
theorem Path.IsShort.of_size_le {p : Path} {name other : Text} (h : (p.child name).IsShort)
    (hsize : Text.Utf8.size other ≤ Text.Utf8.size name) : (p.child other).IsShort := by
  obtain ⟨n, hn⟩ := p.size_text_child
  obtain ⟨hname, htext⟩ := h
  rw [name_child] at hname
  rw [hn] at htext
  refine ⟨?_, ?_⟩
  · rw [name_child]
    exact Nat.le_trans hsize hname
  · rw [hn]
    exact Nat.le_trans (Nat.add_le_add_left hsize n) htext

namespace Tree

variable {tree : Tree} {root : Path} {place : Place} {name : Text}

/-- A tree that a file system can hold. -/
structure IsProper (tree : Tree) : Prop where
  plain : ∀ place ∈ tree.entries.keys, ∀ name ∈ place, IsPlainName name
  below : ∀ place name, (tree.get? (place ++ [name])).isSome → tree.isFolderAt place

/-- Whether a tree can be held by a file system is settled entry by entry. -/
theorem isProper_iff : tree.IsProper ↔ ∀ place ∈ tree.entries.keys,
    (∀ name ∈ place, IsPlainName name) ∧ tree.isFolderAt place.dropLast := by
  constructor
  · intro h place hplace
    refine ⟨h.plain place hplace, ?_⟩
    cases hlast : place.getLast? with
    | none =>
        rw [List.getLast?_eq_none_iff.1 hlast]
        rfl
    | some name =>
        refine h.below place.dropLast name ?_
        rw [get?_append_singleton, Table.isSome_get?_iff,
          List.dropLast_append_getLast? name hlast]
        exact hplace
  · intro h
    refine ⟨fun place hplace => (h place hplace).1, fun place name hsome => ?_⟩
    rw [get?_append_singleton, Table.isSome_get?_iff] at hsome
    have hfolder := (h _ hsome).2
    rwa [List.dropLast_concat] at hfolder

instance (tree : Tree) : Decidable tree.IsProper := decidable_of_iff' _ isProper_iff

theorem IsProper.isPlainName (h : tree.IsProper) (hname : name ∈ tree.names place) :
    IsPlainName name := by
  rw [mem_names_iff, get?_append_singleton, Table.isSome_get?_iff] at hname
  exact h.plain _ hname name (by simp)

/-- Whatever stands somewhere stands below folders, by induction on what leads there. -/
theorem IsProper.isFolderAt_of_append (h : tree.IsProper) {more : List Text} (hne : more ≠ [])
    (hsome : (tree.get? (place ++ more)).isSome) : tree.isFolderAt place := by
  induction more using List.reverseRecOn with
  | nil => exact absurd rfl hne
  | append_singleton more name ih =>
      rw [← List.append_assoc] at hsome
      have hfolder := h.below (place ++ more) name hsome
      by_cases hmore : more = []
      · rwa [hmore, List.append_nil] at hfolder
      · refine ih hmore ?_
        rw [beq_iff_eq.1 hfolder]
        rfl

/-! ## Locating -/

section Located

variable (hroot : tree.locate root = .ok place) (hfolder : tree.isFolderAt place)
  (hname : IsPlainName name) (hnul : '\x00' ∉ name)

include hroot hnul in
theorem not_mem_text_of_located : '\x00' ∉ (root.child name).text :=
  Path.not_mem_text_child (by decide)
    (passable_eq_ok.1 (locateText_eq_ok.1 hroot).1).1 hnul

include hroot hfolder hname hnul in
/-- A short path to an entry of a folder is followed to the entry, if it is there. -/
theorem locate_child_of_short (hshort : (root.child name).IsShort) :
    tree.locate (root.child name) =
      if (tree.get? (place ++ [name])).isSome then .ok (place ++ [name])
      else refuse (root.child name).text .notFound := by
  have hpassable : passable (root.child name).text = .ok () :=
    passable_eq_ok.2 ⟨not_mem_text_of_located hroot hnul, hshort.text⟩
  have hsize : Text.Utf8.size name ≤ maxName := by
    have hlast := hshort.name
    rwa [Path.name_child] at hlast
  cases hitem : tree.get? (place ++ [name]) with
  | some item => exact locate_child hroot hfolder hname hpassable hsize hitem
  | none =>
      obtain ⟨parts, hfollow, hfields, hnil, hhead⟩ := exists_fields_child hroot hname
      have hlast : tree.follow [] (Text.fields '/' (root.child name).text) = .error .notFound := by
        rw [hfields, follow_append, hfollow]
        show tree.follow place [name] = _
        rw [follow_singleton hname, hfolder, if_neg (by simp), if_neg (Nat.not_lt_of_le hsize),
          hitem]
      exact locateText_of_follow_error hpassable hnil hhead hlast

include hroot hfolder hname hnul in
/-- A path to an entry of a folder that is too long is refused, whatever is there. -/
theorem locate_child_of_long (hlong : ¬ (root.child name).IsShort) :
    tree.locate (root.child name) = refuse (root.child name).text .nameTooLong := by
  have hno := not_mem_text_of_located hroot hnul
  by_cases htext : Text.Utf8.size (root.child name).text ≤ maxPath
  · have hsize : maxName < Text.Utf8.size name := by
      refine Nat.lt_of_not_le fun hsize => hlong ⟨?_, htext⟩
      rwa [Path.name_child]
    obtain ⟨parts, hfollow, hfields, hnil, hhead⟩ := exists_fields_child hroot hname
    have hlast : tree.follow [] (Text.fields '/' (root.child name).text) =
        .error .nameTooLong := by
      rw [hfields, follow_append, hfollow]
      show tree.follow place [name] = _
      rw [follow_singleton hname, hfolder, if_neg (by simp), if_pos hsize]
    exact locateText_of_follow_error (passable_eq_ok.2 ⟨hno, htext⟩) hnil hhead hlast
  · have hpassable : passable (root.child name).text =
        refuse (root.child name).text .nameTooLong := by
      rw [passable, if_neg (by simpa using hno), if_pos (Nat.lt_of_not_le htext)]
    unfold locate locateText
    rw [hpassable]
    rfl

theorem not_mem_of_locate_child {other : Place} (h : tree.locate (root.child name) = .ok other) :
    '\x00' ∉ name := fun hnul =>
  (passable_eq_ok.1 (locateText_eq_ok.1 h).1).1 (Path.mem_text_child_of_mem hnul)

include hroot hfolder hname in
/-- A path to an entry of a folder leads nowhere else. -/
theorem eq_of_locate_child {other : Place} (h : tree.locate (root.child name) = .ok other) :
    other = place ++ [name] ∧ (tree.get? (place ++ [name])).isSome := by
  have hnul := not_mem_of_locate_child h
  by_cases hshort : (root.child name).IsShort
  · rw [locate_child_of_short hroot hfolder hname hnul hshort] at h
    split at h
    · rename_i hsome
      exact ⟨(Except.ok.inj h).symm, hsome⟩
    · cases h
  · rw [locate_child_of_long hroot hfolder hname hnul hshort] at h
    cases h

/-! ## Testing -/

include hroot hfolder hname hnul in
theorem test_child_of_short (passes : Item → Bool) (hshort : (root.child name).IsShort) :
    tree.test passes (root.child name) = .ok ((tree.get? (place ++ [name])).any passes) := by
  rw [test, locate_child_of_short hroot hfolder hname hnul hshort]
  cases hitem : tree.get? (place ++ [name]) with
  | some item =>
      show Except.ok ((tree.get? (place ++ [name])).any passes) = _
      rw [hitem]
  | none => rfl

include hroot hfolder hname hnul in
/-- An entry can be tested exactly if its path is not too long. -/
theorem exists_test_child_iff (passes : Item → Bool) :
    (∃ passed, tree.test passes (root.child name) = .ok passed) ↔ (root.child name).IsShort := by
  constructor
  · rintro ⟨passed, hpassed⟩
    by_contra hlong
    rw [test, locate_child_of_long hroot hfolder hname hnul hlong] at hpassed
    cases hpassed
  · exact fun hshort => ⟨_, test_child_of_short hroot hfolder hname hnul passes hshort⟩

end Located

end Tree

end Iconsmith.Disk
