import Iconsmith.Disk.Tree
import Iconsmith.Proofs.Disk.Changes
import Iconsmith.Proofs.Text.Fields
import Mathlib.Data.List.Basic

set_option autoImplicit false

/-!
# Looking into folders

The path of an entry of a folder leads to the entry when the folder can be located and the name
is plain (`locate_child`): it is written with one more field. What a folder lists are the names
of what stands right below it (`mem_names_iff`). A path still leads to the same place when more
has come to stand in the tree (`locate_of_kept`).
-/

namespace Iconsmith

/-! ## Sizes -/

/-- A text is as long as its parts. -/
theorem Text.Utf8.size_append (t u : Text) : size (t ++ u) = size t + size u := by
  rw [size, encode, List.flatMap_append, List.length_append]
  rfl

namespace Disk

/-! ## Paths of entries -/

/-- A name that leads on from a folder, by one component. -/
structure IsPlainName (name : Text) : Prop where
  part : Path.isPart name
  forth : name ≠ ['.', '.']
  slash : '/' ∉ name

theorem Path.text_child_of_ne_nil {p : Path} (h : p.parts ≠ []) (name : Text) :
    (p.child name).text = p.text ++ '/' :: name := by
  obtain ⟨anchor, parts⟩ := p
  have htext : ∀ parts : List Text, parts ≠ [] →
      Path.text ⟨anchor, parts⟩ = anchor.text ++ Text.joined ['/'] parts := by
    intro parts hparts
    unfold Path.text
    split
    · rename_i hnil
      exact absurd hnil hparts
    · rfl
  rw [Path.child, htext _ (by simp), htext parts h, Text.joined_append h, List.append_assoc]
  simp

theorem Path.text_child_of_eq_nil {p : Path} (h : p.parts = []) (name : Text) :
    (p.child name).text = p.anchor.text ++ name := by
  obtain ⟨anchor, parts⟩ := p
  obtain rfl : parts = [] := h
  cases anchor <;> rfl

/-- The path of an entry holds no other characters than the folder's path and the name. -/
theorem Path.mem_text_child {p : Path} {name : Text} {c : Char} (h : c ∈ (p.child name).text) :
    c ∈ p.text ∨ c = '/' ∨ c ∈ name := by
  by_cases hparts : p.parts = []
  · have hanchor : ∀ anchor : Anchor, ∀ c ∈ anchor.text, c = '/' := by
      intro anchor
      cases anchor <;> decide
    rw [text_child_of_eq_nil hparts, List.mem_append] at h
    exact Or.inr (h.imp_left (hanchor p.anchor c))
  · rw [text_child_of_ne_nil hparts, List.mem_append, List.mem_cons] at h
    exact h

/-- The path of an entry shows the name. -/
theorem Path.mem_text_child_of_mem {p : Path} {name : Text} {c : Char} (h : c ∈ name) :
    c ∈ (p.child name).text := by
  by_cases hparts : p.parts = []
  · rw [text_child_of_eq_nil hparts]
    exact List.mem_append_right _ h
  · rw [text_child_of_ne_nil hparts]
    exact List.mem_append_right _ (List.mem_cons_of_mem _ h)

theorem Path.not_mem_text_child {p : Path} {name : Text} {c : Char} (hc : c ≠ '/')
    (hp : c ∉ p.text) (hname : c ∉ name) : c ∉ (p.child name).text := by
  intro hmem
  rcases mem_text_child hmem with hmem | hmem | hmem
  · exact hp hmem
  · exact hc hmem
  · exact hname hmem

/-- The path of an entry is as long as its name and what precedes the name. -/
theorem Path.size_text_child (p : Path) :
    ∃ n, ∀ name, Text.Utf8.size (p.child name).text = n + Text.Utf8.size name := by
  by_cases hparts : p.parts = []
  · refine ⟨Text.Utf8.size p.anchor.text, fun name => ?_⟩
    rw [text_child_of_eq_nil hparts, Text.Utf8.size_append]
  · refine ⟨Text.Utf8.size (p.text ++ ['/']), fun name => ?_⟩
    rw [text_child_of_ne_nil hparts, ← Text.Utf8.size_append, List.append_assoc]
    rfl

/-- The path of an entry of an entry begins with that of the entry. -/
theorem Path.size_text_child_le (p : Path) (name file : Text) :
    Text.Utf8.size (p.child name).text ≤ Text.Utf8.size ((p.child name).child file).text := by
  have hparts : (p.child name).parts ≠ [] := by simp [child]
  rw [text_child_of_ne_nil hparts, Text.Utf8.size_append]
  exact Nat.le_add_right _ _

namespace Tree

variable {tree : Tree} {place : Place} {name : Text}

theorem passable_eq_ok {t : Text} :
    passable t = .ok () ↔ '\x00' ∉ t ∧ Text.Utf8.size t ≤ maxPath := by
  rw [passable]
  split
  · rename_i hnul
    exact iff_of_false (fun h => by cases h) fun h => h.1 (List.contains_iff_mem.1 hnul)
  · rename_i hnul
    have hno : '\x00' ∉ t := fun hmem => hnul (List.contains_iff_mem.2 hmem)
    split
    · rename_i hlong
      exact iff_of_false (fun h => by cases h) fun h => Nat.not_le_of_lt hlong h.2
    · rename_i hshort
      exact iff_of_true rfl ⟨hno, Nat.le_of_not_lt hshort⟩

/-- A path without a NUL character that is short enough can be passed to the system. -/
theorem passable_child {p : Path} (hp : '\x00' ∉ p.text) (hname : '\x00' ∉ name)
    (hshort : Text.Utf8.size (p.child name).text ≤ maxPath) :
    passable (p.child name).text = .ok () :=
  passable_eq_ok.2 ⟨Path.not_mem_text_child (by decide) hp hname, hshort⟩

theorem locateText_eq_ok {t : Text} :
    tree.locateText t = .ok place ↔ passable t = .ok () ∧ t ≠ [] ∧ t.head? ≠ some '/' ∧
      tree.follow [] (Text.fields '/' t) = .ok place := by
  unfold locateText
  constructor
  · intro h
    split at h
    · cases h
    · rename_i hpassable
      split at h
      · cases h
      · cases h
      · rename_i hnil hslash
        split at h
        · rename_i hfollow
          cases h
          refine ⟨hpassable, hnil, fun hhead => ?_, hfollow⟩
          obtain ⟨rest, rfl⟩ := List.head?_eq_some_iff.1 hhead
          exact hslash rest rfl
        · cases h
  · rintro ⟨hpassable, hnil, hhead, hfollow⟩
    rw [hpassable]
    dsimp only
    split
    · exact absurd rfl hnil
    · exact absurd rfl hhead
    · rw [hfollow]

/-- The reason why a path cannot be followed is that for which it is refused. -/
theorem locateText_of_follow_error {t : Text} {cause : Cause} (hpassable : passable t = .ok ())
    (hnil : t ≠ []) (hhead : t.head? ≠ some '/')
    (h : tree.follow [] (Text.fields '/' t) = .error cause) :
    tree.locateText t = refuse t cause := by
  unfold locateText
  rw [hpassable]
  dsimp only
  split
  · exact absurd rfl hnil
  · exact absurd rfl hhead
  · rw [h]

theorem follow_append (tree : Tree) (place : Place) (parts more : List Text) :
    tree.follow place (parts ++ more) =
      (tree.follow place parts).bind fun reached => tree.follow reached more := by
  induction parts generalizing place with
  | nil => rfl
  | cons part parts ih =>
      rw [List.cons_append, follow, follow]
      split
      · rfl
      · split
        · rfl
        · split
          · exact ih _
          · rfl

theorem stepPlace_of_isPlainName (hname : IsPlainName name) :
    stepPlace place name = place ++ [name] := by
  have hpart : name ≠ [] ∧ name ≠ ['.'] := by simpa [Path.isPart] using hname.part
  rw [stepPlace, if_neg (by simp [hpart]), if_neg hname.forth]

/-- A plain name is followed to the entry of that name. -/
theorem follow_singleton (hname : IsPlainName name) :
    tree.follow place [name] =
      if !tree.isFolderAt place then .error .notFolder
      else if maxName < Text.Utf8.size name then .error .nameTooLong
      else
        match tree.get? (place ++ [name]) with
        | some _ => .ok (place ++ [name])
        | none => .error .notFound := by
  rw [follow, stepPlace_of_isPlainName hname]
  rfl

/-- A folder that can be located is followed by the fields of a text to which the path of an
entry adds the name. -/
theorem exists_fields_child {root : Path} (hroot : tree.locate root = .ok place)
    (hname : IsPlainName name) :
    ∃ parts, tree.follow [] parts = .ok place ∧
      Text.fields '/' (root.child name).text = parts ++ [name] ∧
        (root.child name).text ≠ [] ∧ (root.child name).text.head? ≠ some '/' := by
  obtain ⟨-, hnil, hhead, hfollow⟩ := locateText_eq_ok.1 hroot
  by_cases hparts : root.parts = []
  · -- The path of the working directory is a dot, which its entries do not show.
    obtain ⟨anchor, parts⟩ := root
    obtain rfl : parts = [] := hparts
    cases anchor with
    | here =>
        have hdot : tree.follow [] (Text.fields '/' (Path.text ⟨.here, []⟩)) = .ok [] := rfl
        cases hdot.symm.trans hfollow
        have htext : (Path.child ⟨.here, []⟩ name).text = name := rfl
        have hne : name ≠ [] := by
          rintro rfl
          exact absurd hname.part (by decide)
        refine ⟨[], rfl, ?_, ?_, ?_⟩
        · rw [htext, Text.fields_of_not_mem hname.slash]
          rfl
        · rw [htext]
          exact hne
        · rw [htext]
          intro hslash
          obtain ⟨rest, rfl⟩ := List.head?_eq_some_iff.1 hslash
          exact hname.slash List.mem_cons_self
    | root => exact absurd rfl hhead
    | doubleRoot => exact absurd rfl hhead
  · refine ⟨Text.fields '/' root.text, hfollow, ?_, ?_, ?_⟩
    · rw [Path.text_child_of_ne_nil hparts, Text.fields_append_cons,
        Text.fields_of_not_mem hname.slash]
    · rw [Path.text_child_of_ne_nil hparts]
      exact List.append_ne_nil_of_left_ne_nil hnil _
    · rw [Path.text_child_of_ne_nil hparts, List.head?_append_of_ne_nil _ hnil]
      exact hhead

/-- The path of an entry of a folder leads to the entry. -/
theorem locate_child {root : Path} {item : Item} (hroot : tree.locate root = .ok place)
    (hfolder : tree.isFolderAt place) (hname : IsPlainName name)
    (hpassable : passable (root.child name).text = .ok ())
    (hsize : Text.Utf8.size name ≤ maxName) (hitem : tree.get? (place ++ [name]) = some item) :
    tree.locate (root.child name) = .ok (place ++ [name]) := by
  obtain ⟨parts, hfollow, hfields, hnil, hhead⟩ := exists_fields_child hroot hname
  have hlast : tree.follow place [name] = .ok (place ++ [name]) := by
    rw [follow_singleton hname, hfolder, if_neg (by simp), if_neg (Nat.not_lt_of_le hsize), hitem]
  refine locateText_eq_ok.2 ⟨hpassable, hnil, hhead, ?_⟩
  rw [hfields, follow_append, hfollow]
  exact hlast

/-- Components can be followed as before while folders are kept and all places still exist. -/
theorem follow_of_kept {before after : Tree} {parts : List Text} {reached : Place}
    (hfolders : ∀ other, before.isFolderAt other → after.isFolderAt other)
    (hitems : ∀ other, (before.get? other).isSome → (after.get? other).isSome)
    (h : before.follow place parts = .ok reached) : after.follow place parts = .ok reached := by
  induction parts generalizing place with
  | nil => exact h
  | cons part parts ih =>
      obtain ⟨hfolder, hshort, hitem, hmore⟩ := follow_cons_eq_ok.1 h
      exact follow_cons_eq_ok.2 ⟨hfolders _ hfolder, hshort, hitems _ hitem, ih hmore⟩

/-- A path leads to the same place while folders are kept and all places still exist. -/
theorem locate_of_kept {before after : Tree} {p : Path}
    (hfolders : ∀ other, before.isFolderAt other → after.isFolderAt other)
    (hitems : ∀ other, (before.get? other).isSome → (after.get? other).isSome)
    (h : before.locate p = .ok place) : after.locate p = .ok place := by
  obtain ⟨hpassable, hnil, hhead, hfollow⟩ := locateText_eq_ok.1 h
  exact locateText_eq_ok.2 ⟨hpassable, hnil, hhead, follow_of_kept hfolders hitems hfollow⟩

/-- A path passes a test if it leads to an item that does. -/
theorem test_eq_ok_true {passes : Item → Bool} {p : Path} : tree.test passes p = .ok true ↔
    ∃ place, tree.locate p = .ok place ∧ (tree.get? place).any passes = true := by
  rw [test]
  cases tree.locate p with
  | ok place => simp
  | error fault =>
      refine iff_of_false ?_ (by rintro ⟨place, hlocate, -⟩; cases hlocate)
      cases fault with
      | nul => simp
      | refused r =>
          dsimp only
          split <;> simp

/-- A path that leads to a folder passes the test for folders. -/
theorem isFolder_eq {p : Path} (hlocate : tree.locate p = .ok place)
    (hfolder : tree.isFolderAt place) : tree.isFolder p = .ok true := by
  have hitem : tree.get? place = some .folder := beq_iff_eq.1 hfolder
  exact test_eq_ok_true.2 ⟨place, hlocate, by rw [hitem]; rfl⟩

/-- A path that passes the test for folders leads to one. -/
theorem exists_of_isFolder {p : Path} (h : tree.isFolder p = .ok true) :
    ∃ place, tree.locate p = .ok place ∧ tree.isFolderAt place := by
  obtain ⟨place, hlocate, hpasses⟩ := test_eq_ok_true.1 h
  refine ⟨place, hlocate, beq_iff_eq.2 ?_⟩
  cases hitem : tree.get? place with
  | none =>
      rw [hitem] at hpasses
      cases hpasses
  | some item =>
      rw [hitem] at hpasses
      cases item with
      | file bytes => cases hpasses
      | folder => rfl

/-- A path that leads to a file passes the test for files. -/
theorem isFile_eq {p : Path} {bytes : List UInt8} (hlocate : tree.locate p = .ok place)
    (hitem : tree.get? place = some (.file bytes)) : tree.isFile p = .ok true :=
  test_eq_ok_true.2 ⟨place, hlocate, by rw [hitem]; rfl⟩

/-- A file is read where its path leads to it. -/
theorem read_eq_ok_iff {p : Path} {bytes : List UInt8} : tree.read p = .ok bytes ↔
    ∃ place, tree.locate p = .ok place ∧ tree.get? place = some (.file bytes) := by
  have hplace : tree.locateText p.text = tree.locate p := rfl
  rw [read, readText, hplace]
  cases tree.locate p with
  | error fault => exact iff_of_false nofun (by rintro ⟨place, hlocate, -⟩; cases hlocate)
  | ok place =>
      constructor
      · intro h
        refine ⟨place, rfl, ?_⟩
        dsimp only at h
        split at h
        · rename_i found hfound
          cases h
          exact hfound
        · cases h
        · cases h
      · rintro ⟨other, hother, hitem⟩
        cases hother
        dsimp only
        rw [hitem]

/-! ## Listings -/

/-- What a folder lists when its path leads to it. -/
theorem list_eq {p : Path} (hlocate : tree.locate p = .ok place)
    (hfolder : tree.isFolderAt place) : tree.list p = .ok (tree.names place) := by
  rw [list, hlocate]
  exact if_pos hfolder

theorem list_eq_ok_iff {p : Path} {found : List Text} : tree.list p = .ok found ↔
    ∃ place, tree.locate p = .ok place ∧ tree.isFolderAt place ∧ found = tree.names place := by
  constructor
  · intro h
    rw [list] at h
    cases hlocate : tree.locate p with
    | error fault =>
        rw [hlocate] at h
        cases h
    | ok place =>
        rw [hlocate] at h
        dsimp only at h
        split at h
        · rename_i hfolder
          cases h
          exact ⟨place, rfl, hfolder, rfl⟩
        · cases h
  · rintro ⟨place, hlocate, hfolder, rfl⟩
    exact list_eq hlocate hfolder

theorem get?_append_singleton (tree : Tree) (place : Place) (name : Text) :
    tree.get? (place ++ [name]) = tree.entries.get? (place ++ [name]) := by
  cases place <;> rfl

/-- A place gives the folder its name when it is right below. -/
theorem nameIn?_eq_some {other : Place} :
    (match other.getLast? with
      | some name => if other.dropLast = place then some name else none
      | none => none) = some name ↔ other = place ++ [name] := by
  constructor
  · intro h
    split at h
    · rename_i last hlast
      split at h
      · rename_i hplace
        cases h
        rw [← hplace, List.dropLast_append_getLast?]
        exact Option.mem_def.2 hlast
      · cases h
    · cases h
  · rintro rfl
    simp

/-- A folder lists what stands right below it. -/
theorem mem_names_iff : name ∈ tree.names place ↔ (tree.get? (place ++ [name])).isSome := by
  rw [get?_append_singleton, Table.isSome_get?_iff, names, List.mem_filterMap]
  constructor
  · rintro ⟨other, hother, hname⟩
    have hplace : other = place ++ [name] := nameIn?_eq_some.1 hname
    exact hplace ▸ hother
  · intro hmem
    exact ⟨place ++ [name], hmem, nameIn?_eq_some.2 rfl⟩

/-- A folder lists every name once. -/
theorem nodup_names (tree : Tree) (place : Place) : (tree.names place).Nodup := by
  refine List.Nodup.filterMap (fun a b name ha hb => ?_) tree.entries.distinct
  have ha : a = place ++ [name] := nameIn?_eq_some.1 ha
  exact ha.trans (nameIn?_eq_some.1 hb).symm

end Tree

end Disk

end Iconsmith
