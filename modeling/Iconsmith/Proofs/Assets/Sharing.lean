import Iconsmith.Proofs.Assets.Dependence
import Iconsmith.Proofs.Assets.Listing

set_option autoImplicit false

/-!
# Files of several icons

In the folder of a weight an icon is looked up under two names, and the second of them may be the
first one of another icon. Such a file is then the drawing of both. This happens exactly where
the name of the one icon is that of the other with the suffix of the weight, and the file of the
other is there while its own is missing (`loadByWeight_shared`).
-/

namespace Iconsmith.Assets

section Lookup

variable {tree : Disk.Tree} {folder : Disk.Path} {w : Weight} {s : Text} {place : Disk.Place}

/-- The place of the file that is read for an icon in the folder of a weight. -/
def sourcePlace? (tree : Disk.Tree) (folder : Disk.Path) (w : Weight) (s : Text) :
    Option Disk.Place :=
  match firstFile tree ((candidates w s).map fun name =>
      folder.join (Disk.Path.ofText name)) with
  | .ok (some path) => (tree.locate path).toOption
  | _ => none

/-- The text of the file at a place. -/
def fileText? (tree : Disk.Tree) (place : Disk.Place) : Option Text :=
  match tree.get? place with
  | some (.file bytes) => some (Text.Utf8.decode bytes)
  | _ => none

theorem toOption_eq_some_iff {α ε : Type} {result : Except ε α} {a : α} :
    result.toOption = some a ↔ result = .ok a := by
  cases result with
  | ok b =>
      show some b = some a ↔ _
      rw [Option.some.injEq, Except.ok.injEq]
  | error e => exact iff_of_false nofun nofun

/-- Where an icon can be looked up, its drawing is the text of the file that is read for it. -/
theorem source?_eq_bind (hslash : '/' ∉ s) {found : Option Disk.Path}
    (h : firstFile tree ((candidates w s).map fun name =>
      folder.join (Disk.Path.ofText name)) = .ok found) :
    source? tree folder w s = (sourcePlace? tree folder w s).bind (fileText? tree) := by
  obtain ⟨hbytes, hthere⟩ := bytesAt?_firstFile h
  rw [source?_eq_findSome? tree folder w hslash, ← hbytes, sourcePlace?, h]
  cases found with
  | none => rfl
  | some path =>
      obtain ⟨bytes, hread⟩ := Option.isSome_iff_exists.1 (hthere path rfl)
      obtain ⟨place, hlocate, hfile⟩ :=
        Disk.Tree.read_eq_ok_iff.1 (bytesAt?_eq_some_iff.1 hread)
      show (bytesAt? tree path).map Text.Utf8.decode = (tree.locate path).toOption.bind _
      rw [hread, hlocate]
      show some (Text.Utf8.decode bytes) = fileText? tree place
      rw [fileText?, hfile]

/-- The file with the suffix of the weight is read for an icon, or the one without it if there is
none with it. -/
theorem sourcePlace?_eq_some_iff (hslash : '/' ∉ s) :
    sourcePlace? tree folder w s = some place ↔
      tree.isFile (folder.child (fileName w s)) = .ok true ∧
          tree.locate (folder.child (fileName w s)) = .ok place ∨
        tree.isFile (folder.child (fileName w s)) = .ok false ∧
          tree.isFile (folder.child (s ++ ending)) = .ok true ∧
            tree.locate (folder.child (s ++ ending)) = .ok place := by
  have hfirst : folder.child (s ++ w.fileSuffix ++ ending) = folder.child (fileName w s) := rfl
  rw [sourcePlace?, map_candidates folder w hslash, hfirst]
  cases hsuffixed : tree.isFile (folder.child (fileName w s)) with
  | error fault => simp [firstFile, hsuffixed, bind, Except.bind]
  | ok there =>
      cases there with
      | true => simp [firstFile, hsuffixed, bind, Except.bind, pure, Except.pure,
          toOption_eq_some_iff]
      | false =>
          cases hplain : tree.isFile (folder.child (s ++ ending)) with
          | error fault => simp [firstFile, hsuffixed, hplain, bind, Except.bind]
          | ok there =>
              cases there <;> simp [firstFile, hsuffixed, hplain, bind, Except.bind, pure,
                Except.pure, toOption_eq_some_iff]

/-! ## One folder -/

/-- The file of one icon in the folder of a weight stands in for that of another: the other one
is named like it with the suffix, and has no file with the suffix of its own. -/
structure Lends (tree : Disk.Tree) (folder : Disk.Path) (w : Weight) (s t : Text) : Prop where
  longer : t = s ++ w.fileSuffix
  there : tree.isFile (folder.child (fileName w s)) = .ok true
  missing : tree.isFile (folder.child (fileName w t)) = .ok false

variable {t : Text}

theorem Lends.ne (h : Lends tree folder w s t) : s ≠ t := by
  rintro rfl
  cases h.there.symm.trans h.missing

/-- The file without the suffix of the one icon is the file with the suffix of the other. -/
theorem Lends.fileName_eq (h : Lends tree folder w s t) : fileName w s = t ++ ending := by
  rw [h.longer, fileName]

/-- Both icons are then given the file that stands in. -/
theorem Lends.exists_place (h : Lends tree folder w s t) (hs : '/' ∉ s) (ht : '/' ∉ t) :
    ∃ place, sourcePlace? tree folder w s = some place ∧
      sourcePlace? tree folder w t = some place := by
  obtain ⟨bytes, hbytes⟩ := Option.isSome_iff_exists.1 (isSome_bytesAt? h.there)
  obtain ⟨place, hlocate, -⟩ := Disk.Tree.read_eq_ok_iff.1 (bytesAt?_eq_some_iff.1 hbytes)
  refine ⟨place, (sourcePlace?_eq_some_iff hs).2 (Or.inl ⟨h.there, hlocate⟩), ?_⟩
  refine (sourcePlace?_eq_some_iff ht).2 (Or.inr ⟨h.missing, ?_, ?_⟩)
  · rw [← h.fileName_eq]
    exact h.there
  · rw [← h.fileName_eq]
    exact hlocate

variable {above : Disk.Place}

/-- The file that is read for an icon is an entry of the folder. -/
theorem eq_of_sourcePlace? (hlocate : tree.locate folder = .ok above)
    (hfolder : tree.isFolderAt above) (hslash : '/' ∉ s)
    (h : sourcePlace? tree folder w s = some place) :
    place = above ++ [fileName w s] ∧ tree.isFile (folder.child (fileName w s)) = .ok true ∨
      place = above ++ [s ++ ending] ∧ tree.isFile (folder.child (fileName w s)) = .ok false := by
  have hplain : ∀ v, Disk.IsPlainName (fileName v s) := fun v => isPlainName_fileName v hslash
  have hregular : fileName .regular s = s ++ ending := by
    rw [fileName, Weight.fileSuffix, List.append_nil]
  rcases (sourcePlace?_eq_some_iff hslash).1 h with ⟨hthere, hplace⟩ | ⟨hmissing, -, hplace⟩
  · exact Or.inl ⟨(Disk.Tree.eq_of_locate_child hlocate hfolder (hplain w) hplace).1, hthere⟩
  · have hother := hplain .regular
    rw [hregular] at hother
    exact Or.inr ⟨(Disk.Tree.eq_of_locate_child hlocate hfolder hother hplace).1, hmissing⟩

/-- Two icons are given one file of a folder only if the file of one stands in for the other's. -/
theorem lends_of_eq (hlocate : tree.locate folder = .ok above) (hfolder : tree.isFolderAt above)
    (hs : '/' ∉ s) (ht : '/' ∉ t) (hne : s ≠ t)
    (hfirst : sourcePlace? tree folder w s = some place)
    (hsecond : sourcePlace? tree folder w t = some place) :
    Lends tree folder w s t ∨ Lends tree folder w t s := by
  have hcancel : ∀ {u v : Text}, above ++ [u ++ ending] = above ++ [v ++ ending] → u = v := by
    intro u v heq
    exact List.append_cancel_right (List.singleton_inj.1 (List.append_cancel_left heq))
  rcases eq_of_sourcePlace? hlocate hfolder hs hfirst with ⟨rfl, hthere⟩ | ⟨rfl, hmissing⟩ <;>
    rcases eq_of_sourcePlace? hlocate hfolder ht hsecond with ⟨heq, hother⟩ | ⟨heq, hother⟩
  · exact absurd (List.append_cancel_right (hcancel heq)) hne
  · exact Or.inl ⟨(hcancel heq).symm, hthere, hother⟩
  · exact Or.inr ⟨hcancel heq, hother, hmissing⟩
  · exact absurd (hcancel heq) hne

end Lookup

/-! ## All folders -/

section Layout

variable {tree : Disk.Tree} {root : Disk.Path} {folders : List Text} {entries : List Entry}

/-- The file at a place is read for an icon in one of the folders. -/
def IsReadFor (tree : Disk.Tree) (root : Disk.Path) (folders : List Text) (place : Disk.Place)
    (s : Text) : Prop :=
  ∃ name ∈ folders, ∃ w, Weight.ofName? name = some w ∧
    sourcePlace? tree (root.child name) w s = some place

/-- The visible folders are found below the place of the root. -/
theorem exists_locate_of_subfolders (hproper : tree.IsProper)
    (h : subfolders tree root = .ok folders) : ∃ place, ∀ name ∈ folders,
      tree.locate (root.child name) = .ok (place ++ [name]) ∧
        tree.isFolderAt (place ++ [name]) := by
  obtain ⟨names, hlist, htested, hfolders⟩ := subfolders_eq_ok_iff.1 h
  obtain ⟨place, hroot, hfolder, rfl⟩ := Disk.Tree.list_eq_ok_iff.1 hlist
  refine ⟨place, fun name hname => ?_⟩
  have hplain := isPlainName_of_subfolders hproper h name hname
  rw [hfolders, List.mem_mergeSort, List.mem_filter, Bool.and_eq_true] at hname
  obtain ⟨hmem, hpassed, -⟩ := hname
  obtain ⟨there, hthere⟩ := htested name hmem
  rw [hthere] at hpassed
  obtain rfl : there = true := hpassed
  obtain ⟨other, hlocate, hother⟩ := Disk.Tree.exists_of_isFolder hthere
  obtain ⟨rfl, -⟩ := Disk.Tree.eq_of_locate_child hroot hfolder hplain hlocate
  exact ⟨hlocate, hother⟩

/-- Two icons are given one file exactly if the file of one of them stands in for that of the
other in the folder of a weight. -/
theorem exists_isReadFor_iff (hproper : tree.IsProper)
    (hfolders : subfolders tree root = .ok folders) {s t : Text} (hs : '/' ∉ s) (ht : '/' ∉ t)
    (hne : s ≠ t) :
    (∃ place, IsReadFor tree root folders place s ∧ IsReadFor tree root folders place t) ↔
      ∃ name ∈ folders, ∃ w, Weight.ofName? name = some w ∧
        (Lends tree (root.child name) w s t ∨ Lends tree (root.child name) w t s) := by
  obtain ⟨place, hbelow⟩ := exists_locate_of_subfolders hproper hfolders
  constructor
  · rintro ⟨file, ⟨name, hname, w, hweight, hfirst⟩, other, hother, v, hv, hsecond⟩
    obtain ⟨hlocate, hfolder⟩ := hbelow name hname
    obtain ⟨hlocate', hfolder'⟩ := hbelow other hother
    have hsame : name = other := by
      have hin : ∃ last, file = (place ++ [name]) ++ [last] := by
        rcases eq_of_sourcePlace? hlocate hfolder hs hfirst with ⟨h, -⟩ | ⟨h, -⟩ <;> exact ⟨_, h⟩
      have hin' : ∃ last, file = (place ++ [other]) ++ [last] := by
        rcases eq_of_sourcePlace? hlocate' hfolder' ht hsecond with ⟨h, -⟩ | ⟨h, -⟩ <;>
          exact ⟨_, h⟩
      obtain ⟨last, rfl⟩ := hin
      obtain ⟨last', heq⟩ := hin'
      obtain ⟨hfront, -⟩ := List.append_inj' heq rfl
      exact List.singleton_inj.1 (List.append_cancel_left hfront)
    subst hsame
    obtain rfl : w = v := Option.some.inj (hweight.symm.trans hv)
    exact ⟨name, hname, w, hweight, lends_of_eq hlocate hfolder hs ht hne hfirst hsecond⟩
  · rintro ⟨name, hname, w, hweight, hlends⟩
    have hboth : ∃ file, sourcePlace? tree (root.child name) w s = some file ∧
        sourcePlace? tree (root.child name) w t = some file := by
      rcases hlends with hlends | hlends
      · exact hlends.exists_place hs ht
      · obtain ⟨file, hfirst, hsecond⟩ := hlends.exists_place ht hs
        exact ⟨file, hsecond, hfirst⟩
    obtain ⟨file, hfirst, hsecond⟩ := hboth
    exact ⟨file, ⟨name, hname, w, hweight, hfirst⟩, name, hname, w, hweight, hsecond⟩

/-! ## Loading -/

/-- Where the layout is loaded, every icon of the catalog can be looked up in every folder. -/
theorem exists_firstFile_of_load {icons : IconTable} (hfolders : subfolders tree root = .ok folders)
    (h : (loadByWeight tree root (some entries)).result = .ok icons) {name : Text}
    (hname : name ∈ folders) {w : Weight} (hweight : Weight.ofName? name = some w) {e : Entry}
    (he : e ∈ entries) : ∃ found, firstFile tree ((candidates w e.slug).map fun file =>
      (root.child name).join (Disk.Path.ofText file)) = .ok found := by
  rw [loadByWeight_some_eq hfolders] at h
  obtain ⟨before, after, hfolder⟩ := Outcome.exists_of_foldlM h name hname
  unfold loadWeightFolder at hfolder
  rw [hweight] at hfolder
  obtain ⟨old, new, hentry⟩ := Outcome.exists_of_foldlM hfolder e he
  obtain ⟨found, hfound, -⟩ := Outcome.exists_of_bind_eq_ok hentry
  exact ⟨found, eq_ok_of_accessing hfound⟩

/-- The drawings of a catalog are the texts of the files that are read for its icons, and a file
is read for two icons exactly if the file of one stands in for that of the other. -/
theorem loadByWeight_shared (hproper : tree.IsProper)
    (hfolders : subfolders tree root = .ok folders) (hdistinct : (entries.map Entry.slug).Nodup)
    (hslugs : ∀ e ∈ entries, '/' ∉ e.slug) :
    (∀ icons, (loadByWeight tree root (some entries)).result = .ok icons →
      ∀ e ∈ entries, ∀ w, drawing? icons e.slug w = lastIn folders w fun name =>
        (sourcePlace? tree (root.child name) w e.slug).bind (fileText? tree)) ∧
    ((∃ place, ∃ e ∈ entries, ∃ f ∈ entries, e ≠ f ∧
        IsReadFor tree root folders place e.slug ∧ IsReadFor tree root folders place f.slug) ↔
      ∃ name ∈ folders, ∃ w, Weight.ofName? name = some w ∧ ∃ e ∈ entries, ∃ f ∈ entries,
        Lends tree (root.child name) w e.slug f.slug) := by
  refine ⟨fun icons h e he w => ?_, ?_, ?_⟩
  · obtain ⟨hkeys, hdrawings⟩ := drawing?_loadByWeight_some hfolders hdistinct hslugs h
    rw [hdrawings e.slug (hkeys ▸ List.mem_map_of_mem he) w]
    refine lastIn_congr fun name hname hweight => ?_
    obtain ⟨found, hfound⟩ := exists_firstFile_of_load hfolders h hname hweight he
    exact source?_eq_bind (hslugs e he) hfound
  · rintro ⟨place, e, he, f, hf, hne, hfirst, hsecond⟩
    have hother : e.slug ≠ f.slug := fun heq => hne (List.inj_on_of_nodup_map hdistinct he hf heq)
    obtain ⟨name, hname, w, hweight, hlends⟩ :=
      (exists_isReadFor_iff hproper hfolders (hslugs e he) (hslugs f hf) hother).1
        ⟨place, hfirst, hsecond⟩
    refine ⟨name, hname, w, hweight, ?_⟩
    rcases hlends with hlends | hlends
    · exact ⟨e, he, f, hf, hlends⟩
    · exact ⟨f, hf, e, he, hlends⟩
  · rintro ⟨name, hname, w, hweight, e, he, f, hf, hlends⟩
    obtain ⟨place, hfirst, hsecond⟩ :=
      (exists_isReadFor_iff hproper hfolders (hslugs e he) (hslugs f hf) hlends.ne).2
        ⟨name, hname, w, hweight, Or.inl hlends⟩
    refine ⟨place, e, he, f, hf, ?_, hfirst, hsecond⟩
    rintro rfl
    exact hlends.ne rfl

end Layout

/-! ## A bold file of two icons -/

theorem subfolders_twoIcons : subfolders (assetTree (twoIcons .bold .regular)) assetRoot =
    .ok ["bold".toList, "regular".toList] := by
  have hlist : (assetTree (twoIcons .bold .regular)).list assetRoot =
      .ok ["regular".toList, "bold".toList] := by
    decide
  rw [subfolders_of_visible hlist (by decide) (by decide),
    Text.mergeSort_eq_of_perm (List.Perm.swap _ _ []), List.mergeSort_of_pairwise (by decide)]

/-- The one icon of the tree is named like the bold file of the other, and has no bold file. -/
theorem lends_twoIcons : Lends (assetTree (twoIcons .bold .regular))
    (assetRoot.child "bold".toList) .bold "text".toList "text-bold".toList :=
  ⟨by decide, by decide, by decide⟩

/-- The entries of the two icons. -/
def twoEntries : List Entry := Catalog.ofSlugs ["text".toList, "text-bold".toList]

theorem exists_loadByWeight_twoEntries : ∃ icons,
    (loadByWeight (assetTree (twoIcons .bold .regular)) assetRoot (some twoEntries)).result =
      .ok icons := by
  have hgiven : (loadByWeight (assetTree (twoIcons .bold .regular)) assetRoot
      (some twoEntries)).result.toOption.isSome := by
    rw [loadByWeight_some_eq subfolders_twoIcons]
    decide
  obtain ⟨icons, hicons⟩ := Option.isSome_iff_exists.1 hgiven
  exact ⟨icons, toOption_eq_some_iff.1 hicons⟩

/-- The bold drawing of the second icon is that of the first, whose file is read for both. -/
theorem loadByWeight_shared_twoEntries :
    let tree := assetTree (twoIcons .bold .regular)
    ∃ icons, (loadByWeight tree assetRoot (some twoEntries)).result = .ok icons ∧
      drawing? icons "text".toList .bold = some "a".toList ∧
      drawing? icons "text-bold".toList .bold = some "a".toList ∧
      ∃ place, ∃ e ∈ twoEntries, ∃ f ∈ twoEntries, e ≠ f ∧
        IsReadFor tree assetRoot ["bold".toList, "regular".toList] place e.slug ∧
          IsReadFor tree assetRoot ["bold".toList, "regular".toList] place f.slug := by
  intro tree
  obtain ⟨icons, hicons⟩ := exists_loadByWeight_twoEntries
  obtain ⟨hdrawings, hshared⟩ := loadByWeight_shared (by decide : tree.IsProper)
    subfolders_twoIcons (by decide : (twoEntries.map Entry.slug).Nodup) (by decide)
  have hgiven := hdrawings icons hicons
  refine ⟨icons, hicons, ?_, ?_, hshared.2 ?_⟩
  · rw [show "text".toList = (Entry.ofSlug "text".toList).slug from rfl,
      hgiven _ (by decide) .bold]
    decide
  · rw [show "text-bold".toList = (Entry.ofSlug "text-bold".toList).slug from rfl,
      hgiven _ (by decide) .bold]
    decide
  · -- In this folder the suffixed file of the first name is the plain file of the second.
    exact ⟨"bold".toList, by decide, .bold, by decide, Entry.ofSlug "text".toList, by decide,
      Entry.ofSlug "text-bold".toList, by decide, lends_twoIcons⟩

/-- Not every file is read for one icon only. -/
theorem not_forall_isReadFor_unique :
    ¬ ∀ (tree : Disk.Tree) (root : Disk.Path) (folders : List Text) (entries : List Entry)
      (icons : IconTable), tree.IsProper → subfolders tree root = .ok folders →
        (∀ name ∈ folders, (Weight.ofName? name).isSome) → (entries.map Entry.slug).Nodup →
          (∀ e ∈ entries, '/' ∉ e.slug) →
            (loadByWeight tree root (some entries)).result = .ok icons →
              ∀ place, ∀ e ∈ entries, ∀ f ∈ entries, IsReadFor tree root folders place e.slug →
                IsReadFor tree root folders place f.slug → e = f := by
  intro hall
  obtain ⟨icons, hicons⟩ := exists_loadByWeight_twoEntries
  obtain ⟨place, hfirst, hsecond⟩ := lends_twoIcons.exists_place (by decide) (by decide)
  have hread : ∀ {s : Text}, sourcePlace? (assetTree (twoIcons .bold .regular))
      (assetRoot.child "bold".toList) .bold s = some place →
        IsReadFor (assetTree (twoIcons .bold .regular)) assetRoot
          ["bold".toList, "regular".toList] place s :=
    fun h => ⟨"bold".toList, by decide, .bold, by decide, h⟩
  have heq := hall _ assetRoot _ twoEntries icons (by decide) subfolders_twoIcons
    (by decide) (by decide) (by decide) hicons place (Entry.ofSlug "text".toList) (by decide)
    (Entry.ofSlug "text-bold".toList) (by decide) (hread hfirst) (hread hsecond)
  exact absurd heq (by decide)

end Iconsmith.Assets
