import Iconsmith.Proofs.Assets.Reloading
import Iconsmith.Proofs.Disk.Entries

set_option autoImplicit false

/-!
# Listing and looking up

Without a catalog the files of a weight folder are listed, and each gives the icon of which its
name is left without the suffix of the weight. With a catalog the files of each icon are looked
up, first with the suffix and then without. A tree that has been listed can be looked through for
the icons that were found, unless a name that is looked up is too long, and the two loads agree
where no folder holds two files that could be the one that is wanted (`loadByWeight_ofSlugs`).
-/

namespace Iconsmith.Assets

/-! ## Icons of file names -/

theorem stem_ending : Disk.stem ending = ending := by decide

theorem stripSuffix_ending (w : Weight) : w.stripSuffix ending = ending := by
  cases w <;> decide

/-- The source files in the folder of a weight that give an icon, the last one first: the one
without the suffix, unless the name of the icon itself ends with it, the one with the suffix, and
for the icon that is called like the ending the file that is called so. -/
def listedNames (w : Weight) (s : Text) : List Text :=
  (if w.stripSuffix s = s then [s ++ ending] else []) ++ fileName w s ::
    if s = ending then [ending] else []

theorem mem_listedNames {w : Weight} {file s : Text} : file ∈ listedNames w s ↔
    w.stripSuffix s = s ∧ file = s ++ ending ∨ file = fileName w s ∨
      s = ending ∧ file = ending := by
  rw [listedNames, List.mem_append, List.mem_cons]
  split <;> split <;> simp_all

theorem stripSuffix_stem_eq_iff {w : Weight} {file s : Text} (hs : s ≠ [])
    (hfile : ending <:+ file) :
    w.stripSuffix (Disk.stem file) = s ↔ file ∈ listedNames w s := by
  obtain ⟨t, rfl⟩ := hfile
  rw [mem_listedNames]
  constructor
  · intro h
    by_cases ht : t = []
    · subst ht
      rw [List.nil_append, stem_ending, stripSuffix_ending] at h
      exact Or.inr (Or.inr ⟨h.symm, rfl⟩)
    · rw [stem_append_ending ht] at h
      rcases Weight.eq_append_or_eq_of_stripSuffix h with ⟨-, rfl⟩ | ⟨rfl, hkept⟩
      · exact Or.inr (Or.inl rfl)
      · exact Or.inl ⟨hkept, rfl⟩
  · rintro (⟨hkept, hplain⟩ | hsuffixed | ⟨rfl, hbare⟩)
    · rw [hplain, stem_append_ending hs, hkept]
    · rw [hsuffixed, stripSuffix_stem_fileName w hs]
    · rw [hbare, stem_ending, stripSuffix_ending]

/-- A file name gives an icon with a name of characters of its own. -/
theorem stripSuffix_stem_spec (w : Weight) {file : Text} (hfile : ending <:+ file) :
    w.stripSuffix (Disk.stem file) ≠ [] ∧ ∀ c ∈ w.stripSuffix (Disk.stem file), c ∈ file := by
  obtain ⟨t, rfl⟩ := hfile
  by_cases ht : t = []
  · subst ht
    rw [List.nil_append, stem_ending, stripSuffix_ending]
    exact ⟨by decide, fun c hc => hc⟩
  · rw [stem_append_ending ht]
    rcases Weight.eq_append_or_eq_of_stripSuffix (rfl : w.stripSuffix t = _) with
      ⟨hs, heq⟩ | ⟨heq, -⟩
    · refine ⟨hs, fun c hc => List.mem_append_left _ ?_⟩
      rw [heq]
      exact List.mem_append_left _ hc
    · rw [← heq]
      exact ⟨ht, fun c hc => List.mem_append_left _ hc⟩

/-! ## Order of file names -/

/-- A hyphen comes before a dot, so the file without the suffix comes after that with it. -/
theorem pairwise_listedNames (w : Weight) (s : Text) :
    (listedNames w s).Pairwise fun t u => Text.atMost u t := by
  have hsuffixed : Text.atMost (fileName w s) (s ++ ending) := by
    rw [fileName, List.append_assoc, Text.atMost_append_left]
    cases w <;> decide
  have hplain : Text.atMost ending (ending ++ ending) := by decide
  have hbare : Text.atMost ending (fileName w ending) := by cases w <;> decide
  rw [listedNames]
  split <;> split
  · rename_i hcalled
    subst hcalled
    simp [hsuffixed, hplain, hbare]
  · simp [hsuffixed]
  · rename_i hcalled
    subst hcalled
    simp [hbare]
  · simp

theorem findSome?_congr {α β : Type} {as : List α} {f g : α → Option β}
    (h : ∀ a ∈ as, f a = g a) : as.findSome? f = as.findSome? g := by
  rw [← List.head?_filterMap, ← List.head?_filterMap, List.filterMap_congr h]

/-- In a sorted list the last item that gives a value is the greatest one. -/
theorem findSome?_reverse_of_greatest {files : List Text} {pick : Text → Option Text}
    (hsorted : files.Pairwise fun s t => Text.atMost s t) {last : Text} (hlast : last ∈ files)
    (hpick : (pick last).isSome)
    (hgreatest : ∀ file ∈ files, (pick file).isSome → Text.atMost file last) :
    files.reverse.findSome? pick = pick last := by
  induction files with
  | nil => cases hlast
  | cons file files ih =>
      obtain ⟨hfirst, hrest⟩ := List.pairwise_cons.1 hsorted
      rw [List.reverse_cons, List.findSome?_append]
      rcases List.mem_cons.1 hlast with rfl | hmem
      · -- What comes after the greatest item is equal to it or gives nothing.
        cases hmore : files.reverse.findSome? pick with
        | none => simp
        | some text =>
            obtain ⟨other, hother, htext⟩ := List.exists_of_findSome?_eq_some hmore
            have hmem : other ∈ files := List.mem_reverse.1 hother
            have hle := hgreatest other (List.mem_cons_of_mem _ hmem)
              (Option.isSome_of_eq_some htext)
            have heq : other = last := Text.atMost_antisymm other last hle (hfirst other hmem)
            rw [← heq, htext]
            rfl
      · have hmore := ih hrest hmem fun other hother =>
          hgreatest other (List.mem_cons_of_mem _ hother)
        rw [hmore]
        obtain ⟨text, htext⟩ := Option.isSome_iff_exists.1 hpick
        rw [htext]
        rfl

/-- The last of the sorted files that are among some names is the first of these names, from
the greatest on. -/
theorem findSome?_reverse_eq {files names : List Text} {value : Text → Option Text}
    (hfiles : files.Pairwise fun s t => Text.atMost s t)
    (hnames : names.Pairwise fun s t => Text.atMost t s)
    (hvalue : ∀ name ∈ names, (value name).isSome ↔ name ∈ files) :
    (files.reverse.findSome? fun file => if file ∈ names then value file else none) =
      names.findSome? value := by
  induction names with
  | nil => simp
  | cons name names ih =>
      obtain ⟨hfirst, hrest⟩ := List.pairwise_cons.1 hnames
      obtain ⟨hthere, hmore⟩ := List.forall_mem_cons.1 hvalue
      rw [List.findSome?_cons]
      -- The greatest name that is a file is found first; names that are none give nothing.
      by_cases hmem : name ∈ files
      · obtain ⟨text, htext⟩ := Option.isSome_iff_exists.1 (hthere.2 hmem)
        have hpick : (if name ∈ name :: names then value name else none) = some text := by
          rw [if_pos List.mem_cons_self, htext]
        rw [findSome?_reverse_of_greatest hfiles hmem (Option.isSome_of_eq_some hpick), hpick,
          htext]
        intro file _ hgiven
        have hamong : file ∈ name :: names := by
          by_contra hnot
          simp [hnot] at hgiven
        rcases List.mem_cons.1 hamong with rfl | hlater
        · exact Text.atMost_refl file
        · exact hfirst file hlater
      · have hnone : value name = none :=
          Option.not_isSome_iff_eq_none.1 fun hsome => hmem (hthere.1 hsome)
        rw [hnone, ← ih hrest hmore]
        refine findSome?_congr fun file hfile => ?_
        have hne : file ≠ name := fun heq => hmem (heq ▸ List.mem_reverse.1 hfile)
        simp only [List.mem_cons, hne, false_or]

/-! ## Folders that have been read -/

section Folder

variable {tree : Disk.Tree} {folder : Disk.Path} {files : List Text} {w : Weight} {s : Text}

/-- The text of the file of some name in a folder. -/
def textAt? (tree : Disk.Tree) (folder : Disk.Path) (file : Text) : Option Text :=
  (bytesAt? tree (folder.child file)).map Text.Utf8.decode

/-- The drawing that is looked up in the folder of a weight is that of the first candidate. -/
theorem source?_eq_textAt? (tree : Disk.Tree) (folder : Disk.Path) (w : Weight) (s : Text) :
    source? tree folder w s = (candidates w s).findSome? (textAt? tree folder) := by
  rw [source?, Option.map_or]
  simp only [candidates, List.findSome?_cons, List.findSome?_nil, textAt?]
  cases bytesAt? tree (folder.child (s ++ w.fileSuffix ++ ending)) with
  | some bytes => rfl
  | none => cases bytesAt? tree (folder.child (s ++ ending)) <;> rfl

/-- The drawing that is listed in the folder of a weight. -/
def listed? (tree : Disk.Tree) (folder : Disk.Path) (w : Weight) (s : Text) : Option Text :=
  (listedNames w s).findSome? (textAt? tree folder)

/-- The source files of a folder have been found and read. -/
structure AreRead (tree : Disk.Tree) (folder : Disk.Path) (files : List Text) : Prop where
  found : sources tree folder = .ok files
  read : ∀ file ∈ files, ∃ text, (readSource tree (folder.child file)).result = .ok text

theorem AreRead.exists_place (h : AreRead tree folder files) : ∃ place,
    tree.locate folder = .ok place ∧ tree.isFolderAt place ∧
      files = ((tree.names place).filter ending.isSuffixOf).mergeSort Text.atMost := by
  obtain ⟨names, hlist, rfl⟩ := sources_eq_ok_iff.1 h.found
  obtain ⟨place, hlocate, hfolder, rfl⟩ := Disk.Tree.list_eq_ok_iff.1 hlist
  exact ⟨place, hlocate, hfolder, rfl⟩

theorem AreRead.pairwise (h : AreRead tree folder files) :
    files.Pairwise fun s t => Text.atMost s t := by
  obtain ⟨place, -, -, rfl⟩ := h.exists_place
  exact List.pairwise_mergeSort Text.atMost_trans Text.atMost_total _

theorem AreRead.suffix (h : AreRead tree folder files) {file : Text} (hfile : file ∈ files) :
    ending <:+ file := by
  obtain ⟨place, -, -, rfl⟩ := h.exists_place
  exact List.isSuffixOf_iff_suffix.1 (List.mem_filter.1 (List.mem_mergeSort.1 hfile)).2

/-- The name of a file that has been read is plain and holds no NUL character. -/
theorem AreRead.isPlainName (h : AreRead tree folder files) (hproper : tree.IsProper)
    {file : Text} (hfile : file ∈ files) : Disk.IsPlainName file ∧ '\x00' ∉ file := by
  obtain ⟨text, htext⟩ := h.read file hfile
  obtain ⟨place, -, -, rfl⟩ := h.exists_place
  refine ⟨hproper.isPlainName (List.mem_filter.1 (List.mem_mergeSort.1 hfile)).1, ?_⟩
  obtain ⟨bytes, hbytes, -⟩ := Outcome.exists_of_bind_eq_ok htext
  obtain ⟨found, hfound, -⟩ := Disk.Tree.read_eq_ok_iff.1 (eq_ok_of_accessing hbytes)
  exact Disk.Tree.not_mem_of_locate_child hfound

/-- A source file has a text in a folder that has been read exactly if it has been found. -/
theorem AreRead.isSome_textAt?_iff (h : AreRead tree folder files) {file : Text}
    (hfile : Disk.IsPlainName file) (hending : ending <:+ file) :
    (textAt? tree folder file).isSome ↔ file ∈ files := by
  constructor
  · intro hsome
    obtain ⟨place, hlocate, hfolder, rfl⟩ := h.exists_place
    rw [textAt?, Option.isSome_map] at hsome
    obtain ⟨bytes, hbytes⟩ := Option.isSome_iff_exists.1 hsome
    obtain ⟨found, hfound, -⟩ := Disk.Tree.read_eq_ok_iff.1 (bytesAt?_eq_some_iff.1 hbytes)
    rw [List.mem_mergeSort, List.mem_filter, Disk.Tree.mem_names_iff]
    exact ⟨(Disk.Tree.eq_of_locate_child hlocate hfolder hfile hfound).2,
      List.isSuffixOf_iff_suffix.2 hending⟩
  · intro hmem
    obtain ⟨text, htext⟩ := h.read file hmem
    exact Option.isSome_of_eq_some (eq_of_readSource htext)

theorem isPlainName_of_mem_listedNames (hslash : '/' ∉ s) {file : Text}
    (hfile : file ∈ listedNames w s) : Disk.IsPlainName file ∧ ending <:+ file := by
  rcases mem_listedNames.1 hfile with ⟨-, rfl⟩ | rfl | ⟨-, rfl⟩
  · have hregular := isPlainName_fileName .regular hslash
    rw [fileName, Weight.fileSuffix, List.append_nil] at hregular
    exact ⟨hregular, List.suffix_append _ _⟩
  · exact ⟨isPlainName_fileName w hslash, List.suffix_append _ _⟩
  · exact ⟨by decide, List.suffix_refl _⟩

/-- Of the files that give an icon the last one is listed. -/
theorem AreRead.findSome?_eq_listed? (h : AreRead tree folder files) (hs : s ≠ [])
    (hslash : '/' ∉ s) (w : Weight) :
    (files.reverse.findSome? fun file =>
      if w.stripSuffix (Disk.stem file) = s then textAt? tree folder file else none) =
        listed? tree folder w s := by
  have hthere : ∀ name ∈ listedNames w s,
      (textAt? tree folder name).isSome ↔ name ∈ files := by
    intro name hname
    obtain ⟨hplain, hending⟩ := isPlainName_of_mem_listedNames hslash hname
    exact h.isSome_textAt?_iff hplain hending
  rw [listed?, ← findSome?_reverse_eq h.pairwise (pairwise_listedNames w s) hthere]
  refine findSome?_congr fun file hfile => ?_
  simp only [stripSuffix_stem_eq_iff hs (h.suffix (List.mem_reverse.1 hfile))]

/-! ## Listing a folder -/

theorem loadListed_eq_ok {icons after : IconTable} {file : Text}
    (h : (loadListed tree folder w icons file).result = .ok after) :
    ∃ text, (readSource tree (folder.child file)).result = .ok text ∧
      after = addDrawing icons (w.stripSuffix (Disk.stem file)) w text := by
  obtain ⟨text, htext, hafter⟩ := Outcome.exists_of_bind_eq_ok h
  exact ⟨text, htext, (Except.ok.inj hafter).symm⟩

/-- Steps that each put a drawing in place of an earlier one come to the last of these. -/
theorem drawing?_foldlM {α : Type} {f : IconTable → α → Loading IconTable} {as : List α}
    {pick : α → Option Text} {v : Weight} {icons after : IconTable}
    (hstep : ∀ a ∈ as, ∀ icons after, (f icons a).result = .ok after →
      drawing? after s v = (pick a).or (drawing? icons s v))
    (h : (as.foldlM f icons).result = .ok after) :
    drawing? after s v = (as.reverse.findSome? pick).or (drawing? icons s v) := by
  induction as generalizing icons with
  | nil =>
      cases h
      rfl
  | cons a as ih =>
      obtain ⟨hfirst, hrest⟩ := List.forall_mem_cons.1 hstep
      rw [List.foldlM_cons] at h
      obtain ⟨middle, hmiddle, hmore⟩ := Outcome.exists_of_bind_eq_ok h
      rw [ih hrest hmore, hfirst icons middle hmiddle, List.reverse_cons, List.findSome?_append,
        Option.or_assoc, List.findSome?_singleton]

/-- A folder that has been loaded without a catalog has been read, and its drawings are those
that are listed. -/
theorem loadWeightFolder_none_eq_ok {root : Disk.Path} {name : Text} {icons after : IconTable}
    (h : (loadWeightFolder tree root none icons name).result = .ok after) :
    ∃ w files, Weight.ofName? name = some w ∧ AreRead tree (root.child name) files ∧
      (files.foldlM (loadListed tree (root.child name) w) icons).result = .ok after := by
  unfold loadWeightFolder at h
  cases hweight : Weight.ofName? name with
  | none =>
      rw [hweight] at h
      cases h
  | some w =>
      rw [hweight] at h
      obtain ⟨files, hfiles, hrest⟩ := Outcome.exists_of_bind_eq_ok h
      refine ⟨w, files, rfl, ⟨eq_ok_of_accessing hfiles, fun file hfile => ?_⟩, hrest⟩
      obtain ⟨before, after, hafter⟩ := Outcome.exists_of_foldlM hrest file hfile
      obtain ⟨text, htext, -⟩ := loadListed_eq_ok hafter
      exact ⟨text, htext⟩

theorem drawing?_loadWeightFolder_none {root : Disk.Path} {name : Text} {icons after : IconTable}
    (h : (loadWeightFolder tree root none icons name).result = .ok after) (hs : s ≠ [])
    (hslash : '/' ∉ s) (v : Weight) :
    drawing? after s v =
      (if Weight.ofName? name = some v then listed? tree (root.child name) v s else none).or
        (drawing? icons s v) := by
  obtain ⟨w, files, hweight, hread, hfold⟩ := loadWeightFolder_none_eq_ok h
  have hstep : ∀ file ∈ files, ∀ icons after,
      (loadListed tree (root.child name) w icons file).result = .ok after →
        drawing? after s v =
          (if v = w ∧ w.stripSuffix (Disk.stem file) = s then textAt? tree (root.child name) file
            else none).or (drawing? icons s v) := by
    intro file _ icons after hafter
    obtain ⟨text, htext, rfl⟩ := loadListed_eq_ok hafter
    rw [drawing?_addDrawing, textAt?, eq_of_readSource htext]
    by_cases hgives : v = w ∧ w.stripSuffix (Disk.stem file) = s
    · rw [if_pos hgives, if_pos ⟨hgives.2.symm, hgives.1⟩]
      rfl
    · rw [if_neg hgives, if_neg fun h => hgives ⟨h.2, h.1.symm⟩]
      rfl
  rw [drawing?_foldlM hstep hfold, hweight]
  by_cases hv : v = w
  · subst hv
    simp only [true_and, if_true]
    rw [hread.findSome?_eq_listed? hs hslash]
  · have hne : ¬ some w = some v := fun heq => hv (Option.some.inj heq).symm
    have hnothing : files.reverse.findSome? (fun _ => (none : Option Text)) = none :=
      List.findSome?_eq_none_iff.2 fun _ _ => rfl
    simp only [hv, hne, false_and, if_false]
    rw [hnothing]

end Folder

/-! ## Looking a folder through -/

section Lookup

variable {tree : Disk.Tree} {folder : Disk.Path} {place : Disk.Place} {w : Weight}

theorem exists_readSource_of_isFile {path : Disk.Path} (h : tree.isFile path = .ok true) :
    ∃ text, (readSource tree path).result = .ok text := by
  obtain ⟨bytes, hbytes⟩ := Option.isSome_iff_exists.1 (isSome_bytesAt? h)
  obtain ⟨place, hlocate, hfile⟩ := Disk.Tree.read_eq_ok_iff.1 (bytesAt?_eq_some_iff.1 hbytes)
  exact ⟨_, congrArg Outcome.result (readSource_of_file hlocate hfile)⟩

theorem exists_isFile_of_firstFile {path : Disk.Path} {paths : List Disk.Path}
    {found : Option Disk.Path} (h : firstFile tree (path :: paths) = .ok found) :
    ∃ passed, tree.isFile path = .ok passed := by
  rw [firstFile] at h
  cases htest : tree.isFile path with
  | ok passed => exact ⟨passed, rfl⟩
  | error fault =>
      rw [htest] at h
      cases h

/-- The first file of some paths can be found if all of them can be tested. -/
theorem exists_firstFile {paths : List Disk.Path}
    (h : ∀ path ∈ paths, ∃ passed, tree.isFile path = .ok passed) :
    ∃ found, firstFile tree paths = .ok found ∧
      ∀ path, found = some path → tree.isFile path = .ok true := by
  induction paths with
  | nil => exact ⟨none, rfl, nofun⟩
  | cons path paths ih =>
      obtain ⟨⟨passed, hpassed⟩, hmore⟩ := List.forall_mem_cons.1 h
      rw [firstFile, hpassed]
      cases passed with
      | true =>
          refine ⟨some path, rfl, ?_⟩
          intro other hother
          exact Option.some.inj hother ▸ hpassed
      | false => exact ih hmore

/-- An icon can be looked up in a folder if the name of its file with the suffix is short. -/
theorem exists_loadEntry_iff (hlocate : tree.locate folder = .ok place)
    (hfolder : tree.isFolderAt place) (icons : IconTable) {entry : Entry}
    (hslash : '/' ∉ entry.slug) (hnul : '\x00' ∉ entry.slug) :
    (∃ after, (loadEntry tree folder w icons entry).result = .ok after) ↔
      (folder.child (fileName w entry.slug)).IsShort := by
  have hregular : fileName .regular entry.slug = entry.slug ++ ending := by
    rw [fileName, Weight.fileSuffix, List.append_nil]
  have hpaths : ((candidates w entry.slug).map fun name =>
      folder.join (Disk.Path.ofText name)) =
        [folder.child (fileName w entry.slug), folder.child (fileName .regular entry.slug)] := by
    rw [map_candidates folder w hslash, hregular]
    rfl
  have htest : ∀ v, (∃ passed, tree.isFile (folder.child (fileName v entry.slug)) = .ok passed) ↔
      (folder.child (fileName v entry.slug)).IsShort := by
    intro v
    have hsuffix : '\x00' ∉ v.fileSuffix := by cases v <;> decide
    exact Disk.Tree.exists_test_child_iff hlocate hfolder (isPlainName_fileName v hslash)
      (List.not_mem_append (List.not_mem_append hnul hsuffix) (by decide)) Disk.Tree.isFileItem
  constructor
  · rintro ⟨after, hafter⟩
    obtain ⟨found, hfound, -⟩ := Outcome.exists_of_bind_eq_ok hafter
    have hfound := eq_ok_of_accessing hfound
    rw [hpaths] at hfound
    exact (htest w).1 (exists_isFile_of_firstFile hfound)
  · intro hshort
    have hother : (folder.child (fileName .regular entry.slug)).IsShort := by
      refine hshort.of_size_le ?_
      rw [hregular, fileName, Text.Utf8.size_append, Text.Utf8.size_append, Text.Utf8.size_append]
      exact Nat.add_le_add_right (Nat.le_add_right _ _) _
    have htested : ∀ path ∈ [folder.child (fileName w entry.slug),
        folder.child (fileName .regular entry.slug)], ∃ passed, tree.isFile path = .ok passed := by
      simp only [List.mem_cons, List.not_mem_nil, or_false, forall_eq_or_imp, forall_eq]
      exact ⟨(htest w).2 hshort, (htest .regular).2 hother⟩
    obtain ⟨found, hfound, hfile⟩ := exists_firstFile htested
    have hgranted : (accessing (firstFile tree ((candidates w entry.slug).map fun name =>
        folder.join (Disk.Path.ofText name)))).result = .ok found := by
      rw [hpaths, hfound]
      rfl
    rw [loadEntry, Outcome.result_bind_of_ok _ hgranted]
    cases found with
    | none => exact ⟨icons, rfl⟩
    | some path =>
        obtain ⟨text, htext⟩ := exists_readSource_of_isFile (hfile path rfl)
        exact ⟨_, Outcome.result_bind_of_ok _ htext⟩

end Lookup

/-! ## All folders -/

section Layout

variable {tree : Disk.Tree} {root : Disk.Path} {folders : List Text} {icons : IconTable}

/-- What the last of the folders of a weight gives. -/
def lastIn (folders : List Text) (w : Weight) (pick : Text → Option Text) : Option Text :=
  folders.reverse.findSome? fun name => if Weight.ofName? name = some w then pick name else none

theorem lastIn_congr {w : Weight} {pick other : Text → Option Text}
    (h : ∀ name ∈ folders, Weight.ofName? name = some w → pick name = other name) :
    lastIn folders w pick = lastIn folders w other := by
  refine findSome?_congr fun name hname => ?_
  split
  · rename_i hweight
    exact h name (List.mem_reverse.1 hname) hweight
  · rfl

theorem lastIn_cons (first : Text) (folders : List Text) (w : Weight)
    (pick : Text → Option Text) : lastIn (first :: folders) w pick = (lastIn folders w pick).or
      (if Weight.ofName? first = some w then pick first else none) := by
  rw [lastIn, List.reverse_cons, List.findSome?_append, List.findSome?_singleton]
  rfl

/-- The only folder of a weight is the last one. -/
theorem lastIn_of_mem (hdistinct : (folders.filterMap Weight.ofName?).Nodup) {name : Text}
    (hname : name ∈ folders) {w : Weight} (hweight : Weight.ofName? name = some w)
    (pick : Text → Option Text) : lastIn folders w pick = pick name := by
  induction folders with
  | nil => cases hname
  | cons first folders ih =>
      rw [lastIn_cons]
      rcases List.mem_cons.1 hname with rfl | hmem
      · rw [List.filterMap_cons_some hweight, List.nodup_cons] at hdistinct
        have hnone : lastIn folders w pick = none := by
          rw [lastIn, List.findSome?_eq_none_iff]
          intro other hother
          refine if_neg fun heq => hdistinct.1 ?_
          exact List.mem_filterMap.2 ⟨other, List.mem_reverse.1 hother, heq⟩
        rw [hnone, if_pos hweight, Option.none_or]
      · cases hfirst : Weight.ofName? first with
        | none =>
            rw [List.filterMap_cons_none hfirst] at hdistinct
            rw [ih hdistinct hmem, if_neg nofun, Option.or_none]
        | some v =>
            rw [List.filterMap_cons_some hfirst, List.nodup_cons] at hdistinct
            have hne : ¬ some v = some w := by
              intro heq
              rw [Option.some.inj heq] at hdistinct
              exact hdistinct.1 (List.mem_filterMap.2 ⟨name, hmem, hweight⟩)
            rw [ih hdistinct.2 hmem, if_neg hne, Option.or_none]

/-! ## Listing the layout -/

/-- Names that files can have. -/
structure IsSlug (s : Text) : Prop where
  ne_nil : s ≠ []
  slash : '/' ∉ s
  nul : '\x00' ∉ s

theorem loadByWeight_none_eq_ok (h : (loadByWeight tree root none).result = .ok icons) :
    ∃ folders listed, subfolders tree root = .ok folders ∧
      (folders.foldlM (loadWeightFolder tree root none) Table.empty).result = .ok listed ∧
        icons = listed.sortedByKey Text.atMost := by
  obtain ⟨folders, hfolders, hrest⟩ := Outcome.exists_of_bind_eq_ok h
  obtain ⟨listed, hlisted, hicons⟩ := Outcome.exists_of_bind_eq_ok hrest
  exact ⟨folders, listed, eq_ok_of_accessing hfolders, hlisted, (Except.ok.inj hicons).symm⟩

theorem isSlug_of_loadWeightFolder (hproper : tree.IsProper) {name : Text} {after : IconTable}
    (h : (loadWeightFolder tree root none icons name).result = .ok after)
    (hicons : ∀ s ∈ icons.keys, IsSlug s) : ∀ s ∈ after.keys, IsSlug s := by
  obtain ⟨w, files, -, hread, hfold⟩ := loadWeightFolder_none_eq_ok h
  refine Outcome.invariant_of_foldlM (P := fun icons => ∀ s ∈ icons.keys, IsSlug s) ?_ hicons hfold
  intro file hfile icons after hicons hafter s hs
  obtain ⟨text, -, rfl⟩ := loadListed_eq_ok hafter
  rcases mem_keys_addDrawing.1 hs with hold | rfl
  · exact hicons s hold
  · obtain ⟨hplain, hnul⟩ := hread.isPlainName hproper hfile
    obtain ⟨hne, hsubset⟩ := stripSuffix_stem_spec w (hread.suffix hfile)
    exact ⟨hne, fun hslash => hplain.slash (hsubset _ hslash), fun hno => hnul (hsubset _ hno)⟩

/-- The icons that are listed have names that files can have, and of each the drawings of the
last folder of each weight. -/
theorem drawing?_loadByWeight_none (hproper : tree.IsProper)
    (hfolders : subfolders tree root = .ok folders)
    (h : (loadByWeight tree root none).result = .ok icons) :
    (∀ name ∈ folders, ∃ w files, Weight.ofName? name = some w ∧
      AreRead tree (root.child name) files) ∧
      ∀ s ∈ icons.keys, IsSlug s ∧ ∀ w, drawing? icons s w =
        lastIn folders w fun name => listed? tree (root.child name) w s := by
  obtain ⟨found, listed, hfound, hfold, rfl⟩ := loadByWeight_none_eq_ok h
  rw [hfolders] at hfound
  obtain rfl : folders = found := Except.ok.inj hfound
  refine ⟨fun name hname => ?_, fun s hs => ?_⟩
  · obtain ⟨before, after, hafter⟩ := Outcome.exists_of_foldlM hfold name hname
    obtain ⟨w, files, hweight, hread, -⟩ := loadWeightFolder_none_eq_ok hafter
    exact ⟨w, files, hweight, hread⟩
  · rw [Table.keys_sortedByKey, List.mem_mergeSort] at hs
    -- The names of the icons are stems of files, so they are no paths.
    have hslugs : ∀ s ∈ listed.keys, IsSlug s := by
      refine Outcome.invariant_of_foldlM (P := fun icons => ∀ s ∈ icons.keys, IsSlug s)
        (fun name _ icons after hicons hafter =>
          isSlug_of_loadWeightFolder hproper hafter hicons) ?_ hfold
      intro s hnone
      cases hnone
    have hslug := hslugs s hs
    refine ⟨hslug, fun w => ?_⟩
    have hlast : drawing? listed s w =
        (lastIn folders w fun name => listed? tree (root.child name) w s).or
          (drawing? Table.empty s w) := by
      refine drawing?_foldlM (fun name _ icons after hafter => ?_) hfold
      exact drawing?_loadWeightFolder_none hafter hslug.ne_nil hslug.slash w
    have hnone : drawing? Table.empty s w = none := rfl
    rw [drawing?_sortedByKey, hlast, hnone, Option.or_none]

/-! ## Looking the layout through -/

variable {entries : List Entry}

theorem loadByWeight_some_eq (hfolders : subfolders tree root = .ok folders) :
    (loadByWeight tree root (some entries)).result =
      (folders.foldlM (loadWeightFolder tree root (some entries))
        (Table.ofList (entries.map fun entry => (entry.slug, Table.empty)))).result := by
  have hgranted : (accessing (subfolders tree root)).result = .ok folders := by
    rw [hfolders]
    rfl
  refine (Outcome.result_bind_of_ok _ hgranted).trans ((Outcome.result_bind _ _).trans ?_)
  split
  · rename_i icons hicons
    exact hicons.symm
  · rename_i fault hfault
    exact hfault.symm

theorem drawing?_loadWeightFolder_some {name : Text} {after : IconTable}
    (hslugs : ∀ e ∈ entries, '/' ∉ e.slug)
    (h : (loadWeightFolder tree root (some entries) icons name).result = .ok after) {s : Text}
    (hs : s ∈ entries.map Entry.slug) (w : Weight) :
    drawing? after s w =
      (if Weight.ofName? name = some w then source? tree (root.child name) w s else none).or
        (drawing? icons s w) := by
  unfold loadWeightFolder at h
  cases hweight : Weight.ofName? name with
  | none =>
      rw [hweight] at h
      cases h
  | some v =>
      rw [hweight] at h
      rw [drawing?_foldlM_loadEntry hslugs h]
      by_cases hw : w = v
      · subst hw
        rw [if_pos ⟨hs, rfl⟩, if_pos rfl]
      · rw [if_neg fun hboth => hw hboth.2, if_neg fun heq => hw (Option.some.inj heq).symm,
          Option.none_or]

theorem keys_loadWeightFolder_some {name : Text} {after : IconTable}
    (hmem : ∀ e ∈ entries, e.slug ∈ icons.keys)
    (h : (loadWeightFolder tree root (some entries) icons name).result = .ok after) :
    after.keys = icons.keys := by
  unfold loadWeightFolder at h
  split at h
  · cases h
  · refine Outcome.invariant_of_foldlM (P := fun other => other.keys = icons.keys) ?_ rfl h
    intro entry hentry before after hbefore hafter
    obtain ⟨found, -, hrest⟩ := Outcome.exists_of_bind_eq_ok hafter
    cases found with
    | none =>
        obtain ⟨-, -, hsame⟩ := Outcome.exists_of_bind_eq_ok hrest
        cases hsame
        exact hbefore
    | some path =>
        obtain ⟨text, -, hadded⟩ := Outcome.exists_of_bind_eq_ok hrest
        cases hadded
        rw [keys_addDrawing_of_mem (hbefore ▸ hmem entry hentry), hbefore]

/-- What is looked up are the icons of the catalog, and of each the drawings of the last folder of
each weight that has one. -/
theorem drawing?_loadByWeight_some (hfolders : subfolders tree root = .ok folders)
    (hdistinct : (entries.map Entry.slug).Nodup) (hslugs : ∀ e ∈ entries, '/' ∉ e.slug)
    (h : (loadByWeight tree root (some entries)).result = .ok icons) :
    icons.keys = entries.map Entry.slug ∧
      ∀ s ∈ icons.keys, ∀ w, drawing? icons s w =
        lastIn folders w fun name => source? tree (root.child name) w s := by
  rw [loadByWeight_some_eq hfolders] at h
  have hstart := keys_ofList_empty hdistinct
  have hkeys : icons.keys = entries.map Entry.slug := by
    refine Outcome.invariant_of_foldlM
      (P := fun icons => icons.keys = entries.map Entry.slug) ?_ hstart h
    intro name _ before after hbefore hafter
    rw [keys_loadWeightFolder_some (fun e he => hbefore ▸ List.mem_map_of_mem he) hafter, hbefore]
  refine ⟨hkeys, fun s hs w => ?_⟩
  have hlast : drawing? icons s w =
      (lastIn folders w fun name => source? tree (root.child name) w s).or
        (drawing? (Table.ofList (entries.map fun entry => (entry.slug, Table.empty))) s w) := by
    refine drawing?_foldlM (fun name _ icons after hafter => ?_) h
    exact drawing?_loadWeightFolder_some hslugs hafter (hkeys ▸ hs) w
  rw [hlast, drawing?_ofList_empty, Option.or_none]

/-! ## Both ways -/

/-- The folder of a weight holds no two files of which listing and looking up would take
different ones for an icon, and none that only one of them takes. -/
structure IsClear (tree : Disk.Tree) (folder : Disk.Path) (w : Weight) (s : Text) : Prop where
  alike : w.stripSuffix s = s → ∀ t u, textAt? tree folder (s ++ ending) = some t →
    textAt? tree folder (fileName w s) = some u → u = t
  suffixed : w.stripSuffix s ≠ s → (textAt? tree folder (s ++ ending)).isSome →
    (textAt? tree folder (fileName w s)).isSome
  bare : s = ending → (textAt? tree folder ending).isSome →
    (textAt? tree folder (s ++ ending)).isSome ∨ (textAt? tree folder (fileName w s)).isSome

theorem source?_eq_listed?_iff {folder : Disk.Path} {w : Weight} {s : Text} :
    source? tree folder w s = listed? tree folder w s ↔ IsClear tree folder w s := by
  have hcandidates : candidates w s = [fileName w s, s ++ ending] := rfl
  have hclear : IsClear tree folder w s ↔ _ ∧ _ ∧ _ :=
    ⟨fun ⟨halike, hsuffixed, hbare⟩ => ⟨halike, hsuffixed, hbare⟩,
      fun ⟨halike, hsuffixed, hbare⟩ => ⟨halike, hsuffixed, hbare⟩⟩
  rw [source?_eq_textAt?, hcandidates, listed?, listedNames, hclear]
  by_cases hkept : w.stripSuffix s = s
  · by_cases hcalled : s = ending
    · simp only [if_pos hkept, if_pos hcalled, List.singleton_append, List.findSome?_cons,
        List.findSome?_nil]
      generalize textAt? tree folder (fileName w s) = suffixed
      generalize textAt? tree folder (s ++ ending) = plain
      generalize textAt? tree folder ending = bare
      cases suffixed <;> cases plain <;> cases bare <;> simp [hcalled, stripSuffix_ending]
    · simp only [if_pos hkept, if_neg hcalled, List.singleton_append, List.findSome?_cons,
        List.findSome?_nil]
      generalize textAt? tree folder (fileName w s) = suffixed
      generalize textAt? tree folder (s ++ ending) = plain
      cases suffixed <;> cases plain <;> simp [hkept, hcalled]
  · have hcalled : s ≠ ending := fun heq => hkept (heq ▸ stripSuffix_ending w)
    simp only [if_neg hkept, if_neg hcalled, List.nil_append, List.findSome?_cons,
      List.findSome?_nil]
    generalize textAt? tree folder (fileName w s) = suffixed
    generalize textAt? tree folder (s ++ ending) = plain
    cases suffixed <;> cases plain <;> simp [hkept, hcalled]

theorem map_slug_ofSlugs (slugs : List Text) : (Catalog.ofSlugs slugs).map Entry.slug = slugs := by
  rw [Catalog.ofSlugs, List.map_map]
  exact List.map_id _

/-- A tree that has been listed can be looked through for the icons found exactly if the names of
their files with the suffixes of the weights are short enough for the system. The icons are then
the same, and so are their drawings if every folder is clear for every icon, and only then if no
two folders are named after one weight. -/
theorem loadByWeight_ofSlugs (hproper : tree.IsProper)
    (h : (loadByWeight tree root none).result = .ok icons) :
    ∃ folders, subfolders tree root = .ok folders ∧
      ((∃ others, (loadByWeight tree root (some (Catalog.ofSlugs icons.keys))).result =
          .ok others) ↔
        ∀ name ∈ folders, ∀ w, Weight.ofName? name = some w →
          ∀ s ∈ icons.keys, ((root.child name).child (fileName w s)).IsShort) ∧
      ∀ others, (loadByWeight tree root (some (Catalog.ofSlugs icons.keys))).result = .ok others →
        others.keys = icons.keys ∧
          ((∀ name ∈ folders, ∀ w, Weight.ofName? name = some w →
              ∀ s ∈ icons.keys, IsClear tree (root.child name) w s) →
            ∀ s w, drawing? others s w = drawing? icons s w) ∧
          ((folders.filterMap Weight.ofName?).Nodup →
            (∀ s w, drawing? others s w = drawing? icons s w) →
              ∀ name ∈ folders, ∀ w, Weight.ofName? name = some w →
                ∀ s ∈ icons.keys, IsClear tree (root.child name) w s) := by
  obtain ⟨folders, -, hfolders, -, -⟩ := loadByWeight_none_eq_ok h
  obtain ⟨hread, hlisted⟩ := drawing?_loadByWeight_none hproper hfolders h
  have hslugs := map_slug_ofSlugs icons.keys
  have hentries : ∀ e ∈ Catalog.ofSlugs icons.keys, IsSlug e.slug := fun e he =>
    (hlisted e.slug (hslugs ▸ List.mem_map_of_mem he)).1
  refine ⟨folders, hfolders, ?_, ?_⟩
  · -- A lookup fails for a path that is too long and for no other.
    rw [loadByWeight_some_eq hfolders]
    refine Outcome.exists_foldlM_iff (fun name hname before => ?_) _
    obtain ⟨w, files, hweight, hfiles⟩ := hread name hname
    obtain ⟨place, hlocate, hfolder, -⟩ := hfiles.exists_place
    unfold loadWeightFolder
    rw [hweight]
    refine (Outcome.exists_foldlM_iff
      (P := fun e : Entry => ((root.child name).child (fileName w e.slug)).IsShort)
      (fun e he before => exists_loadEntry_iff hlocate hfolder before (hentries e he).slash
        (hentries e he).nul) before).trans ?_
    constructor
    · intro hall v hv s hs
      obtain rfl : w = v := Option.some.inj hv
      obtain ⟨e, he, rfl⟩ := List.mem_map.1 (hslugs.symm ▸ hs)
      exact hall e he
    · intro hall e he
      exact hall w rfl e.slug (hslugs ▸ List.mem_map_of_mem he)
  · intro others hothers
    obtain ⟨hkeys, hlooked⟩ := drawing?_loadByWeight_some hfolders
      (hslugs.symm ▸ icons.distinct) (fun e he => (hentries e he).slash) hothers
    rw [hslugs] at hkeys
    refine ⟨hkeys, fun hclear s w => ?_, fun hdistinct hsame name hname w hweight s hs => ?_⟩
    · by_cases hs : s ∈ icons.keys
      · have hmem : s ∈ others.keys := by rwa [hkeys]
        -- Both ways take the last folder of the weight, so they are compared folder by folder.
        rw [hlooked s hmem, (hlisted s hs).2]
        refine lastIn_congr fun name hname hweight => ?_
        exact source?_eq_listed?_iff.2 (hclear name hname w hweight s hs)
      · have hnot : s ∉ others.keys := by rwa [hkeys]
        rw [drawing?_eq_none_of_not_mem hs, drawing?_eq_none_of_not_mem hnot]
    · have hmem : s ∈ others.keys := by rwa [hkeys]
      have hagree := hsame s w
      rw [hlooked s hmem, (hlisted s hs).2, lastIn_of_mem hdistinct hname hweight,
        lastIn_of_mem hdistinct hname hweight] at hagree
      exact source?_eq_listed?_iff.1 hagree

end Layout

/-! ## Names that end like a weight -/

/-- A tree with nothing but a table, which is stored in its folder for assets. -/
def assetTree (table : IconTable) : Disk.Tree := store ["assets".toList] bareTree table

/-- The path of the folder for assets. -/
def assetRoot : Disk.Path := Disk.Path.ofText "assets".toList

theorem stores_assetTree (table : IconTable) :
    Stores (assetTree table) assetRoot ["assets".toList] table :=
  stores_store (by decide) (by decide) (fun _ _ => rfl) table

/-- A table that gives two icons, of which one is named like a file of the other, a drawing each. -/
def twoIcons (first second : Weight) : IconTable :=
  Table.ofList [("text".toList, Table.ofList [(first, "a".toList)]),
    ("text-bold".toList, Table.ofList [(second, "b".toList)])]

theorem keys_twoIcons (first second : Weight) :
    (twoIcons first second).keys = ["text".toList, "text-bold".toList] := by rfl

theorem isStorable_twoIcons (first second : Weight) :
    IsStorable assetRoot (twoIcons first second) := by
  refine ⟨by rw [keys_twoIcons]; decide, ?_, fun s w hdrawing => ?_⟩
  · rw [keys_twoIcons, List.forall_mem_cons, List.forall_mem_singleton]
    exact ⟨⟨first, by cases first <;> rfl⟩, ⟨second, by cases second <;> rfl⟩⟩
  · have hs := mem_keys_of_drawing? hdrawing
    rw [keys_twoIcons] at hs
    clear hdrawing
    cases w <;> revert s <;> decide

theorem loadByWeight_twoIcons (first second : Weight) :
    ∃ icons, (loadByWeight (assetTree (twoIcons first second)) assetRoot none).result =
        .ok icons ∧ (∀ s, s ∈ icons.keys ↔ s ∈ ["text".toList, "text-bold".toList]) ∧
          ∀ s w, drawing? icons s w = drawing? (twoIcons first second) s w := by
  obtain ⟨icons, hload, hkeys, hdrawings⟩ :=
    (stores_assetTree (twoIcons first second)).loadByWeight_none (isStorable_twoIcons first second)
  refine ⟨icons, congrArg Outcome.result hload, fun s => ?_, hdrawings⟩
  rw [hkeys, List.mem_mergeSort, keys_twoIcons]

/-- The bold file of the one icon is named like a file of the other, which is found before it. -/
theorem loadByWeight_ofSlugs_twoIcons :
    let tree := assetTree (twoIcons .bold .bold)
    ∃ icons others, (loadByWeight tree assetRoot none).result = .ok icons ∧
      (loadByWeight tree assetRoot (some (Catalog.ofSlugs icons.keys))).result = .ok others ∧
      others.keys = icons.keys ∧ (∀ s w, drawing? others s w = drawing? icons s w) ∧
        drawing? others "text".toList .bold = some "a".toList ∧
          drawing? others "text-bold".toList .bold = some "b".toList := by
  intro tree
  obtain ⟨icons, hload, hmem, hdrawings⟩ := loadByWeight_twoIcons .bold .bold
  obtain ⟨folders, hfolders, hfound, hagree⟩ :=
    loadByWeight_ofSlugs (by decide : tree.IsProper) hload
  have hlist : tree.list assetRoot = .ok ["bold".toList] := by decide
  have hsub := subfolders_of_visible hlist (by decide) (by decide)
  rw [List.mergeSort_singleton] at hsub
  obtain rfl := Except.ok.inj (hsub.symm.trans hfolders)
  have hclear : ∀ s ∈ ["text".toList, "text-bold".toList],
      ((assetRoot.child "bold".toList).child (fileName .bold s)).IsShort ∧
        source? tree (assetRoot.child "bold".toList) .bold s =
          listed? tree (assetRoot.child "bold".toList) .bold s := by
    decide
  have hfolder : ∀ name ∈ ["bold".toList], ∀ w, Weight.ofName? name = some w →
      ∀ s ∈ icons.keys, ((assetRoot.child name).child (fileName w s)).IsShort ∧
        IsClear tree (assetRoot.child name) w s := by
    intro name hname w hweight s hs
    obtain rfl := List.mem_singleton.1 hname
    obtain rfl : Weight.bold = w := Option.some.inj hweight
    obtain ⟨hshort, hsame⟩ := hclear s ((hmem s).1 hs)
    exact ⟨hshort, source?_eq_listed?_iff.1 hsame⟩
  obtain ⟨others, hothers⟩ := hfound.2 fun name hname w hweight s hs =>
    (hfolder name hname w hweight s hs).1
  obtain ⟨hkeys, hsame, -⟩ := hagree others hothers
  have hdrawing := hsame fun name hname w hweight s hs => (hfolder name hname w hweight s hs).2
  refine ⟨icons, others, hload, hothers, hkeys, hdrawing, ?_, ?_⟩
  · rw [hdrawing, hdrawings]
    rfl
  · rw [hdrawing, hdrawings]
    rfl

/-- A tree that holds two files of one icon in the folder of a weight, with the suffix of the
weight and without it. -/
def bothFiles : Disk.Tree :=
  (assetTree (Table.ofList [("x".toList, Table.ofList [(.bold, "a".toList)])])).put
    ["assets".toList, "bold".toList, "x.svg".toList] (.file (Text.Utf8.encode "b".toList))

theorem subfolders_bothFiles : subfolders bothFiles assetRoot = .ok ["bold".toList] := by
  have hlist : bothFiles.list assetRoot = .ok ["bold".toList] := by decide
  have hfolders := subfolders_of_visible hlist (by decide) (by decide)
  rwa [List.mergeSort_singleton] at hfolders

/-- Listing reads the file without the suffix last. -/
theorem exists_loadByWeight_bothFiles : ∃ icons : IconTable,
    (loadByWeight bothFiles assetRoot none).result = .ok icons ∧ icons.keys = ["x".toList] := by
  let listed := addDrawing (addDrawing Table.empty "x".toList .bold "a".toList) "x".toList .bold
    "b".toList
  have hsources : sources bothFiles (assetRoot.child "bold".toList) =
      .ok ["x-bold.svg".toList, "x.svg".toList] := by
    have hlist : bothFiles.list (assetRoot.child "bold".toList) =
        .ok ["x-bold.svg".toList, "x.svg".toList] := by decide
    rw [sources, hlist]
    show Except.ok (List.mergeSort ["x-bold.svg".toList, "x.svg".toList] Text.atMost) = _
    rw [List.mergeSort_of_pairwise (by decide)]
  have hfolder : (loadWeightFolder bothFiles assetRoot none Table.empty "bold".toList).result =
      .ok listed := by
    have hweight : Weight.ofName? "bold".toList = some .bold := by decide
    rw [loadWeightFolder, hweight]
    dsimp only
    rw [hsources]
    rfl
  refine ⟨listed.sortedByKey Text.atMost, ?_, ?_⟩
  · have hfound : (accessing (subfolders bothFiles assetRoot)).result = .ok ["bold".toList] := by
      rw [subfolders_bothFiles]
      rfl
    have hlisted : (["bold".toList].foldlM (loadWeightFolder bothFiles assetRoot none)
        Table.empty).result = .ok listed := (Outcome.result_bind_of_ok _ hfolder).trans rfl
    refine (Outcome.result_bind_of_ok _ hfound).trans ?_
    exact (Outcome.result_bind_of_ok _ hlisted).trans rfl
  · rw [Table.keys_sortedByKey]
    exact List.mergeSort_singleton _

/-- Not every tree that has been listed is loaded in the same way when the icons found are looked
up. -/
theorem not_forall_loadByWeight_ofSlugs :
    ¬ ∀ (tree : Disk.Tree) (root : Disk.Path) (icons : IconTable), tree.IsProper →
      (loadByWeight tree root none).result = .ok icons →
        ∃ others, (loadByWeight tree root (some (Catalog.ofSlugs icons.keys))).result =
          .ok others ∧ others.keys = icons.keys ∧
            ∀ s w, drawing? others s w = drawing? icons s w := by
  intro hall
  have hproper : bothFiles.IsProper := by decide
  obtain ⟨icons, hload, hkeys⟩ := exists_loadByWeight_bothFiles
  obtain ⟨others, hothers, hsame, hagree⟩ := hall _ assetRoot icons hproper hload
  rw [hkeys] at hothers hsame
  obtain ⟨-, hlisted⟩ := drawing?_loadByWeight_none hproper subfolders_bothFiles hload
  obtain ⟨-, hlooked⟩ := drawing?_loadByWeight_some subfolders_bothFiles (by decide) (by decide)
    hothers
  have hlist := (hlisted "x".toList (by rw [hkeys]; decide)).2 .bold
  have hlook := hlooked "x".toList (by rw [hsame]; decide) .bold
  rw [hagree, hlist] at hlook
  exact absurd hlook (by decide)

end Iconsmith.Assets
