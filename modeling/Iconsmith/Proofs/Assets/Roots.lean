import Iconsmith.Proofs.Assets.Reordering

set_option autoImplicit false

/-!
# Roots of assets

What stands below a root is described by places: its visible folders and the source files of each,
in the order of their names (`visibleFolders`, `sourceNames`). The accesses of loading find exactly
that as long as no path is too long for the system: an entry of the root with a path that is too
long stops the search for the folders (`IsAssetRoot.subfolders_eq_ok_iff`), and a source file with
such a path cannot be read (`IsAssetRoot.readSource_of_long`).
-/

namespace Iconsmith.Assets

open Disk Disk.Tree

/-! ## Folders and files at places -/

/-- The names of the visible folders in a folder, in order. -/
def visibleFolders (tree : Tree) (place : Place) : List Text :=
  ((tree.names place).filter fun name =>
    tree.isFolderAt (place ++ [name]) && decide (name.head? ≠ some '.')).mergeSort Text.atMost

/-- The names of the source files in a folder, in order. -/
def sourceNames (tree : Tree) (place : Place) : List Text :=
  ((tree.names place).filter ending.isSuffixOf).mergeSort Text.atMost

/-- The text of the file at a place. -/
def textAtPlace? (tree : Tree) (place : Place) : Option Text :=
  (tree.file? place).map Text.Utf8.decode

/-- A root of assets: a folder in a tree that a file system can hold, where all that is named like
a source file in a visible folder is a file. -/
structure IsAssetRoot (tree : Tree) (root : Path) (place : Place) : Prop where
  proper : tree.IsProper
  nul : tree.HasNoNul
  located : tree.locate root = .ok place
  folder : tree.isFolderAt place
  files : ∀ name ∈ visibleFolders tree place, ∀ file ∈ sourceNames tree (place ++ [name]),
    (tree.file? (place ++ [name, file])).isSome

/-- The system can be asked what each entry of the root is. -/
def HasShortEntries (tree : Tree) (root : Path) (place : Place) : Prop :=
  ∀ name ∈ tree.names place, (root.child name).IsShort

/-- The system can be asked for the source files in a folder of the root. -/
def HasShortFiles (tree : Tree) (root : Path) (place : Place) (name : Text) : Prop :=
  ∀ file ∈ sourceNames tree (place ++ [name]), ((root.child name).child file).IsShort

/-- The fault of an entry of a folder whose path is too long. -/
def IsTooLong (fault : Fault) : Prop :=
  ∃ folder name, ¬ (Path.child folder name).IsShort ∧ fault = .access (longFault folder name)

section Names

variable {tree a b : Tree} {place : Place} {name : Text} {names : List Text}

theorem visibleFolders_eq (hfound : ((tree.names place).filter fun name =>
      tree.isFolderAt (place ++ [name]) && decide (name.head? ≠ some '.')).Perm names)
    (hsorted : names.Pairwise fun s t => Text.atMost s t) : visibleFolders tree place = names :=
  Text.mergeSort_eq_of_sorted hfound hsorted

theorem sourceNames_eq (hfound : ((tree.names place).filter ending.isSuffixOf).Perm names)
    (hsorted : names.Pairwise fun s t => Text.atMost s t) : sourceNames tree place = names :=
  Text.mergeSort_eq_of_sorted hfound hsorted

theorem mem_visibleFolders : name ∈ visibleFolders tree place ↔
    name ∈ tree.names place ∧ tree.isFolderAt (place ++ [name]) ∧ name.head? ≠ some '.' := by
  rw [visibleFolders, List.mem_mergeSort, List.mem_filter, Bool.and_eq_true, decide_eq_true_eq]

theorem nodup_visibleFolders (tree : Tree) (place : Place) : (visibleFolders tree place).Nodup :=
  (List.mergeSort_perm _ _).nodup_iff.2 ((nodup_names tree place).filter _)

theorem mem_sourceNames : name ∈ sourceNames tree place ↔
    name ∈ tree.names place ∧ ending <:+ name := by
  rw [sourceNames, List.mem_mergeSort, List.mem_filter, List.isSuffixOf_iff_suffix]

/-- Folders that hold the same hold the same source files. -/
theorem sourceNames_congr (h : ∀ name, a.get? (place ++ [name]) = b.get? (place ++ [name])) :
    sourceNames a place = sourceNames b place := by
  have hperm : (a.names place).Perm (b.names place) :=
    (List.perm_ext_iff_of_nodup (nodup_names a place) (nodup_names b place)).2 fun name => by
      rw [mem_names_iff, mem_names_iff, h]
  exact Text.mergeSort_eq_of_perm (hperm.filter _)

end Names

section Decidable

variable {tree : Tree} {root : Path} {place : Place} {name : Text}

theorem forall_sourceNames {P : Text → Prop} : (∀ file ∈ sourceNames tree place, P file) ↔
    ∀ file ∈ tree.names place, ending <:+ file → P file :=
  forall_congr' fun file => by rw [mem_sourceNames, and_imp]

instance : Decidable (HasShortEntries tree root place) :=
  inferInstanceAs (Decidable (∀ name ∈ tree.names place, (root.child name).IsShort))

instance : Decidable (HasShortFiles tree root place name) :=
  decidable_of_iff' _ forall_sourceNames

/-- Whether a folder is a root of assets is settled entry by entry. -/
theorem isAssetRoot_iff : IsAssetRoot tree root place ↔ tree.IsProper ∧
    (∀ place ∈ tree.entries.keys, ∀ name ∈ place, '\x00' ∉ name) ∧ tree.locate root = .ok place ∧
      tree.isFolderAt place ∧ ∀ name ∈ tree.names place, tree.isFolderAt (place ++ [name]) →
        name.head? ≠ some '.' → ∀ file ∈ tree.names (place ++ [name]), ending <:+ file →
          (tree.file? (place ++ [name, file])).isSome := by
  constructor
  · rintro ⟨hproper, hnul, hlocated, hfolder, hfiles⟩
    exact ⟨hproper, hnul, hlocated, hfolder, fun name hname hthere hvisible file hfile hending =>
      hfiles name (mem_visibleFolders.2 ⟨hname, hthere, hvisible⟩) file
        (mem_sourceNames.2 ⟨hfile, hending⟩)⟩
  · rintro ⟨hproper, hnul, hlocated, hfolder, hfiles⟩
    refine ⟨hproper, hnul, hlocated, hfolder, fun name hname file hfile => ?_⟩
    obtain ⟨hentry, hthere, hvisible⟩ := mem_visibleFolders.1 hname
    obtain ⟨hlisted, hending⟩ := mem_sourceNames.1 hfile
    exact hfiles name hentry hthere hvisible file hlisted hending

instance : Decidable (IsAssetRoot tree root place) := decidable_of_iff' _ isAssetRoot_iff

end Decidable

namespace IsAssetRoot

variable {tree : Tree} {root : Path} {place : Place} {name file : Text}
  (h : IsAssetRoot tree root place)

include h

theorem list_eq : tree.list root = .ok (tree.names place) :=
  Disk.Tree.list_eq h.located h.folder

theorem not_mem_nul (hname : name ∈ tree.names place) : '\x00' ∉ name :=
  h.nul.list h.list_eq name hname

/-! ## Finding the folders -/

theorem isFolder_of_short (hname : name ∈ tree.names place) (hshort : (root.child name).IsShort) :
    tree.isFolder (root.child name) = .ok (tree.isFolderAt (place ++ [name])) := by
  rw [isFolder, test_child_of_short h.located h.folder (h.proper.isPlainName hname)
    (h.not_mem_nul hname) isFolderItem hshort, isFolderAt]
  cases tree.get? (place ++ [name]) with
  | none => rfl
  | some item => cases item <;> rfl

/-- The visible folders are found exactly if no path to an entry of the root is too long. -/
theorem subfolders_eq_ok_iff {folders : List Text} : subfolders tree root = .ok folders ↔
    HasShortEntries tree root place ∧ folders = visibleFolders tree place := by
  -- A test of an entry fails for nothing but the length of its path.
  have htested : (∀ name ∈ tree.names place,
      ∃ there, tree.isFolder (root.child name) = .ok there) ↔ HasShortEntries tree root place :=
    forall₂_congr fun name hname => exists_test_child_iff h.located h.folder
      (h.proper.isPlainName hname) (h.not_mem_nul hname) isFolderItem
  have hfound : HasShortEntries tree root place → ((tree.names place).filter fun name =>
      (tree.isFolder (root.child name)).toOption.getD false &&
        decide (name.head? ≠ some '.')).mergeSort Text.atMost = visibleFolders tree place := by
    intro hshort
    refine congrArg (List.mergeSort · Text.atMost) (List.filter_congr fun name hname => ?_)
    rw [h.isFolder_of_short hname (hshort name hname)]
    rfl
  rw [Assets.subfolders_eq_ok_iff]
  constructor
  · rintro ⟨names, hlist, hall, rfl⟩
    cases hlist.symm.trans h.list_eq
    exact ⟨htested.1 hall, hfound (htested.1 hall)⟩
  · rintro ⟨hshort, rfl⟩
    exact ⟨_, h.list_eq, htested.2 hshort, (hfound hshort).symm⟩

theorem subfolders_of_short (hshort : HasShortEntries tree root place) :
    subfolders tree root = .ok (visibleFolders tree place) :=
  h.subfolders_eq_ok_iff.2 ⟨hshort, rfl⟩

/-- Otherwise one of the paths that are too long is named. -/
theorem subfolders_of_long (hlong : ¬ HasShortEntries tree root place) :
    ∃ name, ¬ (root.child name).IsShort ∧ subfolders tree root = .error (longFault root name) := by
  have hsome : (firstRefused? tree root).isSome := by
    unfold HasShortEntries at hlong
    push Not at hlong
    obtain ⟨name, hname, hnot⟩ := hlong
    rw [firstRefused?, h.list_eq, List.find?_isSome]
    exact ⟨name, hname, (refuses_iff h.proper h.nul h.list_eq hname).2 hnot⟩
  obtain ⟨name, hrefused⟩ := Option.isSome_iff_exists.1 hsome
  obtain ⟨names, hlist, hfind⟩ := firstRefused?_eq_some.1 hrefused
  exact ⟨name, (refuses_iff h.proper h.nul hlist (List.mem_of_find?_eq_some hfind)).1
    (List.find?_some hfind), subfolders_of_firstRefused hrefused⟩

theorem onlyFails_subfolders : (accessing (subfolders tree root)).OnlyFails IsTooLong := by
  by_cases hshort : HasShortEntries tree root place
  · rw [h.subfolders_of_short hshort]
    nofun
  · obtain ⟨name, hlong, hrefused⟩ := h.subfolders_of_long hshort
    rw [hrefused]
    intro fault hfault
    cases hfault
    exact ⟨root, name, hlong, rfl⟩

/-! ## Reading the files -/

section Folder

variable (hname : name ∈ visibleFolders tree place)

include hname

theorem locate_folder (hshort : (root.child name).IsShort) :
    tree.locate (root.child name) = .ok (place ++ [name]) := by
  obtain ⟨hentry, -, -⟩ := mem_visibleFolders.1 hname
  rw [locate_child_of_short h.located h.folder (h.proper.isPlainName hentry) (h.not_mem_nul hentry)
    hshort, if_pos (mem_names_iff.1 hentry)]

theorem sources_eq (hshort : (root.child name).IsShort) :
    sources tree (root.child name) = .ok (sourceNames tree (place ++ [name])) := by
  have hlist := Disk.Tree.list_eq (h.locate_folder hname hshort) (mem_visibleFolders.1 hname).2.1
  exact sources_eq_ok_iff.2 ⟨_, hlist, rfl⟩

variable (hshort : (root.child name).IsShort) (hfile : file ∈ sourceNames tree (place ++ [name]))

include hshort hfile

/-- A source file whose path is not too long is read, whatever its bytes are. -/
theorem readSource_of_short (hpath : ((root.child name).child file).IsShort) :
    ∃ bytes, tree.file? (place ++ [name, file]) = some bytes ∧
      readSource tree ((root.child name).child file) =
        ⟨(textOf ((root.child name).child file).text bytes).1, .ok (Text.Utf8.decode bytes)⟩ := by
  obtain ⟨bytes, hbytes⟩ := Option.isSome_iff_exists.1 (h.files name hname file hfile)
  have hlocate := h.locate_folder hname hshort
  have hfolder := (mem_visibleFolders.1 hname).2.1
  have hlisted := (mem_sourceNames.1 hfile).1
  have hnul := h.nul.list (Disk.Tree.list_eq hlocate hfolder) file hlisted
  have hsplit : place ++ [name, file] = (place ++ [name]) ++ [file] := by
    rw [List.append_assoc]
    rfl
  have hfound := file?_eq_some_iff.1 hbytes
  refine ⟨bytes, hbytes, readSource_of_file ?_ hfound⟩
  rw [locate_child_of_short hlocate hfolder (h.proper.isPlainName hlisted) hnul hpath,
    if_pos (mem_names_iff.1 hlisted), hsplit]

/-- A source file whose path is too long stops the loading. -/
theorem readSource_of_long (hpath : ¬ ((root.child name).child file).IsShort) :
    readSource tree ((root.child name).child file) =
      .of (.error (.access (longFault (root.child name) file))) := by
  have hlocate := h.locate_folder hname hshort
  have hfolder := (mem_visibleFolders.1 hname).2.1
  have hlisted := (mem_sourceNames.1 hfile).1
  have hnul := h.nul.list (Disk.Tree.list_eq hlocate hfolder) file hlisted
  have hrefused : tree.read ((root.child name).child file) =
      .error (longFault (root.child name) file) := by
    have hlong := locate_child_of_long hlocate hfolder (h.proper.isPlainName hlisted) hnul hpath
    rw [locate] at hlong
    rw [Disk.Tree.read, readText, hlong]
    rfl
  rw [readSource, hrefused]
  rfl

theorem onlyFails_readSource :
    (readSource tree ((root.child name).child file)).OnlyFails IsTooLong := by
  by_cases hpath : ((root.child name).child file).IsShort
  · obtain ⟨bytes, -, hread⟩ := h.readSource_of_short hname hshort hfile hpath
    rw [hread]
    nofun
  · rw [h.readSource_of_long hname hshort hfile hpath]
    intro fault hfault
    cases hfault
    exact ⟨root.child name, file, hpath, rfl⟩

end Folder

end IsAssetRoot

end Iconsmith.Assets
