import Iconsmith.Assets.Load
import Iconsmith.Proofs.Disk.Looking

set_option autoImplicit false

/-!
# Drawings in the weight layout

For every entry of a catalog and every weight, loading the weight layout ends with the
drawing that the folder of the weight holds for the entry, and with none if it holds none
(`drawing?_loadByWeight`). The folders are gone through in one order and the entries in
another; what has been loaded is seen through `drawing?`, for which neither order matters.
-/

namespace Iconsmith.Assets

/-! ## Files that are there -/

/-- An access that gives a result has been granted. -/
theorem eq_ok_of_accessing {α : Type} {result : Except Disk.AccessFault α} {a : α}
    (h : (accessing result).result = .ok a) : result = .ok a := by
  cases result with
  | ok b =>
      cases h
      rfl
  | error fault => cases h

/-- The bytes at a path, if a file is there. -/
def bytesAt? (tree : Disk.Tree) (path : Disk.Path) : Option (List UInt8) :=
  (tree.read path).toOption

theorem bytesAt?_eq_some_iff {tree : Disk.Tree} {path : Disk.Path} {bytes : List UInt8} :
    bytesAt? tree path = some bytes ↔ tree.read path = .ok bytes := by
  rw [bytesAt?]
  cases tree.read path with
  | error fault => exact iff_of_false nofun nofun
  | ok found =>
      show some found = some bytes ↔ _
      rw [Option.some.injEq, Except.ok.injEq]

/-- Whether a file is at a path is whether it has bytes. -/
theorem isSome_bytesAt? {tree : Disk.Tree} {path : Disk.Path} {found : Bool}
    (h : tree.isFile path = .ok found) : (bytesAt? tree path).isSome = found := by
  rw [Disk.Tree.isFile, Disk.Tree.test] at h
  have hplace : tree.locateText path.text = tree.locate path := rfl
  rw [bytesAt?, Disk.Tree.read, Disk.Tree.readText, hplace]
  -- Reading and testing follow the same path, and pass over the same refusals.
  cases hlocate : tree.locate path with
  | ok place =>
      simp only [hlocate, Except.ok.injEq] at h
      subst h
      cases hitem : tree.get? place with
      | none =>
          simp only [hitem]
          rfl
      | some item =>
          simp only [hitem]
          cases item <;> rfl
  | error fault =>
      cases fault with
      | nul =>
          simp only [hlocate, Except.ok.injEq] at h
          subst h
          rfl
      | refused r =>
          simp only [hlocate] at h
          split at h
          · cases h
            rfl
          · cases h
            rfl
          · cases h

/-- The first of some paths with a file has the first bytes that there are. -/
theorem bytesAt?_firstFile {tree : Disk.Tree} {paths : List Disk.Path} {found : Option Disk.Path}
    (h : firstFile tree paths = .ok found) :
    found.bind (bytesAt? tree) = paths.findSome? (bytesAt? tree) ∧
      ∀ path, found = some path → (bytesAt? tree path).isSome := by
  -- On the paths: the first that is a file ends the search, and those before it give no bytes.
  induction paths with
  | nil =>
      cases h
      exact ⟨rfl, fun path hpath => by cases hpath⟩
  | cons path more ih =>
      rw [firstFile] at h
      cases hfile : tree.isFile path with
      | error fault =>
          rw [hfile] at h
          cases h
      | ok there =>
          have hbytes := isSome_bytesAt? hfile
          rw [hfile] at h
          cases there with
          | true =>
              cases h
              obtain ⟨bytes, hsome⟩ := Option.isSome_iff_exists.1 hbytes
              refine ⟨?_, fun other hother => ?_⟩
              · rw [Option.bind_some, List.findSome?_cons, hsome]
              · cases hother
                exact hbytes
          | false =>
              obtain ⟨hfound, hsome⟩ := ih h
              have hnone : bytesAt? tree path = none := by
                simpa using hbytes
              exact ⟨by rw [hfound, List.findSome?_cons, hnone], hsome⟩

theorem snd_textOf (path : Text) (bytes : List UInt8) :
    (textOf path bytes).2 = Text.Utf8.decode bytes := by
  rw [textOf]
  split <;> rfl

/-- What has been read is the text of the bytes that are there. -/
theorem eq_of_readSource {tree : Disk.Tree} {path : Disk.Path} {text : Text}
    (h : (readSource tree path).result = .ok text) :
    (bytesAt? tree path).map Text.Utf8.decode = some text := by
  obtain ⟨bytes, hbytes, hrest⟩ := Outcome.exists_of_bind_eq_ok h
  obtain ⟨-, -, htext⟩ := Outcome.exists_of_bind_eq_ok hrest
  have hread := eq_ok_of_accessing hbytes
  have hsame : (textOf path.text bytes).2 = text := Except.ok.inj htext
  rw [bytesAt?, hread, ← hsame, snd_textOf]
  rfl

/-- A file that can be located is read, whatever its bytes are. -/
theorem readSource_of_file {tree : Disk.Tree} {path : Disk.Path} {place : Disk.Place}
    {bytes : List UInt8} (hlocate : tree.locate path = .ok place)
    (hfile : tree.get? place = some (.file bytes)) :
    readSource tree path = ⟨(textOf path.text bytes).1, .ok (Text.Utf8.decode bytes)⟩ := by
  have hread : tree.read path = .ok bytes :=
    Disk.Tree.read_eq_ok_iff.2 ⟨place, hlocate, hfile⟩
  have hgranted : ∀ next : List UInt8 → Loading Text,
      (accessing (.ok bytes) >>= next) = next bytes := fun next => rfl
  rw [readSource, hread, hgranted, ← snd_textOf path.text bytes]
  exact congrArg (Outcome.mk · _) (List.append_nil _)

/-! ## Visible folders -/

theorem filterAuxM_eq_ok_iff {f : Text → Except Disk.AccessFault Bool}
    {names kept found : List Text} : names.filterAuxM f kept = .ok found ↔
      (∀ name ∈ names, ∃ passed, f name = .ok passed) ∧
        (names.filter fun name => (f name).toOption.getD false).reverse ++ kept = found := by
  induction names generalizing kept with
  | nil => exact ⟨fun h => ⟨nofun, Except.ok.inj h⟩, fun h => congrArg Except.ok h.2⟩
  | cons name names ih =>
      rw [List.filterAuxM, List.forall_mem_cons]
      cases hname : f name with
      | error fault =>
          refine iff_of_false nofun ?_
          rintro ⟨⟨⟨passed, hpassed⟩, -⟩, -⟩
          cases hpassed
      | ok passed =>
          have hgranted : ∃ b, (.ok passed : Except Disk.AccessFault Bool) = .ok b := ⟨passed, rfl⟩
          -- What passes is put before what was kept, so it ends up in reverse.
          have hkept : ((name :: names).filter fun name => (f name).toOption.getD false).reverse ++
              kept = (names.filter fun name => (f name).toOption.getD false).reverse ++
                bif passed then name :: kept else kept := by
            rw [List.filter_cons, hname]
            cases passed <;> simp [Except.toOption]
          rw [hkept, and_assoc, and_iff_right hgranted]
          exact ih

/-- A filter gives the names that pass the test, if the test can be made for all of them. -/
theorem filterM_eq_ok_iff {f : Text → Except Disk.AccessFault Bool} {names found : List Text} :
    names.filterM f = .ok found ↔ (∀ name ∈ names, ∃ passed, f name = .ok passed) ∧
      (names.filter fun name => (f name).toOption.getD false) = found := by
  have haux : names.filterAuxM f [] = .ok found.reverse ↔ _ := filterAuxM_eq_ok_iff
  rw [List.append_nil, List.reverse_inj] at haux
  rw [← haux, List.filterM]
  cases names.filterAuxM f [] with
  | error fault => exact iff_of_false nofun nofun
  | ok kept =>
      show Except.ok kept.reverse = .ok found ↔ _
      rw [Except.ok.injEq, Except.ok.injEq, List.reverse_eq_iff]

/-- The visible folders are found when every name in the root can be tested. -/
theorem subfolders_eq_ok_iff {tree : Disk.Tree} {root : Disk.Path} {folders : List Text} :
    subfolders tree root = .ok folders ↔ ∃ names, tree.list root = .ok names ∧
      (∀ name ∈ names, ∃ there, tree.isFolder (root.child name) = .ok there) ∧
        folders = (names.filter fun name => (tree.isFolder (root.child name)).toOption.getD false &&
          decide (name.head? ≠ some '.')).mergeSort Text.atMost := by
  rw [subfolders]
  cases hlist : tree.list root with
  | error fault => exact iff_of_false nofun (by rintro ⟨names, hnames, -⟩; cases hnames)
  | ok names =>
      show (do
        let folders ← names.filterM fun name => tree.isFolder (root.child name)
        return (folders.filter fun name => name.head? ≠ some '.').mergeSort Text.atMost :
          Except Disk.AccessFault (List Text)) = _ ↔ _
      cases hfound : names.filterM fun name => tree.isFolder (root.child name) with
      | error fault =>
          refine iff_of_false nofun ?_
          rintro ⟨other, hother, htested, -⟩
          cases hother
          rw [filterM_eq_ok_iff.2 ⟨htested, rfl⟩] at hfound
          cases hfound
      | ok found =>
          obtain ⟨htested, rfl⟩ := filterM_eq_ok_iff.1 hfound
          -- Hidden folders are left out after the test, which has been made for them too.
          have hboth : ∀ names : List Text, (names.filter fun name =>
              (tree.isFolder (root.child name)).toOption.getD false).filter
                (fun name => name.head? ≠ some '.') = names.filter fun name =>
                  (tree.isFolder (root.child name)).toOption.getD false &&
                    decide (name.head? ≠ some '.') := by
            intro names
            rw [List.filter_filter]
            exact List.filter_congr fun name _ => Bool.and_comm _ _
          constructor
          · intro h
            refine ⟨names, rfl, htested, ?_⟩
            rw [← hboth]
            exact (Except.ok.inj h).symm
          · rintro ⟨other, hother, -, rfl⟩
            cases hother
            rw [← hboth]
            rfl

/-- When all names in the root are those of visible folders, they are all found. -/
theorem subfolders_of_visible {tree : Disk.Tree} {root : Disk.Path} {names : List Text}
    (hlist : tree.list root = .ok names)
    (hfolders : ∀ name ∈ names, tree.isFolder (root.child name) = .ok true)
    (hvisible : ∀ name ∈ names, name.head? ≠ some '.') :
    subfolders tree root = .ok (names.mergeSort Text.atMost) := by
  have hall : (names.filter fun name => (tree.isFolder (root.child name)).toOption.getD false &&
      decide (name.head? ≠ some '.')) = names := by
    rw [List.filter_eq_self]
    intro name hname
    rw [hfolders name hname, decide_eq_true (hvisible name hname)]
    rfl
  exact subfolders_eq_ok_iff.2
    ⟨names, hlist, fun name hname => ⟨true, hfolders name hname⟩, by rw [hall]⟩

theorem exists_list_of_subfolders {tree : Disk.Tree} {root : Disk.Path} {folders : List Text}
    (h : subfolders tree root = .ok folders) :
    ∃ names, tree.list root = .ok names ∧ ∀ name ∈ folders, name ∈ names := by
  obtain ⟨names, hlist, -, rfl⟩ := subfolders_eq_ok_iff.1 h
  exact ⟨names, hlist, fun name hname => (List.mem_filter.1 (List.mem_mergeSort.1 hname)).1⟩

theorem sources_eq_ok_iff {tree : Disk.Tree} {folder : Disk.Path} {files : List Text} :
    sources tree folder = .ok files ↔ ∃ names, tree.list folder = .ok names ∧
      files = (names.filter ending.isSuffixOf).mergeSort Text.atMost := by
  rw [sources]
  cases tree.list folder with
  | error fault => exact iff_of_false nofun (by rintro ⟨names, hnames, -⟩; cases hnames)
  | ok names =>
      constructor
      · intro h
        exact ⟨names, rfl, (Except.ok.inj h).symm⟩
      · rintro ⟨other, hother, rfl⟩
        cases hother
        rfl

theorem exists_list_of_sources {tree : Disk.Tree} {folder : Disk.Path} {files : List Text}
    (h : sources tree folder = .ok files) :
    ∃ names, tree.list folder = .ok names ∧ ∀ file ∈ files, file ∈ names := by
  obtain ⟨names, hlist, rfl⟩ := sources_eq_ok_iff.1 h
  exact ⟨names, hlist, fun file hfile => (List.mem_filter.1 (List.mem_mergeSort.1 hfile)).1⟩

/-! ## Files of an icon -/

/-- A name without slashes that a path keeps leads to the entry of that name. -/
theorem join_ofText (name : Text) (folder : Disk.Path) (hslash : '/' ∉ name)
    (hpart : Disk.Path.isPart name) :
    folder.join (Disk.Path.ofText name) = folder.child name := by
  have hanchor : Disk.Path.anchorOf name = .here := by
    unfold Disk.Path.anchorOf
    split <;> simp_all
  have hpath : Disk.Path.ofText name = ⟨.here, [name]⟩ := by
    rw [Disk.Path.ofText, hanchor, Text.fields_of_not_mem hslash]
    simp [hpart]
  rw [hpath]
  rfl

/-- The text of the file that the folder of a weight holds for an icon: the one with the
suffix of the weight or, failing that, the one without. -/
def source? (tree : Disk.Tree) (folder : Disk.Path) (weight : Weight) (slug : Text) :
    Option Text :=
  ((bytesAt? tree (folder.child (slug ++ weight.fileSuffix ++ ending))).or
    (bytesAt? tree (folder.child (slug ++ ending)))).map Text.Utf8.decode

/-- The paths of the candidates of an icon are those of entries of the folder. -/
theorem map_candidates (folder : Disk.Path) (weight : Weight) {slug : Text} (hslug : '/' ∉ slug) :
    ((candidates weight slug).map fun name => folder.join (Disk.Path.ofText name)) =
      [folder.child (slug ++ weight.fileSuffix ++ ending), folder.child (slug ++ ending)] := by
  have hsuffix : '/' ∉ weight.fileSuffix := by cases weight <;> decide
  have hending : '/' ∉ ending := by decide
  have hpart : ∀ t : Text, Disk.Path.isPart (t ++ ending) := by
    intro t
    cases t with
    | nil => decide
    | cons c t => simp [Disk.Path.isPart, ending]
  have hfirst := join_ofText (slug ++ weight.fileSuffix ++ ending) folder
    (by simp [hslug, hsuffix, hending]) (hpart _)
  have hsecond := join_ofText (slug ++ ending) folder (by simp [hslug, hending])
    (hpart _)
  rw [candidates, List.map_cons, List.map_cons, hfirst, hsecond]
  rfl

/-- The candidates of an icon are looked for in its order. -/
theorem source?_eq_findSome? (tree : Disk.Tree) (folder : Disk.Path) (weight : Weight)
    {slug : Text} (hslug : '/' ∉ slug) :
    source? tree folder weight slug =
      (((candidates weight slug).map fun name => folder.join (Disk.Path.ofText name)).findSome?
        (bytesAt? tree)).map Text.Utf8.decode := by
  rw [source?, map_candidates folder weight hslug]
  simp only [List.findSome?_cons, List.findSome?_nil]
  cases bytesAt? tree (folder.child (slug ++ weight.fileSuffix ++ ending)) with
  | some bytes => rfl
  | none => cases bytesAt? tree (folder.child (slug ++ ending)) <;> rfl

/-! ## Drawings in a table -/

/-- The drawing of an icon in a weight. -/
def drawing? (icons : IconTable) (slug : Text) (weight : Weight) : Option Text :=
  (icons.get? slug).bind fun record => record.get? weight

theorem drawing?_addDrawing (icons : IconTable) (slug : Text) (weight : Weight) (drawing : Text)
    (s : Text) (w : Weight) :
    drawing? (addDrawing icons slug weight drawing) s w =
      if s = slug ∧ w = weight then some drawing else drawing? icons s w := by
  rw [drawing?, addDrawing, Table.get?_set]
  by_cases hs : s = slug
  · subst hs
    rw [if_pos rfl, Option.bind_some, Table.get?_set]
    by_cases hw : w = weight
    · simp [hw]
    · rw [if_neg hw, if_neg (by simp [hw]), drawing?]
      cases icons.get? s <;> rfl
  · rw [if_neg hs, if_neg (by simp [hs])]
    rfl

/-- Looking an entry up in the folder of a weight adds the drawing that is held there. -/
theorem drawing?_loadEntry {tree : Disk.Tree} {folder : Disk.Path} {weight : Weight}
    {icons after : IconTable} {entry : Entry} (hslug : '/' ∉ entry.slug)
    (h : (loadEntry tree folder weight icons entry).result = .ok after) (s : Text) (w : Weight) :
    drawing? after s w =
      if s = entry.slug ∧ w = weight then
        (source? tree folder weight s).or (drawing? icons s w)
      else drawing? icons s w := by
  obtain ⟨found, hfound, hrest⟩ := Outcome.exists_of_bind_eq_ok h
  obtain ⟨hbytes, -⟩ := bytesAt?_firstFile (eq_ok_of_accessing hfound)
  have hsource := source?_eq_findSome? tree folder weight hslug
  rw [← hbytes] at hsource
  -- Either no file is found and the drawing stays as it was, or the first one is read.
  cases found with
  | none =>
      obtain ⟨-, -, hafter⟩ := Outcome.exists_of_bind_eq_ok hrest
      cases hafter
      by_cases hs : s = entry.slug ∧ w = weight
      · obtain ⟨rfl, rfl⟩ := hs
        rw [if_pos ⟨rfl, rfl⟩, hsource]
        rfl
      · rw [if_neg hs]
  | some path =>
      obtain ⟨text, htext, hafter⟩ := Outcome.exists_of_bind_eq_ok hrest
      cases hafter
      rw [drawing?_addDrawing]
      by_cases hs : s = entry.slug ∧ w = weight
      · obtain ⟨rfl, rfl⟩ := hs
        rw [if_pos ⟨rfl, rfl⟩, if_pos ⟨rfl, rfl⟩, hsource, Option.bind_some,
          eq_of_readSource htext]
        rfl
      · rw [if_neg hs, if_neg hs]

/-- The drawings that the folder of a weight holds for some entries are added. -/
theorem drawing?_foldlM_loadEntry {tree : Disk.Tree} {folder : Disk.Path} {weight : Weight}
    {entries : List Entry} {icons after : IconTable} (hslugs : ∀ e ∈ entries, '/' ∉ e.slug)
    (h : (entries.foldlM (loadEntry tree folder weight) icons).result = .ok after)
    (s : Text) (w : Weight) :
    drawing? after s w =
      if s ∈ entries.map Entry.slug ∧ w = weight then
        (source? tree folder weight s).or (drawing? icons s w)
      else drawing? icons s w := by
  induction entries generalizing icons with
  | nil =>
      cases h
      rw [if_neg (by simp)]
  | cons entry entries ih =>
      rw [List.foldlM_cons] at h
      obtain ⟨middle, hmiddle, hrest⟩ := Outcome.exists_of_bind_eq_ok h
      have hfirst := drawing?_loadEntry (hslugs entry List.mem_cons_self) hmiddle s w
      rw [ih (fun e he => hslugs e (List.mem_cons_of_mem entry he)) hrest, hfirst]
      simp only [List.map_cons, List.mem_cons]
      by_cases hw : w = weight
      · simp only [hw, and_true]
        by_cases hs : s = entry.slug
        · rw [if_pos hs, if_pos (Or.inl hs)]
          by_cases hmem : s ∈ entries.map Entry.slug
          · rw [if_pos hmem, ← Option.or_assoc, Option.or_self]
          · rw [if_neg hmem]
        · rw [if_neg hs]
          by_cases hmem : s ∈ entries.map Entry.slug
          · rw [if_pos hmem, if_pos (Or.inr hmem)]
          · rw [if_neg hmem, if_neg (not_or.2 ⟨hs, hmem⟩)]
      · simp [hw]

/-! ## All folders -/

/-- The folder that is named after a weight. -/
def folderOf? (folders : List Text) (weight : Weight) : Option Text :=
  folders.find? fun name => Weight.ofName? name = some weight

/-- The drawing that the folders hold for an icon in a weight. -/
def held? (tree : Disk.Tree) (root : Disk.Path) (folders : List Text) (slug : Text)
    (weight : Weight) : Option Text :=
  (folderOf? folders weight).bind fun name => source? tree (root.child name) weight slug

/-- A folder whose name is the only one for its weight is the folder of the weight. -/
theorem held?_cons {tree : Disk.Tree} {root : Disk.Path} {name : Text} {folders : List Text}
    {weight : Weight} (hweight : Weight.ofName? name = some weight) (slug : Text) (w : Weight) :
    held? tree root (name :: folders) slug w =
      if w = weight then source? tree (root.child name) weight slug
      else held? tree root folders slug w := by
  by_cases hw : w = weight
  · subst hw
    simp [held?, folderOf?, hweight]
  · have hne : ¬ weight = w := fun heq => hw heq.symm
    simp [held?, folderOf?, hweight, hw, hne]

/-- Going through the folders of different weights adds the drawings that they hold. -/
theorem drawing?_foldlM_loadWeightFolder {tree : Disk.Tree} {root : Disk.Path}
    {entries : List Entry} {folders : List Text} {icons after : IconTable}
    (hslugs : ∀ e ∈ entries, '/' ∉ e.slug) (hnamed : ∀ name ∈ folders, (Weight.ofName? name).isSome)
    (hdistinct : (folders.filterMap Weight.ofName?).Nodup)
    (h : (folders.foldlM (loadWeightFolder tree root (some entries)) icons).result = .ok after)
    {s : Text} (hs : s ∈ entries.map Entry.slug) (w : Weight) :
    drawing? after s w = (held? tree root folders s w).or (drawing? icons s w) := by
  induction folders generalizing icons with
  | nil =>
      cases h
      rfl
  | cons name folders ih =>
      rw [List.foldlM_cons] at h
      obtain ⟨middle, hmiddle, hrest⟩ := Outcome.exists_of_bind_eq_ok h
      obtain ⟨weight, hweight⟩ := Option.isSome_iff_exists.1 (hnamed name List.mem_cons_self)
      rw [List.filterMap_cons_some hweight, List.nodup_cons] at hdistinct
      have hfirst : drawing? middle s w =
          if s ∈ entries.map Entry.slug ∧ w = weight then
            (source? tree (root.child name) weight s).or (drawing? icons s w)
          else drawing? icons s w := by
        rw [loadWeightFolder, hweight] at hmiddle
        exact drawing?_foldlM_loadEntry hslugs hmiddle s w
      rw [ih (fun other hother => hnamed other (List.mem_cons_of_mem name hother)) hdistinct.2
        hrest, hfirst, held?_cons hweight]
      by_cases hw : w = weight
      · subst hw
        have hnone : held? tree root folders s w = none := by
          have hfolder : folderOf? folders w = none := by
            rw [folderOf?, List.find?_eq_none]
            intro other hother heq
            exact hdistinct.1 (List.mem_filterMap.2 ⟨other, hother, of_decide_eq_true heq⟩)
          rw [held?, hfolder]
          rfl
        rw [hnone, if_pos ⟨hs, rfl⟩, if_pos rfl, Option.none_or]
      · rw [if_neg (by simp [hw]), if_neg hw]

/-! ## The weight layout -/

/-- Folders of a tree that are each named after a weight of its own. -/
structure AreWeightFolders (tree : Disk.Tree) (root : Disk.Path) (folders : List Text) : Prop where
  listed : subfolders tree root = .ok folders
  named : ∀ name ∈ folders, (Weight.ofName? name).isSome
  distinct : (folders.filterMap Weight.ofName?).Nodup

theorem drawing?_foldl_set_empty (slugs : List Text) (icons : IconTable) (s : Text) (w : Weight)
    (h : drawing? icons s w = none) :
    drawing? ((slugs.map fun slug => (slug, (Table.empty : Record))).foldl
      (fun icons row => icons.set row.1 row.2) icons) s w = none := by
  induction slugs generalizing icons with
  | nil => exact h
  | cons slug slugs ih =>
      refine ih _ ?_
      rw [drawing?, Table.get?_set]
      by_cases hs : s = slug
      · rw [if_pos hs]
        rfl
      · rw [if_neg hs]
        exact h

/-- Loading the weight layout for a catalog gives every entry the drawings that the folders
hold. -/
theorem drawing?_loadByWeight {tree : Disk.Tree} {root : Disk.Path} {entries : List Entry}
    {folders : List Text} {icons : IconTable} (hfolders : AreWeightFolders tree root folders)
    (hslugs : ∀ e ∈ entries, '/' ∉ e.slug)
    (h : (loadByWeight tree root (some entries)).result = .ok icons) {s : Text}
    (hs : s ∈ entries.map Entry.slug) (w : Weight) :
    drawing? icons s w = held? tree root folders s w := by
  obtain ⟨found, hfound, hrest⟩ := Outcome.exists_of_bind_eq_ok h
  have hlisted := eq_ok_of_accessing hfound
  rw [hfolders.listed] at hlisted
  obtain rfl : folders = found := Except.ok.inj hlisted
  obtain ⟨after, hafter, hicons⟩ := Outcome.exists_of_bind_eq_ok hrest
  obtain rfl : after = icons := Except.ok.inj hicons
  have hstart := drawing?_foldl_set_empty (entries.map Entry.slug) Table.empty s w rfl
  have hloaded := drawing?_foldlM_loadWeightFolder hslugs hfolders.named hfolders.distinct
    hafter hs w
  have hmap : ((some entries).getD []).map (fun entry => (entry.slug, (Table.empty : Record))) =
      (entries.map Entry.slug).map fun slug => (slug, Table.empty) := by
    simp
  rw [hloaded, Table.ofList, hmap, hstart, Option.or_none]

/-! ## The layout that is found -/

/-- A tree of weight folders is loaded by weight unless it has no folders at all. -/
theorem detectLayout_of_areWeightFolders {tree : Disk.Tree} {root : Disk.Path}
    {folders : List Text} (hfolders : AreWeightFolders tree root folders) :
    detectLayout tree root = .ok (if folders = [] then .byIcon else .byWeight) := by
  have hdetect : detectLayout tree root =
      .ok (if folders.any fun name => (Weight.ofName? name).isSome then .byWeight
        else .byIcon) := by
    rw [detectLayout, hfolders.listed]
    rfl
  rw [hdetect]
  cases folders with
  | nil => rfl
  | cons name folders =>
      have hnamed := hfolders.named name List.mem_cons_self
      rw [List.any_cons, hnamed]
      rfl

/-- Without folders nothing is loaded in the icon layout. -/
theorem eq_empty_of_loadByIcon {tree : Disk.Tree} {root : Disk.Path} {icons : IconTable}
    (hlisted : subfolders tree root = .ok [])
    (h : (loadByIcon tree root).result = .ok icons) : icons = Table.empty := by
  rw [loadByIcon, hlisted] at h
  cases h
  rfl

/-- Loading a tree of weight folders for a catalog, as a weight layout or as what it is found
to be, gives every entry the drawings that the folders hold. -/
theorem drawing?_load {tree : Disk.Tree} {root : Text} {entries : List Entry}
    {folders : List Text} {choice : LayoutChoice} {icons : IconTable}
    (hfolders : AreWeightFolders tree (Disk.Path.ofText root) folders)
    (hslugs : ∀ e ∈ entries, '/' ∉ e.slug)
    (hchoice : choice = .auto ∨ choice = .always .byWeight)
    (h : (load tree root (some entries) choice).result = .ok icons) {s : Text}
    (hs : s ∈ entries.map Entry.slug) (w : Weight) :
    drawing? icons s w = held? tree (Disk.Path.ofText root) folders s w := by
  rcases hchoice with rfl | rfl
  · obtain ⟨layout, hlayout, hrest⟩ := Outcome.exists_of_bind_eq_ok h
    obtain ⟨-, -, hload⟩ := Outcome.exists_of_bind_eq_ok hrest
    have hdetected := eq_ok_of_accessing hlayout
    rw [detectLayout_of_areWeightFolders hfolders] at hdetected
    obtain rfl := Except.ok.inj hdetected
    by_cases hnone : folders = []
    · subst hnone
      rw [eq_empty_of_loadByIcon hfolders.listed hload]
      rfl
    · rw [if_neg hnone] at hload
      exact drawing?_loadByWeight hfolders hslugs hload hs w
  · obtain ⟨layout, hlayout, hrest⟩ := Outcome.exists_of_bind_eq_ok h
    obtain rfl : .byWeight = layout := Except.ok.inj hlayout
    obtain ⟨-, -, hload⟩ := Outcome.exists_of_bind_eq_ok hrest
    exact drawing?_loadByWeight hfolders hslugs hload hs w

end Iconsmith.Assets
