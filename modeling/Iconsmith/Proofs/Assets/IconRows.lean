import Iconsmith.Proofs.Assets.Roots
import Mathlib.Algebra.BigOperators.Group.List.Basic
import Mathlib.Algebra.GroupWithZero.Nat

set_option autoImplicit false

/-!
# Rows of the icon layout

Loading the icon layout goes through the source files of each folder and keeps, for each weight,
the text of the last file that has it; a file whose weight an earlier file has had is noted. One
invariant says both (`foldlM_loadVariant`), and every file is either noted or brings a weight that
is new (`length_repeatsAfter_add_size`). So nothing is lost that is not noted
(`loadByIcon_of_isAssetRoot`), unless a path is too long for the system; then nothing is loaded
(`not_forall_loadByIcon_eq_ok`).
-/

namespace Iconsmith.Assets

open Disk Disk.Tree

/-! ## Files of one weight -/

/-- The files whose weight a file before them has, after some earlier ones. -/
def repeatsAfter (earlier : List Text) : List Text → List Text
  | [] => []
  | file :: more =>
      (if ∃ other ∈ earlier, weightOfFile other = weightOfFile file then [file] else []) ++
        repeatsAfter (earlier ++ [file]) more

/-- The files of a folder whose weight an earlier one has. -/
def repeats (files : List Text) : List Text := repeatsAfter [] files

/-- The record of some files, each of which brings its text for its weight. -/
def recordOf (text : Text → Text) (files : List Text) : Record :=
  Table.ofList (files.map fun file => (weightOfFile file, text file))

/-- A record with a text for each weight that some files have: that of the last file that has
it. -/
structure HoldsLast (record : Record) (files : List Text) (text? : Text → Option Text) : Prop where
  present : ∀ w, (record.get? w).isSome ↔ ∃ file ∈ files, weightOfFile file = w
  last : ∀ earlier file later, files = earlier ++ file :: later →
    (∀ other ∈ later, weightOfFile other ≠ weightOfFile file) →
      record.get? (weightOfFile file) = text? file

section Files

variable (text : Text → Text) (earlier files : List Text) (file : Text)

theorem recordOf_append_singleton :
    recordOf text (earlier ++ [file]) =
      (recordOf text earlier).set (weightOfFile file) (text file) := by
  rw [recordOf, recordOf, Table.ofList, Table.ofList, List.map_append, List.foldl_append]
  rfl

theorem mem_keys_recordOf {w : Weight} :
    w ∈ (recordOf text files).keys ↔ ∃ file ∈ files, weightOfFile file = w := by
  rw [recordOf, Table.mem_keys_ofList, List.map_map, List.mem_map]
  rfl

theorem holdsLast_recordOf :
    HoldsLast (recordOf text files) files fun file => some (text file) where
  present := fun w => by rw [Table.isSome_get?_iff, mem_keys_recordOf]
  last := by
    rintro earlier file later rfl hlast
    rw [recordOf, List.map_append, List.map_cons]
    refine Table.get?_ofList_of_last fun hmem => ?_
    rw [List.map_map] at hmem
    obtain ⟨other, hother, hweight⟩ := List.mem_map.1 hmem
    exact hlast other hother hweight

/-- Every file repeats a weight or brings one that is new. -/
theorem length_repeatsAfter_add_size :
    (repeatsAfter earlier files).length + (recordOf text (earlier ++ files)).size =
      files.length + (recordOf text earlier).size := by
  induction files generalizing earlier with
  | nil => rw [repeatsAfter, List.append_nil]
  | cons file more ih =>
      have hrest := ih (earlier ++ [file])
      have hkeys : ∀ record : Record, record.size = record.keys.length := fun record =>
        (List.length_map _).symm
      rw [List.append_assoc, List.singleton_append, recordOf_append_singleton, hkeys (Table.set ..),
        Table.keys_set] at hrest
      rw [repeatsAfter, List.length_append, List.length_cons, hkeys (recordOf text earlier)]
      by_cases hseen : ∃ other ∈ earlier, weightOfFile other = weightOfFile file
      · rw [if_pos ((mem_keys_recordOf text earlier).2 hseen)] at hrest
        rw [if_pos hseen, List.length_singleton]
        omega
      · rw [if_neg fun hmem => hseen ((mem_keys_recordOf text earlier).1 hmem),
          List.length_append, List.length_singleton] at hrest
        rw [if_neg hseen, List.length_nil]
        omega

end Files

/-- A file repeats a weight exactly if a file before it has the same. -/
theorem mem_repeatsAfter {earlier files : List Text} {file : Text} :
    file ∈ repeatsAfter earlier files ↔ ∃ before after, files = before ++ file :: after ∧
      ∃ other ∈ earlier ++ before, weightOfFile other = weightOfFile file := by
  -- On the files; those that were passed count as earlier for the rest.
  induction files generalizing earlier with
  | nil => simp [repeatsAfter]
  | cons first more ih =>
      rw [repeatsAfter, List.mem_append, ih]
      constructor
      · rintro (hfirst | ⟨before, after, rfl, hother⟩)
        · split at hfirst
          · rename_i hseen
            rw [List.mem_singleton.1 hfirst]
            exact ⟨[], more, rfl, by rwa [List.append_nil]⟩
          · cases hfirst
        · rw [List.append_assoc, List.singleton_append] at hother
          exact ⟨first :: before, after, rfl, hother⟩
      · rintro ⟨before, after, hsplit, hother⟩
        cases before with
        | nil =>
            obtain ⟨rfl, rfl⟩ := List.cons.inj hsplit
            rw [List.append_nil] at hother
            rw [if_pos hother]
            exact Or.inl (List.mem_singleton_self _)
        | cons head before =>
            obtain ⟨rfl, rfl⟩ := List.cons.inj hsplit
            refine Or.inr ⟨before, after, rfl, ?_⟩
            rwa [List.append_assoc, List.singleton_append]

/-! ## Loading a folder -/

/-- Notes on files whose weight an earlier file has. -/
def Note.isRepeated : Note → Bool
  | .repeated _ _ _ => true
  | _ => false

/-- Reading the bytes of a file notes no weight. -/
theorem isRepeated_of_mem_textOf {path : Text} {bytes : List UInt8} {note : Note}
    (h : note ∈ (textOf path bytes).1) : note.isRepeated = false := by
  rw [textOf] at h
  split at h
  · rw [List.mem_singleton.1 h]
    rfl
  · cases h

/-- The note on a file of a folder whose weight an earlier one has. -/
def repeatedIn (folder file : Text) : Note := .repeated (weightOfFile file) folder file

/-- Reading one file puts its text into the record and notes it if its weight is there. -/
theorem loadVariant_of_readSource {tree : Tree} {folder : Path} {text : Text → Text}
    (earlier : List Text) {file : Text} {notes : List Note}
    (hnotes : ∀ note ∈ notes, note.isRepeated = false)
    (hread : readSource tree (folder.child file) = ⟨notes, .ok (text file)⟩) :
    (loadVariant tree folder (recordOf text earlier) file).result =
        .ok (recordOf text (earlier ++ [file])) ∧
      (loadVariant tree folder (recordOf text earlier) file).events.filter Note.isRepeated =
        if ∃ other ∈ earlier, weightOfFile other = weightOfFile file
          then [repeatedIn folder.name file] else [] := by
  have hother : notes.filter Note.isRepeated = [] :=
    List.filter_eq_nil_iff.2 fun note hnote => by simp [hnotes note hnote]
  have hseen : ((recordOf text earlier).get? (weightOfFile file)).isSome ↔
      ∃ other ∈ earlier, weightOfFile other = weightOfFile file :=
    (holdsLast_recordOf text earlier).present _
  rw [loadVariant, hread, recordOf_append_singleton]
  by_cases hany : ∃ other ∈ earlier, weightOfFile other = weightOfFile file
  · rw [if_pos (hseen.2 hany), if_pos hany]
    refine ⟨rfl, ?_⟩
    change List.filter _ ([repeatedIn folder.name file] ++ (notes ++ [])) = _
    rw [List.append_nil, List.filter_append, hother]
    rfl
  · rw [if_neg fun hsome => hany (hseen.1 hsome), if_neg hany]
    refine ⟨rfl, ?_⟩
    change List.filter _ ([] ++ (notes ++ [])) = _
    rw [List.append_nil, List.nil_append, hother]

/-- Reading files after some earlier ones gives the record of all of them, with a note on each
whose weight is that of one before it. -/
theorem foldlM_loadVariant {tree : Tree} {folder : Path} {text : Text → Text} {files : List Text}
    (hread : ∀ file ∈ files, ∃ notes, (∀ note ∈ notes, note.isRepeated = false) ∧
      readSource tree (folder.child file) = ⟨notes, .ok (text file)⟩) (earlier : List Text) :
    (files.foldlM (loadVariant tree folder) (recordOf text earlier)).result =
        .ok (recordOf text (earlier ++ files)) ∧
      (files.foldlM (loadVariant tree folder) (recordOf text earlier)).events.filter
        Note.isRepeated = (repeatsAfter earlier files).map (repeatedIn folder.name) := by
  -- The invariant is that the record is that of the files so far.
  induction files generalizing earlier with
  | nil =>
      rw [List.append_nil]
      exact ⟨rfl, rfl⟩
  | cons file more ih =>
      obtain ⟨⟨notes, hnotes, hfile⟩, hmore⟩ := List.forall_mem_cons.1 hread
      obtain ⟨hresult, hevents⟩ := loadVariant_of_readSource earlier hnotes hfile
      obtain ⟨hrest, hleft⟩ := ih hmore (earlier ++ [file])
      rw [List.foldlM_cons, Outcome.result_bind_of_ok _ hresult,
        Outcome.events_bind_of_ok _ hresult, hrest, List.filter_append, hevents, hleft,
        repeatsAfter, List.map_append, List.append_assoc, List.singleton_append]
      refine ⟨rfl, congrArg (· ++ _) ?_⟩
      split <;> rfl

/-- The record of the files that stand in a folder below a place. -/
def recordAt (tree : Tree) (place : Place) (name : Text) : Record :=
  recordOf (fun file => (textAtPlace? tree (place ++ [name, file])).getD [])
    (sourceNames tree (place ++ [name]))

section Root

variable {tree : Tree} {root : Path} {place : Place} {name : Text}

/-- What a record holds is read off the files. -/
theorem IsAssetRoot.holdsLast_recordAt (h : IsAssetRoot tree root place)
    (hname : name ∈ visibleFolders tree place) :
    HoldsLast (recordAt tree place name) (sourceNames tree (place ++ [name]))
      fun file => textAtPlace? tree (place ++ [name, file]) := by
  obtain ⟨hpresent, hlast⟩ := holdsLast_recordOf
    (fun file => (textAtPlace? tree (place ++ [name, file])).getD [])
    (sourceNames tree (place ++ [name]))
  refine ⟨hpresent, fun earlier file later hsplit hother => ?_⟩
  have hfile : file ∈ sourceNames tree (place ++ [name]) := by
    rw [hsplit]
    exact List.mem_append_right _ List.mem_cons_self
  obtain ⟨bytes, hbytes⟩ := Option.isSome_iff_exists.1 (h.files name hname file hfile)
  have hget := hlast earlier file later hsplit hother
  rw [textAtPlace?, hbytes] at hget ⊢
  exact hget

variable (h : IsAssetRoot tree root place) (hname : name ∈ visibleFolders tree place)
  (hshort : (root.child name).IsShort)

include h hname hshort

/-- A folder whose files have short paths is loaded whole. -/
theorem IsAssetRoot.loadIconFolder_of_short (hfiles : HasShortFiles tree root place name)
    (icons : IconTable) :
    (loadIconFolder tree root icons name).result =
        .ok (icons.set name (recordAt tree place name)) ∧
      (loadIconFolder tree root icons name).events.filter Note.isRepeated =
        (repeats (sourceNames tree (place ++ [name]))).map (repeatedIn name) := by
  have hread : ∀ file ∈ sourceNames tree (place ++ [name]),
      ∃ notes, (∀ note ∈ notes, note.isRepeated = false) ∧
        readSource tree ((root.child name).child file) =
          ⟨notes, .ok ((textAtPlace? tree (place ++ [name, file])).getD [])⟩ := by
    intro file hfile
    obtain ⟨bytes, hbytes, hread⟩ :=
      h.readSource_of_short hname hshort hfile (hfiles file hfile)
    refine ⟨(textOf ((root.child name).child file).text bytes).1,
      fun note hnote => isRepeated_of_mem_textOf hnote, ?_⟩
    rw [hread, textAtPlace?, hbytes]
    rfl
  obtain ⟨hrecord, hevents⟩ := foldlM_loadVariant hread []
  have hstart : recordOf (fun file => (textAtPlace? tree (place ++ [name, file])).getD []) [] =
      Table.empty := rfl
  rw [hstart] at hrecord hevents
  have hfound : (accessing (sources tree (root.child name))).result =
      .ok (sourceNames tree (place ++ [name])) := by
    rw [h.sources_eq hname hshort]
    rfl
  have hsilent : (accessing (sources tree (root.child name))).events = [] := rfl
  rw [loadIconFolder, Outcome.result_bind_of_ok _ hfound, Outcome.events_bind_of_ok _ hfound,
    Outcome.result_bind_of_ok _ hrecord, Outcome.events_bind_of_ok _ hrecord, hsilent]
  refine ⟨rfl, ?_⟩
  change List.filter _ ([] ++ (_ ++ [])) = _
  rw [List.append_nil, List.nil_append, hevents, Path.name_child]
  rfl

/-- Nothing but a path that is too long stops the loading of a folder. -/
theorem IsAssetRoot.onlyFails_loadIconFolder (icons : IconTable) :
    (loadIconFolder tree root icons name).OnlyFails IsTooLong := by
  rw [loadIconFolder, h.sources_eq hname hshort]
  refine Outcome.OnlyFails.bind (Outcome.onlyFails_pure _) fun files hfiles => ?_
  cases hfiles
  refine (Outcome.onlyFails_foldlM _ fun record file hfile => ?_).bind
    fun record _ => Outcome.onlyFails_pure _
  have hread : (readSource tree ((root.child name).child file) >>= fun text =>
      pure (record.set (weightOfFile file) text)).OnlyFails IsTooLong :=
    (h.onlyFails_readSource hname hshort hfile).bind fun text _ => Outcome.onlyFails_pure _
  rw [loadVariant]
  split
  · exact (Outcome.onlyFails_report _).bind fun _ _ => hread
  · exact hread

/-- A folder is loaded exactly if the paths to its files are short. -/
theorem IsAssetRoot.exists_loadIconFolder_iff (icons : IconTable) :
    (∃ after, (loadIconFolder tree root icons name).result = .ok after) ↔
      HasShortFiles tree root place name := by
  constructor
  · rintro ⟨after, hafter⟩ file hfile
    obtain ⟨files, hfiles, hrest⟩ := Outcome.exists_of_bind_eq_ok hafter
    cases (h.sources_eq hname hshort).symm.trans (eq_ok_of_accessing hfiles)
    obtain ⟨record, hrecord, -⟩ := Outcome.exists_of_bind_eq_ok hrest
    obtain ⟨before, middle, hmiddle⟩ := Outcome.exists_of_foldlM hrecord file hfile
    by_contra hlong
    rw [loadVariant, h.readSource_of_long hname hshort hfile hlong] at hmiddle
    split at hmiddle <;> cases hmiddle
  · exact fun hfiles => ⟨_, (h.loadIconFolder_of_short hname hshort hfiles icons).1⟩

end Root

/-! ## Loading the layout -/

section Layout

variable {tree : Tree} {root : Path} {place : Place}

/-- The layout is loaded exactly if the system takes the paths to all entries of the root and to
the source files in its visible folders. -/
theorem IsAssetRoot.exists_loadByIcon_iff (h : IsAssetRoot tree root place) :
    (∃ icons, (loadByIcon tree root).result = .ok icons) ↔
      HasShortEntries tree root place ∧
        ∀ name ∈ visibleFolders tree place, HasShortFiles tree root place name := by
  have hfolders : HasShortEntries tree root place → ∀ name ∈ visibleFolders tree place,
      ∀ icons, (∃ after, (loadIconFolder tree root icons name).result = .ok after) ↔
        HasShortFiles tree root place name := fun hshort name hname =>
    h.exists_loadIconFolder_iff hname (hshort name (mem_visibleFolders.1 hname).1)
  constructor
  · rintro ⟨icons, hicons⟩
    obtain ⟨folders, hfound, hrest⟩ := Outcome.exists_of_bind_eq_ok hicons
    obtain ⟨hshort, rfl⟩ := h.subfolders_eq_ok_iff.1 (eq_ok_of_accessing hfound)
    exact ⟨hshort, (Outcome.exists_foldlM_iff (hfolders hshort) _).1 ⟨icons, hrest⟩⟩
  · rintro ⟨hshort, hfiles⟩
    obtain ⟨icons, hicons⟩ := (Outcome.exists_foldlM_iff (hfolders hshort) Table.empty).2 hfiles
    refine ⟨icons, ?_⟩
    rw [loadByIcon, h.subfolders_of_short hshort]
    exact hicons

theorem IsAssetRoot.onlyFails_loadByIcon (h : IsAssetRoot tree root place) :
    (loadByIcon tree root).OnlyFails IsTooLong := by
  rw [loadByIcon]
  refine h.onlyFails_subfolders.bind fun folders hfolders => ?_
  obtain ⟨hshort, rfl⟩ := h.subfolders_eq_ok_iff.1 (eq_ok_of_accessing hfolders)
  exact Outcome.onlyFails_foldlM _ fun icons name hname =>
    h.onlyFails_loadIconFolder hname (hshort name (mem_visibleFolders.1 hname).1) icons

/-- What is loaded has a row for each visible folder, in order, and what is noted of repeated
weights are the files that repeat them. -/
theorem IsAssetRoot.rows_loadByIcon (h : IsAssetRoot tree root place) {icons : IconTable}
    (hicons : (loadByIcon tree root).result = .ok icons) :
    icons.rows = (visibleFolders tree place).map (fun name => (name, recordAt tree place name)) ∧
      (loadByIcon tree root).events.filter Note.isRepeated =
        (visibleFolders tree place).flatMap fun name =>
          (repeats (sourceNames tree (place ++ [name]))).map (repeatedIn name) := by
  obtain ⟨hshort, hfiles⟩ := h.exists_loadByIcon_iff.1 ⟨icons, hicons⟩
  have hstep : ∀ name ∈ visibleFolders tree place, ∀ icons : IconTable,
      (loadIconFolder tree root icons name).result =
          .ok (icons.set name (recordAt tree place name)) ∧
        (loadIconFolder tree root icons name).events.filter Note.isRepeated =
          (repeats (sourceNames tree (place ++ [name]))).map (repeatedIn name) :=
    fun name hname => h.loadIconFolder_of_short hname
      (hshort name (mem_visibleFolders.1 hname).1) (hfiles name hname)
  -- Folders have names of their own, so no row is written over.
  have hload : loadByIcon tree root =
      (visibleFolders tree place).foldlM (loadIconFolder tree root) Table.empty := by
    rw [loadByIcon, h.subfolders_of_short hshort]
    rfl
  rw [hload] at hicons ⊢
  refine ⟨?_, Outcome.filter_events_foldlM hstep Table.empty⟩
  have hresult := Outcome.result_foldlM (fun name hname icons => (hstep name hname icons).1)
    Table.empty
  have htable : icons = Table.ofList ((visibleFolders tree place).map fun name =>
      (name, recordAt tree place name)) := by
    rw [Table.ofList, List.foldl_map]
    exact Except.ok.inj (hicons.symm.trans hresult)
  have hnames : ((visibleFolders tree place).map fun name =>
      (name, recordAt tree place name)).map Prod.fst = visibleFolders tree place := by
    rw [List.map_map]
    exact List.map_id _
  have hnodup := nodup_visibleFolders tree place
  rw [← hnames] at hnodup
  rw [htable, Table.rows_ofList hnodup]

/-- The files that are noted are those whose weight an earlier file of the folder has. -/
theorem IsAssetRoot.repeated_mem_events_iff (h : IsAssetRoot tree root place) {icons : IconTable}
    (hicons : (loadByIcon tree root).result = .ok icons) {w : Weight} {name file : Text} :
    Note.repeated w name file ∈ (loadByIcon tree root).events ↔
      name ∈ visibleFolders tree place ∧ w = weightOfFile file ∧
        ∃ earlier later, sourceNames tree (place ++ [name]) = earlier ++ file :: later ∧
          ∃ other ∈ earlier, weightOfFile other = weightOfFile file := by
  obtain ⟨-, hnotes⟩ := h.rows_loadByIcon hicons
  have hkind : Note.repeated w name file ∈ (loadByIcon tree root).events ↔
      Note.repeated w name file ∈ (loadByIcon tree root).events.filter Note.isRepeated := by
    rw [List.mem_filter]
    exact (and_iff_left rfl).symm
  rw [hkind, hnotes, List.mem_flatMap]
  constructor
  · rintro ⟨folder, hfolder, hnote⟩
    obtain ⟨noted, hnoted, heq⟩ := List.mem_map.1 hnote
    obtain ⟨rfl, rfl, rfl⟩ := Note.repeated.inj heq
    exact ⟨hfolder, rfl, mem_repeatsAfter.1 hnoted⟩
  · rintro ⟨hname, rfl, hrepeats⟩
    exact ⟨name, hname, List.mem_map.2 ⟨file, mem_repeatsAfter.2 hrepeats, rfl⟩⟩

/-- The icon layout is loaded exactly if the system takes the paths to all entries of the root and
to the source files in its visible folders; a path that is too long is all that can stop it. Then
there is one row for each visible folder, in order, with the text of the last file of each weight
that some file of the folder has. A file is noted if its weight is that of an earlier file of the
folder, and once if so: the files that are noted and the texts that are stored make up all source
files. -/
theorem loadByIcon_of_isAssetRoot (h : IsAssetRoot tree root place) :
    ((∃ icons, (loadByIcon tree root).result = .ok icons) ↔
      HasShortEntries tree root place ∧
        ∀ name ∈ visibleFolders tree place, HasShortFiles tree root place name) ∧
    (loadByIcon tree root).OnlyFails IsTooLong ∧
    ∀ icons, (loadByIcon tree root).result = .ok icons →
      icons.keys = visibleFolders tree place ∧
      (∀ name ∈ visibleFolders tree place, ∃ record, icons.get? name = some record ∧
        HoldsLast record (sourceNames tree (place ++ [name]))
          fun file => textAtPlace? tree (place ++ [name, file])) ∧
      (∀ w name file, Note.repeated w name file ∈ (loadByIcon tree root).events ↔
        name ∈ visibleFolders tree place ∧ w = weightOfFile file ∧
          ∃ earlier later, sourceNames tree (place ++ [name]) = earlier ++ file :: later ∧
            ∃ other ∈ earlier, weightOfFile other = weightOfFile file) ∧
      (loadByIcon tree root).events.filter Note.isRepeated =
        ((visibleFolders tree place).flatMap fun name =>
          (repeats (sourceNames tree (place ++ [name]))).map (repeatedIn name)) ∧
      ((loadByIcon tree root).events.filter Note.isRepeated).length +
          (icons.rows.map fun row => row.2.size).sum =
        ((visibleFolders tree place).map fun name =>
          (sourceNames tree (place ++ [name])).length).sum := by
  refine ⟨h.exists_loadByIcon_iff, h.onlyFails_loadByIcon, fun icons hicons => ?_⟩
  obtain ⟨hrows, hnotes⟩ := h.rows_loadByIcon hicons
  refine ⟨?keys, ?records, fun w name file => h.repeated_mem_events_iff hicons, hnotes, ?count⟩
  case keys =>
    rw [Table.keys, hrows, List.map_map]
    exact List.map_id _
  case records =>
    intro name hname
    refine ⟨_, Table.get?_eq_some_iff.2 ?_, h.holdsLast_recordAt hname⟩
    rw [hrows]
    exact List.mem_map_of_mem hname
  case count =>
    rw [hnotes, hrows, List.length_flatMap, List.map_map, ← List.sum_map_add]
    refine congrArg List.sum (List.map_congr_left fun name _ => ?_)
    have hcount := length_repeatsAfter_add_size
      (fun file => (textAtPlace? tree (place ++ [name, file])).getD []) []
      (sourceNames tree (place ++ [name]))
    rw [List.length_map]
    exact hcount

end Layout

/-! ## A repeated weight and a long path -/

/-- A root with two folders, of which one is empty and the other holds two files of one weight,
beside a hidden folder and a file. -/
def repeatingTree : Tree :=
  ⟨⟨[(["assets".toList], .folder), (["assets".toList, "b".toList], .folder),
    (["assets".toList, "a".toList], .folder), (["assets".toList, ".c".toList], .folder),
    (["assets".toList, "x.svg".toList], .file [120]),
    (["assets".toList, "a".toList, "a.svg".toList], .file [121]),
    (["assets".toList, "a".toList, "a-Regular.svg".toList], .file [122]),
    (["assets".toList, "a".toList, "a-bold.svg".toList], .file [255])], by decide⟩⟩

theorem visibleFolders_repeatingTree :
    visibleFolders repeatingTree ["assets".toList] = ["a".toList, "b".toList] :=
  visibleFolders_eq (by decide) (by decide)

theorem sourceNames_repeatingTree :
    sourceNames repeatingTree (["assets".toList] ++ ["a".toList]) =
        ["a-Regular.svg".toList, "a-bold.svg".toList, "a.svg".toList] ∧
      sourceNames repeatingTree (["assets".toList] ++ ["b".toList]) = [] :=
  ⟨sourceNames_eq (by decide) (by decide), sourceNames_eq (by decide) (by decide)⟩

theorem isAssetRoot_repeatingTree :
    IsAssetRoot repeatingTree (Path.ofText "assets".toList) ["assets".toList] := by decide

/-- The last file of the repeated weight shows, and it is noted. -/
theorem loadByIcon_repeatingTree :
    let root := Path.ofText "assets".toList
    ∃ icons, (loadByIcon repeatingTree root).result = .ok icons ∧
      icons.keys = ["a".toList, "b".toList] ∧
      (∃ record, icons.get? "a".toList = some record ∧ record.get? .regular = some "y".toList ∧
        (record.get? .bold).isSome ∧ record.get? .thin = none) ∧
      (∃ record, icons.get? "b".toList = some record ∧ ∀ w, record.get? w = none) ∧
      (loadByIcon repeatingTree root).events.filter Note.isRepeated =
        [.repeated .regular "a".toList "a.svg".toList] ∧
      1 + (icons.rows.map fun row => row.2.size).sum = 3 := by
  intro root
  obtain ⟨hfirst, hsecond⟩ := sourceNames_repeatingTree
  obtain ⟨hfound, -, hloaded⟩ := loadByIcon_of_isAssetRoot isAssetRoot_repeatingTree
  have hfiles : ∀ name ∈ visibleFolders repeatingTree ["assets".toList],
      HasShortFiles repeatingTree root ["assets".toList] name := by
    rw [visibleFolders_repeatingTree]
    decide
  obtain ⟨icons, hicons⟩ := hfound.2 ⟨by decide, hfiles⟩
  obtain ⟨hkeys, hrecords, -, hnotes, hcount⟩ := hloaded icons hicons
  rw [visibleFolders_repeatingTree] at hkeys hrecords hnotes hcount
  obtain ⟨record, hrecord, hpresent, hlast⟩ := hrecords "a".toList List.mem_cons_self
  obtain ⟨other, hother, hnone, -⟩ := hrecords "b".toList (by decide)
  rw [hfirst] at hpresent hlast
  rw [hsecond] at hnone
  have hthree : ∀ t : Text → List Note, ["a".toList, "b".toList].flatMap t =
      t "a".toList ++ t "b".toList := fun t => by simp
  rw [hthree, hfirst, hsecond] at hnotes
  have hnoted := hnotes.trans (by decide :
    _ = [Note.repeated .regular "a".toList "a.svg".toList])
  rw [hnoted, List.map_cons, List.map_singleton, hfirst, hsecond] at hcount
  refine ⟨icons, hicons, hkeys, ⟨record, hrecord, ?_, (hpresent .bold).2 (by decide), ?_⟩,
    ⟨other, hother, fun w => ?_⟩, hnoted, hcount⟩
  · exact (hlast ["a-Regular.svg".toList, "a-bold.svg".toList] "a.svg".toList [] rfl nofun).trans
      (by decide)
  · refine Option.isNone_iff_eq_none.1 (Option.isSome_eq_false_iff.1 ?_)
    rw [Bool.eq_false_iff]
    exact fun hsome => absurd ((hpresent .thin).1 hsome) (by decide)
  · refine Option.isNone_iff_eq_none.1 (Option.isSome_eq_false_iff.1 ?_)
    rw [Bool.eq_false_iff]
    exact fun hsome => absurd ((hnone w).1 hsome) (by simp)

/-- A root with one folder, which has a short name. -/
def leftTree : Tree :=
  ⟨⟨[([longName], .folder), ([longName, leftName], .folder)], by decide⟩⟩

theorem isAssetRoot_leftTree :
    IsAssetRoot leftTree (Path.ofText windingRoot) [longName] := by decide +kernel

theorem firstRefused?_leftTree :
    firstRefused? leftTree (Path.ofText windingRoot) = some leftName := by decide +kernel

/-- Not every root is loaded with one row for each of its visible folders: below a winding path the
system refuses to tell what its entry is. -/
theorem not_forall_loadByIcon_eq_ok : ¬ ∀ (tree : Tree) (root : Path) (place : Place),
    IsAssetRoot tree root place → ∃ icons, (loadByIcon tree root).result = .ok icons ∧
      icons.keys = visibleFolders tree place := by
  intro hall
  obtain ⟨icons, hicons, -⟩ := hall _ _ _ isAssetRoot_leftTree
  have hfault := subfolders_of_firstRefused firstRefused?_leftTree
  rw [loadByIcon, hfault] at hicons
  cases hicons

end Iconsmith.Assets
