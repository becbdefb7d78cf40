import Iconsmith.Proofs.Assets.Listing
import Iconsmith.Proofs.Disk.Framing

set_option autoImplicit false

/-!
# Other bytes in one source file

Two trees in the weight layout that differ in the bytes of one file are listed in the same way:
loading fails for both or for neither, finds the same icons, and gives them the same records, but
for one drawing of the icon of that file (`related_loadByWeight`). Two loads are followed side by
side, and `DiffersIn` is what they keep.
-/

namespace Iconsmith.Assets

/-- What a table has become that differs in one drawing of an icon: where the drawing was, there
may be another text. -/
structure DiffersIn (slug : Text) (w : Weight) (text : Text) (icons others : IconTable) : Prop where
  keys : others.keys = icons.keys
  records : ∀ s, s ≠ slug → others.get? s = icons.get? s
  drawings : ∀ v, drawing? others slug v = drawing? icons slug v ∨
    v = w ∧ (drawing? icons slug v).isSome ∧ drawing? others slug v = some text

namespace DiffersIn

variable {slug : Text} {w : Weight} {text : Text} {icons others : IconTable}

theorem refl (slug : Text) (w : Weight) (text : Text) (icons : IconTable) :
    DiffersIn slug w text icons icons :=
  ⟨rfl, fun _ _ => rfl, fun _ => Or.inl rfl⟩

theorem keys_addDrawing_congr (h : others.keys = icons.keys) (s : Text) (v v' : Weight)
    (drawing drawing' : Text) :
    (addDrawing others s v drawing).keys = (addDrawing icons s v' drawing').keys := by
  rw [addDrawing, addDrawing, Table.keys_set, Table.keys_set, h]

/-- The tables differ as before when both get the same drawing. -/
theorem addDrawing (h : DiffersIn slug w text icons others) (s : Text) (v : Weight)
    (drawing : Text) :
    DiffersIn slug w text (addDrawing icons s v drawing) (addDrawing others s v drawing) := by
  refine ⟨keys_addDrawing_congr h.keys s v v drawing drawing, fun t ht => ?_, fun u => ?_⟩
  · rw [Assets.addDrawing, Assets.addDrawing, Table.get?_set, Table.get?_set]
    by_cases hs : t = s
    · rw [if_pos hs, if_pos hs, ← hs, h.records t ht]
    · rw [if_neg hs, if_neg hs, h.records t ht]
  · rw [drawing?_addDrawing, drawing?_addDrawing]
    split
    · exact Or.inl rfl
    · exact h.drawings u

/-- The tables differ as before when the one gets the other text. -/
theorem addOther (h : DiffersIn slug w text icons others) (drawing : Text) :
    DiffersIn slug w text (Assets.addDrawing icons slug w drawing)
      (Assets.addDrawing others slug w text) := by
  refine ⟨keys_addDrawing_congr h.keys slug w w text drawing, fun t ht => ?_, fun v => ?_⟩
  · rw [Assets.addDrawing, Assets.addDrawing, Table.get?_set, Table.get?_set, if_neg ht,
      if_neg ht, h.records t ht]
  · rw [drawing?_addDrawing, drawing?_addDrawing]
    by_cases hv : v = w
    · rw [if_pos ⟨rfl, hv⟩, if_pos ⟨rfl, hv⟩]
      exact Or.inr ⟨hv, rfl, rfl⟩
    · rw [if_neg fun hboth => hv hboth.2, if_neg fun hboth => hv hboth.2]
      exact h.drawings v

theorem sortedByKey (h : DiffersIn slug w text icons others) :
    DiffersIn slug w text (icons.sortedByKey Text.atMost) (others.sortedByKey Text.atMost) := by
  refine ⟨?_, fun s hs => ?_, fun v => ?_⟩
  · rw [Table.keys_sortedByKey, Table.keys_sortedByKey, h.keys]
  · rw [Table.get?_sortedByKey, Table.get?_sortedByKey, h.records s hs]
  · rw [drawing?_sortedByKey, drawing?_sortedByKey]
    exact h.drawings v

/-- Every weight has a drawing in both tables or in neither. -/
theorem isSome_drawing? (h : DiffersIn slug w text icons others) (s : Text) (v : Weight) :
    (drawing? others s v).isSome = (drawing? icons s v).isSome := by
  by_cases hs : s = slug
  · subst hs
    rcases h.drawings v with hsame | ⟨-, hsome, htext⟩
    · rw [hsame]
    · rw [htext, hsome]
      rfl
  · rw [drawing?, drawing?, h.records s hs]

end DiffersIn

/-! ## Two loads -/

section Damage

variable {tree : Disk.Tree} {root : Disk.Path} {place : Disk.Place} {folder file : Text}
  {old : List UInt8} {w : Weight}
  (hproper : tree.IsProper) (hroot : tree.locate root = .ok place)
  (hold : tree.get? (place ++ [folder, file]) = some (.file old))
  (hweight : Weight.ofName? folder = some w) (bytes : List UInt8)

include hproper hroot in
/-- The path to a file in a folder leads to no file of another name or in another folder. -/
theorem eq_of_locate_file {name other : Text} {reached : Disk.Place}
    (hfolder : tree.isFolderAt place) (hname : name ∈ tree.names place)
    (hreached : tree.locate (root.child name) = .ok reached)
    (hisFolder : tree.isFolderAt reached) (hother : other ∈ tree.names reached)
    (h : tree.locate ((root.child name).child other) = .ok (place ++ [folder, file])) :
    name = folder ∧ other = file := by
  obtain ⟨rfl, -⟩ := Disk.Tree.eq_of_locate_child hroot hfolder (hproper.isPlainName hname) hreached
  obtain ⟨hplace, -⟩ := Disk.Tree.eq_of_locate_child hreached hisFolder
    (hproper.isPlainName hother) h
  rw [List.append_assoc, List.append_cancel_left_eq] at hplace
  obtain ⟨rfl, rfl⟩ : folder = name ∧ file = other := by simpa using hplace
  exact ⟨rfl, rfl⟩

include hold in
/-- A file is read as before, or it is the one with other bytes and is read in both trees. -/
theorem readSource_put_file (path : Disk.Path) :
    readSource (tree.put (place ++ [folder, file]) (.file bytes)) path = readSource tree path ∨
      tree.locate path = .ok (place ++ [folder, file]) ∧
        (readSource tree path).result = .ok (Text.Utf8.decode old) ∧
          (readSource (tree.put (place ++ [folder, file]) (.file bytes)) path).result =
            .ok (Text.Utf8.decode bytes) := by
  by_cases hpath : tree.locate path = .ok (place ++ [folder, file])
  · refine Or.inr ⟨hpath, congrArg Outcome.result (readSource_of_file hpath hold), ?_⟩
    have hafter := (Disk.Tree.locate_put_file hold bytes path).trans hpath
    refine congrArg Outcome.result (readSource_of_file hafter ?_)
    rw [Disk.Tree.get?_put _ (Disk.Tree.ne_nil_of_file hold), if_pos rfl]
  · refine Or.inl ?_
    rw [readSource, readSource, Disk.Tree.read_put_file hold bytes hpath]

include hold in
theorem sources_put_file (path : Disk.Path) :
    sources (tree.put (place ++ [folder, file]) (.file bytes)) path = sources tree path := by
  rw [sources, sources, Disk.Tree.list_put_file hold bytes]

include hold in
theorem subfolders_put_file (path : Disk.Path) :
    subfolders (tree.put (place ++ [folder, file]) (.file bytes)) path = subfolders tree path := by
  have hsame : (tree.put (place ++ [folder, file]) (.file bytes)).isFolder = tree.isFolder :=
    funext (Disk.Tree.isFolder_put_file hold bytes)
  rw [subfolders, subfolders, Disk.Tree.list_put_file hold bytes, hsame]

include hproper hroot hold hweight in
/-- Two folders that are loaded side by side leave tables that differ as before. -/
theorem related_loadWeightFolder {name : Text} (hfolder : tree.isFolderAt place)
    (hname : name ∈ tree.names place) {icons others : IconTable}
    (h : DiffersIn (w.stripSuffix (Disk.stem file)) w (Text.Utf8.decode bytes) icons others) :
    Outcome.Related (DiffersIn (w.stripSuffix (Disk.stem file)) w (Text.Utf8.decode bytes))
      (loadWeightFolder tree root none icons name)
      (loadWeightFolder (tree.put (place ++ [folder, file]) (.file bytes)) root none others
        name) := by
  unfold loadWeightFolder
  cases hnamed : Weight.ofName? name with
  | none => exact .failed (.badFolder name) rfl rfl
  | some v =>
      dsimp only
      rw [sources_put_file hold]
      cases hfiles : sources tree (root.child name) with
      | error fault => exact .failed (.access fault) rfl rfl
      | ok files =>
          refine Outcome.Related.foldlM (fun other hother icons others h => ?_) h
          rcases readSource_put_file hold bytes ((root.child name).child other) with
            hsame | ⟨hlocate, hbefore, hafter⟩
          · rw [loadListed, loadListed, hsame]
            refine (Outcome.Related.of_eq (R := Eq) (fun _ => rfl) rfl).bind ?_
            rintro text _ rfl
            exact .done _ _ rfl rfl (h.addDrawing _ _ text)
          · obtain ⟨names, hnames, hsub⟩ := exists_list_of_sources hfiles
            obtain ⟨reached, hreached, hisFolder, rfl⟩ := Disk.Tree.list_eq_ok_iff.1 hnames
            obtain ⟨rfl, rfl⟩ := eq_of_locate_file hproper hroot hfolder hname hreached hisFolder
              (hsub other hother) hlocate
            obtain rfl : w = v := Option.some.inj (hweight.symm.trans hnamed)
            exact .done _ _ (Outcome.result_bind_of_ok _ hbefore)
              (Outcome.result_bind_of_ok _ hafter) (h.addOther _)

include hproper hroot hold hweight in
/-- Two trees that differ in the bytes of one file fail to load for the same fault, or give tables
that differ in one drawing of the icon of the file. -/
theorem related_loadByWeight :
    Outcome.Related (DiffersIn (w.stripSuffix (Disk.stem file)) w (Text.Utf8.decode bytes))
      (loadByWeight tree root none)
      (loadByWeight (tree.put (place ++ [folder, file]) (.file bytes)) root none) := by
  unfold loadByWeight
  rw [subfolders_put_file hold]
  cases hfolders : subfolders tree root with
  | error fault => exact .failed (.access fault) rfl rfl
  | ok folders =>
      obtain ⟨names, hnames, hsub⟩ := exists_list_of_subfolders hfolders
      obtain ⟨reached, hreached, hfolder, rfl⟩ := Disk.Tree.list_eq_ok_iff.1 hnames
      obtain rfl : place = reached := Except.ok.inj (hroot.symm.trans hreached)
      have hloaded := Outcome.Related.foldlM (fun name hname icons others h =>
        related_loadWeightFolder hproper hroot hold hweight bytes hfolder (hsub name hname) h)
        (DiffersIn.refl (w.stripSuffix (Disk.stem file)) w (Text.Utf8.decode bytes) Table.empty)
      exact hloaded.bind fun icons others h => .done _ _ rfl rfl h.sortedByKey

end Damage

end Iconsmith.Assets
