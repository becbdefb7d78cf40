import Iconsmith.Proofs.Assets.Roots

set_option autoImplicit false

/-!
# Finding out the layout

The layout is found out from the names of the visible folders. If none of them is that of a weight
the tree is loaded by icon, and if all of them are, by weight. If some are and some are not, the
folders of weights that come before the first other one are read, and then this one stops the
loading (`loadByWeight_of_badFolder`), unless a path that is too long for the system has stopped it
before. What else stands in the root does not matter (`load_of_alike`): together that is
`load_auto_of_isAssetRoot`, and `not_forall_load_auto_badFolder` is about a path that is too long.
-/

namespace Iconsmith.Assets

open Disk Disk.Tree

/-! ## The choice -/

/-- The layout that folders of some names show. -/
def layoutShown (folders : List Text) : Layout :=
  if folders.any fun name => (Weight.ofName? name).isSome then .byWeight else .byIcon

section Choice

variable {tree : Tree} {root : Text} {folders : List Text}

/-- When the visible folders are found, the tree is loaded in the layout that they show. -/
theorem load_auto_of_subfolders (hfolders : subfolders tree (Path.ofText root) = .ok folders) :
    load tree root none .auto = load tree root none (.always (layoutShown folders)) := by
  unfold load detectLayout
  dsimp only
  rw [hfolders]
  rfl

theorem load_always_byIcon : load tree root none (.always .byIcon) =
    ⟨.loading root .byIcon :: (loadByIcon tree (Path.ofText root)).events,
      (loadByIcon tree (Path.ofText root)).result⟩ := rfl

theorem load_always_byWeight : load tree root none (.always .byWeight) =
    ⟨.loading root .byWeight :: (loadByWeight tree (Path.ofText root) none).events,
      (loadByWeight tree (Path.ofText root) none).result⟩ := rfl

theorem layoutShown_of_none (h : ∀ name ∈ folders, Weight.ofName? name = none) :
    layoutShown folders = .byIcon := by
  refine if_neg fun hany => ?_
  obtain ⟨name, hname, hsome⟩ := List.any_eq_true.1 hany
  rw [h name hname] at hsome
  cases hsome

theorem layoutShown_of_some {name : Text} (hname : name ∈ folders)
    (hsome : (Weight.ofName? name).isSome) : layoutShown folders = .byWeight :=
  if_pos (List.any_eq_true.2 ⟨name, hname, hsome⟩)

/-- When the visible folders are not found, no layout is loaded, for the same reason. -/
theorem result_load_of_subfolders_error {fault : AccessFault}
    (h : subfolders tree (Path.ofText root) = .error fault) :
    (load tree root none .auto).result = .error (.access fault) ∧
      (loadByIcon tree (Path.ofText root)).result = .error (.access fault) ∧
      (loadByWeight tree (Path.ofText root) none).result = .error (.access fault) := by
  rw [load_of_subfolders_error h, loadByIcon, loadByWeight, h]
  exact ⟨rfl, rfl, rfl⟩

end Choice

/-! ## A folder without a weight -/

section Folder

variable {tree : Tree} {root : Path} {place : Place} {name : Text}
  (h : IsAssetRoot tree root place) (hname : name ∈ visibleFolders tree place)
  (hshort : (root.child name).IsShort) (hweight : (Weight.ofName? name).isSome)

include h hname hshort hweight

/-- Nothing but a path that is too long stops the loading of the folder of a weight. -/
theorem IsAssetRoot.onlyFails_loadWeightFolder (icons : IconTable) :
    (loadWeightFolder tree root none icons name).OnlyFails IsTooLong := by
  obtain ⟨w, hw⟩ := Option.isSome_iff_exists.1 hweight
  rw [loadWeightFolder, hw, h.sources_eq hname hshort]
  dsimp only
  refine Outcome.OnlyFails.bind (Outcome.onlyFails_pure _) fun files hfiles => ?_
  cases hfiles
  exact Outcome.onlyFails_foldlM _ fun icons file hfile =>
    (h.onlyFails_readSource hname hshort hfile).bind fun text _ => Outcome.onlyFails_pure _

/-- The folder of a weight is loaded exactly if the paths to its files are short. -/
theorem IsAssetRoot.exists_loadWeightFolder_iff (icons : IconTable) :
    (∃ after, (loadWeightFolder tree root none icons name).result = .ok after) ↔
      HasShortFiles tree root place name := by
  obtain ⟨w, hw⟩ := Option.isSome_iff_exists.1 hweight
  have hload : (loadWeightFolder tree root none icons name) =
      (sourceNames tree (place ++ [name])).foldlM (loadListed tree (root.child name) w) icons := by
    rw [loadWeightFolder, hw, h.sources_eq hname hshort]
    rfl
  rw [hload]
  refine Outcome.exists_foldlM_iff (fun file hfile before => ?_) icons
  rw [loadListed]
  constructor
  · rintro ⟨after, hafter⟩
    by_contra hlong
    rw [h.readSource_of_long hname hshort hfile hlong] at hafter
    cases hafter
  · intro hpath
    obtain ⟨bytes, -, hread⟩ := h.readSource_of_short hname hshort hfile hpath
    rw [hread]
    exact ⟨_, rfl⟩

end Folder

section Mixed

variable {tree : Tree} {root : Path} {place : Place} {earlier later : List Text} {bad : Text}

/-- The first folder that is not named after a weight stops the loading, unless a path that is too
long has stopped it before. -/
theorem IsAssetRoot.loadByWeight_of_badFolder (h : IsAssetRoot tree root place)
    (hsplit : visibleFolders tree place = earlier ++ bad :: later)
    (hearlier : ∀ name ∈ earlier, (Weight.ofName? name).isSome) (hbad : Weight.ofName? bad = none) :
    (HasShortEntries tree root place ∧ (∀ name ∈ earlier, HasShortFiles tree root place name) →
      (loadByWeight tree root none).result = .error (.badFolder bad)) ∧
    (¬ (HasShortEntries tree root place ∧ ∀ name ∈ earlier, HasShortFiles tree root place name) →
      ∃ fault, IsTooLong fault ∧ (loadByWeight tree root none).result = .error fault) := by
  by_cases hshort : HasShortEntries tree root place
  · have hvisible : ∀ name ∈ earlier, name ∈ visibleFolders tree place :=
      fun name hname => hsplit ▸ List.mem_append_left _ hname
    have hentry : ∀ name ∈ earlier, (root.child name).IsShort :=
      fun name hname => hshort name (mem_visibleFolders.1 (hvisible name hname)).1
    have hload : (loadByWeight tree root none).result =
        ((earlier ++ bad :: later).foldlM (loadWeightFolder tree root none) Table.empty >>=
          fun icons => pure (icons.sortedByKey Text.atMost)).result := by
      rw [loadByWeight, h.subfolders_of_short hshort, hsplit]
      rfl
    have hstop : ∀ icons : IconTable, ((bad :: later).foldlM (loadWeightFolder tree root none)
        icons).result = .error (.badFolder bad) := by
      intro icons
      rw [List.foldlM_cons, loadWeightFolder, hbad]
      rfl
    have hfound := Outcome.exists_foldlM_iff (fun name hname icons =>
      h.exists_loadWeightFolder_iff (hvisible name hname) (hentry name hname)
        (hearlier name hname) icons) Table.empty
    rw [and_iff_right hshort, hload]
    constructor
    · intro hfiles
      obtain ⟨icons, hicons⟩ := hfound.2 hfiles
      exact Outcome.bind_eq_error.2 (Or.inl ((Outcome.result_foldlM_append hicons).trans
        (hstop icons)))
    · intro hfiles
      cases hresult : (earlier.foldlM (loadWeightFolder tree root none) Table.empty).result with
      | ok icons => exact absurd (hfound.1 ⟨icons, hresult⟩) hfiles
      | error fault =>
          refine ⟨fault, Outcome.onlyFails_foldlM _ (fun icons name hname =>
            h.onlyFails_loadWeightFolder (hvisible name hname) (hentry name hname)
              (hearlier name hname) icons) fault hresult, ?_⟩
          exact Outcome.bind_eq_error.2 (Or.inl (Outcome.foldlM_append_eq_error hresult))
  · obtain ⟨name, hlong, hrefused⟩ := h.subfolders_of_long hshort
    refine ⟨fun hboth => absurd hboth.1 hshort, fun _ => ?_⟩
    refine ⟨_, ⟨root, name, hlong, rfl⟩, ?_⟩
    rw [loadByWeight, hrefused]
    rfl

end Mixed

/-! ## What else stands in the root -/

section Alike

variable {a b : Tree} {place : Place}

/-- Two roots with the same visible folders, in which the same stands. -/
structure AreAlike (a b : Tree) (place : Place) : Prop where
  folders : visibleFolders a place = visibleFolders b place
  entries : ∀ name ∈ visibleFolders a place, ∀ file,
    a.get? (place ++ [name, file]) = b.get? (place ++ [name, file])

theorem AreAlike.get?_eq (h : AreAlike a b place) {name : Text}
    (hname : name ∈ visibleFolders a place) (file : Text) :
    a.get? ((place ++ [name]) ++ [file]) = b.get? ((place ++ [name]) ++ [file]) := by
  have hentry := h.entries name hname file
  rwa [List.append_assoc]

section Reading

variable {root : Path} {name : Text} (h : AreAlike a b place) (ha : IsAssetRoot a root place)
  (hb : IsAssetRoot b root place) (hname : name ∈ visibleFolders a place)
  (hshort : (root.child name).IsShort)

include h ha hb hname hshort

/-- What follows on the source files of a folder is the same if it is for each file. -/
theorem AreAlike.bind_sources {α : Type} {next other : List Text → Loading α}
    (hnext : next (sourceNames a (place ++ [name])) = other (sourceNames a (place ++ [name]))) :
    (accessing (sources a (root.child name)) >>= next) =
      (accessing (sources b (root.child name)) >>= other) := by
  rw [ha.sources_eq hname hshort, hb.sources_eq (h.folders ▸ hname) hshort,
    ← sourceNames_congr (h.get?_eq hname)]
  exact hnext

theorem AreAlike.readSource_eq {file : Text} (hfile : file ∈ sourceNames a (place ++ [name])) :
    readSource a ((root.child name).child file) = readSource b ((root.child name).child file) := by
  have hother : name ∈ visibleFolders b place := h.folders ▸ hname
  have hsame : file ∈ sourceNames b (place ++ [name]) := by
    rwa [← sourceNames_congr (h.get?_eq hname)]
  by_cases hpath : ((root.child name).child file).IsShort
  · obtain ⟨bytes, hbytes, hread⟩ := ha.readSource_of_short hname hshort hfile hpath
    obtain ⟨others, hothers, hagain⟩ := hb.readSource_of_short hother hshort hsame hpath
    rw [file?_congr (h.entries name hname file), hothers] at hbytes
    cases hbytes
    rw [hread, hagain]
  · rw [ha.readSource_of_long hname hshort hfile hpath,
      hb.readSource_of_long hother hshort hsame hpath]

theorem AreAlike.loadWeightFolder_eq (icons : IconTable) :
    loadWeightFolder a root none icons name = loadWeightFolder b root none icons name := by
  unfold loadWeightFolder
  cases Weight.ofName? name with
  | none => rfl
  | some w =>
      refine h.bind_sources ha hb hname hshort
        (Outcome.foldlM_congr (fun file hfile icons => ?_) icons)
      rw [loadListed, loadListed, h.readSource_eq ha hb hname hshort hfile]

theorem AreAlike.loadIconFolder_eq (icons : IconTable) :
    loadIconFolder a root icons name = loadIconFolder b root icons name := by
  refine h.bind_sources ha hb hname hshort ?_
  rw [Outcome.foldlM_congr fun file hfile record => ?_]
  rw [loadVariant, loadVariant, h.readSource_eq ha hb hname hshort hfile]

end Reading

/-- Roots that are alike are loaded alike, as long as the system takes the paths to all their
entries. -/
theorem AreAlike.load_eq {root : Text} (h : AreAlike a b place)
    (ha : IsAssetRoot a (Path.ofText root) place) (hb : IsAssetRoot b (Path.ofText root) place)
    (hashort : HasShortEntries a (Path.ofText root) place)
    (hbshort : HasShortEntries b (Path.ofText root) place) (choice : LayoutChoice) :
    load a root none choice = load b root none choice := by
  have hfolders := ha.subfolders_of_short hashort
  have hentry : ∀ name ∈ visibleFolders a place, ((Path.ofText root).child name).IsShort :=
    fun name hname => hashort name (mem_visibleFolders.1 hname).1
  refine load_congr ?_ (fun folders hfound name hname icons => ?_)
    (fun folders hfound name hname icons => ?_) choice
  · rw [hfolders, hb.subfolders_of_short hbshort, h.folders]
  · cases hfolders.symm.trans hfound
    exact h.loadWeightFolder_eq ha hb hname (hentry name hname) icons
  · cases hfolders.symm.trans hfound
    exact h.loadIconFolder_eq ha hb hname (hentry name hname) icons

end Alike

/-! ## The layout that is found out -/

/-- A tree whose layout is to be found out is loaded by icon if no visible folder is named after a
weight, and by weight if all are and there is one. If some are and some are not it is not loaded:
the first folder that is not named after a weight is named, unless a path to an entry of the root
or to a file in a folder before this one is too long for the system, which is then what is named.
What else stands in the root does not matter, as long as the system takes the paths to its
entries. -/
theorem load_auto_of_isAssetRoot {tree : Tree} {root : Text} {place : Place}
    (h : IsAssetRoot tree (Path.ofText root) place) :
    ((∀ name ∈ visibleFolders tree place, Weight.ofName? name = none) →
      (load tree root none .auto).result = (loadByIcon tree (Path.ofText root)).result ∧
        (HasShortEntries tree (Path.ofText root) place → (load tree root none .auto).events =
          .loading root .byIcon :: (loadByIcon tree (Path.ofText root)).events)) ∧
    ((∀ name ∈ visibleFolders tree place, (Weight.ofName? name).isSome) →
      visibleFolders tree place ≠ [] →
        (load tree root none .auto).result = (loadByWeight tree (Path.ofText root) none).result ∧
          (HasShortEntries tree (Path.ofText root) place → (load tree root none .auto).events =
            .loading root .byWeight :: (loadByWeight tree (Path.ofText root) none).events)) ∧
    (∀ earlier bad later, visibleFolders tree place = earlier ++ bad :: later →
      (∀ name ∈ earlier, (Weight.ofName? name).isSome) → Weight.ofName? bad = none →
      (∃ name ∈ visibleFolders tree place, (Weight.ofName? name).isSome) →
        (HasShortEntries tree (Path.ofText root) place ∧
            (∀ name ∈ earlier, HasShortFiles tree (Path.ofText root) place name) →
          (load tree root none .auto).result = .error (.badFolder bad)) ∧
        (¬ (HasShortEntries tree (Path.ofText root) place ∧
            ∀ name ∈ earlier, HasShortFiles tree (Path.ofText root) place name) →
          ∃ fault, IsTooLong fault ∧ (load tree root none .auto).result = .error fault)) ∧
    ∀ other, IsAssetRoot other (Path.ofText root) place → AreAlike tree other place →
      HasShortEntries tree (Path.ofText root) place →
      HasShortEntries other (Path.ofText root) place →
        load other root none .auto = load tree root none .auto := by
  have hfound : HasShortEntries tree (Path.ofText root) place → load tree root none .auto =
      load tree root none (.always (layoutShown (visibleFolders tree place))) := fun hshort =>
    load_auto_of_subfolders (h.subfolders_of_short hshort)
  have hweight : ∀ name ∈ visibleFolders tree place, (Weight.ofName? name).isSome →
      (load tree root none .auto).result = (loadByWeight tree (Path.ofText root) none).result ∧
        (HasShortEntries tree (Path.ofText root) place → (load tree root none .auto).events =
          .loading root .byWeight :: (loadByWeight tree (Path.ofText root) none).events) := by
    intro name hname hsome
    by_cases hshort : HasShortEntries tree (Path.ofText root) place
    · rw [hfound hshort, layoutShown_of_some hname hsome, load_always_byWeight]
      exact ⟨rfl, fun _ => rfl⟩
    · obtain ⟨other, -, hrefused⟩ := h.subfolders_of_long hshort
      obtain ⟨hauto, -, hbyWeight⟩ := result_load_of_subfolders_error hrefused
      exact ⟨hauto.trans hbyWeight.symm, fun hboth => absurd hboth hshort⟩
  refine ⟨fun hnone => ?none, fun hall hne => ?all, ?mixed, ?other⟩
  case none =>
    by_cases hshort : HasShortEntries tree (Path.ofText root) place
    · rw [hfound hshort, layoutShown_of_none hnone, load_always_byIcon]
      exact ⟨rfl, fun _ => rfl⟩
    · obtain ⟨name, -, hrefused⟩ := h.subfolders_of_long hshort
      obtain ⟨hauto, hbyIcon, -⟩ := result_load_of_subfolders_error hrefused
      exact ⟨hauto.trans hbyIcon.symm, fun hboth => absurd hboth hshort⟩
  case all =>
    obtain ⟨name, hname⟩ := List.exists_mem_of_ne_nil _ hne
    exact hweight name hname (hall name hname)
  case mixed =>
    rintro earlier bad later hsplit hearlier hbad ⟨name, hname, hsome⟩
    rw [(hweight name hname hsome).1]
    exact h.loadByWeight_of_badFolder hsplit hearlier hbad
  case other =>
    exact fun other hother halike hshort hothers =>
      (halike.load_eq h hother hshort hothers .auto).symm

/-! ## Folders of both kinds -/

/-- A root with the folder of a weight and two other folders, beside a hidden folder and a file that
is named after a weight. -/
def mixedTree : Tree :=
  ⟨⟨[(["assets".toList], .folder), (["assets".toList, "zoom".toList], .folder),
    (["assets".toList, "home".toList], .folder), (["assets".toList, " Bold ".toList], .folder),
    (["assets".toList, " Bold ".toList, "a.svg".toList], .file [97]),
    (["assets".toList, ".thin".toList], .folder), (["assets".toList, "thin".toList], .file [])],
    by decide⟩⟩

/-- The same root with one more hidden folder. -/
def besideHidden : Tree := mixedTree.put ["assets".toList, ".light".toList] .folder

theorem areAlike_besideHidden : AreAlike mixedTree besideHidden ["assets".toList] where
  folders := by
    have hsorted : [" Bold ".toList, "home".toList, "zoom".toList].Pairwise fun s t =>
        Text.atMost s t := by decide
    rw [visibleFolders_eq (by decide) hsorted, visibleFolders_eq (by decide) hsorted]
  entries := fun name _ file => (get?_put_of_ne _ (by simp)).symm

/-- The first of the two other folders is named, and the hidden folder does not matter. -/
theorem load_auto_mixedTree :
    (load mixedTree "assets".toList none .auto).result = .error (.badFolder "home".toList) ∧
      load besideHidden "assets".toList none .auto = load mixedTree "assets".toList none .auto := by
  obtain ⟨-, -, hmixed, hother⟩ := load_auto_of_isAssetRoot
    (by decide : IsAssetRoot mixedTree (Path.ofText "assets".toList) ["assets".toList])
  have hvisible : visibleFolders mixedTree ["assets".toList] =
      [" Bold ".toList] ++ "home".toList :: ["zoom".toList] :=
    visibleFolders_eq (by decide) (by decide)
  refine ⟨?_, hother besideHidden (by decide) areAlike_besideHidden (by decide) (by decide)⟩
  refine (hmixed _ _ _ hvisible (by decide) (by decide) ?_).1 ⟨by decide, by decide⟩
  rw [hvisible]
  decide

/-- A shorter name than the long one, with which a winding path leaves more room. -/
def rootName : Text := List.replicate 60 '𝄞'

/-- A root with the folder of a weight and another folder, which has a long name. -/
def boldAndLong : Tree :=
  ⟨⟨[([rootName], .folder), ([rootName, "bold".toList], .folder),
    ([rootName, longName], .folder)], by decide⟩⟩

/-- Not every root with folders of both kinds is refused for the name of a folder: below a winding
path the system refuses to tell what the one with the long name is. -/
theorem not_forall_load_auto_badFolder : ¬ ∀ (tree : Tree) (root : Text) (place : Place),
    IsAssetRoot tree (Path.ofText root) place → ∀ earlier bad later,
      visibleFolders tree place = earlier ++ bad :: later →
      (∀ name ∈ earlier, (Weight.ofName? name).isSome) → Weight.ofName? bad = none →
      (∃ name ∈ visibleFolders tree place, (Weight.ofName? name).isSome) →
        (load tree root none .auto).result = .error (.badFolder bad) := by
  intro hall
  have hroot : IsAssetRoot boldAndLong (Path.ofText (winding rootName)) [rootName] := by
    decide +kernel
  have hvisible : visibleFolders boldAndLong [rootName] = ["bold".toList] ++ longName :: [] :=
    visibleFolders_eq (by decide +kernel) (by decide +kernel)
  have hbad := hall boldAndLong (winding rootName) [rootName] hroot _ _ _ hvisible (by decide)
    (by decide +kernel) (by rw [hvisible]; decide +kernel)
  have hrefused : firstRefused? boldAndLong (Path.ofText (winding rootName)) = some longName := by
    decide +kernel
  rw [load_of_subfolders_error (subfolders_of_firstRefused hrefused)] at hbad
  cases hbad

end Iconsmith.Assets
