import Iconsmith.Proofs.Assets.Sources
import Iconsmith.Proofs.Disk.Agreement
import Iconsmith.Proofs.Folding
import Iconsmith.Proofs.Text.Order

set_option autoImplicit false

/-!
# What loading depends on

Assets that can be loaded from a tree are loaded in the same way from every tree that agrees with
it at the root, on the way to it and below it, and along the paths at which files are looked up by
catalog entries (`load_of_agree`). Such a path leads around the root when the name of its entry does
not lead out of it (`IsContained`).
-/

namespace Iconsmith.Assets

open Disk Disk.Tree

/-- The paths at which the file of a catalog entry is looked up in the folder of a weight. -/
def lookups (folder : Path) (w : Weight) (entry : Entry) : List Path :=
  (candidates w entry.slug).map fun name => folder.join (Path.ofText name)

/-- A path at which a file is looked up when the folders of a root are loaded for a catalog. -/
def IsLookedUp (root : Path) (folders : List Text) (entries : List Entry) (p : Path) : Prop :=
  ∃ name ∈ folders, ∃ w ∈ Weight.ofName? name, ∃ entry ∈ entries,
    p ∈ lookups (root.child name) w entry

/-- A catalog entry whose files are looked up inside the asset tree: a name may lead through the
folders there, but not out of the root. -/
def IsContained (entry : Entry) : Prop :=
  ∀ w, ∀ name ∈ candidates w entry.slug,
    (Path.ofText name).anchor = .here ∧ staysWithin 1 (Path.ofText name).parts

section Agree

variable {a b : Tree} {root : Path} (hagree : AgreeAround a b root.parts)

section Listings

variable {p : Path} (hp : p.IsPlain) (hroot : root.parts <+: p.parts)

include hagree hp hroot in
theorem sources_congr : sources a p = sources b p := by
  rw [sources, sources]
  rcases hagree.list_perm hp hroot with ⟨fault, ha, hb⟩ | ⟨names, others, ha, hb, hperm⟩
  · rw [ha, hb]
  · rw [ha, hb]
    exact congrArg Except.ok (Text.mergeSort_eq_of_perm (hperm.filter _))

include hagree hp hroot in
theorem readSource_congr : readSource a p = readSource b p := by
  rw [readSource, readSource, (hagree.agreeAlong hp hroot).read_eq hp.isTidy]

end Listings

variable (hproper : a.IsProper) (hroot : root.IsPlain)

theorem isPlain_child {p : Path} {name : Text} (hp : p.IsPlain) (hname : IsPlainName name) :
    (p.child name).IsPlain := by
  intro part hpart
  rcases List.mem_append.1 hpart with hpart | hpart
  · exact hp part hpart
  · rwa [List.mem_singleton.1 hpart]

/-- What a folder lists are plain names. -/
theorem isPlainName_of_list {p : Path} {names : List Text} (hproper : a.IsProper)
    (h : a.list p = .ok names) {name : Text} (hname : name ∈ names) : IsPlainName name := by
  obtain ⟨place, -, -, rfl⟩ := list_eq_ok_iff.1 h
  exact hproper.isPlainName hname

include hagree hproper hroot in
/-- The visible folders that are found in the one tree are found in the other. -/
theorem subfolders_of_agree {folders : List Text} (h : subfolders a root = .ok folders) :
    subfolders b root = .ok folders := by
  obtain ⟨names, hlist, htested, rfl⟩ := subfolders_eq_ok_iff.1 h
  obtain ⟨others, hothers, hperm⟩ : ∃ others, b.list root = .ok others ∧ names.Perm others := by
    rcases hagree.list_perm hroot (List.prefix_refl root.parts) with
      ⟨fault, ha, -⟩ | ⟨_, others, ha, hb, hperm⟩
    · cases hlist.symm.trans ha
    · cases hlist.symm.trans ha
      exact ⟨others, hb, hperm⟩
  have htest : ∀ name ∈ names, a.isFolder (root.child name) = b.isFolder (root.child name) := by
    intro name hname
    have hchild := isPlain_child hroot (isPlainName_of_list hproper hlist hname)
    exact (hagree.agreeAlong hchild (List.prefix_append _ _)).test_eq hchild.isTidy isFolderItem
  refine subfolders_eq_ok_iff.2 ⟨others, hothers, fun name hname => ?_, ?_⟩
  · have hmem := hperm.mem_iff.2 hname
    rw [← htest name hmem]
    exact htested name hmem
  · -- The names come in another order, which sorting undoes.
    rw [← Text.mergeSort_eq_of_perm (hperm.filter _)]
    refine congrArg (List.mergeSort · Text.atMost) (List.filter_congr fun name hname => ?_)
    rw [htest name hname]

theorem isPlainName_of_subfolders {folders : List Text} (hproper : a.IsProper)
    (h : subfolders a root = .ok folders) : ∀ name ∈ folders, IsPlainName name := by
  obtain ⟨names, hlist, hmem⟩ := exists_list_of_subfolders h
  exact fun name hname => isPlainName_of_list hproper hlist (hmem name hname)

/-! ## Weight layout -/

section Folder

variable {name : Text} (hname : IsPlainName name)

include hagree hproper hroot hname in
/-- What follows on the listing of a folder is the same if it is for files with plain names. -/
theorem bind_sources_congr {α : Type} {next other : List Text → Loading α}
    (h : ∀ files, (∀ file ∈ files, ((root.child name).child file).IsPlain) →
      next files = other files) :
    (accessing (sources a (root.child name)) >>= next) =
      (accessing (sources b (root.child name)) >>= other) := by
  have hfolder := isPlain_child hroot hname
  rw [← sources_congr hagree hfolder (List.prefix_append _ _)]
  cases hsources : sources a (root.child name) with
  | error fault => rfl
  | ok files =>
      obtain ⟨names, hlist, hmem⟩ := exists_list_of_sources hsources
      have hnext : next files = other files := h files fun file hfile =>
        isPlain_child hfolder (isPlainName_of_list hproper hlist (hmem file hfile))
      exact hnext

include hagree in
theorem loadListed_congr {file : Text} (hplain : ((root.child name).child file).IsPlain)
    (w : Weight) (icons : IconTable) :
    loadListed a (root.child name) w icons file = loadListed b (root.child name) w icons file := by
  have hbelow : root.parts <+: ((root.child name).child file).parts :=
    (List.prefix_append _ [name]).trans (List.prefix_append _ _)
  rw [loadListed, loadListed, readSource_congr hagree hplain hbelow]

include hroot hname in
theorem isTidy_of_mem_lookups {w : Weight} {entry : Entry} {p : Path}
    (hp : p ∈ lookups (root.child name) w entry) : p.IsTidy := by
  obtain ⟨file, -, rfl⟩ := List.mem_map.1 hp
  have htidy := Path.isTidy_ofText file
  rw [Path.join]
  split
  · intro part hpart
    rcases List.mem_append.1 hpart with hpart | hpart
    · exact (isPlain_child hroot hname).isTidy part hpart
    · exact htidy part hpart
  · exact htidy

include hroot hname in
/-- The paths at which the file of a contained entry is looked up lead around the root. -/
theorem around_of_isContained {w : Weight} {entry : Entry} (hentry : IsContained entry) {p : Path}
    (hp : p ∈ lookups (root.child name) w entry) :
    p.anchor = root.anchor ∧
      ∀ place ∈ wayFrom [] p.parts, place <+: root.parts ∨ root.parts <+: place := by
  obtain ⟨file, hfile, rfl⟩ := List.mem_map.1 hp
  obtain ⟨hanchor, hstays⟩ := hentry w file hfile
  have hfolder := isPlain_child hroot hname
  have hjoin : (root.child name).join (Path.ofText file) =
      ⟨root.anchor, (root.child name).parts ++ (Path.ofText file).parts⟩ := by
    rw [Path.join, hanchor]
    rfl
  rw [hjoin]
  refine ⟨rfl, fun place hplace => ?_⟩
  rcases mem_wayFrom_append.1 hplace with hplace | hplace
  · exact List.prefix_or_prefix_of_prefix ((mem_wayFrom_of_isPlain hfolder).1 hplace).2
      (List.prefix_append root.parts [name])
  · rw [foldl_stepPlace_of_isPlain hfolder] at hplace
    have hinside : staysWithin [name].length (Path.ofText file).parts := hstays
    exact Or.inr (prefix_of_mem_wayFrom (Path.isTidy_ofText file) hinside hplace)

theorem firstFile_congr {paths : List Path} (h : ∀ path ∈ paths, a.isFile path = b.isFile path) :
    firstFile a paths = firstFile b paths := by
  induction paths with
  | nil => rfl
  | cons path more ih =>
      obtain ⟨hpath, hmore⟩ := List.forall_mem_cons.1 h
      rw [firstFile, firstFile, hpath, ih hmore]

theorem mem_of_firstFile {paths : List Path} {path : Path}
    (h : firstFile a paths = .ok (some path)) : path ∈ paths := by
  induction paths with
  | nil => cases h
  | cons first more ih =>
      rw [firstFile] at h
      cases hfile : a.isFile first with
      | error fault =>
          rw [hfile] at h
          cases h
      | ok there =>
          rw [hfile] at h
          cases there with
          | true =>
              cases h
              exact List.mem_cons_self
          | false => exact List.mem_cons_of_mem first (ih h)

include hroot hname in
theorem loadEntry_congr {w : Weight} {entry : Entry}
    (halong : ∀ p ∈ lookups (root.child name) w entry, AgreeAlong a b p) (icons : IconTable) :
    loadEntry a (root.child name) w icons entry = loadEntry b (root.child name) w icons entry := by
  have htidy : ∀ p ∈ lookups (root.child name) w entry, p.IsTidy := fun p hp =>
    isTidy_of_mem_lookups hroot hname hp
  have hfirst : firstFile a (lookups (root.child name) w entry) =
      firstFile b (lookups (root.child name) w entry) :=
    firstFile_congr fun p hp => (halong p hp).test_eq (htidy p hp) isFileItem
  show (accessing (firstFile a (lookups (root.child name) w entry)) >>= _) =
    (accessing (firstFile b (lookups (root.child name) w entry)) >>= _)
  rw [← hfirst]
  cases hfound : firstFile a (lookups (root.child name) w entry) with
  | error fault => rfl
  | ok found =>
      cases found with
      | none => rfl
      | some path =>
          have hmem := mem_of_firstFile hfound
          have hsource : readSource a path = readSource b path := by
            rw [readSource, readSource, (halong path hmem).read_eq (htidy path hmem)]
          show (readSource a path >>= fun drawing =>
            return addDrawing icons entry.slug w drawing) = _
          rw [hsource]
          rfl

include hagree hproper hroot hname in
/-- The folder of a weight is loaded alike without a catalog, and with one if the trees agree along
the paths at which files are looked up. -/
theorem loadWeightFolder_congr {catalog : Option (List Entry)}
    (hcatalog : ∀ entries, catalog = some entries → ∀ w ∈ Weight.ofName? name,
      ∀ entry ∈ entries, ∀ p ∈ lookups (root.child name) w entry, AgreeAlong a b p)
    (icons : IconTable) :
    loadWeightFolder a root catalog icons name = loadWeightFolder b root catalog icons name := by
  unfold loadWeightFolder
  cases hw : Weight.ofName? name with
  | none => rfl
  | some w =>
      cases catalog with
      | some entries =>
          exact Outcome.foldlM_congr (fun entry hentry icons => loadEntry_congr hroot hname
            (hcatalog entries rfl w hw entry hentry) icons) icons
      | none =>
          refine bind_sources_congr hagree hproper hroot hname fun files hfiles => ?_
          exact Outcome.foldlM_congr (fun file hfile icons =>
            loadListed_congr hagree (hfiles file hfile) w icons) icons

include hagree in
theorem loadVariant_congr {file : Text} (hplain : ((root.child name).child file).IsPlain)
    (record : Record) :
    loadVariant a (root.child name) record file = loadVariant b (root.child name) record file := by
  have hbelow : root.parts <+: ((root.child name).child file).parts :=
    (List.prefix_append _ [name]).trans (List.prefix_append _ _)
  rw [loadVariant, loadVariant, readSource_congr hagree hplain hbelow]

include hagree hproper hroot hname in
/-- The folder of an icon is loaded alike. -/
theorem loadIconFolder_congr (icons : IconTable) :
    loadIconFolder a root icons name = loadIconFolder b root icons name := by
  refine bind_sources_congr hagree hproper hroot hname fun files hfiles => ?_
  rw [Outcome.foldlM_congr fun file hfile record =>
    loadVariant_congr hagree (hfiles file hfile) record]

end Folder

/-! ## Whole trees -/

include hagree hproper hroot in
/-- What follows on the visible folders of the root goes on alike if it came to an end before. -/
theorem bind_subfolders_of_agree {α : Type} {next other : List Text → Loading α} {found : α}
    (h : ∀ folders, subfolders a root = .ok folders → next folders = other folders)
    (hfound : (accessing (subfolders a root) >>= next).result = .ok found) :
    (accessing (subfolders b root) >>= other) = (accessing (subfolders a root) >>= next) := by
  obtain ⟨folders, hfolders, -⟩ := Outcome.exists_of_bind_eq_ok hfound
  have hsame := eq_ok_of_accessing hfolders
  rw [hsame, subfolders_of_agree hagree hproper hroot hsame]
  exact (h folders hsame).symm

include hagree hproper hroot in
theorem loadByWeight_of_agree {catalog : Option (List Entry)} {icons : IconTable}
    (hcatalog : ∀ entries, catalog = some entries → ∀ folders, subfolders a root = .ok folders →
      ∀ p, IsLookedUp root folders entries p → AgreeAlong a b p)
    (h : (loadByWeight a root catalog).result = .ok icons) :
    loadByWeight b root catalog = loadByWeight a root catalog := by
  refine bind_subfolders_of_agree hagree hproper hroot (fun folders hfolders => ?_) h
  have hplain := isPlainName_of_subfolders hproper hfolders
  rw [Outcome.foldlM_congr fun name hname icons =>
    loadWeightFolder_congr hagree hproper hroot (hplain name hname)
      (fun entries hentries w hw entry hentry p hp => hcatalog entries hentries folders hfolders p
        ⟨name, hname, w, hw, entry, hentry, hp⟩) icons]

include hagree hproper hroot in
theorem loadByIcon_of_agree {icons : IconTable} (h : (loadByIcon a root).result = .ok icons) :
    loadByIcon b root = loadByIcon a root := by
  refine bind_subfolders_of_agree hagree hproper hroot (fun folders hfolders => ?_) h
  have hplain := isPlainName_of_subfolders hproper hfolders
  exact Outcome.foldlM_congr (fun name hname icons =>
    loadIconFolder_congr hagree hproper hroot (hplain name hname) icons) Table.empty

end Agree

/-- The layout in which a tree is loaded. -/
def layoutOf (tree : Tree) (root : Path) : LayoutChoice → Except AccessFault Layout
  | .auto => detectLayout tree root
  | .always layout => .ok layout

section Layouts

variable {tree : Tree} {root : Text} {catalog : Option (List Entry)} {choice : LayoutChoice}
  {icons : IconTable}

theorem load_eq_bind (tree : Tree) (root : Text) (catalog : Option (List Entry))
    (choice : LayoutChoice) : load tree root catalog choice =
      (accessing (layoutOf tree (Path.ofText root) choice) >>= fun layout =>
        load tree root catalog (.always layout)) := by
  cases choice <;> rfl

theorem load_byWeight (tree : Tree) (root : Text) (catalog : Option (List Entry)) :
    load tree root catalog (.always .byWeight) =
      (Outcome.report [.loading root .byWeight] >>= fun _ =>
        loadByWeight tree (Path.ofText root) catalog) := rfl

theorem load_byIcon (tree : Tree) (root : Text) (catalog : Option (List Entry)) :
    load tree root catalog (.always .byIcon) =
      (Outcome.report [.loading root .byIcon] >>= fun _ =>
        loadByIcon tree (Path.ofText root)) := rfl

/-- What is loaded is loaded in the one layout or in the other. -/
theorem exists_of_load (h : (load tree root catalog choice).result = .ok icons) :
    layoutOf tree (Path.ofText root) choice = .ok .byWeight ∧
        (loadByWeight tree (Path.ofText root) catalog).result = .ok icons ∨
      layoutOf tree (Path.ofText root) choice = .ok .byIcon ∧
        (loadByIcon tree (Path.ofText root)).result = .ok icons := by
  rw [load_eq_bind] at h
  obtain ⟨layout, hlayout, hrest⟩ := Outcome.exists_of_bind_eq_ok h
  have hfound := eq_ok_of_accessing hlayout
  cases layout with
  | byWeight =>
      rw [load_byWeight] at hrest
      obtain ⟨_, _, hicons⟩ := Outcome.exists_of_bind_eq_ok hrest
      exact Or.inl ⟨hfound, hicons⟩
  | byIcon =>
      rw [load_byIcon] at hrest
      obtain ⟨_, _, hicons⟩ := Outcome.exists_of_bind_eq_ok hrest
      exact Or.inr ⟨hfound, hicons⟩

/-- The root of assets that can be loaded is a folder. -/
theorem exists_locate_of_load (h : (load tree root catalog choice).result = .ok icons) :
    ∃ place, tree.locate (Path.ofText root) = .ok place ∧ tree.isFolderAt place := by
  have hfolders : ∃ folders, subfolders tree (Path.ofText root) = .ok folders := by
    rcases exists_of_load h with ⟨-, hicons⟩ | ⟨-, hicons⟩
    · obtain ⟨folders, hfolders, -⟩ := Outcome.exists_of_bind_eq_ok hicons
      exact ⟨folders, eq_ok_of_accessing hfolders⟩
    · obtain ⟨folders, hfolders, -⟩ := Outcome.exists_of_bind_eq_ok hicons
      exact ⟨folders, eq_ok_of_accessing hfolders⟩
  obtain ⟨folders, hfolders⟩ := hfolders
  obtain ⟨names, hlist, -⟩ := exists_list_of_subfolders hfolders
  obtain ⟨place, hlocate, hfolder, -⟩ := list_eq_ok_iff.1 hlist
  exact ⟨place, hlocate, hfolder⟩

end Layouts

section Agree

variable {a b : Tree} {root : Text} (hagree : AgreeAround a b (Path.ofText root).parts)
  (hproper : a.IsProper) (hroot : (Path.ofText root).IsPlain)

include hagree hproper hroot in
/-- The layout that is found in the one tree is found in the other. -/
theorem layoutOf_of_agree {choice : LayoutChoice} {layout : Layout}
    (h : layoutOf a (Path.ofText root) choice = .ok layout) :
    layoutOf b (Path.ofText root) choice = .ok layout := by
  cases choice with
  | always layout => exact h
  | auto =>
      have hdetect : detectLayout a (Path.ofText root) = .ok layout := h
      show detectLayout b (Path.ofText root) = .ok layout
      rw [detectLayout] at hdetect ⊢
      cases hfolders : subfolders a (Path.ofText root) with
      | error fault =>
          rw [hfolders] at hdetect
          cases hdetect
      | ok folders =>
          rw [hfolders] at hdetect
          rwa [subfolders_of_agree hagree hproper hroot hfolders]

include hagree hproper hroot in
/-- Assets that can be loaded from the one tree are loaded alike from the other, if in the weight
layout the trees agree along the paths at which files are looked up. -/
theorem load_of_agree {catalog : Option (List Entry)} {choice : LayoutChoice} {icons : IconTable}
    (hcatalog : layoutOf a (Path.ofText root) choice = .ok .byWeight →
      ∀ entries, catalog = some entries → ∀ folders, subfolders a (Path.ofText root) = .ok folders →
        ∀ p, IsLookedUp (Path.ofText root) folders entries p → AgreeAlong a b p)
    (h : (load a root catalog choice).result = .ok icons) :
    load b root catalog choice = load a root catalog choice := by
  rw [load_eq_bind, load_eq_bind a]
  rcases exists_of_load h with ⟨hlayout, hicons⟩ | ⟨hlayout, hicons⟩
  · rw [hlayout, layoutOf_of_agree hagree hproper hroot hlayout]
    show load b root catalog (.always .byWeight) = load a root catalog (.always .byWeight)
    rw [load_byWeight, load_byWeight,
      loadByWeight_of_agree hagree hproper hroot (hcatalog hlayout) hicons]
  · rw [hlayout, layoutOf_of_agree hagree hproper hroot hlayout]
    show load b root catalog (.always .byIcon) = load a root catalog (.always .byIcon)
    rw [load_byIcon, load_byIcon, loadByIcon_of_agree hagree hproper hroot hicons]

end Agree

/-- What can be loaded has been asked for with a root and a choice of layout. -/
theorem exists_of_loadAsked {tree : Tree} {root : Option Text} {catalog : Option (List Entry)}
    {choice : Option LayoutChoice} {icons : IconTable}
    (h : (loadAsked tree root catalog choice).result = .ok icons) :
    ∃ r c, root = some r ∧ choice = some c ∧ (load tree r catalog c).result = .ok icons := by
  cases choice with
  | none => cases h
  | some c =>
      cases root with
      | none => cases c <;> cases h
      | some r => exact ⟨r, c, rfl, rfl, h⟩

end Iconsmith.Assets
