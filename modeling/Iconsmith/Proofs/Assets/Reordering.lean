import Iconsmith.Proofs.Assets.Faults
import Iconsmith.Proofs.Assets.Sources
import Iconsmith.Proofs.Disk.Following
import Iconsmith.Proofs.Folding
import Iconsmith.Proofs.Text.Order

set_option autoImplicit false

/-!
# The order of listings

What is listed is sorted before anything is loaded, so the order in which the system lists a
folder does not show in what is loaded or noted. It shows in one fault: the entries of the root
are tested in that order, and the first whose path is too long for the system is the one that is
named (`loadNamed_of_reorders`).
-/

namespace Iconsmith.Assets

open Disk Disk.Tree

/-! ## Steps -/

/-- When the same visible folders are found and each of them is loaded alike, so are the trees. -/
theorem load_congr {a b : Tree} {root : Text} {catalog : Option (List Entry)}
    (hfolders : subfolders a (Path.ofText root) = subfolders b (Path.ofText root))
    (hweight : ∀ folders, subfolders a (Path.ofText root) = .ok folders → ∀ name ∈ folders,
      ∀ icons, loadWeightFolder a (Path.ofText root) catalog icons name =
        loadWeightFolder b (Path.ofText root) catalog icons name)
    (hicon : ∀ folders, subfolders a (Path.ofText root) = .ok folders → ∀ name ∈ folders,
      ∀ icons, loadIconFolder a (Path.ofText root) icons name =
        loadIconFolder b (Path.ofText root) icons name)
    (choice : LayoutChoice) : load a root catalog choice = load b root catalog choice := by
  unfold load loadByWeight loadByIcon detectLayout
  dsimp only
  rw [← hfolders]
  cases hfound : subfolders a (Path.ofText root) with
  | error fault => rfl
  | ok folders =>
      have hgranted : ∀ next : List Text → Loading IconTable,
          (accessing (.ok folders) >>= next) = next folders := fun next => rfl
      simp only [hgranted, Outcome.foldlM_congr (hweight folders hfound),
        Outcome.foldlM_congr (hicon folders hfound)]

section Steps

variable {a b : Tree} (h : a.Reorders b)

include h

/-- The source files of a folder are the same, and in the same order. -/
theorem sources_of_reorders (folder : Path) : sources a folder = sources b folder := by
  rw [sources, sources]
  rcases h.list_perm folder with ⟨fault, ha, hb⟩ | ⟨names, others, ha, hb, hperm⟩
  · rw [ha, hb]
  · rw [ha, hb]
    exact congrArg Except.ok (Text.mergeSort_eq_of_perm (hperm.filter _))

theorem readSource_of_reorders (path : Path) : readSource a path = readSource b path := by
  rw [readSource, readSource, h.read_eq path]

theorem firstFile_of_reorders (paths : List Path) : firstFile a paths = firstFile b paths := by
  induction paths with
  | nil => rfl
  | cons path paths ih => rw [firstFile, firstFile, isFile, isFile, h.test_eq, ih]

theorem loadWeightFolder_of_reorders (root : Path) (catalog : Option (List Entry))
    (icons : IconTable) (name : Text) :
    loadWeightFolder a root catalog icons name = loadWeightFolder b root catalog icons name := by
  have hentry : ∀ w, loadEntry a (root.child name) w = loadEntry b (root.child name) w := by
    intro w
    funext icons entry
    simp only [loadEntry, firstFile_of_reorders h, readSource_of_reorders h]
  have hlisted : ∀ w, loadListed a (root.child name) w = loadListed b (root.child name) w := by
    intro w
    funext icons file
    simp only [loadListed, readSource_of_reorders h]
  simp only [loadWeightFolder, hentry, hlisted, sources_of_reorders h]

theorem loadIconFolder_of_reorders (root : Path) (icons : IconTable) (name : Text) :
    loadIconFolder a root icons name = loadIconFolder b root icons name := by
  have hvariant : loadVariant a (root.child name) = loadVariant b (root.child name) := by
    funext record file
    simp only [loadVariant, readSource_of_reorders h]
  rw [loadIconFolder, loadIconFolder, hvariant, sources_of_reorders h]

/-- When the same visible folders are found, the same is loaded from them. -/
theorem load_of_subfolders_eq {root : Text}
    (hfolders : subfolders a (Path.ofText root) = subfolders b (Path.ofText root))
    (catalog : Option (List Entry)) (choice : LayoutChoice) :
    load a root catalog choice = load b root catalog choice :=
  load_congr hfolders (fun _ _ name _ icons => loadWeightFolder_of_reorders h _ catalog icons name)
    (fun _ _ name _ icons => loadIconFolder_of_reorders h _ icons name) choice

end Steps

/-! ## Refused tests -/

/-- Whether the system refuses to tell what an entry of the root is. -/
def refuses (tree : Tree) (root : Path) (name : Text) : Bool :=
  (tree.isFolder (root.child name)).toOption.isNone

/-- The first entry of the root, in the order of the listing, with which this is so. -/
def firstRefused? (tree : Tree) (root : Path) : Option Text :=
  match tree.list root with
  | .ok names => names.find? (refuses tree root)
  | .error _ => none

/-- The fault of an entry whose path is too long. -/
def longFault (root : Path) (name : Text) : AccessFault :=
  .refused ⟨.nameTooLong, (root.child name).text, none⟩

variable {tree a b : Tree} {root : Path} {name : Text}

theorem isFolder_of_refuses (h : refuses tree root name) :
    tree.isFolder (root.child name) = .error (longFault root name) := by
  rw [refuses] at h
  cases hfolder : tree.isFolder (root.child name) with
  | ok there =>
      rw [hfolder] at h
      cases h
  | error fault => rw [fault_of_test hfolder, longFault]

theorem exists_isFolder_of_not_refuses (h : refuses tree root name = false) :
    ∃ there, tree.isFolder (root.child name) = .ok there := by
  rw [refuses] at h
  cases hfolder : tree.isFolder (root.child name) with
  | ok there => exact ⟨there, rfl⟩
  | error fault =>
      rw [hfolder] at h
      cases h

/-- In a tree that a file system can hold, the entries that are refused are those whose paths are
too long. -/
theorem refuses_iff (hproper : tree.IsProper) (hnul : tree.HasNoNul) {names : List Text}
    (hlist : tree.list root = .ok names) (hname : name ∈ names) :
    refuses tree root name ↔ ¬(root.child name).IsShort := by
  obtain ⟨place, hlocate, hfolder, rfl⟩ := list_eq_ok_iff.1 hlist
  rw [← exists_test_child_iff hlocate hfolder (hproper.isPlainName hname)
    (hnul.list hlist name hname) isFolderItem]
  constructor
  · rintro h ⟨there, hthere⟩
    cases (isFolder_of_refuses h).symm.trans hthere
  · intro h
    by_contra hnot
    exact h (exists_isFolder_of_not_refuses (by simpa using hnot))

/-- The first name that is refused stops a filter, whatever has been kept before. -/
theorem filterAuxM_of_find? {names : List Text} (h : names.find? (refuses tree root) = some name)
    (kept : List Text) :
    names.filterAuxM (fun name => tree.isFolder (root.child name)) kept =
      .error (longFault root name) := by
  induction names generalizing kept with
  | nil => cases h
  | cons other names ih =>
      rw [List.filterAuxM]
      cases hother : refuses tree root other with
      | true =>
          rw [List.find?_cons_of_pos hother] at h
          cases h
          rw [isFolder_of_refuses hother]
          rfl
      | false =>
          rw [List.find?_cons_of_neg (by simp [hother])] at h
          obtain ⟨there, hthere⟩ := exists_isFolder_of_not_refuses hother
          rw [hthere]
          exact ih h _

theorem firstRefused?_eq_some : firstRefused? tree root = some name ↔
    ∃ names, tree.list root = .ok names ∧ names.find? (refuses tree root) = some name := by
  rw [firstRefused?]
  cases tree.list root with
  | ok names => simp
  | error fault => simp

/-- When an entry is refused, the first one of these is named. -/
theorem subfolders_of_firstRefused (h : firstRefused? tree root = some name) :
    subfolders tree root = .error (longFault root name) := by
  obtain ⟨names, hlist, hfind⟩ := firstRefused?_eq_some.1 h
  have hfilter : names.filterM (fun name => tree.isFolder (root.child name)) =
      .error (longFault root name) := by
    rw [List.filterM, filterAuxM_of_find? hfind]
    rfl
  unfold subfolders
  rw [hlist]
  change Except.bind (names.filterM fun name => tree.isFolder (root.child name)) _ = _
  rw [hfilter]
  rfl

section Reorders

variable (h : a.Reorders b)

include h

theorem refuses_of_reorders : refuses a root = refuses b root :=
  funext fun name => by rw [refuses, refuses, isFolder, isFolder, h.test_eq]

variable (root) in
/-- An entry is refused in both orders or in neither. -/
theorem isSome_firstRefused? :
    (firstRefused? a root).isSome = (firstRefused? b root).isSome := by
  rw [firstRefused?, firstRefused?, refuses_of_reorders h]
  rcases h.list_perm root with ⟨fault, ha, hb⟩ | ⟨names, others, ha, hb, hperm⟩
  · rw [ha, hb]
  · rw [ha, hb]
    dsimp only
    rw [Bool.eq_iff_iff, List.find?_isSome, List.find?_isSome]
    exact exists_congr fun name => and_congr_left fun _ => hperm.mem_iff

variable (root) in
theorem firstRefused?_cases :
    (firstRefused? a root = none ∧ firstRefused? b root = none) ∨
      ∃ name other, firstRefused? a root = some name ∧ firstRefused? b root = some other := by
  have hsome := isSome_firstRefused? root h
  cases ha : firstRefused? a root with
  | none =>
      rw [ha] at hsome
      exact Or.inl ⟨rfl, Option.isNone_iff_eq_none.1 (Option.isSome_eq_false_iff.1 hsome.symm)⟩
  | some name =>
      rw [ha] at hsome
      obtain ⟨other, hb⟩ := Option.isSome_iff_exists.1 hsome.symm
      exact Or.inr ⟨name, other, rfl, hb⟩

/-- When no entry is refused, the same visible folders are found. -/
theorem subfolders_of_reorders (hnone : firstRefused? a root = none) :
    subfolders a root = subfolders b root := by
  rcases h.list_perm root with ⟨fault, ha, hb⟩ | ⟨names, others, ha, hb, hperm⟩
  · rw [subfolders, subfolders, ha, hb]
    rfl
  · rw [firstRefused?, ha, List.find?_eq_none] at hnone
    have htested : ∀ name ∈ names, ∃ there, a.isFolder (root.child name) = .ok there :=
      fun name hname => exists_isFolder_of_not_refuses (by simpa using hnone name hname)
    have hsame : ∀ name, a.isFolder (root.child name) = b.isFolder (root.child name) :=
      fun name => h.test_eq isFolderItem (root.child name)
    rw [subfolders_eq_ok_iff.2 ⟨names, ha, htested, rfl⟩]
    refine (subfolders_eq_ok_iff.2 ⟨others, hb, fun name hname => ?_, ?_⟩).symm
    · rw [← hsame name]
      exact htested name (hperm.mem_iff.2 hname)
    · rw [← Text.mergeSort_eq_of_perm (hperm.filter _)]
      simp only [hsame]

end Reorders

/-- The faults of two entries differ. -/
theorem longFault_inj {name other : Text} :
    longFault root name = longFault root other ↔ name = other := by
  constructor
  · intro h
    have htext : (root.child name).text = (root.child other).text := by
      injection h with hrefused
      injection hrefused
    by_cases hparts : root.parts = []
    · rw [Path.text_child_of_eq_nil hparts, Path.text_child_of_eq_nil hparts] at htext
      exact List.append_cancel_left htext
    · rw [Path.text_child_of_ne_nil hparts, Path.text_child_of_ne_nil hparts] at htext
      exact (List.cons_inj_right '/').1 (List.append_cancel_left htext)
  · exact congrArg (longFault root)

/-! ## Loading -/

/-- What has been noted before the folders of the root are looked for. -/
def firstNotes (root : Text) : LayoutChoice → List Note
  | .auto => []
  | .always layout => [.loading root layout]

/-- Without folders nothing is loaded. -/
theorem load_of_subfolders_error {root : Text} {fault : AccessFault}
    (h : subfolders tree (Path.ofText root) = .error fault) (catalog : Option (List Entry))
    (choice : LayoutChoice) :
    load tree root catalog choice = ⟨firstNotes root choice, .error (.access fault)⟩ := by
  unfold load
  cases choice with
  | auto =>
      dsimp only
      rw [detectLayout, h]
      rfl
  | always layout =>
      cases layout with
      | byWeight =>
          dsimp only
          rw [loadByWeight, h]
          rfl
      | byIcon =>
          dsimp only
          rw [loadByIcon, h]
          rfl

/-- A refused entry stops the loading in a layout that is known. -/
theorem loadNamed_of_firstRefused {root layout : Text} {choice : LayoutChoice}
    (hchoice : LayoutChoice.ofName? layout = some choice)
    (h : firstRefused? tree (Path.ofText root) = some name) (catalog : Option (List Entry)) :
    loadNamed tree root catalog layout =
      ⟨firstNotes root choice, .error (.access (longFault (Path.ofText root) name))⟩ := by
  rw [loadNamed, hchoice]
  exact load_of_subfolders_error (subfolders_of_firstRefused h) catalog choice

/-- A layout that is not known is found out before anything is listed. -/
theorem loadNamed_of_unknown {root layout : Text} (h : LayoutChoice.ofName? layout = none)
    (catalog : Option (List Entry)) :
    loadNamed tree root catalog layout = .of (.error (.unknownLayout layout)) := by
  rw [loadNamed, h]
  rfl

/-- When no entry is refused, the order of the listings does not matter. -/
theorem loadNamed_of_firstRefused_eq_none (h : a.Reorders b) {root : Text}
    (hnone : firstRefused? a (Path.ofText root) = none) (catalog : Option (List Entry))
    (layout : Text) : loadNamed a root catalog layout = loadNamed b root catalog layout := by
  rw [loadNamed, loadNamed]
  cases LayoutChoice.ofName? layout with
  | none => rfl
  | some choice => exact load_of_subfolders_eq h (subfolders_of_reorders h hnone) catalog choice

/-- The same is noted in every order. -/
theorem events_loadNamed_of_reorders (h : a.Reorders b) (root : Text)
    (catalog : Option (List Entry)) (layout : Text) :
    (loadNamed a root catalog layout).events = (loadNamed b root catalog layout).events := by
  cases hchoice : LayoutChoice.ofName? layout with
  | none => rw [loadNamed_of_unknown hchoice, loadNamed_of_unknown hchoice]
  | some choice =>
      rcases firstRefused?_cases (Path.ofText root) h with ⟨ha, -⟩ | ⟨name, other, ha, hb⟩
      · rw [loadNamed_of_firstRefused_eq_none h ha]
      · rw [loadNamed_of_firstRefused hchoice ha, loadNamed_of_firstRefused hchoice hb]

/-- The result is the same unless another entry is the first that is refused. -/
theorem result_loadNamed_eq_iff (h : a.Reorders b) (root : Text) (catalog : Option (List Entry))
    (layout : Text) :
    (loadNamed a root catalog layout).result = (loadNamed b root catalog layout).result ↔
      LayoutChoice.ofName? layout = none ∨
        firstRefused? a (Path.ofText root) = firstRefused? b (Path.ofText root) := by
  cases hchoice : LayoutChoice.ofName? layout with
  | none =>
      rw [loadNamed_of_unknown hchoice, loadNamed_of_unknown hchoice]
      exact iff_of_true rfl (Or.inl rfl)
  | some choice =>
      rcases firstRefused?_cases (Path.ofText root) h with ⟨ha, hb⟩ | ⟨name, other, ha, hb⟩
      · rw [loadNamed_of_firstRefused_eq_none h ha, ha, hb]
        exact iff_of_true rfl (Or.inr rfl)
      · rw [loadNamed_of_firstRefused hchoice ha, loadNamed_of_firstRefused hchoice hb, ha, hb]
        simp [longFault_inj]

/-- Whatever the order of the listings, a tree loads with the same notes and to the same result,
unless entries of the root have paths that are too long for the system. Then it loads in no order
and in no layout that is known, and the fault names the first of these entries in the listing of
the root. -/
theorem loadNamed_of_reorders (h : a.Reorders b) (root : Text) (catalog : Option (List Entry))
    (layout : Text) :
    (loadNamed a root catalog layout).events = (loadNamed b root catalog layout).events ∧
      ((loadNamed a root catalog layout).result = (loadNamed b root catalog layout).result ↔
        LayoutChoice.ofName? layout = none ∨
          firstRefused? a (Path.ofText root) = firstRefused? b (Path.ofText root)) ∧
      (firstRefused? a (Path.ofText root)).isSome = (firstRefused? b (Path.ofText root)).isSome ∧
      (∀ name, firstRefused? a (Path.ofText root) = some name →
        (LayoutChoice.ofName? layout).isSome → (loadNamed a root catalog layout).result =
          .error (.access (longFault (Path.ofText root) name))) ∧
      (a.IsProper → a.HasNoNul → ∀ names, a.list (Path.ofText root) = .ok names →
        ∀ name ∈ names, refuses a (Path.ofText root) name ↔
          ¬((Path.ofText root).child name).IsShort) := by
  refine ⟨events_loadNamed_of_reorders h root catalog layout,
    result_loadNamed_eq_iff h root catalog layout, isSome_firstRefused? _ h, ?refused, ?long⟩
  case refused =>
    intro name hname hknown
    obtain ⟨choice, hchoice⟩ := Option.isSome_iff_exists.1 hknown
    rw [loadNamed_of_firstRefused hchoice hname]
  case long =>
    exact fun hproper hnul names hlist name hname => refuses_iff hproper hnul hlist hname

/-! ## Two long paths -/

/-- A path that goes into a folder and out of it again many times, and that ends there. -/
def winding (name : Text) : Text :=
  Text.joined ['/'] ((List.replicate 15 [name, ['.', '.']]).flatten ++ [name])

/-- A name that is almost as long as the system takes, in few characters of four bytes each. -/
def longName : Text := List.replicate 63 '𝄞'

/-- A path to the folder of this name that is almost as long as the system takes. -/
def windingRoot : Text := winding longName

/-- Names of two folders in that folder. -/
def leftName : Text := "left".toList

def rightName : Text := "right".toList

/-- The folders, listed in an order. -/
def forkedTree (first second : Text) (h : first ≠ second) : Tree :=
  ⟨[([longName], .folder), ([longName, first], .folder), ([longName, second], .folder)], by
    simp [h]⟩

def leftFirst : Tree := forkedTree leftName rightName (by decide)

def rightFirst : Tree := forkedTree rightName leftName (by decide)

theorem leftFirst_reorders : leftFirst.Reorders rightFirst := (List.Perm.swap _ _ []).cons _

theorem firstRefused?_leftFirst :
    firstRefused? leftFirst (Path.ofText windingRoot) = some leftName := by decide +kernel

theorem firstRefused?_rightFirst :
    firstRefused? rightFirst (Path.ofText windingRoot) = some rightName := by decide +kernel

/-- The two folders are found from the folder that they are in. From the end of the winding path
they cannot be tested, and the one that is listed first is named. -/
theorem loadNamed_of_reorders_forked :
    leftFirst.Reorders rightFirst ∧
      (loadNamed leftFirst longName none "auto".toList).result =
        (loadNamed rightFirst longName none "auto".toList).result ∧
      (loadNamed leftFirst windingRoot none "auto".toList).events =
        (loadNamed rightFirst windingRoot none "auto".toList).events ∧
      (loadNamed leftFirst windingRoot none "auto".toList).result =
        .error (.access (longFault (Path.ofText windingRoot) leftName)) ∧
      (loadNamed rightFirst windingRoot none "auto".toList).result =
        .error (.access (longFault (Path.ofText windingRoot) rightName)) ∧
      ¬((Path.ofText windingRoot).child leftName).IsShort := by
  obtain ⟨-, hshort, -⟩ := loadNamed_of_reorders leftFirst_reorders longName none "auto".toList
  obtain ⟨hevents, -, -, hleft, hlong⟩ :=
    loadNamed_of_reorders leftFirst_reorders windingRoot none "auto".toList
  obtain ⟨-, -, -, hright, -⟩ :=
    loadNamed_of_reorders leftFirst_reorders.symm windingRoot none "auto".toList
  have hlist : leftFirst.list (Path.ofText windingRoot) = .ok [leftName, rightName] := by
    decide +kernel
  have hnul : leftFirst.HasNoNul := by
    unfold HasNoNul
    decide +kernel
  refine ⟨leftFirst_reorders, hshort.2 (Or.inr (by decide +kernel)), hevents,
    hleft _ firstRefused?_leftFirst (by decide), hright _ firstRefused?_rightFirst (by decide),
    (hlong (by decide +kernel) hnul _ hlist leftName List.mem_cons_self).1 (by decide +kernel)⟩

/-- The order of a listing can show in what is loaded: in the fault that stops the loading. -/
theorem not_forall_loadNamed_eq : ¬ ∀ (a b : Tree) (root : Text) (catalog : Option (List Entry))
    (layout : Text), a.Reorders b → loadNamed a root catalog layout =
      loadNamed b root catalog layout := by
  intro h
  have hsame := h leftFirst rightFirst windingRoot none "auto".toList leftFirst_reorders
  have hauto : LayoutChoice.ofName? "auto".toList = some .auto := by decide
  rw [loadNamed_of_firstRefused hauto firstRefused?_leftFirst,
    loadNamed_of_firstRefused hauto firstRefused?_rightFirst] at hsame
  injection hsame with _ hresult
  injection hresult with hfault
  injection hfault with haccess
  exact absurd (longFault_inj.1 haccess) (by decide)

end Iconsmith.Assets
