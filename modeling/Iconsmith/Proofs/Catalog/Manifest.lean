import Iconsmith.Catalog.File
import Iconsmith.Proofs.Catalog.Entries
import Iconsmith.Proofs.Json.Writing
import Iconsmith.Proofs.Text.Utf8

set_option autoImplicit false

/-!
# Catalogs of manifests

A manifest lists its items as a whole or as the icons of an object (`Lists`). From the file of
either, loading gives the catalog with an entry for each item, if each stands for one, and
otherwise refuses the first item that stands for none, with all that is wrong with it
(`load_of_lists`). There is a file for every manifest that is not nested too deep
(`holdsManifest_written`).
-/

namespace Iconsmith.Catalog

open Json (Holds)

variable {tree : Disk.Tree} {path : Text} {manifest : Json} {items : List Json}

/-! ## Files of manifests -/

/-- A file from which a manifest is read. -/
def HoldsManifest (tree : Disk.Tree) (path : Text) (manifest : Json) : Prop :=
  ∃ bytes raw, tree.readText path = .ok bytes ∧ Text.Utf8.decode? bytes = some raw ∧
    Json.read (Text.withLineFeeds raw) = .ok manifest

/-- A manifest that lists some items. -/
inductive Lists (items : List Json) : Json → Prop where
  | whole : Lists items (.array items)
  | icons {members : List (Text × Json)} : Holds members "icons".toList (.array items) →
      Lists items (.object members)

theorem listing_of_lists (h : Lists items manifest) : listing manifest = .array items := by
  cases h with
  | whole => rfl
  | icons hholds =>
      rw [listing, Json.member?_eq_some_iff.2 hholds]
      rfl

/-- What loading gives hangs on the items that are listed only. -/
theorem load_eq_of_lists (hfile : HoldsManifest tree path manifest)
    (hlists : Lists items manifest) :
    load tree path = (entriesOfJson items).mapError fun issues => .unfit (.invalid issues) := by
  obtain ⟨bytes, raw, hread, hdecode, hmanifest⟩ := hfile
  simp only [load, ofBytes, hread, hdecode, hmanifest, ofJson, listing_of_lists hlists, itemsOf?]
  cases entriesOfJson items <;> rfl

/-- A tree with one file, which has a document in it. -/
def treeOf (document : Text) : Disk.Tree :=
  Disk.Tree.empty.plant ["icons.json".toList] (.file (Text.Utf8.encode document))

/-- A manifest that is not nested too deep is held by a file: that of its document. -/
theorem holdsManifest_written (manifest : Json) (h : manifest.depth ≤ Json.maxDepth) :
    HoldsManifest (treeOf (Json.written manifest)) "icons.json".toList manifest := by
  refine ⟨Text.Utf8.encode (Json.written manifest), Json.written manifest, rfl, ?_, ?_⟩
  · rw [Text.Utf8.decode?, Text.Utf8.firstFault?_encode]
    exact congrArg some (Text.Utf8.decode_encode _)
  · rw [Json.withLineFeeds_written, Json.read_written, if_pos h]

/-! ## Catalogs -/

theorem load_eq_ok_iff (hfile : HoldsManifest tree path manifest) (hlists : Lists items manifest)
    {entries : List Entry} :
    load tree path = .ok entries ↔ List.Forall₂ IsEntry items entries := by
  rw [load_eq_of_lists hfile hlists, ← entriesOfJson_eq_ok_iff]
  cases entriesOfJson items with
  | ok found =>
      constructor
      · rintro ⟨⟩
        rfl
      · rintro ⟨⟩
        rfl
  | error issues => exact iff_of_false (by rintro ⟨⟩) (by rintro ⟨⟩)

/-- The report of a number of faults in the catalog at a path. -/
def invalidMessage (path : Text) (count : Nat) : Text :=
  "Invalid catalog ".toList ++ path ++ ": ".toList ++ Text.ofNat count ++
    (if count = 1 then " validation error for " else " validation errors for ").toList ++
      "IconCatalogEntry".toList

/-- Loading fails with the faults of the first item that stands for no entry, and reports how many
there are. -/
theorem load_eq_error_iff (hfile : HoldsManifest tree path manifest)
    (hlists : Lists items manifest) {fault : Fault} :
    load tree path = .error fault ↔ ∃ good bad rest issues, items = good ++ bad :: rest ∧
      (∀ item ∈ good, IsFit item) ∧ Refuses bad issues ∧ fault = .unfit (.invalid issues) ∧
        fault.message? path = some (invalidMessage path issues.length) := by
  rw [load_eq_of_lists hfile hlists]
  constructor
  · intro h
    cases hitems : entriesOfJson items with
    | ok entries =>
        rw [hitems] at h
        cases h
    | error issues =>
        rw [hitems] at h
        cases h
        obtain ⟨good, bad, rest, hsplit, hgood, hbad⟩ := entriesOfJson_eq_error_iff.1 hitems
        exact ⟨good, bad, rest, issues, hsplit, hgood, hbad, rfl, rfl⟩
  · -- Such a split is what the first bad item makes, so its faults are those that are found.
    rintro ⟨good, bad, rest, issues, hsplit, hgood, hbad, rfl, -⟩
    rw [entriesOfJson_eq_error_iff.2 ⟨good, bad, rest, hsplit, hgood, hbad⟩]
    rfl

/-- From a file that lists items a catalog is loaded exactly if each of them is an object with
its names and, unless it has none, an alias with names of its own. The catalog has the entry of
each item, in the same order. Otherwise the first item that is no such object is refused with all
that is wrong with it, in the order of the fields, and the report counts these faults. It makes no
difference which file lists the items, and in which of the two ways. -/
theorem load_of_lists (hfile : HoldsManifest tree path manifest) (hlists : Lists items manifest) :
    ((∃ entries, load tree path = .ok entries) ↔ ∀ item ∈ items, IsFit item) ∧
    (∀ entries, load tree path = .ok entries ↔ List.Forall₂ IsEntry items entries) ∧
    (∀ fault, load tree path = .error fault ↔ ∃ good bad rest issues,
      items = good ++ bad :: rest ∧ (∀ item ∈ good, IsFit item) ∧ Refuses bad issues ∧
        fault = .unfit (.invalid issues) ∧
          fault.message? path = some (invalidMessage path issues.length)) ∧
    ∀ other otherPath otherManifest, HoldsManifest other otherPath otherManifest →
      Lists items otherManifest → load other otherPath = load tree path := by
  refine ⟨?_, ?_, ?_, ?_⟩
  · rw [← exists_entriesOfJson_iff]
    simp only [load_eq_ok_iff hfile hlists, entriesOfJson_eq_ok_iff]
  · intro entries
    exact load_eq_ok_iff hfile hlists
  · intro fault
    exact load_eq_error_iff hfile hlists
  · intro other otherPath otherManifest hother hotherLists
    rw [load_eq_of_lists hother hotherLists, load_eq_of_lists hfile hlists]

/-! ## A manifest in both ways -/

/-- An item with a member that is not read, and one that is faulty in two of its fields and in two
of its alias. -/
def mixedItems : List Json :=
  [.object [("tags".toList, .array []), ("name".toList, .string "cube".toList),
      ("pascal_name".toList, .string "Cube".toList), ("alias".toList, .null)],
    .object [("name".toList, .number),
      ("alias".toList, .object [("name".toList, .bool false), ("pascal_name".toList, .array [])])],
    .number]

/-- A document of these items. -/
def mixedText : Text :=
  "[\x7b\"tags\": [], \"name\": \"cube\", \"pascal_name\": \"Cube\",\r\n".toList ++
    "  \"alias\": null\x7d,\r\n".toList ++
    " \x7b\"name\": 1, \"alias\": \x7b\"name\": false, \"pascal_name\": []\x7d\x7d, 2]".toList

def mixedIssues : List Issue :=
  [⟨.notText, ["name".toList]⟩, ⟨.missing, ["pascal_name".toList]⟩,
    ⟨.notText, ["alias".toList, "name".toList]⟩, ⟨.notText, ["alias".toList, "pascal_name".toList]⟩]

theorem holdsManifest_mixedText :
    HoldsManifest (treeOf mixedText) "icons.json".toList (.array mixedItems) :=
  ⟨Text.Utf8.encode mixedText, mixedText, by rfl, by decide +kernel,
    Json.read_eq_ok_of_written (by decide +kernel)⟩

/-- The second item is refused, with four faults, wherever the items are listed. The first one
alone makes a catalog. -/
theorem load_of_lists_mixed :
    load (treeOf mixedText) "icons.json".toList = .error (.unfit (.invalid mixedIssues)) ∧
      load (treeOf (Json.written (.object [("icons".toList, .array mixedItems)])))
          "icons.json".toList =
        load (treeOf mixedText) "icons.json".toList ∧
      load (treeOf (Json.written (.array (mixedItems.take 1)))) "icons.json".toList =
        .ok [⟨"cube".toList, "Cube".toList, none⟩] := by
  have hcube : ∀ item ∈ mixedItems.take 1,
      IsEntry item ⟨"cube".toList, "Cube".toList, none⟩ := by
    rintro item (- | ⟨_, ⟨⟩⟩)
    exact entryOfJson_eq_ok_iff.1 (by decide)
  obtain ⟨-, -, herror, hother⟩ := load_of_lists holdsManifest_mixedText .whole
  obtain ⟨-, hok, -⟩ := load_of_lists
    (holdsManifest_written (.array (mixedItems.take 1)) (by decide)) .whole
  refine ⟨(herror _).2 ?_, ?_, (hok _).2 ?_⟩
  · refine ⟨mixedItems.take 1, _, [.number], mixedIssues, rfl, ?_, ?_, rfl, rfl⟩
    · intro item hitem
      exact ⟨_, hcube item hitem⟩
    · exact entryOfJson_eq_error_iff.1 (by decide)
  · exact hother _ _ _ (holdsManifest_written _ (by decide))
      (.icons (Json.member?_eq_some_iff.1 (by rfl)))
  · exact .cons (hcube _ List.mem_cons_self) .nil

end Iconsmith.Catalog
