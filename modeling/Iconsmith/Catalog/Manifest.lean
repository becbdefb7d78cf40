import Iconsmith.Catalog.Entry
import Iconsmith.Json.Value

set_option autoImplicit false

/-!
# Manifest entries

A manifest lists the icons as JSON objects. `Catalog.ofJson` turns the items into
catalog entries in the same order, or reports every fault of the first faulty
item. Keys other than the name, the pascal name and the alias are ignored.
-/

namespace Iconsmith.Catalog

/-! ## Faults -/

/-- What is wrong with a field of an item, or with the item itself. -/
inductive FieldFault where
  | missing
  | notText
  | notEntry
  | notAlias
  deriving DecidableEq

/-- A fault and the path of field names that leads to it. -/
structure Issue where
  fault : FieldFault
  place : List Text
  deriving DecidableEq

/-- The word for a kind of fault. -/
def FieldFault.word : FieldFault → Text
  | .missing => "missing".toList
  | .notText => "string_type".toList
  | .notEntry | .notAlias => "model_type".toList

/-- The wording of a fault. -/
def FieldFault.text : FieldFault → Text
  | .missing => "Field required".toList
  | .notText => "Input should be a valid string".toList
  | .notEntry => "Input should be a valid dictionary or instance of IconCatalogEntry".toList
  | .notAlias => "Input should be a valid dictionary or instance of IconAlias".toList

/-! ## Validation -/

/-- Two results side by side, with the faults of both. -/
def both {α β : Type} (a : Except (List Issue) α) (b : Except (List Issue) β) :
    Except (List Issue) (α × β) :=
  match a, b with
  | .ok x, .ok y => .ok (x, y)
  | .error e, .ok _ => .error e
  | .ok _, .error f => .error f
  | .error e, .error f => .error (e ++ f)

/-- A required text field of an object that is reached by `place`. -/
def textField (place : List Text) (members : List (Text × Json)) (name : Text) :
    Except (List Issue) Text :=
  match Json.member? name members with
  | some (.string t) => .ok t
  | some _ => .error [⟨.notText, place ++ [name]⟩]
  | none => .error [⟨.missing, place ++ [name]⟩]

/-- The two names that entries and aliases have. -/
def nameFields (place : List Text) (members : List (Text × Json)) :
    Except (List Issue) (Text × Text) :=
  both (textField place members "name".toList) (textField place members "pascal_name".toList)

/-- The optional alias of an item; `null` is no alias. -/
def aliasField (members : List (Text × Json)) : Except (List Issue) (Option Alias) :=
  match Json.member? "alias".toList members with
  | none | some .null => .ok none
  | some (.object inner) =>
      match nameFields ["alias".toList] inner with
      | .ok (slug, pascal) => .ok (some ⟨slug, pascal⟩)
      | .error issues => .error issues
  | some _ => .error [⟨.notAlias, ["alias".toList]⟩]

/-- The entry of one item, or all its faults in the order of the fields. -/
def entryOfJson : Json → Except (List Issue) Entry
  | .object members =>
      match both (nameFields [] members) (aliasField members) with
      | .ok ((slug, pascal), aka) => .ok ⟨slug, pascal, aka⟩
      | .error issues => .error issues
  | _ => .error [⟨.notEntry, []⟩]

/-- The entries of a list of items, or the faults of the first faulty item. -/
def entriesOfJson : List Json → Except (List Issue) (List Entry)
  | [] => .ok []
  | item :: items =>
      match entryOfJson item with
      | .error issues => .error issues
      | .ok entry =>
          match entriesOfJson items with
          | .error issues => .error issues
          | .ok entries => .ok (entry :: entries)

/-! ## Manifests -/

/-- The values that are taken for the items of the manifest: the items of an
array, the keys of an object, the characters of a string. Other values have no
items. -/
def itemsOf? : Json → Option (List Json)
  | .array items => some items
  | .object members => some (members.map fun m => .string m.1)
  | .string t => some (t.map fun c => .string [c])
  | _ => none

/-- Why a manifest has no catalog: it has no items, or an item has faults. -/
inductive Unfit where
  | noItems
  | invalid (issues : List Issue)
  deriving DecidableEq

/-- The part of a manifest that lists the icons: the member `icons` of an object,
nothing when an object has none, and any other value as a whole. -/
def listing : Json → Json
  | .object members => (Json.member? "icons".toList members).getD (.array [])
  | value => value

/-- The catalog of a manifest. -/
def ofJson (manifest : Json) : Except Unfit (List Entry) :=
  match itemsOf? (listing manifest) with
  | none => .error .noItems
  | some items =>
      match entriesOfJson items with
      | .ok entries => .ok entries
      | .error issues => .error (.invalid issues)

end Iconsmith.Catalog
