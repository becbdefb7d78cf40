import Iconsmith.Proofs.Elm.Unambiguity

set_option autoImplicit false

/-!
# Elements without an envelope

An element called `svg` is written as the bare list of what is in it, wherever it stands. So the
expression for a drawing is a list of items which are applications or lists, at every depth one
for each element, and a reader for such lists tells which (`itemList?_element`). All of them are
applications exactly if no element below the root is called as the root is.
-/

namespace Iconsmith.Elm

open Markup Drawing

/-! ## Items -/

/-- An item of a list, apart from how it is written: the function that is applied, with its
attributes by the names of theirs, and the items in the list that follows. An item in which
nothing is applied is a bare list. -/
inductive Item where
  | mk (head : Option (Text × List (Text × Text))) (children : List Item)

namespace Item

/-- What is applied in an item. -/
def head : Item → Option (Text × List (Text × Text))
  | ⟨head, _⟩ => head

/-- What is applied, as it is written in front of the list. -/
def appliedText : Option (Text × List (Text × Text)) → Text
  | some (name, attributes) =>
      "S.".toList ++ name ++ ' ' :: listOf (attributes.map attributeText) ++ [' ']
  | none => []

mutual

/-- An item as it is written. -/
def text : Item → Text
  | ⟨head, children⟩ => appliedText head ++ listOf (texts children)

/-- Items as they are written. -/
def texts : List Item → List Text
  | [] => []
  | i :: rest => text i :: texts rest

end

mutual

/-- An item and all items in it, in the order in which they begin. -/
def all : Item → List Item
  | ⟨head, children⟩ => ⟨head, children⟩ :: forestAll children

/-- Some items and all items in them. -/
def forestAll : List Item → List Item
  | [] => []
  | i :: rest => all i ++ forestAll rest

end

mutual

/-- How deep items stand in one another. -/
def depth : Item → Nat
  | ⟨_, children⟩ => forestDepth children + 1

/-- How deep some items and those in them stand. -/
def forestDepth : List Item → Nat
  | [] => 0
  | i :: rest => max (depth i) (forestDepth rest)

end

/-- Whether no name in what is applied holds a space. -/
def IsHead (head : Option (Text × List (Text × Text))) : Prop :=
  ∀ name attributes, head = some (name, attributes) → ' ' ∉ name ∧ ∀ a ∈ attributes, ' ' ∉ a.1

/-- Whether no name in an item holds a space. -/
def IsSpelled (i : Item) : Prop := ∀ x ∈ i.all, IsHead x.head

theorem texts_eq_map (is : List Item) : texts is = is.map text := by
  induction is with
  | nil => rfl
  | cons i rest ih => rw [texts, ih, List.map_cons]

theorem forall_mem_forestAll_iff {P : Item → Prop} (is : List Item) :
    (∀ x ∈ forestAll is, P x) ↔ ∀ i ∈ is, ∀ x ∈ i.all, P x := by
  induction is with
  | nil => simp [forestAll]
  | cons i rest ih => rw [forestAll, List.forall_mem_append, ih, List.forall_mem_cons]

theorem isSpelled_mk_iff {head : Option (Text × List (Text × Text))} {children : List Item} :
    IsSpelled ⟨head, children⟩ ↔ IsHead head ∧ ∀ i ∈ children, i.IsSpelled := by
  rw [IsSpelled, all, List.forall_mem_cons, forall_mem_forestAll_iff]
  rfl

theorem forestDepth_le_iff (is : List Item) (n : Nat) :
    forestDepth is ≤ n ↔ ∀ i ∈ is, i.depth ≤ n := by
  induction is with
  | nil => simp [forestDepth]
  | cons i rest ih => rw [forestDepth, Nat.max_le, ih, List.forall_mem_cons]

end Item

open Item

/-! ## Reading items -/

/-- Reads what is applied in front of a list. -/
def applied? : Text → Option (Option (Text × List (Text × Text)) × Text)
  | 'S' :: '.' :: t => do
      let (name, t) ← Text.cutFirst ' ' t
      let (attributes, t) ← list? attribute? t
      let t ← space? t
      return (some (name, attributes), t)
  | t => some (none, t)

theorem applied?_eq_some {t u : Text} {head : Option (Text × List (Text × Text))} :
    applied? t = some (head, '[' :: u) ↔ IsHead head ∧ t = appliedText head ++ '[' :: u := by
  have hattributes := isReader_list? isReader_attribute?
  rw [applied?.eq_def]
  constructor
  · intro h
    split at h
    · obtain ⟨⟨name, afterName⟩, hname, h⟩ := Option.bind_eq_some_iff.1 h
      obtain ⟨⟨attributes, afterAttributes⟩, hread, h⟩ := Option.bind_eq_some_iff.1 h
      obtain ⟨afterSpace, hgap, h⟩ := Option.bind_eq_some_iff.1 h
      cases h
      obtain ⟨rfl, hspace⟩ := Text.cutFirst_eq_some.1 hname
      obtain ⟨hnames, rfl⟩ := (hattributes _ _ _).1 hread
      obtain rfl := space?_eq_some.1 hgap
      refine ⟨?_, by simp [appliedText]⟩
      intro name' attributes' heq
      cases heq
      exact ⟨hspace, hnames⟩
    · cases h
      exact ⟨nofun, rfl⟩
  · rintro ⟨hhead, rfl⟩
    cases head with
    | none => rfl
    | some f =>
        obtain ⟨name, attributes⟩ := f
        obtain ⟨hspace, hnames⟩ := hhead name attributes rfl
        have hname : Text.cutFirst ' ' (name ++ ' ' :: (listOf (attributes.map attributeText) ++
            ' ' :: '[' :: u)) =
              some (name, listOf (attributes.map attributeText) ++ ' ' :: '[' :: u) :=
          Text.cutFirst_eq_some.2 ⟨rfl, hspace⟩
        have hread := (hattributes _ attributes (' ' :: '[' :: u)).2 ⟨hnames, rfl⟩
        simp [appliedText, hname, hread, space?]

/-- Reads an item in which items stand at most so deep. -/
def item? : Nat → Text → Option (Item × Text)
  | 0, _ => none
  | depth + 1, t => do
      let (head, t) ← applied? t
      let (children, t) ← list? (item? depth) t
      return (⟨head, children⟩, t)

theorem exists_listOf_eq (parts : List Text) : ∃ rest, listOf parts = '[' :: rest := by
  cases parts with
  | nil => exact ⟨_, rfl⟩
  | cons part parts => exact ⟨_, rfl⟩

/-- Items whose names hold no spaces are read as they are written. -/
theorem isReader_item? (n : Nat) :
    IsReader (item? n) (fun i => i.IsSpelled ∧ i.depth ≤ n) text := by
  -- On the depth allowed, of which each item takes one for its children.
  induction n with
  | zero =>
      rintro t ⟨head, children⟩ u
      beta_reduce
      rw [item?, Item.depth]
      constructor
      · intro h
        cases h
      · rintro ⟨⟨-, hdepth⟩, -⟩
        exact absurd hdepth (Nat.not_succ_le_zero _)
  | succ n ih =>
      have hchildren := isReader_list? ih
      rintro t ⟨head, children⟩ u
      obtain ⟨rest, hrest⟩ := exists_listOf_eq (children.map text)
      beta_reduce
      rw [item?, isSpelled_mk_iff, Item.depth, Nat.add_le_add_iff_right, forestDepth_le_iff,
        Item.text, texts_eq_map]
      constructor
      · intro h
        obtain ⟨⟨head', afterHead⟩, hhead, h⟩ := Option.bind_eq_some_iff.1 h
        obtain ⟨⟨children', afterChildren⟩, hinside, h⟩ := Option.bind_eq_some_iff.1 h
        cases h
        obtain ⟨hall, rfl⟩ := (hchildren _ _ _).1 hinside
        beta_reduce at hhead
        rw [hrest] at hhead
        obtain ⟨hspelled, rfl⟩ := applied?_eq_some.1 hhead
        refine ⟨⟨⟨hspelled, fun i hi => (hall i hi).1⟩, fun i hi => (hall i hi).2⟩, ?_⟩
        rw [hrest, List.append_assoc]
        rfl
      · rintro ⟨⟨⟨hspelled, hall⟩, hdepth⟩, rfl⟩
        have hhead := applied?_eq_some.2
          (⟨hspelled, rfl⟩ : IsHead head ∧ appliedText head ++ '[' :: (rest ++ u) = _)
        rw [← List.cons_append, ← hrest] at hhead
        have hinside := (hchildren _ children u).2 ⟨fun i hi => ⟨hall i hi, hdepth i hi⟩, rfl⟩
        simp [hhead, hinside]

/-- Reads a text that is a list of items. No item stands deeper in a text than the text is
long. -/
def itemList? (t : Text) : Option (List Item) :=
  match list? (item? t.length) t with
  | some (is, []) => some is
  | _ => none

mutual

theorem depth_le_length_itemText : ∀ i : Item, i.depth ≤ (text i).length
  | ⟨head, children⟩ => by
      have hchildren := forestDepth_lt_length_listOf children
      simp only [depth, text, List.length_append]
      omega

theorem forestDepth_lt_length_listOf : ∀ is : List Item,
    forestDepth is < (listOf (texts is)).length
  | [] => Nat.zero_lt_succ _
  | [i] => by
      have hfirst := depth_le_length_itemText i
      have hopen : "[ ".toList.length = 2 := rfl
      simp only [Item.forestDepth, texts, listOf, Text.joined, List.length_append, hopen]
      omega
  | i :: next :: rest => by
      have hfirst := depth_le_length_itemText i
      have hrest := forestDepth_lt_length_listOf (next :: rest)
      have hopen : "[ ".toList.length = 2 := rfl
      simp only [texts, listOf, Text.joined, List.length_append, hopen] at hrest ⊢
      rw [Item.forestDepth]
      omega

end

/-- The reader reads the lists of items whose names hold no spaces as they are written, and
nothing else. -/
theorem itemList?_eq_some {t : Text} {is : List Item} :
    itemList? t = some is ↔ (∀ i ∈ is, i.IsSpelled) ∧ t = listOf (texts is) := by
  have hlist := isReader_list? (isReader_item? t.length)
  rw [itemList?]
  constructor
  · intro h
    split at h
    · rename_i is' hread
      cases h
      obtain ⟨hall, heq⟩ := (hlist _ _ _).1 hread
      exact ⟨fun i hi => (hall i hi).1, by rw [heq, texts_eq_map, List.append_nil]⟩
    · cases h
  · rintro ⟨hspelled, rfl⟩
    have hdepth := (forestDepth_le_iff is _).1 (Nat.le_of_lt (forestDepth_lt_length_listOf is))
    have hread := (hlist (listOf (texts is)) is []).2
      ⟨fun i hi => ⟨hspelled i hi, hdepth i hi⟩, by rw [texts_eq_map, List.append_nil]⟩
    rw [hread]

/-! ## Items of elements -/

/-- What is applied for an element: nothing for one that is called as the root is. -/
def headOf (name : Text) (table : Table Text Text) : Option (Text × List (Text × Text)) :=
  if name = rootName then none
  else some (name, table.rows.map fun row => (attributeName row.1, row.2))

mutual

/-- The item for an element. -/
def itemOf : Element → Item
  | ⟨name, table, children⟩ => ⟨headOf name table, itemsOf children⟩

/-- The items for some elements. -/
def itemsOf : List Element → List Item
  | [] => []
  | e :: rest => itemOf e :: itemsOf rest

end

theorem head_itemOf (e : Element) : (itemOf e).head = headOf e.name e.attributes := by
  obtain ⟨name, table, children⟩ := e
  rfl

theorem isSome_head_itemOf_iff (e : Element) :
    (itemOf e).head.isSome ↔ e.name ≠ rootName := by
  rw [head_itemOf, headOf]
  split <;> simp_all

mutual

/-- Expressions for elements are written as items, whatever the elements are called. -/
theorem element_eq_itemText : ∀ e : Element, element e = (itemOf e).text
  | ⟨name, table, children⟩ => by
      have hchildren := elements_eq_itemTexts children
      have hcalled : rootName = "svg".toList := rfl
      rw [element, itemOf, Item.text, headOf, hcalled, hchildren]
      by_cases hname : name = "svg".toList
      · rw [if_pos hname, if_pos hname, appliedText, List.nil_append]
      · rw [if_neg hname, if_neg hname, appliedText, attributes_eq_map]
        simp

theorem elements_eq_itemTexts : ∀ es : List Element, elements es = Item.texts (itemsOf es)
  | [] => rfl
  | e :: rest => by
      rw [elements, itemsOf, Item.texts, element_eq_itemText e, elements_eq_itemTexts rest]

end

mutual

/-- Every element has its item, at its place. -/
theorem all_itemOf : ∀ e : Element, (itemOf e).all = (Drawing.elements e).map itemOf
  | ⟨name, table, children⟩ => by
      have hchildren := forestAll_itemsOf children
      rw [itemOf, all, hchildren, Drawing.elements, List.map_cons, itemOf]

theorem forestAll_itemsOf : ∀ es : List Element,
    forestAll (itemsOf es) = (forestElements es).map itemOf
  | [] => rfl
  | e :: rest => by
      rw [itemsOf, forestAll, all_itemOf e, forestAll_itemsOf rest, forestElements,
        List.map_append]

end

/-- The items for elements that are called by names are spelled without spaces. -/
theorem isHead_headOf {e : Element} (h : e.IsNamed) : IsHead (headOf e.name e.attributes) := by
  obtain ⟨hname, hrows⟩ := h
  intro name attributes heq
  rw [headOf] at heq
  split at heq
  · cases heq
  · cases heq
    refine ⟨space_not_mem_of_isName hname, fun a ha => ?_⟩
    obtain ⟨row, hrow, rfl⟩ := List.mem_map.1 ha
    exact not_mem_attributeName (by decide) (space_not_mem_of_isName (hrows row hrow))

/-- The expression for a drawing is read as the items for the elements in it. -/
theorem itemList?_eq_itemsOf {t : Text} {root : Element} (h : Drawing.read t = .ok root) :
    itemList? (element root) = some (itemsOf root.children) := by
  obtain ⟨hparse, hname⟩ := read_eq_ok.1 h
  have hnamed := Document.isNamed_of_parse hparse
  refine itemList?_eq_some.2 ⟨(forall_mem_forestAll_iff _).1 ?_, ?_⟩
  · rw [forestAll_itemsOf, List.forall_mem_map]
    intro e he
    rw [head_itemOf]
    refine isHead_headOf (hnamed e ?_)
    obtain ⟨name, table, children⟩ := root
    rw [Drawing.elements]
    exact List.mem_cons_of_mem _ he
  · rw [element_of_name hname, elements_eq_itemTexts]

theorem map_head_itemsOf (es : List Element) :
    (forestAll (itemsOf es)).map Item.head =
      (forestElements es).map fun e => headOf e.name e.attributes := by
  rw [forestAll_itemsOf, List.map_map]
  exact List.map_congr_left fun e _ => head_itemOf e

/-- The expression for a drawing is read as a list with one item for each element below the root,
at its place, by a reader that reads just the lists of items. It applies a function everywhere
exactly if no element below the root is called as the root is: the item for such an element is
the bare list of what is in it, without its attributes. -/
theorem itemList?_element {t : Text} {root : Element} (h : Drawing.read t = .ok root) :
    (∀ s is, itemList? s = some is ↔ (∀ i ∈ is, i.IsSpelled) ∧ s = listOf (texts is)) ∧
      itemList? (element root) = some (itemsOf root.children) ∧
        forestAll (itemsOf root.children) = (forestElements root.children).map itemOf ∧
        ((∀ i ∈ forestAll (itemsOf root.children), i.head.isSome) ↔
          ∀ e ∈ forestElements root.children, e.name ≠ rootName) := by
  refine ⟨fun s is => itemList?_eq_some, itemList?_eq_itemsOf h, forestAll_itemsOf _, ?_⟩
  rw [forestAll_itemsOf, List.forall_mem_map]
  exact forall₂_congr fun e _ => isSome_head_itemOf_iff e

/-! ## A drawing in a drawing -/

/-- The text of a drawing with another one in it. -/
def nested : Text := "<svg><svg x=\"1\"><path d=\"M1 1\"/></svg></svg>".toList

/-- The drawing in it. -/
def nestedRoot : Element :=
  ⟨rootName, Table.ofList [],
    [⟨rootName, Table.ofList [("x".toList, "1".toList)],
      [⟨"path".toList, Table.ofList [("d".toList, "M1 1".toList)], []⟩]⟩]⟩

theorem read_nested : Drawing.read nested = .ok nestedRoot := by rfl

/-- The inner drawing is written as a bare list, which has lost the attribute. -/
theorem itemList?_element_nested :
    element nestedRoot = "[ [ S.path [ A.d \"M1 1\" ] [] ] ]".toList ∧
      itemList? (element nestedRoot) =
        some [⟨none, [⟨some ("path".toList, [("d".toList, "M1 1".toList)]), []⟩]⟩] :=
  ⟨by rfl, (itemList?_element read_nested).2.1⟩

/-- Not every element below the root is written as an application with its attributes. -/
theorem not_forall_element_applied :
    ¬ ∀ (t : Text) (root : Element), Drawing.read t = .ok root →
      ∃ is, itemList? (element root) = some is ∧
        (forestAll is).map Item.head = (forestElements root.children).map fun e =>
          some (e.name, e.attributes.rows.map fun row => (attributeName row.1, row.2)) := by
  intro hall
  obtain ⟨is, hread, hheads⟩ := hall nested nestedRoot read_nested
  rw [itemList?_eq_itemsOf read_nested] at hread
  rw [← Option.some.inj hread, map_head_itemsOf] at hheads
  exact absurd hheads (by decide)

end Iconsmith.Elm
