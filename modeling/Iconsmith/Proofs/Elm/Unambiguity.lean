import Iconsmith.Proofs.Elm.Names
import Iconsmith.Proofs.Elm.Reader
import Iconsmith.Proofs.Markup.Names

set_option autoImplicit false

/-!
# Expressions tell their drawings

The expression for a drawing can be read back: the reader gives the elements of the drawing with
their attributes, in order and at their places, each attribute under the name of its function
and with its value (`forest?_element`). Two drawings with one expression differ at most in names
of attributes that have the same function. An element called `svg` inside a drawing is left out
of this, since its expression does not show it.
-/

namespace Iconsmith.Elm

open Markup Drawing

/-! ## What expressions say -/

mutual

/-- What the expression for an element says: the name of the element, and its attributes by
the functions for them. -/
def shape : Element → Expression
  | ⟨name, table, children⟩ =>
      ⟨name, table.rows.map fun row => (attributeName row.1, row.2), shapes children⟩

/-- What the expressions for some elements say. -/
def shapes : List Element → List Expression
  | [] => []
  | e :: rest => shape e :: shapes rest

end

theorem attributes_eq_map (table : Table Text Text) :
    attributes table =
      (table.rows.map fun row => (attributeName row.1, row.2)).map attributeText := by
  rw [attributes, List.map_map]
  rfl

mutual

/-- Where no element is called `svg`, expressions are written as they should be. -/
theorem element_eq_text : ∀ e : Element, (∀ x ∈ Drawing.elements e, x.name ≠ rootName) →
    element e = (shape e).text
  | ⟨name, table, children⟩, h => by
      rw [Drawing.elements] at h
      have hname : name ≠ "svg".toList := h _ List.mem_cons_self
      have hchildren := elements_eq_texts children fun x hx => h x (List.mem_cons_of_mem _ hx)
      rw [element, if_neg hname, shape, Expression.text, hchildren, attributes_eq_map]

theorem elements_eq_texts : ∀ es : List Element,
    (∀ x ∈ forestElements es, x.name ≠ rootName) → elements es = Expression.texts (shapes es)
  | [], _ => rfl
  | e :: rest, h => by
      rw [forestElements] at h
      have hfirst := element_eq_text e fun x hx => h x (List.mem_append_left _ hx)
      have hrest := elements_eq_texts rest fun x hx => h x (List.mem_append_right _ hx)
      rw [elements, shapes, Expression.texts, hfirst, hrest]

end

mutual

/-- What is said of elements that are called by names is spelled without spaces. -/
theorem isSpelled_shape : ∀ e : Element, (∀ x ∈ Drawing.elements e, x.IsNamed) →
    (shape e).IsSpelled
  | ⟨name, table, children⟩, h => by
      rw [Drawing.elements] at h
      obtain ⟨hname, hrows⟩ := h _ List.mem_cons_self
      have hchildren := areSpelled_shapes children fun x hx => h x (List.mem_cons_of_mem _ hx)
      rw [shape, Expression.IsSpelled]
      refine ⟨space_not_mem_of_isName hname, fun a ha => ?_, hchildren⟩
      obtain ⟨row, hrow, rfl⟩ := List.mem_map.1 ha
      exact not_mem_attributeName (by decide) (space_not_mem_of_isName (hrows row hrow))

theorem areSpelled_shapes : ∀ es : List Element, (∀ x ∈ forestElements es, x.IsNamed) →
    Expression.AreSpelled (shapes es)
  | [], _ => trivial
  | e :: rest, h => by
      rw [forestElements] at h
      exact ⟨isSpelled_shape e fun x hx => h x (List.mem_append_left _ hx),
        areSpelled_shapes rest fun x hx => h x (List.mem_append_right _ hx)⟩

end

/-! ## Reading back -/

/-- The expression for a drawing is that of the elements in it. -/
theorem element_of_name {root : Element} (h : root.name = rootName) :
    element root = listOf (elements root.children) := by
  obtain ⟨name, table, children⟩ := root
  obtain rfl : name = "svg".toList := h
  rw [element, if_pos rfl]
  rfl

/-- A text is that of a drawing in which no other element is called as the root is. -/
structure Draws (t : Text) (root : Element) : Prop where
  read : Drawing.read t = .ok root
  below : ∀ e ∈ forestElements root.children, e.name ≠ rootName

theorem Draws.forest?_eq {t : Text} {root : Element} (h : Draws t root) :
    forest? (element root) = some (shapes root.children) := by
  obtain ⟨hparse, hname⟩ := read_eq_ok.1 h.read
  have hnamed := Document.isNamed_of_parse hparse
  have hspelled := areSpelled_shapes root.children fun x hx => hnamed x (by
    obtain ⟨name, table, children⟩ := root
    rw [Drawing.elements]
    exact List.mem_cons_of_mem _ hx)
  refine forest?_eq_some.2 ⟨(Expression.areSpelled_iff _).1 hspelled, ?_⟩
  rw [element_of_name hname, elements_eq_texts _ h.below, forestText]

/-- The expression for a drawing is read back as what it says of the elements in the drawing,
by a reader that reads just the lists of expressions. So drawings with one expression have the
same elements at the same places, with the same values for the same functions. -/
theorem forest?_element {t : Text} {root : Element} (h : Draws t root) :
    (∀ s es, forest? s = some es ↔ (∀ e ∈ es, e.IsSpelled) ∧ s = forestText es) ∧
      forest? (element root) = some (shapes root.children) ∧
        ∀ t' root', Draws t' root' → element root' = element root →
          shapes root'.children = shapes root.children := by
  refine ⟨fun s es => forest?_eq_some, h.forest?_eq, fun t' root' h' hsame => ?_⟩
  have hread := h'.forest?_eq
  rw [hsame, h.forest?_eq] at hread
  exact (Option.some.inj hread).symm

/-! ## A drawing with misleading values -/

/-- The text of a drawing whose values look like expressions. -/
def misleading : Text :=
  ("<svg><g fill-rule='\" ] [ S.x [] []'>" ++
    "<path d='\\' type='\\\"'/></g><a/></svg>").toList

/-- The drawing in it. -/
def misleadingRoot : Element :=
  ⟨rootName, Table.ofList [],
    [⟨"g".toList, Table.ofList [("fill-rule".toList, "\" ] [ S.x [] []".toList)],
      [⟨"path".toList, Table.ofList [("d".toList, "\\".toList), ("type".toList, "\\\"".toList)],
        []⟩]⟩,
      ⟨"a".toList, Table.ofList [], []⟩]⟩

theorem draws_misleading : Draws misleading misleadingRoot where
  read := by rfl
  below := by decide

theorem forest?_element_misleading :
    Draws misleading misleadingRoot ∧
      forest? (element misleadingRoot) =
        some [⟨"g".toList, [("fillRule".toList, "\" ] [ S.x [] []".toList)],
          [⟨"path".toList, [("d".toList, "\\".toList), ("type_".toList, "\\\"".toList)], []⟩]⟩,
            ⟨"a".toList, [], []⟩] :=
  ⟨draws_misleading, (forest?_element draws_misleading).2.1⟩

end Iconsmith.Elm
