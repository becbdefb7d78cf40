import Iconsmith.Elm.Module
import Iconsmith.Proofs.Elm.Names
import Iconsmith.Proofs.Markup.Names
import Mathlib

set_option autoImplicit false

/-!
# Lines of expressions

The expression for a drawing is meant to stay on one line. Names, lists and brackets break no
line, but literals are written with the line feeds of their values, which references may have
put there (`lineFeed_mem_element_broken`). So the line feeds of an expression are those of the
values that it shows, and it stays on its line exactly when each of its literals does
(`lineFeeds_element`).
-/

namespace Iconsmith.Elm

open Markup Drawing

/-! ## Lists and literals -/

/-- How often a text breaks its line. -/
def lineFeeds (t : Text) : Nat := t.count '\n'

theorem lineFeeds_append (t u : Text) : lineFeeds (t ++ u) = lineFeeds t + lineFeeds u :=
  List.count_append

theorem lineFeeds_cons {c : Char} (h : c ≠ '\n') (t : Text) : lineFeeds (c :: t) = lineFeeds t :=
  List.count_cons_of_ne h

theorem lineFeeds_eq_zero {t : Text} : lineFeeds t = 0 ↔ '\n' ∉ t := List.count_eq_zero

theorem lineFeeds_joined {gap : Text} (hgap : '\n' ∉ gap) (parts : List Text) :
    lineFeeds (Text.joined gap parts) = (parts.map lineFeeds).sum := by
  have hnone := lineFeeds_eq_zero.2 hgap
  fun_induction Text.joined gap parts with
  | case1 => rfl
  | case2 part => simp
  | case3 part next more ih =>
      rw [lineFeeds_append, lineFeeds_append, hnone, ih, List.map_cons, List.sum_cons]
      rfl

theorem lineFeeds_listOf (items : List Text) :
    lineFeeds (listOf items) = (items.map lineFeeds).sum := by
  have hopening : lineFeeds "[ ".toList = 0 := rfl
  have hclosing : lineFeeds " ]".toList = 0 := rfl
  cases items with
  | nil => rfl
  | cons item items =>
      rw [listOf, lineFeeds_append, lineFeeds_append, hopening, hclosing,
        lineFeeds_joined (by decide)]
      · omega
      · exact List.cons_ne_nil item items

theorem lineFeeds_escapedChar (c : Char) : lineFeeds (escapedChar c) = lineFeeds [c] := by
  rw [escapedChar]
  split
  · exact lineFeeds_cons (by decide) [c]
  · rfl

/-- A literal has the line feeds of its value. -/
theorem lineFeeds_stringLiteral (v : Text) : lineFeeds (stringLiteral v) = lineFeeds v := by
  have hescaped : lineFeeds (v.flatMap escapedChar) = lineFeeds v := by
    induction v with
    | nil => rfl
    | cons c v ih =>
        rw [List.flatMap_cons, lineFeeds_append, lineFeeds_escapedChar, ih, ← lineFeeds_append]
        rfl
  have hquote : lineFeeds ['"'] = 0 := rfl
  rw [stringLiteral, List.cons_append, lineFeeds_cons (by decide), lineFeeds_append, hescaped,
    hquote]
  rfl

/-! ## Elements -/

mutual

/-- The values that the expression for an element shows. -/
def shownValues : Element → List Text
  | ⟨name, table, children⟩ =>
      if name = rootName then valuesBelow children
      else table.rows.map Prod.snd ++ valuesBelow children

/-- The values that the expressions for some elements show. -/
def valuesBelow : List Element → List Text
  | [] => []
  | e :: rest => shownValues e ++ valuesBelow rest

end

/-- An attribute has the line feeds of its value. -/
theorem lineFeeds_attributes {table : Table Text Text}
    (h : ∀ row ∈ table.rows, isName row.1) :
    ((attributes table).map lineFeeds).sum =
      ((table.rows.map Prod.snd).map lineFeeds).sum := by
  have hrow : ∀ row ∈ table.rows,
      lineFeeds ("A.".toList ++ attributeName row.1 ++ ' ' :: stringLiteral row.2) =
        lineFeeds row.2 := by
    intro row hrow
    have hname := not_mem_attributeName (by decide) (lineFeed_not_mem_of_isName (h row hrow))
    have hprefix : lineFeeds "A.".toList = 0 := rfl
    rw [lineFeeds_append, lineFeeds_append, hprefix, lineFeeds_eq_zero.2 hname,
      lineFeeds_cons (by decide), lineFeeds_stringLiteral]
    omega
  rw [attributes, List.map_map, List.map_map]
  exact congrArg List.sum (List.map_congr_left hrow)

mutual

theorem lineFeeds_eq_sum : ∀ e : Element, (∀ x ∈ Drawing.elements e, x.IsNamed) →
    lineFeeds (element e) = ((shownValues e).map lineFeeds).sum
  | ⟨name, table, children⟩, h => by
      rw [Drawing.elements] at h
      have hnamed := h _ List.mem_cons_self
      have hattributes : ((attributes table).map lineFeeds).sum = _ := lineFeeds_attributes hnamed.2
      have hchildren := sum_lineFeeds_elements children
        fun x hx => h x (List.mem_cons_of_mem _ hx)
      have hname : lineFeeds ("S.".toList ++ name) = 0 :=
        lineFeeds_eq_zero.2 (List.not_mem_append (by decide)
          (lineFeed_not_mem_of_isName hnamed.1))
      rw [element, shownValues, rootName]
      split
      · rw [lineFeeds_listOf, hchildren]
      · rw [lineFeeds_append, lineFeeds_append, lineFeeds_cons (by decide),
          lineFeeds_cons (by decide), lineFeeds_listOf, lineFeeds_listOf, hname, hattributes,
          hchildren, List.map_append, List.sum_append, Nat.zero_add]

theorem sum_lineFeeds_elements : ∀ es : List Element,
    (∀ x ∈ forestElements es, x.IsNamed) →
      ((elements es).map lineFeeds).sum = ((valuesBelow es).map lineFeeds).sum
  | [], _ => rfl
  | e :: rest, h => by
      rw [forestElements] at h
      have hfirst := lineFeeds_eq_sum e fun x hx => h x (List.mem_append_left _ hx)
      have hrest := sum_lineFeeds_elements rest fun x hx => h x (List.mem_append_right _ hx)
      rw [elements, valuesBelow, List.map_cons, List.sum_cons, List.map_append, List.sum_append,
        hfirst, hrest]

end

/-- The branch for a weight has three line feeds beside those of its expression. -/
theorem lineFeeds_branch (w : Weight) (expression : Text) :
    lineFeeds (branch w expression) = 3 + lineFeeds expression := by
  have hindent : lineFeeds "                ".toList = 0 := by decide
  have hlabel : lineFeeds w.label = 0 := by cases w <;> decide
  have harrow : lineFeeds " ->\n                    ".toList = 1 := by decide
  have hend : lineFeeds "\n\n".toList = 2 := by decide
  show lineFeeds ("                ".toList ++ w.label ++ " ->\n                    ".toList ++
    expression ++ "\n\n".toList) = _
  rw [lineFeeds_append, lineFeeds_append, lineFeeds_append, lineFeeds_append, hindent, hlabel,
    harrow, hend]
  omega

/-- The line feeds of the expression for a drawing are those of the values it shows, and a branch
for it has no more than three others. So the expression stays on its line exactly when every
literal in it closes on the line where it opens. -/
theorem lineFeeds_element {t : Text} {root : Element} (h : read (clean t) = .ok root) :
    lineFeeds (element root) = ((shownValues root).map lineFeeds).sum ∧
      (∀ w, lineFeeds (branch w (element root)) = 3 + lineFeeds (element root)) ∧
        ('\n' ∉ element root ↔ ∀ v ∈ shownValues root, '\n' ∉ stringLiteral v) := by
  have hsum := lineFeeds_eq_sum root (Document.isNamed_of_parse (read_eq_ok.1 h).1)
  refine ⟨hsum, fun w => lineFeeds_branch w _, ?_⟩
  rw [← lineFeeds_eq_zero, hsum, List.sum_eq_zero_iff_forall_eq_nat, List.forall_mem_map]
  simp only [← lineFeeds_eq_zero, lineFeeds_stringLiteral]

/-! ## A drawing that breaks its line -/

/-- A drawing with line feeds in values: one is written as white space and becomes a space, and
one belongs to an element that the expression does not show. -/
def unbroken : Text := "<svg><svg id=\"&#10;\"><path d=\"M0\n0\"/></svg></svg>".toList

theorem lineFeeds_element_unbroken : ∃ root, read (clean unbroken) = .ok root ∧
    '\n' ∉ element root := by
  refine ⟨⟨rootName, Table.ofList [], [⟨rootName, Table.ofList [("id".toList, "\n".toList)],
    [⟨"path".toList, Table.ofList [("d".toList, "M0 0".toList)], []⟩]⟩]⟩, by rfl, ?_⟩
  exact (lineFeeds_element (t := unbroken) (by rfl)).2.2.2 (by decide)

/-- A drawing with a line feed in a value, where it is written as a reference. -/
def broken : Text := "<svg><path d=\"M0&#10;0\"/></svg>".toList

/-- The literal of the value opens on one line and closes on the next. -/
theorem lineFeed_mem_element_broken : ∃ root, read (clean broken) = .ok root ∧
    element root = "[ S.path [ A.d \"M0\n0\" ] [] ]".toList ∧ '\n' ∈ element root :=
  ⟨⟨rootName, Table.ofList [],
    [⟨"path".toList, Table.ofList [("d".toList, "M0\n0".toList)], []⟩]⟩,
    by rfl, by decide, by decide⟩

end Iconsmith.Elm
