import Iconsmith.Drawing.Read
import Iconsmith.Proofs.Drawing.WrittenMarks
import Iconsmith.Proofs.Markup.Trees

set_option autoImplicit false

/-!
# Cleaning as a change of the drawing

Cleaning is done on text and meant for the drawing in it. `read_clean_written` says that the
two agree: a drawing that is written out, cleaned and read again is the drawing without the
rectangles that fill its background, in which the attributes that were colours of zeros are
the current colour, and nothing else has changed (`cleaned`).
-/

namespace Iconsmith.Drawing

open Markup

/-! ## Drawings as text -/

mutual

/-- The tags of an element in order. One with nothing in it closes itself. -/
def marks : Element → List Mark
  | ⟨name, attributes, []⟩ => [.opening name attributes.rows true]
  | ⟨name, attributes, child :: more⟩ =>
      .opening name attributes.rows false :: (forestMarks (child :: more) ++ [.closing name])

/-- The tags of elements that follow one another. -/
def forestMarks : List Element → List Mark
  | [] => []
  | e :: rest => marks e ++ forestMarks rest

end

/-- An element as it is written, with nothing between its tags. -/
def written (e : Element) : Text := marksText (marks e)

/-! ## Drawings as they should be cleaned -/

/-- Attributes with their values recoloured. -/
def recolouredTable (attributes : Table Text Text) : Table Text Text where
  rows := attributes.rows.map fun row => (row.1, recoloured row.2)
  distinct := by
    rw [List.map_map]
    exact attributes.distinct

mutual

/-- The element with its values recoloured and without the background rectangles in it. -/
def cleaned : Element → Element
  | ⟨name, attributes, children⟩ => ⟨name, recolouredTable attributes, cleanedForest children⟩

/-- The elements without background rectangles, each cleaned. -/
def cleanedForest : List Element → List Element
  | [] => []
  | e :: rest =>
      if isBackground e.name e.attributes.rows then cleanedForest rest
      else cleaned e :: cleanedForest rest

end

/-! ## Drawings that can be written -/

mutual

/-- An element and all that is in it. -/
def elements : Element → List Element
  | ⟨name, attributes, children⟩ => ⟨name, attributes, children⟩ :: forestElements children

/-- Some elements and all that is in them. -/
def forestElements : List Element → List Element
  | [] => []
  | e :: rest => elements e ++ forestElements rest

end

/-- An element of a drawing to be written: its names have no spaces and declare none, it is
no title, its values are characters that a document may hold, and if it is a background
rectangle nothing is in it. -/
structure IsPlain (e : Element) : Prop where
  name : isLocal e.name
  untitled : ¬ "title".toList <+: e.name
  rows : ∀ row ∈ e.attributes.rows,
    isLocal row.1 ∧ row.1 ≠ declarationSpace ∧ ∀ c ∈ row.2, isChar c
  hollow : isBackground e.name e.attributes.rows → e.children.isEmpty

instance : DecidablePred IsPlain := fun e =>
  decidable_of_iff
    ((isLocal e.name ∧ ¬ "title".toList <+: e.name) ∧
      (∀ row ∈ e.attributes.rows,
        isLocal row.1 ∧ row.1 ≠ declarationSpace ∧ ∀ c ∈ row.2, isChar c) ∧
        (isBackground e.name e.attributes.rows → e.children.isEmpty))
    ⟨fun h => ⟨h.1.1, h.1.2, h.2.1, h.2.2⟩, fun h => ⟨⟨h.name, h.untitled⟩, h.rows, h.hollow⟩⟩

/-- What the cleanings and the reader ask of a mark. -/
def IsPlainMark (mark : Mark) : Prop := mark.IsWritable ∧ IsHollow mark ∧ IsUntitled mark

/-- An opening mark of a plain element is plain. -/
theorem isPlainMark_opening {e : Element} (h : IsPlain e) :
    IsPlainMark (.opening e.name e.attributes.rows e.children.isEmpty) :=
  ⟨⟨h.name, e.attributes.distinct, h.rows⟩, h.hollow, h.untitled⟩

section Marks

variable {holds : Mark → Prop}

mutual

/-- What holds of the marks of every element holds of all marks. -/
theorem forall_mem_marks : ∀ (e : Element),
    (∀ x ∈ elements e, holds (.opening x.name x.attributes.rows x.children.isEmpty) ∧
      holds (.closing x.name)) → ∀ mark ∈ marks e, holds mark
  | ⟨name, attributes, []⟩, h, mark, hmark => by
      have hself := h _ (by rw [elements]; exact List.mem_cons_self)
      rw [marks, List.mem_singleton] at hmark
      subst hmark
      exact hself.1
  | ⟨name, attributes, child :: more⟩, h, mark, hmark => by
      rw [elements] at h
      have hself := h _ List.mem_cons_self
      have hinside := forall_mem_forestMarks (child :: more)
        fun x hx => h x (List.mem_cons_of_mem _ hx)
      rw [marks, List.mem_cons, List.mem_append, List.mem_singleton] at hmark
      rcases hmark with rfl | hmark | rfl
      · exact hself.1
      · exact hinside mark hmark
      · exact hself.2

theorem forall_mem_forestMarks : ∀ (es : List Element),
    (∀ x ∈ forestElements es, holds (.opening x.name x.attributes.rows x.children.isEmpty) ∧
      holds (.closing x.name)) → ∀ mark ∈ forestMarks es, holds mark
  | [], _, mark, hmark => by
      rw [forestMarks] at hmark
      cases hmark
  | e :: rest, h, mark, hmark => by
      rw [forestElements] at h
      rw [forestMarks, List.mem_append] at hmark
      rcases hmark with hmark | hmark
      · exact forall_mem_marks e (fun x hx => h x (List.mem_append_left _ hx)) mark hmark
      · exact forall_mem_forestMarks rest (fun x hx => h x (List.mem_append_right _ hx)) mark hmark

end

end Marks

/-- The marks of plain elements are plain. -/
theorem isPlainMark_of_mem_marks (e : Element) (h : ∀ x ∈ elements e, IsPlain x) :
    ∀ mark ∈ marks e, IsPlainMark mark :=
  forall_mem_marks e fun x hx => ⟨isPlainMark_opening (h x hx), (h x hx).name, trivial, trivial⟩

/-! ## Cleaned marks spell the cleaned drawing -/

theorem cleanedMarks_cons (mark : Mark) (more : List Mark) :
    cleanedMarks (mark :: more) =
      if isBackgroundMark mark then cleanedMarks more
      else recolouredMark mark :: cleanedMarks more := by
  by_cases h : isBackgroundMark mark <;> simp [cleanedMarks, h]

theorem cleanedMarks_append (before after : List Mark) :
    cleanedMarks (before ++ after) = cleanedMarks before ++ cleanedMarks after := by
  simp [cleanedMarks]

mutual

/-- What is left of the marks of an element outside the background spells the cleaned
element. -/
theorem spelled_cleaned : ∀ (e : Element), (∀ x ∈ elements e, IsPlain x) →
    isBackground e.name e.attributes.rows = false →
      ∀ {rest : List Element} {more : List Mark}, Spelled rest more →
        Spelled (cleaned e :: rest) (cleanedMarks (marks e) ++ more)
  | ⟨name, attributes, []⟩, _, hkept, rest, more, hrest => by
      have hopening : isBackgroundMark (.opening name attributes.rows true) = false := hkept
      rw [marks, cleanedMarks_cons, hopening, cleaned, cleanedForest]
      exact .empty name (recolouredTable attributes) hrest
  | ⟨name, attributes, child :: children⟩, h, hkept, rest, more, hrest => by
      have hopening : isBackgroundMark (.opening name attributes.rows false) = false := hkept
      rw [elements] at h
      have hinside := spelled_cleanedForest (child :: children)
        fun x hx => h x (List.mem_cons_of_mem _ hx)
      have hclosing : cleanedMarks [.closing name] = [.closing name] := rfl
      rw [marks, cleanedMarks_cons, hopening, cleanedMarks_append, hclosing, cleaned]
      simpa [recolouredMark, recolouredTable] using
        Spelled.around name (recolouredTable attributes) hinside hrest

/-- What is left of the marks of a forest spells the cleaned forest. -/
theorem spelled_cleanedForest : ∀ (es : List Element), (∀ x ∈ forestElements es, IsPlain x) →
    Spelled (cleanedForest es) (cleanedMarks (forestMarks es))
  | [], _ => by
      rw [cleanedForest, forestMarks]
      exact .nil
  | e :: rest, h => by
      rw [forestElements] at h
      have hrest := spelled_cleanedForest rest fun x hx => h x (List.mem_append_right _ hx)
      have helement : ∀ x ∈ elements e, IsPlain x := fun x hx =>
        h x (List.mem_append_left _ hx)
      rw [cleanedForest, forestMarks, cleanedMarks_append]
      cases hbackground : isBackground e.name e.attributes.rows with
      | true =>
          obtain ⟨name, attributes, children⟩ := e
          have hplain := helement _ (by rw [elements]; exact List.mem_cons_self)
          obtain rfl : children = [] := List.isEmpty_iff.1 (hplain.hollow hbackground)
          have hopening : isBackgroundMark (.opening name attributes.rows true) = true :=
            hbackground
          rw [marks, cleanedMarks_cons, hopening]
          exact hrest
      | false => exact spelled_cleaned e helement hbackground hrest

end

/-- Recoloured values can still be written. -/
theorem isWritable_recolouredMark {mark : Mark} (h : mark.IsWritable) :
    (recolouredMark mark).IsWritable := by
  cases mark with
  | closing name => exact h
  | opening name rows isEmpty =>
      obtain ⟨hname, hdistinct, hrows⟩ := h
      refine ⟨hname, ?_, ?_⟩
      · rw [List.map_map]
        exact hdistinct
      · intro row hrow
        obtain ⟨old, hold, rfl⟩ := List.mem_map.1 hrow
        obtain ⟨hlocal, hdeclare, hvalue⟩ := hrows old hold
        refine ⟨hlocal, hdeclare, ?_⟩
        show ∀ c ∈ recoloured old.2, isChar c
        rw [recoloured]
        split
        · decide
        · exact hvalue

/-- A drawing that is written out and cleaned is read as the cleaned drawing: it has lost the
rectangles that fill its background, its colours of zeros are the current colour, and nothing
else has changed. No more elements may be open at a time than the reader allows. -/
theorem read_clean_written (root : Element) (hname : root.name = rootName)
    (hplain : ∀ e ∈ elements root, IsPlain e)
    (hdepth : (cleaned root).depth ≤ Document.Progress.maxDepth) :
    read (clean (written root)) = .ok (cleaned root) := by
  have hmarks := isPlainMark_of_mem_marks root hplain
  have hroot : isBackground root.name root.attributes.rows = false := by
    rw [hname]
    unfold isBackground
    split <;> rfl
  have hspelled := spelled_cleaned root hplain hroot .nil
  rw [List.append_nil] at hspelled
  have hwritable : ∀ mark ∈ cleanedMarks (marks root), mark.IsWritable := by
    intro mark hmark
    obtain ⟨old, hold, rfl⟩ := List.mem_map.1 hmark
    exact isWritable_recolouredMark (hmarks old (List.mem_filter.1 hold).1).1
  -- What is left after cleaning is again what is written for a tree, the cleaned one.
  have hclean := clean_marksText (fun mark hmark => (hmarks mark hmark).1)
    (fun mark hmark => (hmarks mark hmark).2.1) (fun mark hmark => (hmarks mark hmark).2.2)
  have hparse := Document.parse_marksText hspelled hwritable hdepth
  have hcleaned : (cleaned root).name = rootName := by
    obtain ⟨name, attributes, children⟩ := root
    rw [cleaned]
    exact hname
  rw [written, hclean, read, hparse]
  simp only [hcleaned, if_true]

/-! ## A drawing with a background -/

/-- A drawing with a background rectangle, a group that holds nothing else, and a path. -/
def framed : Element :=
  ⟨rootName, Table.ofList [("fill".toList, "#000".toList)],
    [⟨"g".toList, Table.ofList [],
      [⟨"rect".toList, Table.ofList [("width".toList, "256".toList), ("height".toList, "256".toList),
        ("fill".toList, "none".toList)], []⟩]⟩,
      ⟨"path".toList, Table.ofList [("d".toList, "<\"&\n".toList), ("stroke".toList, "#0".toList)], []⟩]⟩

/-- The drawing without its background. -/
def unframed : Element :=
  ⟨rootName, Table.ofList [("fill".toList, "currentColor".toList)],
    [⟨"g".toList, Table.ofList [], []⟩,
      ⟨"path".toList, Table.ofList [("d".toList, "<\"&\n".toList),
        ("stroke".toList, "currentColor".toList)], []⟩]⟩

theorem read_clean_framed : read (clean (written framed)) = .ok unframed := by
  have hcleaned : cleaned framed = unframed := by rfl
  rw [← hcleaned]
  exact read_clean_written framed (by decide) (by decide) (by decide)

end Iconsmith.Drawing
