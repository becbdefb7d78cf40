import Iconsmith.Markup.Document
import Mathlib.Data.List.TakeDrop

set_option autoImplicit false

/-!
# Written tags

Tags are written in one way: attributes in order with one space before each, values between
double quotes, and what could be taken for markup as references. A `Mark` is a tag to be
written, and `read_text` says that a mark whose names are local names and whose values are
characters of documents is read as the piece that it stands for, whatever follows it.
-/

namespace Iconsmith.Markup

/-! ## Writing -/

/-- A character of a value as it is written. -/
def escaped (c : Char) : Text :=
  if c = '&' then "&amp;".toList
  else if c = '<' then "&lt;".toList
  else if c = '>' then "&gt;".toList
  else if c = '"' then "&quot;".toList
  else if c = '\t' then "&#9;".toList
  else if c = '\n' then "&#10;".toList
  else if c = '\r' then "&#13;".toList
  else [c]

/-- A value as it is written between its quotes. -/
def writtenValue (v : Text) : Text := v.flatMap escaped

/-- An attribute as it is written, with the space before it. -/
def writtenRow (row : Text × Text) : Text :=
  ' ' :: row.1 ++ '=' :: '"' :: writtenValue row.2 ++ ['"']

/-- Attributes as they are written. -/
def writtenRows (rows : List (Text × Text)) : Text := rows.flatMap writtenRow

/-- A tag to be written: one that opens an element, and closes it as well if nothing is in
it, or one that closes an element. -/
inductive Mark where
  | opening (name : Text) (rows : List (Text × Text)) (isEmpty : Bool)
  | closing (name : Text)
  deriving DecidableEq

namespace Mark

/-- The end of an opening tag. -/
def ending (isEmpty : Bool) : Text := if isEmpty then ['/', '>'] else ['>']

/-- The text of a tag. -/
def text : Mark → Text
  | opening name rows isEmpty => '<' :: name ++ writtenRows rows ++ ending isEmpty
  | closing name => '<' :: '/' :: name ++ ['>']

/-- What can be written so that it is read again: local names, none of which declares a
namespace, and characters that a document may hold. -/
def IsWritable : Mark → Prop
  | opening name rows _ =>
      isLocal name ∧ (rows.map Prod.fst).Nodup ∧
        ∀ row ∈ rows, isLocal row.1 ∧ row.1 ≠ declarationSpace ∧ ∀ c ∈ row.2, isChar c
  | closing name => isLocal name

end Mark

/-- The text of tags that follow one another. -/
def marksText (marks : List Mark) : Text := marks.flatMap Mark.text

/-! ## Values -/

/-- How a character stands in a written value: as a reference to it, or as itself if it can
be taken for nothing else. -/
theorem escaped_cases (c : Char) :
    (∃ body, escaped c = '&' :: body ∧
        (∀ d ∈ body, d ≠ '"' ∧ d ≠ '<' ∧ d ≠ '>' ∧ d ≠ '\n') ∧
        ∀ t, readReference (body ++ t) = .ok (.char c, t)) ∨
      escaped c = [c] ∧ c ∉ ['&', '<', '>', '"', '\t', '\n', '\r'] := by
  by_cases hamp : c = '&'
  · subst hamp
    exact Or.inl ⟨"amp;".toList, rfl, by decide, fun t => rfl⟩
  by_cases hlt : c = '<'
  · subst hlt
    exact Or.inl ⟨"lt;".toList, rfl, by decide, fun t => rfl⟩
  by_cases hgt : c = '>'
  · subst hgt
    exact Or.inl ⟨"gt;".toList, rfl, by decide, fun t => rfl⟩
  by_cases hquot : c = '"'
  · subst hquot
    exact Or.inl ⟨"quot;".toList, rfl, by decide, fun t => rfl⟩
  by_cases htab : c = '\t'
  · subst htab
    exact Or.inl ⟨"#9;".toList, rfl, by decide, fun t => rfl⟩
  by_cases hfeed : c = '\n'
  · subst hfeed
    exact Or.inl ⟨"#10;".toList, rfl, by decide, fun t => rfl⟩
  by_cases hreturn : c = '\r'
  · subst hreturn
    exact Or.inl ⟨"#13;".toList, rfl, by decide, fun t => rfl⟩
  · exact Or.inr ⟨by simp [escaped, *], by simp [*]⟩

/-- A written value ends at no quote of its own, and looks like no markup. -/
theorem not_mem_writtenValue {v : Text} {d : Char} (hd : d ∈ writtenValue v) :
    d ≠ '"' ∧ d ≠ '<' ∧ d ≠ '>' ∧ d ≠ '\n' := by
  obtain ⟨c, -, hc⟩ := List.mem_flatMap.1 hd
  rcases escaped_cases c with ⟨body, hbody, hplain, -⟩ | ⟨hself, hno⟩
  · rw [hbody, List.mem_cons] at hc
    rcases hc with rfl | hc
    · decide
    · exact hplain d hc
  · rw [hself, List.mem_singleton] at hc
    subst hc
    simp only [List.mem_cons, not_or] at hno
    exact ⟨hno.2.2.2.1, hno.2.1, hno.2.2.1, hno.2.2.2.2.2.1⟩

theorem partsFrom_skip (close : Char) (body t : Text) :
    partsFrom close body.length (body ++ t) = partsFrom close 0 t := by
  induction body with
  | nil => rfl
  | cons c body ih => exact ih

/-- A written value is read as its characters. -/
theorem partsFrom_writtenValue (v t : Text) (hv : ∀ c ∈ v, isChar c) :
    partsFrom '"' 0 (writtenValue v ++ '"' :: t) = .ok (v.map .char, t) := by
  induction v with
  | nil => rfl
  | cons c v ih =>
      have hrest := ih fun d hd => hv d (List.mem_cons_of_mem c hd)
      have hc : isChar c := hv c List.mem_cons_self
      have hsplit : writtenValue (c :: v) ++ '"' :: t =
          escaped c ++ (writtenValue v ++ '"' :: t) := by
        simp [writtenValue]
      rw [hsplit]
      rcases escaped_cases c with ⟨body, hbody, -, hread⟩ | ⟨hself, hno⟩
      · rw [hbody, List.cons_append, partsFrom, if_neg (by decide), if_neg (by decide),
          if_pos rfl, hread]
        have hlength : (body ++ (writtenValue v ++ '"' :: t)).length -
            (writtenValue v ++ '"' :: t).length = body.length := by
          simp
        simp only [hlength, partsFrom_skip, hrest, consPart, List.map_cons]
      · simp only [List.mem_cons, not_or] at hno
        obtain ⟨hamp, hlt, hgt, hquot, htab, hfeed, hreturn, -⟩ := hno
        rw [hself, List.singleton_append, partsFrom, if_neg hquot, if_neg hlt, if_neg hamp,
          if_neg (by simp [hreturn])]
        by_cases hspace : c = ' '
        · rw [if_pos (by simp [isGap, hspace]), hrest, hspace]
          rfl
        · rw [if_neg (by simp [isGap, hspace, htab, hfeed, hreturn]), if_pos hc, hrest]
          rfl

/-! ## Names -/

/-- A name ends where a character follows that is none of names. -/
theorem readName_append {n t : Text} {c : Char} (hn : isName n) (hc : isNameChar c = false)
    (hnul : c ≠ '\x00') : readName (n ++ c :: t) = .ok (n, c :: t) := by
  cases n with
  | nil => simp [isName] at hn
  | cons d n =>
      simp only [isName, Bool.and_eq_true, List.all_eq_true] at hn
      obtain ⟨hstart, hall⟩ := hn
      have hd : isNameChar d = true := by simp [isNameChar, hstart]
      have hspan : spanName (d :: n ++ c :: t) = (d :: n, c :: t) := by
        simp only [spanName, List.cons_append, hstart, if_true, List.span_eq_takeWhile_dropWhile]
        rw [← List.cons_append, List.takeWhile_append_of_pos, List.dropWhile_append_of_pos]
        · simp [hc]
        · simpa [hd] using hall
        · simpa [hd] using hall
      rw [readName, hspan]
      split
      · rename_i heq
        simp only [Prod.mk.injEq, List.cons.injEq] at heq
        exact absurd heq.2.1 hnul
      · rename_i heq
        simp at heq
      · rfl

/-- No character of names is white space, a bracket, a mark of a tag or a NUL. -/
theorem not_mem_of_isNameChar {c : Char} (h : isNameChar c) :
    c ∉ [' ', '\t', '\n', '\r', '<', '>', '/', '=', '"', '?', '!', '\x00', '&'] := by
  intro hc
  revert h
  simp only [List.mem_cons, List.not_mem_nil, or_false] at hc
  rcases hc with rfl | rfl | rfl | rfl | rfl | rfl | rfl | rfl | rfl | rfl | rfl | rfl | rfl <;>
    decide

theorem isGap_eq_false {c : Char} (h : isNameChar c) : isGap c = false := by
  have hc := not_mem_of_isNameChar h
  simp only [List.mem_cons, not_or] at hc
  simp [isGap, hc]

theorem isNameChar_of_isName {n : Text} (h : isName n) : ∀ c ∈ n, isNameChar c := by
  cases n with
  | nil => simp
  | cons d n =>
      simp only [isName, Bool.and_eq_true, List.all_eq_true] at h
      intro c hc
      rcases List.mem_cons.1 hc with rfl | hc
      · simp [isNameChar, h.1]
      · exact h.2 c hc

theorem isName_of_isLocal {n : Text} (h : isLocal n) : isName n := by
  simp only [isLocal, Bool.and_eq_true] at h
  exact h.1

/-- A character that no name has is not in a local name. -/
theorem not_mem_of_isLocal {n : Text} (h : isLocal n) {c : Char} (hc : isNameChar c = false) :
    c ∉ n := by
  intro hmem
  rw [isNameChar_of_isName (isName_of_isLocal h) c hmem] at hc
  cases hc

/-! ## Attributes -/

/-- The attribute that a row is read as, where `left` characters follow. -/
def Written.ofRow (row : Text × Text) (left : Nat) : Written := ⟨row.1, row.2.map .char, left⟩

theorem readAttribute_writtenRow {row : Text × Text} (t : Text) (hname : isLocal row.1)
    (hvalue : ∀ c ∈ row.2, isChar c) :
    readAttribute (row.1 ++ '=' :: '"' :: (writtenValue row.2 ++ '"' :: t)) =
      .ok (Written.ofRow row t.length, t) := by
  have hread : readName (row.1 ++ '=' :: '"' :: (writtenValue row.2 ++ '"' :: t)) =
      .ok (row.1, '=' :: '"' :: (writtenValue row.2 ++ '"' :: t)) :=
    readName_append (isName_of_isLocal hname) (by decide) (by decide)
  have hequals : equals? ('=' :: '"' :: (writtenValue row.2 ++ '"' :: t)) =
      some ('"' :: (writtenValue row.2 ++ '"' :: t)) := rfl
  have hparts : readValue ('"' :: (writtenValue row.2 ++ '"' :: t)) =
      .ok (row.2.map .char, t) := partsFrom_writtenValue row.2 t hvalue
  simp only [readAttribute, hread, hequals, hparts]
  rfl

/-- A name after white space is where the next attribute begins. -/
theorem gap?_space_cons {c : Char} (t : Text) (h : isNameChar c) :
    gap? (' ' :: c :: t) = some (c :: t) ∧ tagEnd? (skipGap (' ' :: c :: t)) = none := by
  have hgap := isGap_eq_false h
  have hc := not_mem_of_isNameChar h
  simp only [List.mem_cons, not_or] at hc
  have hskip : skipGap (c :: t) = c :: t := by simp [skipGap, hgap]
  have hskip' : skipGap (' ' :: c :: t) = skipGap (c :: t) := rfl
  refine ⟨by simp [gap?, isGap, hskip], ?_⟩
  rw [hskip', hskip]
  unfold tagEnd?
  split
  · rename_i heq
    simp only [List.cons.injEq] at heq
    exact absurd heq.1 hc.2.2.2.2.2.1
  · rename_i heq
    simp only [List.cons.injEq] at heq
    exact absurd heq.1 hc.2.2.2.2.2.2.1
  · rfl

/-- An attribute after white space comes before the other attributes of the tag. -/
theorem attributesFrom_of_readAttribute {steps : Nat} {t rest after : Text} {c : Char}
    {first : Written} (hend : tagEnd? (skipGap t) = none) (hgap : gap? t = some (c :: rest))
    (hnul : c ≠ '\x00') (hread : readAttribute (c :: rest) = .ok (first, after)) :
    attributesFrom (steps + 1) t =
      ⟨first :: (attributesFrom steps after).attributes, (attributesFrom steps after).ending⟩ := by
  simp only [attributesFrom, hend, hgap]
  split
  · rename_i heq
    cases heq
  · rename_i heq
    cases heq
  · rename_i heq
    cases heq
    exact absurd rfl hnul
  · rename_i heq
    cases heq
    rw [hread]

/-- Written attributes are read in order up to the end of their tag. -/
theorem attributesFrom_writtenRows (rows : List (Text × Text)) (isEmpty : Bool) (t : Text)
    (hrows : ∀ row ∈ rows, isLocal row.1 ∧ ∀ c ∈ row.2, isChar c) (steps : Nat)
    (hsteps : rows.length < steps) :
    ∃ written, attributesFrom steps (writtenRows rows ++ (Mark.ending isEmpty ++ t)) =
        ⟨written, .ok (if isEmpty then .closed else .opened, t)⟩ ∧
      written.map (fun w => (w.raw, w.value)) = rows.map fun row => (row.1, row.2.map .char) := by
  induction rows generalizing steps with
  | nil =>
      obtain ⟨steps, rfl⟩ : ∃ n, steps = n + 1 := ⟨steps - 1, by omega⟩
      cases isEmpty
      · exact ⟨[], rfl, rfl⟩
      · exact ⟨[], rfl, rfl⟩
  | cons row rows ih =>
      obtain ⟨steps, rfl⟩ : ∃ n, steps = n + 1 := ⟨steps - 1, by omega⟩
      obtain ⟨hname, hvalue⟩ := hrows row List.mem_cons_self
      obtain ⟨written, hread, hwritten⟩ := ih
        (fun other hother => hrows other (List.mem_cons_of_mem row hother)) steps
        (by simp only [List.length_cons] at hsteps; omega)
      have hsplit : writtenRows (row :: rows) ++ (Mark.ending isEmpty ++ t) =
          ' ' :: (row.1 ++ '=' :: '"' :: (writtenValue row.2 ++ '"' ::
            (writtenRows rows ++ (Mark.ending isEmpty ++ t)))) := by
        simp [writtenRows, writtenRow]
      have hfirst := readAttribute_writtenRow
        (writtenRows rows ++ (Mark.ending isEmpty ++ t)) hname hvalue
      refine ⟨Written.ofRow row (writtenRows rows ++ (Mark.ending isEmpty ++ t)).length ::
        written, ?_, by simp [Written.ofRow, hwritten]⟩
      rw [hsplit]
      cases hraw : row.1 with
      | nil => simp [isLocal, isName, hraw] at hname
      | cons c n =>
          have hc : isNameChar c :=
            isNameChar_of_isName (isName_of_isLocal hname) c (by simp [hraw])
          have hnul : c ≠ '\x00' := by
            rintro rfl
            exact not_mem_of_isNameChar hc (by simp)
          rw [hraw, List.cons_append] at hfirst
          obtain ⟨hgap, hend⟩ := gap?_space_cons (n ++ '=' :: '"' :: (writtenValue row.2 ++
            '"' :: (writtenRows rows ++ (Mark.ending isEmpty ++ t)))) hc
          rw [List.cons_append, attributesFrom_of_readAttribute hend hgap hnul hfirst, hread]

/-! ## Tags -/

/-- An opening tag begins with a bracket and a character of names. -/
theorem Piece.read_opening (alone : Bool) {c : Char} (t : Text) (h : isNameChar c) :
    Piece.read alone ('<' :: c :: t) = cutOpening (c :: t) := by
  have hc := not_mem_of_isNameChar h
  simp only [List.mem_cons, not_or] at hc
  unfold Piece.read
  split
  · rename_i heq
    cases heq
    exact absurd rfl hc.2.2.2.2.2.2.1
  · rename_i heq
    cases heq
    exact absurd rfl hc.2.2.2.2.2.2.2.2.2.1
  · rename_i heq
    cases heq
    exact absurd rfl hc.2.2.2.2.2.2.2.2.2.2.1
  · rename_i heq
    cases heq
    rfl
  · rename_i heq
    cases heq
  · rename_i hno _
    exact absurd rfl (hno _)

/-- What a piece has to be for a mark to have been read as it. -/
def Mark.Reads : Mark → Piece → Prop
  | .opening name rows isEmpty, piece => ∃ written left,
      piece = .opening name written (if isEmpty then .closed else .opened) left ∧
        written.map (fun w => (w.raw, w.value)) = rows.map fun row => (row.1, row.2.map .char)
  | .closing name, piece => piece = .closing name

/-- The name in an opening tag ends where attributes or the end of the tag begin. -/
theorem exists_cons_of_writtenRows (rows : List (Text × Text)) (isEmpty : Bool) (t : Text) :
    ∃ c u, writtenRows rows ++ (Mark.ending isEmpty ++ t) = c :: u ∧ c ∈ [' ', '/', '>'] := by
  cases rows with
  | nil =>
      cases isEmpty
      · exact ⟨'>', t, rfl, by decide⟩
      · exact ⟨'/', '>' :: t, rfl, by decide⟩
  | cons row rows =>
      exact ⟨' ', _, rfl, by decide⟩

theorem length_le_length_writtenRows (rows : List (Text × Text)) :
    rows.length ≤ (writtenRows rows).length := by
  induction rows with
  | nil => exact Nat.le_refl 0
  | cons row rows ih =>
      have hsplit : writtenRows (row :: rows) = writtenRow row ++ writtenRows rows := rfl
      rw [hsplit, List.length_append, List.length_cons]
      have hrow : 1 ≤ (writtenRow row).length := by simp [writtenRow]
      omega

/-- The name and the rows of an opening tag that can be written are read to its end. -/
theorem exists_cutOpening {name : Text} {rows : List (Text × Text)} {isEmpty : Bool}
    (h : (Mark.opening name rows isEmpty).IsWritable) (t : Text) :
    ∃ written left, cutOpening (name ++ (writtenRows rows ++ (Mark.ending isEmpty ++ t))) =
        ([.opening name written (if isEmpty then .closed else .opened) left], some t) ∧
      written.map (fun w => (w.raw, w.value)) = rows.map fun row => (row.1, row.2.map .char) := by
  obtain ⟨hname, -, hrows⟩ := h
  -- One step is allowed for each character, which are more than the rows.
  obtain ⟨written, hread, hwritten⟩ := attributesFrom_writtenRows rows isEmpty t
    (fun row hrow => ⟨(hrows row hrow).1, (hrows row hrow).2.2⟩)
    ((writtenRows rows ++ (Mark.ending isEmpty ++ t)).length + 1) (by
      have hlength := length_le_length_writtenRows rows
      rw [List.length_append]
      omega)
  obtain ⟨d, u, hcons, hd⟩ := exists_cons_of_writtenRows rows isEmpty t
  have hnameread : readName (name ++ d :: u) = .ok (name, d :: u) := by
    simp only [List.mem_cons, List.not_mem_nil, or_false] at hd
    refine readName_append (isName_of_isLocal hname) ?_ ?_
    · rcases hd with rfl | rfl | rfl <;> decide
    · rcases hd with rfl | rfl | rfl <;> decide
  rw [hcons, cutOpening, hnameread]
  simp only [← hcons, hread]
  exact ⟨written, _, rfl, hwritten⟩

/-- A mark that can be written is read as the piece that it stands for, whatever follows
it. -/
theorem read_text (alone : Bool) {mark : Mark} (h : mark.IsWritable) (t : Text) :
    ∃ piece, Piece.read alone (mark.text ++ t) = ([piece], some t) ∧ mark.Reads piece := by
  cases mark with
  | opening name rows isEmpty =>
      obtain ⟨written, left, hcut, hwritten⟩ := exists_cutOpening h t
      have hsplit : (Mark.opening name rows isEmpty).text ++ t =
          '<' :: (name ++ (writtenRows rows ++ (Mark.ending isEmpty ++ t))) := by
        simp [Mark.text]
      refine ⟨_, ?_, written, left, rfl, hwritten⟩
      rw [hsplit, ← hcut]
      have hname := isName_of_isLocal h.1
      cases name with
      | nil => simp [isName] at hname
      | cons c n =>
          exact Piece.read_opening alone _ (isNameChar_of_isName hname c List.mem_cons_self)
  | closing name =>
      have hclose : readName (name ++ '>' :: t) = .ok (name, '>' :: t) :=
        readName_append (isName_of_isLocal h) (by decide) (by decide)
      have hsplit : (Mark.closing name).text ++ t = '<' :: '/' :: (name ++ '>' :: t) := by
        simp [Mark.text]
      refine ⟨.closing name, ?_, rfl⟩
      rw [hsplit]
      simp only [Piece.read, readClosingTag, hclose]
      rfl

theorem piecesFrom_of_read {alone : Bool} {t rest : Text} {found : List Piece} (steps : Nat)
    (hne : t ≠ []) (hread : Piece.read alone t = (found, some rest)) :
    piecesFrom alone (steps + 1) t = found ++ piecesFrom alone steps rest := by
  rw [piecesFrom, hread]
  exact hne

theorem Mark.text_ne_nil (mark : Mark) : mark.text ≠ [] := by
  cases mark <;> simp [Mark.text]

theorem length_le_length_marksText (marks : List Mark) :
    marks.length ≤ (marksText marks).length := by
  induction marks with
  | nil => exact Nat.le_refl 0
  | cons mark marks ih =>
      have hsplit : marksText (mark :: marks) = mark.text ++ marksText marks := rfl
      have hmark := List.length_pos_iff.2 mark.text_ne_nil
      rw [hsplit, List.length_append, List.length_cons]
      omega

/-- The text of marks is cut into the pieces that they stand for. -/
theorem reads_piecesFrom_marksText (alone : Bool) (marks : List Mark)
    (h : ∀ mark ∈ marks, mark.IsWritable) (steps : Nat) (hsteps : marks.length ≤ steps) :
    List.Forall₂ Mark.Reads marks (piecesFrom alone steps (marksText marks)) := by
  induction marks generalizing steps with
  | nil =>
      cases steps <;> exact .nil
  | cons mark marks ih =>
      obtain ⟨steps, rfl⟩ : ∃ n, steps = n + 1 :=
        ⟨steps - 1, by simp only [List.length_cons] at hsteps; omega⟩
      obtain ⟨piece, hread, hpiece⟩ := read_text alone (h mark List.mem_cons_self)
        (marksText marks)
      have hrest := ih (fun other hother => h other (List.mem_cons_of_mem mark hother)) steps
        (by simp only [List.length_cons] at hsteps; omega)
      have hne : mark.text ++ marksText marks ≠ [] := by
        simp [mark.text_ne_nil]
      show List.Forall₂ Mark.Reads (mark :: marks)
        (piecesFrom alone (steps + 1) (mark.text ++ marksText marks))
      rw [piecesFrom_of_read steps hne hread]
      exact .cons hpiece hrest

end Iconsmith.Markup
