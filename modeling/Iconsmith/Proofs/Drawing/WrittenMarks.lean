import Iconsmith.Drawing.Cleanup
import Iconsmith.Proofs.Markup.Writing
import Iconsmith.Proofs.Replacing
import Iconsmith.Proofs.Text.Fields
import Mathlib.Data.List.Infix
import Mathlib.Data.List.TakeWhile

set_option autoImplicit false

/-!
# Cleaning written marks

The cleanings work on flat text. On marks that have been written out they come to this:
there is no declaration to take off, marks of background rectangles go as a whole, no title
is there, and the values of attributes that are colours of zeros change
(`clean_marksText`). No match reaches over the end of a tag or of a value, because a written
value holds neither quotes nor brackets.
-/

namespace Iconsmith

open Markup

namespace Drawing

/-! ## Literals at the head of written text -/

/-- Names that are followed by other characters agree as a whole or not at all. -/
theorem isPrefixOf?_name {k n l u : Text} {c d : Char} (hk : ∀ a ∈ k, isNameChar a)
    (hn : ∀ a ∈ n, isNameChar a) (hc : isNameChar c = false) (hd : isNameChar d = false) :
    (k ++ c :: l).isPrefixOf? (n ++ d :: u) =
      if k = n then (c :: l).isPrefixOf? (d :: u) else none := by
  -- On the name that is looked for; the two characters behind the names end both.
  induction k generalizing n with
  | nil =>
      cases n with
      | nil => simp
      | cons b n =>
          have hb := hn b List.mem_cons_self
          have hne : c ≠ b := by
            rintro rfl
            simp [hc] at hb
          simp [List.isPrefixOf?, hne]
  | cons a k ih =>
      have ha := hk a List.mem_cons_self
      cases n with
      | nil =>
          have hne : a ≠ d := by
            rintro rfl
            simp [hd] at ha
          simp [List.isPrefixOf?, hne]
      | cons b n =>
          have hrest := ih (n := n) (fun x hx => hk x (List.mem_cons_of_mem a hx))
            (fun x hx => hn x (List.mem_cons_of_mem b hx))
          by_cases hab : a = b
          · subst hab
            simp [List.isPrefixOf?, hrest]
          · simp [List.isPrefixOf?, hab]

/-- The rows after the first, if that passes a test. -/
def restAfter (test : Text × Text → Bool) : List (Text × Text) → Option (List (Text × Text))
  | [] => none
  | row :: more => if test row then some more else none

theorem subset_of_restAfter {test : Text × Text → Bool} {rows more : List (Text × Text)}
    (h : restAfter test rows = some more) : more ⊆ rows := by
  cases rows with
  | nil => cases h
  | cons row rows =>
      rw [restAfter] at h
      split at h
      · cases h
        exact List.subset_cons_self row _
      · cases h

/-- A key with the opening quote of its value is matched at written attributes if it is the
key of the first. -/
theorem isPrefixOf?_writtenRows_nil {k l tail : Text} (htail : tail.head? ≠ some ' ') :
    (' ' :: k ++ '=' :: '"' :: l).isPrefixOf? (writtenRows [] ++ tail) = none := by
  cases tail with
  | nil => rfl
  | cons d tail =>
      have hne : ' ' ≠ d := fun heq => htail (by rw [heq]; rfl)
      simp [writtenRows, List.isPrefixOf?, hne]

theorem isPrefixOf?_writtenRows_cons {k l : Text} (tail : Text) {row : Text × Text}
    (more : List (Text × Text)) (hk : ∀ a ∈ k, isNameChar a) (hrow : isLocal row.1) :
    (' ' :: k ++ '=' :: '"' :: l).isPrefixOf? (writtenRows (row :: more) ++ tail) =
      if k = row.1 then l.isPrefixOf? (writtenValue row.2 ++ '"' :: (writtenRows more ++ tail))
      else none := by
  have hsplit : writtenRows (row :: more) ++ tail = ' ' :: (row.1 ++ '=' ::
      ('"' :: (writtenValue row.2 ++ '"' :: (writtenRows more ++ tail)))) := by
    simp [writtenRows, writtenRow]
  have hname := isPrefixOf?_name (l := '"' :: l)
    (u := '"' :: (writtenValue row.2 ++ '"' :: (writtenRows more ++ tail))) hk
    (isNameChar_of_isName (isName_of_isLocal hrow)) (c := '=') (d := '=') (by decide) (by decide)
  rw [hsplit]
  simpa [List.isPrefixOf?] using hname

/-! ## Values at the head of written text -/

theorem writtenValue_eq_self {v : Text} (h : '&' ∉ writtenValue v) : writtenValue v = v := by
  induction v with
  | nil => rfl
  | cons c v ih =>
      have hsplit : writtenValue (c :: v) = escaped c ++ writtenValue v := rfl
      rw [hsplit, List.mem_append, not_or] at h
      rcases escaped_cases c with ⟨body, hbody, -⟩ | ⟨hself, -⟩
      · rw [hbody] at h
        exact absurd List.mem_cons_self h.1
      · rw [hsplit, hself, ih h.2]
        rfl

/-- A value of characters that are all written as themselves. -/
theorem writtenValue_eq_of_plain {v : Text}
    (h : ∀ c ∈ v, c ∉ ['&', '<', '>', '"', '\t', '\n', '\r']) : writtenValue v = v := by
  induction v with
  | nil => rfl
  | cons c v ih =>
      have hc := h c List.mem_cons_self
      have hsplit : writtenValue (c :: v) = escaped c ++ writtenValue v := rfl
      simp only [List.mem_cons, not_or] at hc
      rw [hsplit, ih fun d hd => h d (List.mem_cons_of_mem c hd)]
      simp [escaped, hc]

/-- What stands before the first quote after a written value is the value, if no reference
is in it. -/
theorem writtenValue_split {v u x w : Text}
    (h : writtenValue v ++ '"' :: u = x ++ '"' :: w) (hquote : '"' ∉ x) (hamp : '&' ∉ x) :
    v = x ∧ u = w := by
  have hv : '"' ∉ writtenValue v := fun hmem => (not_mem_writtenValue hmem).1 rfl
  have hcut := congrArg (Text.cutFirst '"') h
  rw [Text.cutFirst_append u hv, Text.cutFirst_append w hquote, Option.some.injEq,
    Prod.mk.injEq] at hcut
  obtain ⟨hx, hu⟩ := hcut
  rw [← hx] at hamp
  exact ⟨(writtenValue_eq_self hamp).symm.trans hx, hu⟩

/-- Whether a value is a length that begins with 25 and goes on. -/
def isLength (v : Text) : Bool :=
  match v with
  | '2' :: '5' :: c :: rest => (c :: rest).all isLengthChar
  | _ => false

theorem not_mem_of_isLengthChar {c : Char} (h : isLengthChar c) :
    c ∉ ['&', '<', '>', '"', '\t', '\n', '\r'] := by
  intro hc
  revert h
  simp only [List.mem_cons, List.not_mem_nil, or_false] at hc
  rcases hc with rfl | rfl | rfl | rfl | rfl | rfl | rfl <;> decide

theorem isLength_of_afterLength? {v u w : Text}
    (h : afterLength? (writtenValue v ++ '"' :: u) = some w) : isLength v := by
  unfold afterLength? at h
  split at h
  · rename_i c rest hlead
    split at h
    · rename_i after hc hdrop
      have htext := List.isPrefixOf?_eq_some_iff_append_eq.1 hlead
      -- The length ends at the first quote, so its digits are all of the value.
      obtain ⟨digits, hmore, hrest⟩ := Text.exists_of_dropWhile_eq hdrop
      have hdigits : ∀ d ∈ c :: digits, isLengthChar d := List.forall_mem_cons.2 ⟨hc, hmore⟩
      have hplain : ∀ d ∈ '2' :: '5' :: c :: digits, isLengthChar d :=
        List.forall_mem_cons.2 ⟨by decide, List.forall_mem_cons.2 ⟨by decide, hdigits⟩⟩
      obtain ⟨rfl, -⟩ := writtenValue_split (v := v) (u := u) (x := '2' :: '5' :: c :: digits)
        (w := after) (by rw [← htext, hrest]; rfl)
        (fun hmem => not_mem_of_isLengthChar (hplain _ hmem) (by simp))
        (fun hmem => not_mem_of_isLengthChar (hplain _ hmem) (by simp))
      exact List.all_eq_true.2 hdigits
    · cases h
  · cases h

/-- A length is matched at a written value if the value is one. -/
theorem afterLength?_writtenValue (v u : Text) :
    afterLength? (writtenValue v ++ '"' :: u) = if isLength v then some u else none := by
  by_cases hlength : isLength v
  · rw [if_pos hlength]
    unfold isLength at hlength
    split at hlength
    · rename_i c rest
      rw [List.all_eq_true] at hlength
      have hplain : writtenValue ('2' :: '5' :: c :: rest) = '2' :: '5' :: c :: rest := by
        refine writtenValue_eq_of_plain fun d hd => ?_
        simp only [List.mem_cons] at hd
        rcases hd with rfl | rfl | hd
        · decide
        · decide
        · exact not_mem_of_isLengthChar (hlength d (List.mem_cons.2 hd))
      have hc : isLengthChar c = true := hlength c List.mem_cons_self
      have hdrop : (rest ++ '"' :: u).dropWhile isLengthChar = '"' :: u := by
        rw [List.dropWhile_append_of_pos fun d hd => hlength d (List.mem_cons_of_mem c hd)]
        rfl
      rw [hplain]
      simp [afterLength?, List.isPrefixOf?, hc, hdrop]
    · cases hlength
  · rw [if_neg hlength]
    cases hafter : afterLength? (writtenValue v ++ '"' :: u) with
    | none => rfl
    | some w => exact absurd (isLength_of_afterLength? hafter) hlength

/-- A plain value with its closing quote is matched at a written value if it is the value. -/
theorem isPrefixOf?_writtenValue {x : Text} (v u : Text)
    (hx : ∀ c ∈ x, c ∉ ['&', '<', '>', '"', '\t', '\n', '\r']) :
    (x ++ ['"']).isPrefixOf? (writtenValue v ++ '"' :: u) = if v = x then some u else none := by
  by_cases hv : v = x
  · subst hv
    rw [if_pos rfl, List.isPrefixOf?_eq_some_iff_append_eq, writtenValue_eq_of_plain hx]
    simp
  · rw [if_neg hv]
    cases hlead : (x ++ ['"']).isPrefixOf? (writtenValue v ++ '"' :: u) with
    | none => rfl
    | some w =>
        have htext := List.isPrefixOf?_eq_some_iff_append_eq.1 hlead
        obtain ⟨h, -⟩ := writtenValue_split (v := v) (u := u) (x := x) (w := w)
          (by rw [← htext]; simp) (fun hmem => hx _ hmem (by simp))
          (fun hmem => hx _ hmem (by simp))
        exact absurd h hv

/-! ## Background rectangles -/

/-- Whether an attribute has a name and is a length. -/
def isLengthRow (name : Text) (row : Text × Text) : Bool := row.1 = name && isLength row.2

/-- Whether an attribute fills with nothing. -/
def isUnfilledRow (row : Text × Text) : Bool :=
  row.1 = "fill".toList && row.2 = "none".toList

/-- Whether an element with a name and attributes is a rectangle that fills the
background. -/
def isBackground (name : Text) (rows : List (Text × Text)) : Bool :=
  match rows with
  | width :: height :: fill :: _ =>
      name = "rect".toList && isLengthRow "width".toList width &&
        isLengthRow "height".toList height && isUnfilledRow fill
  | _ => false

theorem afterEmptyTag?_cons_cons {c d : Char} (u : Text) (hd : d ≠ '>') (hc : c ≠ '\n') :
    afterEmptyTag? (c :: d :: u) = afterEmptyTag? (d :: u) := by
  rw [afterEmptyTag?]
  · rw [if_neg hc]
  · rintro rest - heq
    exact hd (List.cons.inj heq).1

/-- An empty tag ends at the first bracket, if that comes on the same line. -/
theorem afterEmptyTag?_append {t : Text} (u : Text) (h : ∀ c ∈ t, c ≠ '>' ∧ c ≠ '\n') :
    afterEmptyTag? (t ++ '/' :: '>' :: u) = some u := by
  induction t with
  | nil => rfl
  | cons c t ih =>
      have hrest := ih fun d hd => h d (List.mem_cons_of_mem c hd)
      have hc := (h c List.mem_cons_self).2
      cases t with
      | nil => exact (afterEmptyTag?_cons_cons _ (by decide) hc).trans hrest
      | cons d t =>
          have hd := (h d (List.mem_cons_of_mem c List.mem_cons_self)).1
          exact (afterEmptyTag?_cons_cons _ hd hc).trans hrest

theorem not_mem_writtenRows {rows : List (Text × Text)} (hrows : ∀ row ∈ rows, isLocal row.1)
    {c : Char} (hc : c ∈ writtenRows rows) : c ≠ '<' ∧ c ≠ '>' ∧ c ≠ '\n' := by
  obtain ⟨row, hrow, hmem⟩ := List.mem_flatMap.1 hc
  have hsplit : writtenRow row = ' ' :: (row.1 ++ '=' :: '"' :: (writtenValue row.2 ++ ['"'])) := by
    simp [writtenRow]
  rw [hsplit] at hmem
  simp only [List.mem_cons, List.mem_append, List.not_mem_nil, or_false] at hmem
  rcases hmem with rfl | hname | rfl | rfl | hvalue | rfl
  · decide
  · have hno := not_mem_of_isNameChar
      (isNameChar_of_isName (isName_of_isLocal (hrows row hrow)) c hname)
    simp only [List.mem_cons, not_or] at hno
    exact ⟨hno.2.2.2.2.1, hno.2.2.2.2.2.1, hno.2.2.1⟩
  · decide
  · decide
  · exact (not_mem_writtenValue hvalue).2
  · decide

/-- The text after an attribute that is a length, at the head of written attributes. -/
theorem afterLength?_writtenRows {k tail : Text} {rows : List (Text × Text)}
    (hk : ∀ a ∈ k, isNameChar a) (hrows : ∀ row ∈ rows, isLocal row.1)
    (htail : tail.head? ≠ some ' ') :
    ((' ' :: k ++ ['=', '"']).isPrefixOf? (writtenRows rows ++ tail)).bind afterLength? =
      (restAfter (isLengthRow k) rows).map (writtenRows · ++ tail) := by
  cases rows with
  | nil =>
      rw [isPrefixOf?_writtenRows_nil htail]
      rfl
  | cons row more =>
      rw [isPrefixOf?_writtenRows_cons tail more hk (hrows row List.mem_cons_self)]
      by_cases hkey : k = row.1
      · by_cases hlength : isLength row.2 <;>
          simp [restAfter, isLengthRow, hkey, List.isPrefixOf?, afterLength?_writtenValue,
            hlength]
      · simp [restAfter, isLengthRow, hkey, Ne.symm hkey]

/-- The text after the attribute that fills with nothing, at the head of written
attributes. -/
theorem isPrefixOf?_fill {tail : Text} {rows : List (Text × Text)}
    (hrows : ∀ row ∈ rows, isLocal row.1) (htail : tail.head? ≠ some ' ') :
    " fill=\"none\"".toList.isPrefixOf? (writtenRows rows ++ tail) =
      (restAfter isUnfilledRow rows).map (writtenRows · ++ tail) := by
  have hliteral : " fill=\"none\"".toList =
      ' ' :: "fill".toList ++ '=' :: '"' :: ("none".toList ++ ['"']) := rfl
  rw [hliteral]
  cases rows with
  | nil => exact isPrefixOf?_writtenRows_nil htail
  | cons row more =>
      rw [isPrefixOf?_writtenRows_cons tail more (by decide) (hrows row List.mem_cons_self),
        isPrefixOf?_writtenValue row.2 _ (by decide), restAfter, isUnfilledRow]
      by_cases hname : "fill".toList = row.1
      · rw [if_pos hname, decide_eq_true hname.symm, Bool.true_and]
        by_cases hvalue : row.2 = "none".toList
        · rw [if_pos hvalue, decide_eq_true hvalue]
          rfl
        · rw [if_neg hvalue, decide_eq_false hvalue]
          rfl
      · rw [if_neg hname, decide_eq_false (Ne.symm hname), Bool.false_and]
        rfl

/-- The rows after the first three, if these pass a test each. -/
theorem restAfter_bind (p q r : Text × Text → Bool) (rows : List (Text × Text)) :
    ((restAfter p rows).bind fun more => (restAfter q more).bind (restAfter r)) =
      match rows with
      | a :: b :: c :: more => if p a && q b && r c then some more else none
      | _ => none := by
  match rows with
  | [] => rfl
  | [a] => cases hp : p a <;> simp [restAfter, hp]
  | [a, b] => cases hp : p a <;> cases hq : q b <;> simp [restAfter, hp, hq]
  | a :: b :: c :: more => cases hp : p a <;> cases hq : q b <;> simp [restAfter, hp, hq]

/-- Whether a rectangle fills the background is seen from its first three attributes. -/
theorem isBackground_rect (rows : List (Text × Text)) :
    (if isBackground "rect".toList rows then some (rows.drop 3) else none) =
      (restAfter (isLengthRow "width".toList) rows).bind fun more =>
        (restAfter (isLengthRow "height".toList) more).bind (restAfter isUnfilledRow) := by
  rw [restAfter_bind]
  match rows with
  | [] => rfl
  | [a] => rfl
  | [a, b] => rfl
  | a :: b :: c :: more =>
      rw [isBackground, decide_eq_true rfl, Bool.true_and]
      rfl

/-- The attributes of a background rectangle are matched at written attributes if they are the
first three of these. -/
theorem backgroundRows_writtenRows {rows : List (Text × Text)} {tail : Text}
    (hrows : ∀ row ∈ rows, isLocal row.1) (htail : tail.head? ≠ some ' ') :
    (((" width=\"".toList.isPrefixOf? (writtenRows rows ++ tail)).bind afterLength?).bind fun t =>
      ((" height=\"".toList.isPrefixOf? t).bind afterLength?).bind fun t =>
        " fill=\"none\"".toList.isPrefixOf? t) =
      if isBackground "rect".toList rows then some (writtenRows (rows.drop 3) ++ tail)
      else none := by
  have hwidth : (" width=\"".toList.isPrefixOf? (writtenRows rows ++ tail)).bind afterLength? =
      (restAfter (isLengthRow "width".toList) rows).map (writtenRows · ++ tail) :=
    afterLength?_writtenRows (k := "width".toList) (by decide) hrows htail
  have hfound : (if isBackground "rect".toList rows then some (writtenRows (rows.drop 3) ++ tail)
      else none) = (if isBackground "rect".toList rows then some (rows.drop 3) else none).map
        (writtenRows · ++ tail) := by
    split <;> rfl
  rw [hwidth, hfound, isBackground_rect]
  cases hfirst : restAfter (isLengthRow "width".toList) rows with
  | none => rfl
  | some more =>
      have hmore : ∀ row ∈ more, isLocal row.1 := fun row hrow =>
        hrows row (subset_of_restAfter hfirst hrow)
      have hheight : (" height=\"".toList.isPrefixOf? (writtenRows more ++ tail)).bind
          afterLength? = (restAfter (isLengthRow "height".toList) more).map
            (writtenRows · ++ tail) :=
        afterLength?_writtenRows (k := "height".toList) (by decide) hmore htail
      rw [Option.map_some, Option.bind_some, Option.bind_some, hheight]
      cases hsecond : restAfter (isLengthRow "height".toList) more with
      | none => rfl
      | some rest =>
          have hrest : ∀ row ∈ rest, isLocal row.1 := fun row hrow =>
            hmore row (subset_of_restAfter hsecond hrow)
          rw [Option.map_some, Option.bind_some, Option.bind_some, isPrefixOf?_fill hrest htail]

/-- The background rectangle is matched at the opening mark of a rectangle that fills the
background, up to the next end of an empty tag, and at no other. -/
theorem afterBackground?_text {name : Text} {rows : List (Text × Text)} {isEmpty : Bool}
    (h : (Mark.opening name rows isEmpty).IsWritable) (t : Text) :
    afterBackground? ((Mark.opening name rows isEmpty).text ++ t) =
      if isBackground name rows then
        afterEmptyTag? (writtenRows (rows.drop 3) ++ (Mark.ending isEmpty ++ t))
      else none := by
  obtain ⟨hname, -, hrows⟩ := h
  have hlocal : ∀ row ∈ rows, isLocal row.1 := fun row hrow => (hrows row hrow).1
  have htail : (Mark.ending isEmpty ++ t).head? ≠ some ' ' := by
    cases isEmpty <;> simp [Mark.ending]
  obtain ⟨d, u, hcons, hd⟩ := exists_cons_of_writtenRows rows isEmpty t
  have hd' : isNameChar d = false := by
    simp only [List.mem_cons, List.not_mem_nil, or_false] at hd
    rcases hd with rfl | rfl | rfl <;> decide
  have hsplit : (Mark.opening name rows isEmpty).text ++ t = '<' :: (name ++ d :: u) := by
    rw [← hcons]
    simp [Mark.text]
  have hrect : "<rect width=\"".toList.isPrefixOf? ('<' :: (name ++ d :: u)) =
      if "rect".toList = name then (" width=\"".toList).isPrefixOf? (d :: u) else none :=
    isPrefixOf?_name (k := "rect".toList) (n := name) (l := "width=\"".toList)
      (u := u) (c := ' ') (d := d) (by decide)
      (isNameChar_of_isName (isName_of_isLocal hname)) (by decide) hd'
  have hwhole : afterBackground? ('<' :: (name ++ d :: u)) =
      ((("<rect width=\"".toList.isPrefixOf? ('<' :: (name ++ d :: u))).bind afterLength?).bind
        fun t => ((" height=\"".toList.isPrefixOf? t).bind afterLength?).bind fun t =>
          " fill=\"none\"".toList.isPrefixOf? t).bind afterEmptyTag? := by
    simp only [afterBackground?, Option.bind_eq_bind, Option.bind_assoc]
  rw [hsplit, hwhole, hrect]
  by_cases hn : "rect".toList = name
  · subst hn
    rw [if_pos rfl, ← hcons, backgroundRows_writtenRows hlocal htail]
    split <;> rfl
  · have hno : isBackground name rows = false := by
      unfold isBackground
      split
      · rw [decide_eq_false (Ne.symm hn)]
        rfl
      · rfl
    rw [if_neg hn, hno]
    rfl

/-! ## Marks one after another -/

/-- A mark begins with a bracket, and there is no other bracket that opens a tag in it, nor
a line end. -/
theorem exists_text_eq {mark : Mark} (h : mark.IsWritable) :
    ∃ c body, mark.text = '<' :: c :: body ∧ c ≠ '?' ∧ '<' ∉ c :: body ∧ '\n' ∉ c :: body := by
  cases mark with
  | opening name rows isEmpty =>
      obtain ⟨hlocal, -, hrows⟩ := h
      have hlt : '<' ∉ name := not_mem_of_isLocal hlocal (by decide)
      have hfeed : '\n' ∉ name := not_mem_of_isLocal hlocal (by decide)
      have hquestion : '?' ∉ name := not_mem_of_isLocal hlocal (by decide)
      cases name with
      | nil => simp [isLocal, isName] at hlocal
      | cons c name =>
          have hno := fun d hd => not_mem_writtenRows (fun row hrow => (hrows row hrow).1) hd
            (c := d)
          refine ⟨c, name ++ writtenRows rows ++ Mark.ending isEmpty, by simp [Mark.text],
            fun heq => hquestion (heq ▸ List.mem_cons_self), ?_, ?_⟩
          · have hend : '<' ∉ Mark.ending isEmpty := by cases isEmpty <;> decide
            rw [← List.cons_append, ← List.cons_append, List.mem_append, List.mem_append]
            rintro ((hmem | hmem) | hmem)
            · exact hlt hmem
            · exact (hno _ hmem).1 rfl
            · exact hend hmem
          · have hend : '\n' ∉ Mark.ending isEmpty := by cases isEmpty <;> decide
            rw [← List.cons_append, ← List.cons_append, List.mem_append, List.mem_append]
            rintro ((hmem | hmem) | hmem)
            · exact hfeed hmem
            · exact (hno _ hmem).2.2 rfl
            · exact hend hmem
  | closing name =>
      have hlt : '<' ∉ name := not_mem_of_isLocal h (by decide)
      have hfeed : '\n' ∉ name := not_mem_of_isLocal h (by decide)
      exact ⟨'/', name ++ ['>'], rfl, by decide, by simp [hlt], by simp [hfeed]⟩

/-- A mark at which nothing is matched is kept. -/
theorem replaceSpans_text {span : Text → Option Nat} {fill : Text}
    (hspan : ∀ c t, c ≠ '<' → span (c :: t) = none) {mark : Mark} (hmark : mark.IsWritable)
    {after : Text} (h : span (mark.text ++ after) = none) :
    Text.replaceSpans span fill 0 (mark.text ++ after) =
      mark.text ++ Text.replaceSpans span fill 0 after := by
  obtain ⟨c, body, htext, -, hbody, -⟩ := exists_text_eq hmark
  refine Text.replaceSpans_append_of_none mark.text after fun u hu hne => ?_
  rw [htext] at hu h
  rcases List.suffix_cons_iff.1 hu with rfl | hu
  · exact h
  · cases u with
    | nil => exact absurd rfl hne
    | cons d u =>
        exact hspan d (u ++ after) fun heq => hbody (heq ▸ hu.subset List.mem_cons_self)

/-! ## The declaration -/

theorem afterDeclaration?_of_not_mem {before : Text} (after : Text) (h : '<' ∉ before) :
    afterDeclaration? (before ++ after) = afterDeclaration? after := by
  induction before with
  | nil => rfl
  | cons c before ih =>
      rw [List.mem_cons, not_or] at h
      have hrest := ih h.2
      have hhead : "<?xml".toList.isPrefixOf? (c :: (before ++ after)) = none := by
        simp [List.isPrefixOf?, h.1]
      rw [List.cons_append, afterDeclaration?, hrest, hhead]
      cases afterDeclaration? after <;> rfl

theorem afterDeclaration?_marksText {marks : List Mark}
    (hmarks : ∀ mark ∈ marks, mark.IsWritable) : afterDeclaration? (marksText marks) = none := by
  induction marks with
  | nil => rfl
  | cons mark marks ih =>
      obtain ⟨c, body, htext, hc, hbody, -⟩ := exists_text_eq (hmarks _ List.mem_cons_self)
      have hrest := ih fun other hother => hmarks other (List.mem_cons_of_mem mark hother)
      have hsplit : marksText (mark :: marks) = '<' :: ((c :: body) ++ marksText marks) := by
        rw [← List.cons_append, ← htext]
        rfl
      have htail := afterDeclaration?_of_not_mem (marksText marks) hbody
      have hhead : "<?xml".toList.isPrefixOf? ('<' :: ((c :: body) ++ marksText marks)) =
          none := by
        simp [List.isPrefixOf?, Ne.symm hc]
      rw [hsplit, afterDeclaration?, htail, hrest, hhead]

/-- Written marks stand on one line. -/
theorem newline_not_mem_marksText {marks : List Mark} (hmarks : ∀ mark ∈ marks, mark.IsWritable) :
    '\n' ∉ marksText marks := by
  intro hmem
  obtain ⟨mark, hmark, hmem⟩ := List.mem_flatMap.1 hmem
  obtain ⟨c, body, htext, -, -, hfeed⟩ := exists_text_eq (hmarks mark hmark)
  rw [htext, List.mem_cons] at hmem
  rcases hmem with hlt | hmem
  · exact absurd hlt (by decide)
  · exact hfeed hmem

/-- Written marks are without a declaration. -/
theorem withoutDeclaration_marksText {marks : List Mark}
    (hmarks : ∀ mark ∈ marks, mark.IsWritable) :
    withoutDeclaration (marksText marks) = marksText marks := by
  have hline : (marksText marks).takeWhile (· ≠ '\n') = marksText marks := by
    rw [List.takeWhile_eq_self_iff]
    intro c hc
    exact decide_eq_true fun heq => newline_not_mem_marksText hmarks (heq ▸ hc)
  rw [withoutDeclaration, hline, afterDeclaration?_marksText hmarks]

/-! ## The background -/

/-- Whether a mark opens a rectangle that fills the background. -/
def isBackgroundMark : Mark → Bool
  | .opening name rows _ => isBackground name rows
  | .closing _ => false

/-- A rectangle that fills the background has nothing in it. -/
def IsHollow : Mark → Prop
  | .opening name rows isEmpty => isBackground name rows → isEmpty
  | .closing _ => True

theorem backgroundSpan_of_ne {c : Char} (t : Text) (h : c ≠ '<') :
    backgroundSpan (c :: t) = none := by
  have hhead : "<rect width=\"".toList.isPrefixOf? (c :: t) = none := by
    simp [List.isPrefixOf?, Ne.symm h]
  rw [backgroundSpan, afterBackground?, hhead]
  rfl

/-- The match at the mark of a background rectangle is the whole mark. -/
theorem backgroundSpan_text {mark : Mark} (hmark : mark.IsWritable) (hhollow : IsHollow mark)
    (after : Text) :
    backgroundSpan (mark.text ++ after) =
      if isBackgroundMark mark then some mark.text.length else none := by
  cases mark with
  | opening name rows isEmpty =>
      rw [backgroundSpan, afterBackground?_text hmark]
      by_cases hbackground : isBackground name rows
      · -- A background is empty here, so the first end of an empty tag is its own.
        obtain rfl : isEmpty = true := hhollow hbackground
        have hrows : ∀ row ∈ rows.drop 3, isLocal row.1 := fun row hrow =>
          (hmark.2.2 row (List.mem_of_mem_drop hrow)).1
        have hend := afterEmptyTag?_append (t := writtenRows (rows.drop 3)) after
          fun c hc => (not_mem_writtenRows hrows hc).2
        rw [if_pos hbackground]
        have hbracket : Mark.ending true ++ after = '/' :: '>' :: after := rfl
        rw [hbracket, hend, isBackgroundMark, if_pos hbackground]
        simp
      · rw [if_neg hbackground, isBackgroundMark, if_neg hbackground]
        rfl
  | closing name =>
      have hhead : "<rect width=\"".toList.isPrefixOf? ((Mark.closing name).text ++ after) =
          none := by
        simp [Mark.text, List.isPrefixOf?]
      rw [backgroundSpan, afterBackground?, hhead]
      rfl

/-- The marks of background rectangles go. -/
theorem withoutBackground_marksText {marks : List Mark}
    (hmarks : ∀ mark ∈ marks, mark.IsWritable) (hhollow : ∀ mark ∈ marks, IsHollow mark) :
    withoutBackground (marksText marks) =
      marksText (marks.filter fun mark => !isBackgroundMark mark) := by
  induction marks with
  | nil => rfl
  | cons mark marks ih =>
      have hmark := hmarks mark List.mem_cons_self
      have hrest := ih (fun other hother => hmarks other (List.mem_cons_of_mem mark hother))
        (fun other hother => hhollow other (List.mem_cons_of_mem mark hother))
      have hspan := backgroundSpan_text hmark (hhollow mark List.mem_cons_self)
        (marksText marks)
      rw [withoutBackground] at hrest ⊢
      have hsplit : marksText (mark :: marks) = mark.text ++ marksText marks := rfl
      rw [hsplit]
      -- A background is cut as a whole mark, and nothing begins inside of another mark.
      by_cases hbackground : isBackgroundMark mark
      · rw [if_pos hbackground] at hspan
        obtain ⟨c, body, htext, -⟩ := exists_text_eq hmark
        rw [htext, List.length_cons] at hspan
        rw [htext, Text.replaceSpans_append_of_some hspan, hrest,
          List.filter_cons_of_neg (by simp [hbackground])]
        rfl
      · rw [if_neg hbackground] at hspan
        rw [replaceSpans_text (fun c t => backgroundSpan_of_ne t) hmark hspan, hrest,
          List.filter_cons_of_pos (by simp [hbackground])]
        rfl

/-! ## Titles -/

/-- An element whose name does not begin like that of a title. -/
def IsUntitled : Mark → Prop
  | .opening name _ _ => ¬ "title".toList <+: name
  | .closing _ => True

theorem literalSpan_title_text {mark : Mark} (hmark : mark.IsWritable)
    (huntitled : IsUntitled mark) (after : Text) :
    Text.literalSpan "<title".toList (mark.text ++ after) = none := by
  rw [Text.literalSpan, if_neg]
  rw [List.isPrefixOf_iff_prefix]
  intro hlead
  cases mark with
  | opening name rows isEmpty =>
      obtain ⟨d, u, hcons, hd⟩ := exists_cons_of_writtenRows rows isEmpty after
      have hsplit : (Mark.opening name rows isEmpty).text ++ after = '<' :: (name ++ d :: u) := by
        rw [← hcons]
        simp [Mark.text]
      rw [hsplit] at hlead
      refine huntitled (Text.prefix_of_prefix_append (fun c hc => ?_)
        (List.cons_prefix_cons.1 hlead).2)
      cases hc
      simp only [List.mem_cons, List.not_mem_nil, or_false] at hd
      rcases hd with rfl | rfl | rfl <;> decide
  | closing name =>
      have hslash : "title".toList <+: '/' :: (name ++ ['>'] ++ after) :=
        (List.cons_prefix_cons.1 hlead).2
      exact absurd (List.cons_prefix_cons.1 hslash).1 (by decide)

theorem literalSpan_title_of_ne {c : Char} (t : Text) (h : c ≠ '<') :
    Text.literalSpan "<title".toList (c :: t) = none := by
  simp [Text.literalSpan, Ne.symm h]

/-- Marks of elements with other names than titles are kept. -/
theorem withoutTitle_marksText {marks : List Mark}
    (hmarks : ∀ mark ∈ marks, mark.IsWritable) (huntitled : ∀ mark ∈ marks, IsUntitled mark) :
    withoutTitle (marksText marks) = marksText marks := by
  induction marks with
  | nil => rfl
  | cons mark marks ih =>
      have hmark := hmarks mark List.mem_cons_self
      have hrest := ih (fun other hother => hmarks other (List.mem_cons_of_mem mark hother))
        (fun other hother => huntitled other (List.mem_cons_of_mem mark hother))
      have hnone := literalSpan_title_text hmark (huntitled mark List.mem_cons_self)
        (marksText marks)
      rw [withoutTitle, Text.replaceAll] at hrest ⊢
      have hsplit : marksText (mark :: marks) = mark.text ++ marksText marks := rfl
      rw [hsplit, replaceSpans_text (fun _ t => literalSpan_title_of_ne t) hmark hnone, hrest]

/-! ## Colours -/

/-- Whether a value is a colour of zeros. -/
def isZeroColour : Text → Bool
  | '#' :: '0' :: rest => rest.all (· = '0')
  | _ => false

/-- A value in which a colour of zeros has become the current colour. -/
def recoloured (v : Text) : Text := if isZeroColour v then "currentColor".toList else v

/-- A mark with the values of its attributes recoloured. -/
def recolouredMark : Mark → Mark
  | .opening name rows isEmpty =>
      .opening name (rows.map fun row => (row.1, recoloured row.2)) isEmpty
  | .closing name => .closing name

theorem zeroColourSpan_of_ne {c : Char} (t : Text) (h : c ≠ '"') :
    zeroColourSpan (c :: t) = none := by
  unfold zeroColourSpan
  split
  · rename_i heq
    exact absurd (List.cons.inj heq).1 h
  · rfl

theorem isZeroColour_iff (v : Text) :
    isZeroColour v ↔ ∃ zeros, v = '#' :: '0' :: zeros ∧ ∀ d ∈ zeros, d = '0' := by
  constructor
  · intro h
    unfold isZeroColour at h
    split at h
    · rename_i zeros
      exact ⟨zeros, rfl, fun d hd => by simpa using List.all_eq_true.1 h d hd⟩
    · cases h
  · rintro ⟨zeros, rfl, hzeros⟩
    exact List.all_eq_true.2 fun d hd => decide_eq_true (hzeros d hd)

theorem writtenValue_of_isZeroColour {v : Text} (h : isZeroColour v) : writtenValue v = v := by
  obtain ⟨zeros, rfl, hzeros⟩ := (isZeroColour_iff v).1 h
  refine writtenValue_eq_of_plain fun d hd => ?_
  simp only [List.mem_cons] at hd
  rcases hd with rfl | rfl | hd
  · decide
  · decide
  · rw [hzeros d hd]
    decide

/-- A match is a quote, a colour of zeros and the quote that closes it. -/
theorem exists_of_zeroColourSpan {t : Text} {n : Nat} (h : zeroColourSpan t = some n) :
    ∃ zeros v, (∀ c ∈ zeros, c = '0') ∧ t = '"' :: '#' :: '0' :: (zeros ++ '"' :: v) ∧
      n = zeros.length + 4 := by
  unfold zeroColourSpan at h
  split at h
  · rename_i rest
    split at h
    · rename_i v hdrop
      cases h
      obtain ⟨zeros, hall, rfl⟩ := Text.exists_of_dropWhile_eq hdrop
      have htake : (zeros ++ '"' :: v).takeWhile (· = '0') = zeros := by
        rw [List.takeWhile_append_of_pos hall, List.takeWhile_cons_of_neg (by decide),
          List.append_nil]
      exact ⟨zeros, v, fun c hc => of_decide_eq_true (hall c hc), rfl, by rw [htake]⟩
    · cases h
  · cases h

theorem isZeroColour_of_span {v u : Text} {n : Nat}
    (h : zeroColourSpan ('"' :: (writtenValue v ++ '"' :: u)) = some n) : isZeroColour v := by
  obtain ⟨zeros, w, hzeros, heq, -⟩ := exists_of_zeroColourSpan h
  have hplain : ∀ d ∈ '#' :: '0' :: zeros, d = '#' ∨ d = '0' :=
    List.forall_mem_cons.2 ⟨Or.inl rfl, List.forall_mem_cons.2 ⟨Or.inr rfl, fun d hd =>
      Or.inr (hzeros d hd)⟩⟩
  obtain ⟨hv, -⟩ := writtenValue_split (v := v) (u := u) (x := '#' :: '0' :: zeros) (w := w)
    (List.cons.inj heq).2 (fun hmem => absurd (hplain _ hmem) (by decide))
    (fun hmem => absurd (hplain _ hmem) (by decide))
  exact (isZeroColour_iff v).2 ⟨zeros, hv, hzeros⟩

/-- Between quotes a colour of zeros is matched with its quotes. -/
theorem zeroColourSpan_writtenValue (v u : Text) :
    zeroColourSpan ('"' :: (writtenValue v ++ '"' :: u)) =
      if isZeroColour v then some (v.length + 2) else none := by
  by_cases hzero : isZeroColour v
  · rw [if_pos hzero, writtenValue_of_isZeroColour hzero]
    obtain ⟨zeros, rfl, hzeros⟩ := (isZeroColour_iff v).1 hzero
    have hall : ∀ d ∈ zeros, decide (d = '0') = true := fun d hd =>
      decide_eq_true (hzeros d hd)
    have hdrop : (zeros ++ '"' :: u).dropWhile (· = '0') = '"' :: u := by
      rw [List.dropWhile_append_of_pos hall]
      rfl
    have htake : (zeros ++ '"' :: u).takeWhile (· = '0') = zeros := by
      rw [List.takeWhile_append_of_pos hall, List.takeWhile_cons_of_neg (by decide),
        List.append_nil]
    simp only [zeroColourSpan, List.cons_append, hdrop, htake, List.length_cons]
  · rw [if_neg hzero]
    cases hspan : zeroColourSpan ('"' :: (writtenValue v ++ '"' :: u)) with
    | none => rfl
    | some n => exact absurd (isZeroColour_of_span hspan) hzero

/-- A quote that closes a value begins no match. -/
theorem zeroColourSpan_closing {t : Text} (h : t.head? ≠ some '#') :
    zeroColourSpan ('"' :: t) = none := by
  unfold zeroColourSpan
  split
  · rename_i heq
    rw [(List.cons.inj heq).2] at h
    exact absurd rfl h
  · rfl

/-- The text in which quoted colours of zeros are replaced. -/
abbrev recolouring (t : Text) : Text :=
  Text.replaceSpans zeroColourSpan "\"currentColor\"".toList 0 t

theorem recolouring_of_not_mem {before : Text} (after : Text) (h : '"' ∉ before) :
    recolouring (before ++ after) = before ++ recolouring after :=
  Text.replaceSpans_append_of_not_mem (fun _ t => zeroColourSpan_of_ne t) after h

/-- A written value is recoloured between its quotes. -/
theorem recolouring_writtenValue (v : Text) {after : Text} (hafter : after.head? ≠ some '#') :
    recolouring ('"' :: (writtenValue v ++ '"' :: after)) =
      '"' :: (writtenValue (recoloured v) ++ '"' :: recolouring after) := by
  have hspan := zeroColourSpan_writtenValue v after
  by_cases hzero : isZeroColour v
  · rw [if_pos hzero, writtenValue_of_isZeroColour hzero] at hspan
    have hsplit : '"' :: (v ++ '"' :: after) = '"' :: (v ++ ['"']) ++ after := by simp
    rw [hsplit] at hspan
    rw [writtenValue_of_isZeroColour hzero, hsplit, recolouring,
      Text.replaceSpans_append_of_some (by rw [hspan]; simp), recoloured, if_pos hzero]
    rfl
  · rw [if_neg hzero] at hspan
    have hquote : '"' ∉ writtenValue v := fun hmem => (not_mem_writtenValue hmem).1 rfl
    rw [recoloured, if_neg hzero, recolouring, Text.replaceSpans_cons_of_none hspan]
    show '"' :: recolouring (writtenValue v ++ '"' :: after) = _
    rw [recolouring_of_not_mem _ hquote, recolouring,
      Text.replaceSpans_cons_of_none (zeroColourSpan_closing hafter)]

/-- The values of written attributes are recoloured. -/
theorem recolouring_writtenRows {rows : List (Text × Text)} {after : Text}
    (hrows : ∀ row ∈ rows, isLocal row.1) (hafter : after.head? ≠ some '#') :
    recolouring (writtenRows rows ++ after) =
      writtenRows (rows.map fun row => (row.1, recoloured row.2)) ++ recolouring after := by
  induction rows with
  | nil => rfl
  | cons row rows ih =>
      have hrest := ih fun other hother => hrows other (List.mem_cons_of_mem row hother)
      have hname : '"' ∉ row.1 :=
        not_mem_of_isLocal (hrows row List.mem_cons_self) (by decide)
      -- Quotes stand around values only, so values are recoloured one by one.
      have hkey : '"' ∉ ' ' :: row.1 ++ ['='] := by
        simp only [List.cons_append, List.mem_cons, List.mem_append, List.not_mem_nil, or_false,
          not_or]
        exact ⟨by decide, hname, by decide⟩
      have hsplit : ∀ (v u : Text), writtenRow (row.1, v) ++ u =
          (' ' :: row.1 ++ ['=']) ++ '"' :: (writtenValue v ++ '"' :: u) := by
        simp [writtenRow]
      have hcons : writtenRows (row :: rows) ++ after =
          writtenRow (row.1, row.2) ++ (writtenRows rows ++ after) := by
        simp [writtenRows]
      have hhead : (writtenRows rows ++ after).head? ≠ some '#' := by
        cases rows with
        | nil => exact hafter
        | cons row rows => simp [writtenRows, writtenRow]
      rw [hcons, hsplit, recolouring_of_not_mem _ hkey, recolouring_writtenValue row.2 hhead,
        hrest]
      simp [writtenRows, writtenRow]

/-- The values of the attributes of marks are recoloured. -/
theorem withCurrentColour_marksText {marks : List Mark}
    (hmarks : ∀ mark ∈ marks, mark.IsWritable) :
    withCurrentColour (marksText marks) = marksText (marks.map recolouredMark) := by
  show recolouring (marksText marks) = _
  induction marks with
  | nil => rfl
  | cons mark marks ih =>
      have hmark := hmarks mark List.mem_cons_self
      have hrest := ih fun other hother => hmarks other (List.mem_cons_of_mem mark hother)
      have hsplit : marksText (mark :: marks) = mark.text ++ marksText marks := rfl
      rw [hsplit]
      cases mark with
      | opening name rows isEmpty =>
          obtain ⟨hname, -, hrows⟩ := hmark
          have hquote : '"' ∉ name := not_mem_of_isLocal hname (by decide)
          have hbracket : '"' ∉ '<' :: name := by simp [hquote]
          have hend : '"' ∉ Mark.ending isEmpty := by cases isEmpty <;> decide
          have htext : (Mark.opening name rows isEmpty).text ++ marksText marks =
              '<' :: name ++ (writtenRows rows ++ (Mark.ending isEmpty ++ marksText marks)) := by
            simp [Mark.text]
          have hhead : (Mark.ending isEmpty ++ marksText marks).head? ≠ some '#' := by
            cases isEmpty <;> simp [Mark.ending]
          rw [htext, recolouring_of_not_mem _ hbracket,
            recolouring_writtenRows (fun row hrow => (hrows row hrow).1) hhead,
            recolouring_of_not_mem _ hend, hrest]
          simp [marksText, recolouredMark, Mark.text]
      | closing name =>
          have hquote : '"' ∉ name := not_mem_of_isLocal hmark (by decide)
          have hno : '"' ∉ (Mark.closing name).text := by
            simp [Mark.text, hquote]
          rw [recolouring_of_not_mem _ hno, hrest]
          rfl

/-! ## All cleanings -/

/-- The marks that cleaning leaves. -/
def cleanedMarks (marks : List Mark) : List Mark :=
  (marks.filter fun mark => !isBackgroundMark mark).map recolouredMark

/-- Cleaning written marks takes away those of background rectangles and recolours the
values of the others. -/
theorem clean_marksText {marks : List Mark} (hmarks : ∀ mark ∈ marks, mark.IsWritable)
    (hhollow : ∀ mark ∈ marks, IsHollow mark) (huntitled : ∀ mark ∈ marks, IsUntitled mark) :
    clean (marksText marks) = marksText (cleanedMarks marks) := by
  have hkept : ∀ mark ∈ marks.filter fun mark => !isBackgroundMark mark, mark ∈ marks :=
    fun mark hmark => (List.mem_filter.1 hmark).1
  rw [clean, withoutDeclaration_marksText hmarks, withoutBackground_marksText hmarks hhollow,
    withoutTitle_marksText (fun mark hmark => hmarks mark (hkept mark hmark))
      (fun mark hmark => huntitled mark (hkept mark hmark)),
    withCurrentColour_marksText (fun mark hmark => hmarks mark (hkept mark hmark)), cleanedMarks]

end Drawing

end Iconsmith
