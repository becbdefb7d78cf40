import Iconsmith.Elm.Expression
import Iconsmith.Proofs.Markup.Readings

set_option autoImplicit false

/-!
# Reading expressions back

The expression for a drawing is a text of a small grammar: lists in brackets, elements that are
applied to a list of attributes and a list of elements, and string literals in which quotes and
backslashes are escaped. `forest?` is a reader for this grammar: it reads the texts that forests
of expressions are written as, and no others (`forest?_eq_some`). In front of any other text a
reader takes what has been written and leaves the rest (`IsReader`).
-/

namespace Iconsmith.Elm

open Markup

/-! ## Readers -/

variable {α : Type} {item? : Text → Option (α × Text)} {P : α → Prop} {write : α → Text}

/-- A function is a reader of the things with a property when it takes what they are written as
off the head of a text, and gives nothing for other texts. -/
def IsReader (item? : Text → Option (α × Text)) (P : α → Prop) (write : α → Text) : Prop :=
  ∀ t a u, item? t = some (a, u) ↔ P a ∧ t = write a ++ u

/-- Reads items with commas between them up to the closing bracket, in a number of steps. -/
def items? (item? : Text → Option (α × Text)) : Nat → Text → Option (List α × Text)
  | 0, _ => none
  | steps + 1, t =>
      match item? t with
      | some (a, ' ' :: ']' :: rest) => some ([a], rest)
      | some (a, ',' :: ' ' :: rest) =>
          (items? item? steps rest).map fun (more, after) => (a :: more, after)
      | _ => none

/-- Reads a list in brackets. Every item has at least the character that follows it, so the
length of the text is steps enough. -/
def list? (item? : Text → Option (α × Text)) (t : Text) : Option (List α × Text) :=
  match t with
  | '[' :: ']' :: rest => some ([], rest)
  | '[' :: ' ' :: rest => items? item? rest.length rest
  | _ => none

theorem items?_eq_some (h : IsReader item? P write) {steps : Nat} {t u : Text} {as : List α} :
    items? item? steps t = some (as, u) ↔
      as ≠ [] ∧ as.length ≤ steps ∧ (∀ a ∈ as, P a) ∧
        t = Text.joined [',', ' '] (as.map write) ++ ' ' :: ']' :: u := by
  induction steps generalizing t as with
  | zero =>
      rw [items?]
      constructor
      · intro hread
        cases hread
      · rintro ⟨hne, hlength, -⟩
        exact absurd (List.length_eq_zero_iff.1 (Nat.le_zero.1 hlength)) hne
  | succ steps ih =>
      rw [items?]
      constructor
      · intro hread
        split at hread
        · rename_i a rest hitem
          cases hread
          obtain ⟨ha, rfl⟩ := (h _ _ _).1 hitem
          exact ⟨by simp, by simp, by simpa using ha, rfl⟩
        · rename_i a rest hitem
          obtain ⟨⟨more, after⟩, hmore, heq⟩ := Option.map_eq_some_iff.1 hread
          cases heq
          obtain ⟨ha, rfl⟩ := (h _ _ _).1 hitem
          obtain ⟨hne, hlength, hall, rfl⟩ := ih.1 hmore
          refine ⟨by simp, Nat.succ_le_succ hlength, ?_, ?_⟩
          · exact List.forall_mem_cons.2 ⟨ha, hall⟩
          · obtain ⟨b, more, rfl⟩ := List.exists_cons_of_ne_nil hne
            simp [Text.joined]
        · cases hread
      · rintro ⟨hne, hlength, hall, rfl⟩
        obtain ⟨a, more, rfl⟩ := List.exists_cons_of_ne_nil hne
        obtain ⟨ha, hmore⟩ := List.forall_mem_cons.1 hall
        cases more with
        | nil =>
            have hitem := (h _ a (' ' :: ']' :: u)).2 ⟨ha, rfl⟩
            simp only [List.map_cons, List.map_nil, Text.joined, hitem]
        | cons b more =>
            have hitem := (h _ a (',' :: ' ' ::
              (Text.joined [',', ' '] ((b :: more).map write) ++ ' ' :: ']' :: u))).2 ⟨ha, rfl⟩
            have hothers := (@ih _ (b :: more)).2
              ⟨List.cons_ne_nil _ _, Nat.le_of_succ_le_succ hlength, hmore, rfl⟩
            have hwritten : Text.joined [',', ' '] ((a :: b :: more).map write) ++ ' ' :: ']' :: u =
                write a ++ ',' :: ' ' ::
                  (Text.joined [',', ' '] ((b :: more).map write) ++ ' ' :: ']' :: u) := by
              simp [Text.joined]
            simp only [hwritten, hitem, hothers, Option.map_some]

theorem length_le_length_joined (parts : List Text) (u : Text) :
    parts.length ≤ (Text.joined [',', ' '] parts ++ ' ' :: u).length := by
  induction parts with
  | nil => exact Nat.zero_le _
  | cons part parts ih =>
      cases parts with
      | nil =>
          simp only [Text.joined, List.length_append, List.length_cons, List.length_nil]
          omega
      | cons next more =>
          simp only [Text.joined, List.length_append, List.length_cons] at ih ⊢
          omega

/-- Lists are read as they are written. -/
theorem isReader_list? (h : IsReader item? P write) :
    IsReader (list? item?) (fun as => ∀ a ∈ as, P a) fun as => listOf (as.map write) := by
  intro t as u
  rw [list?.eq_def]
  constructor
  · intro hread
    split at hread
    · cases hread
      exact ⟨by simp, rfl⟩
    · obtain ⟨hne, -, hall, rfl⟩ := (items?_eq_some h).1 hread
      obtain ⟨a, more, rfl⟩ := List.exists_cons_of_ne_nil hne
      exact ⟨hall, by simp [listOf]⟩
    · cases hread
  · rintro ⟨hall, rfl⟩
    cases as with
    | nil => rfl
    | cons a more =>
        have hlength := length_le_length_joined ((a :: more).map write) (']' :: u)
        rw [List.length_map] at hlength
        have hitems := (items?_eq_some h (u := u)).2 ⟨List.cons_ne_nil a more, hlength, hall, rfl⟩
        -- There are no more items than characters, so the steps suffice.
        simpa [listOf] using hitems

/-! ## Literals -/

/-- Reads the characters of a string literal up to the closing quote. A backslash stands only
before a quote or another one. -/
def literalFrom : Text → Option (Text × Text)
  | '"' :: rest => some ([], rest)
  | '\\' :: c :: rest =>
      if c = '\\' || c = '"' then (literalFrom rest).map fun (v, after) => (c :: v, after) else none
  | c :: rest =>
      if c = '\\' then none else (literalFrom rest).map fun (v, after) => (c :: v, after)
  | [] => none

/-- Reads a string literal. -/
def literal? : Text → Option (Text × Text)
  | '"' :: rest => literalFrom rest
  | _ => none

theorem literalFrom_escapedChar (c : Char) (t : Text) :
    literalFrom (escapedChar c ++ t) = (literalFrom t).map fun (v, after) => (c :: v, after) := by
  by_cases hc : c = '\\' ∨ c = '"'
  · have hescaped : escapedChar c = ['\\', c] := by simp [escapedChar, hc]
    rw [hescaped]
    show literalFrom ('\\' :: c :: t) = _
    rw [literalFrom, if_pos (by simpa using hc)]
  · have hescaped : escapedChar c = [c] := by simp [escapedChar, hc]
    rw [not_or] at hc
    rw [hescaped]
    show literalFrom (c :: t) = _
    rw [literalFrom.eq_def]
    split
    · rename_i heq
      exact absurd (List.cons.inj heq).1 hc.2
    · rename_i heq
      exact absurd (List.cons.inj heq).1 hc.1
    · rename_i heq
      cases heq
      rw [if_neg hc.1]
    · rename_i heq
      cases heq

theorem literalFrom_append (v u : Text) :
    literalFrom (v.flatMap escapedChar ++ '"' :: u) = some (v, u) := by
  induction v with
  | nil => rfl
  | cons c v ih =>
      rw [List.flatMap_cons, List.append_assoc, literalFrom_escapedChar, ih]
      rfl

theorem eq_of_literalFrom {t v u : Text} (h : literalFrom t = some (v, u)) :
    t = v.flatMap escapedChar ++ '"' :: u := by
  -- By the cases of the reader; only a quote that is not escaped ends it.
  fun_induction literalFrom t generalizing v with
  | case1 rest =>
      cases h
      rfl
  | case2 c rest hc ih =>
      obtain ⟨⟨w, after⟩, hrest, heq⟩ := Option.map_eq_some_iff.1 h
      cases heq
      have hescaped : escapedChar c = ['\\', c] := by rw [escapedChar, if_pos hc]
      rw [ih hrest, List.flatMap_cons, hescaped]
      rfl
  | case3 => cases h
  | case4 => cases h
  | case5 c rest hquote hescape hc ih =>
      obtain ⟨⟨w, after⟩, hrest, heq⟩ := Option.map_eq_some_iff.1 h
      cases heq
      have hplain : escapedChar c = [c] := by
        rw [escapedChar, if_neg]
        simpa [hc] using hquote
      rw [ih hrest, List.flatMap_cons, hplain]
      rfl
  | case6 => cases h

/-- String literals are read as they are written, whatever stands in them. -/
theorem isReader_literal? : IsReader literal? (fun _ => True) stringLiteral := by
  intro t v u
  rw [literal?.eq_def]
  constructor
  · intro h
    split at h
    · rw [eq_of_literalFrom h]
      simp [stringLiteral]
    · cases h
  · rintro ⟨-, rfl⟩
    simpa [stringLiteral] using literalFrom_append v u

/-! ## Attributes -/

/-- An attribute as it is written: its function and its value. -/
def attributeText (a : Text × Text) : Text :=
  "A.".toList ++ a.1 ++ ' ' :: stringLiteral a.2

/-- Reads an attribute. The name of its function ends at the first space. -/
def attribute? : Text → Option ((Text × Text) × Text)
  | 'A' :: '.' :: t => do
      let (name, t) ← Text.cutFirst ' ' t
      let (value, t) ← literal? t
      return ((name, value), t)
  | _ => none

/-- Attributes whose names hold no spaces are read as they are written. -/
theorem isReader_attribute? : IsReader attribute? (fun a => ' ' ∉ a.1) attributeText := by
  rintro t ⟨name, value⟩ u
  rw [attribute?.eq_def]
  constructor
  · intro h
    split at h
    · obtain ⟨⟨name', afterName⟩, hname, h⟩ := Option.bind_eq_some_iff.1 h
      obtain ⟨⟨value', afterValue⟩, hvalue, h⟩ := Option.bind_eq_some_iff.1 h
      cases h
      obtain ⟨rfl, hspace⟩ := Text.cutFirst_eq_some.1 hname
      obtain ⟨-, rfl⟩ := (isReader_literal? _ _ _).1 hvalue
      exact ⟨hspace, by simp [attributeText]⟩
    · cases h
  · rintro ⟨hspace, rfl⟩
    have hname : Text.cutFirst ' ' (name ++ ' ' :: (stringLiteral value ++ u)) =
        some (name, stringLiteral value ++ u) := Text.cutFirst_eq_some.2 ⟨rfl, hspace⟩
    have hvalue := (isReader_literal? _ value u).2 ⟨trivial, rfl⟩
    simp [attributeText, hname, hvalue]

/-! ## Expressions -/

/-- An expression for an element, apart from how it is written: the name of its function, its
attributes by the names of theirs, and the expressions in it. -/
inductive Expression where
  | mk (name : Text) (attributes : List (Text × Text)) (children : List Expression)

namespace Expression

mutual

/-- An expression as it is written. -/
def text : Expression → Text
  | ⟨name, attributes, children⟩ =>
      "S.".toList ++ name ++ ' ' :: listOf (attributes.map attributeText) ++
        ' ' :: listOf (texts children)

/-- Expressions as they are written. -/
def texts : List Expression → List Text
  | [] => []
  | e :: rest => text e :: texts rest

end

mutual

/-- Whether no name in an expression holds a space. -/
def IsSpelled : Expression → Prop
  | ⟨name, attributes, children⟩ =>
      ' ' ∉ name ∧ (∀ a ∈ attributes, ' ' ∉ a.1) ∧ AreSpelled children

/-- Whether no name in some expressions holds a space. -/
def AreSpelled : List Expression → Prop
  | [] => True
  | e :: rest => IsSpelled e ∧ AreSpelled rest

end

mutual

/-- How deep expressions stand in one another. -/
def depth : Expression → Nat
  | ⟨_, _, children⟩ => forestDepth children + 1

/-- How deep some expressions and those in them stand. -/
def forestDepth : List Expression → Nat
  | [] => 0
  | e :: rest => max (depth e) (forestDepth rest)

end

theorem texts_eq_map (es : List Expression) : texts es = es.map text := by
  induction es with
  | nil => rfl
  | cons e rest ih => rw [texts, ih, List.map_cons]

theorem areSpelled_iff (es : List Expression) : AreSpelled es ↔ ∀ e ∈ es, e.IsSpelled := by
  induction es with
  | nil => simp [AreSpelled]
  | cons e rest ih => rw [AreSpelled, ih, List.forall_mem_cons]

theorem forestDepth_le_iff (es : List Expression) (n : Nat) :
    forestDepth es ≤ n ↔ ∀ e ∈ es, e.depth ≤ n := by
  induction es with
  | nil => simp [forestDepth]
  | cons e rest ih => rw [forestDepth, Nat.max_le, ih, List.forall_mem_cons]

end Expression

open Expression

/-- The text after a space. -/
def space? : Text → Option Text
  | ' ' :: t => some t
  | _ => none

theorem space?_eq_some {t u : Text} : space? t = some u ↔ t = ' ' :: u := by
  rw [space?.eq_def]
  split
  · simp
  · rename_i hno
    constructor
    · intro h
      cases h
    · intro h
      exact absurd h (hno u)

/-- Reads an expression in which expressions stand at most so deep. -/
def expression? : Nat → Text → Option (Expression × Text)
  | depth + 1, 'S' :: '.' :: t => do
      let (name, t) ← Text.cutFirst ' ' t
      let (attributes, t) ← list? attribute? t
      let t ← space? t
      let (children, t) ← list? (expression? depth) t
      return (⟨name, attributes, children⟩, t)
  | _, _ => none

/-- Expressions whose names hold no spaces are read as they are written. -/
theorem isReader_expression? (n : Nat) :
    IsReader (expression? n) (fun e => e.IsSpelled ∧ e.depth ≤ n) text := by
  induction n with
  | zero =>
      rintro t ⟨name, attributes, children⟩ u
      beta_reduce
      rw [expression?.eq_def, Expression.depth]
      constructor
      · intro h
        cases h
      · rintro ⟨⟨-, hdepth⟩, -⟩
        exact absurd hdepth (Nat.not_succ_le_zero _)
  | succ n ih =>
      have hattributes := isReader_list? isReader_attribute?
      have hchildren := isReader_list? ih
      rintro t ⟨name, attributes, children⟩ u
      beta_reduce
      rw [expression?.eq_def, Expression.IsSpelled, Expression.depth, areSpelled_iff,
        Nat.add_le_add_iff_right, forestDepth_le_iff, Expression.text, texts_eq_map]
      constructor
      · intro h
        split at h
        · rename_i heq
          cases heq
          obtain ⟨⟨name', afterName⟩, hname, h⟩ := Option.bind_eq_some_iff.1 h
          obtain ⟨⟨attributes', afterAttributes⟩, hread, h⟩ := Option.bind_eq_some_iff.1 h
          obtain ⟨afterSpace, hgap, h⟩ := Option.bind_eq_some_iff.1 h
          obtain ⟨⟨children', afterChildren⟩, hinside, h⟩ := Option.bind_eq_some_iff.1 h
          cases h
          obtain ⟨rfl, hspace⟩ := Text.cutFirst_eq_some.1 hname
          obtain ⟨hnames, rfl⟩ := (hattributes _ _ _).1 hread
          obtain rfl := space?_eq_some.1 hgap
          obtain ⟨hall, rfl⟩ := (hchildren _ _ _).1 hinside
          exact ⟨⟨⟨hspace, hnames, fun e he => (hall e he).1⟩, fun e he => (hall e he).2⟩,
            by simp⟩
        · cases h
      · rintro ⟨⟨⟨hspace, hnames, hspelled⟩, hdepth⟩, rfl⟩
        have hname : Text.cutFirst ' ' (name ++ ' ' :: (listOf (attributes.map attributeText) ++
            ' ' :: (listOf (children.map text) ++ u))) =
              some (name, listOf (attributes.map attributeText) ++
                ' ' :: (listOf (children.map text) ++ u)) := Text.cutFirst_eq_some.2 ⟨rfl, hspace⟩
        have hread := (hattributes _ attributes (' ' :: (listOf (children.map text) ++ u))).2
          ⟨hnames, rfl⟩
        have hinside := (hchildren _ children u).2
          ⟨fun e he => ⟨hspelled e he, hdepth e he⟩, rfl⟩
        simp [hname, hread, hinside, space?]

/-! ## Forests -/

/-- A list of expressions as it is written. -/
def forestText (es : List Expression) : Text := listOf (texts es)

/-- Reads a text that is a list of expressions. No expression stands deeper in a text than the
text is long. -/
def forest? (t : Text) : Option (List Expression) :=
  match list? (expression? t.length) t with
  | some (es, []) => some es
  | _ => none

mutual

theorem depth_le_length_text : ∀ e : Expression, e.depth ≤ (text e).length
  | ⟨name, attributes, children⟩ => by
      have hchildren := forestDepth_le_length_forestText children
      rw [forestText] at hchildren
      simp only [depth, text, List.length_append, List.length_cons]
      omega

theorem forestDepth_le_length_forestText : ∀ es : List Expression,
    forestDepth es ≤ (forestText es).length
  | [] => Nat.zero_le _
  | [e] => by
      have hfirst := depth_le_length_text e
      simp only [forestDepth, forestText, texts, listOf, Text.joined, List.length_append]
      omega
  | e :: next :: rest => by
      have hfirst := depth_le_length_text e
      have hrest := forestDepth_le_length_forestText (next :: rest)
      simp only [forestText, texts, listOf, Text.joined, List.length_append] at hrest ⊢
      rw [forestDepth]
      omega

end

/-- The reader reads the lists of expressions whose names hold no spaces as they are written,
and nothing else. -/
theorem forest?_eq_some {t : Text} {es : List Expression} :
    forest? t = some es ↔ (∀ e ∈ es, e.IsSpelled) ∧ t = forestText es := by
  have hlist := isReader_list? (isReader_expression? t.length)
  rw [forest?]
  constructor
  · intro h
    split at h
    · rename_i es' hread
      cases h
      obtain ⟨hall, heq⟩ := (hlist _ _ _).1 hread
      exact ⟨fun e he => (hall e he).1, by rw [heq, forestText, texts_eq_map, List.append_nil]⟩
    · cases h
  · rintro ⟨hspelled, rfl⟩
    have hdepth := (forestDepth_le_iff es _).1 (forestDepth_le_length_forestText es)
    have hread := (hlist (forestText es) es []).2
      ⟨fun e he => ⟨hspelled e he, hdepth e he⟩, by rw [forestText, texts_eq_map, List.append_nil]⟩
    rw [hread]

end Iconsmith.Elm
