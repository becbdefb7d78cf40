import Iconsmith.Proofs.Elm.Lines
import Iconsmith.Proofs.Elm.Reader
import Iconsmith.Proofs.Replacing

set_option autoImplicit false

/-!
# Literals that close themselves

A string literal is written by two replacements, of backslashes and then of quotes, and is read by
a scanner that goes from its opening quote to the first quote that no backslash takes along. The
scanner gives the value back and stops right behind the literal, whatever follows
(`scan?_append`). So no literal begins another one, and a value never gets out of its literal: in
the expression for a drawing the scanner finds the values that are shown, one after the other, and
no other literal (`scan?_stringLiteral`).
-/

namespace Iconsmith.Elm

open Markup Drawing

variable {t u v w rest : Text} {vs ws : List Text}

/-! ## The scanner -/

/-- Reads a literal from behind its opening quote: the characters that it stands for, and the text
behind it. A backslash is taken together with the next character, as this character, and the first
quote that is not taken so closes the literal. -/
def scanFrom : Text → Option (Text × Text)
  | [] => none
  | '"' :: rest => some ([], rest)
  | '\\' :: c :: rest => (scanFrom rest).map fun (v, after) => (c :: v, after)
  | c :: rest => (scanFrom rest).map fun (v, after) => (c :: v, after)

/-- Reads the literal at the head of a text. -/
def scan? : Text → Option (Text × Text)
  | '"' :: rest => scanFrom rest
  | _ => none

theorem scan?_cons_of_ne {c : Char} (hc : c ≠ '"') (t : Text) : scan? (c :: t) = none := by
  rw [scan?]
  intro rest heq
  exact hc (List.cons.inj heq).1

/-- What the reader of expressions takes for the rest of a literal the scanner takes for it too:
they differ only where a backslash stands before another character. -/
theorem scanFrom_of_literalFrom (h : literalFrom t = some (v, rest)) :
    scanFrom t = some (v, rest) := by
  -- By the cases of the reader; the scanner skips what the reader refuses to skip.
  fun_induction literalFrom t generalizing v with
  | case1 after =>
      cases h
      rfl
  | case2 c after hescaped ih =>
      obtain ⟨⟨w, left⟩, hafter, heq⟩ := Option.map_eq_some_iff.1 h
      cases heq
      rw [scanFrom, ih hafter]
      rfl
  | case3 => cases h
  | case4 => cases h
  | case5 c after hquote hpair hplain ih =>
      obtain ⟨⟨w, left⟩, hafter, heq⟩ := Option.map_eq_some_iff.1 h
      cases heq
      rw [scanFrom, ih hafter]
      · rfl
      · exact hquote
      · exact hpair
  | case6 => cases h

/-- The scanner stops at the end of a literal, with its value. -/
theorem scan?_append (v r : Text) : scan? (stringLiteral v ++ r) = some (v, r) := by
  have hread : literal? (stringLiteral v ++ r) = some (v, r) :=
    (isReader_literal? _ v r).2 ⟨trivial, rfl⟩
  exact scanFrom_of_literalFrom hread

/-- A literal begins no other one. -/
theorem stringLiteral_prefix_iff : stringLiteral v <+: stringLiteral w ↔ v = w := by
  constructor
  · rintro ⟨r, h⟩
    have hlong := scan?_append v r
    have hwhole := scan?_append w []
    rw [List.append_nil, ← h, hlong] at hwhole
    exact congrArg Prod.fst (Option.some.inj hwhole)
  · rintro rfl
    exact List.prefix_rfl

/-! ## Two replacements -/

/-- Each backslash is doubled, and then each quote gets one of its own. Going the other way round,
the backslashes of the quotes would be doubled with the others. -/
theorem stringLiteral_eq_replaceAll (v : Text) :
    stringLiteral v =
      '"' :: Text.replaceAll ['"'] ['\\', '"'] (Text.replaceAll ['\\'] ['\\', '\\'] v) ++
        ['"'] := by
  have hchar : ∀ c : Char, (if c = '\\' then ['\\', '\\'] else [c]).flatMap
      (fun d => if d = '"' then ['\\', '"'] else [d]) = escapedChar c := by
    intro c
    by_cases hbackslash : c = '\\'
    · subst hbackslash
      rfl
    · by_cases hquote : c = '"'
      · subst hquote
        rfl
      · simp [escapedChar, hbackslash, hquote]
  rw [Text.replaceAll_singleton, Text.replaceAll_singleton, List.flatMap_assoc]
  simp only [hchar]
  rfl

/-! ## Literals in a text -/

/-- The values of the literals that a scanner finds in a text that it goes through from the left,
when each of them is closed. -/
inductive HasLiterals : Text → List Text → Prop where
  | nil : HasLiterals [] []
  | other {c : Char} {t : Text} {vs : List Text} : c ≠ '"' → HasLiterals t vs →
      HasLiterals (c :: t) vs
  | literal {t v rest : Text} {vs : List Text} : scan? t = some (v, rest) → HasLiterals rest vs →
      HasLiterals t (v :: vs)

/-- A scanner that has stopped does so as well when more text follows. -/
theorem scanFrom_append_of_some (h : scanFrom t = some (v, rest)) (u : Text) :
    scanFrom (t ++ u) = some (v, rest ++ u) := by
  fun_induction scanFrom t generalizing v with
  | case1 => cases h
  | case2 after =>
      cases h
      rfl
  | case3 c after ih =>
      obtain ⟨⟨w, left⟩, hafter, heq⟩ := Option.map_eq_some_iff.1 h
      cases heq
      show scanFrom ('\\' :: c :: (after ++ u)) = _
      rw [scanFrom, ih hafter]
      rfl
  | case4 c after hquote hescape ih =>
      obtain ⟨⟨w, left⟩, hafter, heq⟩ := Option.map_eq_some_iff.1 h
      cases heq
      -- A backslash that ends the text takes nothing along, and the literal is not closed.
      have hplain : ∀ d more, c = '\\' → after ++ u = d :: more → False := by
        intro d more hbackslash hcons
        cases after with
        | nil => cases hafter
        | cons e after => exact hescape e after hbackslash rfl
      show scanFrom (c :: (after ++ u)) = _
      rw [scanFrom, ih hafter]
      · rfl
      · exact hquote
      · exact hplain

theorem scan?_append_of_some (h : scan? t = some (v, rest)) (u : Text) :
    scan? (t ++ u) = some (v, rest ++ u) := by
  rw [scan?.eq_def] at h
  split at h
  · exact scanFrom_append_of_some h u
  · cases h

/-- The scanner finds one list of literals. -/
theorem HasLiterals.unique (h : HasLiterals t vs) (h' : HasLiterals t ws) : vs = ws := by
  induction h generalizing ws with
  | nil =>
      cases h' with
      | nil => rfl
      | literal hscan => cases hscan
  | other hc _ ih =>
      cases h' with
      | other _ hrest => exact ih hrest
      | literal hscan =>
          rw [scan?_cons_of_ne hc] at hscan
          cases hscan
  | literal hscan _ ih =>
      cases h' with
      | nil => cases hscan
      | other hc _ =>
          rw [scan?_cons_of_ne hc] at hscan
          cases hscan
      | literal hscan' hrest =>
          rw [hscan] at hscan'
          cases hscan'
          rw [ih hrest]

/-- The literals of two texts one after the other. -/
theorem HasLiterals.append (h : HasLiterals t vs) (h' : HasLiterals u ws) :
    HasLiterals (t ++ u) (vs ++ ws) := by
  induction h with
  | nil => exact h'
  | other hc _ ih => exact .other hc ih
  | literal hscan _ ih => exact .literal (scan?_append_of_some hscan u) ih

theorem hasLiterals_of_not_mem (h : '"' ∉ t) : HasLiterals t [] := by
  induction t with
  | nil => exact .nil
  | cons c t ih =>
      rw [List.mem_cons, not_or] at h
      exact .other (Ne.symm h.1) (ih h.2)

theorem hasLiterals_stringLiteral (v : Text) : HasLiterals (stringLiteral v) [v] := by
  have hscan := scan?_append v []
  rw [List.append_nil] at hscan
  exact .literal hscan .nil

/-! ## Literals of expressions -/

theorem hasLiterals_joined {items : List Text} {found : List (List Text)}
    (h : List.Forall₂ HasLiterals items found) :
    HasLiterals (Text.joined [',', ' '] items) found.flatten := by
  have hgap : HasLiterals [',', ' '] [] := hasLiterals_of_not_mem (by decide)
  induction h with
  | nil => exact .nil
  | cons hitem hmore ih =>
      cases hmore with
      | nil => simpa [Text.joined] using hitem
      | cons hnext hrest => simpa [Text.joined] using (hitem.append hgap).append ih

/-- In a list stand the literals of its items. -/
theorem hasLiterals_listOf {items : List Text} {found : List (List Text)}
    (h : List.Forall₂ HasLiterals items found) : HasLiterals (listOf items) found.flatten := by
  cases h with
  | nil => exact hasLiterals_of_not_mem (by decide)
  | cons hitem hmore =>
      have hopening : HasLiterals "[ ".toList [] := hasLiterals_of_not_mem (by decide)
      have hclosing : HasLiterals " ]".toList [] := hasLiterals_of_not_mem (by decide)
      have hitems := hasLiterals_joined (.cons hitem hmore)
      have hlist := (hopening.append hitems).append hclosing
      rwa [List.nil_append, List.append_nil] at hlist

/-- An attribute has the literal of its value and no other. -/
theorem forall₂_hasLiterals_attributes {table : Table Text Text}
    (h : ∀ row ∈ table.rows, isName row.1) :
    List.Forall₂ HasLiterals (attributes table) (table.rows.map fun row => [row.2]) := by
  rw [attributes, List.forall₂_map_left_iff, List.forall₂_map_right_iff, List.forall₂_same]
  intro row hrow
  have hname : HasLiterals ("A.".toList ++ attributeName row.1) [] := by
    apply hasLiterals_of_not_mem
    apply List.not_mem_append (by decide)
    exact not_mem_attributeName (by decide) (not_mem_of_isName (by decide) (h row hrow))
  exact hname.append (.other (by decide) (hasLiterals_stringLiteral row.2))

theorem valuesBelow_eq_flatten (es : List Element) :
    valuesBelow es = (es.map shownValues).flatten := by
  induction es with
  | nil => rfl
  | cons e rest ih => rw [valuesBelow, ih, List.map_cons, List.flatten_cons]

mutual

/-- The literals of an expression are the values that it shows. -/
theorem hasLiterals_element : ∀ e : Element, (∀ x ∈ Drawing.elements e, x.IsNamed) →
    HasLiterals (element e) (shownValues e)
  | ⟨name, table, children⟩, h => by
      rw [Drawing.elements] at h
      obtain ⟨hname, hrows⟩ := h _ List.mem_cons_self
      have hchildren := hasLiterals_listOf
        (forall₂_hasLiterals_elements children fun x hx => h x (List.mem_cons_of_mem _ hx))
      rw [← valuesBelow_eq_flatten] at hchildren
      have hattributes := hasLiterals_listOf (forall₂_hasLiterals_attributes hrows)
      rw [← List.flatMap_def, ← List.map_eq_flatMap] at hattributes
      -- There is no quote in a name, so no literal begins before the first value.
      have hfunction : HasLiterals ("S.".toList ++ name) [] := by
        apply hasLiterals_of_not_mem
        exact List.not_mem_append (by decide) (not_mem_of_isName (by decide) hname)
      rw [element, shownValues, rootName]
      split
      · exact hchildren
      · have hhead := hfunction.append (.other (by decide : ' ' ≠ '"') hattributes)
        exact hhead.append (.other (by decide) hchildren)

theorem forall₂_hasLiterals_elements : ∀ es : List Element,
    (∀ x ∈ forestElements es, x.IsNamed) →
      List.Forall₂ HasLiterals (elements es) (es.map shownValues)
  | [], _ => .nil
  | e :: rest, h => by
      rw [forestElements] at h
      have hfirst := hasLiterals_element e fun x hx => h x (List.mem_append_left _ hx)
      exact .cons hfirst
        (forall₂_hasLiterals_elements rest fun x hx => h x (List.mem_append_right _ hx))

end

/-- A scanner that goes from the opening quote of a literal to the first quote that no backslash
takes along stops right behind the literal and has read its value, whatever follows and whatever
the value is. So a literal begins another one only if it is the same, for the same value; and in the
expression for a drawing that has been read, the literals that the scanner finds are those of the
values that are shown, and nothing else. -/
theorem scan?_stringLiteral :
    (∀ v : Text, stringLiteral v = '"' ::
      Text.replaceAll ['"'] ['\\', '"'] (Text.replaceAll ['\\'] ['\\', '\\'] v) ++ ['"']) ∧
    (∀ v r : Text, scan? (stringLiteral v ++ r) = some (v, r)) ∧
    (∀ v w : Text, stringLiteral v <+: stringLiteral w ↔ v = w) ∧
    ∀ t root, read t = .ok root → ∀ vs, HasLiterals (element root) vs ↔ vs = shownValues root := by
  refine ⟨stringLiteral_eq_replaceAll, scan?_append, fun v w => stringLiteral_prefix_iff, ?_⟩
  intro t root h vs
  have hshown := hasLiterals_element root (Document.isNamed_of_parse (read_eq_ok.1 h).1)
  constructor
  · intro hfound
    exact hfound.unique hshown
  · rintro rfl
    exact hshown

/-- A drawing with backslashes before quotes and at the ends of values. -/
def backslashed : Text := "<svg><path d='\\\\\"' type='\"'/><g id='\\'/></svg>".toList

theorem scan?_stringLiteral_backslashed : ∃ root, read backslashed = .ok root ∧
    HasLiterals (element root) ["\\\\\"".toList, "\"".toList, "\\".toList] := by
  have hread : read backslashed = .ok ⟨rootName, Table.ofList [],
      [⟨"path".toList, Table.ofList [("d".toList, "\\\\\"".toList), ("type".toList, "\"".toList)],
        []⟩, ⟨"g".toList, Table.ofList [("id".toList, "\\".toList)], []⟩]⟩ := by rfl
  refine ⟨_, hread, ?_⟩
  exact (scan?_stringLiteral.2.2.2 _ _ hread _).2 (by decide)

end Iconsmith.Elm
