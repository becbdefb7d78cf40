import Iconsmith.Markup.Document
import Iconsmith.Proofs.Text.Fields
import Mathlib.Data.List.DropRight
import Mathlib.Data.List.Infix
import Mathlib.Data.List.TakeDrop
import Mathlib.Data.List.TakeWhile

set_option autoImplicit false

/-!
# What readers read

What a reading that succeeds says about the text that was read, for the readers of which
pieces are made. Every reader leaves less than it was given, so a text is cut into pieces to
its end whatever the number of steps (`Cuts`, `pieces_of_cuts`).
-/

namespace Iconsmith.Markup

/-! ## Literals, gaps and names -/

theorem after?_eq_some {literal : String} {t u : Text} :
    after? literal t = some u ↔ literal.toList ++ u = t :=
  List.isPrefixOf?_eq_some_iff_append_eq

theorem after?_eq_none {literal : String} {t : Text} :
    after? literal t = none ↔ ¬literal.toList <+: t := by
  rw [← Option.not_isSome_iff_eq_none, Option.isSome_iff_exists]
  exact not_congr (exists_congr fun u => after?_eq_some)

theorem length_skipGap (t : Text) : (skipGap t).length ≤ t.length :=
  (List.dropWhile_suffix isGap).length_le

theorem skipGap_skipGap (t : Text) : skipGap (skipGap t) = skipGap t := by
  rw [skipGap, skipGap, List.dropWhile_idempotent]

theorem gap?_eq_some {t u : Text} :
    gap? t = some u ↔ ∃ c rest, t = c :: rest ∧ isGap c ∧ u = skipGap rest := by
  cases t with
  | nil => simp [gap?]
  | cons c rest =>
      rw [gap?]
      constructor
      · intro h
        split at h
        · rename_i hc
          exact ⟨c, rest, rfl, hc, (Option.some.inj h).symm⟩
        · cases h
      · rintro ⟨d, rest', heq, hd, rfl⟩
        cases heq
        rw [if_pos hd]

theorem isNameChar_of_isNameStart {c : Char} (h : isNameStart c) : isNameChar c := by
  simp [isNameChar, h]

/-- Where a name can begin, it is as long as it can be. -/
theorem spanName_of_isNameStart {c : Char} {rest : Text} (hc : isNameStart c) :
    spanName (c :: rest) =
      ((c :: rest).takeWhile isNameChar, (c :: rest).dropWhile isNameChar) := by
  rw [spanName, if_pos hc, List.span_eq_takeWhile_dropWhile]

/-- A name is as long as it can be, and no NUL character follows it. -/
theorem readName_eq_ok {t raw u : Text} :
    readName t = .ok (raw, u) ↔
      (∃ c rest, t = c :: rest ∧ isNameStart c) ∧ raw = t.takeWhile isNameChar ∧
        u = t.dropWhile isNameChar ∧ u.head? ≠ some '\x00' := by
  cases t with
  | nil => simp [readName, spanName]
  | cons c rest =>
      by_cases hc : isNameStart c
      · have hne : (c :: rest).takeWhile isNameChar ≠ [] := by
          rw [List.takeWhile_cons_of_pos (isNameChar_of_isNameStart hc)]
          exact List.cons_ne_nil _ _
        rw [readName, spanName_of_isNameStart hc]
        constructor
        · intro h
          split at h
          · cases h
          · cases h
          · rename_i hnul _
            cases h
            refine ⟨⟨c, rest, rfl, hc⟩, rfl, rfl, fun hhead => ?_⟩
            obtain ⟨after, hafter⟩ := List.head?_eq_some_iff.1 hhead
            exact hnul _ after (by rw [hafter])
        · rintro ⟨-, rfl, rfl, hhead⟩
          split
          · rename_i after heq
            rw [(Prod.mk.inj heq).2] at hhead
            exact absurd rfl hhead
          · rename_i heq
            exact absurd (Prod.mk.inj heq).1 hne
          · rfl
      · -- No name begins here, so an empty one is found, which is none.
        have hspan : spanName (c :: rest) = ([], c :: rest) := by rw [spanName, if_neg hc]
        rw [readName, hspan]
        constructor
        · intro h
          split at h
          · cases h
          · cases h
          · rename_i hnone
            exact absurd rfl (hnone _)
        · rintro ⟨⟨d, rest', heq, hd⟩, -⟩
          cases heq
          exact absurd hd hc

theorem length_readName {t raw u : Text} (h : readName t = .ok (raw, u)) :
    u.length < t.length := by
  obtain ⟨⟨c, rest, rfl, hc⟩, -, rfl, -⟩ := readName_eq_ok.1 h
  rw [List.dropWhile_cons_of_pos (isNameChar_of_isNameStart hc)]
  exact Nat.lt_succ_of_le (List.dropWhile_suffix isNameChar).length_le

theorem equals?_eq_some {t u : Text} :
    equals? t = some u ↔ ∃ rest, skipGap t = '=' :: rest ∧ u = skipGap rest := by
  rw [equals?]
  split
  · rename_i rest heq
    rw [heq]
    constructor
    · intro h
      exact ⟨rest, rfl, (Option.some.inj h).symm⟩
    · rintro ⟨other, hother, rfl⟩
      cases hother
      rfl
  · rename_i hno
    constructor
    · intro h
      cases h
    · rintro ⟨rest, heq, -⟩
      exact absurd heq (hno rest)

theorem length_equals? {t u : Text} (h : equals? t = some u) : u.length < t.length := by
  obtain ⟨rest, hrest, rfl⟩ := equals?_eq_some.1 h
  have hskip := length_skipGap t
  rw [hrest, List.length_cons] at hskip
  have := length_skipGap rest
  omega

/-! ## References -/

theorem suffix_digitsFrom {digit? : Nat → Char → Option Nat} {base place value n : Nat}
    {t u : Text} (h : digitsFrom digit? base place value t = some (n, u)) :
    u <:+ t ∧ u.length < t.length := by
  induction t generalizing place value with
  | nil => cases h
  | cons c rest ih =>
      rw [digitsFrom.eq_def] at h
      cases hdigit : digit? place c with
      | none =>
          simp only [hdigit] at h
          cases h
      | some d =>
          simp only [hdigit] at h
          split at h
          · cases h
            refine ⟨(List.suffix_cons _ _).trans (List.suffix_cons _ _), ?_⟩
            simp only [List.length_cons]
            omega
          · obtain ⟨hsuffix, hlength⟩ := ih h
            exact ⟨hsuffix.trans (List.suffix_cons c rest), Nat.lt_succ_of_lt hlength⟩

/-- The reading of a reference to a character by its number. -/
def numberedPart (number : Option (Nat × Text)) : Reading Part :=
  match number with
  | some (n, after) =>
      match numberedChar? n with
      | some c => .ok (.char c, after)
      | none => .error none
  | none => .error none

theorem numberedPart_eq_ok {number : Option (Nat × Text)} {part : Part} {u : Text} :
    numberedPart number = .ok (part, u) ↔
      ∃ n c, number = some (n, u) ∧ numberedChar? n = some c ∧ part = .char c := by
  cases number with
  | none => simp [numberedPart]
  | some found =>
      obtain ⟨n, after⟩ := found
      cases hchar : numberedChar? n with
      | none => simp [numberedPart, hchar]
      | some c =>
          simp only [numberedPart, hchar]
          constructor
          · intro h
            cases h
            exact ⟨n, c, rfl, hchar, rfl⟩
          · rintro ⟨m, d, hm, hd, rfl⟩
            cases hm
            rw [hchar] at hd
            cases hd
            rfl

/-- The part that a reference by name is. -/
def namedPart (name : Text) : Part :=
  match namedChars.lookup name with
  | some c => .char c
  | none => .entity name

/-- The reading of a reference by its name. -/
theorem readReference_named {t : Text} (hhash : t.head? ≠ some '#') {part : Part} {u : Text} :
    readReference t = .ok (part, u) ↔
      ∃ name, readName t = .ok (name, ';' :: u) ∧ part = namedPart name := by
  -- The table of digits plays no part where no hash begins the reference, so it stays closed.
  have hunfold : readReference t = readReferenceWith hexDigitAt? t := rfl
  rw [hunfold, readReferenceWith.eq_def]
  constructor
  · intro h
    split at h
    · exact absurd rfl hhash
    · split at h
      · cases h
      · rename_i name after hname
        split at h
        · rename_i c hc
          cases h
          exact ⟨name, hname, by rw [namedPart, hc]⟩
        · rename_i hnone
          cases h
          exact ⟨name, hname, by rw [namedPart, hnone]⟩
      · cases h
  · rintro ⟨name, hname, rfl⟩
    split
    · exact absurd rfl hhash
    · simp only [hname, namedPart]
      cases namedChars.lookup name <;> rfl

/-- A reference as it is read: by a hexadecimal number, by a decimal number, or by name. -/
inductive ReadsReference : Text → Part → Text → Prop where
  | hex {digits u : Text} {n : Nat} {c : Char} :
      digitsFrom hexDigitAt? 16 0 0 digits = some (n, u) → numberedChar? n = some c →
        ReadsReference ('#' :: 'x' :: digits) (.char c) u
  | decimal {digits u : Text} {n : Nat} {c : Char} : digits.head? ≠ some 'x' →
      digitsFrom (fun _ => decimalDigit?) 10 0 0 digits = some (n, u) → numberedChar? n = some c →
        ReadsReference ('#' :: digits) (.char c) u
  | named {t name u : Text} : t.head? ≠ some '#' → readName t = .ok (name, ';' :: u) →
      ReadsReference t (namedPart name) u

theorem readReference_eq_ok {t u : Text} {part : Part} :
    readReference t = .ok (part, u) ↔ ReadsReference t part u := by
  have hhex : ∀ digits, readReference ('#' :: 'x' :: digits) =
      numberedPart (digitsFrom hexDigitAt? 16 0 0 digits) := fun digits => rfl
  have hdecimal : ∀ digits : Text, digits.head? ≠ some 'x' → readReference ('#' :: digits) =
      numberedPart (digitsFrom (fun _ => decimalDigit?) 10 0 0 digits) := by
    intro digits hx
    cases digits with
    | nil => rfl
    | cons c digits =>
        have hc : c ≠ 'x' := fun heq => hx (congrArg some heq)
        simp only [readReference, readReferenceWith, List.cons.injEq, hc, false_and,
          imp_false, not_false_eq_true, implies_true]
        cases digitsFrom (fun _ => decimalDigit?) 10 0 0 (c :: digits) <;> rfl
  constructor
  · intro h
    by_cases hhash : t.head? = some '#'
    · obtain ⟨digits, rfl⟩ := List.head?_eq_some_iff.1 hhash
      by_cases hx : digits.head? = some 'x'
      · obtain ⟨digits, rfl⟩ := List.head?_eq_some_iff.1 hx
        rw [hhex] at h
        obtain ⟨n, c, hnumber, hchar, rfl⟩ := numberedPart_eq_ok.1 h
        exact .hex hnumber hchar
      · rw [hdecimal digits hx] at h
        obtain ⟨n, c, hnumber, hchar, rfl⟩ := numberedPart_eq_ok.1 h
        exact .decimal hx hnumber hchar
    · obtain ⟨name, hname, rfl⟩ := (readReference_named hhash).1 h
      exact .named hhash hname
  · intro h
    cases h with
    | hex hnumber hchar =>
        rw [hhex]
        exact numberedPart_eq_ok.2 ⟨_, _, hnumber, hchar, rfl⟩
    | decimal hx hnumber hchar =>
        rw [hdecimal _ hx]
        exact numberedPart_eq_ok.2 ⟨_, _, hnumber, hchar, rfl⟩
    | named hhash hname => exact (readReference_named hhash).2 ⟨_, hname, rfl⟩

theorem ReadsReference.suffix {t u : Text} {part : Part} (h : ReadsReference t part u) :
    u <:+ t ∧ u.length < t.length := by
  cases h with
  | hex hnumber _ =>
      obtain ⟨hsuffix, hlength⟩ := suffix_digitsFrom hnumber
      refine ⟨(hsuffix.trans (List.suffix_cons _ _)).trans (List.suffix_cons _ _), ?_⟩
      simp only [List.length_cons]
      omega
  | decimal _ hnumber _ =>
      obtain ⟨hsuffix, hlength⟩ := suffix_digitsFrom hnumber
      exact ⟨hsuffix.trans (List.suffix_cons _ _), Nat.lt_succ_of_lt hlength⟩
  | named _ hname =>
      have hlength := length_readName hname
      obtain ⟨-, -, hu, -⟩ := readName_eq_ok.1 hname
      have hsuffix : ';' :: u <:+ t := hu ▸ List.dropWhile_suffix isNameChar
      rw [List.length_cons] at hlength
      exact ⟨(List.suffix_cons _ _).trans hsuffix, by omega⟩

/-! ## Values -/

theorem partsFrom_eq_drop (close : Char) (n : Nat) (t : Text) :
    partsFrom close n t = partsFrom close 0 (t.drop n) := by
  induction n generalizing t with
  | zero => rfl
  | succ n ih =>
      cases t with
      | nil => rfl
      | cons c rest => exact ih rest

theorem consPart_eq_ok {p : Part} {reading : Reading (List Part)} {v : List Part} {u : Text} :
    consPart p reading = .ok (v, u) ↔ ∃ w, reading = .ok (w, u) ∧ v = p :: w := by
  cases reading with
  | error s => simp [consPart]
  | ok found =>
      obtain ⟨w, rest⟩ := found
      simp only [consPart, Except.ok.injEq, Prod.mk.injEq]
      constructor
      · rintro ⟨rfl, rfl⟩
        exact ⟨w, ⟨rfl, rfl⟩, rfl⟩
      · rintro ⟨w', ⟨rfl, rfl⟩, rfl⟩
        exact ⟨rfl, rfl⟩

/-- A value as it is read up to its closing quote. -/
inductive ReadsParts (close : Char) : Text → List Part → Text → Prop where
  | close {u : Text} : ReadsParts close (close :: u) [] u
  | reference {rest after u : Text} {part : Part} {w : List Part} : '&' ≠ close →
      ReadsReference rest part after → ReadsParts close after w u →
        ReadsParts close ('&' :: rest) (part :: w) u
  | lineEnd {rest u : Text} {w : List Part} : '\r' ≠ close → rest.head? = some '\n' →
      ReadsParts close rest w u → ReadsParts close ('\r' :: rest) w u
  | char {c : Char} {rest u : Text} {w : List Part} : c ≠ close → c ≠ '<' → c ≠ '&' →
      ¬(c = '\r' ∧ rest.head? = some '\n') → isGap c ∨ isChar c → ReadsParts close rest w u →
        ReadsParts close (c :: rest) (.char (if isGap c then ' ' else c) :: w) u

theorem ReadsParts.length {close : Char} {t u : Text} {v : List Part}
    (h : ReadsParts close t v u) : u.length < t.length := by
  induction h with
  | close => exact Nat.lt_succ_self _
  | reference _ href _ ih =>
      have := href.suffix.2
      rw [List.length_cons]
      omega
  | lineEnd _ _ _ ih => exact Nat.lt_succ_of_lt ih
  | char _ _ _ _ _ _ ih => exact Nat.lt_succ_of_lt ih

/-- After a reference a value goes on with what the reading of the reference has left. -/
theorem partsFrom_of_reference {close : Char} {rest after : Text} {part : Part}
    (hclose : '&' ≠ close) (href : ReadsReference rest part after) :
    partsFrom close 0 ('&' :: rest) = consPart part (partsFrom close 0 after) := by
  obtain ⟨⟨body, hbody⟩, -⟩ := href.suffix
  have hdrop : rest.drop (rest.length - after.length) = after := by
    rw [← hbody, List.length_append, Nat.add_sub_cancel, List.drop_left]
  rw [partsFrom, if_neg hclose, if_neg (by decide), if_pos rfl]
  simp only [readReference_eq_ok.2 href]
  rw [partsFrom_eq_drop, hdrop]

/-- Of a line end of two characters only the second is kept. -/
theorem partsFrom_of_lineEnd {close : Char} {rest : Text} (hclose : '\r' ≠ close)
    (hhead : rest.head? = some '\n') :
    partsFrom close 0 ('\r' :: rest) = partsFrom close 0 rest := by
  rw [partsFrom, if_neg hclose, if_neg (by decide), if_neg (by decide), if_pos (by simp [hhead])]

/-- Any other character is a part of its own, a space if it is white space. -/
theorem partsFrom_of_char {close c : Char} {rest : Text} (hclose : c ≠ close) (hopen : c ≠ '<')
    (hamp : c ≠ '&') (hline : ¬(c = '\r' ∧ rest.head? = some '\n')) (hc : isGap c ∨ isChar c) :
    partsFrom close 0 (c :: rest) =
      consPart (.char (if isGap c then ' ' else c)) (partsFrom close 0 rest) := by
  rw [partsFrom, if_neg hclose, if_neg hopen, if_neg hamp, if_neg (by simpa using hline)]
  by_cases hgap : isGap c = true
  · rw [if_pos hgap, if_pos hgap]
  · rw [if_neg hgap, if_neg hgap, if_pos (hc.resolve_left hgap)]

theorem readsParts_of_partsFrom {close : Char} (n : Nat) {t u : Text} {v : List Part}
    (hn : t.length ≤ n) (h : partsFrom close 0 t = .ok (v, u)) : ReadsParts close t v u := by
  -- On the length, as the reading goes on where that of a reference has ended.
  induction n generalizing t v with
  | zero =>
      cases List.length_eq_zero_iff.1 (Nat.le_zero.1 hn)
      cases h
  | succ n ih =>
      cases t with
      | nil => cases h
      | cons c rest =>
          rw [List.length_cons] at hn
          by_cases hclose : c = close
          · rw [partsFrom, if_pos hclose] at h
            cases h
            subst hclose
            exact .close
          by_cases hopen : c = '<'
          · rw [partsFrom, if_neg hclose, if_pos hopen] at h
            cases h
          by_cases hamp : c = '&'
          · subst hamp
            cases href : readReference rest with
            | error s =>
                rw [partsFrom, if_neg hclose, if_neg hopen, if_pos rfl, href] at h
                cases h
            | ok found =>
                obtain ⟨part, after⟩ := found
                have hreads := readReference_eq_ok.1 href
                have hlength := hreads.suffix.2
                rw [partsFrom_of_reference hclose hreads] at h
                obtain ⟨w, hrest, rfl⟩ := consPart_eq_ok.1 h
                exact .reference hclose hreads (ih (by omega) hrest)
          by_cases hline : c = '\r' ∧ rest.head? = some '\n'
          · obtain ⟨rfl, hhead⟩ := hline
            rw [partsFrom_of_lineEnd hclose hhead] at h
            exact .lineEnd hclose hhead (ih (by omega) h)
          by_cases hc : isGap c ∨ isChar c
          · rw [partsFrom_of_char hclose hopen hamp hline hc] at h
            obtain ⟨w, hrest, rfl⟩ := consPart_eq_ok.1 h
            exact .char hclose hopen hamp hline hc (ih (by omega) hrest)
          · -- No document may hold the character.
            rw [not_or] at hc
            rw [partsFrom, if_neg hclose, if_neg hopen, if_neg hamp, if_neg (by simpa using hline),
              if_neg hc.1, if_neg hc.2] at h
            cases h

theorem partsFrom_eq_ok {close : Char} {t u : Text} {v : List Part} :
    partsFrom close 0 t = .ok (v, u) ↔ ReadsParts close t v u := by
  refine ⟨readsParts_of_partsFrom t.length (Nat.le_refl _), fun h => ?_⟩
  induction h with
  | close =>
      rw [partsFrom]
      exact if_pos rfl
  | reference hclose href _ ih =>
      rw [partsFrom_of_reference hclose href, ih]
      rfl
  | lineEnd hclose hhead _ ih => rw [partsFrom_of_lineEnd hclose hhead, ih]
  | char hclose hopen hamp hline hc _ ih =>
      rw [partsFrom_of_char hclose hopen hamp hline hc, ih]
      rfl

/-- A value in its quotes. -/
theorem readValue_eq_ok {t u : Text} {v : List Part} :
    readValue t = .ok (v, u) ↔
      ∃ close rest, (close = '"' ∨ close = '\'') ∧ t = close :: rest ∧
        ReadsParts close rest v u := by
  rw [readValue.eq_def]
  split
  · rename_i rest
    rw [partsFrom_eq_ok]
    constructor
    · intro h
      exact ⟨'"', rest, Or.inl rfl, rfl, h⟩
    · rintro ⟨close, rest', -, heq, h⟩
      cases heq
      exact h
  · rename_i rest
    rw [partsFrom_eq_ok]
    constructor
    · intro h
      exact ⟨'\'', rest, Or.inr rfl, rfl, h⟩
    · rintro ⟨close, rest', -, heq, h⟩
      cases heq
      exact h
  · rename_i hdouble hsingle
    constructor
    · intro h
      cases h
    · rintro ⟨close, rest, rfl | rfl, rfl, -⟩
      · exact absurd rfl (hdouble rest)
      · exact absurd rfl (hsingle rest)

/-! ## Attributes -/

theorem readAttribute_eq_ok {t u : Text} {w : Written} :
    readAttribute t = .ok (w, u) ↔
      ∃ afterName afterEquals, readName t = .ok (w.raw, afterName) ∧
        equals? afterName = some afterEquals ∧ readValue afterEquals = .ok (w.value, u) ∧
          w.left = u.length := by
  rw [readAttribute]
  constructor
  · intro h
    -- Each part that is not read ends the attribute, so only the case of three readings is left.
    split at h
    · cases h
    · rename_i raw afterName hname
      split at h
      · cases h
      · rename_i afterEquals hequals
        split at h
        · rename_i value rest hvalue
          cases h
          exact ⟨afterName, afterEquals, hname, hequals, hvalue, rfl⟩
        · cases h
  · rintro ⟨afterName, afterEquals, hname, hequals, hvalue, hleft⟩
    obtain ⟨raw, value, left⟩ := w
    obtain rfl : left = u.length := hleft
    simp only [hname, hequals, hvalue]

theorem length_readAttribute {t u : Text} {w : Written} (h : readAttribute t = .ok (w, u)) :
    u.length < t.length := by
  obtain ⟨afterName, afterEquals, hname, hequals, hvalue, -⟩ := readAttribute_eq_ok.1 h
  obtain ⟨close, rest, -, rfl, hparts⟩ := readValue_eq_ok.1 hvalue
  have h₁ := length_readName hname
  have h₂ := length_equals? hequals
  have h₃ := hparts.length
  rw [List.length_cons] at h₂
  omega

/-- The end of a tag is a bracket, after a slash or not. -/
theorem tagEnd?_eq_some {t u : Text} {ending : Ending} :
    tagEnd? t = some (ending, u) ↔
      (ending = .opened ∧ t = '>' :: u) ∨ (ending = .closed ∧ t = '/' :: '>' :: u) := by
  rw [tagEnd?.eq_def]
  split
  · simp [eq_comm]
  · simp [eq_comm]
  · rename_i hopened hclosed
    constructor
    · intro h
      cases h
    · rintro (⟨-, rfl⟩ | ⟨-, rfl⟩)
      · exact absurd rfl (hopened u)
      · exact absurd rfl (hclosed u)

/-- Attributes as they are read up to the end of their tag. -/
inductive ReadsAttributes : Text → List Written → Ending → Text → Prop where
  | ending {t u : Text} {ending : Ending} : tagEnd? (skipGap t) = some (ending, u) →
      ReadsAttributes t [] ending u
  | cons {t first after u : Text} {w : Written} {ws : List Written} {ending : Ending} :
      tagEnd? (skipGap t) = none → gap? t = some first → readAttribute first = .ok (w, after) →
        ReadsAttributes after ws ending u → ReadsAttributes t (w :: ws) ending u

theorem ReadsAttributes.length {t u : Text} {ws : List Written} {ending : Ending}
    (h : ReadsAttributes t ws ending u) : ws.length + u.length < t.length := by
  induction h with
  | @ending t u _ hend =>
      have hskip := length_skipGap t
      rcases tagEnd?_eq_some.1 hend with ⟨-, heq⟩ | ⟨-, heq⟩
      · rw [heq, List.length_cons] at hskip
        rw [List.length_nil]
        omega
      · rw [heq, List.length_cons, List.length_cons] at hskip
        rw [List.length_nil]
        omega
  | cons _ hgap hread _ ih =>
      obtain ⟨c, rest, rfl, -, rfl⟩ := gap?_eq_some.1 hgap
      have h₁ := length_readAttribute hread
      have h₂ := length_skipGap rest
      rw [List.length_cons, List.length_cons]
      omega

theorem readsAttributes_of_attributesFrom {steps : Nat} {t u : Text} {ws : List Written}
    {ending : Ending} (h : attributesFrom steps t = ⟨ws, .ok (ending, u)⟩) :
    ReadsAttributes t ws ending u := by
  -- On the steps allowed: each attribute takes one, and those that run out read nothing.
  induction steps generalizing t ws with
  | zero => cases h
  | succ steps ih =>
      rw [attributesFrom] at h
      split at h
      · rename_i found hend
        cases h
        exact .ending hend
      · rename_i hend
        split at h
        · cases h
        · cases h
        · cases h
        · rename_i first _ _ hgap
          split at h
          · cases h
          · rename_i w after hread
            obtain ⟨rfl, hothers⟩ := TagReading.mk.inj h
            exact .cons hend hgap hread (ih (congrArg (TagReading.mk _) hothers))

/-- Attributes are read in more steps than there are of them. -/
theorem attributesFrom_of_readsAttributes {steps : Nat} {t u : Text} {ws : List Written}
    {ending : Ending} (h : ReadsAttributes t ws ending u) (hsteps : ws.length < steps) :
    attributesFrom steps t = ⟨ws, .ok (ending, u)⟩ := by
  induction h generalizing steps with
  | ending hend =>
      obtain ⟨steps, rfl⟩ := Nat.exists_eq_succ_of_ne_zero (Nat.ne_of_gt (Nat.zero_lt_of_lt hsteps))
      simp only [attributesFrom, hend]
  | @cons t first after u w ws ending hend hgap hread _ ih =>
      obtain ⟨steps, rfl⟩ := Nat.exists_eq_succ_of_ne_zero (Nat.ne_of_gt (Nat.zero_lt_of_lt hsteps))
      rw [List.length_cons] at hsteps
      have hothers := ih (Nat.lt_of_succ_lt_succ hsteps)
      obtain ⟨_, _, hname, -⟩ := readAttribute_eq_ok.1 hread
      obtain ⟨⟨c, rest, rfl, hstart⟩, -⟩ := readName_eq_ok.1 hname
      have hnul : c ≠ '\x00' := by
        rintro rfl
        exact absurd hstart (by decide)
      rw [attributesFrom]
      simp only [hend, hgap]
      split
      · rename_i heq
        cases heq
      · rename_i heq
        cases heq
      · rename_i heq
        cases heq
        exact absurd rfl hnul
      · rename_i heq
        cases heq
        simp only [hread, hothers]

/-! ## Marks that end a reading -/

/-- A character that may be in a document and at which no mark begins is passed over. -/
theorem readUpTo_cons {close : String} {c : Char} {t : Text} (hmark : ¬close.toList <+: c :: t)
    (hc : isChar c) : readUpTo close (c :: t) = readUpTo close t := by
  rw [readUpTo, after?_eq_none.2 hmark]
  simp only [hc, if_true]

/-- Reading up to a mark takes the mark along. -/
theorem length_readUpTo {close : String} {t u : Text} (h : readUpTo close t = .ok ((), u)) :
    close.toList.length + u.length ≤ t.length := by
  induction t with
  | nil => cases h
  | cons c rest ih =>
      rw [readUpTo] at h
      split at h
      · rename_i after hafter
        cases h
        rw [← after?_eq_some.1 hafter, List.length_append]
      · split at h
        · exact Nat.le_succ_of_le (ih h)
        · cases h

/-- Verbatim text is read when all up to its end mark may be in a document. -/
theorem verbatimFrom_eq_ok {seen t u : Text} :
    verbatimFrom seen t = .ok ((), u) ↔ readUpTo "]]>" t = .ok ((), u) := by
  induction t generalizing seen with
  | nil => simp [verbatimFrom, readUpTo]
  | cons c rest ih =>
      rw [verbatimFrom, readUpTo]
      cases after? "]]>" (c :: rest) with
      | some after => rfl
      | none =>
          simp only
          by_cases hreturn : c = '\r'
          · have hchar : isChar c = true := by
              subst hreturn
              decide
            rw [if_pos hreturn, if_pos hchar]
            split <;> exact ih
          · rw [if_neg hreturn]
            by_cases hchar : isChar c = true
            · rw [if_pos hchar, if_pos hchar]
              exact ih
            · rw [if_neg hchar, if_neg hchar]
              simp

/-- Two hyphens end a comment. -/
theorem after?_hyphens {t u : Text} : after? "--" t = some u ↔ t = '-' :: '-' :: u := by
  rw [after?_eq_some, eq_comm]
  rfl

/-- They end it only before a bracket. -/
theorem wideCommentFrom_hyphens {wide : Nat} {seen after u : Text} :
    wideCommentFrom wide seen ('-' :: '-' :: after) = .ok ((), u) ↔ after = '>' :: u := by
  have hhyphens : after? "--" ('-' :: '-' :: after) = some after := after?_hyphens.2 rfl
  rw [wideCommentFrom.eq_def]
  simp only [hhyphens]
  cases after with
  | nil =>
      have hlast : ∀ n s, ∃ e, wideCommentFrom n s ['-'] = .error e := fun n s => ⟨_, rfl⟩
      obtain ⟨e, he⟩ := hlast (wide + 1) ('-' :: seen)
      rw [if_neg (by decide), if_pos (by decide), he]
      simp
  | cons d after =>
      by_cases hd : d = '>'
      · subst hd
        simp
      · split
        · rename_i heq
          cases heq
          exact absurd rfl hd
        · simp [hd]
        · rename_i _ hother
          exact absurd rfl (hother d after)

theorem wideCommentFrom_eq_ok {wide : Nat} {seen t u : Text} :
    wideCommentFrom wide seen t = .ok ((), u) ↔ readUpTo "--" t = .ok ((), '>' :: u) := by
  induction t generalizing wide seen with
  | nil => simp [wideCommentFrom, readUpTo]
  | cons c rest ih =>
      cases hafter : after? "--" (c :: rest) with
      | some after =>
          obtain ⟨rfl, rfl⟩ := List.cons.inj (after?_hyphens.1 hafter)
          rw [wideCommentFrom_hyphens, readUpTo, hafter]
          simp
      | none =>
          rw [wideCommentFrom.eq_def, readUpTo]
          simp only [hafter]
          by_cases hreturn : c = '\r'
          · have hchar : isChar c = true := by
              subst hreturn
              decide
            rw [if_pos hreturn, if_pos hchar]
            split <;> exact ih
          · rw [if_neg hreturn]
            by_cases hchar : isChar c = true
            · rw [if_pos hchar, if_pos hchar]
              exact ih
            · rw [if_neg hchar, if_neg hchar]
              simp

theorem isChar_of_isPlain {c : Char} (h : isPlain c) : isChar c := by
  simp only [isPlain, Bool.or_eq_true, Bool.and_eq_true, decide_eq_true_eq] at h
  simp only [isChar, Bool.or_eq_true, Bool.and_eq_true, beq_iff_eq, decide_eq_true_eq,
    bne_iff_ne]
  rcases h with (rfl | rfl) | ⟨hlow, hhigh⟩
  · decide
  · decide
  · have h₁ : 0x20 ≤ c.toNat := hlow
    have h₂ : c.toNat ≤ 0x7f := hhigh
    exact Or.inr ⟨⟨h₁, by omega⟩, by omega⟩

/-- A comment is read when it ends with its only two hyphens, and all before may be in a
document. -/
theorem commentFrom_eq_ok {seen t u : Text} :
    commentFrom seen t = .ok ((), u) ↔ readUpTo "--" t = .ok ((), '>' :: u) := by
  induction t generalizing seen with
  | nil => simp [commentFrom, readUpTo]
  | cons c rest ih =>
      rw [commentFrom.eq_def]
      simp only
      split
      · rename_i after heq
        rw [readUpTo, heq]
        simp
      · rename_i after hother heq
        rw [readUpTo, heq]
        constructor
        · intro h
          cases h
        · intro h
          cases h
          exact absurd rfl (hother u)
      · rename_i heq
        split
        · rename_i hline
          simp only [Bool.and_eq_true, decide_eq_true_eq] at hline
          obtain ⟨rfl, -⟩ := hline
          rw [readUpTo, heq]
          simp only
          rw [if_pos (by decide)]
          exact ih
        · split
          · rename_i hplain
            rw [readUpTo, heq]
            simp only
            rw [if_pos (isChar_of_isPlain hplain)]
            exact ih
          · -- A wider character: the reader for wide characters takes over and ends at the same
            exact wideCommentFrom_eq_ok

theorem readInstruction_eq_ok {t target u : Text} :
    readInstruction t = .ok (target, u) ↔
      ∃ afterName, readName t = .ok (target, afterName) ∧
        ¬(isNearReserved target ∧ target.length = 3) ∧
        (after? "?>" afterName = some u ∨ after? "?>" afterName = none ∧
          ∃ body, gap? afterName = some body ∧ readUpTo "?>" body = .ok ((), u)) := by
  rw [readInstruction]
  constructor
  · intro h
    split at h
    · cases h
    · rename_i found afterName hname
      split at h
      · cases h
      · rename_i hreserved
        simp only [Bool.and_eq_true, decide_eq_true_eq] at hreserved
        split at h
        · rename_i hend
          cases h
          exact ⟨afterName, hname, hreserved, Or.inl hend⟩
        · cases h
        · rename_i body hend hgap
          split at h
          · rename_i hbody
            cases h
            exact ⟨afterName, hname, hreserved, Or.inr ⟨hend, body, hgap, hbody⟩⟩
          · cases h
  · rintro ⟨afterName, hname, hreserved, hend⟩
    simp only [hname, Bool.and_eq_true, decide_eq_true_eq]
    rw [if_neg hreserved]
    rcases hend with hend | ⟨hend, body, hgap, hbody⟩
    · simp only [hend]
    · simp only [hend, hgap, hbody]

theorem length_readInstruction {t target u : Text} (h : readInstruction t = .ok (target, u)) :
    u.length < t.length := by
  obtain ⟨afterName, hname, -, hend⟩ := readInstruction_eq_ok.1 h
  have hshorter := length_readName hname
  rcases hend with hend | ⟨-, body, hgap, hbody⟩
  · rw [← after?_eq_some.1 hend, List.length_append] at hshorter
    omega
  · obtain ⟨c, rest, rfl, -, rfl⟩ := gap?_eq_some.1 hgap
    have h₁ := length_readUpTo hbody
    have h₂ := length_skipGap rest
    rw [List.length_cons] at hshorter
    omega

theorem readClosingTag_eq_ok {t raw u : Text} :
    readClosingTag t = .ok (raw, u) ↔
      ∃ afterName, readName t = .ok (raw, afterName) ∧ skipGap afterName = '>' :: u := by
  rw [readClosingTag]
  constructor
  · intro h
    split at h
    · cases h
    · rename_i found afterName hname
      split at h
      · rename_i hclose
        cases h
        exact ⟨afterName, hname, hclose⟩
      · cases h
  · rintro ⟨afterName, hname, hclose⟩
    simp only [hname, hclose]

theorem length_readClosingTag {t raw u : Text} (h : readClosingTag t = .ok (raw, u)) :
    u.length < t.length := by
  obtain ⟨afterName, hname, hclose⟩ := readClosingTag_eq_ok.1 h
  have h₁ := length_readName hname
  have h₂ := length_skipGap afterName
  rw [hclose, List.length_cons] at h₂
  omega

/-! ## Character data -/

/-- Text that is character data as a whole. -/
structure IsData (d : Text) : Prop where
  chars : ∀ c ∈ d, isChar c ∧ c ≠ '<' ∧ c ≠ '&'
  noEnd : ¬"]]>".toList <:+: d

theorem isData_nil : IsData [] := ⟨by simp, by simp [List.infix_nil]⟩

theorem isData_cons {c : Char} {d : Text} :
    IsData (c :: d) ↔
      (isChar c ∧ c ≠ '<' ∧ c ≠ '&') ∧ ¬"]]>".toList <+: c :: d ∧ IsData d := by
  constructor
  · rintro ⟨hchars, hend⟩
    rw [List.infix_cons_iff, not_or] at hend
    exact ⟨hchars c List.mem_cons_self, hend.1,
      fun e he => hchars e (List.mem_cons_of_mem c he), hend.2⟩
  · rintro ⟨hc, hlead, hchars, hend⟩
    refine ⟨fun e he => ?_, ?_⟩
    · rcases List.mem_cons.1 he with rfl | he
      · exact hc
      · exact hchars e he
    · rw [List.infix_cons_iff, not_or]
      exact ⟨hlead, hend⟩

/-- What character data ends before: the end of the text, or markup. -/
def EndsData (u : Text) : Prop := ∀ c ∈ u.head?, c = '<' ∨ c = '&'

/-- Whether a text begins with the mark that data may not hold does not depend on what ends
the data. -/
theorem isSome_after?_dataEnd {d u : Text} (hu : EndsData u) :
    (after? "]]>" (d ++ u)).isSome ↔ "]]>".toList <+: d := by
  have hlead : (after? "]]>" (d ++ u)).isSome ↔ "]]>".toList <+: d ++ u := by
    rw [Option.isSome_iff_exists]
    exact exists_congr fun w => after?_eq_some
  rw [hlead]
  refine ⟨Text.prefix_of_prefix_append fun c hc => ?_, fun h => h.trans (List.prefix_append d u)⟩
  rcases hu c hc with rfl | rfl <;> decide

/-- What is read as data is data, and ends where data ends. -/
theorem isData_of_readData {t d u : Text} (h : readData t = .ok (d, u)) :
    t = d ++ u ∧ IsData d ∧ EndsData u := by
  -- On the text: a mark ends the data, and any other character is data if no end mark begins there.
  induction t generalizing d with
  | nil =>
      cases h
      exact ⟨rfl, isData_nil, by simp [EndsData]⟩
  | cons c rest ih =>
      rw [readData] at h
      split at h
      · rename_i hmark
        cases h
        refine ⟨rfl, isData_nil, ?_⟩
        rintro e he
        cases he
        simpa using hmark
      rename_i hmark
      have hmarks : c ≠ '<' ∧ c ≠ '&' := by simpa using hmark
      split at h
      · cases h
      rename_i hend
      split at h
      · rename_i hchar
        split at h
        · rename_i data after hdata
          cases h
          obtain ⟨rfl, hfound, hu⟩ := ih hdata
          rw [← List.cons_append] at hend
          exact ⟨rfl, isData_cons.2 ⟨⟨hchar, hmarks⟩,
            fun hlead => hend ((isSome_after?_dataEnd hu).2 hlead), hfound⟩, hu⟩
        · cases h
      · cases h

/-- Data is read whole, up to what ends it. -/
theorem readData_append {d u : Text} (hd : IsData d) (hu : EndsData u) :
    readData (d ++ u) = .ok (d, u) := by
  induction d with
  | nil =>
      cases u with
      | nil => rfl
      | cons c u =>
          have hmark := hu c rfl
          rw [List.nil_append, readData, if_pos (by simpa using hmark)]
  | cons c d ih =>
      obtain ⟨⟨hchar, hmarks⟩, hlead, hrest⟩ := isData_cons.1 hd
      have hend : ¬(after? "]]>" (c :: (d ++ u))).isSome := by
        rw [← List.cons_append]
        exact fun h => hlead ((isSome_after?_dataEnd hu).1 h)
      rw [List.cons_append, readData, if_neg (by simpa using hmarks), if_neg hend, if_pos hchar,
        ih hrest]

theorem readData_eq_ok {t d u : Text} :
    readData t = .ok (d, u) ↔ t = d ++ u ∧ IsData d ∧ EndsData u := by
  constructor
  · exact isData_of_readData
  · rintro ⟨rfl, hd, hu⟩
    exact readData_append hd hu

/-! ## Document types -/

/-- A literal in quotes of one kind whose characters are of one class. -/
def Quoted (isOwn : Char → Bool) (t u : Text) : Prop :=
  ∃ close v, (close = '"' ∨ close = '\'') ∧ t = close :: (v ++ close :: u) ∧
    ∀ c ∈ v, isOwn c ∧ c ≠ close

theorem Quoted.length {isOwn : Char → Bool} {t u : Text} (h : Quoted isOwn t u) :
    u.length < t.length := by
  obtain ⟨close, v, -, rfl, -⟩ := h
  simp only [List.length_cons, List.length_append]
  omega

/-- Text up to its first character beyond a class. -/
theorem span_of_append {p : Char → Bool} {v rest : Text} {c : Char} (hv : ∀ d ∈ v, p d)
    (hc : p c = false) : (v ++ c :: rest).span p = (v, c :: rest) := by
  rw [List.span_eq_takeWhile_dropWhile, List.takeWhile_append_of_pos hv,
    List.dropWhile_append_of_pos hv, List.takeWhile_cons_of_neg (by simp [hc]),
    List.dropWhile_cons_of_neg (by simp [hc]), List.append_nil]

/-- The reading of a literal after its opening quote. -/
theorem readLiteral_cons {close : Char} (hclose : close = '"' ∨ close = '\'') (body : Text) :
    readLiteral (close :: body) =
      match body.span fun c => isChar c && c != close with
      | (_, []) => .error none
      | (value, c :: after) =>
          if c = close then .ok (value, after) else .error (stopAt (c :: after)) := by
  rcases hclose with rfl | rfl
  · rw [readLiteral]
    generalize body.span _ = found
    obtain ⟨value, rest⟩ := found
    cases rest <;> rfl
  · rw [readLiteral]
    generalize body.span _ = found
    obtain ⟨value, rest⟩ := found
    cases rest <;> rfl

/-- A literal begins with a quote. -/
theorem exists_quote_of_readLiteral {t v u : Text} (h : readLiteral t = .ok (v, u)) :
    ∃ close body, (close = '"' ∨ close = '\'') ∧ t = close :: body := by
  rw [readLiteral.eq_def] at h
  split at h
  rename_i other body heq
  split at heq
  · exact ⟨'"', _, Or.inl rfl, rfl⟩
  · exact ⟨'\'', _, Or.inr rfl, rfl⟩
  · cases heq
    cases h

theorem readLiteral_eq_ok {t u : Text} :
    (∃ v, readLiteral t = .ok (v, u)) ↔ Quoted isChar t u := by
  constructor
  · rintro ⟨v, h⟩
    obtain ⟨close, body, hquote, rfl⟩ := exists_quote_of_readLiteral h
    rw [readLiteral_cons hquote] at h
    split at h
    · cases h
    · rename_i value c after hspan
      split at h
      · rename_i hc
        cases h
        subst hc
        rw [List.span_eq_takeWhile_dropWhile] at hspan
        -- What was cut off before the closing quote holds no quote and only characters.
        obtain ⟨hv, hrest⟩ := Prod.mk.inj hspan
        refine ⟨c, v, hquote, ?_, fun d hd => ?_⟩
        · rw [← hv, ← hrest, List.takeWhile_append_dropWhile]
        · rw [← hv] at hd
          have hown := List.mem_takeWhile_imp hd
          simpa using hown
      · cases h
  · rintro ⟨close, v, hquote, rfl, hv⟩
    have hspan : (v ++ close :: u).span (fun c => isChar c && c != close) = (v, close :: u) :=
      span_of_append (fun d hd => by simpa using hv d hd) (by simp)
    refine ⟨v, ?_⟩
    rw [readLiteral_cons hquote, hspan]
    simp

/-- A literal of any characters is what stands up to its closing quote. -/
theorem literal?_eq_some {t v u : Text} :
    literal? t = some (v, u) ↔
      ∃ close, (close = '"' ∨ close = '\'') ∧ t = close :: (v ++ close :: u) ∧ close ∉ v := by
  constructor
  · intro h
    rw [literal?.eq_def] at h
    split at h
    · obtain ⟨rfl, hnot⟩ := Text.cutFirst_eq_some.1 h
      exact ⟨'"', Or.inl rfl, rfl, hnot⟩
    · obtain ⟨rfl, hnot⟩ := Text.cutFirst_eq_some.1 h
      exact ⟨'\'', Or.inr rfl, rfl, hnot⟩
    · cases h
  · rintro ⟨close, rfl | rfl, rfl, hnot⟩
    · exact Text.cutFirst_eq_some.2 ⟨rfl, hnot⟩
    · exact Text.cutFirst_eq_some.2 ⟨rfl, hnot⟩

theorem publicLiteral?_eq_some {t u : Text} :
    publicLiteral? t = some u ↔ Quoted isPublicChar t u := by
  rw [publicLiteral?]
  constructor
  · intro h
    split at h
    · rename_i value rest hliteral
      split at h
      · rename_i hpublic
        cases h
        obtain ⟨close, hquote, rfl, hnot⟩ := literal?_eq_some.1 hliteral
        refine ⟨close, value, hquote, rfl, fun c hc => ⟨List.all_eq_true.1 hpublic c hc, ?_⟩⟩
        rintro rfl
        exact hnot hc
      · cases h
    · cases h
  · rintro ⟨close, v, hquote, rfl, hv⟩
    have hliteral : literal? (close :: (v ++ close :: u)) = some (v, u) :=
      literal?_eq_some.2 ⟨close, hquote, rfl, fun hmem => (hv close hmem).2 rfl⟩
    have hall : v.all isPublicChar = true := List.all_eq_true.2 fun c hc => (hv c hc).1
    simp only [hliteral, hall, if_true]

/-- The identifiers of something outside, as they are read in a document type. -/
inductive ReadsOutside : Text → Text → Prop where
  | system {t first second u : Text} : after? "SYSTEM" t = some first → gap? first = some second →
      Quoted isChar second u → ReadsOutside t u
  | published {t first second third fourth u : Text} : after? "PUBLIC" t = some first →
      gap? first = some second → Quoted isPublicChar second third → gap? third = some fourth →
        Quoted isChar fourth u → ReadsOutside t u

theorem orStop_eq_ok {α : Type} {x : Option α} {a : α} : orStop x = .ok a ↔ x = some a := by
  cases x <;> simp [orStop]

/-- Two readings one after another give something when both do. -/
theorem bind_eq_ok {α β : Type} {x : Except Stop α} {f : α → Except Stop β} {b : β} :
    (x >>= f) = .ok b ↔ ∃ a, x = .ok a ∧ f a = .ok b := by
  cases x with
  | error s => simp [bind, Except.bind]
  | ok a => simp [bind, Except.bind]

theorem readOutside_eq_ok {t u : Text} :
    (∃ v, readOutside false t = .ok (v, u)) ↔ ReadsOutside t u := by
  constructor
  · rintro ⟨v, h⟩
    rw [readOutside] at h
    cases hsystem : after? "SYSTEM" t with
    | some first =>
        rw [hsystem] at h
        obtain ⟨second, hgap, hliteral⟩ := bind_eq_ok.1 h
        exact .system hsystem (orStop_eq_ok.1 hgap) (readLiteral_eq_ok.1 ⟨v, hliteral⟩)
    | none =>
        rw [hsystem] at h
        obtain ⟨second, hpublic, h⟩ := bind_eq_ok.1 h
        obtain ⟨third, hthird, h⟩ := bind_eq_ok.1 h
        obtain ⟨first, hfirst, hsecond⟩ := Option.bind_eq_some_iff.1 (orStop_eq_ok.1 hpublic)
        cases hgap : gap? third with
        | none =>
            rw [hgap] at h
            cases h
        | some fourth =>
            rw [hgap] at h
            exact .published hfirst hsecond (publicLiteral?_eq_some.1 (orStop_eq_ok.1 hthird)) hgap
              (readLiteral_eq_ok.1 ⟨v, h⟩)
  · intro h
    cases h with
    | @system first second _ hsystem hgap hliteral =>
        obtain ⟨v, hread⟩ := readLiteral_eq_ok.2 hliteral
        refine ⟨v, ?_⟩
        rw [readOutside, hsystem]
        exact bind_eq_ok.2 ⟨second, orStop_eq_ok.2 hgap, hread⟩
    | @published first second third fourth _ hfirst hsecond hpublic hgap hliteral =>
        obtain ⟨v, hread⟩ := readLiteral_eq_ok.2 hliteral
        have hsystem : after? "SYSTEM" t = none := by
          rw [← after?_eq_some.1 hfirst]
          rfl
        refine ⟨v, ?_⟩
        rw [readOutside, hsystem]
        refine bind_eq_ok.2 ⟨second, orStop_eq_ok.2 ?_, ?_⟩
        · exact Option.bind_eq_some_iff.2 ⟨first, hfirst, hsecond⟩
        · refine bind_eq_ok.2 ⟨third, orStop_eq_ok.2 (publicLiteral?_eq_some.2 hpublic), ?_⟩
          rw [hgap]
          exact hread

theorem ReadsOutside.length {t u : Text} (h : ReadsOutside t u) : u.length < t.length := by
  cases h with
  | system hsystem hgap hliteral =>
      obtain ⟨c, rest, rfl, -, rfl⟩ := gap?_eq_some.1 hgap
      have h₁ := hliteral.length
      have h₂ := length_skipGap rest
      rw [← after?_eq_some.1 hsystem, List.length_append, List.length_cons]
      omega
  | published hpublic hfirst hsecond hgap hliteral =>
      obtain ⟨c, rest, rfl, -, rfl⟩ := gap?_eq_some.1 hfirst
      obtain ⟨d, rest', rfl, -, rfl⟩ := gap?_eq_some.1 hgap
      have h₁ := hliteral.length
      have h₂ := hsecond.length
      have h₃ := length_skipGap rest
      have h₄ := length_skipGap rest'
      rw [List.length_cons] at h₂
      rw [← after?_eq_some.1 hpublic, List.length_append, List.length_cons]
      omega

/-- A document type as it is read up to its subset or its end, with or without a part outside. -/
inductive ReadsHead : Text → Bool → Text → Prop where
  | inside {t first afterName : Text} {name : Text} : gap? t = some first →
      readName first = .ok (name, afterName) → after? "SYSTEM" (skipGap afterName) = none →
        after? "PUBLIC" (skipGap afterName) = none → ReadsHead t false (skipGap afterName)
  | outside {t first afterName u : Text} {name : Text} : gap? t = some first →
      readName first = .ok (name, afterName) → ReadsOutside (skipGap afterName) u →
        ReadsHead t true (skipGap u)

/-- What is outside is told by a word for it. -/
theorem ReadsOutside.isSome_keyword {t u : Text} (h : ReadsOutside t u) :
    ((after? "SYSTEM" t).isSome || (after? "PUBLIC" t).isSome) = true := by
  cases h with
  | system hsystem _ _ => simp [hsystem]
  | published hpublic _ _ _ _ => simp [hpublic]

theorem Doctype.readHead_eq_ok {t u : Text} {isOutside : Bool} :
    Doctype.readHead t = .ok (isOutside, u) ↔ ReadsHead t isOutside u := by
  constructor
  · intro h
    obtain ⟨first, hgap, h⟩ := bind_eq_ok.1 h
    obtain ⟨⟨name, afterName⟩, hname, h⟩ := bind_eq_ok.1 h
    have hgap := orStop_eq_ok.1 hgap
    simp only at h
    by_cases hkeyword : ((after? "SYSTEM" (skipGap afterName)).isSome ||
        (after? "PUBLIC" (skipGap afterName)).isSome) = true
    · rw [if_pos hkeyword] at h
      obtain ⟨rest, hrest, h⟩ := bind_eq_ok.1 h
      cases houtside : readOutside false (skipGap afterName) with
      | error s =>
          rw [houtside] at hrest
          cases hrest
      | ok found =>
          rw [houtside] at hrest
          cases hrest
          cases h
          rw [hkeyword]
          exact .outside hgap hname (readOutside_eq_ok.1 ⟨found.1, houtside⟩)
    · rw [if_neg hkeyword] at h
      cases h
      have hnone := hkeyword
      simp only [Bool.or_eq_true, not_or, Option.not_isSome_iff_eq_none] at hnone
      rw [Bool.not_eq_true] at hkeyword
      rw [hkeyword, skipGap_skipGap]
      exact .inside hgap hname hnone.1 hnone.2
  · intro h
    cases h with
    | @inside first afterName name hgap hname hsystem hpublic =>
        refine bind_eq_ok.2 ⟨first, orStop_eq_ok.2 hgap, ?_⟩
        refine bind_eq_ok.2 ⟨(name, afterName), hname, ?_⟩
        simp only [hsystem, hpublic]
        refine bind_eq_ok.2 ⟨skipGap afterName, rfl, ?_⟩
        rw [skipGap_skipGap]
        rfl
    | @outside first afterName u name hgap hname houtside =>
        obtain ⟨v, hread⟩ := readOutside_eq_ok.2 houtside
        refine bind_eq_ok.2 ⟨first, orStop_eq_ok.2 hgap, ?_⟩
        refine bind_eq_ok.2 ⟨(name, afterName), hname, ?_⟩
        simp only [houtside.isSome_keyword, if_true]
        refine bind_eq_ok.2 ⟨u, ?_, rfl⟩
        rw [hread]
        rfl

theorem ReadsHead.length {t u : Text} {isOutside : Bool} (h : ReadsHead t isOutside u) :
    u.length < t.length := by
  cases h with
  | @inside first afterName name hgap hname _ _ =>
      obtain ⟨c, rest, rfl, -, rfl⟩ := gap?_eq_some.1 hgap
      have h₁ := length_readName hname
      have h₂ := length_skipGap rest
      have h₃ := length_skipGap afterName
      rw [List.length_cons]
      omega
  | @outside first afterName u name hgap hname houtside =>
      obtain ⟨c, rest, rfl, -, rfl⟩ := gap?_eq_some.1 hgap
      have h₁ := length_readName hname
      have h₂ := length_skipGap rest
      have h₃ := length_skipGap afterName
      have h₄ := houtside.length
      have h₅ := length_skipGap u
      rw [List.length_cons]
      omega

end Iconsmith.Markup
