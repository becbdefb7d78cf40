import Iconsmith.Json.Reader
import Iconsmith.Proofs.Text.Fields

set_option autoImplicit false

/-!
# Writing JSON

Every value has a document. It is written without blanks, and in strings just the quote, the
backslash and the control characters are escaped, so that it holds no line end. A number has no
value that could be written: it becomes a word which no text that follows can continue. Reading
what has been written gives the value back if it is not nested too deep, and says so otherwise
(`read_written`).
-/

namespace Iconsmith.Json

/-! ## Strings -/

/-- A character as it is written in a string. -/
def writtenChar (c : Char) : Text :=
  if c = '"' ∨ c = '\\' then ['\\', c]
  else if c.toNat < 0x20 then
    ['\\', 'u', '0', '0', Nat.digitChar (c.toNat / 16), Nat.digitChar (c.toNat % 16)]
  else [c]

/-- A string as it is written, without the quote that opens it. -/
def writtenRest (t : Text) : Text := t.flatMap writtenChar ++ ['"']

theorem unit?_digitChar : ∀ n < 0x20,
    unit? '0' '0' (Nat.digitChar (n / 16)) (Nat.digitChar (n % 16)) = some n := by
  decide

/-- A control character is no half of a surrogate pair. -/
theorem pairedWith?_of_lt {n : Nat} (h : n < 0x20) (t : Text) : pairedWith? n t = none := by
  have hhigh : ∀ low, charOfPair? n low = none := by
    intro low
    rw [charOfPair?, if_neg]
    simp only [Bool.and_eq_true, decide_eq_true_eq]
    omega
  unfold pairedWith?
  split
  · rename_i a b c d x y
    cases unit? a b c d with
    | none => rfl
    | some low => exact hhigh low
  · rfl

theorem charOfUnit?_toNat {c : Char} (h : c.toNat < 0x20) : charOfUnit? c.toNat = some c := by
  rw [charOfUnit?, if_neg, Char.ofNat_toNat]
  simp only [Bool.and_eq_true, decide_eq_true_eq]
  omega

/-- A character that is written stands for itself. What follows has to go on, as the string that
it is in is closed after it. -/
theorem stringFrom_writtenChar (start : Text) (c d : Char) (u : Text) :
    stringFrom start 0 (writtenChar c ++ d :: u) = consChar c (stringFrom start 0 (d :: u)) := by
  rw [writtenChar]
  split
  · rename_i hescaped
    rcases hescaped with rfl | rfl <;> rfl
  · rename_i hplain
    obtain ⟨hquote, hslash⟩ := not_or.1 hplain
    split
    · rename_i hcontrol
      have hread : stringFrom start 4
          ('0' :: '0' :: Nat.digitChar (c.toNat / 16) :: Nat.digitChar (c.toNat % 16) :: d :: u) =
            stringFrom start 0 (d :: u) := rfl
      simp only [List.cons_append, List.nil_append]
      rw [stringFrom.eq_def]
      simp only [unit?_digitChar _ hcontrol, pairedWith?_of_lt hcontrol, charOfUnit?_toNat hcontrol,
        hread]
    · rename_i hcontrol
      rw [List.singleton_append, stringFrom.eq_def]
      split
      case h_7 =>
        rename_i heq
        cases heq
        exact if_neg hcontrol
      all_goals simp_all

theorem stringFrom_writtenRest (start t u : Text) :
    stringFrom start 0 (writtenRest t ++ u) = .ok (t, u) := by
  induction t with
  | nil => rfl
  | cons c t ih =>
      obtain ⟨d, rest, hrest⟩ : ∃ d rest, writtenRest t ++ u = d :: rest := by
        cases hwritten : writtenRest t ++ u with
        | nil => simp [writtenRest] at hwritten
        | cons d rest => exact ⟨d, rest, rfl⟩
      have hcons : writtenRest (c :: t) ++ u = writtenChar c ++ d :: rest := by
        rw [← hrest, writtenRest, writtenRest, List.flatMap_cons, List.append_assoc,
          List.append_assoc, List.append_assoc]
      rw [hcons, stringFrom_writtenChar, ← hrest, ih]
      rfl

/-! ## Values -/

mutual

/-- A value as it is written. -/
def written : Json → Text
  | .null => "null".toList
  | .bool true => "true".toList
  | .bool false => "false".toList
  | .number => "NaN".toList
  | .string t => '"' :: writtenRest t
  | .array items => '[' :: writtenItems items
  | .object members => '\x7b' :: writtenMembers members

/-- The items of an array, up to its end. -/
def writtenItems : List Json → Text
  | [] => [']']
  | [item] => written item ++ [']']
  | item :: next :: more => written item ++ ',' :: writtenItems (next :: more)

/-- The members of an object, up to its end. -/
def writtenMembers : List (Text × Json) → Text
  | [] => ['\x7d']
  | [(name, value)] => '"' :: (writtenRest name ++ ':' :: (written value ++ ['\x7d']))
  | (name, value) :: next :: more =>
      '"' :: (writtenRest name ++ ':' :: (written value ++ ',' :: writtenMembers (next :: more)))

end

/-- A character that a value can begin with when it is written. -/
def IsOpening (c : Char) : Prop := c ∈ "\"[\x7bntfN".toList

instance : DecidablePred IsOpening := fun c =>
  inferInstanceAs (Decidable (c ∈ "\"[\x7bntfN".toList))

/-- What a value begins with is neither a blank nor the end of an array nor a mark. -/
theorem IsOpening.facts {c : Char} (h : IsOpening c) :
    isGap c = false ∧ c ≠ ']' ∧ c ≠ '\ufeff' := by
  have hall : ∀ d ∈ "\"[\x7bntfN".toList, isGap d = false ∧ d ≠ ']' ∧ d ≠ '\ufeff' := by decide
  exact hall c h

theorem exists_written_eq (v : Json) : ∃ c rest, written v = c :: rest ∧ IsOpening c := by
  cases v with
  | bool value => cases value <;> exact ⟨_, _, rfl, by decide⟩
  | null | number => exact ⟨_, _, rfl, by decide⟩
  | string | array | object => exact ⟨_, _, by rw [written], by decide⟩

theorem exists_writtenItems_eq (item : Json) (more : List Json) :
    ∃ c rest, writtenItems (item :: more) = c :: rest ∧ IsOpening c := by
  obtain ⟨c, rest, hitem, hc⟩ := exists_written_eq item
  cases more with
  | nil => exact ⟨c, _, by rw [writtenItems, hitem, List.cons_append], hc⟩
  | cons next more => exact ⟨c, _, by rw [writtenItems, hitem, List.cons_append], hc⟩

theorem exists_writtenMembers_eq (m : Text × Json) (more : List (Text × Json)) :
    ∃ rest, writtenMembers (m :: more) = '"' :: rest := by
  cases more with
  | nil => exact ⟨_, rfl⟩
  | cons next more => exact ⟨_, rfl⟩

theorem skipGap_cons {c : Char} (h : isGap c = false) (t : Text) : skipGap (c :: t) = c :: t :=
  List.dropWhile_cons_of_neg (by simp [h])

theorem skipGap_written (v : Json) (u : Text) : skipGap (written v ++ u) = written v ++ u := by
  obtain ⟨c, rest, hv, hc⟩ := exists_written_eq v
  rw [hv, List.cons_append, skipGap_cons hc.facts.1]

/-! ## Nesting -/

mutual

/-- How deep the brackets of a value are nested. -/
def depth : Json → Nat
  | .null | .bool _ | .number | .string _ => 0
  | .array items => depthOfItems items + 1
  | .object members => depthOfMembers members + 1

/-- How deep brackets are nested in the items of an array. -/
def depthOfItems : List Json → Nat
  | [] => 0
  | item :: more => max (depth item) (depthOfItems more)

/-- How deep brackets are nested in the members of an object. -/
def depthOfMembers : List (Text × Json) → Nat
  | [] => 0
  | (_, value) :: more => max (depth value) (depthOfMembers more)

end

/-- What is read where a value of a certain depth is written and there is room for another. -/
def fitting {α : Type} (deep room : Nat) (reading : α × Text) : Reading α :=
  if deep ≤ room then .ok reading else .error .tooDeep

theorem fitting_of_le {α : Type} {deep room : Nat} (h : deep ≤ room) (reading : α × Text) :
    fitting deep room reading = .ok reading :=
  if_pos h

theorem fitting_of_lt {α : Type} {deep room : Nat} (h : room < deep) (reading : α × Text) :
    fitting deep room reading = .error .tooDeep :=
  if_neg (Nat.not_le_of_lt h)

/-- Of two values in one array or object the first is read before the second, and both have to
fit. -/
theorem fitting_max {α β γ : Type} {first second room : Nat} {v : α × Text} {w : β × Text}
    {reading : γ × Text} {read : Reading γ}
    (hfirst : fitting first room v = .error .tooDeep → read = .error .tooDeep)
    (hsecond : fitting first room v = .ok v → fitting second room w = .error .tooDeep →
      read = .error .tooDeep)
    (hboth : fitting first room v = .ok v → fitting second room w = .ok w → read = .ok reading) :
    read = fitting (max first second) room reading := by
  rcases Nat.lt_or_ge room first with hlt | hle
  · rw [fitting_of_lt (Nat.lt_of_lt_of_le hlt (Nat.le_max_left _ _))]
    exact hfirst (fitting_of_lt hlt v)
  · rcases Nat.lt_or_ge room second with hlt | hle'
    · rw [fitting_of_lt (Nat.lt_of_lt_of_le hlt (Nat.le_max_right _ _))]
      exact hsecond (fitting_of_le hle v) (fitting_of_lt hlt w)
    · rw [fitting_of_le (Nat.max_le.2 ⟨hle, hle'⟩)]
      exact hboth (fitting_of_le hle v) (fitting_of_le hle' w)

/-- A bracket takes one off the room. -/
theorem map_fitting {α β : Type} (f : α × Text → β × Text) (deep room : Nat)
    (reading : α × Text) :
    (fitting deep room reading).map f = fitting (deep + 1) (room + 1) (f reading) := by
  rcases Nat.lt_or_ge room deep with hlt | hle
  · rw [fitting_of_lt hlt, fitting_of_lt (Nat.succ_lt_succ hlt)]
    rfl
  · rw [fitting_of_le hle, fitting_of_le (Nat.succ_le_succ hle)]
    rfl

/-! ## Steps of reading -/

section Steps

variable {steps room : Nat} {t u : Text} {value : Json}

theorem valueFrom_array {c : Char} (hgap : isGap c = false) (hend : c ≠ ']') :
    valueFrom (steps + 1) (room + 1) ('[' :: c :: t) =
      (itemsFrom steps room (c :: t)).map fun r => (.array r.1, r.2) := by
  rw [valueFrom, skipGap_cons hgap]
  split
  · rename_i hcons
    cases hcons
    exact absurd rfl hend
  · cases itemsFrom steps room (c :: t) <;> rfl

theorem valueFrom_object : valueFrom (steps + 1) (room + 1) ('\x7b' :: '"' :: t) =
    (membersFrom steps room ('"' :: t)).map fun r => (.object r.1, r.2) := by
  have hgap : skipGap ('"' :: t) = '"' :: t := skipGap_cons (by decide) t
  rw [valueFrom, hgap]
  split
  · rename_i hcons
    cases hcons
  · cases membersFrom steps room ('"' :: t) <;> rfl

theorem itemsFrom_of_error {e : Fault} (h : valueFrom steps room t = .error e) :
    itemsFrom (steps + 1) room t = .error e := by
  rw [itemsFrom, h]

theorem itemsFrom_last (h : valueFrom steps room t = .ok (value, ']' :: u)) :
    itemsFrom (steps + 1) room t = .ok ([value], u) := by
  have hgap : skipGap (']' :: u) = ']' :: u := skipGap_cons (by decide) u
  simp [itemsFrom, h, hgap]

theorem itemsFrom_more (h : valueFrom steps room t = .ok (value, ',' :: u)) :
    itemsFrom (steps + 1) room t =
      (itemsFrom steps room (skipGap u)).map fun r => (value :: r.1, r.2) := by
  have hgap : skipGap (',' :: u) = ',' :: u := skipGap_cons (by decide) u
  simp only [itemsFrom, h, hgap]
  cases itemsFrom steps room (skipGap u) <;> rfl

theorem membersFrom_of_error (name : Text) {e : Fault}
    (h : valueFrom steps room (skipGap t) = .error e) :
    membersFrom (steps + 1) room ('"' :: (writtenRest name ++ ':' :: t)) = .error e := by
  have hcolon : skipGap (':' :: t) = ':' :: t := skipGap_cons (by decide) t
  simp [membersFrom, stringFrom_writtenRest, hcolon, h]

theorem membersFrom_last (name : Text)
    (h : valueFrom steps room (skipGap t) = .ok (value, '\x7d' :: u)) :
    membersFrom (steps + 1) room ('"' :: (writtenRest name ++ ':' :: t)) =
      .ok ([(name, value)], u) := by
  have hcolon : skipGap (':' :: t) = ':' :: t := skipGap_cons (by decide) t
  have hgap : skipGap ('\x7d' :: u) = '\x7d' :: u := skipGap_cons (by decide) u
  simp [membersFrom, stringFrom_writtenRest, hcolon, h, hgap]

theorem membersFrom_more (name : Text)
    (h : valueFrom steps room (skipGap t) = .ok (value, ',' :: u)) :
    membersFrom (steps + 1) room ('"' :: (writtenRest name ++ ':' :: t)) =
      (membersFrom steps room (skipGap u)).map fun r => ((name, value) :: r.1, r.2) := by
  have hcolon : skipGap (':' :: t) = ':' :: t := skipGap_cons (by decide) t
  have hgap : skipGap (',' :: u) = ',' :: u := skipGap_cons (by decide) u
  simp only [membersFrom, stringFrom_writtenRest, hcolon, h, hgap]
  cases membersFrom steps room (skipGap u) <;> rfl

end Steps

/-! ## Reading back -/

mutual

/-- A value that has been written is read again, in front of any text, if there is room for its
brackets. Every step is paid for by a character. -/
theorem valueFrom_written : ∀ (v : Json) (steps room : Nat) (u : Text),
    (written v).length ≤ steps →
      valueFrom steps room (written v ++ u) = fitting (depth v) room (v, u)
  | v, 0, _, u, h => by
      obtain ⟨c, rest, hv, -⟩ := exists_written_eq v
      rw [hv] at h
      cases h
  | .null, steps + 1, _, u, _ => rfl
  | .bool true, steps + 1, _, u, _ => rfl
  | .bool false, steps + 1, _, u, _ => rfl
  | .number, steps + 1, _, u, _ => rfl
  | .string t, steps + 1, _, u, _ => by
      rw [written, List.cons_append, valueFrom, stringFrom_writtenRest]
      rfl
  | .array items, steps + 1, 0, u, _ => by
      rw [written, List.cons_append, valueFrom]
      rfl
  | .array [], steps + 1, room + 1, u, _ => rfl
  | .array (item :: items), steps + 1, room + 1, u, h => by
      rw [written, List.length_cons] at h
      have hitems := itemsFrom_written item items steps room u (Nat.le_of_succ_le_succ h)
      obtain ⟨c, rest, hrest, hc⟩ := exists_writtenItems_eq item items
      obtain ⟨hgap, hend, -⟩ := hc.facts
      rw [hrest] at hitems
      rw [written, hrest]
      exact (valueFrom_array hgap hend).trans ((congrArg _ hitems).trans (map_fitting _ _ _ _))
  | .object members, steps + 1, 0, u, _ => by
      rw [written, List.cons_append, valueFrom]
      rfl
  | .object [], steps + 1, room + 1, u, _ => rfl
  | .object (m :: members), steps + 1, room + 1, u, h => by
      rw [written, List.length_cons] at h
      have hmembers := membersFrom_written m members steps room u (Nat.le_of_succ_le_succ h)
      obtain ⟨rest, hrest⟩ := exists_writtenMembers_eq m members
      rw [hrest] at hmembers
      rw [written, hrest]
      exact valueFrom_object.trans ((congrArg _ hmembers).trans (map_fitting _ _ _ _))

theorem itemsFrom_written : ∀ (item : Json) (more : List Json) (steps room : Nat) (u : Text),
    (writtenItems (item :: more)).length ≤ steps →
      itemsFrom steps room (writtenItems (item :: more) ++ u) =
        fitting (depthOfItems (item :: more)) room (item :: more, u)
  | item, [], 0, _, u, h => by
      simp [writtenItems] at h
  | item, [], steps + 1, room, u, h => by
      rw [writtenItems, List.length_append, List.length_singleton] at h
      have hitem := valueFrom_written item steps room (']' :: u) (Nat.le_of_succ_le_succ h)
      rw [writtenItems, List.append_assoc]
      exact fitting_max (w := (item, u)) (fun hdeep => itemsFrom_of_error (hitem.trans hdeep))
        (fun _ hdeep => by cases hdeep) fun hfits _ => itemsFrom_last (hitem.trans hfits)
  | item, next :: more, 0, _, u, h => by
      simp [writtenItems] at h
  | item, next :: more, steps + 1, room, u, h => by
      rw [writtenItems, List.length_append, List.length_cons] at h
      have hitem := valueFrom_written item steps room
        (',' :: (writtenItems (next :: more) ++ u)) (by omega)
      have hmore := itemsFrom_written next more steps room u (by omega)
      obtain ⟨c, rest, hrest, hc⟩ := exists_writtenItems_eq next more
      rw [hrest, List.cons_append, ← skipGap_cons hc.facts.1] at hmore
      rw [writtenItems, List.append_assoc]
      rw [hrest] at hitem ⊢
      refine fitting_max (w := (next :: more, u))
        (fun hdeep => itemsFrom_of_error (hitem.trans hdeep))
        (fun hfits hdeep => ?_) fun hfits hfits' => ?_
      · exact (itemsFrom_more (hitem.trans hfits)).trans (congrArg _ (hmore.trans hdeep))
      · exact (itemsFrom_more (hitem.trans hfits)).trans (congrArg _ (hmore.trans hfits'))

theorem membersFrom_written : ∀ (m : Text × Json) (more : List (Text × Json)) (steps room : Nat)
    (u : Text), (writtenMembers (m :: more)).length ≤ steps →
      membersFrom steps room (writtenMembers (m :: more) ++ u) =
        fitting (depthOfMembers (m :: more)) room (m :: more, u)
  | m, more, 0, _, u, h => by
      obtain ⟨rest, hrest⟩ := exists_writtenMembers_eq m more
      rw [hrest] at h
      cases h
  | (name, value), [], steps + 1, room, u, h => by
      rw [writtenMembers, List.length_cons, List.length_append, List.length_cons,
        List.length_append] at h
      have hvalue := valueFrom_written value steps room ('\x7d' :: u) (by omega)
      rw [← skipGap_written] at hvalue
      have hwritten : writtenMembers [(name, value)] ++ u =
          '"' :: (writtenRest name ++ ':' :: (written value ++ '\x7d' :: u)) := by
        simp [writtenMembers]
      rw [hwritten]
      exact fitting_max (w := (value, u))
        (fun hdeep => membersFrom_of_error name (hvalue.trans hdeep))
        (fun _ hdeep => by cases hdeep) fun hfits _ => membersFrom_last name (hvalue.trans hfits)
  | (name, value), next :: more, steps + 1, room, u, h => by
      rw [writtenMembers, List.length_cons, List.length_append, List.length_cons,
        List.length_append, List.length_cons] at h
      have hmore := membersFrom_written next more steps room u (by omega)
      have hvalue := valueFrom_written value steps room
        (',' :: (writtenMembers (next :: more) ++ u)) (by omega)
      rw [← skipGap_written] at hvalue
      have hwritten : writtenMembers ((name, value) :: next :: more) ++ u = '"' ::
          (writtenRest name ++ ':' :: (written value ++ ',' ::
            (writtenMembers (next :: more) ++ u))) := by
        simp [writtenMembers]
      obtain ⟨rest, hrest⟩ := exists_writtenMembers_eq next more
      rw [hrest, List.cons_append, ← skipGap_cons (show isGap '"' = false by decide)] at hmore
      rw [hwritten]
      rw [hrest] at hvalue ⊢
      refine fitting_max (w := (next :: more, u))
        (fun hdeep => membersFrom_of_error name (hvalue.trans hdeep))
        (fun hfits hdeep => ?_) fun hfits hfits' => ?_
      · exact (membersFrom_more name (hvalue.trans hfits)).trans (congrArg _ (hmore.trans hdeep))
      · exact (membersFrom_more name (hvalue.trans hfits)).trans (congrArg _ (hmore.trans hfits'))

end

/-- What has been written is read as the value it was written for, unless its brackets are nested
too deep. -/
theorem read_written (v : Json) :
    read (written v) = if depth v ≤ maxDepth then .ok v else .error .tooDeep := by
  obtain ⟨c, rest, hv, hc⟩ := exists_written_eq v
  have hvalue := valueFrom_written v (2 * (written v).length + 1) maxDepth [] (by omega)
  rw [← skipGap_written, List.append_nil] at hvalue
  unfold read
  split
  · rename_i hmark
    rw [hv] at hmark
    cases hmark
    exact absurd rfl hc.facts.2.2
  · rw [hvalue]
    rcases Nat.lt_or_ge maxDepth (depth v) with hlt | hle
    · rw [fitting_of_lt hlt, if_neg (Nat.not_le_of_lt hlt)]
      rfl
    · rw [fitting_of_le hle, if_pos hle]
      rfl

theorem written_injective {v w : Json} (h : written v = written w) : v = w := by
  -- With room for both, the two are read off one text.
  have hroom : ∀ x : Json, depth x ≤ max (depth v) (depth w) →
      valueFrom (written x).length (max (depth v) (depth w)) (written x) = .ok (x, []) := by
    intro x hx
    have hread := valueFrom_written x _ (max (depth v) (depth w)) [] (Nat.le_refl _)
    rwa [List.append_nil, fitting_of_le hx] at hread
  have hv := hroom v (Nat.le_max_left _ _)
  rw [h, hroom w (Nat.le_max_right _ _)] at hv
  exact (congrArg Prod.fst (Except.ok.inj hv)).symm

/-- Which value is read from a document can be settled by what it is written as. -/
theorem read_eq_ok_of_written {document : Text} {v : Json}
    (h : (read document).map written = .ok (written v)) : read document = .ok v := by
  cases hread : read document with
  | error refusal =>
      rw [hread] at h
      cases h
  | ok w =>
      rw [hread] at h
      rw [written_injective (Except.ok.inj h)]

/-! ## Line ends -/

/-- A carriage return is a control character, so it is escaped. -/
theorem return_not_mem_writtenChar (c : Char) : '\r' ∉ writtenChar c := by
  rw [writtenChar]
  split
  · rename_i hescaped
    rcases hescaped with rfl | rfl <;> decide
  · split
    · rename_i hcontrol
      have hall : ∀ n < 0x20, '\r' ∉
          ['\\', 'u', '0', '0', Nat.digitChar (n / 16), Nat.digitChar (n % 16)] := by
        decide
      exact hall _ hcontrol
    · rename_i hcontrol
      rintro (- | ⟨_, ⟨⟩⟩)
      exact hcontrol (by decide)

/-- A carriage return is written with an escape. -/
theorem return_not_mem_writtenRest (t : Text) : '\r' ∉ writtenRest t := by
  intro h
  rcases List.mem_append.1 h with h | h
  · obtain ⟨c, -, hc⟩ := List.mem_flatMap.1 h
    exact return_not_mem_writtenChar c hc
  · exact absurd h (by decide)

mutual

theorem return_not_mem_written : ∀ v : Json, '\r' ∉ written v
  | .null => by decide
  | .bool true => by decide
  | .bool false => by decide
  | .number => by decide
  | .string t => by
      rw [written, List.mem_cons, not_or]
      exact ⟨by decide, return_not_mem_writtenRest t⟩
  | .array items => by
      rw [written, List.mem_cons, not_or]
      exact ⟨by decide, return_not_mem_writtenItems items⟩
  | .object members => by
      rw [written, List.mem_cons, not_or]
      exact ⟨by decide, return_not_mem_writtenMembers members⟩

theorem return_not_mem_writtenItems : ∀ items : List Json, '\r' ∉ writtenItems items
  | [] => by decide
  | [item] => by
      rw [writtenItems]
      exact List.not_mem_append (return_not_mem_written item) (by decide)
  | item :: next :: more => by
      rw [writtenItems]
      refine List.not_mem_append (return_not_mem_written item) ?_
      exact List.not_mem_cons_of_ne_of_not_mem (by decide)
        (return_not_mem_writtenItems (next :: more))

theorem return_not_mem_writtenMembers :
    ∀ members : List (Text × Json), '\r' ∉ writtenMembers members
  | [] => by decide
  | [(name, value)] => by
      rw [writtenMembers]
      have hname := return_not_mem_writtenRest name
      have hvalue := return_not_mem_written value
      simp [hname, hvalue]
  | (name, value) :: next :: more => by
      rw [writtenMembers]
      have hname := return_not_mem_writtenRest name
      have hvalue := return_not_mem_written value
      have hmore := return_not_mem_writtenMembers (next :: more)
      simp [hname, hvalue, hmore]

end

/-- A document that has been written has no line end that reading a file would change. -/
theorem withLineFeeds_written (v : Json) : Text.withLineFeeds (written v) = written v :=
  Text.withLineFeeds_of_not_mem (return_not_mem_written v)

end Iconsmith.Json
