set_option autoImplicit false

/-!
# Text

A text is the list of its characters, so that every rule about text is a
recursion on the data. This module holds the operations that know nothing of
icons: joining, cutting at a character, replacing every occurrence of a pattern,
and the decimal numerals of numbers.

`Text.replaceSpans` is the one scanner behind every replacement. It reads from the
left, and `replaceSpans_of_span_eq_none` says that a text without a match is kept.
-/

namespace Iconsmith

/-- A text, as the list of its characters. -/
abbrev Text := List Char

namespace Text

/-- Whether something holds of all characters of a text is decided along the text, and not for
all characters there are. -/
instance (priority := high) decidableForallMem {p : Char → Prop} [DecidablePred p] (t : Text) :
    Decidable (∀ c ∈ t, p c) := List.decidableBAll p t

/-! ## Cutting and joining -/

/-- Cuts a text at every `sep`. There is always at least one field, and a field
holds no `sep`. -/
def fields (sep : Char) : Text → List Text
  | [] => [[]]
  | c :: rest =>
      match fields sep rest with
      | [] => [[c]]
      | field :: more => if c = sep then [] :: field :: more else (c :: field) :: more

/-- Cuts a text at its first `sep`. -/
def cutFirst (sep : Char) : Text → Option (Text × Text)
  | [] => none
  | c :: rest =>
      if c = sep then some ([], rest)
      else (cutFirst sep rest).map fun (before, after) => (c :: before, after)

/-- Cuts a text at its last `sep`. -/
def cutLast (sep : Char) : Text → Option (Text × Text)
  | [] => none
  | c :: rest =>
      match cutLast sep rest with
      | some (before, after) => some (c :: before, after)
      | none => if c = sep then some ([], rest) else none

/-- Writes the parts one after another with `gap` between neighbours. -/
def joined (gap : Text) : List Text → Text
  | [] => []
  | [part] => part
  | part :: next :: more => part ++ gap ++ joined gap (next :: more)

/-- A text that begins two texts together begins the first, when the second begins with none
of its characters. -/
theorem prefix_of_prefix_append {l d u : Text} (hu : ∀ c ∈ u.head?, c ∉ l) (h : l <+: d ++ u) :
    l <+: d := by
  induction l generalizing d with
  | nil => exact List.nil_prefix
  | cons x l ih =>
      cases d with
      | nil =>
          obtain ⟨w, hw⟩ := h
          rw [List.nil_append] at hw
          exact absurd List.mem_cons_self (hu x (by rw [← hw]; rfl))
      | cons y d =>
          rw [List.cons_append, List.cons_prefix_cons] at h
          obtain ⟨rfl, h⟩ := h
          rw [List.cons_prefix_cons]
          exact ⟨rfl, ih (fun c hc hmem => hu c hc (List.mem_cons_of_mem x hmem)) h⟩

/-! ## Order -/

/-- Order of texts by code point, a shorter text before its extensions. -/
def atMost : Text → Text → Bool
  | [], _ => true
  | _ :: _, [] => false
  | c :: s, d :: t => c.toNat < d.toNat || (c = d && atMost s t)

/-! ## Replacing -/

/-- Replaces each leftmost match by `fill`. `span` gives the length of a match at
the head of the text; `skip` counts the characters of the current match that are
still to be dropped. A match of length zero counts as none. -/
def replaceSpans (span : Text → Option Nat) (fill : Text) : Nat → Text → Text
  | _, [] => []
  | skip + 1, _ :: rest => replaceSpans span fill skip rest
  | 0, c :: rest =>
      match span (c :: rest) with
      | some (length + 1) => fill ++ replaceSpans span fill length rest
      | _ => c :: replaceSpans span fill 0 rest

/-- The length of `pattern` when the text begins with it. -/
def literalSpan (pattern : Text) (t : Text) : Option Nat :=
  if pattern.isPrefixOf t then some pattern.length else none

/-- Replaces every occurrence of `pattern`, from the left and without overlap. -/
def replaceAll (pattern fill t : Text) : Text := replaceSpans (literalSpan pattern) fill 0 t

/-- A text in which no suffix begins with a match is kept. -/
theorem replaceSpans_of_span_eq_none (span : Text → Option Nat) (fill t : Text)
    (h : ∀ u, u <:+ t → span u = none) : replaceSpans span fill 0 t = t := by
  induction t with
  | nil => rfl
  | cons c rest ih =>
      have head : span (c :: rest) = none := h _ (List.suffix_refl _)
      have tail := ih fun u hu => h u (List.IsSuffix.trans hu (List.suffix_cons c rest))
      simp [replaceSpans, head, tail]

/-! ## Line ends -/

/-- The text with every line end written as a line feed. -/
def withLineFeeds : Text → Text
  | [] => []
  | '\r' :: '\n' :: rest => '\n' :: withLineFeeds rest
  | c :: rest => (if c = '\r' then '\n' else c) :: withLineFeeds rest

/-! ## Numerals -/

/-- The decimal numeral of a number. -/
def ofNat (n : Nat) : Text := Nat.toDigits 10 n

end Text

end Iconsmith
