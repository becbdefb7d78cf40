import Iconsmith.Text.Basic

set_option autoImplicit false

/-!
# Blanks

The white space characters of Unicode 14, among them the four ASCII information
separators, and the removal of blanks from both ends of a text.
-/

namespace Iconsmith.Text

/-- White space: the ASCII controls 9 to 13 and 28 to 31, the space, and the
blanks beyond ASCII. -/
def isBlank (c : Char) : Bool :=
  let n := c.toNat
  (9 ≤ n && n ≤ 13) || (28 ≤ n && n ≤ 32) || n == 0x85 || n == 0xA0 || n == 0x1680 ||
    (0x2000 ≤ n && n ≤ 0x200A) || n == 0x2028 || n == 0x2029 || n == 0x202F ||
    n == 0x205F || n == 0x3000

/-- The text without the blanks at its start. -/
def stripStart (t : Text) : Text := t.dropWhile isBlank

/-- The text without the blanks at its start and at its end. -/
def strip (t : Text) : Text := (stripStart (stripStart t).reverse).reverse

/-- A text that neither begins nor ends with a blank is kept. -/
theorem strip_eq_self (t : Text) (first : ∀ c ∈ t.head?, isBlank c = false)
    (last : ∀ c ∈ t.getLast?, isBlank c = false) : strip t = t := by
  have kept : ∀ u : Text, (∀ c ∈ u.head?, isBlank c = false) → stripStart u = u := by
    intro u hu
    cases u with
    | nil => rfl
    | cons c rest => simp [stripStart, hu c rfl]
  have hr : stripStart t.reverse = t.reverse :=
    kept t.reverse (by simpa [List.head?_reverse] using last)
  rw [strip, kept t first, hr, List.reverse_reverse]

end Iconsmith.Text
