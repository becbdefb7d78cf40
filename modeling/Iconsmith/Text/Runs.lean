set_option autoImplicit false

/-!
# Runs of code points

A class of characters is listed as runs of code points, each with its first and last
member, in increasing order.
-/

namespace Iconsmith.Text

/-- Whether some run holds the code point; the runs increase, so the search ends
at the first that is not below it. -/
def inRuns (n : Nat) : List (Nat × Nat) → Bool
  | [] => false
  | (first, last) :: more => if last < n then inRuns n more else first ≤ n

end Iconsmith.Text
