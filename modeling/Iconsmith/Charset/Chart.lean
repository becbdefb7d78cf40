set_option autoImplicit false

/-!
# Charts

A chart gives characters numbers. It is written as runs of characters at consecutive
numbers, so that the gaps between the runs are the numbers without a character.
-/

namespace Iconsmith

/-- Runs of characters, each with the number of its first, in the order of the numbers. -/
structure Chart where
  runs : List (Nat × String)

/-- The character at a number, which is in the last run that starts there or before. -/
def Chart.char? (chart : Chart) (n : Nat) : Option Char :=
  (chart.runs.takeWhile fun run => run.1 ≤ n).getLast?.bind fun (start, chars) =>
    chars.toList[n - start]?

end Iconsmith
