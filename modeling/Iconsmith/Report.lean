import Iconsmith.Log

set_option autoImplicit false

/-!
# Reports

What a run tells its user: log records, successes, failures and counts. Successes
and counts go to the standard output, failures and records to the standard error.
Marks and counts are painted when colour is wanted.
-/

namespace Iconsmith.Report

/-- One thing that is told. -/
inductive Event where
  | log (record : Log.Record)
  | success (message : Text)
  | failure (message detail : Text)
  | succeeded (count : Nat)
  | failed (count : Nat)
  deriving DecidableEq

/-- Where a line goes. -/
inductive Stream where
  | output
  | error
  deriving DecidableEq

/-- A line of text and where it goes. -/
structure Line where
  stream : Stream
  text : Text
  deriving DecidableEq

/-! ## Wording -/

/-- The colours in use. -/
inductive Colour where
  | green
  | red
  deriving DecidableEq

/-- The number of a colour on a terminal. -/
def Colour.code : Colour → Text
  | .green => "32".toList
  | .red => "31".toList

/-- A text in a colour, if colour is wanted. -/
def painted (wanted : Bool) (colour : Colour) (t : Text) : Text :=
  if wanted then "\x1b[".toList ++ colour.code ++ 'm' :: t ++ "\x1b[0m".toList else t

/-- A number of components. -/
def components (count : Nat) : Text :=
  Text.ofNat count ++ (if count = 1 then " component" else " components").toList

/-- The lines of an event. A count of zero is not told, a failure has a second line
for its detail if there is any, and records below the threshold are not shown. -/
def Event.lines (colour : Bool) (threshold : Nat) : Event → List Line
  | .log record => if record.shownAt threshold then [⟨.error, record.line⟩] else []
  | .success message => [⟨.output, painted colour .green ['✓'] ++ ' ' :: message⟩]
  | .failure message detail =>
      ⟨.error, painted colour .red ['✗'] ++ ' ' :: message⟩ ::
        if detail = [] then [] else [⟨.error, "    ".toList ++ detail⟩]
  | .succeeded 0 | .failed 0 => []
  | .succeeded count =>
      [⟨.output, painted colour .green (components count ++ " generated".toList)⟩]
  | .failed count => [⟨.output, painted colour .red (components count ++ " failed".toList)⟩]

/-- The text that events leave on a stream. -/
def textOn (stream : Stream) (colour : Bool) (threshold : Nat) (events : List Event) : Text :=
  ((events.flatMap (Event.lines colour threshold)).filter (·.stream = stream)).flatMap
    fun line => line.text ++ ['\n']

end Iconsmith.Report
