import Iconsmith.Text.Basic

set_option autoImplicit false

/-!
# Paths

A path is a start and a list of components. Reading a path from text drops empty
components and single dots and keeps double dots, so `a//b/./../c` is `a/b/../c`
and the empty text is the working directory.
-/

namespace Iconsmith.Disk

/-- Where a path starts: at the working directory, or at the root, which two
leading slashes mark in a way of their own. -/
inductive Anchor where
  | here
  | root
  | doubleRoot
  deriving DecidableEq

/-- The text of a start. -/
def Anchor.text : Anchor → Text
  | .here => []
  | .root => ['/']
  | .doubleRoot => ['/', '/']

/-- A start and the components that lead on from it. -/
structure Path where
  anchor : Anchor
  parts : List Text
  deriving DecidableEq

namespace Path

/-- The start of a path that is written as `t`: exactly two slashes differ from
one or from more. -/
def anchorOf : Text → Anchor
  | '/' :: '/' :: '/' :: _ => .root
  | '/' :: '/' :: _ => .doubleRoot
  | '/' :: _ => .root
  | _ => .here

/-- Components that a path keeps. -/
def isPart (part : Text) : Bool := part ≠ [] && part ≠ ['.']

/-- The path that a text writes. -/
def ofText (t : Text) : Path := ⟨anchorOf t, (Text.fields '/' t).filter isPart⟩

/-- The text of a path; the working directory is a single dot. -/
def text (p : Path) : Text :=
  match p.anchor, p.parts with
  | .here, [] => ['.']
  | _, _ => p.anchor.text ++ Text.joined ['/'] p.parts

/-- The path `q` read from the directory `p`; an absolute `q` stands for itself. -/
def join (p q : Path) : Path :=
  match q.anchor with
  | .here => ⟨p.anchor, p.parts ++ q.parts⟩
  | _ => q

/-- The path of the entry `name` of the directory `p`. -/
def child (p : Path) (name : Text) : Path := ⟨p.anchor, p.parts ++ [name]⟩

/-- The last component, empty when there is none. -/
def name (p : Path) : Text := p.parts.getLast?.getD []

/-- The path without its last component. -/
def parent (p : Path) : Path := ⟨p.anchor, p.parts.dropLast⟩

end Path

/-- The stem of a file name: what precedes its last dot, when something precedes
the dot and something follows it, and else the whole name. -/
def stem (name : Text) : Text :=
  match Text.cutLast '.' name with
  | some (before, after) => if before = [] || after = [] then name else before
  | none => name

end Iconsmith.Disk
