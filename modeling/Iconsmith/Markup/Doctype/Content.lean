import Iconsmith.Markup.Scan

set_option autoImplicit false

/-!
# Content models

The declaration of an element type says what elements of the type may contain. Only its
form is checked, and that it is not nested too deep.
-/

namespace Iconsmith.Markup

/-- How deep the parentheses of a content model may be nested. -/
def maxModelDepth : Nat := 256

/-- Reads the mark of repetition after an item of a content model. -/
def afterRepetition : Text → Text
  | '?' :: rest | '*' :: rest | '+' :: rest => rest
  | t => t

/-- Reads a content model after an opening parenthesis: items that are names or models,
all with the same separator between them. Models in it are at most `depth` deep. -/
def readModel (separator : Option Char) (depth : Nat) : Nat → Text → Reading Unit
  | 0, _ => .error none
  | steps + 1, t =>
      let item : Reading Unit :=
        match skipGap t with
        | '(' :: inner =>
            match depth with
            | 0 => .error none
            | depth + 1 => readModel none depth steps inner
        | other => (readName other).map fun found => ((), afterRepetition found.2)
      match item with
      | .error s => .error s
      | .ok (_, rest) =>
          match skipGap rest with
          | ')' :: after => .ok ((), afterRepetition after)
          | c :: more =>
              if (c = ',' || c = '|') && separator.all (· = c) then
                readModel (some c) depth steps more
              else .error none
          | [] => .error none

/-- Reads the rest of a mixed content model, after its word for text. -/
def readMixed : Nat → Bool → Text → Reading Unit
  | 0, _, _ => .error none
  | steps + 1, named, t =>
      match skipGap t with
      | ')' :: '*' :: rest => .ok ((), rest)
      | ')' :: rest => if named then .error none else .ok ((), rest)
      | '|' :: rest =>
          match readName (skipGap rest) with
          | .error s => .error s
          | .ok (_, after) => readMixed steps true after
      | _ => .error none

/-- Reads what elements of a type may contain. -/
def readContent (t : Text) : Except Stop (Unit × Text) :=
  match (after? "EMPTY" t).or (after? "ANY" t) with
  | some rest => .ok ((), rest)
  | none => do
      let inner ← orStop (after? "(" t)
      match after? "#PCDATA" (skipGap inner) with
      | some rest => readMixed (rest.length + 1) false rest
      | none => readModel none (maxModelDepth - 1) (inner.length + 1) inner

/-- Reads the declaration of an element type after its keyword and gives its name. -/
def readElementType (t : Text) : Except Stop (Text × Text) := do
  let (name, t) ← readName (← orStop (gap? t))
  let (_, t) ← readContent (← orStop (gap? t))
  return (name, ← orStop (after? ">" (skipGap t)))

end Iconsmith.Markup
