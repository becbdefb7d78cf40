import Iconsmith.Text.Digit

set_option autoImplicit false

/-!
# Cleaning drawings

Four cleanings of the raw text of a drawing, which know nothing of its markup: the
declaration is taken off the first line, the rectangle that fills the background
goes, what is left of titles goes, and colours that are all zeros become the
colour of the surrounding text.
-/

namespace Iconsmith.Drawing

/-! ## Declaration -/

/-- What follows the last declaration of a line: the text after the first closing
bracket that comes after its opening. -/
def afterDeclaration? : Text → Option Text
  | [] => none
  | c :: rest =>
      match afterDeclaration? rest with
      | some after => some after
      | none =>
          match "<?xml".toList.isPrefixOf? (c :: rest) with
          | some body => (Text.cutFirst '>' body).map Prod.snd
          | none => none

/-- The text without the declaration on its first line and all before it. -/
def withoutDeclaration (t : Text) : Text :=
  match afterDeclaration? (t.takeWhile (· ≠ '\n')) with
  | some after => after ++ t.dropWhile (· ≠ '\n')
  | none => t

/-! ## Background -/

/-- Characters of a length. -/
def isLengthChar (c : Char) : Bool := Text.isDigit c || c = ',' || c = '.'

/-- The text after a length that begins with 25 and goes on, at the head of a text
that follows its opening quote, and after the closing quote. -/
def afterLength? (t : Text) : Option Text :=
  match "25".toList.isPrefixOf? t with
  | some (c :: rest) =>
      match isLengthChar c, rest.dropWhile isLengthChar with
      | true, '"' :: after => some after
      | _, _ => none
  | _ => none

/-- The text after the end of an empty tag that ends on this line. -/
def afterEmptyTag? : Text → Option Text
  | [] => none
  | '/' :: '>' :: rest => some rest
  | c :: rest => if c = '\n' then none else afterEmptyTag? rest

/-- The text after a background rectangle at its head. -/
def afterBackground? (t : Text) : Option Text := do
  let t ← "<rect width=\"".toList.isPrefixOf? t
  let t ← afterLength? t
  let t ← " height=\"".toList.isPrefixOf? t
  let t ← afterLength? t
  let t ← " fill=\"none\"".toList.isPrefixOf? t
  afterEmptyTag? t

/-- The length of a background rectangle at the head of a text. -/
def backgroundSpan (t : Text) : Option Nat :=
  (afterBackground? t).map fun after => t.length - after.length

/-- The text without rectangles that fill the background. -/
def withoutBackground (t : Text) : Text := Text.replaceSpans backgroundSpan [] 0 t

/-! ## Titles -/

/-- The text without openings of title tags. What else belongs to a title stays. -/
def withoutTitle (t : Text) : Text := Text.replaceAll "<title".toList [] t

/-! ## Colours -/

/-- The length of a quoted colour of zeros at the head of a text. -/
def zeroColourSpan : Text → Option Nat
  | '"' :: '#' :: '0' :: rest =>
      match rest.dropWhile (· = '0') with
      | '"' :: _ => some ((rest.takeWhile (· = '0')).length + 4)
      | _ => none
  | _ => none

/-- The text in which quoted colours of zeros have become the current colour. -/
def withCurrentColour (t : Text) : Text :=
  Text.replaceSpans zeroColourSpan "\"currentColor\"".toList 0 t

/-! ## All cleanings -/

/-- The text after all four cleanings. -/
def clean (t : Text) : Text :=
  withCurrentColour (withoutTitle (withoutBackground (withoutDeclaration t)))

end Iconsmith.Drawing
