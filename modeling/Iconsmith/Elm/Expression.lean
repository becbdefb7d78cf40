import Iconsmith.Markup.Document
import Iconsmith.Text.Case

set_option autoImplicit false

/-!
# Expressions for drawings

A drawing becomes the Elm expression for the list of its elements, on one line:
each element is applied to the list of its attributes and the list of its
children. An element called `svg` stands for its children alone, since the module
around the expression has an element of that kind of its own.
-/

namespace Iconsmith.Elm

/-! ## Names -/

/-- Words that cannot name an attribute. -/
def keywords : List Text :=
  ["type", "in", "let", "case", "of", "if", "then", "else", "module", "import", "port"].map
    String.toList

/-- A name without its hyphens, where the character after each has become a capital.
A hyphen before a line feed or at the end stays. -/
def humped : Text → Text
  | '-' :: c :: rest =>
      if c = '\n' then '-' :: c :: humped rest else Text.capital c ++ humped rest
  | c :: rest => c :: humped rest
  | [] => []

/-- The name of the function for an attribute. -/
def attributeName (name : Text) : Text :=
  if keywords.contains (humped name) then humped name ++ ['_'] else humped name

/-! ## Literals and lists -/

/-- A character in a string literal. -/
def escapedChar (c : Char) : Text := if c = '\\' || c = '"' then ['\\', c] else [c]

/-- The string literal of a text. -/
def stringLiteral (t : Text) : Text := '"' :: t.flatMap escapedChar ++ ['"']

/-- The list of some expressions. -/
def listOf : List Text → Text
  | [] => ['[', ']']
  | items => "[ ".toList ++ Text.joined [',', ' '] items ++ " ]".toList

/-! ## Elements -/

/-- The expressions for attributes. -/
def attributes (table : Table Text Text) : List Text :=
  table.rows.map fun (name, value) =>
    "A.".toList ++ attributeName name ++ ' ' :: stringLiteral value

mutual

/-- The expression for an element. -/
def element : Markup.Element → Text
  | .mk name table children =>
      if name = "svg".toList then listOf (elements children)
      else
        "S.".toList ++ name ++ ' ' :: listOf (attributes table) ++ ' ' :: listOf (elements children)

/-- The expressions for elements. -/
def elements : List Markup.Element → List Text
  | [] => []
  | e :: rest => element e :: elements rest

end

end Iconsmith.Elm
