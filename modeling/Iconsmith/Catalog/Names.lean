import Iconsmith.Text.Blank
import Iconsmith.Text.Case

set_option autoImplicit false

/-!
# Names in generated code

A slug such as `arrow-up` becomes the pascal name `ArrowUp`, and a pascal name
becomes the function name `arrowUp`.
-/

namespace Iconsmith.Catalog

/-- A pascal name with its first character made small. A leading line feed is
kept, and what follows it is not the start of the name. -/
def camelName : Text → Text
  | [] => []
  | c :: rest => if c = '\n' then c :: rest else Text.small c ++ rest

/-- Characters between the words of a slug: hyphens, underscores and blanks. -/
def isWordGap (c : Char) : Bool := c = '-' || c = '_' || Text.isBlank c

/-- The words of a slug without the gaps, each with its first character made a
capital; `fresh` tells that a word begins here. -/
def pascalFrom (fresh : Bool) : Text → Text
  | [] => []
  | c :: rest =>
      if isWordGap c then pascalFrom true rest
      else (if fresh then Text.capital c else [c]) ++ pascalFrom false rest

/-- The pascal name of a slug. -/
def pascalName (slug : Text) : Text := pascalFrom true slug

end Iconsmith.Catalog
