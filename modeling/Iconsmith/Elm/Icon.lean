import Iconsmith.Assets.Load

set_option autoImplicit false

/-!
# Functions for icons

A generated icon becomes a function of the weight with one branch for each of the
six, and an alias becomes a second name for it. Both are headed by a comment that
shows a preview of the icon.
-/

namespace Iconsmith.Elm

/-- An icon with the expression for each of its weights. -/
structure Generated where
  entry : Entry
  expressions : Table Weight Text

/-- The names that the icon exports. -/
def Generated.exportedNames (icon : Generated) : List Text := icon.entry.exportedNames

/-- The comment that shows an icon, whose pictures are found below `previews`. -/
def previewComment (previews name slug : Text) : Text :=
  "\x7b-| ![".toList ++ name ++ "](".toList ++ previews ++ '/' :: slug ++ ".svg)\n-\x7d\n".toList

/-- The branch for a weight. -/
def branch (weight : Weight) (expression : Text) : Text :=
  "                ".toList ++ weight.label ++ " ->\n                    ".toList ++ expression ++
    "\n\n".toList

/-- The branches for weights, if each has an expression. -/
def branches? (expressions : Table Weight Text) (weights : List Weight) : Option (List Text) :=
  weights.mapM fun w => (expressions.get? w).map (branch w)

/-- The function for an icon with some branches. -/
def iconFunction (previews : Text) (entry : Entry) (branches : List Text) : Text :=
  previewComment previews entry.camel entry.slug ++ entry.camel ++ " : Icon\n".toList ++
    entry.camel ++ " weight =\n    let\n        elements =\n            case weight of\n".toList ++
    branches.flatten ++ "    in\n    makeBuilder elements\n\n\n".toList

/-- The function for an icon, if each weight has an expression. -/
def iconFunction? (previews : Text) (icon : Generated) : Option Text :=
  (branches? icon.expressions Weight.all).map (iconFunction previews icon.entry)

/-- The function that re-exports an icon under its alias, if it has one. -/
def aliasFunction? (previews : Text) (entry : Entry) : Option Text :=
  entry.aka.map fun aka =>
    previewComment previews aka.camel entry.slug ++ aka.camel ++ " : Icon\n".toList ++
      aka.camel ++ " =\n    ".toList ++ entry.camel ++ "\n\n\n".toList

end Iconsmith.Elm
