import Iconsmith.Text.Blank
import Iconsmith.Text.Case

set_option autoImplicit false

/-!
# Weights

The six visual variants of an icon, their names, and the suffixes that mark them
in file names. A file stem is split in two ways: `Weight.stripSuffix` removes the
suffix of a weight that is known from the folder, and `Weight.splitSuffix` finds
the weight from the stem alone.
-/

namespace Iconsmith

/-- Visual weight of an icon. -/
inductive Weight where
  | thin
  | light
  | regular
  | bold
  | fill
  | duotone
  deriving DecidableEq, Repr

namespace Weight

/-- The weights in the order in which generated code lists them. -/
def all : List Weight := [.thin, .light, .regular, .bold, .fill, .duotone]

theorem mem_all (w : Weight) : w ∈ all := by cases w <;> decide

/-- The name of a weight, as in folder names. -/
def name : Weight → Text
  | .thin => "thin".toList
  | .light => "light".toList
  | .regular => "regular".toList
  | .bold => "bold".toList
  | .fill => "fill".toList
  | .duotone => "duotone".toList

/-- The constructor of a weight in generated code: its name with a capital. -/
def label : Weight → Text
  | .thin => "Thin".toList
  | .light => "Light".toList
  | .regular => "Regular".toList
  | .bold => "Bold".toList
  | .fill => "Fill".toList
  | .duotone => "Duotone".toList

/-- The suffix of file stems of a weight. Regular files carry none. -/
def fileSuffix : Weight → Text
  | .regular => []
  | w => '-' :: w.name

/-- The weight with a given name. Blanks around the name and the case of its
letters do not matter. -/
def ofName? (name : Text) : Option Weight :=
  all.find? fun w => w.name == Text.folded (Text.strip name)

theorem ofName?_name (w : Weight) : ofName? w.name = some w := by cases w <;> decide

/-! ## File stems -/

/-- A stem without the suffix of the weight, if the stem ends with it and has more
to it. -/
def stripSuffix (w : Weight) (stem : Text) : Text :=
  if w.fileSuffix.isSuffixOf stem && w.fileSuffix.length < stem.length then
    stem.take (stem.length - w.fileSuffix.length)
  else stem

/-- A stem cut at its last hyphen, when what follows names a weight and something
precedes; otherwise the whole stem and no weight. -/
def splitSuffix (stem : Text) : Text × Option Weight :=
  match Text.cutLast '-' stem with
  | some (base, token) =>
      match ofName? token, base with
      | some w, _ :: _ => (base, some w)
      | _, _ => (stem, none)
  | none => (stem, none)

end Weight

end Iconsmith
