import Iconsmith.Text.Basic

set_option autoImplicit false

/-!
# JSON values

What a catalog manifest can hold. A number is kept without its value: the catalog
has no numeric field, and only the presence of a number matters.
-/

namespace Iconsmith

/-- A JSON value. The members of an object are listed as they were written. -/
inductive Json where
  | null
  | bool (value : Bool)
  | number
  | string (value : Text)
  | array (items : List Json)
  | object (members : List (Text × Json))

/-- The value of a member; of several members with one name the last counts. -/
def Json.member? (name : Text) (members : List (Text × Json)) : Option Json :=
  members.reverse.lookup name

end Iconsmith
