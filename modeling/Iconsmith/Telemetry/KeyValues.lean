import Iconsmith.Table
import Iconsmith.Text.Blank

set_option autoImplicit false

/-!
# Lists of keys and values

A list such as `a=1,b=2`. Items without an equals sign are skipped, blanks around
keys and values do not count, and the last of several values of a key does.
-/

namespace Iconsmith.Telemetry

/-- The key and value of an item, if it has an equals sign. -/
def keyValue? (item : Text) : Option (Text × Text) :=
  (Text.cutFirst '=' item).map fun (key, value) => (Text.strip key, Text.strip value)

/-- The keys and values of a list. -/
def keyValues (raw : Text) : Table Text Text :=
  Table.ofList ((Text.fields ',' raw).filterMap keyValue?)

end Iconsmith.Telemetry
