import Iconsmith.Disk.Tree

set_option autoImplicit false

/-!
# Differences between trees

What has to be written to turn one tree into another, and what has to be removed.
-/

namespace Iconsmith.Disk.Tree

/-- The items of the tree `after` that are not the same in the tree `before`, in order. -/
def written (before after : Tree) : List (Place × Item) :=
  after.entries.rows.filter fun (place, item) => before.get? place ≠ some item

/-- The places of the tree `before` at which the tree `after` has nothing, in order. -/
def removed (before after : Tree) : List Place :=
  before.entries.keys.filter fun place => (after.get? place).isNone

end Iconsmith.Disk.Tree
