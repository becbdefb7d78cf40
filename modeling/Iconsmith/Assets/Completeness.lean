import Iconsmith.Assets.Load

set_option autoImplicit false

/-!
# Completeness of records

A record is complete when its keys name the six weights, each once. Keys are
weights or names of weights. `missing` lists what a record lacks, and it may be
empty although the record is not complete.
-/

namespace Iconsmith.Assets

/-- A key of a record: a weight, or a text that may name one. -/
inductive WeightKey where
  | weight (w : Weight)
  | named (name : Text)
  deriving DecidableEq

/-- The weight of a key. -/
def WeightKey.weight? : WeightKey → Option Weight
  | .weight w => some w
  | .named name => Weight.ofName? name

/-- Whether keys name all weights besides those in `seen`, each once. -/
def completes (seen : List Weight) : List WeightKey → Bool
  | [] => seen.length == Weight.all.length
  | key :: keys =>
      match key.weight? with
      | none => false
      | some w => !seen.contains w && completes (w :: seen) keys

/-- Whether keys name the six weights, each once. -/
def isComplete (keys : List WeightKey) : Bool := completes [] keys

/-- The weights that no key names, in canonical order. -/
def missing (keys : List WeightKey) : List Weight :=
  Weight.all.filter fun w => !(keys.filterMap WeightKey.weight?).contains w

/-- The keys of a record. -/
def keysOf (record : Record) : List WeightKey := record.keys.map .weight

end Iconsmith.Assets
