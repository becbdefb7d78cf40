import Iconsmith.Markup.Document

set_option autoImplicit false

/-!
# Reading drawings

A drawing is a document whose root element is called `svg`, in whatever namespace.
-/

namespace Iconsmith.Drawing

/-- The name of the root of a drawing. -/
def rootName : Text := "svg".toList

/-- Why a text is no drawing: it is no document, or its root is something else. -/
inductive Fault where
  | unreadable (fault : Markup.Document.Fault)
  | otherRoot (name : Text)
  deriving DecidableEq

/-- The wording of a fault, with what is told of a fault in the markup. Names that cannot
be told are not expected and have no wording. -/
def Fault.message? : Fault → Option Text
  | .unreadable .malformed => some "Error parsing SVG".toList
  | .unreadable (.noted words line column) =>
      let line := Text.ofNat line
      some ("Error parsing SVG\n".toList ++ words ++ ", line ".toList ++ line ++
        ", column ".toList ++ Text.ofNat column ++ " (<string>, line ".toList ++ line ++ [')'])
  | .unreadable .untellable => none
  | .otherRoot name => some ("Root element was ".toList ++ name)

/-- The drawing that a text writes. -/
def read (t : Text) : Except Fault Markup.Element :=
  match Markup.Document.parse t with
  | .error fault => .error (.unreadable fault)
  | .ok root => if root.name = rootName then .ok root else .error (.otherRoot root.name)

theorem read_eq_ok {t : Text} {root : Markup.Element} :
    read t = .ok root ↔ Markup.Document.parse t = .ok root ∧ root.name = rootName := by
  rw [read]
  constructor
  · intro h
    split at h
    · cases h
    · rename_i parsed hparse
      split at h
      · rename_i hname
        cases h
        exact ⟨hparse, hname⟩
      · cases h
  · rintro ⟨hparse, hname⟩
    simp only [hparse, hname, if_true]

end Iconsmith.Drawing
