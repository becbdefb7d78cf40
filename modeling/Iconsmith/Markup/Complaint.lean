import Iconsmith.Markup.Scan

set_option autoImplicit false

/-!
# Complaints

Some faults do not end the reading of a document. They are complained about, and the
reading goes on. In the end the last complaint decides: a document is read when it is
a mere warning, or when there was none. Only so many complaints of each kind are
recorded. When a document is not read, what is told is the first error.
-/

namespace Iconsmith.Markup

/-- How grave a complaint is. -/
inductive Severity where
  | warning
  | error
  deriving DecidableEq

/-- A complaint, and what is told of it. -/
structure Complaint where
  severity : Severity
  note : Stop
  deriving DecidableEq

namespace Complaint

/-- A warning. -/
def warning : Complaint := ⟨.warning, none⟩

/-- An error of which nothing is told. -/
def error : Complaint := ⟨.error, none⟩

end Complaint

/-- The complaints about a document so far, the latest first. -/
structure Complaints where
  latestFirst : List Complaint
  deriving DecidableEq

namespace Complaints

/-- No complaints. -/
def none : Complaints := ⟨[]⟩

/-- How many complaints of a severity are recorded. -/
def limit : Nat := 100

/-- The number of complaints of a severity. -/
def count (r : Complaints) (s : Severity) : Nat :=
  r.latestFirst.countP fun c => c.severity = s

/-- The complaints with one more, if it is still recorded. -/
def add (r : Complaints) (c : Complaint) : Complaints :=
  if r.count c.severity < limit then ⟨c :: r.latestFirst⟩ else r

/-- The complaints with more of them, in order. -/
def addAll (r : Complaints) (cs : List Complaint) : Complaints := cs.foldl add r

/-- The complaints with those of a later part of the document. -/
def append (r later : Complaints) : Complaints := r.addAll later.latestFirst.reverse

/-- Whether there is an error among the complaints. -/
def hasError (r : Complaints) : Bool := r.latestFirst.any fun c => c.severity = .error

/-- The first error. -/
def firstError? (r : Complaints) : Option Complaint :=
  r.latestFirst.reverse.find? fun c => c.severity = .error

/-- Whether the document may be read in spite of the complaints. -/
def areForgiven (r : Complaints) : Bool :=
  r.latestFirst.head?.all fun c => c.severity = .warning

/-- What is told when reading stops: the first error, if there was one before. -/
def blame (r : Complaints) (s : Stop) : Stop :=
  match r.firstError? with
  | some c => c.note
  | .none => s

/-- Reading stops. -/
def stop {α : Type} (r : Complaints) (s : Stop) : Except Stop α := .error (r.blame s)

/-- A fault inside the text of an entity is told where the entity is named, when `left`
characters are unread, unless there was an error before. -/
def outward (r : Complaints) (left : Nat) (s : Stop) : Stop :=
  if r.hasError then s else s.map fun note => ⟨note.words, left⟩

/-! ## Equations -/

@[simp] theorem addAll_nil (r : Complaints) : r.addAll [] = r := rfl

@[simp] theorem addAll_cons (r : Complaints) (c : Complaint) (cs : List Complaint) :
    r.addAll (c :: cs) = (r.add c).addAll cs := rfl

theorem addAll_append (r : Complaints) (cs ds : List Complaint) :
    r.addAll (cs ++ ds) = (r.addAll cs).addAll ds := List.foldl_append

end Complaints

end Iconsmith.Markup
