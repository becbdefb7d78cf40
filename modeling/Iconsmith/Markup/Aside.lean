import Iconsmith.Markup.Complaint
import Iconsmith.Text.Utf8

set_option autoImplicit false

/-!
# Asides

Comments and processing instructions say nothing about the drawing, but they have
a form to keep. Their readers begin after the opening and end after the close.
-/

namespace Iconsmith.Markup

/-! ## Comments -/

/-- How many bytes of a text are told when its end is missing. -/
def excerptSize : Nat := 50

/-- The beginning of a comment or of verbatim text, as it is told. `seen` is what has been
read, the latest first. -/
def excerpt (seen : Text) : Text := Text.Utf8.clipped excerptSize seen.reverse

/-- Why a comment that has no end is no comment. Of the text after its ASCII part the two
latest characters are kept back; when there are none yet, nothing is told. -/
def unfinishedComment (wide : Nat) (seen : Text) : Stop :=
  if wide < 2 then none else some ⟨"<!--".toList ++ excerpt (seen.drop 2), 0⟩

/-- Reads a comment from its first character beyond ASCII on. `seen` is what has been read,
the latest first, and `wide` the number of characters read here. -/
def wideCommentFrom : Nat → Text → Text → Reading Unit
  | wide, seen, [] => .error (unfinishedComment wide seen)
  | wide, seen, c :: rest =>
      match after? "--" (c :: rest) with
      | some ('>' :: after) => .ok ((), after)
      | some (d :: after) => .error (stopAt (d :: after))
      | _ =>
          if c = '\r' then
            if rest.head? = some '\n' then wideCommentFrom wide seen rest
            else wideCommentFrom (wide + 1) ('\n' :: seen) rest
          else if isChar c then wideCommentFrom (wide + 1) (c :: seen) rest
          else .error (stopAt (c :: rest))

/-- Characters of the ASCII part of a comment. -/
def isPlain (c : Char) : Bool := c = '\t' || c = '\n' || (' ' ≤ c && c ≤ '\x7f')

/-- Reads a comment. Two hyphens occur only at its end; `seen` is what has been read, the
latest first. -/
def commentFrom : Text → Text → Reading Unit
  | _, [] => .error none
  | seen, c :: rest =>
      match after? "--" (c :: rest) with
      | some ('>' :: after) => .ok ((), after)
      | some _ => .error (noteOf (excerpt seen) (rest.length + 1))
      | none =>
          if c = '\r' && rest.head? = some '\n' then commentFrom seen rest
          else if isPlain c then commentFrom (c :: seen) rest
          else wideCommentFrom 0 seen (c :: rest)

/-- Reads a comment. -/
def readComment (t : Text) : Reading Unit := commentFrom [] t

/-! ## Instructions -/

/-- Reads characters up to a literal and the literal itself. -/
def readUpTo (close : String) : Text → Reading Unit
  | [] => .error none
  | c :: rest =>
      match after? close (c :: rest) with
      | some after => .ok ((), after)
      | none => if isChar c then readUpTo close rest else .error (stopAt (c :: rest))

/-- Whether a name begins like the reserved one, in any case of letters. -/
def isNearReserved (target : Text) : Bool := (target.take 3).map Char.toLower == "xml".toList

/-- The targets that begin like the reserved name and have been given a meaning. -/
def knownTargets : List Text := ["xml-stylesheet".toList, "xml-model".toList]

/-- The complaints about the target of an instruction: names that begin like the reserved
one are left to standards, and a target has no space. -/
def targetComplaints (target : Text) : List Complaint :=
  (if isNearReserved target && !knownTargets.contains target then [.warning] else []) ++
    if target.contains ':' then [.error] else []

/-- Reads an instruction and gives its target, which is not the reserved name. -/
def readInstruction (t : Text) : Reading Text :=
  match readName t with
  | .error s => .error s
  | .ok (target, t) =>
      if isNearReserved target && target.length = 3 then .error none
      else
        match after? "?>" t, gap? t with
        | some rest, _ => .ok (target, rest)
        | none, none => .error none
        | none, some t =>
            match readUpTo "?>" t with
            | .ok (_, rest) => .ok (target, rest)
            | .error s => .error (if target.contains ':' then none else s)

end Iconsmith.Markup
