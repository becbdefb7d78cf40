import Iconsmith.Markup.Name

set_option autoImplicit false

/-!
# Scanning

The small readers of which all readers of markup are made: each looks at the head
of a text and gives the text that follows. A reader that fails gives nothing, or
says why it stopped.
-/

namespace Iconsmith.Markup

/-! ## Readers that may fail -/

/-- The text after a literal at its head. -/
def after? (literal : String) (t : Text) : Option Text := literal.toList.isPrefixOf? t

/-- The text after the white space at its head. -/
def skipGap (t : Text) : Text := t.dropWhile isGap

/-- The text after at least one character of white space. -/
def gap? : Text → Option Text
  | c :: rest => if isGap c then some (skipGap rest) else none
  | [] => none

/-- A name at the head of a text. -/
def name? (t : Text) : Option (Text × Text) :=
  match spanName t with
  | ([], _) => none
  | found => some found

/-- A literal between two quotes of one kind at the head of a text. -/
def literal? : Text → Option (Text × Text)
  | '"' :: rest => Text.cutFirst '"' rest
  | '\'' :: rest => Text.cutFirst '\'' rest
  | _ => none

/-- The text after an equals sign with white space around it. -/
def equals? (t : Text) : Option Text :=
  match skipGap t with
  | '=' :: rest => some (skipGap rest)
  | _ => none

/-! ## Readers that say why they stopped -/

/-- What is told of a fault beyond its headline: further words, and how much of the
document was unread when it was found. -/
structure Note where
  words : Text
  left : Nat
  deriving DecidableEq

/-- Why reading stopped. Of most faults nothing is told but that there is one. -/
abbrev Stop := Option Note

/-- What has been read and the unread text, or why reading stopped. -/
abbrev Reading (α : Type) := Except Stop (α × Text)

/-- The note of a fault: the words after the first line of its wording, if there are
any. -/
def noteOf (wording : Text) (left : Nat) : Stop :=
  (Text.cutFirst '\n' wording).map fun (_, words) => ⟨words, left⟩

/-- Why no character could be read at the head of a text. Of a NUL character the place
is told. -/
def stopAt (t : Text) : Stop :=
  match t with
  | '\x00' :: _ => some ⟨[], t.length⟩
  | _ => none

/-- The reading of an optional reader. -/
def orStop {α : Type} : Option α → Except Stop α
  | some a => .ok a
  | none => .error none

/-- Reads a name. A NUL character where the name could go on is not a part of it but
stops the reading. -/
def readName (t : Text) : Reading Text :=
  match spanName t with
  | (_, '\x00' :: rest) => .error (stopAt ('\x00' :: rest))
  | ([], _) => .error none
  | found => .ok found

/-- Reads a literal between quotes whose characters are those of a document. -/
def readLiteral (t : Text) : Reading Text :=
  let (close, body) :=
    match t with
    | '"' :: rest => (some '"', rest)
    | '\'' :: rest => (some '\'', rest)
    | _ => (none, t)
  match close with
  | none => .error none
  | some close =>
      let (value, rest) := body.span fun c => isChar c && c != close
      match rest with
      | [] => .error none
      | c :: after => if c = close then .ok (value, after) else .error (stopAt rest)

end Iconsmith.Markup
