import Iconsmith.Markup.Doctype.Subset

set_option autoImplicit false

/-!
# Pieces of a document

A document is cut into pieces: tags, character data, references, asides and the
document type. `Piece.read` takes one piece off the head of a text, and `pieces`
cuts a whole text. Whether the pieces make a document is decided elsewhere.
-/

namespace Iconsmith.Markup

/-- An attribute as written in a tag; `left` characters of the text follow it. -/
structure Written where
  raw : Text
  value : List Part
  left : Nat
  deriving DecidableEq

/-- How an opening tag ends: it leaves the element open, it closes it, or it breaks
off. -/
inductive Ending where
  | opened
  | closed
  | broken
  deriving DecidableEq

/-- The kinds of what cannot be read. -/
inductive Kind where
  | aside
  | doctype
  | opening
  | other
  deriving DecidableEq

/-- A piece of a document. Tags and references know how many characters of the text follow
them. What could not be read comes last. -/
inductive Piece where
  | opening (raw : Text) (attributes : List Written) (ending : Ending) (left : Nat)
  | closing (raw : Text)
  | data (t : Text)
  | reference (part : Part) (left : Nat)
  | comment
  | instruction (target : Text)
  | verbatim
  | doctype (d : Doctype)
  | broken (kind : Kind) (stop : Stop)

/-! ## Tags -/

/-- The end of an opening tag at the head of a text, and what follows. -/
def tagEnd? : Text → Option (Ending × Text)
  | '>' :: rest => some (.opened, rest)
  | '/' :: '>' :: rest => some (.closed, rest)
  | _ => none

/-- Reads an attribute. -/
def readAttribute (t : Text) : Reading Written :=
  match readName t with
  | .error s => .error s
  | .ok (raw, t) =>
      match equals? t with
      | none => .error none
      | some t =>
          match readValue t with
          | .ok (value, rest) => .ok (⟨raw, value, rest.length⟩, rest)
          | .error s => .error s

/-- What has been read of an opening tag: its attributes, and its end with the text that
follows it, or why reading stopped. -/
structure TagReading where
  attributes : List Written
  ending : Except Stop (Ending × Text)

/-- Reads attributes up to the end of the tag, each after white space. -/
def attributesFrom : Nat → Text → TagReading
  | 0, _ => ⟨[], .error none⟩
  | steps + 1, t =>
      match tagEnd? (skipGap t) with
      | some ending => ⟨[], .ok ending⟩
      | none =>
          match gap? t with
          | none | some [] | some ('\x00' :: _) => ⟨[], .error none⟩
          | some t =>
              match readAttribute t with
              | .error s => ⟨[], .error s⟩
              | .ok (first, t) =>
                  let others := attributesFrom steps t
                  ⟨first :: others.attributes, others.ending⟩

/-- What has been read off a text: pieces, and the text that follows, if reading has not
stopped. -/
abbrev Cut := List Piece × Option Text

/-- Reading has stopped. -/
def Cut.stopped (kind : Kind) (s : Stop) : Cut := ([.broken kind s], none)

/-- Reads an opening tag after its bracket. -/
def cutOpening (t : Text) : Cut :=
  match readName t with
  | .error s => Cut.stopped .opening s
  | .ok (raw, t) =>
      match attributesFrom (t.length + 1) t with
      | ⟨attributes, .ok (ending, rest)⟩ =>
          ([.opening raw attributes ending (rest.length + if ending = .closed then 2 else 1)],
            some rest)
      | ⟨attributes, .error s⟩ =>
          ([.opening raw attributes .broken 0, .broken .opening s], none)

/-- Reads a closing tag after its bracket and slash. -/
def readClosingTag (t : Text) : Reading Text :=
  match readName t with
  | .error s => .error s
  | .ok (raw, t) =>
      match skipGap t with
      | '>' :: rest => .ok (raw, rest)
      | _ => .error none

/-! ## Character data -/

/-- Reads character data up to the next tag or reference. The end mark of verbatim
text does not occur in it. -/
def readData : Text → Reading Text
  | [] => .ok ([], [])
  | c :: rest =>
      if c = '<' || c = '&' then .ok ([], c :: rest)
      else if (after? "]]>" (c :: rest)).isSome then .error none
      else if isChar c then
        match readData rest with
        | .ok (data, rest) => .ok (c :: data, rest)
        | .error s => .error s
      else .error (stopAt (c :: rest))

/-- Why verbatim text that does not end as it should is none. `seen` is what has been
read, the latest first, of which two characters are kept back; when there are no two,
nothing is told. -/
def unfinishedVerbatim (seen : Text) (left : Nat) : Stop :=
  match seen with
  | _ :: _ :: before => some ⟨excerpt before, left⟩
  | _ => none

/-- Reads verbatim text up to its end mark. `seen` is what has been read, the latest
first. -/
def verbatimFrom : Text → Text → Reading Unit
  | seen, [] => .error (unfinishedVerbatim seen 0)
  | seen, c :: rest =>
      match after? "]]>" (c :: rest) with
      | some after => .ok ((), after)
      | none =>
          if c = '\r' then
            if rest.head? = some '\n' then verbatimFrom seen rest
            else verbatimFrom ('\n' :: seen) rest
          else if isChar c then verbatimFrom (c :: seen) rest
          else .error ((stopAt (c :: rest)).or (unfinishedVerbatim seen (rest.length + 1)))

/-! ## Pieces -/

/-- The pieces for a reading. -/
def asPiece {α : Type} (kind : Kind) (piece : α → Nat → Piece) : Reading α → Cut
  | .ok (a, rest) => ([piece a rest.length], some rest)
  | .error s => Cut.stopped kind s

/-- Cuts the piece at the head of a text, in a document that is declared to stand `alone`
or not. -/
def Piece.read (alone : Bool) (t : Text) : Cut :=
  match t with
  | '<' :: '/' :: rest => asPiece .other (fun raw _ => .closing raw) (readClosingTag rest)
  | '<' :: '?' :: rest =>
      asPiece .aside (fun target _ => .instruction target) (readInstruction rest)
  | '<' :: '!' :: rest =>
      match after? "--" rest, after? "[CDATA[" rest, after? "DOCTYPE" rest with
      | some body, _, _ => asPiece .aside (fun _ _ => .comment) (readComment body)
      | _, some body, _ => asPiece .other (fun _ _ => .verbatim) (verbatimFrom [] body)
      | _, _, some body => asPiece .doctype (fun d _ => .doctype d) (Doctype.read alone body)
      | _, _, _ => Cut.stopped .opening none
  | '<' :: rest => cutOpening rest
  | '&' :: rest => asPiece .other .reference (readReference rest)
  | _ => asPiece .other (fun data _ => .data data) (readData t)

/-- Cuts a text into pieces in a number of steps. -/
def piecesFrom (alone : Bool) : Nat → Text → List Piece
  | _, [] => []
  | 0, _ => [.broken .other none]
  | steps + 1, t =>
      match Piece.read alone t with
      | (found, none) => found
      | (found, some rest) => found ++ piecesFrom alone steps rest

/-- Cuts a text into pieces. When it cannot be read to its end, the last piece says why. A
piece has at least one character, so the length of the text is steps enough. -/
def pieces (alone : Bool) (t : Text) : List Piece := piecesFrom alone t.length t

end Iconsmith.Markup
