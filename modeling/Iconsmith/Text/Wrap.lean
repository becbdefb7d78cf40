import Iconsmith.Text.Alphanumeric
import Iconsmith.Text.Blank
import Iconsmith.Text.Digit

set_option autoImplicit false

/-!
# Filling lines

A paragraph is cut into chunks between which a line may end: words, parts of words
after a hyphen between letters, dashes, and the white space between them. Lines
take as many chunks as fit, and a chunk that is longer than a line is cut.
-/

namespace Iconsmith.Text

/-! ## Characters -/

/-- White space between the words of a paragraph. -/
def isSpacing (c : Char) : Bool :=
  c = ' ' || c = '\t' || c = '\n' || c = '\x0b' || c = '\x0c' || c = '\r'

/-- Characters of words: letters, numbers and underscores. -/
def isWordChar (c : Char) : Bool := c = '_' || isAlphanumeric c

/-- Characters of words that are not digits; among these, hyphens part a word. -/
def isWordLetter (c : Char) : Bool := isWordChar c && !isDigit c

/-- Characters before a dash: those of words and common punctuation. -/
def isBeforeDash (c : Char) : Bool := isWordChar c || "!\"'&.,?".toList.contains c

/-! ## Chunks -/

/-- The dash at the head of a text: at least two hyphens with a word after them. -/
def dash? (t : Text) : Option (Text × Text) :=
  match t.span (· = '-') with
  | (hyphens, c :: rest) =>
      if 2 ≤ hyphens.length && isWordChar c then some (hyphens, c :: rest) else none
  | (_, []) => none

/-- Whether a line may end after a hyphen: two letters, or a letter, a hyphen and a
letter, come before it, and two letters, perhaps with a hyphen between, after it.
`before` is the text before the hyphen, read backwards. -/
def partsWord (before after : Text) : Bool :=
  let left :=
    match before with
    | a :: b :: c :: _ =>
        isWordLetter a && (isWordLetter b || (b = '-' && isWordLetter c))
    | [a, b] => isWordLetter a && isWordLetter b
    | _ => false
  let right :=
    match after with
    | a :: b :: c :: _ => isWordLetter a && (isWordLetter b || (b = '-' && isWordLetter c))
    | [a, b] => isWordLetter a && isWordLetter b
    | _ => false
  left && right

/-- Cuts off a word after at least one character of it: at a hyphen that parts it,
before white space, or before a dash. -/
def wordEnd (before : Text) : Text → Text × Text
  | [] => ([], [])
  | c :: rest =>
      if c = '-' && partsWord before rest then (['-'], rest)
      else if isSpacing c then ([], c :: rest)
      else if before.head?.any isBeforeDash && (dash? (c :: rest)).isSome then ([], c :: rest)
      else
        let (word, after) := wordEnd (c :: before) rest
        (c :: word, after)

/-- The chunk at the head of a text, and what follows it. -/
def chunk (before : Text) (t : Text) : Text × Text :=
  match t with
  | [] => ([], [])
  | c :: rest =>
      if isSpacing c then t.span isSpacing
      else
        match if before.head?.any isBeforeDash then dash? t else none with
        | some found => found
        | none =>
            let (word, after) := wordEnd (c :: before) rest
            (c :: word, after)

/-- Cuts a text into chunks in a number of steps. -/
def chunksFrom : Nat → Text → Text → List Text
  | 0, _, _ | _, _, [] => []
  | steps + 1, before, t =>
      let (first, rest) := chunk before t
      first :: chunksFrom steps (first.reverse ++ before) rest

/-- The chunks of a paragraph. Each has a character at least, so the length of the
text is steps enough. -/
def chunks (t : Text) : List Text := chunksFrom t.length [] t

/-! ## Lines -/

/-- The chunks that fit on a line of some width, and the others. -/
def fitting : Nat → List Text → List Text × List Text
  | _, [] => ([], [])
  | width, c :: more =>
      if c.length ≤ width then
        let (line, others) := fitting (width - c.length) more
        (c :: line, others)
      else ([], c :: more)

/-- Where a chunk is cut that is longer than a line on which `room` characters are
left: after the last hyphen that has something other than hyphens before it, or
else where the line ends. -/
def cutPoint (room : Nat) (t : Text) : Nat :=
  match cutLast '-' (t.take room) with
  | some (before, _) => if before.any (· ≠ '-') then before.length + 1 else room
  | none => room

/-- The last of some chunks dropped if it is nothing but blanks. -/
def dropBlankLast (line : List Text) : List Text :=
  match line.getLast? with
  | some last => if last.all isBlank then line.dropLast else line
  | none => line

/-- The first of some chunks dropped if it is nothing but blanks. -/
def dropBlankFirst : List Text → List Text
  | first :: more => if first.all isBlank then more else first :: more
  | [] => []

/-- One line of some width, and the chunks after it. -/
def takeLine (width : Nat) (all : List Text) : Text × List Text :=
  match fitting width all with
  | (line, long :: more) =>
      if width < long.length then
        let cut := cutPoint (width - line.flatten.length) long
        ((dropBlankLast (line ++ [long.take cut])).flatten, long.drop cut :: more)
      else ((dropBlankLast line).flatten, long :: more)
  | (line, []) => ((dropBlankLast line).flatten, [])

/-- Fills lines in a number of steps. Lines after the first do not begin with white
space, and lines without a character are left out. -/
def linesFrom (width : Nat) : Nat → List Text → List Text
  | 0, _ | _, [] => []
  | steps + 1, all =>
      let (line, rest) := takeLine width all
      let later := linesFrom width steps (dropBlankFirst rest)
      if line = [] then later else line :: later

/-- A paragraph in lines of some width. -/
def wrapped (width : Nat) (t : Text) : List Text := linesFrom width (2 * t.length) (chunks t)

/-- A text with each run of white space made a single space and none at its ends. -/
def asParagraph (t : Text) : Text :=
  let rec collapse (inRun : Bool) : Text → Text
    | [] => []
    | c :: rest =>
        if isSpacing c then (if inRun then [] else [' ']) ++ collapse true rest
        else c :: collapse false rest
  strip (collapse false t)

end Iconsmith.Text
