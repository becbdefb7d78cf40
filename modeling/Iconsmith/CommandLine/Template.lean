import Iconsmith.Text.Digit
import Iconsmith.Text.Quoted

set_option autoImplicit false

/-!
# Templates

Help texts are templates. A percent sign begins a directive: two of them stand for one, and a
name in brackets before a letter stands for the value of that name, shown as the letter says.
Between the name and the letter may come flags, the least width, and after a point the greatest
number of characters or the number of digits. A value is shown as text, or as a number when it
counts as one.
-/

namespace Iconsmith.CommandLine.Template

/-! ## Values -/

/-- What a name stands for. -/
inductive Value where
  | text (t : Text)
  | texts (ts : List Text)
  | no
  | nothing
  deriving DecidableEq

/-- A value as text. Texts inside a list are quoted. -/
def Value.shown (quoted : Text → Text) : Value → Text
  | .text t => t
  | .texts ts => '[' :: Text.joined [',', ' '] (ts.map quoted) ++ [']']
  | .no => "False".toList
  | .nothing => "None".toList

/-- A value as text that tells texts from other values. -/
def Value.quoted (quoted : Text → Text) : Value → Text
  | .text t => quoted t
  | v => v.shown quoted

/-- Values with their names. -/
abbrev Values := List (Text × Value)

/-- All values with their names, as text. -/
def Values.shown (quoted : Text → Text) (values : Values) : Text :=
  '\x7b' :: Text.joined [',', ' '] (values.map fun (name, v) =>
    quoted name ++ ':' :: ' ' :: v.quoted quoted) ++ ['\x7d']

/-- What is wrong with a template: a directive that makes no sense, a name without a value, a
value that is shown as what it is not, or a directive for whose value there is no name. -/
inductive Fault where
  | badDirective
  | unknownName (name : Text)
  | wrongKind
  | nameless
  deriving DecidableEq

/-- What the next directive shows: all values, the one that was named last, or nothing. -/
inductive Supply where
  | all
  | one (v : Value)
  | used

/-- The next value, if it is a single one. -/
def Supply.next? : Supply → Except Fault (Option Value)
  | .all => .ok none
  | .one v => .ok (some v)
  | .used => .error .nameless

/-! ## Reading directives -/

/-- How a value is shown. -/
structure Directive where
  flags : Text
  width : Nat
  limit : Option Nat
  letter : Char

/-- The name at the head of a text up to the bracket that closes it, with `depth`
brackets open inside it. -/
def takeName? : Nat → Text → Option (Text × Text)
  | _, [] => none
  | 0, ')' :: rest => some ([], rest)
  | depth, c :: rest =>
      let inside := if c = '(' then depth + 1 else if c = ')' then depth - 1 else depth
      (takeName? inside rest).map fun (name, after) => (c :: name, after)

/-- The value of the name at the head of a directive, if it has one. -/
def readName (values : Values) (supply : Supply) (t : Text) :
    Except Fault (Supply × Text) :=
  match t with
  | '(' :: rest =>
      match takeName? 0 rest with
      | none => .error .badDirective
      | some (name, rest) =>
          match values.lookup name with
          | some v => .ok (.one v, rest)
          | none => .error (.unknownName name)
  | _ => .ok (supply, t)

/-- Digits of widths. -/
def isWidthDigit (c : Char) : Bool := '0' ≤ c && c ≤ '9'

/-- The number at the head of a text, zero without digits. A star takes the next value for it,
and the only value that counts as a number counts as zero. -/
def readCount (supply : Supply) (t : Text) : Except Fault (Nat × Supply × Text) :=
  match t with
  | '*' :: rest => do
      match ← supply.next? with
      | some .no => return (0, .used, rest)
      | _ => throw .wrongKind
  | _ =>
      let (digits, rest) := t.span isWidthDigit
      .ok (Text.ofDigits (digits.map fun c => c.toNat - '0'.toNat), supply, rest)

/-- The number after a point, if there is a point. -/
def readLimit (supply : Supply) (t : Text) : Except Fault (Option Nat × Supply × Text) :=
  match t with
  | '.' :: rest => (readCount supply rest).map fun (n, after) => (some n, after)
  | _ => .ok (none, supply, t)

/-- The letter at the end of a directive, after a mark of size that means nothing. -/
def readLetter : Text → Except Fault (Char × Text)
  | [] => .error .badDirective
  | [c] => if c = 'h' || c = 'l' || c = 'L' then .error .badDirective else .ok (c, [])
  | c :: d :: rest =>
      if c = 'h' || c = 'l' || c = 'L' then .ok (d, rest) else .ok (c, d :: rest)

/-- The directive after a percent sign. -/
def read (values : Values) (supply : Supply) (t : Text) :
    Except Fault (Directive × Supply × Text) := do
  let (supply, t) ← readName values supply t
  let (flags, t) := t.span fun c => "-+ #0".toList.contains c
  let (width, supply, t) ← readCount supply t
  let (limit, supply, t) ← readLimit supply t
  let (letter, t) ← readLetter t
  return (⟨flags, width, limit, letter⟩, supply, t)

/-! ## Showing values -/

/-- Whether a directive has a flag. -/
def Directive.has (d : Directive) (flag : Char) : Bool := d.flags.contains flag

/-- A text filled up to the width of a directive. -/
def Directive.fill (d : Directive) (t : Text) : Text :=
  let gap := List.replicate (d.width - t.length) ' '
  if d.has '-' then t ++ gap else gap ++ t

/-- A text cut and filled up as a directive says. -/
def Directive.fit (d : Directive) (t : Text) : Text := d.fill ((d.limit.map t.take).getD t)

/-- A number in parts: its sign, the mark of its base, and its digits. -/
structure Numeral where
  sign : Text
  mark : Text
  digits : Text

/-- A numeral filled up to the width of a directive, with zeros before its digits or with
blanks. -/
def Directive.fillNumeral (d : Directive) (n : Numeral) : Text :=
  let size := n.sign.length + n.mark.length + n.digits.length
  let zeros := if d.has '0' && !d.has '-' then List.replicate (d.width - size) '0' else []
  d.fill (n.sign ++ n.mark ++ zeros ++ n.digits)

/-- The sign that a directive gives to zero. -/
def Directive.sign (d : Directive) : Text :=
  if d.has '+' then ['+'] else if d.has ' ' then [' '] else []

/-- Zero with some decimals. The point is left out when there are none, unless `isFull`. -/
def zeroWith (decimals : Nat) (isFull : Bool) : Text :=
  if decimals = 0 && !isFull then ['0'] else '0' :: '.' :: List.replicate decimals '0'

/-- Zero as a numeral, by the letter of a directive: whole, with decimals, with an exponent, or
with the decimals that are needed. -/
def Directive.zero? (d : Directive) : Option Numeral :=
  let isFull := d.has '#'
  let decimals := d.limit.getD 6
  let whole := List.replicate (max 1 (d.limit.getD 1)) '0'
  if "diu".toList.contains d.letter then some ⟨d.sign, [], whole⟩
  else if "oxX".toList.contains d.letter then
    some ⟨d.sign, if isFull then ['0', d.letter] else [], whole⟩
  else if "fF".toList.contains d.letter then some ⟨d.sign, [], zeroWith decimals isFull⟩
  else if "eE".toList.contains d.letter then
    some ⟨d.sign, [], zeroWith decimals isFull ++ [d.letter, '+', '0', '0']⟩
  else if "gG".toList.contains d.letter then
    some ⟨d.sign, [], if isFull then zeroWith (decimals - 1) true else ['0']⟩
  else none

/-- A value that is shown as a single character. -/
def Value.char? : Value → Option Char
  | .text [c] => some c
  | .no => some '\x00'
  | _ => none

/-- Shows a value. -/
def Directive.shown (d : Directive) (v : Value) : Except Fault Text :=
  match d.letter with
  | 's' => .ok (d.fit (v.shown Text.quoted))
  | 'r' => .ok (d.fit (v.quoted Text.quoted))
  | 'a' => .ok (d.fit (v.quoted Text.quotedInAscii))
  | 'c' =>
      match v.char? with
      | some c => .ok (d.fill [c])
      | none => .error .wrongKind
  | _ =>
      match d.zero?, v with
      | some n, .no => .ok (d.fillNumeral n)
      | some _, _ => .error .wrongKind
      | none, _ => .error .badDirective

/-- Shows all values. -/
def Directive.shownAll (d : Directive) (values : Values) : Except Fault Text :=
  match d.letter with
  | 's' | 'r' => .ok (d.fit (values.shown Text.quoted))
  | 'a' => .ok (d.fit (values.shown Text.quotedInAscii))
  | _ => .error (if d.letter = 'c' || d.zero?.isSome then .wrongKind else .badDirective)

/-- Shows what is next. -/
def Directive.shownNext (d : Directive) (values : Values) (supply : Supply) :
    Except Fault Text := do
  match ← supply.next? with
  | some v => d.shown v
  | none => d.shownAll values

/-! ## Expanding -/

/-- Expands a template in a number of steps. -/
def expandFrom (values : Values) (supply : Supply) : Nat → Text → Except Fault Text
  | 0, _ | _, [] => .ok []
  | steps + 1, '%' :: '%' :: rest => (expandFrom values supply steps rest).map ('%' :: ·)
  | steps + 1, '%' :: rest =>
      match read values supply rest with
      | .error fault => .error fault
      | .ok (d, supply, rest) => do
          return (← d.shownNext values supply) ++ (← expandFrom values .used steps rest)
  | steps + 1, c :: rest => (expandFrom values supply steps rest).map (c :: ·)

/-- Expands a template. Each step takes a character at least, so its length is steps
enough. -/
def expand (values : Values) (template : Text) : Except Fault Text :=
  expandFrom values .all template.length template

end Iconsmith.CommandLine.Template
