import Iconsmith.Text.Basic
import Iconsmith.Text.Printable

set_option autoImplicit false

/-!
# Quoted texts

How a message shows a text that came from outside: between quotes, with escapes
for the quote, the backslash and everything that does not print.
-/

namespace Iconsmith.Text

/-- The lower-case hexadecimal numeral of a number with at least `width` digits. -/
def hex (width n : Nat) : Text :=
  let digits := Nat.toDigits 16 n
  List.replicate (width - digits.length) '0' ++ digits

/-- The quote around a text: the apostrophe, unless the text holds one and no
double quote. -/
def quoteFor (t : Text) : Char :=
  if t.contains '\'' && !t.contains '"' then '"' else '\''

/-- One character of a quoted text. Characters that are not shown as they are are written with
two, four or eight hexadecimal digits, whichever is enough. -/
def quotedChar (isShown : Char → Bool) (quote c : Char) : Text :=
  if c = quote || c = '\\' then ['\\', c]
  else if c = '\n' then ['\\', 'n']
  else if c = '\r' then ['\\', 'r']
  else if c = '\t' then ['\\', 't']
  else if isShown c then [c]
  else if c.toNat < 0x100 then ['\\', 'x'] ++ hex 2 c.toNat
  else if c.toNat < 0x10000 then ['\\', 'u'] ++ hex 4 c.toNat
  else ['\\', 'U'] ++ hex 8 c.toNat

/-- A text between quotes, where `isShown` says which characters are shown as they are. -/
def quotedBy (isShown : Char → Bool) (t : Text) : Text :=
  quoteFor t :: t.flatMap (quotedChar isShown (quoteFor t)) ++ [quoteFor t]

/-- A text between quotes. -/
def quoted (t : Text) : Text := quotedBy isPrintable t

/-- A text between quotes, in ASCII. -/
def quotedInAscii (t : Text) : Text := quotedBy (fun c => isPrintable c && c.toNat < 0x80) t

end Iconsmith.Text
