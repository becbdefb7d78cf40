import Iconsmith.Markup.Value

set_option autoImplicit false

/-!
# Names of namespaces

A namespace is named by a URI, or by a relative reference, in the grammar of RFC 3986.
The grammar is read from the left: every part is as long as it can be, and what follows
it has to fit. Between square brackets a host may hold anything, and a fragment may hold
square brackets.
-/

namespace Iconsmith.Markup.Uri

/-! ## Character classes -/

/-- Characters that stand for themselves everywhere. -/
def isUnreserved (c : Char) : Bool := c.isAlphanum || "-._~".toList.contains c

/-- Characters that may set off parts of a component. -/
def isSubDelim (c : Char) : Bool := "!$&'()*+,;=".toList.contains c

/-- Characters of the name of a host, the percent sign apart. -/
def isNameChar (c : Char) : Bool := isUnreserved c || isSubDelim c

/-- Characters of a path segment, the percent sign apart. -/
def isSegmentChar (c : Char) : Bool := isNameChar c || c = ':' || c = '@'

/-- Characters of a path. -/
def isPathChar (c : Char) : Bool := isSegmentChar c || c = '/'

/-- Characters of a query. -/
def isQueryChar (c : Char) : Bool := isPathChar c || c = '?'

/-- Characters of a fragment. -/
def isFragmentChar (c : Char) : Bool := isQueryChar c || c = '[' || c = ']'

/-- The text after the characters of a class and the percent signs, each with two
hexadecimal digits after it, at its head. -/
def skipAll (isOwn : Char → Bool) : Text → Text
  | [] => []
  | '%' :: a :: b :: rest =>
      if (hexDigit? a).isSome && (hexDigit? b).isSome then skipAll isOwn rest
      else '%' :: a :: b :: rest
  | c :: rest => if isOwn c then skipAll isOwn rest else c :: rest

/-! ## Hosts -/

/-- The text after a number that is a part of an address: one or two digits, or three
that are less than two hundred and sixty; a number of several digits does not begin with
zero. -/
def skipOctet? : Text → Option Text
  | a :: rest =>
      if !a.isDigit then none
      else
        match rest with
        | b :: rest' =>
            if !b.isDigit then some rest
            else
              match rest' with
              | c :: rest'' =>
                  if !c.isDigit then (if a = '0' then none else some rest')
                  else if a = '1' || (a = '2' && b ≤ '5') then some rest''
                  else none
              | [] => if a = '0' then none else some rest'
        | [] => some rest
  | [] => none

/-- The text after a point. -/
def skipPoint? : Text → Option Text
  | '.' :: rest => some rest
  | _ => none

/-- The text after an address of four numbers with points between them. -/
def skipAddress? (t : Text) : Option Text := do
  let t ← skipPoint? (← skipOctet? t)
  let t ← skipPoint? (← skipOctet? t)
  let t ← skipPoint? (← skipOctet? t)
  skipOctet? t

/-- The text after a host: anything between square brackets, an address, or a name, which
may be empty. -/
def skipHost? (t : Text) : Option Text :=
  match t with
  | '[' :: rest => (Text.cutFirst ']' rest).map Prod.snd
  | _ => some ((skipAddress? t).getD (skipAll isNameChar t))

/-- The greatest number of a port. -/
def maxPort : Nat := 2147483647

/-- The text after a port, if there is a colon. -/
def skipPort? (t : Text) : Option Text :=
  match t with
  | ':' :: rest =>
      let (digits, after) := rest.span Char.isDigit
      let port := digits.foldl (fun n d => 10 * n + (d.toNat - '0'.toNat)) 0
      if digits = [] || maxPort < port then none else some after
  | _ => some t

/-- The text after a user and an at sign, if there is one. -/
def skipUser (t : Text) : Text :=
  match skipAll (fun c => isNameChar c || c = ':') t with
  | '@' :: rest => rest
  | _ => t

/-- The text after an authority. -/
def skipAuthority? (t : Text) : Option Text := (skipHost? (skipUser t)).bind skipPort?

/-! ## References -/

/-- The text after an authority and a path. Where there is an authority the path is empty
or begins with a slash. -/
def skipHierarchy? (t : Text) : Option Text :=
  match t with
  | '/' :: '/' :: rest =>
      (skipAuthority? rest).map fun t =>
        if t.head? = some '/' then skipAll isPathChar t else t
  | _ => some (skipAll isPathChar t)

/-- The text after a query and a fragment, as far as they are there. -/
def skipTail (t : Text) : Text :=
  let afterQuery :=
    match t with
    | '?' :: rest => skipAll isQueryChar rest
    | _ => t
  match afterQuery with
  | '#' :: rest => skipAll isFragmentChar rest
  | _ => afterQuery

/-- Whether nothing is left of a text after a hierarchy, a query and a fragment. -/
def isComplete (t : Text) : Bool := (skipHierarchy? t).any fun rest => skipTail rest == []

/-- The text after a scheme and its colon. -/
def skipScheme? (t : Text) : Option Text :=
  match t with
  | c :: rest =>
      if c.isAlpha then
        match rest.dropWhile fun d => d.isAlphanum || d = '+' || d = '-' || d = '.' with
        | ':' :: after => some after
        | _ => none
      else none
  | [] => none

/-- Whether a text is a URI. -/
def isAbsolute (t : Text) : Bool := (skipScheme? t).any isComplete

/-- Whether a text is a relative reference. The first segment of its path holds no
colon. -/
def isRelative (t : Text) : Bool :=
  isComplete t &&
    (t.head? == some '/' || !(t.takeWhile fun c => c ≠ '/' && c ≠ '?' && c ≠ '#').contains ':')

end Iconsmith.Markup.Uri
