import Iconsmith.Charset.Name
import Iconsmith.Markup.Complaint

set_option autoImplicit false

/-!
# The declaration of a document

A document may begin with a declaration of its version, its encoding and whether
it stands alone. A document is text that has been encoded as UTF-8 already. An
encoding that is declared otherwise makes the bytes that follow its name be read in that
encoding, and a document whose first bytes are those of a declaration in wider units
is read in such units from the start.
-/

namespace Iconsmith.Markup

/-! ## Declarations -/

/-- Versions that are written as a digit, a point and any number of digits. -/
def isVersion : Text → Bool
  | d :: '.' :: minor => d.isDigit && minor.all Char.isDigit
  | _ => false

/-- Names of encodings: a letter, and letters, digits, points, underscores and
hyphens after it. -/
def isEncodingName : Text → Bool
  | c :: rest =>
      c.isAlpha && rest.all fun d => d.isAlphanum || d = '.' || d = '_' || d = '-'
  | [] => false

/-- Reads `key = "value"` after white space. Nothing is read, and the text is kept,
when the key does not follow. -/
def field? (key : String) (t : Text) : Option (Option Text × Text) :=
  match after? key (skipGap t) with
  | none => some (none, t)
  | some rest =>
      if (gap? t).isNone then none
      else (equals? rest).bind fun quoted =>
        (literal? quoted).map fun (value, after) => (some value, after)

/-- The first part of a declaration, up to the name of the encoding, and the text after
it. -/
structure DeclarationHead where
  version : Text
  encoding : Option Text
  rest : Text

/-- Reads the first part of a declaration after its opening, with white space at the
head. Documents of the first series of versions are read. -/
def DeclarationHead.read? (t : Text) : Option DeclarationHead := do
  let (version, t) ← field? "version" t
  let (encoding, t) ← field? "encoding" t
  let version ← version
  if isVersion version && version.take 2 = ['1', '.'] && encoding.all isEncodingName then
    some ⟨version, encoding, t⟩
  else none

/-- The complaints about the version of a document. -/
def DeclarationHead.complaints (h : DeclarationHead) : List Complaint :=
  if h.version = "1.0".toList then [] else [.warning]

/-- Reads the rest of a declaration: whether the document stands alone, and the text of the
document. -/
def declarationTail? (t : Text) : Option (Bool × Text) := do
  let (alone, t) ← field? "standalone" t
  let rest ← after? "?>" (skipGap t)
  if alone.all fun a => a == "yes".toList || a == "no".toList then
    some (alone == some "yes".toList, rest)
  else none

/-! ## The start of a document -/

/-- A document after its declaration: its characters, whether it is declared to stand
alone, the text that follows the declaration, complaints about it, and whether its last
character is cut short. -/
structure Opened where
  whole : Text
  alone : Bool
  text : Text
  complaints : List Complaint
  isCutShort : Bool

/-- What decides the encoding of a document: its first bytes, which call for one of some
names, or the declaration. -/
inductive Known where
  | byStart (names : List Text)
  | byDeclaration

/-- The text after the head of a declaration, in the encoding declared, unless it is known
already. A name that does not fit the start gives a warning, and one that is not known an
error that ends the reading. -/
def Known.follow? (known : Known) (h : DeclarationHead) : Option (Decoded × List Complaint) :=
  match known, h.encoding with
  | _, none => some (⟨h.rest, false⟩, [])
  | .byStart names, some name =>
      let fits := names = [] || names.contains (name.map Char.toUpper)
      some (⟨h.rest, false⟩, if fits then [] else [.warning])
  | .byDeclaration, some name => do
      let charset ← Charset.ofName? name
      let decoded ← charset.decode (Text.Utf8.encode h.rest)
      return (decoded, [])

/-- Opens a document whose encoding is known so far as `known` says. -/
def openWith (known : Known) (t : Text) : Option Opened :=
  match after? "<?xml" t with
  | some (c :: rest) =>
      if isGap c then do
        let head ← DeclarationHead.read? (c :: rest)
        let (decoded, complaints) ← known.follow? head
        let (alone, text) ← declarationTail? decoded.text
        return ⟨t.take (t.length - head.rest.length) ++ decoded.text, alone, text,
          head.complaints ++ complaints, decoded.isCutShort⟩
      else some ⟨t, false, t, [], false⟩
  | _ => some ⟨t, false, t, [], false⟩

/-- The encoding in wider units that the first characters of a document call for, and the
names that it may be declared by. Any name will do when there are none. -/
def wideStart? : Text → Option (Charset × List Text)
  | '<' :: '\x00' :: '?' :: '\x00' :: _ =>
      some (Charset.utf16 .greatestLast, ["UTF-16".toList, "UTF-16LE".toList, "UTF16".toList])
  | '\x00' :: '<' :: '\x00' :: '?' :: _ =>
      some (Charset.utf16 .greatestFirst, ["UTF-16".toList, "UTF-16BE".toList, "UTF16".toList])
  | '<' :: '\x00' :: '\x00' :: '\x00' :: _ => some (Charset.ucs4 .greatestLast, [])
  | '\x00' :: '\x00' :: '\x00' :: '<' :: _ => some (Charset.ucs4 .greatestFirst, [])
  | _ => none

/-- Opens a document. -/
def openText (t : Text) : Option Opened :=
  match wideStart? t, t with
  | some (charset, names), _ => do
      let decoded ← charset.decode (Text.Utf8.encode t)
      let opened ← openWith (.byStart names) decoded.text
      return { opened with isCutShort := decoded.isCutShort }
  | none, '\ufeff' :: rest => openWith (.byStart ["UTF-8".toList, "UTF8".toList]) rest
  | none, _ => openWith .byDeclaration t

end Iconsmith.Markup
