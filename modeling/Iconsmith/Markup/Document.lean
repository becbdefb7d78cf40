import Iconsmith.Markup.Declaration
import Iconsmith.Markup.Tag

set_option autoImplicit false

/-!
# Documents

`Document.parse` reads a text as a tree of elements. The pieces of the text are
taken one after another while the elements that are open are kept, innermost
first. A document is well formed when its pieces fit together around one root
element; it is read when, besides, its complaints are forgiven.
-/

namespace Iconsmith.Markup

/-- An element with its attributes and the elements in it. Names are local names;
the last of several attributes with one local name counts. -/
inductive Element where
  | mk (name : Text) (attributes : Table Text Text) (children : List Element)

namespace Element

/-- The name of an element. -/
def name : Element → Text
  | mk name _ _ => name

/-- The attributes of an element. -/
def attributes : Element → Table Text Text
  | mk _ attributes _ => attributes

/-- The elements in an element. -/
def children : Element → List Element
  | mk _ _ children => children

end Element

namespace Document

/-! ## Open elements -/

/-- An element that is open: its name as written, its tag, and the elements read in
it so far, the latest first. -/
structure Frame where
  raw : Text
  tag : Tag
  inside : List Element

/-- The element that an open element makes when it closes. -/
def Frame.element (f : Frame) : Element := ⟨f.tag.name, f.tag.attributes, f.inside.reverse⟩

/-- Where the reading of a text stands. The innermost open element comes first. When the
reading is over, what follows is ignored. -/
structure Progress where
  alone : Bool
  source : Text
  doctype : Option Doctype
  account : Account
  frames : List Frame
  root : Option Element
  ids : List Text
  isTellable : Bool
  isOver : Bool

namespace Progress

/-- The elements that may be open at a time. -/
def maxDepth : Nat := 256

/-- The reading stops. -/
def stop {α : Type} (p : Progress) (s : Stop) : Except Stop α := p.account.complaints.stop s

/-- Records complaints. -/
def complainAll (p : Progress) (cs : List Complaint) : Progress :=
  { p with account := p.account.complainAll cs }

/-- The surroundings of a tag here, where entities may be followed `nesting` deep. -/
def surroundings (p : Progress) (nesting : Nat) : Surroundings :=
  ⟨p.doctype.getD Doctype.none, p.source, nesting⟩

/-- The scope inside the innermost open element. -/
def scope (p : Progress) : Scope :=
  match p.frames with
  | [] => []
  | f :: _ => f.tag.scope

/-- Adds a finished element to the innermost open one; outside of all it is the
root. -/
def finish (p : Progress) (e : Element) (frames : List Frame) : Progress :=
  match frames with
  | [] => { p with frames := [], root := some e }
  | f :: outer => { p with frames := ⟨f.raw, f.tag, e :: f.inside⟩ :: outer }

/-- Takes a closing tag, which must repeat the name of the innermost open element. -/
def closeElement (p : Progress) (raw : Text) : Except Stop Progress :=
  match p.frames with
  | [] => p.stop none
  | f :: outer => if f.raw = raw then .ok (p.finish f.element outer) else p.stop none

/-- Takes an opening tag, where entities may be followed `nesting` deep. Of one that breaks
off, only the complaints are kept. -/
def openElement (nesting : Nat) (p : Progress) (raw : Text) (written : List Written)
    (ending : Ending) (left : Nat) : Except Stop Progress := do
  let s := p.surroundings nesting
  if ending = .broken then
    let draft ← readAttributes s p.account raw written
    return { p with account := draft.account }
  else if maxDepth ≤ p.frames.length then p.stop none
  else
    let ⟨tag, ids, account⟩ ← Tag.read s p.scope p.ids p.account raw written left
    let p : Progress :=
      { p with
        account := account
        frames := ⟨raw, tag, []⟩ :: p.frames
        ids := ids
        isTellable := p.isTellable && tag.isTellable }
    if ending = .closed then p.closeElement raw else return p

end Progress

/-! ## References -/

/-- The frame around the text of an entity, in a scope of its own. No closing tag has its
name. -/
def entityFrame : Frame := ⟨[], ⟨[], Table.empty, [], true⟩, []⟩

/-- Whether the text of an entity leaves nothing in a document. -/
def isBare : List Piece → Bool
  | [] => true
  | .comment :: rest | .instruction _ :: rest => isBare rest
  | .data t :: next :: rest => t.all isGap && isBare (next :: rest)
  | _ => false

/-- Takes the text of an entity in content with a function that takes its pieces. They fit
together inside a frame of their own, and only the account and the identifiers are kept. -/
def takeText (takePiece : Progress → Piece → Except Stop Progress) (p : Progress) (name t : Text)
    (left : Nat) : Except Stop Progress := do
  if Progress.maxDepth ≤ p.frames.length then p.stop none
  let complaints := p.account.complaints
  let inner : Progress :=
    { p with
      source := t
      account := ⟨p.account.standings, 0, Complaints.none⟩
      frames := entityFrame :: p.frames
      isTellable := true }
  let outward := fun s => complaints.blame (complaints.outward left s)
  let after ← ((pieces p.alone t).foldlM takePiece inner).mapError outward
  if after.frames.length ≠ inner.frames.length then
    p.stop (complaints.outward left (after.account.complaints.blame none))
  let found := after.account.complaints.latestFirst.map fun c =>
    ⟨c.severity, complaints.outward left c.note⟩
  let size := after.account.spent + Text.Utf8.size t
  let old := after.account.standing name
  let account : Account :=
    ⟨after.account.standings, p.account.spent, complaints.append ⟨found⟩⟩
  return { p with
    account := account.set name ⟨size, old.checked, old.lineEnds.or (some .unified)⟩
    ids := after.ids }

/-- Takes a reference to an entity that has a text. The text is read when it is named for
the first time, or leaves nothing. -/
def takeReference (takePiece : Progress → Piece → Except Stop Progress) (p : Progress)
    (name t : Text) (left : Nat) : Except Stop Progress := do
  let isRead := (p.account.standing name).lineEnds.isSome && !isBare (pieces p.alone t)
  let p ← if isRead then .ok p else takeText takePiece p name t left
  let account := p.account.spend (p.account.costOf [name])
  if account.isAffordable fun _ => (p.surroundings 0).read left then
    return { p with account := account }
  else p.stop none

/-! ## Pieces in their places -/

/-- Takes a piece inside an element. Entities are followed at most `depth` deep. -/
def takeInside (depth : Nat) (p : Progress) : Piece → Except Stop Progress
  | .opening raw written ending left => p.openElement depth raw written ending left
  | .closing raw => p.closeElement raw
  | .data _ | .verbatim | .comment | .reference (.char _) _ => .ok p
  | .instruction target => .ok (p.complainAll (targetComplaints target))
  | .doctype _ | .broken .doctype _ => p.stop none
  | .broken _ s => p.stop s
  | .reference (.entity name) left =>
      match (p.surroundings depth).entities.declared.lookup name with
      | none =>
          if (p.surroundings depth).entities.mayBeOutside then .ok (p.complainAll [.warning])
          else p.stop none
      | some .outside => .ok p
      | some .unparsed => p.stop none
      | some (.text t) =>
          match depth with
          | 0 => p.stop none
          | depth + 1 => takeReference (takeInside depth) p name t left

/-- Takes a document type. What it complains about comes after the earlier complaints. -/
def takeDoctype (p : Progress) (d : Doctype) : Progress :=
  { p with
    doctype := some d
    account := ⟨d.account.standings, d.account.spent,
      p.account.complaints.append d.account.complaints⟩ }

/-- Takes a piece before the root: asides, white space, one document type, and the tag of
the root. -/
def takeBefore (p : Progress) : Piece → Except Stop Progress
  | .opening raw written ending left =>
      p.openElement Doctype.maxNesting raw written ending left
  | .comment => .ok p
  | .instruction target => .ok (p.complainAll (targetComplaints target))
  | .data t => if t.all isGap then .ok p else p.stop none
  | .doctype d => if p.doctype.isNone then .ok (takeDoctype p d) else p.stop none
  | .broken .doctype s => p.stop (if p.doctype.isNone then s else none)
  | .broken .aside s | .broken .opening s => p.stop s
  | _ => p.stop none

/-- Takes a piece after the root: asides and white space. Anything else is ignored with
all that follows, if there was an error before. -/
def takeAfter (p : Progress) : Piece → Except Stop Progress
  | .comment => .ok p
  | .instruction target => .ok (p.complainAll (targetComplaints target))
  | .data t =>
      if t.all isGap then .ok p
      else if p.account.complaints.hasError then .ok { p with isOver := true }
      else p.stop none
  | .broken .aside s => p.stop s
  | _ => if p.account.complaints.hasError then .ok { p with isOver := true } else p.stop none

/-- Takes the next piece of a document. -/
def take (p : Progress) (piece : Piece) : Except Stop Progress :=
  if p.isOver then .ok p
  else
    match p.frames, p.root with
    | [], none => takeBefore p piece
    | [], some _ => takeAfter p piece
    | _ :: _, _ => takeInside Doctype.maxNesting p piece

/-! ## Whole documents -/

/-- Why a text is no document: it cannot be read, with what is told of the fault at a line
and a column that count from one, or some of its names cannot be told. -/
inductive Fault where
  | malformed
  | noted (words : Text) (line column : Nat)
  | untellable
  deriving DecidableEq

/-- The fault for which reading has stopped. -/
def faultOf (document : Text) : Stop → Fault
  | none => .malformed
  | some ⟨words, left⟩ =>
      let before := document.take (document.length - left)
      .noted words (before.count '\n' + 1) ((before.reverse.takeWhile (· ≠ '\n')).length + 1)

/-- The root of a document that has been read to its end. The end of the text is missed
when its last character was cut short, unless there was an error before. -/
def conclude (opened : Opened) (p : Progress) : Except Fault Element :=
  let complaints := p.account.complaints
  let failed := .error (faultOf opened.whole (complaints.blame none))
  match p.frames, p.root with
  | [], some root =>
      if opened.isCutShort && !complaints.hasError then failed
      else if !complaints.areForgiven then failed
      else if p.isTellable then .ok root
      else .error .untellable
  | _, _ => failed

/-- The reading of a document before its first piece. -/
def Progress.start (opened : Opened) : Progress :=
  ⟨opened.alone, opened.whole, none, Account.empty.complainAll opened.complaints, [], none, [],
    true, false⟩

/-- Takes all pieces of a document. -/
def takeAll (opened : Opened) : Except Stop Progress :=
  (pieces opened.alone opened.text).foldlM take (.start opened)

/-- The root element of a text. -/
def parse (t : Text) : Except Fault Element :=
  match openText t with
  | none => .error .malformed
  | some opened =>
      match takeAll opened with
      | .error s => .error (faultOf opened.whole s)
      | .ok p => conclude opened p

end Document

end Iconsmith.Markup
