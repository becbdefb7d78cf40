import Iconsmith.Proofs.Drawing.Refinement
import Iconsmith.Proofs.Markup.Spellings

set_option autoImplicit false

/-!
# The structure of a document

What is read of a document depends on its elements, however they are written. Asides leave no
trace but complaints about the targets of instructions (`reaches_asides`), a tag is read as its
element in whatever quotes and with whatever space (`Tag.read_rawName`), and so a text that spells
a tree is taken to its end with that tree as the root (`exists_reaches_document`). Whether it is
read then rests on the complaints alone (`read_of_spells`).
-/

namespace Iconsmith.Markup

/-! ## Severities -/

namespace Complaints

/-- How grave the complaints are, the latest first. -/
def severities (r : Complaints) : List Severity := r.latestFirst.map Complaint.severity

theorem count_eq (r : Complaints) (s : Severity) : r.count s = r.severities.count s := by
  rw [count, severities, List.count, List.countP_map]
  exact List.countP_congr fun c _ => by simp

theorem severities_add {r r' : Complaints} {c c' : Complaint} (hr : r.severities = r'.severities)
    (hc : c.severity = c'.severity) : (r.add c).severities = (r'.add c').severities := by
  rw [add, add, count_eq, count_eq, hr, hc]
  split
  · show c.severity :: r.severities = c'.severity :: r'.severities
    rw [hr, hc]
  · exact hr

theorem severities_addAll {r r' : Complaints} {cs cs' : List Complaint}
    (hr : r.severities = r'.severities)
    (hcs : cs.map Complaint.severity = cs'.map Complaint.severity) :
    (r.addAll cs).severities = (r'.addAll cs').severities := by
  induction cs generalizing r r' cs' with
  | nil =>
      obtain rfl := List.map_eq_nil_iff.1 hcs.symm
      exact hr
  | cons c cs ih =>
      cases cs' with
      | nil => cases hcs
      | cons c' cs' =>
          obtain ⟨hc, hcs⟩ := List.cons.inj hcs
          rw [addAll_cons, addAll_cons]
          exact ih (severities_add hr hc) hcs

/-- Whether complaints are forgiven depends on how grave they are. -/
theorem areForgiven_congr {r r' : Complaints} (h : r.severities = r'.severities) :
    r.areForgiven = r'.areForgiven := by
  have hhead : ∀ r : Complaints, r.areForgiven = r.severities.head?.all fun s => s = .warning := by
    intro r
    rw [areForgiven, severities, List.head?_map, Option.all_map]
  rw [hhead, hhead, h]

end Complaints

/-! ## Names with a space -/

/-- A name with a space is cut where they meet. -/
theorem QName.ofRaw?_of_space {space base : Text} (hspace : isLocal space) (hbase : isLocal base) :
    QName.ofRaw? (space ++ ':' :: base) = some ⟨some space, base⟩ := by
  have hcolon : ':' ∉ space := by
    simp only [isLocal, Bool.and_eq_true] at hspace
    simpa using hspace.2
  rw [QName.ofRaw?, Text.cutFirst_eq_some.2 ⟨rfl, hcolon⟩]
  exact if_pos (by rw [hspace, hbase]; rfl)

theorem isName_of_space {space base : Text} (hspace : isName space) (hbase : isName base) :
    isName (space ++ ':' :: base) := by
  have hchars : ∀ c ∈ ':' :: base, isNameChar c := by
    intro c hc
    rcases List.mem_cons.1 hc with rfl | hc
    · decide
    · exact isNameChar_of_isName hbase c hc
  cases space with
  | nil => simp [isName] at hspace
  | cons c space =>
      simp only [isName, Bool.and_eq_true, List.all_eq_true] at hspace
      rw [List.cons_append, isName, Bool.and_eq_true, List.all_append, Bool.and_eq_true]
      exact ⟨hspace.1, List.all_eq_true.2 hspace.2, List.all_eq_true.2 hchars⟩

/-! ## Declarations -/

namespace Binding

/-- The scope that the declaration of a space makes. The space `xml` is in scope without it. -/
def scope (b : Binding) : Scope := if b.space = xmlSpace then [] else [(some b.space, b.uri)]

/-- The complaint about a declaration: a namespace should have the form of a reference. -/
def complaints (b : Binding) : List Complaint := if b.isReference then [] else [.error]

/-- Whether names can be told from the namespace in front of them. -/
def isTold (b : Binding) : Bool := !b.uri.contains '}'

/-- What is said about a legal declaration. -/
theorem judgeSpace_eq {b : Binding} (hb : b.IsLegal) (left : Nat) :
    (judgeSpace b.space b.uri left).1.map Complaint.severity =
        b.complaints.map Complaint.severity ∧
      ((judgeSpace b.space b.uri left).2 = true ↔ b.space ≠ xmlSpace) := by
  rw [judgeSpace, complaints]
  by_cases hxml : b.space = xmlSpace
  · have huri := hb.reserved.1 hxml
    have hreference : b.isReference = true := by
      rw [isReference, huri]
      decide
    rw [if_pos hxml, if_pos huri, hreference]
    exact ⟨rfl, iff_of_false Bool.false_ne_true (not_not_intro hxml)⟩
  · -- Of what may be said about a declaration only the form of the namespace is left.
    have huri : b.uri ≠ xmlNamespace := fun huri => hxml (hb.reserved.2 huri)
    rw [if_neg hxml, if_neg (by
      simp [huri, hb.notDeclaring.1, hb.notDeclaring.2, hb.nonempty]), isReference]
    split
    · exact ⟨rfl, iff_of_true rfl hxml⟩
    · exact ⟨rfl, iff_of_true rfl hxml⟩

end Binding

/-- The scope in which the elements of a document stand. -/
def scopeOf (binding : Option Binding) : Scope := binding.toList.flatMap Binding.scope

/-- The complaints about what the root declares. -/
def complaintsOf (binding : Option Binding) : List Complaint :=
  binding.toList.flatMap Binding.complaints

/-- Whether the names of elements can be told. -/
def areTold (binding : Option Binding) : Bool := binding.all Binding.isTold

section Bound

variable {binding : Option Binding} (hb : ∀ b ∈ binding, b.IsLegal) {name : Text}
  (hname : isLocal name)

include hb hname

theorem ofRaw?_rawName :
    QName.ofRaw? (rawName binding name) = some ⟨binding.map Binding.space, name⟩ := by
  cases binding with
  | none => exact QName.ofRaw?_of_isLocal hname
  | some b => exact QName.ofRaw?_of_space (hb b rfl).space hname

theorem ofRaw_rawName :
    QName.ofRaw (rawName binding name) = ⟨binding.map Binding.space, name⟩ := by
  rw [QName.ofRaw, ofRaw?_rawName hb hname]
  rfl

theorem isName_rawName : isName (rawName binding name) := by
  cases binding with
  | none => exact isName_of_isLocal hname
  | some b => exact isName_of_space (isName_of_isLocal (hb b rfl).space) (isName_of_isLocal hname)

omit hname in
/-- The space of the elements stands for its namespace. -/
theorem elementNamespace?_scopeOf :
    (scopeOf binding).elementNamespace? (binding.map Binding.space) =
      binding.map Binding.uri := by
  cases binding with
  | none => rfl
  | some b =>
      have hlegal := hb b rfl
      have hscope : scopeOf (some b) = b.scope := by simp [scopeOf]
      rw [hscope, Binding.scope, Scope.elementNamespace?, Option.map_some, Option.map_some]
      by_cases hxml : b.space = xmlSpace
      · rw [if_pos (congrArg some hxml), hlegal.reserved.1 hxml]
        rfl
      · rw [if_neg (fun heq => hxml (Option.some.inj heq)), if_neg hxml]
        simp [hlegal.nonempty]

omit hb in
theorem canTell_eq : canTell (binding.map Binding.uri) name = areTold binding := by
  simp only [isLocal, Bool.and_eq_true] at hname
  rw [canTell, hname.2, Bool.true_and, Option.all_map]
  rfl

end Bound

/-! ## Attributes -/

section Rows

variable {s : Surroundings} (hs : s.doctype = Doctype.none)

include hs

/-- The attributes of a tag that declares nothing. -/
theorem readAttributes_rows {raw : Text} (hraw : (QName.ofRaw? raw).isSome) (account : Account)
    {rows : List (Text × Text)} {ws : List Written}
    (hrows : ∀ row ∈ rows, isLocal row.1 ∧ row.1 ≠ declarationSpace) (hws : AreRows ws rows) :
    readAttributes s account raw ws = .ok ⟨[], (rows.map Attribute.ofRow).reverse, account⟩ := by
  have hdraft := foldlM_take_rows hs raw rows ws ⟨[], [], account⟩ hrows hws
  rw [List.append_nil] at hdraft
  rw [readAttributes, if_neg (by simpa using Option.isSome_iff_ne_none.1 hraw)]
  exact hdraft

omit hs in
/-- A declaration is not one of the attributes that are complained about by their names. -/
theorem Draft.owned_declaration (d : Draft) (space : Text) (value : List Part) :
    d.owned ⟨some declarationSpace, space⟩ value = d := by
  rw [Draft.owned, Draft.ownComplaints, if_neg]
  · rfl
  · rw [Bool.and_eq_true, not_and]
    intro hspace
    exact absurd (congrArg QName.space (of_decide_eq_true hspace))
      (show ¬some declarationSpace = some xmlSpace by decide)

omit hs in
/-- Plain characters spell the name of a namespace as they stand. -/
theorem uriOf_chars (uri : Text) : uriOf s false (uri.map .char) = uri := by
  rw [uriOf, Entities.namespaceParts, List.flatMap_map, ← List.map_eq_flatMap]
  show plainText (uri.map Part.char) = uri
  rw [plainText, List.flatMap_map]
  exact List.flatMap_singleton' uri

/-- The declaration of a space is taken, and what is said about it is complained about. -/
theorem Draft.take_row_binding (element : Text) {d : Draft} (hd : d.bound = []) {b : Binding}
    (hb : b.IsLegal) {w : Written} (hraw : w.raw = b.row.1) (hvalue : w.value = b.uri.map .char) :
    Draft.take s element d w =
      .ok { d with
        bound := b.scope
        account := d.account.complainAll (judgeSpace b.space b.uri w.left).1 } := by
  have hplain : s.doctype = .plain false := hs
  have hname : QName.ofRaw? w.raw = some ⟨some declarationSpace, b.space⟩ := by
    rw [hraw]
    exact QName.ofRaw?_of_space (by decide) hb.space
  have hq : QName.ofRaw w.raw = ⟨some declarationSpace, b.space⟩ := by
    rw [QName.ofRaw, hname]
    rfl
  have hnamed : d.named w.raw = d := by
    rw [Draft.named, hname]
    rfl
  have hdeclared : declared? ⟨some declarationSpace, b.space⟩ = some (some b.space) := if_pos rfl
  rw [Draft.take_plain hplain, hnamed, hvalue, Draft.takeEntities_chars, hq]
  refine bind_eq_ok.2 ⟨d, rfl, ?_⟩
  simp only [Draft.owned_declaration, hdeclared, Draft.takeDeclaration_eq, uriOf_chars]
  show (if !(judgeSpace b.space b.uri w.left).2 then _ else _) = _
  have hmade := (Binding.judgeSpace_eq hb w.left).2
  rw [hd, Binding.scope]
  by_cases hxml : b.space = xmlSpace
  · have hnot : (judgeSpace b.space b.uri w.left).2 = false :=
      Bool.eq_false_iff.2 fun h => hmade.1 h hxml
    rw [hnot, if_pos hxml]
    rfl
  · rw [hmade.2 hxml, if_neg hxml]
    rfl

/-- The attributes of a tag that declares a space among its rows. -/
theorem readAttributes_rows_binding (raw : Text) (hraw : (QName.ofRaw? raw).isSome)
    (account : Account) {binding : Option Binding} (hb : ∀ b ∈ binding, b.IsLegal)
    {first last : List (Text × Text)} {ws : List Written}
    (hrows : ∀ row ∈ first ++ last, isLocal row.1 ∧ row.1 ≠ declarationSpace)
    (hws : AreRows ws (first ++ (binding.map Binding.row).toList ++ last)) :
    ∃ cs, cs.map Complaint.severity = (complaintsOf binding).map Complaint.severity ∧
      readAttributes s account raw ws =
        .ok ⟨scopeOf binding, ((first ++ last).map Attribute.ofRow).reverse,
          account.complainAll cs⟩ := by
  cases binding with
  | none =>
      rw [Option.map_none, Option.toList_none, List.append_nil] at hws
      exact ⟨[], rfl, readAttributes_rows hs hraw account hrows hws⟩
  | some b =>
      have hlegal := hb b rfl
      rw [AreRows, Option.map_some, Option.toList_some, List.append_assoc, List.map_append] at hws
      obtain ⟨ws₁, later, rfl, hws₁, hlater⟩ := List.map_eq_append_iff.1 hws
      rw [List.singleton_append, List.map_cons] at hlater
      obtain ⟨w, ws₂, rfl, hw, hws₂⟩ := List.map_eq_cons_iff.1 hlater
      obtain ⟨hwraw, hwvalue⟩ := Prod.mk.inj hw
      have hfirst := foldlM_take_rows hs raw first ws₁ ⟨[], [], account⟩
        (fun row hrow => hrows row (List.mem_append_left _ hrow)) hws₁
      refine ⟨(judgeSpace b.space b.uri w.left).1, ?_, ?_⟩
      · rw [(Binding.judgeSpace_eq hlegal w.left).1, complaintsOf]
        simp
      · rw [readAttributes, if_neg (by simpa using Option.isSome_iff_ne_none.1 hraw),
          List.foldlM_append]
        refine bind_eq_ok.2 ⟨_, hfirst, ?_⟩
        rw [List.foldlM_cons]
        refine bind_eq_ok.2 ⟨_, Draft.take_row_binding hs raw rfl hlegal hwraw hwvalue, ?_⟩
        rw [foldlM_take_rows hs raw last ws₂ _
          (fun row hrow => hrows row (List.mem_append_right _ hrow)) hws₂]
        simp [scopeOf]

/-- A tag is read as its element, whether its space is declared in it or around it. -/
theorem Tag.read_rawName {binding : Option Binding} (hb : ∀ b ∈ binding, b.IsLegal) {name : Text}
    {attributes : Table Text Text} {children : List Element}
    (hwritable : Element.IsWritable ⟨name, attributes, children⟩) {bound scope : Scope}
    (hscope : bound ++ scope = scopeOf binding) (ids : List Text) {account account' : Account}
    {ws : List Written} (left : Nat)
    (hread : readAttributes s account (rawName binding name) ws =
      .ok ⟨bound, (attributes.rows.map Attribute.ofRow).reverse, account'⟩) :
    Tag.read s scope ids account (rawName binding name) ws left =
      .ok ⟨⟨name, attributes, scopeOf binding, areTold binding⟩, ids, account'⟩ := by
  have hname : isLocal name := hwritable.name
  have hspace : (QName.ofRaw (rawName binding name)).space.isSome →
      ((bound ++ scope).elementNamespace? (QName.ofRaw (rawName binding name)).space).isSome := by
    rw [hscope, ofRaw_rawName hb hname, elementNamespace?_scopeOf hb]
    simp
  rw [Tag.read_rows hs scope ids left (fun row hrow => (hwritable.rows row hrow).1) hspace hread,
    hscope, ofRaw_rawName hb hname, elementNamespace?_scopeOf hb, canTell_eq hname]
  rfl

end Rows

namespace Document

/-! ## Asides in a reading -/

theorem complainAll_append (p : Progress) (cs ds : List Complaint) :
    p.complainAll (cs ++ ds) = (p.complainAll cs).complainAll ds := by
  simp only [Progress.complainAll, Account.complainAll, Complaints.addAll_append]

/-- Asides leave no trace but the complaints about their targets. -/
theorem reaches_asides {isInside : Bool} {targets : List Text} {t : Text}
    (h : SpellsAsides isInside targets t) {p : Progress} (hp : Going p)
    (hplace : isInside = true → p.frames ≠ []) {u : Text} (hu : EndsData u) :
    Reaches false p (t ++ u) (p.complainAll (targets.flatMap targetComplaints)) u := by
  induction h generalizing p with
  | nil => exact .refl p u
  | comment c hc _ ih =>
      rw [List.append_assoc]
      exact .step (readsPiece_commentText hc false _) (Takes.comment.take hp) (ih hp hplace)
  | instruction target body htarget hbody _ ih =>
      rw [List.append_assoc, List.flatMap_cons, complainAll_append]
      exact .step (readsPiece_instructionText htarget hbody false _)
        ((Takes.instruction target).take hp) (ih ⟨hp.going, hp.plain, hp.single⟩ hplace)
  | @data d t targets hne hd hgap ht _ ih =>
      have hends : EndsData (t ++ u) := by
        cases t with
        | nil => exact hu
        | cons c t => exact ht
      rw [List.append_assoc]
      exact .step (.data hne hd hends) ((Takes.data (hgap.imp_left hplace)).take hp) (ih hp hplace)

/-! ## Elements in a reading -/

/-- The frame of an element in the scope of a binding. -/
def frameIn (binding : Option Binding) (name : Text) (attributes : Table Text Text) : Frame :=
  ⟨rawName binding name, ⟨name, attributes, scopeOf binding, areTold binding⟩, []⟩

/-- A tag has been read with complaints, and its element is not open any more. -/
def afterTag (p : Progress) (binding : Option Binding) (cs : List Complaint) : Progress :=
  { p.complainAll cs with isTellable := areTold binding }

/-- A tag has been read with complaints, and its element is open. -/
def entering (p : Progress) (binding : Option Binding) (cs : List Complaint) (name : Text)
    (attributes : Table Text Text) : Progress :=
  { afterTag p binding cs with frames := frameIn binding name attributes :: p.frames }

/-- Finishing an element decides what is open. -/
theorem finish_frames (p : Progress) (opened frames : List Frame) (e : Element) :
    Progress.finish { p with frames := opened } e frames = p.finish e frames := by
  cases frames <;> rfl

/-- What stands at the head of a text is an opening tag with written attributes, which is read as
the tag of an element in the scope of a binding, with complaints. -/
structure BeginsTag (binding : Option Binding) (name : Text) (attributes : Table Text Text)
    (cs : List Complaint) (isEmpty : Bool) (p : Progress) (t u : Text) : Prop where
  going : Going p
  place : p.frames = [] → p.root = none
  room : p.frames.length < Progress.maxDepth
  told : (p.isTellable && areTold binding) = areTold binding
  reads : ∃ ws left, ReadsPiece false t
    (.opening (rawName binding name) ws (endingOf isEmpty) left) u ∧
      Tag.read (p.surroundings Doctype.maxNesting) p.scope p.ids p.account (rawName binding name)
        ws left = .ok ⟨(frameIn binding name attributes).tag, p.ids, p.account.complainAll cs⟩

variable {binding : Option Binding} {name : Text} {attributes : Table Text Text}
  {cs : List Complaint} {p : Progress} {t u : Text}

theorem BeginsTag.tagged_eq {isEmpty : Bool}
    (h : BeginsTag binding name attributes cs isEmpty p t u) :
    tagged p (rawName binding name)
        ⟨(frameIn binding name attributes).tag, p.ids, p.account.complainAll cs⟩ =
      entering p binding cs name attributes := by
  have htold := h.told
  simp only [tagged, entering, afterTag, frameIn, Progress.complainAll, htold]

/-- An element that is a single tag is finished at once. -/
theorem BeginsTag.reaches_single (h : BeginsTag binding name attributes cs true p t u) :
    Reaches false p t ((afterTag p binding cs).finish ⟨name, attributes, []⟩ p.frames) u := by
  obtain ⟨ws, left, hread, htag⟩ := h.reads
  have htake := (Takes.closed h.place h.room htag).take h.going
  rw [h.tagged_eq, entering, finish_frames] at htake
  exact .step hread htake (.refl _ _)

theorem BeginsTag.going_entering {isEmpty : Bool}
    (h : BeginsTag binding name attributes cs isEmpty p t u) :
    Going (entering p binding cs name attributes) := by
  rw [← h.tagged_eq]
  exact h.going.tagged h.place _ _

/-- An element between two tags is finished with what has been read between them. -/
theorem BeginsTag.reaches_around {v : Text} {children : List Element} {ds : List Complaint}
    (h : BeginsTag binding name attributes cs false p t u) (hname : isName (rawName binding name))
    (hinside : Reaches false (entering p binding cs name attributes) u
      (filled ((entering p binding cs name attributes).complainAll ds)
        (frameIn binding name attributes) p.frames children)
      (closingText (rawName binding name) ++ v)) :
    Reaches false p t (((afterTag p binding cs).complainAll ds).finish
      ⟨name, attributes, children⟩ p.frames) v := by
  obtain ⟨ws, left, hread, htag⟩ := h.reads
  have htake := (Takes.opened h.place h.room htag).take h.going
  rw [h.tagged_eq] at htake
  refine (Reaches.step hread htake hinside).trans ?_
  have hgoing := h.going_entering
  have hfilled : Going (filled ((entering p binding cs name attributes).complainAll ds)
      (frameIn binding name attributes) p.frames children) :=
    ⟨hgoing.going, hgoing.plain, fun _ => hgoing.single (List.cons_ne_nil _ _)⟩
  have hclose := Takes.take hfilled (.closing rfl)
  have helement : Frame.element ⟨rawName binding name, (frameIn binding name attributes).tag,
      children.reverse ++ []⟩ = ⟨name, attributes, children⟩ := by
    simp [Frame.element, frameIn]
  have hfinish : (filled ((entering p binding cs name attributes).complainAll ds)
      (frameIn binding name attributes) p.frames children).finish ⟨name, attributes, children⟩
        p.frames = ((afterTag p binding cs).complainAll ds).finish ⟨name, attributes, children⟩
          p.frames :=
    finish_frames ((afterTag p binding cs).complainAll ds) _ p.frames _
  refine .step (readsPiece_closingText hname false v) hclose ?_
  rw [← hfinish, ← helement]
  exact .refl _ _

/-! ## Forests in a reading -/

/-- A reading inside an element of a document whose elements are in the scope of a binding. -/
structure IsInside (binding : Option Binding) (p : Progress) (f : Frame) (outer : List Frame) :
    Prop where
  going : Going p
  undeclared : p.doctype = none
  told : p.isTellable = areTold binding
  frames : p.frames = f :: outer
  scope : f.tag.scope = scopeOf binding

theorem IsInside.complainAll {f : Frame} {outer : List Frame} (h : IsInside binding p f outer)
    (cs : List Complaint) : IsInside binding (p.complainAll cs) f outer :=
  ⟨⟨h.going.going, h.going.plain, h.going.single⟩, h.undeclared, h.told, h.frames, h.scope⟩

theorem IsInside.filled {f : Frame} {outer : List Frame} (h : IsInside binding p f outer)
    (es : List Element) :
    IsInside binding (filled p f outer es) ⟨f.raw, f.tag, es.reverse ++ f.inside⟩ outer := by
  refine ⟨⟨h.going.going, h.going.plain, fun _ => h.going.single ?_⟩, h.undeclared, h.told, rfl,
    h.scope⟩
  rw [h.frames]
  exact List.cons_ne_nil f outer

theorem IsInside.afterTag_nil {f : Frame} {outer : List Frame} (h : IsInside binding p f outer) :
    afterTag p binding [] = p := by
  rw [afterTag, ← h.told]
  rfl

theorem filled_cons (p : Progress) (f : Frame) (outer : List Frame) (cs : List Complaint)
    (e : Element) (es : List Element) :
    filled ((filled p f outer [e]).complainAll cs) ⟨f.raw, f.tag, [e].reverse ++ f.inside⟩ outer
      es = filled (p.complainAll cs) f outer (e :: es) := by
  simp [filled, Progress.complainAll]

theorem surroundings_doctype (hp : p.doctype = none) (nesting : Nat) :
    (p.surroundings nesting).doctype = Doctype.none := by
  rw [Progress.surroundings, hp]
  rfl

/-- A tag inside another element begins its element without complaints. -/
theorem IsInside.beginsTag {f : Frame} {outer : List Frame} (h : IsInside binding p f outer)
    (hb : ∀ b ∈ binding, b.IsLegal) {children : List Element}
    (hwritable : Element.IsWritable ⟨name, attributes, children⟩)
    (hroom : p.frames.length < Progress.maxDepth) {s : Text}
    (hspells : SpellsRows attributes.rows s) (isEmpty : Bool) (u : Text) :
    BeginsTag binding name attributes [] isEmpty p
      (openingText (rawName binding name) s isEmpty ++ u) u := by
  have hname : isLocal name := hwritable.name
  have hrows : ∀ row ∈ attributes.rows,
      isLocal row.1 ∧ row.1 ≠ declarationSpace ∧ ∀ c ∈ row.2, isChar c := hwritable.rows
  refine ⟨h.going, fun hnil => ?_, hroom, by rw [h.told, Bool.and_self], ?_⟩
  · rw [h.frames] at hnil
    cases hnil
  · obtain ⟨ws, left, hread, hws⟩ := readsPiece_openingText (isName_rawName hb hname) hspells
      (fun row hrow => ⟨isName_of_isLocal (hrows row hrow).1, (hrows row hrow).2.2⟩) isEmpty false u
    have hs := surroundings_doctype h.undeclared Doctype.maxNesting
    have hscope : p.scope = scopeOf binding := by
      rw [Progress.scope, h.frames]
      exact h.scope
    have hdraft := readAttributes_rows hs (by rw [ofRaw?_rawName hb hname]; rfl) p.account
      (fun row hrow => ⟨(hrows row hrow).1, (hrows row hrow).2.1⟩) hws
    exact ⟨ws, left, hread, Tag.read_rawName hs hb hwritable hscope p.ids left hdraft⟩

/-- Inside an opened element stands what is written between its tags. -/
theorem BeginsTag.isInside_entering {isEmpty : Bool}
    (h : BeginsTag binding name attributes cs isEmpty p t u) (hundeclared : p.doctype = none) :
    IsInside binding (entering p binding cs name attributes) (frameIn binding name attributes)
      p.frames :=
  ⟨h.going_entering, hundeclared, rfl, rfl, rfl⟩

theorem endsData_openingText (raw s : Text) (isEmpty : Bool) (u : Text) :
    EndsData (openingText raw s isEmpty ++ u) := by
  intro c hc
  cases hc
  exact Or.inl rfl

theorem endsData_closingText (raw u : Text) : EndsData (closingText raw ++ u) := by
  intro c hc
  cases hc
  exact Or.inl rfl

theorem IsInside.reaches_asides {f : Frame} {outer : List Frame} (h : IsInside binding p f outer)
    {targets : List Text} (hasides : SpellsAsides true targets t) (hu : EndsData u) :
    Reaches false p (t ++ u) (p.complainAll (targets.flatMap targetComplaints)) u := by
  refine Document.reaches_asides hasides h.going (fun _ => ?_) hu
  rw [h.frames]
  exact List.cons_ne_nil f outer

/-- A forest is read as it is, however it is written, with complaints about the targets of the
instructions in it. -/
theorem reaches_forest (hb : ∀ b ∈ binding, b.IsLegal) {es : List Element} {targets : List Text}
    {t : Text} (h : SpellsForest binding es targets t) {p : Progress} {f : Frame}
    {outer : List Frame} (hp : IsInside binding p f outer)
    (hwritable : ∀ x ∈ Drawing.forestElements es, x.IsWritable)
    (hdepth : outer.length + 1 + forestDepth es ≤ Progress.maxDepth) {u : Text} (hu : EndsData u) :
    Reaches false p (t ++ u)
      (filled (p.complainAll (targets.flatMap targetComplaints)) f outer es) u := by
  -- On the ways of writing the forest; the frame and the frames around it change on the way down.
  induction h generalizing p f outer u with
  | @asides targets t hasides =>
      rw [filled_nil (hp.complainAll _).frames]
      exact hp.reaches_asides hasides hu
  | @single name attributes s rows t rest before after hasides hrows _ ih =>
      simp only [Drawing.forestElements, Drawing.elements, List.cons_append, List.nil_append,
        List.forall_mem_cons] at hwritable
      simp only [forestDepth, Element.depth] at hdepth
      have hbefore := hp.reaches_asides hasides
        (endsData_openingText (rawName binding name) rows true (t ++ u))
      have hinside := hp.complainAll (before.flatMap targetComplaints)
      have htag := (hinside.beginsTag hb hwritable.1 (by
        rw [hinside.frames, List.length_cons]
        omega) hrows true (t ++ u)).reaches_single
      rw [hinside.afterTag_nil, finish_eq_filled hinside.frames] at htag
      have hrest := ih (hinside.filled [⟨name, attributes, []⟩]) hwritable.2 (by omega) hu
      rw [filled_cons] at hrest
      rw [List.flatMap_append, complainAll_append]
      simp only [List.append_assoc]
      exact hbefore.trans (htag.trans hrest)
  | @around name attributes s rows inner t children rest before inside after hasides hrows _ _
      ihinside ihrest =>
      simp only [Drawing.forestElements, Drawing.elements, List.cons_append,
        List.forall_mem_cons, List.forall_mem_append] at hwritable
      simp only [forestDepth, Element.depth] at hdepth
      have hbefore := hp.reaches_asides hasides (endsData_openingText (rawName binding name) rows
        false (inner ++ (closingText (rawName binding name) ++ (t ++ u))))
      have hinside := hp.complainAll (before.flatMap targetComplaints)
      have hlength : (p.complainAll (before.flatMap targetComplaints)).frames.length =
          outer.length + 1 := by
        rw [hinside.frames, List.length_cons]
      have hbegins := hinside.beginsTag hb hwritable.1 (by omega) hrows false
        (inner ++ (closingText (rawName binding name) ++ (t ++ u)))
      -- The children are read inside the new frame, the rest inside the old one.
      have hchildren := ihinside (hbegins.isInside_entering hinside.undeclared) hwritable.2.1
        (by omega) (endsData_closingText (rawName binding name) (t ++ u))
      have htag := hbegins.reaches_around (isName_rawName hb hwritable.1.name) hchildren
      have hfinish := finish_eq_filled
        (hinside.complainAll (inside.flatMap targetComplaints)).frames ⟨name, attributes, children⟩
      rw [hinside.afterTag_nil] at htag
      have hrest := ihrest ((hinside.complainAll (inside.flatMap targetComplaints)).filled
        [⟨name, attributes, children⟩]) hwritable.2.2 (by omega) hu
      rw [filled_cons, ← hfinish] at hrest
      rw [List.flatMap_append, List.flatMap_append, complainAll_append, complainAll_append]
      simp only [List.append_assoc]
      exact hbefore.trans (htag.trans hrest)

/-! ## The root in a reading -/

/-- A reading before the root. -/
structure AwaitsRoot (p : Progress) : Prop where
  going : Going p
  undeclared : p.doctype = none
  told : p.isTellable = true
  frames : p.frames = []
  root : p.root = none

theorem AwaitsRoot.complainAll (h : AwaitsRoot p) (cs : List Complaint) :
    AwaitsRoot (p.complainAll cs) :=
  ⟨⟨h.going.going, h.going.plain, h.going.single⟩, h.undeclared, h.told, h.frames, h.root⟩

/-- The tag of the root declares its space, wherever it does so, and what is said about that is
complained about. -/
theorem AwaitsRoot.exists_beginsTag (h : AwaitsRoot p) (hb : ∀ b ∈ binding, b.IsLegal)
    {children : List Element} (hwritable : Element.IsWritable ⟨name, attributes, children⟩)
    {first last : List (Text × Text)} (hrows : attributes.rows = first ++ last) {s : Text}
    (hspells : SpellsRows (first ++ (binding.map Binding.row).toList ++ last) s)
    (isEmpty : Bool) (u : Text) :
    ∃ cs, cs.map Complaint.severity = (complaintsOf binding).map Complaint.severity ∧
      BeginsTag binding name attributes cs isEmpty p
        (openingText (rawName binding name) s isEmpty ++ u) u := by
  have hname : isLocal name := hwritable.name
  have hown : ∀ row ∈ first ++ last,
      isLocal row.1 ∧ row.1 ≠ declarationSpace ∧ ∀ c ∈ row.2, isChar c := by
    rw [← hrows]
    exact hwritable.rows
  have hall : ∀ row ∈ first ++ (binding.map Binding.row).toList ++ last,
      isName row.1 ∧ ∀ c ∈ row.2, isChar c := by
    intro row hrow
    rw [List.append_assoc, List.mem_append, List.mem_append] at hrow
    rcases hrow with hrow | hrow | hrow
    · have hplain := hown row (List.mem_append_left _ hrow)
      exact ⟨isName_of_isLocal hplain.1, hplain.2.2⟩
    · obtain ⟨b, hmem, rfl⟩ := Option.map_eq_some_iff.1 (Option.mem_toList.1 hrow)
      have hlegal := hb b hmem
      exact ⟨isName_of_space (by decide) (isName_of_isLocal hlegal.space), hlegal.uri⟩
    · have hplain := hown row (List.mem_append_right _ hrow)
      exact ⟨isName_of_isLocal hplain.1, hplain.2.2⟩
  obtain ⟨ws, left, hread, hws⟩ := readsPiece_openingText (isName_rawName hb hname) hspells hall
    isEmpty false u
  have hs := surroundings_doctype h.undeclared Doctype.maxNesting
  obtain ⟨cs, hcs, hdraft⟩ := readAttributes_rows_binding hs
    (rawName binding name) (by rw [ofRaw?_rawName hb hname]; rfl) p.account hb
    (fun row hrow => ⟨(hown row hrow).1, (hown row hrow).2.1⟩) hws
  rw [← hrows] at hdraft
  have hscope : scopeOf binding ++ p.scope = scopeOf binding := by
    rw [Progress.scope, h.frames, List.append_nil]
  refine ⟨cs, hcs, h.going, fun _ => h.root, ?_, by rw [h.told, Bool.true_and], ws, left, hread,
    Tag.read_rawName hs hb hwritable hscope p.ids left hdraft⟩
  rw [h.frames]
  decide

theorem AwaitsRoot.going_finish (h : AwaitsRoot p) (binding : Option Binding)
    (cs ds : List Complaint) (e : Element) :
    Going (((afterTag p binding cs).complainAll ds).finish e []) :=
  ⟨h.going.going, h.going.plain, fun hne => absurd rfl hne⟩

/-- The root is read as it is, however it is written. -/
theorem AwaitsRoot.exists_reaches (h : AwaitsRoot p) (hb : ∀ b ∈ binding, b.IsLegal) {e : Element}
    {inside : List Text} (hspells : SpellsRoot binding e inside t)
    (hwritable : ∀ x ∈ Drawing.elements e, x.IsWritable) (hdepth : e.depth ≤ Progress.maxDepth)
    (u : Text) :
    ∃ cs, cs.map Complaint.severity = (complaintsOf binding).map Complaint.severity ∧
      Reaches false p (t ++ u)
        (((afterTag p binding cs).complainAll (inside.flatMap targetComplaints)).finish e [])
        u := by
  cases hspells with
  | single name attributes first last hrows hspells =>
      rw [Drawing.elements, List.forall_mem_cons] at hwritable
      obtain ⟨cs, hcs, hbegins⟩ := h.exists_beginsTag hb hwritable.1 hrows hspells true u
      have htag := hbegins.reaches_single
      rw [h.frames] at htag
      exact ⟨cs, hcs, htag⟩
  | @around name attributes s inner first last children inside hrows hspells hforest =>
      rw [Drawing.elements, List.forall_mem_cons] at hwritable
      rw [Element.depth] at hdepth
      obtain ⟨cs, hcs, hbegins⟩ := h.exists_beginsTag hb hwritable.1 hrows hspells false
        (inner ++ (closingText (rawName binding name) ++ u))
      have hchildren := reaches_forest hb hforest (hbegins.isInside_entering h.undeclared)
        hwritable.2 (by rw [h.frames, List.length_nil]; omega)
        (endsData_closingText (rawName binding name) u)
      have htag := hbegins.reaches_around (isName_rawName hb hwritable.1.name) hchildren
      rw [h.frames] at htag
      refine ⟨cs, hcs, ?_⟩
      simp only [List.append_assoc]
      exact htag

/-! ## Documents -/

/-- The complaints about a document in the order of its text: about the targets of instructions,
and about what the root declares. -/
def documentComplaints (binding : Option Binding) (before after : List Text) : Complaints :=
  Complaints.none.addAll (before.flatMap targetComplaints ++ complaintsOf binding ++
    after.flatMap targetComplaints)

/-- A text that spells a tree is taken to its end with the tree as its root, and the complaints
are as grave as those about the targets of its instructions and its declaration. -/
theorem exists_reaches_document (hb : ∀ b ∈ binding, b.IsLegal) {e : Element}
    {before after : List Text} (h : SpellsDocument binding e before after t)
    (hwritable : ∀ x ∈ Drawing.elements e, x.IsWritable) (hdepth : e.depth ≤ Progress.maxDepth) :
    ∃ r, Reaches false (.start (.bare t)) t r [] ∧ r.frames = [] ∧ r.root = some e ∧
      r.isTellable = areTold binding ∧
        r.account.complaints.severities = (documentComplaints binding before after).severities := by
  obtain @⟨s, root, u, inside, later, hbefore, hroot, hafter⟩ := h
  have hstart : AwaitsRoot (.start (.bare (s ++ (root ++ u)))) :=
    ⟨going_start _, rfl, rfl, rfl, rfl⟩
  have hends : EndsData (root ++ u) := by
    cases hroot with
    | single _ _ _ _ _ _ => exact endsData_openingText _ _ _ _
    | around _ _ _ _ _ _ _ =>
        rw [List.append_assoc]
        exact endsData_openingText _ _ _ _
  have hfirst := reaches_asides hbefore hstart.going
    (fun hfalse => absurd hfalse Bool.false_ne_true) hends
  have hawaits := hstart.complainAll (before.flatMap targetComplaints)
  obtain ⟨cs, hcs, hread⟩ := hawaits.exists_reaches hb hroot hwritable hdepth u
  have hlast := reaches_asides (u := []) hafter
    (hawaits.going_finish binding cs (inside.flatMap targetComplaints) e)
    (fun hfalse => absurd hfalse Bool.false_ne_true) (fun c hc => by cases hc)
  rw [List.append_nil] at hlast
  refine ⟨_, hfirst.trans (hread.trans hlast), rfl, rfl, rfl, ?_⟩
  -- The complaints are those of the parts one after another, and `cs` is as grave as the
  -- declaration's.
  have hall : (((Complaints.none.addAll (before.flatMap targetComplaints)).addAll cs).addAll
      (inside.flatMap targetComplaints)).addAll (later.flatMap targetComplaints) =
        Complaints.none.addAll (before.flatMap targetComplaints ++ cs ++
          (inside ++ later).flatMap targetComplaints) := by
    simp only [List.flatMap_append, Complaints.addAll_append]
  refine (congrArg Complaints.severities hall).trans (Complaints.severities_addAll rfl ?_)
  simp only [List.map_append, hcs]

theorem faultOf_ne_untellable (whole : Text) (s : Stop) : faultOf whole s ≠ .untellable := by
  cases s with
  | none => exact Fault.noConfusion
  | some note => exact Fault.noConfusion

/-- A text that spells a tree is read as the tree when its complaints are forgiven and names can be
told from the namespace; it is not read otherwise. -/
theorem parse_of_spells (hb : ∀ b ∈ binding, b.IsLegal) {e : Element} {before after : List Text}
    (h : SpellsDocument binding e before after t)
    (hwritable : ∀ x ∈ Drawing.elements e, x.IsWritable) (hdepth : e.depth ≤ Progress.maxDepth) :
    ∃ fault, fault ≠ Fault.untellable ∧ parse t =
      if (documentComplaints binding before after).areForgiven then
        if areTold binding then .ok e else .error .untellable
      else .error fault := by
  obtain ⟨r, hreaches, hframes, hroot, htold, hseverities⟩ :=
    exists_reaches_document hb h hwritable hdepth
  have hparse := (parse_of_reaches hreaches (by rw [hroot]; exact Option.some_ne_none e)).1
  refine ⟨_, faultOf_ne_untellable t (r.account.complaints.blame none), ?_⟩
  rw [hparse, conclude, hframes, hroot]
  simp only [Complaints.areForgiven_congr hseverities, htold, Opened.bare, Bool.false_and,
    Bool.false_eq_true, if_false]
  cases (documentComplaints binding before after).areForgiven with
  | false => rfl
  | true => rfl

/-- The target of an instruction is an error only for a colon in it. -/
theorem targetComplaints_ne_error {target : Text} (hcolon : ':' ∉ target) :
    ∀ c ∈ targetComplaints target, c.severity ≠ .error := by
  intro c hc
  have hfree : target.contains ':' = false := by simpa using hcolon
  simp only [targetComplaints, hfree, Bool.false_eq_true, if_false, List.append_nil] at hc
  split at hc
  · rw [List.mem_singleton.1 hc]
    decide
  · cases hc

/-- Complaints of which none is an error are forgiven. -/
theorem areForgiven_documentComplaints {before after : List Text}
    (htargets : ∀ target ∈ before ++ after, ':' ∉ target)
    (hb : ∀ b ∈ binding, b.isReference = true) :
    (documentComplaints binding before after).areForgiven = true := by
  have hdeclared : ∀ b ∈ binding, b.complaints = [] := fun b hmem => if_pos (hb b hmem)
  refine areForgiven_of_isFaultless (a := Account.empty.complainAll _)
    (Account.isFaultless_complainAll.2 ⟨rfl, fun c hc => ?_⟩)
  rw [List.mem_append, List.mem_append] at hc
  rcases hc with (hc | hc) | hc
  · obtain ⟨target, hmem, hc⟩ := List.mem_flatMap.1 hc
    exact targetComplaints_ne_error (htargets target (List.mem_append_left _ hmem)) c hc
  · obtain ⟨b, hmem, hc⟩ := List.mem_flatMap.1 hc
    rw [hdeclared b (Option.mem_toList.1 hmem)] at hc
    cases hc
  · obtain ⟨target, hmem, hc⟩ := List.mem_flatMap.1 hc
    exact targetComplaints_ne_error (htargets target (List.mem_append_right _ hmem)) c hc

end Document

end Iconsmith.Markup

namespace Iconsmith.Drawing

open Markup Markup.Document

/-- However a drawing is written, with quotes of either kind, tags of either kind, a space for its
elements and asides wherever they may stand, the tree that has been written is read, or none:
whether it is read rests on the complaints about targets and about the declaration of the space,
of which the last recorded one must not be an error, and on whether names can be told from the
namespace. It always is read when no target has a colon and the namespace is a reference. -/
theorem read_of_spells {binding : Option Binding} (hb : ∀ b ∈ binding, b.IsLegal) {e : Element}
    {before after : List Text} {t : Text} (h : SpellsDocument binding e before after t)
    (hname : e.name = rootName) (hwritable : ∀ x ∈ elements e, x.IsWritable)
    (hdepth : e.depth ≤ Progress.maxDepth) :
    (∃ fault, fault ≠ Document.Fault.untellable ∧ read t =
        if (documentComplaints binding before after).areForgiven then
          if areTold binding then .ok e else .error (.unreadable .untellable)
        else .error (.unreadable fault)) ∧
      ((∀ target ∈ before ++ after, ':' ∉ target) →
        (∀ b ∈ binding, b.isReference = true ∧ b.isTold = true) → read t = .ok e) := by
  obtain ⟨fault, hfault, hparse⟩ := parse_of_spells hb h hwritable hdepth
  have hread : read t =
      if (documentComplaints binding before after).areForgiven then
        if areTold binding then .ok e else .error (.unreadable .untellable)
      else .error (.unreadable fault) := by
    rw [read, hparse]
    cases (documentComplaints binding before after).areForgiven with
    | false => rfl
    | true =>
        cases areTold binding with
        | false => rfl
        | true => exact if_pos hname
  refine ⟨⟨fault, hfault, hread⟩, fun htargets hreferences => ?_⟩
  have hforgiven := areForgiven_documentComplaints htargets fun b hmem => (hreferences b hmem).1
  have htold : areTold binding = true := by
    cases binding with
    | none => rfl
    | some b => exact (hreferences b rfl).2
  rw [hread, if_pos hforgiven, if_pos htold]

/-! ## A drawing in a space of its own -/

/-- A drawing with two groups in it. -/
def paired : Element :=
  ⟨rootName, Table.ofList [("x".toList, "1\"".toList), ("y".toList, "<".toList)],
    [⟨"g".toList, Table.empty, []⟩, ⟨"g".toList, Table.ofList [("z".toList, "é".toList)], []⟩]⟩

/-- The space in which it is written. -/
def pairedSpace : Binding := ⟨"p".toList, "urn:x".toList⟩

/-- The drawing in quotes of both kinds and tags of both kinds, with asides wherever they may
stand. -/
def pairedText : Text :=
  ("<?a b?><p:svg x='1\"' xmlns:p=\"urn:x\" y=\"&lt;\">t<!-- c --><p:g/>u" ++
    "<p:g z='&#233;'></p:g><?xmlfoo?></p:svg> ").toList

theorem spellsDocument_pairedText :
    SpellsDocument (some pairedSpace) paired ["a".toList] ["xmlfoo".toList] pairedText := by
  have hx : SpellsValue '\'' "1\"".toList "1\"".toList :=
    .cons (.plain (by decide)) (.cons (.plain (by decide)) .nil)
  have huri : SpellsValue '"' "urn:x".toList "urn:x".toList :=
    .cons (.plain (by decide)) (.cons (.plain (by decide)) (.cons (.plain (by decide))
      (.cons (.plain (by decide)) (.cons (.plain (by decide)) .nil))))
  have hy : SpellsValue '"' "<".toList "&lt;".toList :=
    .cons (.named "lt".toList (by decide)) .nil
  have hz : SpellsValue '\'' "é".toList "&#233;".toList :=
    .cons (.numbered "233".toList (by decide) (by decide) (by decide)) .nil
  have hbetween : SpellsAsides true [] "u".toList :=
    .data "u".toList (by decide) (by decide) (Or.inl rfl) (by decide) .nil
  have hlast : SpellsForest (some pairedSpace) _ _ _ :=
    .around "g".toList (Table.ofList [("z".toList, "é".toList)]) hbetween
      (.cons "z".toList (by decide) hz .nil) (.asides .nil)
      (.asides (.instruction "xmlfoo".toList [] (by decide) (by decide) .nil))
  have hfirst : SpellsAsides true [] "t<!-- c -->".toList :=
    .data "t".toList (by decide) (by decide) (Or.inl rfl) (by decide)
      (.comment " c ".toList (by decide) .nil)
  have hroot : SpellsRoot (some pairedSpace) _ _ _ := .around rootName
    (Table.ofList [("x".toList, "1\"".toList), ("y".toList, "<".toList)])
    [("x".toList, "1\"".toList)] [("y".toList, "<".toList)] rfl
    (.cons "x".toList (by decide) hx (.cons pairedSpace.row.1 (by decide) huri
      (.cons "y".toList (by decide) hy .nil)))
    (.single "g".toList Table.empty hfirst .nil hlast)
  have hdocument := SpellsDocument.intro
    (.instruction "a".toList " b".toList (by decide) (by decide) .nil) hroot
    (.data " ".toList (by decide) (by decide) (Or.inr (by decide)) (by decide) .nil)
  refine Eq.subst (motive := SpellsDocument _ _ _ _) (?_ : _ = pairedText) hdocument
  decide +kernel

theorem read_of_spells_pairedText :
    (∀ b ∈ some pairedSpace, b.IsLegal) ∧
      SpellsDocument (some pairedSpace) paired ["a".toList] ["xmlfoo".toList] pairedText ∧
        paired.name = rootName ∧ (∀ x ∈ elements paired, x.IsWritable) ∧
          paired.depth ≤ Progress.maxDepth ∧ read pairedText = .ok paired := by
  have hlegal : ∀ b ∈ some pairedSpace, b.IsLegal := by
    rintro _ ⟨⟩
    decide
  have hreference : ∀ b ∈ some pairedSpace, b.isReference = true ∧ b.isTold = true := by
    rintro _ ⟨⟩
    decide
  have hwritable : ∀ x ∈ elements paired, x.IsWritable := by decide
  have hread := read_of_spells hlegal spellsDocument_pairedText rfl hwritable (by decide)
  exact ⟨hlegal, spellsDocument_pairedText, rfl, hwritable, by decide,
    hread.2 (by decide) hreference⟩

/-! ## A target with a colon -/

/-- A root with an instruction in it, whose target has a colon. -/
def colonText : Text := "<svg><?a:b?></svg>".toList

theorem spellsDocument_colonText :
    SpellsDocument none ⟨rootName, Table.empty, []⟩ [] ["a:b".toList] colonText := by
  have hroot : SpellsRoot none _ _ _ := .around rootName Table.empty [] [] rfl .nil
    (.asides (.instruction "a:b".toList [] (by decide) (by decide) .nil))
  exact .intro .nil hroot .nil

/-- Not all that is well formed is read: colons are not for the targets of instructions. -/
theorem not_forall_read_of_spells :
    ¬∀ (binding : Option Binding) (e : Element) (before after : List Text) (t : Text),
      (∀ b ∈ binding, b.IsLegal) → SpellsDocument binding e before after t →
        e.name = rootName → (∀ x ∈ elements e, x.IsWritable) → e.depth ≤ Progress.maxDepth →
          read t = .ok e := by
  intro hall
  have hread := hall none _ [] _ colonText (fun b hb => nomatch hb) spellsDocument_colonText rfl
    (by decide) (by decide)
  have hfails : (read colonText).toOption.isNone = true := by decide
  rw [hread] at hfails
  cases hfails

end Iconsmith.Drawing
