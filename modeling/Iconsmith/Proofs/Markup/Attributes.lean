import Iconsmith.Proofs.Markup.Names
import Iconsmith.Proofs.Markup.Openings

set_option autoImplicit false

/-!
# Attributes of elements that have been read

The elements of a document are made of its opening tags, one after another. The attributes of an
element are kept by their local names, so it has an entry for each local name, at the place where
that came first and with the value of an attribute that has it. Attributes of one local name with
different spaces share an entry, and the last of them overwrites the others
(`attributes_of_read`).
-/

namespace Iconsmith.Markup

/-! ## Attributes of a tag -/

/-- The attributes of a tag that declare no namespace. -/
def carried (ws : List Written) : List Written :=
  ws.filter fun w => (declared? (QName.ofRaw w.raw)).isNone

/-- The name of an attribute without its space. -/
def localName (w : Written) : Text := (QName.ofRaw w.raw).base

/-- The value of an attribute as it is normalised for its element. -/
def normalValue (s : Surroundings) (element : Text) (w : Written) : List Part :=
  (((s.rule? element w.raw).map AttributeRule.type).getD .free).normal w.value

/-- The value that an attribute has by itself, whatever else stands in its tag. -/
def ownValue (s : Surroundings) (account : Account) (element : Text) (w : Written) : Text :=
  s.entities.valueOf account Doctype.maxNesting (normalValue s element w)

/-- What the attributes of a tag come to: the entries go by the local names, each at the place of
its first attribute and with the own value of one of them. All attributes are kept exactly if
their local names are distinct. The last one of a local name counts where no other one can be
taken for it, since one of the two has a space and the other has none. -/
structure IsTableOf (s : Surroundings) (account : Account) (element : Text) (ws : List Written)
    (table : Table Text Text) : Prop where
  keys : table.keys = ((carried ws).map localName).eraseDups
  value : ∀ row ∈ table.rows, ∃ w ∈ carried ws, row = (localName w, ownValue s account element w)
  all : table.rows = ((carried ws).map fun w => (localName w, ownValue s account element w)) ↔
    ((carried ws).map localName).Nodup
  last : ∀ before w after, carried ws = before ++ w :: after →
    (∀ v ∈ after, localName v ≠ localName w) →
      (∀ v ∈ before, localName v = localName w →
        (QName.ofRaw v.raw).space.isSome ≠ (QName.ofRaw w.raw).space.isSome) →
        table.get? (localName w) = some (ownValue s account element w)

/-- The attribute that is taken from what is written. -/
def taken (s : Surroundings) (element : Text) (w : Written) : Attribute :=
  ⟨w.raw, QName.ofRaw w.raw, normalValue s element w⟩

theorem Draft.attributes_take {s : Surroundings} {element : Text} {d d' : Draft} {w : Written}
    (h : d.take s element w = .ok d') :
    d'.attributes.reverse = d.attributes.reverse ++ (carried [w]).map (taken s element) := by
  obtain ⟨d₁, hentities, h⟩ := bind_eq_ok.1 h
  have hsame : d₁.attributes = d.attributes := by
    rw [attributes_takeEntities hentities]
    split <;> rfl
  split at h
  · rename_i space hdeclared
    rw [attributes_takeDeclaration h]
    simp [carried, hdeclared, hsame]
  · rename_i hdeclared
    cases h
    simp [carried, hdeclared, hsame, taken, normalValue]

/-- The attributes that declare nothing are taken in their order. -/
theorem attributes_readAttributes {s : Surroundings} {account : Account} {raw : Text}
    {ws : List Written} {d : Draft} (h : readAttributes s account raw ws = .ok d) :
    d.attributes.reverse = (carried ws).map (taken s raw) := by
  have hfold : ∀ {ws : List Written} {d d' : Draft}, ws.foldlM (Draft.take s raw) d = .ok d' →
      d'.attributes.reverse = d.attributes.reverse ++ (carried ws).map (taken s raw) := by
    intro ws
    induction ws with
    | nil =>
        intro d d' h
        cases h
        simp [carried]
    | cons w ws ih =>
        intro d d' h
        rw [List.foldlM_cons] at h
        obtain ⟨next, hnext, hrest⟩ := bind_eq_ok.1 h
        have hcarried : carried (w :: ws) = carried [w] ++ carried ws :=
          List.filter_append [w] ws
        rw [ih hrest, Draft.attributes_take hnext, hcarried, List.map_append, List.append_assoc]
  exact hfold h

/-! ## Names that can be told -/

/-- A name that has been cut holds a colon. -/
theorem mem_of_space_ofRaw {raw space : Text} (h : (QName.ofRaw raw).space = some space) :
    ':' ∈ raw := by
  rw [QName.ofRaw, QName.ofRaw?] at h
  cases hcut : Text.cutFirst ':' raw with
  | none =>
      rw [hcut] at h
      cases h
  | some parts =>
      obtain ⟨before, after⟩ := parts
      rw [(Text.cutFirst_eq_some.1 hcut).1]
      exact List.mem_append_right _ List.mem_cons_self

/-- A name that can be told is kept without its space, which is declared. -/
theorem keptName_of_canTell {raw : Text} {namespace? : Option Text}
    (h : canTell namespace? (keptName namespace? (QName.ofRaw raw) raw)) :
    keptName namespace? (QName.ofRaw raw) raw = (QName.ofRaw raw).base ∧
      ((QName.ofRaw raw).space.isSome → namespace?.isSome) := by
  rw [keptName] at h ⊢
  cases hspace : (QName.ofRaw raw).space with
  | none =>
      refine ⟨rfl, fun hsome => ?_⟩
      cases hsome
  | some space =>
      cases namespace? with
      | some uri => exact ⟨rfl, fun _ => rfl⟩
      | none =>
          have hcolon := mem_of_space_ofRaw hspace
          rw [hspace] at h
          simp [canTell, hcolon] at h

/-- The namespace of an attribute in a scope. -/
def spaceIn (scope : Scope) (w : Written) : Option Text :=
  (QName.ofRaw w.raw).space.bind scope.namespace?

/-- The names of attributes can be told in a scope. -/
def AreTold (scope : Scope) (ws : List Written) : Prop :=
  ∀ w ∈ ws, canTell (spaceIn scope w) (keptName (spaceIn scope w) (QName.ofRaw w.raw) w.raw)

/-- An attribute whose name can be told has a namespace exactly if it has a space. -/
theorem AreTold.isSome_spaceIn {scope : Scope} {ws : List Written} (h : AreTold scope ws)
    {w : Written} (hw : w ∈ ws) :
    (spaceIn scope w).isSome = (QName.ofRaw w.raw).space.isSome := by
  have hdeclared := (keptName_of_canTell (h w hw)).2
  cases hspace : (QName.ofRaw w.raw).space with
  | none =>
      rw [spaceIn, hspace]
      rfl
  | some space =>
      rw [hspace] at hdeclared
      exact hdeclared rfl

/-! ## Tables of attributes -/

section Table

variable {scope : Scope} {s : Surroundings} {account : Account} {element : Text}
  {ws : List Written}

/-- What an attribute is looked up by, and the parts of its value. -/
def keyed (scope : Scope) (s : Surroundings) (element : Text) (w : Written) :
    (Option Text × Text) × List Part :=
  ((spaceIn scope w, localName w), normalValue s element w)

/-- The parts of the value that an attribute is given: those of the first one that it cannot be
told from. -/
def givenValue (scope : Scope) (s : Surroundings) (element : Text) (ws : List Written)
    (w : Written) : List Part :=
  (((carried ws).map (keyed scope s element)).lookup (spaceIn scope w, localName w)).getD
    (normalValue s element w)

/-- An attribute has the value of one with its local name. -/
theorem exists_givenValue_eq {w : Written} (hw : w ∈ carried ws) : ∃ v ∈ carried ws,
    localName v = localName w ∧ givenValue scope s element ws w = normalValue s element v := by
  rw [givenValue]
  cases hlookup : ((carried ws).map (keyed scope s element)).lookup
      (spaceIn scope w, localName w) with
  | none => exact ⟨w, hw, rfl, rfl⟩
  | some value =>
      obtain ⟨before, after, heq, -⟩ := List.lookup_eq_some_iff.1 hlookup
      have hmem : ((spaceIn scope w, localName w), value) ∈
          (carried ws).map (keyed scope s element) := by
        rw [heq]
        exact List.mem_append_right _ List.mem_cons_self
      obtain ⟨v, hv, hkeyed⟩ := List.mem_map.1 hmem
      obtain ⟨hkey, hvalue⟩ := Prod.mk.inj hkeyed
      exact ⟨v, hv, (Prod.mk.inj hkey).2, hvalue.symm⟩

/-- An attribute has its own value where no earlier one is taken for it. -/
theorem givenValue_of_first {before after : List Written} {w : Written}
    (hcarried : carried ws = before ++ w :: after)
    (hbefore : ∀ v ∈ before, localName v = localName w → spaceIn scope v ≠ spaceIn scope w) :
    givenValue scope s element ws w = normalValue s element w := by
  have hlookup : ((carried ws).map (keyed scope s element)).lookup
      (spaceIn scope w, localName w) = some (normalValue s element w) := by
    rw [hcarried, List.map_append, List.map_cons]
    refine List.lookup_eq_some_iff.2 ⟨_, _, rfl, fun pair hpair => ?_⟩
    obtain ⟨v, hv, rfl⟩ := List.mem_map.1 hpair
    refine bne_iff_ne.2 fun heq => ?_
    obtain ⟨hspace, hname⟩ := Prod.mk.inj heq
    exact hbefore v hv hname.symm hspace.symm
  rw [givenValue, hlookup]
  rfl

/-- The table of attributes whose names can be told. -/
theorem attributeTable_eq {valueOf : List Part → Text}
    (htold : AreTold scope (carried ws)) :
    attributeTable scope valueOf ((carried ws).map (taken s element)) =
      Table.ofList ((carried ws).map fun w =>
        (localName w, valueOf (givenValue scope s element ws w))) := by
  have hnamed : ((carried ws).map (taken s element)).map (fun a =>
      let name := a.name.expanded scope
      ((name.space, keptName name.space a.name a.raw), a.value)) =
        (carried ws).map (keyed scope s element) := by
    rw [List.map_map]
    refine List.map_congr_left fun w hw => ?_
    show ((spaceIn scope w, keptName (spaceIn scope w) (QName.ofRaw w.raw) w.raw), _) = _
    rw [(keptName_of_canTell (htold w hw)).1]
    rfl
  rw [attributeTable, hnamed, List.map_map]
  rfl

theorem map_fst_localName (value : Written → Text) (vs : List Written) :
    (vs.map fun w => (localName w, value w)).map Prod.fst = vs.map localName := by
  rw [List.map_map]
  rfl

/-- All attributes are kept with their own values exactly if their local names are distinct. -/
theorem rows_ofList_givenValue_iff {valueOf : List Part → Text} :
    (Table.ofList ((carried ws).map fun w =>
        (localName w, valueOf (givenValue scope s element ws w)))).rows =
      ((carried ws).map fun w => (localName w, valueOf (normalValue s element w))) ↔
        ((carried ws).map localName).Nodup := by
  constructor
  · -- The keys of a table are distinct, whatever it was made of.
    intro hrows
    have hdistinct := (Table.ofList ((carried ws).map fun w =>
      (localName w, valueOf (givenValue scope s element ws w)))).distinct
    rwa [hrows, map_fst_localName] at hdistinct
  · intro hdistinct
    rw [Table.rows_ofList (by rwa [map_fst_localName])]
    refine List.map_congr_left fun w hw => ?_
    obtain ⟨before, after, hcarried⟩ := List.append_of_mem hw
    rw [givenValue_of_first hcarried]
    intro v hv hname
    rw [hcarried, List.map_append, List.map_cons] at hdistinct
    have hapart := (List.nodup_append.1 hdistinct).2.2 _ (List.mem_map_of_mem hv) _
      List.mem_cons_self
    exact absurd hname hapart

theorem isTableOf_attributeTable (htold : AreTold scope (carried ws)) :
    IsTableOf s account element ws (attributeTable scope
      (s.entities.valueOf account Doctype.maxNesting) ((carried ws).map (taken s element))) := by
  rw [attributeTable_eq htold]
  refine ⟨?_, ?_, rows_ofList_givenValue_iff, ?_⟩
  · rw [Table.keys_ofList, map_fst_localName]
  · intro row hrow
    obtain ⟨w, hw, rfl⟩ := List.mem_map.1 (Table.mem_of_mem_rows_ofList hrow)
    obtain ⟨v, hv, hname, hvalue⟩ : ∃ v ∈ carried ws, localName v = localName w ∧
        givenValue scope s element ws w = normalValue s element v := exists_givenValue_eq hw
    exact ⟨v, hv, by rw [hname, hvalue, ownValue]⟩
  · intro before w after hcarried hafter hbefore
    have hmem : ∀ v, v ∈ before ++ w :: after → v ∈ carried ws := fun v hv => hcarried ▸ hv
    -- The value given is that of the first attribute with the name in the same name space, and none
    -- before this one has both.
    have hvalue : givenValue scope s element ws w = normalValue s element w := by
      refine givenValue_of_first hcarried fun v hv hname hsame => hbefore v hv hname ?_
      rw [← htold.isSome_spaceIn (hmem v (List.mem_append_left _ hv)), hsame,
        htold.isSome_spaceIn (hmem w (by simp))]
    rw [hcarried, List.map_append, List.map_cons, Table.get?_ofList_of_last, hvalue, ownValue]
    rw [map_fst_localName]
    intro hlater
    obtain ⟨v, hv, hname⟩ := List.mem_map.1 hlater
    exact hafter v hv hname

end Table

/-- The attributes of a tag whose names can be told. -/
theorem Tag.isTableOf_read {s : Surroundings} {scope : Scope} {ids : List Text} {account : Account}
    {raw : Text} {ws : List Written} {left : Nat} {r : TagResult}
    (h : Tag.read s scope ids account raw ws left = .ok r) (htellable : r.tag.isTellable) :
    r.tag.name = (QName.ofRaw raw).base ∧ IsTableOf s r.account raw ws r.tag.attributes := by
  obtain ⟨draft, hdraft, h⟩ := bind_eq_ok.1 h
  simp only at h
  split at h
  · cases h
  · cases h
    obtain ⟨hattributes, hname⟩ := Bool.and_eq_true_iff.1 htellable
    refine ⟨(keptName_of_canTell hname).1, ?_⟩
    rw [attributes_readAttributes hdraft] at hattributes ⊢
    refine isTableOf_attributeTable fun w hw => ?_
    exact List.all_eq_true.1 hattributes _ (List.mem_map_of_mem hw)

/-! ## Trees as far as they have been read -/

open Drawing (elements forestElements)

/-- The name of an element and its attributes. -/
def Element.head (e : Element) : Text × Table Text Text := (e.name, e.attributes)

/-- The opening tag in a piece, unless it breaks off. -/
def Piece.tag? : Piece → Option (Text × List Written)
  | .opening raw ws ending _ => if ending = .broken then none else some (raw, ws)
  | _ => none

namespace Document

/-- The heads of an open element and of those that have been read in it. -/
def Frame.heads (f : Frame) : List (Text × Table Text Text) :=
  (f.tag.name, f.tag.attributes) :: (forestElements f.inside.reverse).map Element.head

/-- The heads of all elements that have been opened, in the order of their tags. -/
def Progress.heads (p : Progress) : List (Text × Table Text Text) :=
  (p.root.toList.flatMap elements).map Element.head ++ p.frames.reverse.flatMap Frame.heads

/-- There is one root, which is not there before it closes. -/
def Progress.IsSingle (p : Progress) : Prop := p.frames ≠ [] → p.root = none

variable {p p' : Progress}

theorem Frame.heads_eq (f : Frame) : f.heads = (elements f.element).map Element.head := rfl

theorem Progress.heads_of_root_eq_none (h : p.root = none) :
    p.heads = p.frames.reverse.flatMap Frame.heads := by
  rw [heads, h]
  rfl

/-- An element that closes comes after those before it. -/
theorem Progress.heads_finish (h : p.root = none) (e : Element) (frames : List Frame) :
    (p.finish e frames).heads =
      frames.reverse.flatMap Frame.heads ++ (elements e).map Element.head := by
  cases frames with
  | nil => simp [finish, heads]
  | cons f outer =>
      have hinside : Frame.heads ⟨f.raw, f.tag, e :: f.inside⟩ =
          f.heads ++ (elements e).map Element.head := by
        rw [Frame.heads, Frame.heads, forestElements_eq_flatMap, forestElements_eq_flatMap]
        simp
      rw [finish, heads_of_root_eq_none (by exact h), List.reverse_cons, List.flatMap_append,
        List.flatMap_singleton, hinside, List.reverse_cons, List.flatMap_append,
        List.flatMap_singleton, List.append_assoc]

theorem Progress.isSingle_finish (h : p.root = none) (e : Element) (frames : List Frame) :
    (p.finish e frames).IsSingle := by
  cases frames with
  | nil => exact fun hne => absurd rfl hne
  | cons f outer => exact fun _ => h

/-- What does not change when an element closes or something is noted. -/
structure Keeping (p p' : Progress) : Prop where
  heads : p'.heads = p.heads
  tellable : p'.isTellable = p.isTellable
  doctype : p'.doctype = p.doctype
  single : p'.IsSingle

theorem keeping_closeElement {raw : Text} (hp : p.IsSingle) (h : p.closeElement raw = .ok p') :
    Keeping p p' := by
  rw [Progress.closeElement] at h
  split at h
  · cases h
  · rename_i f outer hframes
    have hroot : p.root = none := hp (by rw [hframes]; exact List.cons_ne_nil f outer)
    split at h
    · cases h
      refine ⟨?_, ?_, ?_, Progress.isSingle_finish hroot _ _⟩
      · rw [Progress.heads_finish hroot, Progress.heads_of_root_eq_none hroot, hframes,
          List.reverse_cons, List.flatMap_append, List.flatMap_singleton, Frame.heads_eq]
      · exact finish_isTellable _ _ _
      · exact finish_doctype _ _ _
    · cases h

/-- What changes when a tag opens an element. -/
structure Opens (p p' : Progress) (tag : Text × List Written) (r : TagResult) : Prop where
  read : ∃ nesting scope ids account left,
    Tag.read (p.surroundings nesting) scope ids account tag.1 tag.2 left = .ok r
  heads : p'.heads = p.heads ++ [(r.tag.name, r.tag.attributes)]
  tellable : p'.isTellable = (p.isTellable && r.tag.isTellable)
  doctype : p'.doctype = p.doctype
  single : p'.IsSingle

/-- What a piece does to the tree: nothing, so that no tag is passed over before the reading is
over, or it sets the document type before the first tag, or it opens an element. -/
inductive Steps (p : Progress) (piece : Piece) (p' : Progress) : Prop where
  | keeps : Keeping p p' → piece.tag? = none ∨ p'.isOver = true → Steps p piece p'
  | doctype {d : Doctype} : piece = .doctype d → p.heads = [] →
      Keeping { p with doctype := some d } p' → Steps p piece p'
  | opens {tag : Text × List Written} {r : TagResult} : piece.tag? = some tag →
      Opens p p' tag r → Steps p piece p'

theorem steps_openElement {nesting : Nat} {raw : Text} {ws : List Written} {ending : Ending}
    {left : Nat} (hp : p.root = none)
    (h : p.openElement nesting raw ws ending left = .ok p') :
    Steps p (.opening raw ws ending left) p' := by
  rw [Progress.openElement] at h
  split at h
  · rename_i hbroken
    obtain ⟨draft, -, h⟩ := bind_eq_ok.1 h
    cases h
    exact .keeps ⟨rfl, rfl, rfl, fun _ => hp⟩ (Or.inl (if_pos hbroken))
  · rename_i hending
    split at h
    · cases h
    · obtain ⟨r, hread, h⟩ := bind_eq_ok.1 h
      simp only at h
      have hopened : Opens p { p with
          account := r.account
          frames := ⟨raw, r.tag, []⟩ :: p.frames
          ids := r.ids
          isTellable := p.isTellable && r.tag.isTellable } (raw, ws) r := by
        refine ⟨⟨_, _, _, _, _, hread⟩, ?_, rfl, rfl, fun _ => hp⟩
        simp [Progress.heads, Frame.heads, forestElements]
      refine .opens (r := r) (if_neg hending) ?_
      split at h
      · obtain ⟨hheads, htellable, hdoctype, hsingle⟩ := keeping_closeElement hopened.single h
        exact ⟨hopened.read, hheads.trans hopened.heads, htellable.trans hopened.tellable,
          hdoctype.trans hopened.doctype, hsingle⟩
      · cases h
        exact hopened

theorem steps_takeInside {depth : Nat} {piece : Piece} (hp : p.IsSingle)
    (hinside : p.frames ≠ []) (h : takeInside depth p piece = .ok p') : Steps p piece p' := by
  have hsame : ∀ {q : Progress}, Except.ok (ε := Stop) p = .ok q → Keeping p q := by
    rintro q heq
    cases heq
    exact ⟨rfl, rfl, rfl, hp⟩
  unfold takeInside at h
  split at h
  · exact steps_openElement (hp hinside) h
  · exact .keeps (keeping_closeElement hp h) (Or.inl rfl)
  · exact .keeps (hsame h) (Or.inl rfl)
  · exact .keeps (hsame h) (Or.inl rfl)
  · exact .keeps (hsame h) (Or.inl rfl)
  · exact .keeps (hsame h) (Or.inl rfl)
  · cases h
    exact .keeps ⟨rfl, rfl, rfl, hp⟩ (Or.inl rfl)
  · cases h
  · cases h
  · cases h
  · split at h
    · split at h
      · cases h
        exact .keeps ⟨rfl, rfl, rfl, hp⟩ (Or.inl rfl)
      · cases h
    · exact .keeps (hsame h) (Or.inl rfl)
    · cases h
    · split at h
      · cases h
      · obtain ⟨account, ids, rfl⟩ := exists_eq_of_takeReference h
        exact .keeps ⟨rfl, rfl, rfl, hp⟩ (Or.inl rfl)

theorem steps_takeBefore {piece : Piece} (hroot : p.root = none) (hframes : p.frames = [])
    (h : takeBefore p piece = .ok p') : Steps p piece p' := by
  unfold takeBefore at h
  split at h
  · exact steps_openElement hroot h
  · cases h
    exact .keeps ⟨rfl, rfl, rfl, fun _ => hroot⟩ (Or.inl rfl)
  · cases h
    exact .keeps ⟨rfl, rfl, rfl, fun _ => hroot⟩ (Or.inl rfl)
  · split at h
    · cases h
      exact .keeps ⟨rfl, rfl, rfl, fun _ => hroot⟩ (Or.inl rfl)
    · cases h
  · split at h
    · cases h
      refine .doctype rfl ?_ ⟨rfl, rfl, rfl, fun _ => hroot⟩
      rw [Progress.heads, hroot, hframes]
      rfl
    · cases h
  · cases h
  · cases h
  · cases h
  · cases h

theorem steps_takeAfter {piece : Piece} (hp : p.IsSingle) (h : takeAfter p piece = .ok p') :
    Steps p piece p' := by
  have hover : (if p.account.complaints.hasError then .ok { p with isOver := true }
      else p.stop none) = Except.ok p' → Keeping p p' ∧ p'.isOver = true := by
    intro h
    split at h
    · cases h
      exact ⟨⟨rfl, rfl, rfl, hp⟩, rfl⟩
    · cases h
  unfold takeAfter at h
  split at h
  · cases h
    exact .keeps ⟨rfl, rfl, rfl, hp⟩ (Or.inl rfl)
  · cases h
    exact .keeps ⟨rfl, rfl, rfl, hp⟩ (Or.inl rfl)
  · split at h
    · cases h
      exact .keeps ⟨rfl, rfl, rfl, hp⟩ (Or.inl rfl)
    · exact .keeps (hover h).1 (Or.inr (hover h).2)
  · cases h
  · exact .keeps (hover h).1 (Or.inr (hover h).2)

/-- Every step that is made before the reading is over is one of these. -/
theorem steps_take {piece : Piece} (hgoing : p.isOver = false) (hp : p.IsSingle)
    (h : take p piece = .ok p') : Steps p piece p' := by
  rw [take, hgoing, if_neg Bool.false_ne_true] at h
  split at h
  · rename_i hframes hroot
    exact steps_takeBefore hroot hframes h
  · exact steps_takeAfter hp h
  · rename_i f outer hframes
    exact steps_takeInside hp (by rw [hframes]; exact List.cons_ne_nil f outer) h

/-- The head of an element is that of an opening tag that has been read under a document type. -/
def IsMadeOf (d : Doctype) (head : Text × Table Text Text) (tag : Text × List Written) : Prop :=
  ∃ s scope ids account left r, s.doctype = d ∧
    Tag.read s scope ids account tag.1 tag.2 left = .ok r ∧ r.tag.isTellable = true ∧
      head = (r.tag.name, r.tag.attributes)

/-- The tags that have been read are those of the heads, as far as their names can be told. -/
def Traces (p : Progress) (tags : List (Text × List Written)) : Prop :=
  p.isTellable = true → List.Forall₂ (IsMadeOf (p.doctype.getD Doctype.none)) p.heads tags

theorem Keeping.traces {tags : List (Text × List Written)} (h : Keeping p p')
    (hp : Traces p tags) : Traces p' tags := by
  intro htellable
  rw [h.doctype, h.heads]
  exact hp (h.tellable ▸ htellable)

theorem Opens.traces {tag : Text × List Written} {r : TagResult}
    {tags : List (Text × List Written)} (h : Opens p p' tag r) (hp : Traces p tags) :
    Traces p' (tags ++ [tag]) := by
  intro htellable
  rw [h.tellable, Bool.and_eq_true] at htellable
  obtain ⟨nesting, scope, ids, account, left, hread⟩ := h.read
  rw [h.doctype, h.heads]
  refine List.rel_append (hp htellable.1) (.cons ?_ .nil)
  exact ⟨p.surroundings nesting, scope, ids, account, left, r, rfl, hread, htellable.2, rfl⟩

/-- No tag has been read under another document type, as none has been read at all. -/
theorem Traces.declare {tags : List (Text × List Written)} (hp : Traces p tags)
    (hnothing : p.heads = []) (d : Doctype) : Traces { p with doctype := some d } tags := by
  intro htellable
  have hbefore := hp htellable
  rw [hnothing] at hbefore
  cases hbefore
  show List.Forall₂ _ p.heads []
  rw [hnothing]
  exact .nil

/-- What one step adds to the tags that have been read: the tag in its piece, if there is one and
the reading does not end there. -/
theorem Steps.traces {piece : Piece} {tags : List (Text × List Written)} (h : Steps p piece p')
    (hp : Traces p tags) :
    p'.IsSingle ∧
      (p'.doctype = p.doctype ∨ ∃ d, piece = .doctype d ∧ p'.doctype = some d) ∧
      (Traces p' (tags ++ piece.tag?.toList) ∨ p'.isOver = true ∧ Traces p' tags) := by
  cases h with
  | keeps hkeeps hpassed =>
      refine ⟨hkeeps.single, Or.inl hkeeps.doctype, ?_⟩
      rcases hpassed with hnone | hover
      · left
        rw [hnone, Option.toList_none, List.append_nil]
        exact hkeeps.traces hp
      · exact Or.inr ⟨hover, hkeeps.traces hp⟩
  | @doctype d hpiece hnothing hkeeps =>
      subst hpiece
      have htraces := hkeeps.traces (hp.declare hnothing d)
      rw [← List.append_nil tags] at htraces
      exact ⟨hkeeps.single, Or.inr ⟨d, rfl, hkeeps.doctype⟩, Or.inl htraces⟩
  | opens htag hopens =>
      refine ⟨hopens.single, Or.inl hopens.doctype, Or.inl ?_⟩
      rw [htag]
      exact hopens.traces hp

/-- The elements of a run are made of the tags in its pieces, one after another, as long as the
reading goes on. -/
theorem exists_traces_of_foldlM {found : List Piece} (hp : p.IsSingle)
    {tags : List (Text × List Written)} (htags : Traces p tags)
    (h : found.foldlM take p = .ok p') :
    ∃ more, more <+: found.filterMap Piece.tag? ∧ Traces p' (tags ++ more) ∧
      (p'.doctype = p.doctype ∨ ∃ d, Piece.doctype d ∈ found ∧ p'.doctype = some d) := by
  -- On the pieces: each step adds at most the tag of its piece, so the tags stay a prefix.
  induction found generalizing p tags with
  | nil =>
      cases h
      exact ⟨[], List.nil_prefix, by rwa [List.append_nil], Or.inl rfl⟩
  | cons piece found ih =>
      by_cases hover : p.isOver = true
      · -- A reading that is over passes by all further pieces, tags among them.
        cases (foldlM_of_isOver hover _).symm.trans h
        exact ⟨[], List.nil_prefix, by rwa [List.append_nil], Or.inl rfl⟩
      rw [List.foldlM_cons] at h
      obtain ⟨next, hnext, hrest⟩ := bind_eq_ok.1 h
      rw [Bool.not_eq_true] at hover
      obtain ⟨hsingle, hdoctype, htraces | ⟨hover, htraces⟩⟩ :=
        (steps_take hover hp hnext).traces htags
      · obtain ⟨more, hmore, htraces', hdoctype'⟩ := ih hsingle htraces hrest
        refine ⟨piece.tag?.toList ++ more, ?_, by rwa [← List.append_assoc], ?_⟩
        · have hcons : (piece :: found).filterMap Piece.tag? =
              piece.tag?.toList ++ found.filterMap Piece.tag? := by
            cases htag : piece.tag? with
            | none => exact List.filterMap_cons_none htag
            | some tag => exact List.filterMap_cons_some htag
          rw [hcons, List.prefix_append_right_inj]
          exact hmore
        · -- The last document type that is set is the one that stays.
          rcases hdoctype' with heq | ⟨d, hd, heq⟩
          · rw [heq]
            exact hdoctype.imp_right fun ⟨d, hpiece, hd⟩ => ⟨d, hpiece ▸ List.mem_cons_self, hd⟩
          · exact Or.inr ⟨d, List.mem_cons_of_mem _ hd, heq⟩
      · cases (foldlM_of_isOver hover _).symm.trans hrest
        refine ⟨[], List.nil_prefix, by rwa [List.append_nil], ?_⟩
        exact hdoctype.imp_right fun ⟨d, hpiece, hd⟩ => ⟨d, hpiece ▸ List.mem_cons_self, hd⟩

/-! ## Whole documents -/

/-- An element has been read from an opening tag under a document type: it is called by the local
name in the tag, and its attributes are what the attributes of the tag come to. -/
def IsReadFrom (d : Doctype) (e : Element) (tag : Text × List Written) : Prop :=
  ∃ s scope ids account left r, s.doctype = d ∧
    Tag.read s scope ids account tag.1 tag.2 left = .ok r ∧
      e.name = (QName.ofRaw tag.1).base ∧ IsTableOf s r.account tag.1 tag.2 e.attributes

theorem isReadFrom_of_isMadeOf {d : Doctype} {e : Element} {tag : Text × List Written}
    (h : IsMadeOf d e.head tag) : IsReadFrom d e tag := by
  obtain ⟨s, scope, ids, account, left, r, hdoctype, hread, htellable, hhead⟩ := h
  obtain ⟨hname, htable⟩ := Tag.isTableOf_read hread htellable
  obtain ⟨hcalled, hattributes⟩ := Prod.mk.inj hhead
  refine ⟨s, scope, ids, account, left, r, hdoctype, hread, hcalled.trans hname, ?_⟩
  rwa [hattributes]

/-- The elements of a drawing are read from the first opening tags of its text, one after
another, under the document type that stands there. -/
theorem attributes_of_read {t : Text} {root : Element} (h : Drawing.read t = .ok root) :
    ∃ opened d tags, openText t = some opened ∧
      (d = Doctype.none ∨ Piece.doctype d ∈ pieces opened.alone opened.text) ∧
        tags <+: (pieces opened.alone opened.text).filterMap Piece.tag? ∧
          List.Forall₂ (IsReadFrom d) (elements root) tags := by
  obtain ⟨hparse, -⟩ := Drawing.read_eq_ok.1 h
  rw [parse] at hparse
  split at hparse
  · cases hparse
  · rename_i opened hopened
    split at hparse
    · cases hparse
    · rename_i p hp
      obtain ⟨hframes, hroot, htellable⟩ := ended_of_conclude hparse
      have hstart : Traces (.start opened) [] := fun _ => .nil
      -- Nothing is open at the start, so the run adds exactly the tags of the elements that it
      -- made.
      obtain ⟨tags, htags, htraces, hdoctype⟩ :=
        exists_traces_of_foldlM (fun hne => absurd rfl hne) hstart hp
      have hmade := htraces htellable
      rw [List.nil_append, Progress.heads, hroot, hframes] at hmade
      simp only [Option.toList_some, List.flatMap_singleton, List.reverse_nil, List.flatMap_nil,
        List.append_nil, List.forall₂_map_left_iff] at hmade
      refine ⟨opened, p.doctype.getD Doctype.none, tags, hopened, ?_, htags,
        hmade.imp fun e tag => isReadFrom_of_isMadeOf⟩
      rcases hdoctype with heq | ⟨d, hd, heq⟩
      · exact Or.inl (by rw [heq]; rfl)
      · exact Or.inr (by rw [heq]; exact hd)

/-! ## Attributes of one local name -/

/-- The text of a drawing in which attributes of a foreign namespace are called like those of
elements. -/
def colliding : Text :=
  "<svg xmlns:x=\"u\"><path d=\"1\" x:d=\"2\"/><path x:d=\"2\" r=\"3\" d=\"1\"/></svg>".toList

/-- The drawing in it. -/
def collidingRoot : Element :=
  ⟨Drawing.rootName, Table.ofList [],
    [⟨"path".toList, Table.ofList [("d".toList, "2".toList)], []⟩,
      ⟨"path".toList, Table.ofList [("d".toList, "1".toList), ("r".toList, "3".toList)], []⟩]⟩

theorem read_colliding : Drawing.read colliding = .ok collidingRoot := by rfl

theorem openText_colliding : openText colliding = some (.bare colliding) := by rfl

theorem isFaultless_colliding : IsFaultless colliding := by
  intro opened p hopened htake
  cases openText_colliding.symm.trans hopened
  have hcount : (takeAll (.bare colliding)).toOption.map
      (fun p => p.account.complaints.hasError) = some false := by rfl
  rw [htake] at hcount
  exact Option.some.inj hcount

/-- The local names of the attributes in the tags. -/
theorem names_colliding :
    ((pieces false colliding).filterMap Piece.tag?).map (fun tag => (carried tag.2).map localName) =
      [[], ["d".toList, "d".toList], ["d".toList, "r".toList, "d".toList]] := by
  rfl

/-- Tags that have as many elements are all tags of the text. -/
theorem map_localName_of_forall₂ {opened : Opened} {R : Element → Text × List Written → Prop}
    {tags : List (Text × List Written)} (hopened : openText colliding = some opened)
    (htags : tags <+: (pieces opened.alone opened.text).filterMap Piece.tag?)
    (h : List.Forall₂ R (elements collidingRoot) tags) :
    tags.map (fun tag => (carried tag.2).map localName) =
      [[], ["d".toList, "d".toList], ["d".toList, "r".toList, "d".toList]] := by
  cases openText_colliding.symm.trans hopened
  have hlength := congrArg List.length names_colliding
  rw [List.length_map] at hlength
  rw [htags.eq_of_length (h.length_eq.symm.trans hlength.symm)]
  exact names_colliding

/-- Both paths have lost an attribute, and the value of the first one is that of the other
namespace. -/
theorem attributes_of_read_colliding :
    IsFaultless colliding ∧ ∃ d tags, List.Forall₂ (IsReadFrom d) (elements collidingRoot) tags ∧
      tags.map (fun tag => (carried tag.2).map localName) =
        [[], ["d".toList, "d".toList], ["d".toList, "r".toList, "d".toList]] ∧
      (elements collidingRoot).map (fun e => e.attributes.rows) =
        [[], [("d".toList, "2".toList)], [("d".toList, "1".toList), ("r".toList, "3".toList)]] := by
  obtain ⟨opened, d, tags, hopened, -, htags, hmade⟩ := attributes_of_read read_colliding
  exact ⟨isFaultless_colliding, d, tags, hmade, map_localName_of_forall₂ hopened htags hmade, rfl⟩

/-- Not every attribute of a document without fault is kept with its own value. -/
theorem not_forall_attributes_kept :
    ¬ ∀ (t : Text) (root : Element), IsFaultless t → Drawing.read t = .ok root →
      ∃ opened tags, openText t = some opened ∧
        tags <+: (pieces opened.alone opened.text).filterMap Piece.tag? ∧
          List.Forall₂ (fun e tag => ∃ s account, e.attributes.rows =
            (carried tag.2).map fun w => (localName w, ownValue s account tag.1 w))
            (elements root) tags := by
  intro hall
  obtain ⟨opened, tags, hopened, htags, hkept⟩ :=
    hall colliding collidingRoot isFaultless_colliding read_colliding
  have hnames := map_localName_of_forall₂ hopened htags hkept
  have hlengths : List.Forall₂ (fun e tag => e.attributes.rows.length =
      ((carried tag.2).map localName).length) (elements collidingRoot) tags := by
    refine hkept.imp fun e tag ⟨s, account, hrows⟩ => ?_
    rw [hrows, List.length_map, List.length_map]
  have hcounts : List.Forall₂ (fun (e : Element) (names : List Text) =>
      e.attributes.rows.length = names.length) (elements collidingRoot)
        (tags.map fun tag => (carried tag.2).map localName) :=
    List.forall₂_map_right_iff.2 hlengths
  rw [hnames] at hcounts
  revert hcounts
  decide

end Document

end Iconsmith.Markup
