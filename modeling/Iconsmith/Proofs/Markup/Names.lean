import Iconsmith.Proofs.Drawing.Refinement
import Iconsmith.Proofs.Markup.Readings
import Iconsmith.Proofs.Table

set_option autoImplicit false

/-!
# Names in documents that have been read

Elements and attributes keep the names of the tags that they were written with, with or without
the space of a namespace, and only names are read there. So every element of a document that has
been read is called by a name, and so are its attributes (`isNamed_of_parse`), whatever entities
and document types are in it.
-/

namespace Iconsmith.Markup

/-! ## Steps one after another -/

/-- What every step keeps is kept by all steps together. -/
theorem invariant_of_foldlM {α β : Type} {f : β → α → Except Stop β} {P : β → Prop}
    {as : List α} (hstep : ∀ b a b', a ∈ as → P b → f b a = .ok b' → P b') {b b' : β}
    (hb : P b) (h : as.foldlM f b = .ok b') : P b' := by
  induction as generalizing b with
  | nil =>
      cases h
      exact hb
  | cons a as ih =>
      rw [List.foldlM_cons] at h
      obtain ⟨next, hnext, hrest⟩ := bind_eq_ok.1 h
      exact ih (fun b a b' ha => hstep b a b' (List.mem_cons_of_mem _ ha))
        (hstep b a next List.mem_cons_self hb hnext) hrest

/-! ## Names in pieces -/

theorem isName_of_readName {t raw u : Text} (h : readName t = .ok (raw, u)) : isName raw := by
  obtain ⟨⟨c, rest, rfl, hc⟩, rfl, -, -⟩ := readName_eq_ok.1 h
  rw [List.takeWhile_cons_of_pos (isNameChar_of_isNameStart hc)]
  simp only [isName, hc, Bool.true_and, List.all_eq_true]
  exact fun d hd => List.mem_takeWhile_imp hd

theorem isName_of_mem_attributesFrom {steps : Nat} {t : Text} :
    ∀ w ∈ (attributesFrom steps t).attributes, isName w.raw := by
  induction steps generalizing t with
  | zero => exact fun w hw => by cases hw
  | succ steps ih =>
      intro w hw
      rw [attributesFrom] at hw
      split at hw
      · cases hw
      · split at hw
        · cases hw
        · cases hw
        · cases hw
        · split at hw
          · cases hw
          · rename_i first after hread
            rcases List.mem_cons.1 hw with rfl | hw
            · obtain ⟨afterName, _, hname, -⟩ := readAttribute_eq_ok.1 hread
              exact isName_of_readName hname
            · exact ih w hw

/-- The names that stand in a piece are names. -/
def Piece.IsNamed : Piece → Prop
  | .opening raw ws _ _ => isName raw ∧ ∀ w ∈ ws, isName w.raw
  | _ => True

theorem isNamed_of_mem_asPiece {α : Type} {kind : Kind} {make : α → Nat → Piece}
    (hmake : ∀ a n, (make a n).IsNamed) (reading : Reading α) :
    ∀ piece ∈ (asPiece kind make reading).1, piece.IsNamed := by
  intro piece hpiece
  cases reading with
  | error s =>
      rw [List.mem_singleton.1 hpiece]
      trivial
  | ok read =>
      rw [List.mem_singleton.1 hpiece]
      exact hmake _ _

theorem isNamed_of_mem_cutOpening (t : Text) : ∀ piece ∈ (cutOpening t).1, piece.IsNamed := by
  intro piece hpiece
  rw [cutOpening] at hpiece
  split at hpiece
  · rw [List.mem_singleton.1 hpiece]
    trivial
  · rename_i raw afterName hname
    have hws := @isName_of_mem_attributesFrom (afterName.length + 1) afterName
    split at hpiece
    · rename_i ws _ _ hattributes
      rw [hattributes] at hws
      rw [List.mem_singleton.1 hpiece]
      exact ⟨isName_of_readName hname, hws⟩
    · rename_i ws _ hattributes
      rw [hattributes] at hws
      rcases List.mem_cons.1 hpiece with rfl | hpiece
      · exact ⟨isName_of_readName hname, hws⟩
      · rw [List.mem_singleton.1 hpiece]
        trivial

theorem isNamed_of_mem_read (alone : Bool) (t : Text) :
    ∀ piece ∈ (Piece.read alone t).1, piece.IsNamed := by
  have hplain : ∀ {α : Type} {kind : Kind} {make : α → Nat → Piece} {reading : Reading α},
      (∀ a n, (make a n).IsNamed) →
        ∀ piece ∈ (asPiece kind make reading).1, piece.IsNamed :=
    fun hmake => isNamed_of_mem_asPiece hmake _
  rw [Piece.read.eq_def]
  split
  · exact hplain fun _ _ => trivial
  · exact hplain fun _ _ => trivial
  · split
    · exact hplain fun _ _ => trivial
    · exact hplain fun _ _ => trivial
    · exact hplain fun _ _ => trivial
    · exact fun piece hpiece => List.mem_singleton.1 hpiece ▸ trivial
  · exact isNamed_of_mem_cutOpening _
  · exact hplain fun _ _ => trivial
  · exact hplain fun _ _ => trivial

theorem isNamed_of_mem_piecesFrom (alone : Bool) (steps : Nat) (t : Text) :
    ∀ piece ∈ piecesFrom alone steps t, piece.IsNamed := by
  intro piece hpiece
  induction steps generalizing t with
  | zero =>
      cases t with
      | nil => cases hpiece
      | cons c t => exact List.mem_singleton.1 hpiece ▸ trivial
  | succ steps ih =>
      cases t with
      | nil => cases hpiece
      | cons c t =>
          have hread := isNamed_of_mem_read alone (c :: t)
          rw [piecesFrom.eq_def] at hpiece
          simp only at hpiece
          split at hpiece
          · rename_i found heq
            rw [heq] at hread
            exact hread piece hpiece
          · rename_i found rest heq
            rw [heq] at hread
            rcases List.mem_append.1 hpiece with hfirst | hlater
            · exact hread piece hfirst
            · exact ih rest hlater

theorem isNamed_of_mem_pieces (alone : Bool) (t : Text) :
    ∀ piece ∈ pieces alone t, piece.IsNamed :=
  isNamed_of_mem_piecesFrom alone t.length t

/-! ## Names in tags -/

/-- What is kept of a name is a name. -/
theorem isName_keptName {raw : Text} (h : isName raw) (namespace? : Option Text) :
    isName (keptName namespace? (QName.ofRaw raw) raw) := by
  rw [keptName]
  split
  · exact h
  · rw [QName.ofRaw, QName.ofRaw?]
    split
    · exact h
    · split
      · rename_i hboth
        rw [Bool.and_eq_true] at hboth
        exact isName_of_isLocal hboth.2
      · exact h

/-- The attributes of a draft are called by names, which are cut as they are written. -/
def Draft.IsNamed (d : Draft) : Prop :=
  ∀ a ∈ d.attributes, isName a.raw ∧ a.name = QName.ofRaw a.raw

theorem Draft.attributes_takeEntities {s : Surroundings} {d d' : Draft} {value : List Part}
    {left : Nat} (h : d.takeEntities s value left = .ok d') : d'.attributes = d.attributes := by
  simp only [takeEntities] at h
  split at h
  · cases h
  · split at h
    · cases h
      rfl
    · cases h

theorem Draft.attributes_takeDeclaration {s : Surroundings} {d d' : Draft} {space : Option Text}
    {words : Bool} {value : List Part} {left : Nat}
    (h : d.takeDeclaration s space words value left = .ok d') :
    d'.attributes = d.attributes := by
  unfold takeDeclaration at h
  extract_lets parts uri at h
  cases space with
  | none =>
      simp only at h
      split at h
      · cases h
        rfl
      · split at h
        · cases h
        · cases h
          rfl
  | some space =>
      simp only at h
      split at h
      · cases h
        rfl
      · split at h
        · cases h
        · cases h
          rfl

theorem Draft.isNamed_take {s : Surroundings} {element : Text} {d d' : Draft} {w : Written}
    (hd : d.IsNamed) (hw : isName w.raw) (h : d.take s element w = .ok d') : d'.IsNamed := by
  obtain ⟨d₁, hentities, h⟩ := bind_eq_ok.1 h
  have hsame : d₁.attributes = d.attributes := by
    rw [attributes_takeEntities hentities]
    split <;> rfl
  split at h
  · intro a ha
    rw [attributes_takeDeclaration h] at ha
    exact hd a (hsame ▸ ha)
  · cases h
    intro a ha
    rcases List.mem_cons.1 ha with rfl | ha
    · exact ⟨hw, rfl⟩
    · exact hd a (hsame ▸ ha)

theorem isNamed_readAttributes {s : Surroundings} {account : Account} {raw : Text}
    {ws : List Written} {d : Draft} (hws : ∀ w ∈ ws, isName w.raw)
    (h : readAttributes s account raw ws = .ok d) : d.IsNamed := by
  refine invariant_of_foldlM (P := Draft.IsNamed) (fun d w d' hw hd h => ?_)
    (fun a ha => by cases ha) h
  exact Draft.isNamed_take hd (hws w hw) h

theorem isName_of_mem_attributeTable {scope : Scope} {valueOf : List Part → Text}
    {attributes : List Attribute}
    (h : ∀ a ∈ attributes, isName a.raw ∧ a.name = QName.ofRaw a.raw) :
    ∀ row ∈ (attributeTable scope valueOf attributes).rows, isName row.1 := by
  intro row hrow
  have hkey := Table.mem_keys_ofList.1 (List.mem_map_of_mem (f := Prod.fst) hrow)
  simp only [List.map_map, List.mem_map, Function.comp] at hkey
  obtain ⟨a, ha, hname⟩ := hkey
  obtain ⟨hraw, hcut⟩ := h a ha
  rw [← hname, hcut]
  exact isName_keptName hraw _

/-- The names in a tag are names. -/
def Tag.IsNamed (tag : Tag) : Prop :=
  isName tag.name ∧ ∀ row ∈ tag.attributes.rows, isName row.1

theorem Tag.isNamed_read {s : Surroundings} {scope : Scope} {ids : List Text} {account : Account}
    {raw : Text} {ws : List Written} {left : Nat} {r : TagResult} (hraw : isName raw)
    (hws : ∀ w ∈ ws, isName w.raw) (h : Tag.read s scope ids account raw ws left = .ok r) :
    r.tag.IsNamed := by
  obtain ⟨draft, hdraft, h⟩ := bind_eq_ok.1 h
  simp only at h
  split at h
  · cases h
  · cases h
    refine ⟨isName_keptName hraw _, isName_of_mem_attributeTable fun a ha => ?_⟩
    exact isNamed_readAttributes hws hdraft a (List.mem_reverse.1 ha)

/-! ## Names in trees -/

open Drawing (elements forestElements)

/-- An element is called by a name, and so are its attributes. -/
def Element.IsNamed (e : Element) : Prop :=
  isName e.name ∧ ∀ row ∈ e.attributes.rows, isName row.1

theorem forestElements_eq_flatMap (es : List Element) :
    forestElements es = es.flatMap elements := by
  induction es with
  | nil => rfl
  | cons e rest ih => rw [forestElements, ih, List.flatMap_cons]

namespace Document

/-- Everything in an open element is called by names. -/
def Frame.IsNamed (f : Frame) : Prop :=
  f.tag.IsNamed ∧ ∀ e ∈ f.inside, ∀ x ∈ elements e, x.IsNamed

/-- All that has been read of a tree is called by names. -/
structure AreNamed (p : Progress) : Prop where
  frames : ∀ f ∈ p.frames, Frame.IsNamed f
  root : ∀ e ∈ p.root, ∀ x ∈ elements e, x.IsNamed

/-- A step that leaves the tree as it is. -/
def KeepsTree (p p' : Progress) : Prop := p'.frames = p.frames ∧ p'.root = p.root

theorem AreNamed.of_keepsTree {p p' : Progress} (hp : AreNamed p) (h : KeepsTree p p') :
    AreNamed p' :=
  ⟨h.1 ▸ hp.frames, h.2 ▸ hp.root⟩

/-- An open element and those in it that closes is called by names with all that is in it. -/
theorem Frame.IsNamed.element {f : Frame} (h : f.IsNamed) :
    ∀ x ∈ elements f.element, x.IsNamed := by
  intro x hx
  rw [Frame.element, elements, forestElements_eq_flatMap] at hx
  rcases List.mem_cons.1 hx with rfl | hx
  · exact h.1
  · obtain ⟨e, he, hx⟩ := List.mem_flatMap.1 hx
    exact h.2 e (List.mem_reverse.1 he) x hx

theorem AreNamed.finish {p : Progress} {e : Element} {frames : List Frame} (hp : AreNamed p)
    (he : ∀ x ∈ elements e, x.IsNamed) (hframes : ∀ f ∈ frames, Frame.IsNamed f) :
    AreNamed (p.finish e frames) := by
  cases frames with
  | nil =>
      refine ⟨List.forall_mem_nil _, ?_⟩
      rintro root ⟨⟩
      exact he
  | cons f outer =>
      obtain ⟨hf, houter⟩ := List.forall_mem_cons.1 hframes
      refine ⟨List.forall_mem_cons.2 ⟨⟨hf.1, List.forall_mem_cons.2 ⟨he, hf.2⟩⟩, houter⟩, ?_⟩
      exact hp.root

theorem AreNamed.closeElement {p p' : Progress} {raw : Text} (hp : AreNamed p)
    (h : p.closeElement raw = .ok p') : AreNamed p' := by
  rw [Progress.closeElement] at h
  split at h
  · cases h
  · rename_i f outer hframes
    have hall := hp.frames
    rw [hframes] at hall
    obtain ⟨hf, houter⟩ := List.forall_mem_cons.1 hall
    split at h
    · cases h
      exact hp.finish hf.element houter
    · cases h

theorem AreNamed.openElement {nesting : Nat} {p p' : Progress} {raw : Text} {ws : List Written}
    {ending : Ending} {left : Nat} (hp : AreNamed p) (hraw : isName raw)
    (hws : ∀ w ∈ ws, isName w.raw) (h : p.openElement nesting raw ws ending left = .ok p') :
    AreNamed p' := by
  rw [Progress.openElement] at h
  split at h
  · obtain ⟨draft, -, h⟩ := bind_eq_ok.1 h
    cases h
    exact hp.of_keepsTree ⟨rfl, rfl⟩
  · split at h
    · cases h
    · obtain ⟨r, hread, h⟩ := bind_eq_ok.1 h
      simp only at h
      have htag := Tag.isNamed_read hraw hws hread
      have hopened : AreNamed { p with
          account := r.account
          frames := ⟨raw, r.tag, []⟩ :: p.frames
          ids := r.ids
          isTellable := p.isTellable && r.tag.isTellable } :=
        ⟨List.forall_mem_cons.2 ⟨⟨htag, fun e he => by cases he⟩, hp.frames⟩, hp.root⟩
      split at h
      · exact hopened.closeElement h
      · cases h
        exact hopened

/-- The text of an entity leaves nothing but what it costs, and identifiers. -/
theorem exists_eq_of_takeText {takePiece : Progress → Piece → Except Stop Progress}
    {p p' : Progress} {name t : Text} {left : Nat}
    (h : takeText takePiece p name t left = .ok p') :
    ∃ account ids, p' = { p with account := account, ids := ids } := by
  simp only [takeText] at h
  split at h
  · cases h
  · obtain ⟨after, -, h⟩ := bind_eq_ok.1 h
    split at h
    · cases h
    · cases h
      exact ⟨_, _, rfl⟩

/-- So does a reference to an entity: the elements in its text do not come into the tree. -/
theorem exists_eq_of_takeReference {takePiece : Progress → Piece → Except Stop Progress}
    {p p' : Progress} {name t : Text} {left : Nat}
    (h : takeReference takePiece p name t left = .ok p') :
    ∃ account ids, p' = { p with account := account, ids := ids } := by
  -- Only the account changes once the text has been read.
  have hspent : ∀ {q : Progress} {spent : Account} {isCheap : Bool},
      (∃ account ids, q = { p with account := account, ids := ids }) →
        (if isCheap then pure { q with account := spent } else q.stop none) = Except.ok p' →
          ∃ account ids, p' = { p with account := account, ids := ids } := by
    rintro q spent isCheap ⟨account, ids, rfl⟩ h
    split at h
    · cases h
      exact ⟨_, _, rfl⟩
    · cases h
  simp only [takeReference] at h
  split at h
  · exact hspent ⟨p.account, p.ids, rfl⟩ h
  · obtain ⟨q, hq, h⟩ := bind_eq_ok.1 h
    exact hspent (exists_eq_of_takeText hq) h

theorem keepsTree_takeReference {takePiece : Progress → Piece → Except Stop Progress}
    {p p' : Progress} {name t : Text} {left : Nat}
    (h : takeReference takePiece p name t left = .ok p') : KeepsTree p p' := by
  obtain ⟨account, ids, rfl⟩ := exists_eq_of_takeReference h
  exact ⟨rfl, rfl⟩

theorem AreNamed.takeInside {depth : Nat} {p p' : Progress} {piece : Piece} (hp : AreNamed p)
    (hpiece : piece.IsNamed) (h : takeInside depth p piece = .ok p') : AreNamed p' := by
  have hsame : ∀ {q : Progress}, Except.ok (ε := Stop) p = .ok q → AreNamed q := by
    rintro q heq
    cases heq
    exact hp
  unfold Document.takeInside at h
  split at h
  · exact hp.openElement hpiece.1 hpiece.2 h
  · exact hp.closeElement h
  · exact hsame h
  · exact hsame h
  · exact hsame h
  · exact hsame h
  · cases h
    exact hp.of_keepsTree ⟨rfl, rfl⟩
  · cases h
  · cases h
  · cases h
  · split at h
    · split at h
      · cases h
        exact hp.of_keepsTree ⟨rfl, rfl⟩
      · cases h
    · exact hsame h
    · cases h
    · split at h
      · cases h
      · exact hp.of_keepsTree (keepsTree_takeReference h)

theorem AreNamed.takeBefore {p p' : Progress} {piece : Piece} (hp : AreNamed p)
    (hpiece : piece.IsNamed) (h : takeBefore p piece = .ok p') : AreNamed p' := by
  unfold Document.takeBefore at h
  split at h
  · exact hp.openElement hpiece.1 hpiece.2 h
  · cases h
    exact hp
  · cases h
    exact hp.of_keepsTree ⟨rfl, rfl⟩
  · split at h
    · cases h
      exact hp
    · cases h
  · split at h
    · cases h
      exact hp.of_keepsTree ⟨rfl, rfl⟩
    · cases h
  · cases h
  · cases h
  · cases h
  · cases h

theorem AreNamed.takeAfter {p p' : Progress} {piece : Piece} (hp : AreNamed p)
    (h : takeAfter p piece = .ok p') : AreNamed p' := by
  have hover : (if p.account.complaints.hasError then .ok { p with isOver := true }
      else p.stop none) = Except.ok p' → AreNamed p' := by
    intro h
    split at h
    · cases h
      exact hp.of_keepsTree ⟨rfl, rfl⟩
    · cases h
  unfold Document.takeAfter at h
  split at h
  · cases h
    exact hp
  · cases h
    exact hp.of_keepsTree ⟨rfl, rfl⟩
  · split at h
    · cases h
      exact hp
    · exact hover h
  · cases h
  · exact hover h

theorem AreNamed.take {p p' : Progress} {piece : Piece} (hp : AreNamed p)
    (hpiece : piece.IsNamed) (h : take p piece = .ok p') : AreNamed p' := by
  rw [Document.take] at h
  split at h
  · cases h
    exact hp
  · split at h
    · exact hp.takeBefore hpiece h
    · exact hp.takeAfter h
    · exact hp.takeInside hpiece h

/-- A document that has been read has come to the end of its root, and its names can be told. -/
theorem ended_of_conclude {opened : Opened} {p : Progress} {root : Element}
    (h : conclude opened p = .ok root) :
    p.frames = [] ∧ p.root = some root ∧ p.isTellable = true := by
  simp only [conclude] at h
  split at h
  · rename_i found hframes hroot
    split at h
    · cases h
    · split at h
      · cases h
      · split at h
        · rename_i htellable
          cases h
          exact ⟨hframes, hroot, htellable⟩
        · cases h
  · cases h

/-- The elements of a document that has been read are called by names, and so are their
attributes. -/
theorem isNamed_of_parse {t : Text} {root : Element} (h : parse t = .ok root) :
    ∀ e ∈ elements root, e.IsNamed := by
  rw [parse] at h
  split at h
  · cases h
  · rename_i opened hopened
    split at h
    · cases h
    · rename_i p hp
      have hnamed : AreNamed p := invariant_of_foldlM
        (fun p piece p' hpiece hp h => hp.take (isNamed_of_mem_pieces _ _ piece hpiece) h)
        ⟨fun f hf => (by cases hf), fun e he => (by cases he)⟩ hp
      exact hnamed.root root (ended_of_conclude h).2.1

end Document

end Iconsmith.Markup
