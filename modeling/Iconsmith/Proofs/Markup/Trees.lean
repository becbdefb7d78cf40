import Iconsmith.Proofs.Markup.Writing
import Iconsmith.Proofs.Table
import Iconsmith.Proofs.Text.Fields

set_option autoImplicit false

/-!
# Written trees

A forest is spelled by marks when every element is written between an opening and a closing
tag, or as a single tag if nothing is in it (`Spelled`). Marks that spell an element are read
as that element, as long as they can be written and no more elements are open at a time than
may be (`parse_marksText`).
-/

namespace Iconsmith.Markup

/-! ## Attributes without namespaces -/

/-- A local name is in no space. -/
theorem QName.ofRaw?_of_isLocal {raw : Text} (h : isLocal raw) :
    QName.ofRaw? raw = some ⟨none, raw⟩ := by
  simp only [isLocal, Bool.and_eq_true, Bool.not_eq_true', List.contains_eq_mem,
    decide_eq_false_iff_not] at h
  rw [QName.ofRaw?, Text.cutFirst_eq_none h.2]

theorem ne_identifierName {raw : Text} (h : isLocal raw) : raw ≠ Doctype.Draft.identifierName := by
  rintro rfl
  exact absurd h (by decide)

/-- Characters name no entity that would have to be taken. -/
theorem Draft.takeEntities_chars (s : Surroundings) (d : Draft) (value : Text) (left : Nat) :
    Draft.takeEntities s d (value.map .char) left = .ok d := by
  rw [Draft.takeEntities, filterMap_entity?_map_char]
  rfl

/-- An attribute with a local name that declares no namespace is taken as it is. -/
theorem Draft.take_row {s : Surroundings} (hs : s.doctype = Doctype.none) (element : Text)
    (d : Draft) (w : Written) (value : Text) (hname : isLocal w.raw)
    (hdeclare : w.raw ≠ declarationSpace) (hvalue : w.value = value.map .char) :
    Draft.take s element d w =
      .ok { d with attributes := ⟨w.raw, ⟨none, w.raw⟩, w.value⟩ :: d.attributes } := by
  have hrule : s.rule? element w.raw = none := by
    rw [Surroundings.rule?, hs]
    rfl
  have hraw := QName.ofRaw?_of_isLocal hname
  have hq : QName.ofRaw w.raw = ⟨none, w.raw⟩ := by rw [QName.ofRaw, hraw]; rfl
  have htake : Draft.takeEntities s d w.value w.left = .ok d := by
    rw [hvalue, Draft.takeEntities_chars]
  have hown : Draft.ownComplaints ⟨none, w.raw⟩ w.value = [] := by
    simp [Draft.ownComplaints]
  have hfree : declared? ⟨none, w.raw⟩ = none := by
    simp [declared?, hdeclare]
  simp [Draft.take, hrule, AttributeType.normal, hraw, hq, htake, hown, hfree, bind, Except.bind,
    Account.complainAll]
  rfl

/-- The attribute that a row gives. -/
def Attribute.ofRow (row : Text × Text) : Attribute :=
  ⟨row.1, ⟨none, row.1⟩, row.2.map .char⟩

/-- Written attributes are taken in order, and no complaint is made. -/
theorem foldlM_take_rows {s : Surroundings} (hs : s.doctype = Doctype.none) (element : Text)
    (rows : List (Text × Text)) (written : List Written) (d : Draft)
    (hrows : ∀ row ∈ rows, isLocal row.1 ∧ row.1 ≠ declarationSpace)
    (hwritten : written.map (fun w => (w.raw, w.value)) =
      rows.map fun row => (row.1, row.2.map .char)) :
    written.foldlM (Draft.take s element) d =
      .ok { d with attributes := (rows.map Attribute.ofRow).reverse ++ d.attributes } := by
  induction rows generalizing written d with
  | nil =>
      rw [List.map_nil, List.map_eq_nil_iff] at hwritten
      subst hwritten
      rfl
  | cons row rows ih =>
      cases written with
      | nil => simp at hwritten
      | cons w written =>
          simp only [List.map_cons, List.cons.injEq, Prod.mk.injEq] at hwritten
          obtain ⟨⟨hraw, hvalue⟩, hrest⟩ := hwritten
          obtain ⟨hname, hdeclare⟩ := hrows row List.mem_cons_self
          have htake := Draft.take_row hs element d w row.2
            (hraw ▸ hname) (hraw ▸ hdeclare) hvalue
          rw [List.foldlM_cons, htake]
          show List.foldlM (Draft.take s element) _ written = _
          rw [ih written _ (fun other hother => hrows other (List.mem_cons_of_mem row hother))
            hrest, hraw, hvalue]
          simp [Attribute.ofRow]

/-- Distinct names in no namespace do not clash. -/
theorem clashes?_of_nodup (seen : List (ExpandedName × Option Text)) (names : List Text)
    (hdistinct : names.Nodup) (hnew : ∀ n ∈ names, seen.lookup ⟨none, n⟩ = none) :
    clashes? seen (names.map fun n => (⟨none, n⟩, none)) = some [] := by
  induction names generalizing seen with
  | nil => rfl
  | cons name names ih =>
      rw [List.nodup_cons] at hdistinct
      rw [List.map_cons, clashes?, hnew name List.mem_cons_self]
      refine ih _ hdistinct.2 fun n hn => ?_
      have hne : n ≠ name := fun heq => hdistinct.1 (heq ▸ hn)
      rw [List.lookup_append, hnew n (List.mem_cons_of_mem name hn)]
      have hkey : (⟨none, n⟩ : ExpandedName) ≠ ⟨none, name⟩ := by simpa using hne
      rw [Option.none_or, List.lookup_cons, beq_false_of_ne hkey]
      rfl

/-- Distinct names in no namespace give no complaint, in an element whose space, if it has one,
is declared. -/
theorem nameComplaints?_of_nodup (scope : Scope) (element : QName) (names : List Text)
    (hspace : element.space.isSome → (scope.elementNamespace? element.space).isSome)
    (hdistinct : names.Nodup) :
    nameComplaints? scope element (names.map fun n => ⟨none, n⟩) [] = some [] := by
  have hundeclared : (names.map fun n => (⟨none, n⟩ : QName)).filter
      (fun q => !q.isDeclared scope) = [] := by
    simp [QName.isDeclared]
  have hexpanded : (names.map fun n => (⟨none, n⟩ : QName)).map
      (fun q => (q.expanded scope, q.space)) = names.map fun n => (⟨none, n⟩, none) := by
    simp [QName.expanded]
  have hclashes := clashes?_of_nodup [] names hdistinct (fun n _ => rfl)
  have hown : ¬(element.space.isSome && (scope.elementNamespace? element.space).isNone) := by
    rw [Bool.and_eq_true, not_and, Bool.not_eq_true, Option.isNone_eq_false_iff]
    exact hspace
  simp [nameComplaints?, hundeclared, hexpanded, hclashes, presetErrors, hown]

/-! ## Tables of attributes -/

theorem valueOf_map_char (e : Entities) (a : Account) (depth : Nat) (v : Text) :
    e.valueOf a depth (v.map .char) = v := by
  induction v with
  | nil => rfl
  | cons c v ih =>
      have hcons : e.valueOf a depth ((c :: v).map .char) =
          c :: e.valueOf a depth (v.map .char) := rfl
      rw [hcons, ih]

/-- Attributes with distinct names in no namespace are the rows that they come from. -/
theorem attributeTable_ofRow (scope : Scope) (e : Entities) (a : Account) (depth : Nat)
    (attributes : Table Text Text) :
    attributeTable scope (e.valueOf a depth) (attributes.rows.map Attribute.ofRow) =
      attributes := by
  let named := attributes.rows.map fun row =>
    (((none : Option Text), row.1), row.2.map Part.char)
  have hnamed : (attributes.rows.map Attribute.ofRow).map (fun a =>
      let name := a.name.expanded scope
      ((name.space, keptName name.space a.name a.raw), a.value)) = named := by
    simp [named, Attribute.ofRow, QName.expanded, keptName]
  -- Names without a space are told apart as the rows are, so each is found again.
  have hdistinct : (named.map Prod.fst).Nodup := by
    have hpair : Function.Injective fun n : Text => ((none : Option Text), n) :=
      fun m n h => (Prod.mk.inj h).2
    simpa [named, Function.comp_def] using attributes.distinct.map hpair
  have hrows : named.map (fun row =>
      (row.1.2, e.valueOf a depth ((named.lookup row.1).getD row.2))) = attributes.rows := by
    rw [List.map_map]
    conv_rhs => rw [← List.map_id attributes.rows]
    refine List.map_congr_left fun row hrow => ?_
    have hmem : (((none : Option Text), row.1), row.2.map Part.char) ∈ named :=
      List.mem_map_of_mem hrow
    simp only [Function.comp, Table.lookup_of_nodup hdistinct hmem, Option.getD_some,
      valueOf_map_char, id]
  rw [attributeTable, hnamed]
  exact (congrArg Table.ofList hrows).trans (Table.ofList_rows attributes)

/-! ## Tags -/

theorem map_name_ofRow (rows : List (Text × Text)) :
    (rows.map Attribute.ofRow).map Attribute.name =
      (rows.map Prod.fst).map fun n => ⟨none, n⟩ := by
  simp [Attribute.ofRow]

theorem filter_isIdentifying_ofRow {s : Surroundings} (hs : s.doctype = Doctype.none)
    (element : Text) {rows : List (Text × Text)} (hrows : ∀ row ∈ rows, isLocal row.1) :
    (rows.map Attribute.ofRow).filter (isIdentifying s element) = [] := by
  rw [List.filter_eq_nil_iff]
  intro a ha
  obtain ⟨row, hrow, rfl⟩ := List.mem_map.1 ha
  have hrule : s.rule? element row.1 = none := by
    rw [Surroundings.rule?, hs]
    rfl
  simp [isIdentifying, Attribute.ofRow, hrule, ne_identifierName (hrows row hrow)]

theorem flatMap_entity?_ofRow (rows : List (Text × Text)) :
    (rows.map Attribute.ofRow).flatMap (fun a => a.value.filterMap Part.entity?) = [] := by
  induction rows with
  | nil => rfl
  | cons row rows ih =>
      rw [List.map_cons, List.flatMap_cons, ih, List.append_nil]
      exact filterMap_entity?_map_char row.2

/-- Attributes without a space of their own can be told by their names. -/
theorem all_canTell_ofRow (scope : Scope) {rows : List (Text × Text)}
    (hrows : ∀ row ∈ rows, isLocal row.1) :
    ((rows.map Attribute.ofRow).all fun a =>
      let expanded := a.name.expanded scope
      canTell expanded.space (keptName expanded.space a.name a.raw)) = true := by
  rw [List.all_eq_true]
  intro a ha
  obtain ⟨row, hrow, rfl⟩ := List.mem_map.1 ha
  have hlocal := hrows row hrow
  simp only [isLocal, Bool.and_eq_true] at hlocal
  simpa [Attribute.ofRow, QName.expanded, keptName, canTell] using hlocal.2

/-- Of a name whose space, if it has one, is declared, what is behind the colon is kept. -/
theorem keptName_of_isSome {namespace? : Option Text} {name : QName} (raw : Text)
    (h : name.space.isSome → namespace?.isSome) : keptName namespace? name raw = name.base := by
  rw [keptName, if_neg]
  rw [Bool.and_eq_true, not_and, Bool.not_eq_true, Option.isNone_eq_false_iff]
  exact h

/-- A tag whose attributes are rows, besides declarations, is read with them as its table. No
complaint is made about names when the space of the element, if it has one, is declared. -/
theorem Tag.read_rows {s : Surroundings} (hs : s.doctype = Doctype.none) (scope : Scope)
    {bound : Scope} (ids : List Text) {account account' : Account} {raw : Text}
    {attributes : Table Text Text} {written : List Written} (left : Nat)
    (hrows : ∀ row ∈ attributes.rows, isLocal row.1)
    (hspace : (QName.ofRaw raw).space.isSome →
      ((bound ++ scope).elementNamespace? (QName.ofRaw raw).space).isSome)
    (hread : readAttributes s account raw written =
      .ok ⟨bound, (attributes.rows.map Attribute.ofRow).reverse, account'⟩) :
    Tag.read s scope ids account raw written left =
      .ok ⟨⟨(QName.ofRaw raw).base, attributes, bound ++ scope,
        canTell ((bound ++ scope).elementNamespace? (QName.ofRaw raw).space)
          (QName.ofRaw raw).base⟩, ids, account'⟩ := by
  have hpresets : s.presets raw = [] := by
    rw [Surroundings.presets, hs]
    rfl
  have hnames := nameComplaints?_of_nodup (bound ++ scope) (QName.ofRaw raw)
    (attributes.rows.map Prod.fst) hspace attributes.distinct
  rw [← map_name_ofRow] at hnames
  have hids := filter_isIdentifying_ofRow hs raw hrows
  simp only [Tag.read, hread, hpresets, bind, Except.bind, List.map_nil, List.filterMap_nil,
    List.filter_nil, List.reverse_reverse, List.append_nil, hnames, hids,
    flatMap_entity?_ofRow, List.foldl_nil, Complaints.addAll_nil, all_canTell_ofRow _ hrows,
    attributeTable_ofRow, keptName_of_isSome raw hspace, Bool.true_and]
  rfl

/-- An opening mark is read as the tag of its element; no complaint is made and no identifier
is used. -/
theorem Tag.read_mark {s : Surroundings} (hs : s.doctype = Doctype.none) (ids : List Text)
    (account : Account) {name : Text} {attributes : Table Text Text} {isEmpty : Bool}
    {written : List Written} (left : Nat)
    (hmark : (Mark.opening name attributes.rows isEmpty).IsWritable)
    (hwritten : written.map (fun w => (w.raw, w.value)) =
      attributes.rows.map fun row => (row.1, row.2.map .char)) :
    Tag.read s [] ids account name written left =
      .ok ⟨⟨name, attributes, [], true⟩, ids, account⟩ := by
  obtain ⟨hname, -, hrows⟩ := hmark
  have hraw := QName.ofRaw?_of_isLocal hname
  have hq : QName.ofRaw name = ⟨none, name⟩ := by rw [QName.ofRaw, hraw]; rfl
  have hread : readAttributes s account name written =
      .ok ⟨[], (attributes.rows.map Attribute.ofRow).reverse, account⟩ := by
    have htake := foldlM_take_rows hs name attributes.rows written ⟨[], [], account⟩
      (fun row hrow => ⟨(hrows row hrow).1, (hrows row hrow).2.1⟩) hwritten
    simpa [readAttributes, hraw] using htake
  have hkept : canTell none name = true := by
    simp only [isLocal, Bool.and_eq_true] at hname
    simpa [canTell] using hname.2
  have htag := Tag.read_rows hs [] ids left (fun row hrow => (hrows row hrow).1)
    (by rw [hq]; exact fun hnone => absurd hnone Bool.false_ne_true) hread
  rw [htag, hq]
  simp [Scope.elementNamespace?, hkept]

/-! ## Forests and their marks -/

/-- Marks spell a forest when they open and close its elements in order. An element with
nothing in it may be spelled either way. -/
inductive Spelled : List Element → List Mark → Prop
  | nil : Spelled [] []
  | empty {rest : List Element} {marks : List Mark} (name : Text)
      (attributes : Table Text Text) :
      Spelled rest marks →
        Spelled (⟨name, attributes, []⟩ :: rest) (.opening name attributes.rows true :: marks)
  | around {children rest : List Element} {inside marks : List Mark} (name : Text)
      (attributes : Table Text Text) :
      Spelled children inside → Spelled rest marks →
        Spelled (⟨name, attributes, children⟩ :: rest)
          (.opening name attributes.rows false :: (inside ++ .closing name :: marks))

mutual

/-- How many elements are open at most while an element is read. -/
def Element.depth : Element → Nat
  | ⟨_, _, children⟩ => forestDepth children + 1

/-- How many elements are open at most while a forest is read. -/
def forestDepth : List Element → Nat
  | [] => 0
  | e :: rest => max e.depth (forestDepth rest)

end

namespace Document

/-- Where nothing has been declared and nothing is over, and a tag may open an element. -/
structure IsOpen (p : Progress) : Prop where
  going : p.isOver = false
  undeclared : p.doctype = none
  unscoped : p.scope = []
  place : p.frames ≠ [] ∨ p.root = none

/-- The place of a piece decides how it is taken. -/
theorem take_of_place {p : Progress} (hp : p.isOver = false) (piece : Piece) :
    (p.frames = [] ∧ p.root = none ∧ take p piece = takeBefore p piece) ∨
      (p.frames = [] ∧ (∃ e, p.root = some e) ∧ take p piece = takeAfter p piece) ∨
        (p.frames ≠ [] ∧ take p piece = takeInside Doctype.maxNesting p piece) := by
  rw [take, hp, if_neg Bool.false_ne_true]
  cases hframes : p.frames with
  | nil =>
      cases hroot : p.root with
      | none => exact Or.inl ⟨rfl, rfl, rfl⟩
      | some e => exact Or.inr (Or.inl ⟨rfl, ⟨e, rfl⟩, rfl⟩)
  | cons f outer => exact Or.inr (Or.inr ⟨List.cons_ne_nil f outer, rfl⟩)

/-- A tag is taken alike before the root and inside an element. -/
theorem take_opening {p : Progress} (hp : p.isOver = false) (hplace : p.frames = [] → p.root = none)
    (raw : Text) (written : List Written) (ending : Ending) (left : Nat) :
    take p (.opening raw written ending left) =
      p.openElement Doctype.maxNesting raw written ending left := by
  rcases take_of_place hp (.opening raw written ending left) with
    ⟨-, -, heq⟩ | ⟨hframes, ⟨e, hroot⟩, -⟩ | ⟨-, heq⟩
  · rw [heq]
    rfl
  · rw [hplace hframes] at hroot
    cases hroot
  · rw [heq, takeInside]

/-- The frame that an opening mark opens. -/
def frameOf (name : Text) (attributes : Table Text Text) : Frame :=
  ⟨name, ⟨name, attributes, [], true⟩, []⟩

/-- An element has been opened. -/
def entered (p : Progress) (name : Text) (attributes : Table Text Text) : Progress :=
  { p with frames := frameOf name attributes :: p.frames }

/-- An opening mark opens its element, and closes it if nothing is in it. -/
theorem take_mark {p : Progress} (hp : IsOpen p) (hdepth : p.frames.length < Progress.maxDepth)
    {name : Text} {attributes : Table Text Text} {isEmpty : Bool} {piece : Piece}
    (hmark : (Mark.opening name attributes.rows isEmpty).IsWritable)
    (hpiece : (Mark.opening name attributes.rows isEmpty).Reads piece) :
    take p piece =
      .ok (if isEmpty then p.finish ⟨name, attributes, []⟩ p.frames
        else entered p name attributes) := by
  obtain ⟨written, left, rfl, hwritten⟩ := hpiece
  have hs : (p.surroundings Doctype.maxNesting).doctype = Doctype.none := by
    rw [Progress.surroundings, hp.undeclared]
    rfl
  have htag := Tag.read_mark hs p.ids p.account left hmark hwritten
  have hplace : p.frames = [] → p.root = none := fun hnil =>
    hp.place.resolve_left (not_not_intro hnil)
  rw [take_opening hp.going hplace, Progress.openElement, hp.unscoped, htag]
  have hroom : ¬ Progress.maxDepth ≤ p.frames.length := Nat.not_le.2 hdepth
  cases isEmpty with
  | true =>
      have hclose : (entered p name attributes).closeElement name =
          .ok (p.finish ⟨name, attributes, []⟩ p.frames) := by
        rw [Progress.closeElement]
        cases hframes : p.frames <;>
          simp [entered, hframes, frameOf, Progress.finish, Frame.element]
      simp only [if_true]
      rw [← hclose]
      simp [hroom, bind, Except.bind, entered, frameOf]
  | false => simp [hroom, bind, Except.bind, pure, Except.pure, entered, frameOf]

/-- Reading has gone on inside the innermost open element. -/
def filled (p : Progress) (f : Frame) (outer : List Frame) (es : List Element) : Progress :=
  { p with frames := ⟨f.raw, f.tag, es.reverse ++ f.inside⟩ :: outer }

theorem filled_nil {p : Progress} {f : Frame} {outer : List Frame}
    (hframes : p.frames = f :: outer) : filled p f outer [] = p := by
  simp [filled, ← hframes]

/-- A finished element is one more in the innermost open element. -/
theorem finish_eq_filled {p : Progress} {f : Frame} {outer : List Frame}
    (hframes : p.frames = f :: outer) (e : Element) :
    p.finish e p.frames = filled p f outer [e] := by
  simp [Progress.finish, hframes, filled]

/-- The closing mark of an element finishes it with what has been read inside. -/
theorem take_closing {p : Progress} (hp : IsOpen p) {name : Text}
    (attributes : Table Text Text) (children : List Element) {piece : Piece}
    (hpiece : (Mark.closing name).Reads piece) :
    take (filled (entered p name attributes) (frameOf name attributes) p.frames children) piece =
      .ok (p.finish ⟨name, attributes, children⟩ p.frames) := by
  cases hpiece
  have hgoing : (filled (entered p name attributes) (frameOf name attributes) p.frames
      children).isOver = false := hp.going
  rw [take, if_neg (by simp [hgoing])]
  cases hframes : p.frames <;>
    simp [filled, entered, takeInside, Progress.closeElement, frameOf, Progress.finish,
      Frame.element]

theorem isOpen_filled {p : Progress} {f : Frame} {outer : List Frame} (hp : IsOpen p)
    (hframes : p.frames = f :: outer) (es : List Element) : IsOpen (filled p f outer es) := by
  have hscope : f.tag.scope = [] := by
    have h := hp.unscoped
    rwa [Progress.scope, hframes] at h
  exact ⟨hp.going, hp.undeclared, hscope, Or.inl (List.cons_ne_nil _ _)⟩

theorem isOpen_entered {p : Progress} (hp : IsOpen p) (name : Text)
    (attributes : Table Text Text) : IsOpen (entered p name attributes) :=
  ⟨hp.going, hp.undeclared, rfl, Or.inl (List.cons_ne_nil _ _)⟩

/-- Marks that spell a forest are read as it inside the innermost open element, and reading
goes on with the marks that follow. -/
theorem foldlM_take_inside {es : List Element} {marks : List Mark} (h : Spelled es marks)
    (p : Progress) (hp : IsOpen p) (f : Frame) (outer : List Frame)
    (hframes : p.frames = f :: outer) (hmarks : ∀ mark ∈ marks, mark.IsWritable)
    (hdepth : outer.length + 1 + forestDepth es ≤ Progress.maxDepth)
    (more : List Mark) (found : List Piece)
    (hfound : List.Forall₂ Mark.Reads (marks ++ more) found) :
    ∃ later, List.Forall₂ Mark.Reads more later ∧
      found.foldlM take p = later.foldlM take (filled p f outer es) := by
  -- On how the elements are spelled, with what follows them and the frame around them left open.
  induction h generalizing p f outer more found with
  | nil => exact ⟨found, hfound, by rw [filled_nil hframes]⟩
  | @empty rest marks name attributes hrest ih =>
      cases hfound with
      | @cons _ piece _ found hpiece hfound =>
          have hlength : p.frames.length = outer.length + 1 := by simp [hframes]
          simp only [forestDepth, Element.depth] at hdepth
          have htake := take_mark hp (by omega) (hmarks _ List.mem_cons_self) hpiece
          rw [if_pos rfl, finish_eq_filled hframes] at htake
          obtain ⟨later, hlater, hrun⟩ := ih (filled p f outer [⟨name, attributes, []⟩])
            (isOpen_filled hp hframes _) _ outer rfl
            (fun mark hmark => hmarks mark (List.mem_cons_of_mem _ hmark)) (by omega)
            more found hfound
          refine ⟨later, hlater, ?_⟩
          rw [List.foldlM_cons, htake]
          refine hrun.trans ?_
          simp [filled]
  | @around children rest inside marks name attributes hchildren hrest ihchildren ihrest =>
      cases hfound with
      | @cons _ piece _ found hpiece hfound =>
          have hlength : p.frames.length = outer.length + 1 := by simp [hframes]
          simp only [forestDepth, Element.depth] at hdepth
          have htake := take_mark hp (by omega) (hmarks _ List.mem_cons_self) hpiece
          obtain ⟨middle, hmiddle, hinside⟩ := ihchildren _ (isOpen_entered hp name attributes)
            (frameOf name attributes) p.frames rfl
            (fun mark hmark => hmarks mark (by simp [hmark])) (by omega)
            (.closing name :: marks ++ more) found (by simpa using hfound)
          cases hmiddle with
          | @cons _ closing _ middle hclosing hmiddle =>
              have hclose := take_closing hp attributes
                children hclosing
              rw [finish_eq_filled hframes] at hclose
              obtain ⟨later, hlater, hrun⟩ := ihrest
                (filled p f outer [⟨name, attributes, children⟩])
                (isOpen_filled hp hframes _) _ outer rfl
                (fun mark hmark => hmarks mark (by simp [hmark])) (by omega)
                more middle hmiddle
              refine ⟨later, hlater, ?_⟩
              rw [List.foldlM_cons, htake]
              refine hinside.trans ?_
              rw [List.foldlM_cons, hclose]
              refine hrun.trans ?_
              simp [filled]

/-- Marks that spell one element are read as it where the root is awaited. -/
theorem foldlM_take_root {e : Element} {marks : List Mark} (h : Spelled [e] marks)
    (p : Progress) (hp : IsOpen p) (hframes : p.frames = [])
    (hmarks : ∀ mark ∈ marks, mark.IsWritable) (hdepth : e.depth ≤ Progress.maxDepth)
    (found : List Piece) (hfound : List.Forall₂ Mark.Reads marks found) :
    found.foldlM take p = .ok { p with root := some e } := by
  have hfinish : p.finish e p.frames = { p with root := some e } := by
    simp [Progress.finish, hframes]
  cases h with
  | @empty _ marks name attributes hrest =>
      cases hrest
      cases hfound with
      | @cons _ piece _ found hpiece hfound =>
          cases hfound
          have htake := take_mark hp (by rw [hframes]; decide)
            (hmarks _ List.mem_cons_self) hpiece
          rw [List.foldlM_cons, htake, if_pos rfl, hfinish]
          rfl
  | @around children _ inside marks name attributes hchildren hrest =>
      cases hrest
      cases hfound with
      | @cons _ piece _ found hpiece hfound =>
          simp only [Element.depth] at hdepth
          have htake := take_mark hp (by rw [hframes]; decide)
            (hmarks _ List.mem_cons_self) hpiece
          obtain ⟨later, hlater, hinside⟩ := foldlM_take_inside hchildren _
            (isOpen_entered hp name attributes) (frameOf name attributes) p.frames rfl
            (fun mark hmark => hmarks mark (by simp [hmark]))
            (by rw [hframes, List.length_nil]; omega) [.closing name] found hfound
          cases hlater with
          | @cons _ closing _ later hclosing hlater =>
              cases hlater
              have hclose := take_closing hp attributes
                children hclosing
              rw [List.foldlM_cons, htake]
              refine hinside.trans ?_
              rw [List.foldlM_cons, hclose, hfinish]
              rfl

/-! ## Documents of marks -/

/-- A text that begins with an opening tag has no declaration. -/
theorem openText_of_tag {c : Char} (t : Text) (h : isNameChar c) :
    openText ('<' :: c :: t) = some ⟨'<' :: c :: t, false, '<' :: c :: t, [], false⟩ := by
  have hc := not_mem_of_isNameChar h
  simp only [List.mem_cons, not_or] at hc
  have hquestion : c ≠ '?' := hc.2.2.2.2.2.2.2.2.2.1
  have hwide : wideStart? ('<' :: c :: t) = none := by
    unfold wideStart?
    split
    · rename_i heq
      cases heq
      simp at hc
    · rename_i heq
      cases heq
    · rename_i heq
      cases heq
      simp at hc
    · rename_i heq
      cases heq
    · rfl
  have hdeclared : after? "<?xml" ('<' :: c :: t) = none := by
    simp [after?, List.isPrefixOf?, Ne.symm hquestion]
  simp only [openText, hwide, openWith, hdeclared]
  rfl

/-- The marks of an element begin with a bracket and the first character of its name. -/
theorem exists_cons_of_spelled {e : Element} {marks : List Mark} (h : Spelled [e] marks)
    (hmarks : ∀ mark ∈ marks, mark.IsWritable) :
    ∃ c t, marksText marks = '<' :: c :: t ∧ isNameChar c := by
  obtain ⟨name, rows, isEmpty, rest, rfl⟩ :
      ∃ name rows isEmpty rest, marks = .opening name rows isEmpty :: rest := by
    cases h with
    | empty name attributes hrest => exact ⟨name, attributes.rows, true, _, rfl⟩
    | around name attributes hchildren hrest => exact ⟨name, attributes.rows, false, _, rfl⟩
  have hname := (hmarks _ List.mem_cons_self).1
  cases name with
  | nil => simp [isLocal, isName] at hname
  | cons c name =>
      exact ⟨c, _, rfl, isNameChar_of_isName (isName_of_isLocal hname) c List.mem_cons_self⟩

/-- Marks that spell an element are read as it, if they can be written and the element is not
too deep. -/
theorem parse_marksText {e : Element} {marks : List Mark} (h : Spelled [e] marks)
    (hmarks : ∀ mark ∈ marks, mark.IsWritable) (hdepth : e.depth ≤ Progress.maxDepth) :
    parse (marksText marks) = .ok e := by
  obtain ⟨c, t, htext, hc⟩ := exists_cons_of_spelled h hmarks
  have hfound := reads_piecesFrom_marksText false marks hmarks _
    (length_le_length_marksText marks)
  have hrun := foldlM_take_root h
    ⟨false, marksText marks, none, Account.empty, [], none, [], true, false⟩
    ⟨rfl, rfl, rfl, Or.inr rfl⟩ rfl hmarks hdepth _ hfound
  have hopen : openText (marksText marks) =
      some ⟨marksText marks, false, marksText marks, [], false⟩ := by
    rw [htext]
    exact openText_of_tag t hc
  have hall : takeAll ⟨marksText marks, false, marksText marks, [], false⟩ = _ := hrun
  simp only [parse, hopen, hall]
  rfl

end Document

end Iconsmith.Markup
