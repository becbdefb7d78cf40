import Iconsmith.Proofs.Markup.Trees
import Iconsmith.Proofs.Replacing
import Iconsmith.Proofs.Markup.Openings

set_option autoImplicit false

/-!
# Ways of writing a tree

One tree of elements can be written in many ways. A character of a value stands as itself or as a
reference (`SpellsChar`), a value in quotes of either kind (`SpellsRows`), an element without
children as one tag or as two, and all names of elements may have a space in front that the root
declares (`Binding`). Before, between and after the children stand comments, instructions and
character data (`SpellsAsides`, `SpellsForest`), and asides stand around the root
(`SpellsDocument`). Each of these parts is read as a piece that tells nothing of the way it was
written but the targets of the instructions.
-/

namespace Iconsmith.Markup

/-! ## Values -/

/-- The number that decimal digits write, after a number written before them. -/
def numeralFrom (before : Nat) (digits : Text) : Nat :=
  digits.foldl (fun n d => 10 * n + (d.toNat - '0'.toNat)) before

/-- The ways of writing a character between quotes: as itself if it is taken for nothing else,
as a reference by its name, and as one by its number. -/
inductive SpellsChar (quote : Char) (c : Char) : Text → Prop
  | plain : c ∉ ['&', '<', quote, '\t', '\n', '\r'] → SpellsChar quote c [c]
  | named (name : Text) : (name, c) ∈ namedChars → SpellsChar quote c ('&' :: (name ++ [';']))
  | numbered (digits : Text) : digits ≠ [] → (∀ d ∈ digits, d.isDigit) →
      numeralFrom 0 digits = c.toNat → SpellsChar quote c ('&' :: '#' :: (digits ++ [';']))

/-- The ways of writing a value between quotes. -/
inductive SpellsValue (quote : Char) : Text → Text → Prop
  | nil : SpellsValue quote [] []
  | cons {c : Char} {v s t : Text} : SpellsChar quote c s → SpellsValue quote v t →
      SpellsValue quote (c :: v) (s ++ t)

theorem digitsFrom_decimal (digits u : Text) (hne : digits ≠ []) (hdigits : ∀ d ∈ digits, d.isDigit)
    (place before : Nat) :
    digitsFrom (fun _ => decimalDigit?) 10 place before (digits ++ ';' :: u) =
      some (numeralFrom before digits, u) := by
  induction digits generalizing place before with
  | nil => exact absurd rfl hne
  | cons d digits ih =>
      have hd : decimalDigit? d = some (d.toNat - '0'.toNat) :=
        if_pos (hdigits d List.mem_cons_self)
      rw [List.cons_append, digitsFrom.eq_def]
      simp only [hd]
      cases digits with
      | nil => rfl
      | cons e digits =>
          have he : e ≠ ';' := by
            rintro rfl
            exact absurd (hdigits ';' (by simp)) (by decide)
          have hrest := ih (List.cons_ne_nil e digits)
            (fun x hx => hdigits x (List.mem_cons_of_mem d hx)) (place + 1)
            (10 * before + (d.toNat - '0'.toNat))
          split
          · rename_i heq
            exact absurd (List.cons.inj heq).1 he
          · exact hrest

/-- A reference to a character is read as the character. -/
theorem readsReference_named {name : Text} {c : Char} (h : (name, c) ∈ namedChars) (u : Text) :
    ReadsReference (name ++ ';' :: u) (.char c) u := by
  have hnames : ∀ row ∈ namedChars, isName row.1 ∧ row.1.head? ≠ some '#' ∧
      namedPart row.1 = .char row.2 := by decide
  obtain ⟨hname, hhash, hpart⟩ := hnames (name, c) h
  rw [← hpart]
  refine .named ?_ (readName_append hname (by decide) (by decide))
  cases name with
  | nil => simp [isName] at hname
  | cons d name => exact hhash

theorem readsReference_numbered {digits : Text} {c : Char} (hne : digits ≠ [])
    (hdigits : ∀ d ∈ digits, d.isDigit) (hnumber : numeralFrom 0 digits = c.toNat)
    (hc : isChar c) (u : Text) : ReadsReference ('#' :: (digits ++ ';' :: u)) (.char c) u := by
  have hread := digitsFrom_decimal digits u hne hdigits 0 0
  rw [hnumber] at hread
  refine .decimal ?_ hread ?_
  · obtain ⟨d, digits, rfl⟩ := List.exists_cons_of_ne_nil hne
    rintro hx
    cases hx
    exact absurd (hdigits 'x' List.mem_cons_self) (by decide)
  · have hvalid : c.toNat.isValidChar := c.valid
    rw [numberedChar?, Char.ofNat_toNat, if_pos (by simp [hvalid, hc])]

/-- A character that has been written is read as itself. -/
theorem SpellsChar.readsParts {quote c : Char} {s t u : Text} {v : List Part}
    (h : SpellsChar quote c s) (hc : isChar c) (hquote : quote ∈ ['"', '\''])
    (hrest : ReadsParts quote t v u) : ReadsParts quote (s ++ t) (.char c :: v) u := by
  have hamp : '&' ≠ quote := by
    rintro rfl
    exact absurd hquote (by decide)
  cases h with
  | plain hplain =>
      simp only [List.mem_cons, not_or] at hplain
      obtain ⟨hamp, hlt, hquote, htab, hfeed, hreturn, -⟩ := hplain
      have hread := ReadsParts.char hquote hlt hamp (fun hline => hreturn hline.1) (Or.inr hc) hrest
      by_cases hspace : c = ' '
      · subst hspace
        exact hread
      · rw [if_neg (by simp [isGap, hspace, htab, hfeed, hreturn])] at hread
        exact hread
  | named name hname =>
      have hread := ReadsParts.reference hamp (readsReference_named hname t) hrest
      simpa using hread
  | numbered digits hne hdigits hnumber =>
      have hread := ReadsParts.reference hamp
        (readsReference_numbered hne hdigits hnumber hc t) hrest
      simpa using hread

/-- A value that has been written is read as its characters. -/
theorem SpellsValue.readsParts {quote : Char} {v s : Text} (h : SpellsValue quote v s)
    (hv : ∀ c ∈ v, isChar c) (hquote : quote ∈ ['"', '\'']) (u : Text) :
    ReadsParts quote (s ++ quote :: u) (v.map .char) u := by
  induction h with
  | nil => exact .close
  | cons hchar _ ih =>
      rw [List.append_assoc, List.map_cons]
      exact hchar.readsParts (hv _ List.mem_cons_self) hquote
        (ih fun c hc => hv c (List.mem_cons_of_mem _ hc))

/-! ## Tags -/

/-- The ways of writing attributes: a space before each, and quotes of one kind around its
value. -/
inductive SpellsRows : List (Text × Text) → Text → Prop
  | nil : SpellsRows [] []
  | cons (name : Text) {value s t : Text} {quote : Char} {rows : List (Text × Text)} :
      quote ∈ ['"', '\''] → SpellsValue quote value s → SpellsRows rows t →
        SpellsRows ((name, value) :: rows) (' ' :: (name ++ '=' :: quote :: (s ++ quote :: t)))

/-- The text of an opening tag with written attributes. -/
def openingText (raw attributes : Text) (isEmpty : Bool) : Text :=
  '<' :: (raw ++ (attributes ++ Mark.ending isEmpty))

/-- How an opening tag ends that closes its element or not. -/
def endingOf (isEmpty : Bool) : Ending := if isEmpty then .closed else .opened

/-- The text of a closing tag. -/
def closingText (raw : Text) : Text := '<' :: '/' :: (raw ++ ['>'])

/-- What was written has the names and values of rows. -/
def AreRows (ws : List Written) (rows : List (Text × Text)) : Prop :=
  ws.map (fun w => (w.raw, w.value)) = rows.map fun row => (row.1, row.2.map .char)

/-- After the name of a tag follow attributes or its end, but no more of the name. -/
theorem SpellsRows.exists_cons {rows : List (Text × Text)} {s : Text} (h : SpellsRows rows s)
    (isEmpty : Bool) (u : Text) :
    ∃ c t, s ++ (Mark.ending isEmpty ++ u) = c :: t ∧ c ∈ [' ', '/', '>'] := by
  cases h with
  | nil =>
      cases isEmpty
      · exact ⟨'>', u, rfl, by decide⟩
      · exact ⟨'/', '>' :: u, rfl, by decide⟩
  | cons _ _ _ _ => exact ⟨' ', _, rfl, by decide⟩

theorem readName_of_ends {raw : Text} (hraw : isName raw) {c : Char} (t : Text)
    (hc : c ∈ [' ', '/', '>']) : readName (raw ++ c :: t) = .ok (raw, c :: t) := by
  simp only [List.mem_cons, List.not_mem_nil, or_false] at hc
  refine readName_append hraw ?_ ?_
  · rcases hc with rfl | rfl | rfl <;> decide
  · rcases hc with rfl | rfl | rfl <;> decide

/-- An attribute that has been written is read. -/
theorem readAttribute_of_spells {name value s : Text} {quote : Char} (hname : isName name)
    (hvalue : ∀ c ∈ value, isChar c) (hquote : quote ∈ ['"', '\''])
    (h : SpellsValue quote value s) (u : Text) :
    readAttribute (name ++ '=' :: quote :: (s ++ quote :: u)) =
      .ok (⟨name, value.map .char, u.length⟩, u) := by
  have hgap : ∀ {c : Char}, c ∈ ['=', '"', '\''] → isGap c = false := by decide
  have hread := readName_append (t := quote :: (s ++ quote :: u)) hname
    (show isNameChar '=' = false by decide) (by decide)
  have hequals : equals? ('=' :: quote :: (s ++ quote :: u)) =
      some (quote :: (s ++ quote :: u)) := by
    refine equals?_eq_some.2 ⟨quote :: (s ++ quote :: u), ?_, ?_⟩
    · exact List.dropWhile_cons_of_neg (by simp [hgap])
    · exact (List.dropWhile_cons_of_neg (by simp [hgap (List.mem_cons_of_mem _ hquote)])).symm
  exact readAttribute_eq_ok.2 ⟨_, _, hread, hequals, readValue_eq_ok.2
    ⟨quote, s ++ quote :: u, by simpa using hquote, rfl, h.readsParts hvalue hquote u⟩, rfl⟩

theorem SpellsRows.readsAttributes {rows : List (Text × Text)} {s : Text} (h : SpellsRows rows s)
    (hrows : ∀ row ∈ rows, isName row.1 ∧ ∀ c ∈ row.2, isChar c) (isEmpty : Bool) (u : Text) :
    ∃ ws, ReadsAttributes (s ++ (Mark.ending isEmpty ++ u)) ws (endingOf isEmpty) u ∧
      AreRows ws rows := by
  -- On the rows: a space, a name and a value, and then what is read for the rest.
  induction h with
  | nil =>
      refine ⟨[], .ending ?_, rfl⟩
      cases isEmpty <;> rfl
  | @cons name value s t quote rows hquote hspells _ ih =>
      obtain ⟨hname, hvalue⟩ := hrows _ List.mem_cons_self
      obtain ⟨ws, hread, hws⟩ := ih fun row hrow => hrows row (List.mem_cons_of_mem _ hrow)
      have hfirst := readAttribute_of_spells hname hvalue hquote hspells
        (t ++ (Mark.ending isEmpty ++ u))
      obtain ⟨c, n, rfl⟩ : ∃ c n, name = c :: n := by
        cases name with
        | nil => simp [isName] at hname
        | cons c n => exact ⟨c, n, rfl⟩
      obtain ⟨hgap, hend⟩ := gap?_space_cons (n ++ '=' :: quote :: (s ++ quote ::
        (t ++ (Mark.ending isEmpty ++ u)))) (isNameChar_of_isName hname c List.mem_cons_self)
      refine ⟨⟨c :: n, value.map .char, (t ++ (Mark.ending isEmpty ++ u)).length⟩ :: ws, ?_, ?_⟩
      · simp only [List.cons_append, List.append_assoc]
        exact .cons hend hgap hfirst hread
      · rw [AreRows, List.map_cons, List.map_cons, hws]

/-- An opening tag that has been written is read with its rows. -/
theorem readsPiece_openingText {raw : Text} {rows : List (Text × Text)} {s : Text}
    (hraw : isName raw) (h : SpellsRows rows s)
    (hrows : ∀ row ∈ rows, isName row.1 ∧ ∀ c ∈ row.2, isChar c) (isEmpty alone : Bool) (u : Text) :
    ∃ ws left, ReadsPiece alone (openingText raw s isEmpty ++ u)
      (.opening raw ws (endingOf isEmpty) left) u ∧ AreRows ws rows := by
  obtain ⟨ws, hread, hws⟩ := h.readsAttributes hrows isEmpty u
  obtain ⟨c, t, hcons, hc⟩ := h.exists_cons isEmpty u
  have hname := readName_of_ends hraw t hc
  rw [← hcons] at hname
  have hpiece : ReadsPiece alone _ _ _ := .opening hname hread
  have htext : openingText raw s isEmpty ++ u =
      '<' :: (raw ++ (s ++ (Mark.ending isEmpty ++ u))) := by
    simp [openingText]
  rw [htext]
  exact ⟨ws, _, hpiece, hws⟩

theorem readsPiece_closingText {raw : Text} (hraw : isName raw) (alone : Bool) (u : Text) :
    ReadsPiece alone (closingText raw ++ u) (.closing raw) u := by
  have hname := readName_of_ends hraw u (c := '>') (by decide)
  have hpiece : ReadsPiece alone _ _ _ :=
    .closing (readClosingTag_eq_ok.2 ⟨'>' :: u, hname, rfl⟩)
  simpa [closingText] using hpiece

/-! ## Asides -/

/-- What may stand in a comment: no two hyphens, the one before its end included. -/
def IsComment (t : Text) : Prop := (∀ c ∈ t, isChar c) ∧ ¬"--".toList <:+: t ++ ['-']

/-- The names that an instruction may have, which are all but the reserved one. -/
def IsTarget (target : Text) : Prop := isName target ∧ target.map Char.toLower ≠ "xml".toList

/-- What may follow the target of an instruction: nothing, or white space and then anything but
the end mark. -/
def IsBody (t : Text) : Prop :=
  (∀ c ∈ t.head?, isGap c) ∧ (∀ c ∈ t, isChar c) ∧ ¬"?>".toList <:+: t

instance (t : Text) : Decidable (IsComment t) := inferInstanceAs (Decidable (_ ∧ _))

instance (target : Text) : Decidable (IsTarget target) := inferInstanceAs (Decidable (_ ∧ _))

instance (t : Text) : Decidable (IsBody t) :=
  have : Decidable (∀ c ∈ t.head?, isGap c) := Option.decidableForallMem _
  inferInstanceAs (Decidable (_ ∧ _ ∧ _))

instance (d : Text) : Decidable (IsData d) :=
  decidable_of_iff ((∀ c ∈ d, isChar c ∧ c ≠ '<' ∧ c ≠ '&') ∧ ¬"]]>".toList <:+: d)
    ⟨fun h => ⟨h.1, h.2⟩, fun h => ⟨h.chars, h.noEnd⟩⟩

instance (u : Text) : Decidable (EndsData u) := Option.decidableForallMem _

/-- The text of a comment. -/
def commentText (t : Text) : Text := "<!--".toList ++ (t ++ "-->".toList)

/-- The text of an instruction. -/
def instructionText (target body : Text) : Text :=
  "<?".toList ++ (target ++ (body ++ "?>".toList))

/-- The texts of comments, instructions and character data in any order, with the targets of the
instructions. Outside of all elements the data is white space; data that follows data would be
one with it. -/
inductive SpellsAsides (isInside : Bool) : List Text → Text → Prop
  | nil : SpellsAsides isInside [] []
  | comment (c : Text) {t : Text} {targets : List Text} : IsComment c →
      SpellsAsides isInside targets t → SpellsAsides isInside targets (commentText c ++ t)
  | instruction (target body : Text) {t : Text} {targets : List Text} : IsTarget target →
      IsBody body → SpellsAsides isInside targets t →
        SpellsAsides isInside (target :: targets) (instructionText target body ++ t)
  | data (d : Text) {t : Text} {targets : List Text} : d ≠ [] → IsData d →
      (isInside = true ∨ d.all isGap) → EndsData t → SpellsAsides isInside targets t →
        SpellsAsides isInside targets (d ++ t)

/-- A text is read up to a mark that does not begin before its end. -/
theorem readUpTo_of_not_infix (close : String) (hclose : close.toList ≠ []) {t : Text}
    (hchars : ∀ c ∈ t, isChar c) (h : ¬close.toList <:+: t ++ close.toList.dropLast) (u : Text) :
    readUpTo close (t ++ (close.toList ++ u)) = .ok ((), u) := by
  induction t with
  | nil =>
      have hafter : after? close (close.toList ++ u) = some u := after?_eq_some.2 rfl
      obtain ⟨d, l, hl⟩ := List.exists_cons_of_ne_nil hclose
      rw [hl, List.cons_append] at hafter
      rw [List.nil_append, hl, List.cons_append, readUpTo, hafter]
  | cons c t ih =>
      have hmark : ¬close.toList <+: c :: (t ++ (close.toList ++ u)) := by
        rintro ⟨v, hv⟩
        -- A mark that began at `c` would lie in the text and all but the last of the real mark.
        have hlead : close.toList <+: (c :: t ++ close.toList.dropLast) ++
            (close.toList.drop (close.toList.length - 1) ++ u) := by
          refine ⟨v, hv.trans ?_⟩
          rw [List.dropLast_eq_take, List.append_assoc, ← List.append_assoc (List.take _ _),
            List.take_append_drop]
          rfl
        refine h (List.IsPrefix.isInfix (List.prefix_of_prefix_length_le hlead
          (List.prefix_append _ _) ?_))
        simp only [List.length_append, List.length_cons, List.length_dropLast]
        omega
      rw [List.cons_append, readUpTo_cons hmark (hchars c List.mem_cons_self)]
      exact ih (fun d hd => hchars d (List.mem_cons_of_mem c hd)) fun hinner =>
        h (hinner.trans (List.suffix_cons c _).isInfix)

theorem readsPiece_commentText {c : Text} (hc : IsComment c) (alone : Bool) (u : Text) :
    ReadsPiece alone (commentText c ++ u) .comment u := by
  have hread := readUpTo_of_not_infix "--" (by decide) hc.1 hc.2 ('>' :: u)
  have hpiece : ReadsPiece alone _ _ _ := .comment hread
  simpa [commentText] using hpiece

/-- White space is passed over in a text that goes on with something else. -/
theorem skipGap_append (t : Text) {c : Char} (hc : isGap c = false) (u : Text) :
    skipGap (t ++ c :: u) = skipGap t ++ c :: u := by
  rw [skipGap, List.dropWhile_append, List.dropWhile_cons_of_neg (by simp [hc])]
  split
  · rename_i hempty
    rw [skipGap, List.isEmpty_iff.1 hempty]
    rfl
  · rfl

theorem readsPiece_instructionText {target body : Text} (htarget : IsTarget target)
    (hbody : IsBody body) (alone : Bool) (u : Text) :
    ReadsPiece alone (instructionText target body ++ u) (.instruction target) u := by
  obtain ⟨hname, hreserved⟩ := htarget
  obtain ⟨hgap, hchars, hend⟩ := hbody
  -- A target that is like the reserved one up to case is no target, but a longer one may be.
  have hnear : ¬(isNearReserved target ∧ target.length = 3) := by
    rintro ⟨hnear, hlength⟩
    rw [isNearReserved, ← hlength, List.take_length] at hnear
    exact hreserved (eq_of_beq hnear)
  have hread : readInstruction (target ++ (body ++ ("?>".toList ++ u))) = .ok (target, u) := by
    rw [readInstruction_eq_ok]
    cases body with
    | nil => exact ⟨"?>".toList ++ u, readName_append hname (by decide) (by decide), hnear,
        Or.inl (after?_eq_some.2 rfl)⟩
    | cons c body =>
        have hc : isGap c = true := hgap c rfl
        have hstop : isNameChar c = false := Bool.eq_false_iff.2 fun hstart =>
          absurd hc (by rw [isGap_eq_false hstart]; exact Bool.false_ne_true)
        have hne : ∀ {d : Char}, isGap d = false → c ≠ d := by
          rintro d hd rfl
          exact absurd hc (by rw [hd]; exact Bool.false_ne_true)
        refine ⟨c :: (body ++ ("?>".toList ++ u)), readName_append hname hstop (hne (by decide)),
          hnear, Or.inr ⟨?_, _, gap?_eq_some.2 ⟨c, _, rfl, hc, rfl⟩, ?_⟩⟩
        · rw [after?_eq_none]
          exact fun hlead => hne (by decide) (List.cons_prefix_cons.1 hlead).1.symm
        · have hsuffix : skipGap body <:+ c :: body :=
            (suffix_skipGap body).trans (List.suffix_cons c body)
          have hskip : skipGap (body ++ ("?>".toList ++ u)) = skipGap body ++ ("?>".toList ++ u) :=
            skipGap_append body (by decide) _
          rw [hskip]
          refine readUpTo_of_not_infix "?>" (by decide)
            (fun d hd => hchars d (hsuffix.subset hd)) ?_ u
          show ¬"?>".toList <:+: skipGap body ++ ['?']
          rw [List.infix_concat_iff, not_or]
          refine ⟨?_, fun hinner => hend (hinner.trans hsuffix.isInfix)⟩
          rintro ⟨v, hv⟩
          have hlast := congrArg List.getLast? hv
          simp at hlast
  have hpiece : ReadsPiece alone _ _ _ := .instruction hread
  simpa [instructionText] using hpiece

/-! ## Trees -/

/-- A space with the namespace that it stands for. -/
structure Binding where
  space : Text
  uri : Text
  deriving DecidableEq

namespace Binding

/-- What may be declared: not the space of declarations nor their namespace, and the space `xml`
just for its own. -/
structure IsLegal (b : Binding) : Prop where
  space : isLocal b.space
  uri : ∀ c ∈ b.uri, isChar c
  nonempty : b.uri ≠ []
  notDeclaring : b.space ≠ declarationSpace ∧ b.uri ≠ declarationNamespace
  reserved : b.space = xmlSpace ↔ b.uri = xmlNamespace

instance (b : Binding) : Decidable b.IsLegal :=
  decidable_of_iff (isLocal b.space ∧ (∀ c ∈ b.uri, isChar c) ∧ b.uri ≠ [] ∧
      (b.space ≠ declarationSpace ∧ b.uri ≠ declarationNamespace) ∧
        (b.space = xmlSpace ↔ b.uri = xmlNamespace))
    ⟨fun h => ⟨h.1, h.2.1, h.2.2.1, h.2.2.2.1, h.2.2.2.2⟩,
      fun h => ⟨h.space, h.uri, h.nonempty, h.notDeclaring, h.reserved⟩⟩

/-- Whether a namespace has the form of a URI or of a relative reference. -/
def isReference (b : Binding) : Bool := Uri.isAbsolute b.uri || Uri.isRelative b.uri

/-- The declaration of a space, as an attribute. -/
def row (b : Binding) : Text × Text := (declarationSpace ++ ':' :: b.space, b.uri)

end Binding

/-- The name of an element as it is written, where all names have the space of a binding. -/
def rawName (binding : Option Binding) (name : Text) : Text :=
  match binding with
  | none => name
  | some b => b.space ++ ':' :: name

/-- The ways of writing the elements inside another: every one as a single tag, if it is empty,
or between two tags, and asides before, between and after them. -/
inductive SpellsForest (binding : Option Binding) : List Element → List Text → Text → Prop
  | asides {targets : List Text} {t : Text} : SpellsAsides true targets t →
      SpellsForest binding [] targets t
  | single (name : Text) (attributes : Table Text Text) {s rows t : Text} {rest : List Element}
      {before after : List Text} : SpellsAsides true before s → SpellsRows attributes.rows rows →
        SpellsForest binding rest after t →
          SpellsForest binding (⟨name, attributes, []⟩ :: rest) (before ++ after)
            (s ++ (openingText (rawName binding name) rows true ++ t))
  | around (name : Text) (attributes : Table Text Text) {s rows u t : Text}
      {children rest : List Element} {before inside after : List Text} :
      SpellsAsides true before s → SpellsRows attributes.rows rows →
        SpellsForest binding children inside u → SpellsForest binding rest after t →
          SpellsForest binding (⟨name, attributes, children⟩ :: rest)
            (before ++ (inside ++ after))
            (s ++ (openingText (rawName binding name) rows false ++
              (u ++ (closingText (rawName binding name) ++ t))))

/-- The ways of writing the root, where the space stands anywhere among its attributes. -/
inductive SpellsRoot (binding : Option Binding) : Element → List Text → Text → Prop
  | single (name : Text) (attributes : Table Text Text) {rows : Text}
      (first last : List (Text × Text)) :
      attributes.rows = first ++ last →
        SpellsRows (first ++ (binding.map Binding.row).toList ++ last) rows →
          SpellsRoot binding ⟨name, attributes, []⟩ []
            (openingText (rawName binding name) rows true)
  | around (name : Text) (attributes : Table Text Text) {rows u : Text}
      (first last : List (Text × Text)) {children : List Element} {inside : List Text} :
      attributes.rows = first ++ last →
        SpellsRows (first ++ (binding.map Binding.row).toList ++ last) rows →
          SpellsForest binding children inside u →
            SpellsRoot binding ⟨name, attributes, children⟩ inside
              (openingText (rawName binding name) rows false ++
                (u ++ closingText (rawName binding name)))

/-- The ways of writing a tree as a document: its root with asides around it. The targets of the
instructions before the root are told apart from those of the later ones. -/
inductive SpellsDocument (binding : Option Binding) (e : Element) (before : List Text) :
    List Text → Text → Prop
  | intro {s t u : Text} {inside after : List Text} : SpellsAsides false before s →
      SpellsRoot binding e inside t → SpellsAsides false after u →
        SpellsDocument binding e before (inside ++ after) (s ++ (t ++ u))

/-- An element that can be written: its names are local names, none of which declares a
namespace, and its values are characters that a document may hold. -/
structure Element.IsWritable (e : Element) : Prop where
  name : isLocal e.name
  rows : ∀ row ∈ e.attributes.rows,
    isLocal row.1 ∧ row.1 ≠ declarationSpace ∧ ∀ c ∈ row.2, isChar c

instance (e : Element) : Decidable e.IsWritable :=
  decidable_of_iff (isLocal e.name ∧ ∀ row ∈ e.attributes.rows,
      isLocal row.1 ∧ row.1 ≠ declarationSpace ∧ ∀ c ∈ row.2, isChar c)
    ⟨fun h => ⟨h.1, h.2⟩, fun h => ⟨h.name, h.rows⟩⟩

end Iconsmith.Markup
