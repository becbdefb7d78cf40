import Iconsmith.Proofs.Markup.Shadows
import Iconsmith.Proofs.Markup.Suffixes

set_option autoImplicit false

/-!
# Runs of readings

A run takes the pieces of a text one after another (`Runs`). A text that is read to its end
without fault has a run (`runs_of_foldlM`), and a text with a run to its end is read
(`Runs.takeAll`). Texts that are alike have runs that shadow one another (`Runs.shadows`), and
what a run takes between elements that close again leaves no trace (`Runs.hides`).
-/

namespace Iconsmith.Markup

/-- The texts that begin with a piece of a text, or follow all its pieces. -/
inductive Begins (alone : Bool) (t : Text) : Text → Prop where
  | here : Begins alone t t
  | next {u v : Text} {found : List Piece} : Begins alone t u →
      Piece.read alone u = (found, some v) → Begins alone t v

theorem Begins.trans {alone : Bool} {t u v : Text} (h : Begins alone t u)
    (hnext : Begins alone u v) : Begins alone t v := by
  induction hnext with
  | here => exact h
  | next _ hread ih => exact .next ih hread

/-- Texts without document types that have a subset of their own, and without names of
namespaces that hold colours. -/
structure IsPlainText (alone : Bool) (t : Text) : Prop where
  subset : ∀ u, Begins alone t u → ¬BeginsSubset u
  declarations : ∀ u v raw ws ending left, Begins alone t u →
    Piece.read alone u = ([.opening raw ws ending left], some v) → ∀ w ∈ ws, IsPlainWritten w

theorem IsPlainText.next {alone : Bool} {t u : Text} (h : IsPlainText alone t)
    (hbegins : Begins alone t u) : IsPlainText alone u :=
  ⟨fun v hv => h.subset v (hbegins.trans hv),
    fun v w raw ws ending left hv => h.declarations v w raw ws ending left (hbegins.trans hv)⟩

/-- A later beginning of a piece is the first one or comes after the first piece. -/
theorem Begins.cases_head {alone : Bool} {t u v : Text} {found : List Piece}
    (h : Begins alone t u) (hread : Piece.read alone t = (found, some v)) :
    u = t ∨ Begins alone v u := by
  induction h with
  | here => exact Or.inl rfl
  | next _ hnext ih =>
      rcases ih with rfl | hlater
      · cases hread.symm.trans hnext
        exact Or.inr .here
      · exact Or.inr (.next hlater hnext)

theorem Begins.eq_nil {alone : Bool} {u : Text} (h : Begins alone [] u) : u = [] := by
  induction h with
  | here => rfl
  | next _ hread ih =>
      subst ih
      cases hread
      rfl

theorem exists_broken_of_asPiece {α : Type} {kind : Kind} {make : α → Nat → Piece}
    {reading : Reading α} {found : List Piece} (h : asPiece kind make reading = (found, none)) :
    ∃ s, found = [.broken kind s] := by
  cases reading with
  | ok _ => cases h
  | error s =>
      cases h
      exact ⟨s, rfl⟩

/-- What cannot be read is told by the last piece. -/
theorem exists_broken_of_read {alone : Bool} {t : Text} {found : List Piece}
    (h : Piece.read alone t = (found, none)) :
    (∃ kind s, found = [.broken kind s]) ∨
      ∃ raw ws s, found = [.opening raw ws .broken 0, .broken .opening s] := by
  rw [Piece.read.eq_def] at h
  split at h
  · exact Or.inl ⟨_, exists_broken_of_asPiece h⟩
  · exact Or.inl ⟨_, exists_broken_of_asPiece h⟩
  · split at h
    · exact Or.inl ⟨_, exists_broken_of_asPiece h⟩
    · exact Or.inl ⟨_, exists_broken_of_asPiece h⟩
    · exact Or.inl ⟨_, exists_broken_of_asPiece h⟩
    · cases h
      exact Or.inl ⟨_, _, rfl⟩
  · -- The attributes before the fault of an opening tag are kept with it.
    rw [cutOpening] at h
    split at h
    · cases h
      exact Or.inl ⟨_, _, rfl⟩
    · split at h
      · cases h
      · cases h
        exact Or.inr ⟨_, _, _, rfl⟩
  · exact Or.inl ⟨_, exists_broken_of_asPiece h⟩
  · exact Or.inl ⟨_, exists_broken_of_asPiece h⟩

/-- A name behind a bracket begins an opening tag. -/
theorem ReadsPiece.exists_opening {alone : Bool} {t u : Text} {c : Char} {piece : Piece}
    (h : ReadsPiece alone ('<' :: c :: t) piece u) (hc : isNameStart c) :
    ∃ raw afterName ws ending left, piece = .opening raw ws ending left ∧
      readName (c :: t) = .ok (raw, afterName) ∧ ReadsAttributes afterName ws ending u := by
  generalize hs : '<' :: c :: t = s at h
  cases h with
  | opening hname hattributes =>
      cases hs
      exact ⟨_, _, _, _, _, rfl, hname, hattributes⟩
  | data hne hd _ =>
      obtain ⟨d, e, rfl⟩ := List.exists_cons_of_ne_nil hne
      obtain rfl := (List.cons.inj hs).1
      exact absurd rfl (hd.chars _ List.mem_cons_self).2.1
  | reference _ => cases hs
  | _ =>
      cases hs
      exact absurd hc (by decide)

/-- A tag that is read to its end does not break off. -/
theorem ReadsAttributes.ending_ne {t u : Text} {ws : List Written} {ending : Ending}
    (h : ReadsAttributes t ws ending u) : ending ≠ .broken := by
  induction h with
  | ending hend =>
      rcases tagEnd?_eq_some.1 hend with ⟨rfl, -⟩ | ⟨rfl, -⟩
      · exact Ending.noConfusion
      · exact Ending.noConfusion
  | cons _ _ _ _ ih => exact ih

namespace Document

/-- The pieces of a text, up to another text, are taken one after another. -/
inductive Reaches (alone : Bool) : Progress → Text → Progress → Text → Prop where
  | refl (p : Progress) (t : Text) : Reaches alone p t p t
  | step {p q r : Progress} {t u v : Text} {piece : Piece} : ReadsPiece alone t piece u →
      take p piece = .ok q → Reaches alone q u r v → Reaches alone p t r v

/-- A reading that takes whole pieces of a text, up to another text. -/
inductive Runs (alone : Bool) : Progress → Text → Progress → Text → Prop where
  | refl (p : Progress) (t : Text) : Runs alone p t p t
  | step {p q r : Progress} {t u v : Text} {piece : Piece} : ReadsPiece alone t piece u →
      IsPlainPiece piece → Takes p piece q → Runs alone q u r v → Runs alone p t r v

variable {alone : Bool} {p q r : Progress} {t u : Text}

theorem Reaches.trans {q : Progress} {v : Text} (h : Reaches alone p t q u)
    (hrest : Reaches alone q u r v) : Reaches alone p t r v := by
  induction h with
  | refl p t => exact hrest
  | step hread htake _ ih => exact .step hread htake (ih hrest)

theorem Reaches.exists_cuts {v : Text} (h : Reaches alone p t r v) (hv : v = []) :
    ∃ found, Cuts alone t found ∧ found.foldlM take p = .ok r := by
  induction h with
  | refl p t =>
      subst hv
      exact ⟨[], .nil, rfl⟩
  | step hread htake _ ih =>
      obtain ⟨found, hcuts, hfold⟩ := ih hv
      refine ⟨_, .cons hread hcuts, ?_⟩
      rw [List.foldlM_cons]
      exact bind_eq_ok.2 ⟨_, htake, hfold⟩

/-- The pieces of a text that is taken to its end are all its pieces. -/
theorem Reaches.foldlM_pieces (h : Reaches alone p t r []) :
    (pieces alone t).foldlM take p = .ok r := by
  obtain ⟨found, hcuts, hfold⟩ := h.exists_cuts rfl
  rw [pieces_of_cuts hcuts]
  exact hfold

theorem ReadsPiece.isPlainPiece {piece : Piece} (h : ReadsPiece alone t piece u)
    (hplain : IsPlainText alone t) : IsPlainPiece piece := by
  have hread := read_of_readsPiece h
  cases h with
  | opening _ _ => exact hplain.declarations _ _ _ _ _ _ .here hread
  | doctype _ => exact ⟨_, rfl⟩
  | _ => trivial

/-- A faultless step begins without fault. -/
theorem Takes.faultless {piece : Piece} (hread : ReadsPiece alone t piece u) (hp : Going p)
    (hplain : IsPlainPiece piece) (h : Takes p piece q) (hq : q.account.IsFaultless) :
    p.account.IsFaultless := by
  obtain ⟨piece', _, _, halike, _⟩ := hread.alike_whole alone id (Alike.refl t)
  exact (h.shadows hp halike hplain hq).1

theorem foldlM_of_isOver (hp : p.isOver = true) (found : List Piece) :
    found.foldlM take p = .ok p := by
  induction found with
  | nil => rfl
  | cons piece found ih =>
      rw [List.foldlM_cons, take, if_pos hp]
      exact ih

/-- What cannot be read is not taken without fault. -/
theorem not_isFaultless_of_broken (hp : Going p) {kind : Kind} {s : Stop}
    (h : take p (.broken kind s) = .ok q) : ¬q.account.IsFaultless := by
  rcases take_eq_ok hp h with htakes | ⟨-, hfaulty⟩
  · cases htakes
  · exact hfaulty

/-- A reading that ends with a text that cannot be read ends with a fault. -/
theorem not_isFaultless_of_read {t : Text} {found : List Piece} (hp : Going p)
    (hread : Piece.read alone t = (found, none)) (h : found.foldlM take p = .ok r) :
    ¬r.account.IsFaultless := by
  rcases exists_broken_of_read hread with ⟨kind, s, rfl⟩ | ⟨raw, ws, s, rfl⟩
  · obtain ⟨q, hq, h⟩ := bind_eq_ok.1 h
    cases h
    exact not_isFaultless_of_broken hp hq
  · -- The tag that breaks off may be over with the reading, and opens nothing in any case.
    obtain ⟨q, hq, h⟩ := bind_eq_ok.1 h
    obtain ⟨q', hq', h⟩ := bind_eq_ok.1 h
    cases h
    rcases take_eq_ok hp hq with htakes | ⟨hover, hfaulty⟩
    · cases htakes with
      | @broken _ _ _ draft _ _ =>
          have hgoing : Going { p with account := draft.account } :=
            ⟨hp.going, hp.plain, hp.single⟩
          exact not_isFaultless_of_broken hgoing hq'
    · rw [take, if_pos hover] at hq'
      cases hq'
      exact hfaulty

theorem runs_of_foldlM {steps : Nat} (hplain : IsPlainText alone t) (hp : Going p)
    (h : (piecesFrom alone steps t).foldlM take p = .ok r) (hr : r.account.IsFaultless) :
    p.account.IsFaultless ∧ Runs alone p t r [] := by
  -- On the steps, one for each piece; those that run out leave a broken piece, which is a fault.
  induction steps generalizing t p with
  | zero =>
      cases t with
      | nil =>
          cases h
          exact ⟨hr, .refl _ _⟩
      | cons c t =>
          rw [piecesFrom, List.foldlM_cons] at h
          · obtain ⟨q, hq, h⟩ := bind_eq_ok.1 h
            cases h
            exact absurd hr (not_isFaultless_of_broken hp hq)
          · exact fun hnil => by cases hnil
  | succ steps ih =>
      by_cases hne : t = []
      · subst hne
        rw [piecesFrom] at h
        cases h
        exact ⟨hr, .refl _ _⟩
      rw [piecesFrom] at h
      · split at h
        · rename_i found hread
          exact absurd hr (not_isFaultless_of_read hp hread h)
        · rename_i found v hread
          obtain ⟨piece, rfl, hpiece⟩ := readsPiece_of_read hne (hplain.subset t .here) hread
          obtain ⟨q, hq, hrest⟩ := bind_eq_ok.1 h
          have hplainPiece := ReadsPiece.isPlainPiece hpiece hplain
          rcases take_eq_ok hp hq with htakes | ⟨hover, hfaulty⟩
          · obtain ⟨hfaultless, hruns⟩ := ih (hplain.next (.next .here hread))
              (htakes.going hp hplainPiece) hrest
            exact ⟨Takes.faultless hpiece hp hplainPiece htakes hfaultless,
              .step hpiece hplainPiece htakes hruns⟩
          · -- Once it is over nothing is complained about, so the fault is there in the end.
            cases (foldlM_of_isOver hover _).symm.trans hrest
            exact absurd hr hfaulty
      · exact hne

theorem Runs.faultless {v : Text} (h : Runs alone p t r v) (hp : Going p)
    (hr : r.account.IsFaultless) : p.account.IsFaultless := by
  induction h with
  | refl => exact hr
  | step hread hplain htakes _ ih =>
      exact Takes.faultless hread hp hplain htakes (ih (htakes.going hp hplain) hr)

/-- The pieces of a run are taken one after another. -/
theorem Runs.reaches {v : Text} (h : Runs alone p t r v) (hp : Going p) :
    Reaches alone p t r v := by
  induction h with
  | refl p t => exact .refl p t
  | step hread hplain htakes _ ih =>
      exact .step hread (htakes.take hp) (ih (htakes.going hp hplain))

/-- Alike texts have runs that shadow one another. -/
theorem Runs.shadows {alone' : Bool} {p' : Progress} {t' v : Text}
    (halone : alone' = true → alone = true) (h : Runs alone p t r v) (hp : Going p)
    (hr : r.account.IsFaultless) (htext : Alike [] [] t t') (hshadow : Shadows 0 p p') :
    ∃ r' v', Runs alone' p' t' r' v' ∧ Shadows 0 r r' ∧ Alike [] [] v v' := by
  induction h generalizing p' t' with
  | refl p t => exact ⟨p', t', .refl p' t', hshadow, htext⟩
  | step hread hplain htakes hrest ih =>
      have hq := htakes.going hp hplain
      obtain ⟨piece', u', hread', hpiece, hu⟩ := hread.alike_whole alone' halone htext
      obtain ⟨q', htakes', hshadow'⟩ :=
        (htakes.shadows hp hpiece hplain (hrest.faultless hq hr)).2 p' hshadow
      obtain ⟨r', v', hrest', hr', hv⟩ := ih hq hr hu hshadow'
      exact ⟨r', v', .step hread' (isPlainPiece_alike hpiece hplain) htakes' hrest', hr', hv⟩

/-! ## Elements that close again -/

/-- From one text up to another stand whole pieces that close what they open, and `depth` more
elements. -/
inductive Closes (alone : Bool) : Nat → Text → Text → Prop where
  | done (t : Text) : Closes alone 0 t t
  | next {depth after : Nat} {t u v : Text} {piece : Piece} :
      Piece.read alone t = ([piece], some u) → depthAfter depth piece = some after →
        Closes alone after u v → Closes alone depth t v

theorem Closes.begins {depth : Nat} (h : Closes alone depth t u) : Begins alone t u := by
  induction h with
  | done t => exact .here
  | next hread _ _ ih => exact (Begins.next .here hread).trans ih

/-- Elements that close again inside another leave no trace in the shadow. -/
theorem Runs.hides {p' : Progress} {depth : Nat} (hcloses : Closes alone depth t u)
    (h : Runs alone p t r []) (hp : Going p) (hr : r.account.IsFaultless)
    (hshadow : Shadows depth p p') (hinside : p'.frames ≠ []) :
    ∃ q, Runs alone q u r [] ∧ Going q ∧ Shadows 0 q p' := by
  induction hcloses generalizing p with
  | done t => exact ⟨p, h, hp, hshadow⟩
  | @next depth after t u v piece hread hdepth _ ih =>
      generalize hend : ([] : Text) = w at h
      cases h with
      | refl =>
          subst hend
          cases hread
          cases hdepth
          exact ih (.refl _ _) hp hshadow
      | step hpiece hplain htakes hrest =>
          subst hend
          cases (read_of_readsPiece hpiece).symm.trans hread
          have hq := htakes.going hp hplain
          exact ih hrest hq
            (htakes.hides hp hplain (hrest.faultless hq hr) hdepth hshadow hinside)

/-! ## The root -/

/-- The name of the root, once it has been opened. -/
def rootName? (p : Progress) : Option Text :=
  (p.root.map Element.name).or (p.frames.map fun f => f.tag.name).getLast?

theorem rootName?_finish (p : Progress) (e : Element) {frames : List Frame} (h : frames ≠ []) :
    rootName? (p.finish e frames) = rootName? { p with frames := frames } := by
  obtain ⟨f, outer, rfl⟩ := List.exists_cons_of_ne_nil h
  rfl

theorem rootName?_cons (f : Frame) (h : p.frames ≠ []) :
    rootName? { p with frames := f :: p.frames } = rootName? p := by
  obtain ⟨g, outer, hframes⟩ := List.exists_cons_of_ne_nil h
  rw [rootName?, rootName?, hframes, List.map_cons, List.map_cons, List.getLast?_cons_cons]

/-- The root stays what it is. -/
theorem Takes.rootName? {piece : Piece} (hp : Going p) (h : Takes p piece q) {name : Text}
    (hname : rootName? p = some name) : Document.rootName? q = some name := by
  have hinside : (p.frames = [] → p.root = none) → p.frames ≠ [] := by
    intro hplace hnil
    rw [Document.rootName?, hplace hnil, hnil] at hname
    cases hname
  cases h with
  | broken _ _ => exact hname
  | opened hplace _ _ => exact (rootName?_cons _ (hinside hplace)).trans hname
  | closed hplace _ _ => exact (rootName?_finish _ _ (hinside hplace)).trans hname
  | @closing f outer hframes =>
      cases outer with
      | nil =>
          have hroot : p.root = none := hp.single (by rw [hframes]; exact List.cons_ne_nil _ _)
          rw [Document.rootName?, hroot, hframes] at hname
          exact hname
      | cons g outer =>
          rw [rootName?_finish _ _ (List.cons_ne_nil g outer)]
          rw [Document.rootName?, hframes, List.map_cons, List.map_cons,
            List.getLast?_cons_cons] at hname
          exact hname
  | data _ => exact hname
  | comment => exact hname
  | instruction target => exact hname
  | verbatim _ => exact hname
  | char _ => exact hname
  | entity _ _ => exact hname
  | doctype hframes hroot _ => exact absurd hframes (hinside fun _ => hroot)

theorem Runs.rootName? {v : Text} (h : Runs alone p t r v) (hp : Going p) {name : Text}
    (hname : rootName? p = some name) : Document.rootName? r = some name := by
  induction h with
  | refl => exact hname
  | step _ hplain htakes _ ih => exact ih (htakes.going hp hplain) (htakes.rootName? hp hname)

/-- A tag outside of all elements opens the root, which has the name in the tag, with or without
the name of a space before it. -/
theorem Takes.rootName?_opening {raw : Text} {ws : List Written} {ending : Ending} {left : Nat}
    (hending : ending ≠ .broken) (hp : Going p) (hoff : p.frames = [])
    (h : Takes p (.opening raw ws ending left) q) :
    Document.rootName? q = some raw ∨ Document.rootName? q = some (QName.ofRaw raw).base := by
  obtain ⟨m, hplain⟩ := hp.plain
  have hm : (p.surroundings Doctype.maxNesting).doctype = .plain m := hplain
  -- The name that is kept is the one written, or what is behind its colon.
  have htag : ∀ {r : TagResult}, Tag.read (p.surroundings Doctype.maxNesting) p.scope p.ids
      p.account raw ws left = .ok r → r.tag.name = raw ∨ r.tag.name = (QName.ofRaw raw).base := by
    intro r hr
    obtain ⟨draft, found, -, -, rfl⟩ := (Tag.read_eq_ok hm).1 hr
    show keptName _ _ raw = raw ∨ keptName _ _ raw = _
    unfold keptName
    split
    · exact Or.inl rfl
    · exact Or.inr rfl
  cases h with
  | broken _ _ => exact absurd rfl hending
  | opened hplace _ hr =>
      rw [Document.rootName?, tagged, hoff, hplace hoff]
      exact (htag hr).imp (congrArg some) (congrArg some)
  | closed hplace _ hr =>
      rw [hoff]
      exact (htag hr).imp (congrArg some) (congrArg some)

/-- A tag that is not the one of the root stands inside an element. -/
theorem frames_ne_nil_of_opening {v name raw : Text} {ws : List Written} {ending : Ending}
    {left : Nat} (hp : Going p) (htakes : Takes p (.opening raw ws ending left) q)
    (hplain : IsPlainPiece (.opening raw ws ending left)) (hending : ending ≠ .broken)
    (hrest : Runs alone q u r v) (hname : Document.rootName? r = some name) (hraw : raw ≠ name)
    (hbase : (QName.ofRaw raw).base ≠ name) : p.frames ≠ [] := by
  intro hoff
  have hq := htakes.going hp hplain
  rcases htakes.rootName?_opening hending hp hoff with hopened | hopened
  · exact hraw (Option.some.inj ((hrest.rootName? hq hopened).symm.trans hname))
  · exact hbase (Option.some.inj ((hrest.rootName? hq hopened).symm.trans hname))

end Document

end Iconsmith.Markup
