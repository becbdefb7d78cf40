import Iconsmith.Proofs.Markup.Readings
import Iconsmith.Proofs.Markup.Writing

set_option autoImplicit false

/-!
# Texts cut into pieces

A piece is read in one of eight ways (`ReadsPiece`), and a text that is read to its end is a
chain of such readings (`Cuts`). Document types with a subset of their own are left out.
-/

namespace Iconsmith.Markup

/-- Whether a document type with a subset of its own begins a text. -/
def BeginsSubset (t : Text) : Prop :=
  ∃ body isOutside rest, t = '<' :: '!' :: ("DOCTYPE".toList ++ body) ∧
    ReadsHead body isOutside ('[' :: rest)

/-- A document type without a subset of its own. -/
def Doctype.plain (mayBeOutside : Bool) : Doctype := ⟨⟨[], mayBeOutside⟩, [], Account.empty⟩

/-- The piece at the head of a text, and the text that follows it. -/
inductive ReadsPiece (alone : Bool) : Text → Piece → Text → Prop where
  | opening {t afterName u raw : Text} {ws : List Written} {ending : Ending} :
      readName t = .ok (raw, afterName) → ReadsAttributes afterName ws ending u →
        ReadsPiece alone ('<' :: t)
          (.opening raw ws ending (u.length + if ending = .closed then 2 else 1)) u
  | closing {t raw u : Text} : readClosingTag t = .ok (raw, u) →
      ReadsPiece alone ('<' :: '/' :: t) (.closing raw) u
  | instruction {t target u : Text} : readInstruction t = .ok (target, u) →
      ReadsPiece alone ('<' :: '?' :: t) (.instruction target) u
  | comment {t u : Text} : readUpTo "--" t = .ok ((), '>' :: u) →
      ReadsPiece alone ('<' :: '!' :: ("--".toList ++ t)) .comment u
  | verbatim {t u : Text} : readUpTo "]]>" t = .ok ((), u) →
      ReadsPiece alone ('<' :: '!' :: ("[CDATA[".toList ++ t)) .verbatim u
  | doctype {t u : Text} {isOutside : Bool} : ReadsHead t isOutside ('>' :: u) →
      ReadsPiece alone ('<' :: '!' :: ("DOCTYPE".toList ++ t))
        (.doctype (.plain (isOutside && !alone))) u
  | reference {t u : Text} {part : Part} : readReference t = .ok (part, u) →
      ReadsPiece alone ('&' :: t) (.reference part u.length) u
  | data {d u : Text} : d ≠ [] → IsData d → EndsData u → ReadsPiece alone (d ++ u) (.data d) u

theorem asPiece_eq_some {α : Type} {kind : Kind} {piece : α → Nat → Piece} {reading : Reading α}
    {found : List Piece} {u : Text} :
    asPiece kind piece reading = (found, some u) ↔
      ∃ a, reading = .ok (a, u) ∧ found = [piece a u.length] := by
  cases reading with
  | error s => simp [asPiece, Cut.stopped]
  | ok read =>
      obtain ⟨a, rest⟩ := read
      simp only [asPiece, Prod.mk.injEq, Option.some.injEq, Except.ok.injEq]
      constructor
      · rintro ⟨rfl, rfl⟩
        exact ⟨a, ⟨rfl, rfl⟩, rfl⟩
      · rintro ⟨b, ⟨rfl, rfl⟩, rfl⟩
        exact ⟨rfl, rfl⟩

theorem cutOpening_eq_some {t u : Text} {found : List Piece} :
    cutOpening t = (found, some u) ↔
      ∃ raw afterName ws ending, readName t = .ok (raw, afterName) ∧
        ReadsAttributes afterName ws ending u ∧
          found = [.opening raw ws ending (u.length + if ending = .closed then 2 else 1)] := by
  rw [cutOpening]
  constructor
  · intro h
    split at h
    · cases h
    · rename_i raw afterName hname
      split at h
      · rename_i ws ending rest hattributes
        cases h
        exact ⟨raw, afterName, ws, ending, hname,
          readsAttributes_of_attributesFrom hattributes, rfl⟩
      · cases h
  · rintro ⟨raw, afterName, ws, ending, hname, hattributes, rfl⟩
    have hlength := hattributes.length
    have hsteps : ws.length < afterName.length + 1 := by omega
    have hread := attributesFrom_of_readsAttributes hattributes hsteps
    simp only [hname, hread]

/-- A document type without a subset of its own. -/
theorem doctype_read_eq_ok {alone : Bool} {t u : Text} {d : Doctype}
    (hsubset : ∀ isOutside rest, ¬ReadsHead t isOutside ('[' :: rest)) :
    Doctype.read alone t = .ok (d, u) ↔
      ∃ isOutside, ReadsHead t isOutside ('>' :: u) ∧
        d = .plain (isOutside && !alone) := by
  rw [Doctype.read, bind_eq_ok]
  constructor
  · rintro ⟨⟨isOutside, rest⟩, hhead, h⟩
    have hreads := Doctype.readHead_eq_ok.1 hhead
    simp only at h
    split at h
    · cases h
      exact ⟨isOutside, hreads, rfl⟩
    · exact absurd hreads (hsubset isOutside _)
    · cases h
  · rintro ⟨isOutside, hreads, rfl⟩
    exact ⟨(isOutside, '>' :: u), Doctype.readHead_eq_ok.2 hreads, rfl⟩

theorem readsPiece_of_read {alone : Bool} {t u : Text} {found : List Piece} (hne : t ≠ [])
    (hsubset : ¬BeginsSubset t) (h : Piece.read alone t = (found, some u)) :
    ∃ piece, found = [piece] ∧ ReadsPiece alone t piece u := by
  rw [Piece.read.eq_def] at h
  split at h
  · obtain ⟨raw, hread, rfl⟩ := asPiece_eq_some.1 h
    exact ⟨_, rfl, .closing hread⟩
  · obtain ⟨target, hread, rfl⟩ := asPiece_eq_some.1 h
    exact ⟨_, rfl, .instruction hread⟩
  · rename_i rest
    split at h
    · rename_i body hbody
      obtain ⟨_, hread, rfl⟩ := asPiece_eq_some.1 h
      rw [← after?_eq_some.1 hbody]
      exact ⟨_, rfl, .comment (commentFrom_eq_ok.1 hread)⟩
    · rename_i body hbody _
      obtain ⟨_, hread, rfl⟩ := asPiece_eq_some.1 h
      rw [← after?_eq_some.1 hbody]
      exact ⟨_, rfl, .verbatim (verbatimFrom_eq_ok.1 hread)⟩
    · rename_i body hbody _ _
      obtain ⟨d, hread, rfl⟩ := asPiece_eq_some.1 h
      obtain rfl := after?_eq_some.1 hbody
      obtain ⟨isOutside, hhead, rfl⟩ := (doctype_read_eq_ok fun isOutside rest hreads =>
        hsubset ⟨body, isOutside, rest, rfl, hreads⟩).1 hread
      exact ⟨_, rfl, .doctype hhead⟩
    · cases h
  · obtain ⟨raw, afterName, ws, ending, hname, hattributes, rfl⟩ := cutOpening_eq_some.1 h
    exact ⟨_, rfl, .opening hname hattributes⟩
  · obtain ⟨part, hread, rfl⟩ := asPiece_eq_some.1 h
    exact ⟨_, rfl, .reference hread⟩
  · rename_i hclosing hinstruction hmarked hopening hreference
    obtain ⟨d, hread, rfl⟩ := asPiece_eq_some.1 h
    obtain ⟨rfl, hd, hu⟩ := readData_eq_ok.1 hread
    refine ⟨_, rfl, .data ?_ hd hu⟩
    rintro rfl
    cases u with
    | nil => exact hne rfl
    | cons c u =>
        rcases hu c rfl with rfl | rfl
        · exact hopening u rfl
        · exact hreference u rfl

theorem read_of_readsPiece {alone : Bool} {t u : Text} {piece : Piece}
    (h : ReadsPiece alone t piece u) : Piece.read alone t = ([piece], some u) := by
  cases h with
  | opening hname hattributes =>
      obtain ⟨⟨c, rest, rfl, hstart⟩, -⟩ := readName_eq_ok.1 hname
      rw [Piece.read_opening alone rest (isNameChar_of_isNameStart hstart)]
      exact cutOpening_eq_some.2 ⟨_, _, _, _, hname, hattributes, rfl⟩
  | closing hread =>
      show asPiece .other (fun raw _ => .closing raw) (readClosingTag _) = _
      exact asPiece_eq_some.2 ⟨_, hread, rfl⟩
  | instruction hread =>
      show asPiece .aside (fun target _ => .instruction target) (readInstruction _) = _
      exact asPiece_eq_some.2 ⟨_, hread, rfl⟩
  | comment hread =>
      show asPiece .aside (fun _ _ => .comment) (commentFrom [] _) = _
      exact asPiece_eq_some.2 ⟨(), commentFrom_eq_ok.2 hread, rfl⟩
  | verbatim hread =>
      show asPiece .other (fun _ _ => .verbatim) (verbatimFrom [] _) = _
      exact asPiece_eq_some.2 ⟨(), verbatimFrom_eq_ok.2 hread, rfl⟩
  | @doctype t _ isOutside hread =>
      show asPiece .doctype (fun d _ => .doctype d) (Doctype.read alone t) = _
      refine asPiece_eq_some.2 ⟨_, (doctype_read_eq_ok fun other rest hother => ?_).2
        ⟨isOutside, hread, rfl⟩, rfl⟩
      have hsame := (Doctype.readHead_eq_ok.2 hother).symm.trans (Doctype.readHead_eq_ok.2 hread)
      cases hsame
  | reference hread =>
      show asPiece .other .reference (readReference _) = _
      exact asPiece_eq_some.2 ⟨_, hread, rfl⟩
  | @data d _ hne hd hu =>
      obtain ⟨c, d, rfl⟩ := List.exists_cons_of_ne_nil hne
      have hmarks := hd.chars c List.mem_cons_self
      rw [Piece.read.eq_def]
      split
      · rename_i heq
        exact absurd (List.cons.inj heq).1 hmarks.2.1
      · rename_i heq
        exact absurd (List.cons.inj heq).1 hmarks.2.1
      · rename_i heq
        exact absurd (List.cons.inj heq).1 hmarks.2.1
      · rename_i heq
        exact absurd (List.cons.inj heq).1 hmarks.2.1
      · rename_i heq
        exact absurd (List.cons.inj heq).1 hmarks.2.2
      · exact asPiece_eq_some.2 ⟨_, readData_eq_ok.2 ⟨rfl, hd, hu⟩, rfl⟩

theorem ReadsPiece.length {alone : Bool} {t u : Text} {piece : Piece}
    (h : ReadsPiece alone t piece u) : u.length < t.length := by
  cases h with
  | opening hname hattributes =>
      have h₁ := length_readName hname
      have h₂ := hattributes.length
      rw [List.length_cons]
      omega
  | closing hread =>
      have := length_readClosingTag hread
      simp only [List.length_cons]
      omega
  | instruction hread =>
      have := length_readInstruction hread
      simp only [List.length_cons]
      omega
  | comment hread =>
      have := length_readUpTo hread
      simp only [List.length_cons, List.length_append] at this ⊢
      omega
  | verbatim hread =>
      have := length_readUpTo hread
      simp only [List.length_cons, List.length_append] at this ⊢
      omega
  | doctype hread =>
      have := hread.length
      simp only [List.length_cons, List.length_append] at this ⊢
      omega
  | reference hread =>
      have := (readReference_eq_ok.1 hread).suffix.2
      rw [List.length_cons]
      omega
  | data hne _ _ =>
      have := List.length_pos_iff.2 hne
      rw [List.length_append]
      omega

/-! ## Whole texts -/

/-- The pieces of a text that is read to its end. -/
inductive Cuts (alone : Bool) : Text → List Piece → Prop where
  | nil : Cuts alone [] []
  | cons {t u : Text} {piece : Piece} {more : List Piece} : ReadsPiece alone t piece u →
      Cuts alone u more → Cuts alone t (piece :: more)

theorem piecesFrom_of_cuts {alone : Bool} {t : Text} {found : List Piece}
    (h : Cuts alone t found) (steps : Nat) (hsteps : t.length ≤ steps) :
    piecesFrom alone steps t = found := by
  induction h generalizing steps with
  | nil => rw [piecesFrom]
  | @cons t u piece more hpiece _ ih =>
      have hlength := hpiece.length
      obtain ⟨steps, rfl⟩ := Nat.exists_eq_succ_of_ne_zero (n := steps) (by omega)
      have hne : t ≠ [] := List.ne_nil_of_length_pos (by omega)
      rw [piecesFrom_of_read steps hne (read_of_readsPiece hpiece), ih steps (by omega)]
      rfl

theorem pieces_of_cuts {alone : Bool} {t : Text} {found : List Piece} (h : Cuts alone t found) :
    pieces alone t = found := piecesFrom_of_cuts h t.length (Nat.le_refl _)

end Iconsmith.Markup
