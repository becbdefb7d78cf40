import Iconsmith.Proofs.Markup.Cuts

set_option autoImplicit false

/-!
# What follows a reading

What follows a piece of a text is an end of that text (`ReadsPiece.suffix`), because every
reader leaves an end of what it reads.
-/

namespace Iconsmith.Markup

variable {t u : Text}

theorem suffix_cons_of_suffix (c : Char) (h : u <:+ t) : u <:+ c :: t :=
  h.trans (List.suffix_cons c t)

theorem suffix_after? {literal : String} (h : after? literal t = some u) : u <:+ t :=
  ⟨literal.toList, after?_eq_some.1 h⟩

theorem suffix_skipGap (t : Text) : skipGap t <:+ t := List.dropWhile_suffix isGap

theorem suffix_gap? (h : gap? t = some u) : u <:+ t := by
  obtain ⟨c, rest, rfl, -, rfl⟩ := gap?_eq_some.1 h
  exact suffix_cons_of_suffix c (suffix_skipGap rest)

theorem suffix_readName {raw : Text} (h : readName t = .ok (raw, u)) : u <:+ t := by
  obtain ⟨-, -, rfl, -⟩ := readName_eq_ok.1 h
  exact List.dropWhile_suffix isNameChar

theorem suffix_equals? (h : equals? t = some u) : u <:+ t := by
  obtain ⟨rest, hrest, rfl⟩ := equals?_eq_some.1 h
  have hsuffix := suffix_skipGap t
  rw [hrest] at hsuffix
  exact (suffix_skipGap rest).trans ((List.suffix_cons '=' rest).trans hsuffix)

theorem ReadsParts.suffix {close : Char} {v : List Part} (h : ReadsParts close t v u) :
    u <:+ t := by
  induction h with
  | close => exact List.suffix_cons _ _
  | reference _ href _ ih => exact suffix_cons_of_suffix _ (ih.trans href.suffix.1)
  | lineEnd _ _ _ ih => exact suffix_cons_of_suffix _ ih
  | char _ _ _ _ _ _ ih => exact suffix_cons_of_suffix _ ih

theorem suffix_readAttribute {w : Written} (h : readAttribute t = .ok (w, u)) : u <:+ t := by
  obtain ⟨afterName, afterEquals, hname, hequals, hvalue, -⟩ := readAttribute_eq_ok.1 h
  obtain ⟨close, rest, -, rfl, hparts⟩ := readValue_eq_ok.1 hvalue
  exact (suffix_cons_of_suffix close hparts.suffix).trans
    ((suffix_equals? hequals).trans (suffix_readName hname))

/-- Behind the attributes of a tag stands its last character. -/
theorem ReadsAttributes.suffix {ws : List Written} {ending : Ending}
    (h : ReadsAttributes t ws ending u) : '>' :: u <:+ t := by
  induction h with
  | @ending t u ending hend =>
      have hsuffix := suffix_skipGap t
      rcases tagEnd?_eq_some.1 hend with ⟨-, heq⟩ | ⟨-, heq⟩
      · rwa [heq] at hsuffix
      · rw [heq] at hsuffix
        exact (List.suffix_cons '/' _).trans hsuffix
  | cons _ hgap hattribute _ ih =>
      exact ih.trans ((suffix_readAttribute hattribute).trans (suffix_gap? hgap))

/-- Behind a name a tag that closes itself goes on with white space or a slash. -/
theorem ReadsAttributes.head_of_closed {c : Char} {ws : List Written}
    (h : ReadsAttributes (c :: t) ws .closed u) : isGap c = true ∨ c = '/' := by
  by_cases hgap : isGap c = true
  · exact Or.inl hgap
  · have hskip : skipGap (c :: t) = c :: t := List.dropWhile_cons_of_neg hgap
    cases h with
    | ending hend =>
        rw [hskip] at hend
        rcases tagEnd?_eq_some.1 hend with ⟨hopened, -⟩ | ⟨-, heq⟩
        · cases hopened
        · exact Or.inr (List.cons.inj heq).1
    | cons _ hfirst _ _ =>
        obtain ⟨d, rest, heq, hd, -⟩ := gap?_eq_some.1 hfirst
        obtain rfl := (List.cons.inj heq).1
        exact absurd hd hgap

theorem suffix_readUpTo {close : String} (h : readUpTo close t = .ok ((), u)) : u <:+ t := by
  induction t with
  | nil => cases h
  | cons c rest ih =>
      rw [readUpTo] at h
      split at h
      · rename_i after hafter
        cases h
        exact suffix_after? hafter
      · split at h
        · exact suffix_cons_of_suffix c (ih h)
        · cases h

theorem suffix_readInstruction {target : Text} (h : readInstruction t = .ok (target, u)) :
    u <:+ t := by
  obtain ⟨afterName, hname, -, hend⟩ := readInstruction_eq_ok.1 h
  refine List.IsSuffix.trans ?_ (suffix_readName hname)
  rcases hend with hend | ⟨-, body, hgap, hbody⟩
  · exact suffix_after? hend
  · exact (suffix_readUpTo hbody).trans (suffix_gap? hgap)

theorem suffix_readClosingTag {raw : Text} (h : readClosingTag t = .ok (raw, u)) : u <:+ t := by
  obtain ⟨afterName, hname, hclose⟩ := readClosingTag_eq_ok.1 h
  have hsuffix := suffix_skipGap afterName
  rw [hclose] at hsuffix
  exact (List.suffix_cons '>' u).trans (hsuffix.trans (suffix_readName hname))

theorem Quoted.suffix {isOwn : Char → Bool} (h : Quoted isOwn t u) : u <:+ t := by
  obtain ⟨close, v, -, rfl, -⟩ := h
  exact suffix_cons_of_suffix close ((List.suffix_cons close u).trans (List.suffix_append v _))

theorem ReadsOutside.suffix (h : ReadsOutside t u) : u <:+ t := by
  cases h with
  | system hsystem hgap hliteral =>
      exact hliteral.suffix.trans ((suffix_gap? hgap).trans (suffix_after? hsystem))
  | published hpublic hfirst hpublicLiteral hsecond hliteral =>
      exact hliteral.suffix.trans ((suffix_gap? hsecond).trans
        (hpublicLiteral.suffix.trans ((suffix_gap? hfirst).trans (suffix_after? hpublic))))

theorem ReadsHead.suffix {isOutside : Bool} (h : ReadsHead t isOutside u) : u <:+ t := by
  cases h with
  | inside hgap hname _ _ =>
      exact (suffix_skipGap _).trans ((suffix_readName hname).trans (suffix_gap? hgap))
  | outside hgap hname houtside =>
      exact (suffix_skipGap _).trans (houtside.suffix.trans
        ((suffix_skipGap _).trans ((suffix_readName hname).trans (suffix_gap? hgap))))

theorem ReadsPiece.suffix {alone : Bool} {piece : Piece} (h : ReadsPiece alone t piece u) :
    u <:+ t := by
  have hmarks : ∀ {marks rest : Text}, u <:+ rest → u <:+ '<' :: '!' :: (marks ++ rest) :=
    fun hrest => suffix_cons_of_suffix '<' (suffix_cons_of_suffix '!'
      (hrest.trans (List.suffix_append _ _)))
  cases h with
  | opening hname hattributes =>
      exact suffix_cons_of_suffix '<' ((List.suffix_cons '>' u).trans
        (hattributes.suffix.trans (suffix_readName hname)))
  | closing hread =>
      exact suffix_cons_of_suffix '<' (suffix_cons_of_suffix '/' (suffix_readClosingTag hread))
  | instruction hread =>
      exact suffix_cons_of_suffix '<' (suffix_cons_of_suffix '?' (suffix_readInstruction hread))
  | comment hread => exact hmarks ((List.suffix_cons '>' u).trans (suffix_readUpTo hread))
  | verbatim hread => exact hmarks (suffix_readUpTo hread)
  | doctype hhead => exact hmarks ((List.suffix_cons '>' u).trans hhead.suffix)
  | reference hread =>
      exact suffix_cons_of_suffix '&' (readReference_eq_ok.1 hread).suffix.1
  | data _ _ _ => exact List.suffix_append _ _

end Iconsmith.Markup
