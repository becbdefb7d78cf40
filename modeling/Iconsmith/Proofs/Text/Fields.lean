import Iconsmith.Text.Basic
import Mathlib.Data.List.Infix
import Mathlib.Data.List.TakeWhile

set_option autoImplicit false

/-!
# Fields and joined parts

Cutting a text at a separator and joining parts with one. Where two texts meet at a separator the
fields are those of the first and then those of the second (`fields_append_cons`), the first cut is
made there if none comes before (`cutFirst_append`), the last cut if none follows
(`cutLast_append_cons`), and parts that are joined after others follow them with the gap before each
(`joined_append`). Lines are the fields of the text in which each of them is ended
(`fields_ended_append`).
-/

namespace Iconsmith.Text

/-! ## Literals at the ends -/

theorem isPrefixOf?_eq_some {l t u : Text} : l.isPrefixOf? t = some u ↔ t = l ++ u :=
  List.isPrefixOf?_eq_some_iff_append_eq.trans eq_comm

theorem isSuffixOf?_eq_some {l t u : Text} : l.isSuffixOf? t = some u ↔ t = u ++ l :=
  List.isSuffixOf?_eq_some_iff_append_eq.trans eq_comm

/-- What is passed over in a text are characters of the class. -/
theorem exists_of_dropWhile_eq {p : Char → Bool} {t u : Text} (h : t.dropWhile p = u) :
    ∃ v, (∀ c ∈ v, p c) ∧ t = v ++ u := by
  refine ⟨t.takeWhile p, fun c hc => List.mem_takeWhile_imp hc, ?_⟩
  rw [← h, List.takeWhile_append_dropWhile]

/-! ## Fields -/

/-- There is always a field. -/
theorem fields_ne_nil (sep : Char) (t : Text) : fields sep t ≠ [] := by
  cases t with
  | nil => exact List.cons_ne_nil _ _
  | cons c t =>
      rw [fields]
      split
      · exact List.cons_ne_nil _ _
      · split <;> exact List.cons_ne_nil _ _

theorem fields_append_cons (sep : Char) (t u : Text) :
    fields sep (t ++ sep :: u) = fields sep t ++ fields sep u := by
  induction t with
  | nil =>
      obtain ⟨field, more, hu⟩ := List.exists_cons_of_ne_nil (fields_ne_nil sep u)
      simp [fields, hu]
  | cons c t ih =>
      obtain ⟨field, more, ht⟩ := List.exists_cons_of_ne_nil (fields_ne_nil sep t)
      rw [ht, List.cons_append] at ih
      rw [List.cons_append, fields, fields, ih, ht]
      dsimp only
      split <;> rfl

theorem fields_of_not_mem {sep : Char} {t : Text} (h : sep ∉ t) : fields sep t = [t] := by
  induction t with
  | nil => rfl
  | cons c t ih =>
      rw [List.mem_cons, not_or] at h
      rw [fields, ih h.2]
      exact if_neg (Ne.symm h.1)

/-- The characters of a field are those of the text. -/
theorem mem_of_mem_fields {sep c : Char} {t field : Text} (hfield : field ∈ fields sep t)
    (hc : c ∈ field) : c ∈ t := by
  -- On the text: a character begins a field, or joins the first field of the rest.
  induction t generalizing field with
  | nil =>
      rw [fields, List.mem_singleton] at hfield
      exact absurd hc (hfield ▸ List.not_mem_nil)
  | cons d rest ih =>
      rw [fields] at hfield
      split at hfield
      · rw [List.mem_singleton] at hfield
        subst hfield
        exact List.mem_cons.2 (Or.inl (List.mem_singleton.1 hc))
      · rename_i first more hrest
        rw [hrest] at ih
        split at hfield
        · rcases List.mem_cons.1 hfield with rfl | hfield
          · exact absurd hc List.not_mem_nil
          · exact List.mem_cons_of_mem d (ih hfield hc)
        · rcases List.mem_cons.1 hfield with rfl | hfield
          · rcases List.mem_cons.1 hc with rfl | hc
            · exact List.mem_cons_self
            · exact List.mem_cons_of_mem d (ih List.mem_cons_self hc)
          · exact List.mem_cons_of_mem d (ih (List.mem_cons_of_mem first hfield) hc)

/-- A text is its first field and then the others, each behind the separator. -/
theorem eq_append_flatMap_of_fields {sep : Char} {t first : Text} {more : List Text}
    (h : fields sep t = first :: more) : t = first ++ more.flatMap (sep :: ·) := by
  induction t generalizing first more with
  | nil =>
      cases h
      rfl
  | cons c t ih =>
      obtain ⟨field, others, ht⟩ := List.exists_cons_of_ne_nil (fields_ne_nil sep t)
      rw [fields, ht] at h
      dsimp only at h
      rw [ih ht]
      split at h
      · rename_i hc
        cases h
        rw [hc]
        rfl
      · cases h
        rfl

/-! ## First cuts -/

/-- A cut at a character. -/
theorem cutFirst_eq_some {sep : Char} {t before after : Text} :
    cutFirst sep t = some (before, after) ↔ t = before ++ sep :: after ∧ sep ∉ before := by
  induction t generalizing before with
  | nil => simp [cutFirst]
  | cons c rest ih =>
      rw [cutFirst]
      by_cases hc : c = sep
      · rw [if_pos hc]
        constructor
        · intro h
          cases h
          exact ⟨by rw [hc]; rfl, by simp⟩
        · rintro ⟨heq, hnot⟩
          cases before with
          | nil =>
              cases heq
              rfl
          | cons d before =>
              obtain ⟨rfl, -⟩ := List.cons.inj heq
              exact absurd (hc ▸ List.mem_cons_self) hnot
      · rw [if_neg hc, Option.map_eq_some_iff]
        constructor
        · rintro ⟨⟨before', after'⟩, hcut, heq⟩
          cases heq
          obtain ⟨rfl, hnot⟩ := ih.1 hcut
          exact ⟨rfl, by simp [hnot, Ne.symm hc]⟩
        · rintro ⟨heq, hnot⟩
          cases before with
          | nil =>
              cases heq
              exact absurd rfl hc
          | cons d before =>
              obtain ⟨rfl, hrest⟩ := List.cons.inj heq
              rw [List.mem_cons, not_or] at hnot
              exact ⟨(before, after), ih.2 ⟨hrest, hnot.2⟩, rfl⟩

/-- A text is cut where the first separator stands. -/
theorem cutFirst_append {sep : Char} {t : Text} (u : Text) (h : sep ∉ t) :
    cutFirst sep (t ++ sep :: u) = some (t, u) :=
  cutFirst_eq_some.2 ⟨rfl, h⟩

theorem isSome_cutFirst_iff {sep : Char} {t : Text} : (cutFirst sep t).isSome ↔ sep ∈ t := by
  rw [Option.isSome_iff_exists]
  constructor
  · rintro ⟨⟨before, after⟩, hcut⟩
    rw [(cutFirst_eq_some.1 hcut).1]
    simp
  · intro h
    obtain ⟨before, after, rfl, hbefore⟩ := List.eq_append_cons_of_mem h
    exact ⟨(before, after), cutFirst_append after hbefore⟩

theorem cutFirst_eq_none {sep : Char} {t : Text} (h : sep ∉ t) : cutFirst sep t = none :=
  Option.not_isSome_iff_eq_none.1 (mt isSome_cutFirst_iff.1 h)

/-! ## Last cuts -/

theorem cutLast_of_not_mem {sep : Char} {t : Text} (h : sep ∉ t) : cutLast sep t = none := by
  induction t with
  | nil => rfl
  | cons c t ih =>
      rw [List.mem_cons, not_or] at h
      rw [cutLast, ih h.2]
      exact if_neg (Ne.symm h.1)

/-- A text is cut where the last separator stands. -/
theorem cutLast_append_cons {sep : Char} (t : Text) {u : Text} (h : sep ∉ u) :
    cutLast sep (t ++ sep :: u) = some (t, u) := by
  induction t with
  | nil =>
      rw [List.nil_append, cutLast, cutLast_of_not_mem h]
      exact if_pos rfl
  | cons c t ih => rw [List.cons_append, cutLast, ih]

theorem cutLast_eq_none_iff {sep : Char} {t : Text} : cutLast sep t = none ↔ sep ∉ t := by
  refine ⟨fun h => ?_, cutLast_of_not_mem⟩
  induction t with
  | nil => exact List.not_mem_nil
  | cons c t ih =>
      rw [cutLast] at h
      split at h
      · cases h
      · rename_i hnone
        split at h
        · cases h
        · rename_i hc
          exact List.not_mem_cons_of_ne_of_not_mem (Ne.symm hc) (ih hnone)

/-- A last cut is made at a separator that none follows. -/
theorem cutLast_eq_some {sep : Char} {t before after : Text} :
    cutLast sep t = some (before, after) ↔ t = before ++ sep :: after ∧ sep ∉ after := by
  constructor
  · intro h
    induction t generalizing before with
    | nil => cases h
    | cons c t ih =>
        rw [cutLast] at h
        split at h
        · rename_i hcut
          cases h
          obtain ⟨rfl, hafter⟩ := ih hcut
          exact ⟨rfl, hafter⟩
        · rename_i hnone
          split at h
          · rename_i hc
            cases h
            exact ⟨by rw [hc]; rfl, cutLast_eq_none_iff.1 hnone⟩
          · cases h
  · rintro ⟨rfl, hafter⟩
    exact cutLast_append_cons before hafter

/-! ## Joined parts -/

/-- The characters of joined parts are those of the parts and of the gap. -/
theorem mem_joined {gap : Text} {parts : List Text} {c : Char} (h : c ∈ joined gap parts) :
    c ∈ gap ∨ ∃ part ∈ parts, c ∈ part := by
  induction parts with
  | nil => exact absurd h List.not_mem_nil
  | cons part more ih =>
      cases more with
      | nil => exact Or.inr ⟨part, List.mem_cons_self, h⟩
      | cons next more =>
          rw [joined, List.mem_append, List.mem_append] at h
          rcases h with (h | h) | h
          · exact Or.inr ⟨part, List.mem_cons_self, h⟩
          · exact Or.inl h
          · rcases ih h with hgap | ⟨other, hother, hc⟩
            · exact Or.inl hgap
            · exact Or.inr ⟨other, List.mem_cons_of_mem part hother, hc⟩

theorem joined_append {gap : Text} {parts : List Text} (h : parts ≠ []) (more : List Text) :
    joined gap (parts ++ more) = joined gap parts ++ more.flatMap (gap ++ ·) := by
  fun_induction joined gap parts with
  | case1 => exact absurd rfl h
  | case2 part =>
      induction more generalizing part with
      | nil => simp [joined]
      | cons next more ih =>
          have hrest := ih next (List.cons_ne_nil _ _)
          rw [List.singleton_append] at hrest ⊢
          rw [joined, hrest, List.flatMap_cons, List.append_assoc, List.append_assoc]
  | case3 part next parts ih =>
      have hrest := ih (List.cons_ne_nil _ _)
      rw [List.cons_append] at hrest
      rw [List.cons_append, List.cons_append, joined, hrest]
      simp only [List.append_assoc]

/-- Parts without the separator are found again where they have been joined, each after the first
behind what stands in the gap after the separator. -/
theorem fields_joined_cons {sep : Char} {gap : Text} (hgap : sep ∉ gap) {first : Text}
    {more : List Text} (h : ∀ part ∈ first :: more, sep ∉ part) :
    fields sep (joined (sep :: gap) (first :: more)) = first :: more.map (gap ++ ·) := by
  induction more generalizing first with
  | nil => exact fields_of_not_mem (h first List.mem_cons_self)
  | cons next more ih =>
      obtain ⟨hfirst, hmore⟩ := List.forall_mem_cons.1 h
      obtain ⟨hnext, hothers⟩ := List.forall_mem_cons.1 hmore
      -- The gap is the beginning of the field of the next part, so the next part takes it along.
      have hbehind := @ih (gap ++ next)
        (List.forall_mem_cons.2 ⟨List.not_mem_append hgap hnext, hothers⟩)
      have hsplit : joined (sep :: gap) (first :: next :: more) =
          first ++ sep :: joined (sep :: gap) ((gap ++ next) :: more) := by
        cases more with
        | nil => simp [joined]
        | cons last more => simp [joined]
      rw [hsplit, fields_append_cons, fields_of_not_mem hfirst, hbehind]
      rfl

/-- Parts without the separator are the fields of what they are joined to. -/
theorem fields_joined {sep : Char} {parts : List Text} (hne : parts ≠ [])
    (h : ∀ part ∈ parts, sep ∉ part) : fields sep (joined [sep] parts) = parts := by
  obtain ⟨first, more, rfl⟩ := List.exists_cons_of_ne_nil hne
  have hfields := fields_joined_cons List.not_mem_nil h
  rwa [show (fun part : Text => [] ++ part) = id from rfl, List.map_id] at hfields

/-- The fields of joined parts are those of the first part, then those of the second, and so on. -/
theorem fields_joined_eq_flatMap {sep : Char} {parts : List Text} (hne : parts ≠ []) :
    fields sep (joined [sep] parts) = parts.flatMap (fields sep) := by
  fun_induction joined [sep] parts with
  | case1 => exact absurd rfl hne
  | case2 part => simp
  | case3 part next parts ih =>
      have hrest := ih (List.cons_ne_nil _ _)
      rw [List.append_assoc, List.singleton_append, fields_append_cons, hrest]
      rfl

/-- A part stands in what it is joined to. -/
theorem infix_joined {gap : Text} {parts : List Text} {part : Text} (h : part ∈ parts) :
    part <:+: joined gap parts := by
  fun_induction joined gap parts with
  | case1 => cases h
  | case2 first =>
      obtain rfl := List.mem_singleton.1 h
      exact List.infix_rfl
  | case3 first next more ih =>
      rcases List.mem_cons.1 h with rfl | h
      · exact ⟨[], gap ++ joined gap (next :: more), by simp⟩
      · exact (ih h).trans (List.suffix_append _ _).isInfix

/-! ## Lines -/

/-- A text without carriage returns has the line ends that it should have. -/
theorem withLineFeeds_of_not_mem {t : Text} (h : '\r' ∉ t) : withLineFeeds t = t := by
  fun_induction withLineFeeds t with
  | case1 => rfl
  | case2 rest => exact absurd List.mem_cons_self h
  | case3 c rest _ ih =>
      rw [List.mem_cons, not_or] at h
      rw [ih h.2, if_neg (Ne.symm h.1)]

/-- A literal is turned into its characters by a lemma, as it is slow to evaluate. -/
theorem map_toList_cons {line : Text} {strings : List String} {lines : List Text}
    (h : strings.map String.toList = lines) :
    (String.ofList line :: strings).map String.toList = line :: lines := by
  rw [List.map_cons, String.toList_ofList, h]

/-- Lines, each of which is ended by a line feed. -/
def ended (lines : List Text) : Text := lines.flatMap (· ++ ['\n'])

theorem ended_append (lines more : List Text) : ended (lines ++ more) = ended lines ++ ended more :=
  List.flatMap_append

/-- Lines that are ended are found before those of what follows. -/
theorem fields_ended_append {lines : List Text} (h : ∀ line ∈ lines, '\n' ∉ line) (t : Text) :
    fields '\n' (ended lines ++ t) = lines ++ fields '\n' t := by
  induction lines with
  | nil => rfl
  | cons line lines ih =>
      obtain ⟨hline, hlines⟩ := List.forall_mem_cons.1 h
      have hsplit : ended (line :: lines) ++ t = line ++ '\n' :: (ended lines ++ t) := by
        simp [ended]
      rw [hsplit, fields_append_cons, fields_of_not_mem hline, ih hlines]
      rfl

/-- The fields between line feeds are lines. -/
theorem ended_fields (t : Text) : ended (fields '\n' t) = t ++ ['\n'] := by
  induction t with
  | nil => rfl
  | cons c t ih =>
      obtain ⟨field, more, ht⟩ := List.exists_cons_of_ne_nil (fields_ne_nil '\n' t)
      rw [ht] at ih
      rw [fields, ht]
      dsimp only
      split
      · rename_i hc
        rw [hc, List.cons_append, ← ih]
        rfl
      · rw [List.cons_append, ← ih]
        rfl

theorem not_mem_of_mem_fields {sep : Char} {t field : Text} (h : field ∈ fields sep t) :
    sep ∉ field := by
  induction t generalizing field with
  | nil => exact List.mem_singleton.1 h ▸ List.not_mem_nil
  | cons c t ih =>
      obtain ⟨first, more, ht⟩ := List.exists_cons_of_ne_nil (fields_ne_nil sep t)
      rw [ht] at ih
      rw [fields, ht] at h
      dsimp only at h
      split at h
      · rcases List.mem_cons.1 h with rfl | h
        · exact List.not_mem_nil
        · exact ih h
      · rename_i hc
        rcases List.mem_cons.1 h with rfl | h
        · exact List.not_mem_cons_of_ne_of_not_mem (Ne.symm hc) (ih List.mem_cons_self)
        · exact ih (List.mem_cons_of_mem first h)

/-- Parts that are joined by line feeds, with a text before each after the first, are lines when
one more line feed follows. -/
theorem joined_lineFeed (gap first : Text) (more : List Text) :
    joined ('\n' :: gap) (first :: more) ++ ['\n'] = ended (first :: more.map (gap ++ ·)) := by
  induction more generalizing first with
  | nil => simp [joined, ended]
  | cons next more ih =>
      rw [joined, List.append_assoc, ih next]
      simp [ended]

end Iconsmith.Text
