import Iconsmith.Proofs.Drawing.Idempotence

set_option autoImplicit false

/-!
# What goes with a background

A background goes from the opening of its tag up to the next end of an empty tag on its line.
That is a single tag when the rectangle closes itself; when it has a closing tag of its own, the
match runs on into what follows, and elements go that are no background. `found_background`
says for every text what the matches are and which of them are single tags, and for a drawing
that is written out that all of them are exactly if nothing is in its background rectangles.

A match in written marks begins at a mark (`exists_mark_of_suffix`). At the mark of an empty
rectangle it is that mark. At the mark of a rectangle with something in it, it would have to end
at the first closing bracket, which no slash precedes (`not_isTag_of_background`).
-/

namespace Iconsmith.Drawing

open Markup

open Text (Segment segments)

/-! ## Matches as tags -/

/-- A text that is a single tag of a rectangle: no bracket is in it but the first character and
the last. -/
def IsTag (s : Text) : Prop :=
  ∃ body, s = "<rect ".toList ++ (body ++ ['>']) ∧ '<' ∉ body ∧ '>' ∉ body

theorem backgroundHead_append_body (w l body after : Text) :
    backgroundHead w l ++ (body ++ '/' :: '>' :: after) =
      (backgroundHead w l ++ (body ++ ['/', '>'])) ++ after := by
  rw [List.append_assoc, List.append_assoc]
  rfl

/-- What is matched at the head of a text: the head of the tag of a background, and what follows
on the line up to the first end of an empty tag. -/
theorem backgroundSpan_eq_some {u : Text} {n : Nat} :
    backgroundSpan u = some n ↔ ∃ w l body after, IsLengthEnd w ∧ IsLengthEnd l ∧
      u = (backgroundHead w l ++ (body ++ ['/', '>'])) ++ after ∧
      n = (backgroundHead w l ++ (body ++ ['/', '>'])).length ∧
      '\n' ∉ body ∧ ¬"/>".toList <:+: body ++ ['/'] := by
  have hlength : ∀ whole after : Text, (whole ++ after).length - after.length = whole.length := by
    intro whole after
    rw [List.length_append, Nat.add_sub_cancel]
  rw [backgroundSpan, Option.map_eq_some_iff]
  constructor
  · rintro ⟨after, hafter, rfl⟩
    obtain ⟨w, l, t, hw, hl, hu, hend⟩ := afterBackground?_eq_some_iff.1 hafter
    obtain ⟨body, rfl, hline, hno⟩ := afterEmptyTag?_eq_some.1 hend
    rw [backgroundHead_append_body] at hu
    refine ⟨w, l, body, after, hw, hl, hu, ?_, hline, hno⟩
    rw [hu, hlength]
  · rintro ⟨w, l, body, after, hw, hl, hu, hn, hline, hno⟩
    have hend : afterEmptyTag? (body ++ '/' :: '>' :: after) = some after :=
      afterEmptyTag?_eq_some.2 ⟨body, rfl, hline, hno⟩
    rw [← backgroundHead_append_body] at hu
    refine ⟨after, afterBackground?_eq_some_iff.2 ⟨w, l, _, hw, hl, hu, hend⟩, ?_⟩
    rw [hu, backgroundHead_append_body, hlength, hn]

/-- No bracket is in the head of the tag of a background but the first character. -/
theorem backgroundHead_eq {w l : Text} (hw : IsLengthEnd w) (hl : IsLengthEnd l) :
    ∃ body, backgroundHead w l = "<rect ".toList ++ body ∧ '<' ∉ body ∧ '>' ∉ body := by
  have hlength : ∀ {v : Text}, IsLengthEnd v → '<' ∉ v ∧ '>' ∉ v := fun hv =>
    ⟨fun hmem => not_mem_of_isLengthChar (hv.2 _ hmem) (by simp),
      fun hmem => not_mem_of_isLengthChar (hv.2 _ hmem) (by simp)⟩
  refine ⟨"width=\"25".toList ++ (w ++ '"' :: (" height=\"25".toList ++
    (l ++ '"' :: " fill=\"none\"".toList))), rfl, ?_, ?_⟩
  · simp [hlength hw, hlength hl]
  · simp [hlength hw, hlength hl]

/-- A match is a single tag when no bracket is between the head of the tag and its end. -/
theorem isTag_iff {w l body : Text} (hw : IsLengthEnd w) (hl : IsLengthEnd l) :
    IsTag (backgroundHead w l ++ (body ++ ['/', '>'])) ↔ '<' ∉ body ∧ '>' ∉ body := by
  obtain ⟨head, hhead, hopen, hclose⟩ := backgroundHead_eq hw hl
  have hsplit : backgroundHead w l ++ (body ++ ['/', '>']) =
      "<rect ".toList ++ ((head ++ (body ++ ['/'])) ++ ['>']) := by
    rw [hhead, List.append_assoc, List.append_assoc head, List.append_assoc body]
    rfl
  rw [hsplit, IsTag]
  constructor
  · rintro ⟨inside, hinside, hno⟩
    obtain rfl := List.append_cancel_right (List.append_cancel_left hinside)
    simp only [List.mem_append, not_or] at hno
    exact ⟨hno.1.2.1, hno.2.2.1⟩
  · rintro ⟨hbodyOpen, hbodyClose⟩
    refine ⟨_, rfl, ?_, ?_⟩
    · simp [hopen, hbodyOpen]
    · simp [hclose, hbodyClose]

/-- No other tag begins inside of a tag. -/
theorem IsTag.not_mem_of_append {x y : Text} (h : IsTag (x ++ y)) (hx : x ≠ []) : '<' ∉ y := by
  obtain ⟨body, hbody, hopen, -⟩ := h
  obtain ⟨c, x, rfl⟩ := List.exists_cons_of_ne_nil hx
  have htail : x ++ y = "rect ".toList ++ (body ++ ['>']) := (List.cons.inj hbody).2
  intro hmem
  have hmore : '<' ∈ x ++ y := List.mem_append_right x hmem
  rw [htail] at hmore
  simp [hopen] at hmore

/-- All that is found in a text are single tags exactly if all that could be found in it are. -/
theorem forall_found_iff (t : Text) :
    (∀ s, .found s ∈ segments backgroundSpan 0 t → IsTag s) ↔
      ∀ u n, u <:+ t → backgroundSpan u = some n → IsTag (u.take n) := by
  constructor
  · intro h u n hu hspan
    obtain ⟨w, l, body, after, -, -, hsplit, hn, -⟩ := backgroundSpan_eq_some.1 hspan
    obtain ⟨rest, hrest⟩ : ∃ rest, u = '<' :: rest := ⟨_, hsplit⟩
    obtain ⟨m, rfl⟩ : ∃ m, n = m + 1 := ⟨_, hn⟩
    rw [← List.drop_zero (l := t)] at hu
    rcases Text.found_or_inside hu (hrest ▸ List.cons_ne_nil _ _) hspan with
      hfound | ⟨x, y, hfound, hx, hy, hyu⟩
    · exact h _ hfound
    · -- Inside of a tag no other begins.
      obtain ⟨c, y, rfl⟩ := List.exists_cons_of_ne_nil hy
      rw [hrest] at hyu
      refine absurd ?_ ((h _ hfound).not_mem_of_append hx)
      rw [(List.cons_prefix_cons.1 hyu).1]
      exact List.mem_cons_self
  · intro h s hs
    obtain ⟨u, n, hu, hspan, rfl⟩ := Text.exists_span_of_found hs
    -- What is found is a match at some suffix.
    exact h u n hu hspan

/-- The rest of a tag that closes itself: the end of an empty tag comes before any bracket. -/
def ClosesItself (rest : Text) : Prop :=
  ∃ body after, rest = body ++ '/' :: '>' :: after ∧ '<' ∉ body ∧ '>' ∉ body

/-- Where a tag closes itself is where it first could. -/
theorem closesItself_iff {body : Text} (after : Text) (hno : ¬"/>".toList <:+: body ++ ['/']) :
    ClosesItself (body ++ '/' :: '>' :: after) ↔ '<' ∉ body ∧ '>' ∉ body := by
  constructor
  · rintro ⟨own, rest, hsplit, hopen, hclose⟩
    rcases List.append_eq_append_iff.1 hsplit with ⟨more, rfl, -⟩ | ⟨more, rfl, hmore⟩
    · simp only [List.mem_append, not_or] at hopen hclose
      exact ⟨hopen.1, hclose.1⟩
    · -- The tag closes itself no later than where it could first, so nothing is left over.
      match more, hmore with
      | [], _ => simpa using ⟨hopen, hclose⟩
      | ['/'], hmore => exact absurd (List.cons.inj (List.cons.inj hmore).2).1 (by decide)
      | _ :: _ :: more, hmore =>
          simp only [List.cons_append, List.cons.injEq] at hmore
          obtain ⟨rfl, rfl, -⟩ := hmore
          exact absurd ⟨own, more ++ ['/'], by simp⟩ hno
  · rintro ⟨hopen, hclose⟩
    exact ⟨body, after, rfl, hopen, hclose⟩

/-- All that is found in a text are single tags exactly if every background in it closes itself,
where an end of an empty tag comes on the line. -/
theorem forall_found_iff_closesItself (t : Text) :
    (∀ s, .found s ∈ segments backgroundSpan 0 t → IsTag s) ↔
      ∀ w l rest, IsLengthEnd w → IsLengthEnd l → backgroundHead w l ++ rest <:+ t →
        "/>".toList <:+: firstLine rest → ClosesItself rest := by
  rw [forall_found_iff]
  constructor
  · intro h w l rest hw hl hrest hend
    obtain ⟨after, hafter⟩ := Option.isSome_iff_exists.1 ((isSome_afterEmptyTag?_iff rest).2 hend)
    obtain ⟨body, rfl, hline, hno⟩ := afterEmptyTag?_eq_some.1 hafter
    rw [backgroundHead_append_body] at hrest
    have htag := h _ _ hrest (backgroundSpan_eq_some.2
      ⟨w, l, body, after, hw, hl, rfl, rfl, hline, hno⟩)
    rw [List.take_left, isTag_iff hw hl] at htag
    exact (closesItself_iff after hno).2 htag
  · intro h u n hu hspan
    obtain ⟨w, l, body, after, hw, hl, rfl, rfl, hline, hno⟩ := backgroundSpan_eq_some.1 hspan
    have hend : (afterEmptyTag? (body ++ '/' :: '>' :: after)).isSome :=
      Option.isSome_of_eq_some (afterEmptyTag?_eq_some.2 ⟨body, rfl, hline, hno⟩)
    rw [List.take_left, isTag_iff hw hl, ← closesItself_iff after hno]
    rw [← backgroundHead_append_body] at hu
    exact h w l _ hw hl hu ((isSome_afterEmptyTag?_iff _).1 hend)

/-! ## Matches in written marks -/

/-- What begins with an opening bracket in written marks begins at a mark. -/
theorem exists_mark_of_suffix {marks : List Mark} (hmarks : ∀ mark ∈ marks, mark.IsWritable)
    {u : Text} (hu : '<' :: u <:+ marksText marks) :
    ∃ mark after, mark ∈ marks ∧ '<' :: u = mark.text ++ marksText after := by
  induction marks with
  | nil => exact absurd (List.suffix_nil.1 hu) (List.cons_ne_nil _ _)
  | cons mark marks ih =>
      obtain ⟨c, body, htext, -, hbody, -⟩ := exists_text_eq (hmarks mark List.mem_cons_self)
      have hsplit : marksText (mark :: marks) = '<' :: ((c :: body) ++ marksText marks) := by
        rw [← List.cons_append, ← htext]
        rfl
      rw [hsplit] at hu
      rcases List.suffix_cons_iff.1 hu with heq | hu
      · exact ⟨mark, marks, List.mem_cons_self, heq.trans hsplit.symm⟩
      · obtain ⟨other, after, hother, heq⟩ :=
          ih (fun other hother => hmarks other (List.mem_cons_of_mem mark hother))
            (suffix_of_suffix_append hbody hu)
        exact ⟨other, after, List.mem_cons_of_mem mark hother, heq⟩

/-- The mark of an empty background is a tag. -/
theorem isTag_text {name : Text} {rows : List (Text × Text)}
    (hmark : (Mark.opening name rows true).IsWritable) (hbackground : isBackground name rows) :
    IsTag (Mark.opening name rows true).text := by
  have hlocal : ∀ row ∈ rows, isLocal row.1 := fun row hrow => (hmark.2.2 row hrow).1
  have hno : ∀ c ∈ writtenRows rows, c ≠ '<' ∧ c ≠ '>' := fun c hc =>
    ⟨(not_mem_writtenRows hlocal hc).1, (not_mem_writtenRows hlocal hc).2.1⟩
  unfold isBackground at hbackground
  split at hbackground
  · rename_i width height fill more
    simp only [Bool.and_eq_true, decide_eq_true_eq] at hbackground
    obtain rfl := hbackground.1.1.1
    obtain ⟨inside, hinside⟩ : ∃ inside, writtenRows (width :: height :: fill :: more) =
        ' ' :: inside := ⟨_, rfl⟩
    rw [hinside] at hno
    refine ⟨inside ++ ['/'], ?_, ?_, ?_⟩
    · rw [Mark.text, hinside]
      simp [Mark.ending]
    · simpa using fun hmem => (hno _ (List.mem_cons_of_mem _ hmem)).1 rfl
    · simpa using fun hmem => (hno _ (List.mem_cons_of_mem _ hmem)).2 rfl
  · cases hbackground

/-- In marks whose backgrounds are all empty, every match is the mark of a background. -/
theorem isTag_of_isHollow {marks : List Mark} (hmarks : ∀ mark ∈ marks, mark.IsWritable)
    (hhollow : ∀ mark ∈ marks, IsHollow mark) {u : Text} {n : Nat} (hu : u <:+ marksText marks)
    (hspan : backgroundSpan u = some n) : IsTag (u.take n) := by
  cases u with
  | nil => cases hspan
  | cons c u =>
      obtain rfl : c = '<' := by
        by_contra hc
        rw [backgroundSpan_of_ne u hc] at hspan
        cases hspan
      obtain ⟨mark, after, hmem, heq⟩ := exists_mark_of_suffix hmarks hu
      rw [heq, backgroundSpan_text (hmarks mark hmem) (hhollow mark hmem)] at hspan
      split at hspan
      · rename_i hbackground
        cases hspan
        rw [heq, List.take_left]
        cases mark with
        | closing name => cases hbackground
        | opening name rows isEmpty =>
            obtain rfl : isEmpty = true := hhollow _ hmem hbackground
            exact isTag_text (hmarks _ hmem) hbackground
      · cases hspan

/-- Written attributes end with a quote. -/
theorem getLast?_writtenRows {rows : List (Text × Text)} (h : rows ≠ []) :
    (writtenRows rows).getLast? = some '"' := by
  have hsplit : writtenRows rows = writtenRows rows.dropLast ++ writtenRow (rows.getLast h) := by
    have hlast := congrArg writtenRows (List.dropLast_append_getLast h)
    rw [← hlast, writtenRows, List.flatMap_append, List.flatMap_singleton]
    rfl
  rw [hsplit, writtenRow, ← List.append_assoc, List.getLast?_concat]

/-- A match at the mark of a background that does not close itself is more than a tag: no slash
stands before the first closing bracket. -/
theorem not_isTag_of_opening {name : Text} {rows : List (Text × Text)} {after : Text} {n : Nat}
    (hmark : (Mark.opening name rows false).IsWritable) (hbackground : isBackground name rows)
    (hspan : backgroundSpan ((Mark.opening name rows false).text ++ after) = some n) :
    ¬IsTag (((Mark.opening name rows false).text ++ after).take n) := by
  obtain ⟨w, l, body, rest, hw, hl, hsplit, hn, -⟩ := backgroundSpan_eq_some.1 hspan
  obtain ⟨head, hhead, -, hheadClose⟩ := backgroundHead_eq hw hl
  rw [hsplit, hn, List.take_left, isTag_iff hw hl]
  rintro ⟨-, hbodyClose⟩
  have hrows : rows ≠ [] := by
    rintro rfl
    cases hbackground
  have hmarkClose : '>' ∉ '<' :: (name ++ writtenRows rows) := by
    have hname : '>' ∉ name := not_mem_of_isLocal hmark.1 (by decide)
    have hwritten : '>' ∉ writtenRows rows := fun hmem =>
      (not_mem_writtenRows (fun row hrow => (hmark.2.2 row hrow).1) hmem).2.1 rfl
    simp [hname, hwritten]
  have hmatchClose : '>' ∉ backgroundHead w l ++ (body ++ ['/']) := by
    rw [hhead]
    simp [hheadClose, hbodyClose]
  have hmarkText : (Mark.opening name rows false).text ++ after =
      '<' :: (name ++ writtenRows rows) ++ '>' :: after := by
    simp [Mark.text, Mark.ending]
  have hmatchText : (backgroundHead w l ++ (body ++ ['/', '>'])) ++ rest =
      (backgroundHead w l ++ (body ++ ['/'])) ++ '>' :: rest := by
    simp
  rw [hmarkText, hmatchText] at hsplit
  -- Before the first closing bracket stands a quote on the one side and a slash on the other.
  have hcut := congrArg (Text.cutFirst '>') hsplit
  rw [Text.cutFirst_append _ hmarkClose, Text.cutFirst_append _ hmatchClose] at hcut
  have hlast := congrArg List.getLast? (Prod.mk.inj (Option.some.inj hcut)).1
  rw [← List.append_assoc, List.getLast?_concat, ← List.cons_append, List.getLast?_append,
    getLast?_writtenRows hrows] at hlast
  cases hlast

/-- Where the mark of a background that does not close itself is followed by an empty element,
there is a match. -/
theorem isSome_backgroundSpan_text {name : Text} {rows : List (Text × Text)} {after : List Mark}
    (hmarks : ∀ mark ∈ .opening name rows false :: after, mark.IsWritable)
    (hbackground : isBackground name rows) {leaf : Text} {more : List (Text × Text)}
    (hleaf : .opening leaf more true ∈ after) :
    (backgroundSpan ((Mark.opening name rows false).text ++ marksText after)).isSome := by
  have hmark := hmarks _ List.mem_cons_self
  have hrows : ∀ row ∈ rows.drop 3, isLocal row.1 := fun row hrow =>
    (hmark.2.2 row (List.mem_of_mem_drop hrow)).1
  -- No line ends in what is written, so a match may go on to the end of the leaf.
  have hline : '\n' ∉ writtenRows (rows.drop 3) ++ (Mark.ending false ++ marksText after) := by
    have hrest := newline_not_mem_marksText fun other hother =>
      hmarks other (List.mem_cons_of_mem _ hother)
    have hwritten : '\n' ∉ writtenRows (rows.drop 3) := fun hmem =>
      (not_mem_writtenRows hrows hmem).2.2 rfl
    simp [hwritten, hrest, Mark.ending]
  have hfirst : firstLine (writtenRows (rows.drop 3) ++ (Mark.ending false ++ marksText after)) =
      writtenRows (rows.drop 3) ++ (Mark.ending false ++ marksText after) :=
    List.takeWhile_eq_self_iff.2 fun c hc => decide_eq_true fun heq => hline (heq ▸ hc)
  have hend : "/>".toList <:+: marksText after := by
    have hwhole : (Mark.opening leaf more true).text <:+: (after.map Mark.text).flatten :=
      List.infix_of_mem_flatten (List.mem_map_of_mem hleaf)
    exact (List.suffix_append _ _).isInfix.trans hwhole
  rw [backgroundSpan, Option.isSome_map, afterBackground?_text hmark, if_pos hbackground,
    isSome_afterEmptyTag?_iff, hfirst]
  exact hend.trans ((List.suffix_append _ _).trans (List.suffix_append _ _)).isInfix

/-! ## Elements in a drawing -/

/-- Among the tags of an element is one of an element with nothing in it: its own, or that of one
in it. -/
theorem exists_empty_mark : ∀ (e : Element), ∃ name rows, .opening name rows true ∈ marks e
  | ⟨name, attributes, []⟩ => by
      rw [marks]
      exact ⟨name, attributes.rows, List.mem_cons_self⟩
  | ⟨name, attributes, child :: more⟩ => by
      obtain ⟨leaf, rows, hleaf⟩ := exists_empty_mark child
      rw [marks, forestMarks]
      exact ⟨leaf, rows, List.mem_cons_of_mem _
        (List.mem_append_left _ (List.mem_append_left _ hleaf))⟩

mutual

/-- The tags of an element in another stand together among the tags of that. -/
theorem infix_of_mem_elements : ∀ (e : Element), ∀ x ∈ elements e, marks x <:+: marks e
  | ⟨name, attributes, []⟩, x, hx => by
      rw [elements, forestElements, List.mem_singleton] at hx
      rw [hx]
  | ⟨name, attributes, child :: more⟩, x, hx => by
      rw [elements] at hx
      rcases List.mem_cons.1 hx with rfl | hx
      · exact List.infix_refl _
      · have hinside := infix_of_mem_forestElements (child :: more) x hx
        rw [marks]
        exact hinside.trans ((List.prefix_append _ _).isInfix.trans (List.suffix_cons _ _).isInfix)

theorem infix_of_mem_forestElements : ∀ (es : List Element), ∀ x ∈ forestElements es,
    marks x <:+: forestMarks es
  | [], x, hx => by
      rw [forestElements] at hx
      cases hx
  | e :: rest, x, hx => by
      rw [forestElements, List.mem_append] at hx
      rw [forestMarks]
      rcases hx with hx | hx
      · exact (infix_of_mem_elements e x hx).trans (List.prefix_append _ _).isInfix
      · exact (infix_of_mem_forestElements rest x hx).trans (List.suffix_append _ _).isInfix

end

/-- All that is found in a written drawing are single tags exactly if nothing is in its background
rectangles. -/
theorem forall_found_written_iff {root : Element} (hmarks : ∀ mark ∈ marks root, mark.IsWritable) :
    (∀ s, .found s ∈ segments backgroundSpan 0 (written root) → IsTag s) ↔
      ∀ e ∈ elements root, isBackground e.name e.attributes.rows → e.children = [] := by
  rw [forall_found_iff]
  constructor
  · intro h e he hbackground
    obtain ⟨before, after, hsplit⟩ := infix_of_mem_elements root e he
    obtain ⟨name, attributes, children⟩ := e
    cases children with
    | nil => rfl
    | cons child more =>
        rw [marks, List.append_assoc, List.cons_append] at hsplit
        -- A background with a child has a leaf inside, whose end would be taken for its own.
        obtain ⟨leaf, rows, hleaf⟩ := exists_empty_mark child
        have hinside : .opening leaf rows true ∈ forestMarks (child :: more) := by
          rw [forestMarks]
          exact List.mem_append_left _ hleaf
        have hlater := fun mark hmark => hmarks mark (hsplit ▸ List.mem_append_right before hmark)
        have hwritten : written root = marksText before ++
            ((Mark.opening name attributes.rows false).text ++
              marksText (forestMarks (child :: more) ++ [.closing name] ++ after)) := by
          rw [written, ← hsplit]
          exact List.flatMap_append
        obtain ⟨n, hspan⟩ := Option.isSome_iff_exists.1 (isSome_backgroundSpan_text hlater
          hbackground (List.mem_append_left after (List.mem_append_left _ hinside)))
        exact absurd (h _ n ⟨_, hwritten.symm⟩ hspan)
          (not_isTag_of_opening (hlater _ List.mem_cons_self) hbackground hspan)
  · intro h u n hu hspan
    have hhollow : ∀ mark ∈ marks root, IsHollow mark :=
      forall_mem_marks root fun e he =>
        ⟨fun hbackground => List.isEmpty_iff.2 (h e he hbackground), trivial⟩
    exact isTag_of_isHollow hmarks hhollow hu hspan

/-! ## What goes with a background -/

/-- What goes from a text is its matches, each the head of the tag of a background with what
follows up to the first end of an empty tag on the line. All of them are single tags exactly if
every background closes itself, where an end of an empty tag comes on its line. In a drawing that
is written out this is so exactly if nothing is in its background rectangles. -/
theorem found_background (t : Text) :
    ((segments backgroundSpan 0 t).flatMap Segment.text = t ∧
      (segments backgroundSpan 0 t).flatMap (Segment.filled []) = withoutBackground t) ∧
    (∀ s, .found s ∈ segments backgroundSpan 0 t →
      ∃ w l body, IsLengthEnd w ∧ IsLengthEnd l ∧
        s = backgroundHead w l ++ (body ++ ['/', '>']) ∧
        '\n' ∉ body ∧ ¬"/>".toList <:+: body ++ ['/']) ∧
    ((∀ s, .found s ∈ segments backgroundSpan 0 t → IsTag s) ↔
      ∀ w l rest, IsLengthEnd w → IsLengthEnd l → backgroundHead w l ++ rest <:+ t →
        "/>".toList <:+: firstLine rest → ClosesItself rest) ∧
    ∀ root, (∀ mark ∈ marks root, mark.IsWritable) → t = written root →
      ((∀ s, .found s ∈ segments backgroundSpan 0 t → IsTag s) ↔
        ∀ e ∈ elements root, isBackground e.name e.attributes.rows → e.children = []) := by
  refine ⟨⟨Text.flatMap_text_segments 0 t, (Text.replaceSpans_eq_flatMap [] 0 t).symm⟩, ?_,
    forall_found_iff_closesItself t, ?_⟩
  · intro s hs
    obtain ⟨u, n, -, hspan, rfl⟩ := Text.exists_span_of_found hs
    obtain ⟨w, l, body, after, hw, hl, rfl, rfl, hline, hno⟩ := backgroundSpan_eq_some.1 hspan
    exact ⟨w, l, body, hw, hl, List.take_left, hline, hno⟩
  · rintro root hmarks rfl
    exact forall_found_written_iff hmarks

theorem found_background_framed : (∀ mark ∈ marks framed, mark.IsWritable) ∧
    ∀ s, .found s ∈ segments backgroundSpan 0 (written framed) → IsTag s := by
  have hwritable : ∀ mark ∈ marks framed, mark.IsWritable := fun mark hmark =>
    (isPlainMark_of_mem_marks framed (by decide) mark hmark).1
  exact ⟨hwritable, ((found_background (written framed)).2.2.2 framed hwritable rfl).2 (by decide)⟩

/-- A drawing with a background that has a closing tag of its own, and with a path. -/
def unclosed : Text :=
  "<svg><rect width=\"256\" height=\"256\" fill=\"none\"></rect><path d=\"M0 0\"/></svg>".toList

/-- What follows the first bracket of the match in that drawing, up to the end of the path. -/
def unclosedMatch : Text :=
  "rect width=\"256\" height=\"256\" fill=\"none\"></rect><path d=\"M0 0\"/>".toList

/-- The path goes with the background. -/
theorem not_forall_isTag : (¬∀ t s, .found s ∈ segments backgroundSpan 0 t → IsTag s) ∧
    (read unclosed).toOption.map (fun root => root.children.map Element.name) =
      some ["rect".toList, "path".toList] ∧
    withoutBackground unclosed = "<svg></svg>".toList := by
  refine ⟨fun h => ?_, by decide, by decide⟩
  have hfound : .found ('<' :: unclosedMatch) ∈ segments backgroundSpan 0 unclosed := by decide
  have htag : IsTag (['<'] ++ unclosedMatch) := h unclosed _ hfound
  exact htag.not_mem_of_append (List.cons_ne_nil _ _) (by decide)

end Iconsmith.Drawing
