import Iconsmith.Elm.Module
import Iconsmith.Proofs.Elm.Reader
import Iconsmith.Proofs.Text.Fields

set_option autoImplicit false

/-!
# Reading modules back

The module of some icons is read back line by line: first its head, with its name and what it
exports, then one block after another, each headed by the comment that shows an icon. The line
after the type tells the function of an icon, with its branches, from an alias. `module?` is a
reader that reads just the texts that are written so (`module?_eq_some`).
-/

namespace Iconsmith.Elm

open Markup

/-! ## Comments -/

/-- Reads the comment that shows an icon: its name up to the bracket, and its slug on the rest of
the line. -/
def comment? (previews t : Text) : Option ((Text × Text) × Text) := do
  let t ← "\x7b-| ![".toList.isPrefixOf? t
  let (name, t) ← Text.cutFirst ']' t
  let t ← ('(' :: previews ++ ['/']).isPrefixOf? t
  let (line, t) ← Text.cutFirst '\n' t
  let slug ← ".svg)".toList.isSuffixOf? line
  let t ← "-\x7d\n".toList.isPrefixOf? t
  return ((name, slug), t)

theorem previewComment_append (previews name slug u : Text) :
    previewComment previews name slug ++ u =
      "\x7b-| ![".toList ++ (name ++ ']' :: ('(' :: previews ++ ['/'] ++
        ((slug ++ ".svg)".toList) ++ '\n' :: ("-\x7d\n".toList ++ u)))) := by
  show "\x7b-| ![".toList ++ name ++ "](".toList ++ previews ++ '/' :: slug ++
    ".svg)\n-\x7d\n".toList ++ u = _
  simp

theorem isReader_comment? (previews : Text) :
    IsReader (comment? previews) (fun p => ']' ∉ p.1 ∧ '\n' ∉ p.2)
      fun p => previewComment previews p.1 p.2 := by
  rintro t ⟨name, slug⟩ u
  beta_reduce
  rw [previewComment_append, comment?]
  constructor
  · intro h
    obtain ⟨t₁, h₁, h⟩ := Option.bind_eq_some_iff.1 h
    obtain ⟨⟨name', t₂⟩, h₂, h⟩ := Option.bind_eq_some_iff.1 h
    obtain ⟨t₃, h₃, h⟩ := Option.bind_eq_some_iff.1 h
    obtain ⟨⟨line, t₄⟩, h₄, h⟩ := Option.bind_eq_some_iff.1 h
    obtain ⟨slug', h₅, h⟩ := Option.bind_eq_some_iff.1 h
    obtain ⟨t₅, h₆, h⟩ := Option.bind_eq_some_iff.1 h
    cases h
    obtain rfl := Text.isPrefixOf?_eq_some.1 h₁
    obtain ⟨rfl, hname⟩ := Text.cutFirst_eq_some.1 h₂
    obtain rfl := Text.isPrefixOf?_eq_some.1 h₃
    obtain ⟨rfl, hline⟩ := Text.cutFirst_eq_some.1 h₄
    obtain rfl := Text.isSuffixOf?_eq_some.1 h₅
    obtain rfl := Text.isPrefixOf?_eq_some.1 h₆
    exact ⟨⟨hname, fun hmem => hline (List.mem_append_left _ hmem)⟩, rfl⟩
  · rintro ⟨⟨hname, hslug⟩, rfl⟩
    have hline : '\n' ∉ slug ++ ".svg)".toList := List.not_mem_append hslug (by decide)
    simp only [Text.isPrefixOf?_eq_some.2 rfl, Text.cutFirst_eq_some.2 ⟨rfl, hname⟩,
      Text.cutFirst_eq_some.2 ⟨rfl, hline⟩, Text.isSuffixOf?_eq_some.2 rfl, bind,
      Option.bind_some, pure]

/-! ## Branches -/

/-- What stands in the branch for a weight before the expression. -/
def branchHead (w : Weight) : Text :=
  "                ".toList ++ w.label ++ " ->\n                    ".toList

/-- Reads the branch for a weight. -/
def branch? (w : Weight) (t : Text) : Option (Text × Text) := do
  let t ← (branchHead w).isPrefixOf? t
  let (expression, t) ← Text.cutFirst '\n' t
  let t ← ['\n'].isPrefixOf? t
  return (expression, t)

theorem branch_append (w : Weight) (expression u : Text) :
    branch w expression ++ u = branchHead w ++ (expression ++ '\n' :: (['\n'] ++ u)) := by
  show branchHead w ++ expression ++ "\n\n".toList ++ u = _
  rw [List.append_assoc, List.append_assoc]
  rfl

theorem isReader_branch? (w : Weight) : IsReader (branch? w) (fun e => '\n' ∉ e) (branch w) := by
  intro t expression u
  rw [branch_append, branch?]
  constructor
  · intro h
    obtain ⟨t₁, h₁, h⟩ := Option.bind_eq_some_iff.1 h
    obtain ⟨⟨expression', t₂⟩, h₂, h⟩ := Option.bind_eq_some_iff.1 h
    obtain ⟨t₃, h₃, h⟩ := Option.bind_eq_some_iff.1 h
    cases h
    obtain rfl := Text.isPrefixOf?_eq_some.1 h₁
    obtain ⟨rfl, hline⟩ := Text.cutFirst_eq_some.1 h₂
    obtain rfl := Text.isPrefixOf?_eq_some.1 h₃
    exact ⟨hline, rfl⟩
  · rintro ⟨hline, rfl⟩
    simp only [Text.isPrefixOf?_eq_some.2 rfl, Text.cutFirst_eq_some.2 ⟨rfl, hline⟩, bind,
      Option.bind_some, pure]

/-- Reads a branch for each of some weights. -/
def branchesFrom? : List Weight → Text → Option (List Text × Text)
  | [], t => some ([], t)
  | w :: ws, t => do
      let (expression, t) ← branch? w t
      let (more, t) ← branchesFrom? ws t
      return (expression :: more, t)

theorem isReader_branchesFrom? (ws : List Weight) :
    IsReader (branchesFrom? ws) (fun es => es.length = ws.length ∧ ∀ e ∈ es, '\n' ∉ e)
      fun es => (List.zipWith branch ws es).flatten := by
  induction ws with
  | nil =>
      intro t es u
      rw [branchesFrom?]
      constructor
      · intro h
        cases h
        exact ⟨⟨rfl, fun e he => by cases he⟩, rfl⟩
      · rintro ⟨⟨hlength, -⟩, rfl⟩
        obtain rfl := List.length_eq_zero_iff.1 hlength
        rfl
  | cons w ws ih =>
      intro t es u
      beta_reduce
      rw [branchesFrom?]
      constructor
      · intro h
        obtain ⟨⟨e, t₁⟩, h₁, h⟩ := Option.bind_eq_some_iff.1 h
        obtain ⟨⟨more, t₂⟩, h₂, h⟩ := Option.bind_eq_some_iff.1 h
        cases h
        obtain ⟨he, rfl⟩ := (isReader_branch? w _ _ _).1 h₁
        obtain ⟨⟨hlength, hmore⟩, rfl⟩ := (ih _ _ _).1 h₂
        refine ⟨⟨congrArg (· + 1) hlength, List.forall_mem_cons.2 ⟨he, hmore⟩⟩, ?_⟩
        rw [List.zipWith_cons_cons, List.flatten_cons, List.append_assoc]
      · rintro ⟨⟨hlength, hall⟩, rfl⟩
        cases es with
        | nil => cases hlength
        | cons e more =>
            obtain ⟨he, hmore⟩ := List.forall_mem_cons.1 hall
            have hfirst := (isReader_branch? w _ e
              ((List.zipWith branch ws more).flatten ++ u)).2 ⟨he, rfl⟩
            have hothers := (ih _ more u).2 ⟨⟨Nat.succ.inj hlength, hmore⟩, rfl⟩
            rw [List.zipWith_cons_cons, List.flatten_cons, List.append_assoc, hfirst]
            simp only [bind, Option.bind_some, hothers, pure]

/-! ## Blocks -/

/-- A block of a module: the function of an icon with an expression for each weight, or an alias
of an icon. -/
inductive Block where
  | icon (name slug : Text) (expressions : List Text)
  | aka (name slug target : Text)

/-- What the function of an icon has between its name and its branches. -/
def iconHead : Text :=
  " weight =\n    let\n        elements =\n            case weight of\n".toList

/-- What the function of an icon has after its branches. -/
def iconEnd : Text := "    in\n    makeBuilder elements\n\n\n".toList

/-- What an alias has between its name and the icon that it stands for. -/
def akaHead : Text := " =\n    ".toList

/-- The line of a type, and the name at the beginning of the next. -/
def typeLine (name : Text) : Text := name ++ " : Icon\n".toList ++ name

namespace Block

/-- The name that a block defines. -/
def name : Block → Text
  | icon name _ _ => name
  | aka name _ _ => name

/-- The slug of the picture in the comment. -/
def slug : Block → Text
  | icon _ slug _ => slug
  | aka _ slug _ => slug

/-- What is written after the name that is defined. -/
def body : Block → Text
  | icon _ _ expressions =>
      iconHead ++ ((List.zipWith branch Weight.all expressions).flatten ++ iconEnd)
  | aka _ _ target => akaHead ++ (target ++ '\n' :: ['\n', '\n'])

/-- A block as it is written. -/
def text (previews : Text) (b : Block) : Text :=
  previewComment previews b.name b.slug ++ (typeLine b.name ++ b.body)

/-- Whether there are expressions for all weights, and all that stands in lines of its own stays
on them. -/
def HasLines : Block → Prop
  | icon _ _ expressions =>
      expressions.length = Weight.all.length ∧ ∀ e ∈ expressions, '\n' ∉ e
  | aka _ _ target => '\n' ∉ target

/-- A block whose name ends at the bracket, and whose lines end where they should. -/
structure IsLegible (b : Block) : Prop where
  name : ']' ∉ b.name
  slug : '\n' ∉ b.slug
  lines : b.HasLines

theorem text_ne_nil (previews : Text) (b : Block) : b.text previews ≠ [] := by
  rw [text, previewComment_append]
  exact List.cons_ne_nil _ _

end Block

/-- Reads the rest of the function of an icon. -/
def iconBody? (name slug t : Text) : Option (Block × Text) := do
  let (expressions, t) ← branchesFrom? Weight.all t
  let t ← iconEnd.isPrefixOf? t
  return (.icon name slug expressions, t)

/-- Reads the rest of an alias. -/
def akaBody? (name slug t : Text) : Option (Block × Text) := do
  let t ← akaHead.isPrefixOf? t
  let (target, t) ← Text.cutFirst '\n' t
  let t ← ['\n', '\n'].isPrefixOf? t
  return (.aka name slug target, t)

/-- Reads what follows the name that a block defines: with a weight it is the function of an
icon, and without one it is an alias. -/
def body? (name slug t : Text) : Option (Block × Text) :=
  match iconHead.isPrefixOf? t with
  | some t => iconBody? name slug t
  | none => akaBody? name slug t

/-- Reads a block. -/
def block? (previews t : Text) : Option (Block × Text) := do
  let ((name, slug), t) ← comment? previews t
  let t ← (typeLine name).isPrefixOf? t
  body? name slug t

theorem isReader_body? (name slug : Text) :
    IsReader (body? name slug) (fun b => b.name = name ∧ b.slug = slug ∧ b.HasLines)
      Block.body := by
  intro t b u
  rw [body?]
  constructor
  · intro h
    split at h
    · rename_i t₁ h₁
      obtain ⟨⟨expressions, t₂⟩, h₂, h⟩ := Option.bind_eq_some_iff.1 h
      obtain ⟨t₃, h₃, h⟩ := Option.bind_eq_some_iff.1 h
      cases h
      obtain rfl := Text.isPrefixOf?_eq_some.1 h₁
      obtain ⟨hlines, rfl⟩ := (isReader_branchesFrom? _ _ _ _).1 h₂
      obtain rfl := Text.isPrefixOf?_eq_some.1 h₃
      exact ⟨⟨rfl, rfl, hlines⟩, by simp only [Block.body, List.append_assoc]⟩
    · obtain ⟨t₁, h₁, h⟩ := Option.bind_eq_some_iff.1 h
      obtain ⟨⟨target, t₂⟩, h₂, h⟩ := Option.bind_eq_some_iff.1 h
      obtain ⟨t₃, h₃, h⟩ := Option.bind_eq_some_iff.1 h
      cases h
      obtain rfl := Text.isPrefixOf?_eq_some.1 h₁
      obtain ⟨rfl, hline⟩ := Text.cutFirst_eq_some.1 h₂
      obtain rfl := Text.isPrefixOf?_eq_some.1 h₃
      refine ⟨⟨rfl, rfl, hline⟩, ?_⟩
      simp only [Block.body, List.append_assoc, List.cons_append]
  · rintro ⟨⟨rfl, rfl, hlines⟩, rfl⟩
    cases b with
    | icon name slug expressions =>
        have hread := (isReader_branchesFrom? Weight.all _ expressions (iconEnd ++ u)).2
          ⟨hlines, rfl⟩
        simp only [Block.body, Block.name, Block.slug, List.append_assoc,
          Text.isPrefixOf?_eq_some.2 rfl, iconBody?, hread, bind, Option.bind_some, pure]
    | aka name slug target =>
        -- The line of an alias has no weight where that of an icon has one.
        have hkind : ∀ v, iconHead.isPrefixOf? (akaHead ++ v) = none := fun v => rfl
        have hsplit : Block.body (.aka name slug target) ++ u =
            akaHead ++ (target ++ '\n' :: (['\n', '\n'] ++ u)) := by
          simp only [Block.body, List.append_assoc, List.cons_append]
        simp only [hsplit, hkind, akaBody?, Text.isPrefixOf?_eq_some.2 rfl,
          Text.cutFirst_eq_some.2 ⟨rfl, hlines⟩, Block.name, Block.slug, bind, Option.bind_some,
          pure]

theorem isReader_block? (previews : Text) :
    IsReader (block? previews) Block.IsLegible (Block.text previews) := by
  intro t b u
  rw [block?, Block.text, List.append_assoc, List.append_assoc]
  constructor
  · intro h
    obtain ⟨⟨⟨name, slug⟩, t₁⟩, h₁, h⟩ := Option.bind_eq_some_iff.1 h
    obtain ⟨t₂, h₂, h₃⟩ := Option.bind_eq_some_iff.1 h
    obtain ⟨⟨hname, hslug⟩, rfl⟩ := (isReader_comment? previews _ _ _).1 h₁
    obtain rfl := Text.isPrefixOf?_eq_some.1 h₂
    obtain ⟨⟨rfl, rfl, hlines⟩, rfl⟩ := (isReader_body? _ _ _ _ _).1 h₃
    exact ⟨⟨hname, hslug, hlines⟩, rfl⟩
  · rintro ⟨⟨hname, hslug, hlines⟩, rfl⟩
    have hcomment := (isReader_comment? previews _ (b.name, b.slug)
      (typeLine b.name ++ (b.body ++ u))).2 ⟨⟨hname, hslug⟩, rfl⟩
    have hbody := (isReader_body? b.name b.slug _ b u).2 ⟨⟨rfl, rfl, hlines⟩, rfl⟩
    simp only [hcomment, Text.isPrefixOf?_eq_some.2 rfl, hbody, bind, Option.bind_some]

/-- Reads the blocks up to the end of the text, in a number of steps. -/
def blocks? (previews : Text) : Nat → Text → Option (List Block)
  | _, [] => some []
  | 0, _ => none
  | steps + 1, t => do
      let (b, t) ← block? previews t
      let more ← blocks? previews steps t
      return b :: more

theorem blocks?_nil_eq_some {previews : Text} {steps : Nat} {bs : List Block} :
    blocks? previews steps [] = some bs ↔
      (∀ b ∈ bs, b.IsLegible) ∧ [] = bs.flatMap (Block.text previews) := by
  rw [blocks?]
  constructor
  · intro h
    cases h
    exact ⟨fun b hb => (by cases hb), rfl⟩
  · rintro ⟨-, heq⟩
    cases bs with
    | nil => rfl
    | cons b bs => exact absurd (List.append_eq_nil_iff.1 heq.symm).1 (b.text_ne_nil previews)

theorem blocks?_eq_some {previews : Text} {steps : Nat} {t : Text} {bs : List Block}
    (hsteps : t.length ≤ steps) :
    blocks? previews steps t = some bs ↔
      (∀ b ∈ bs, b.IsLegible) ∧ t = bs.flatMap (Block.text previews) := by
  -- Each block takes a character at least, so the steps suffice for the text.
  induction steps generalizing t bs with
  | zero =>
      obtain rfl := List.length_eq_zero_iff.1 (Nat.le_zero.1 hsteps)
      exact blocks?_nil_eq_some
  | succ steps ih =>
      cases t with
      | nil => exact blocks?_nil_eq_some
      | cons c t =>
          rw [List.length_cons] at hsteps
          simp only [blocks?]
          constructor
          · intro h
            obtain ⟨⟨b, t₁⟩, h₁, h⟩ := Option.bind_eq_some_iff.1 h
            obtain ⟨more, h₂, h⟩ := Option.bind_eq_some_iff.1 h
            cases h
            obtain ⟨hb, heq⟩ := (isReader_block? previews _ _ _).1 h₁
            have hlength := congrArg List.length heq
            have hpos := List.length_pos_iff.2 (b.text_ne_nil previews)
            rw [List.length_cons, List.length_append] at hlength
            obtain ⟨hmore, rfl⟩ := (ih (t := t₁) (by omega)).1 h₂
            exact ⟨List.forall_mem_cons.2 ⟨hb, hmore⟩, heq⟩
          · rintro ⟨hall, heq⟩
            cases bs with
            | nil => cases heq
            | cons b more =>
                obtain ⟨hb, hmore⟩ := List.forall_mem_cons.1 hall
                rw [List.flatMap_cons] at heq
                have hlength := congrArg List.length heq
                have hpos := List.length_pos_iff.2 (b.text_ne_nil previews)
                rw [List.length_cons, List.length_append] at hlength
                have hfirst := (isReader_block? previews _ _ _).2 ⟨hb, heq⟩
                have hothers := (ih (t := more.flatMap (Block.text previews)) (by omega)).2
                  ⟨hmore, rfl⟩
                simp only [hfirst, hothers, bind, Option.bind_some, pure]

/-! ## The head -/

/-- Reads exported names, each on a line of its own, up to the end of the list, in a number of
steps. The end of the last line belongs to what follows. -/
def exports? : Nat → Text → Option (List Text × Text)
  | 0, _ => none
  | steps + 1, t =>
      match "\n    , ".toList.isPrefixOf? t with
      | some t => do
          let (name, t) ← Text.cutFirst '\n' t
          let (more, t) ← exports? steps ('\n' :: t)
          return (name :: more, t)
      | none => ("\n    )\n\n".toList.isPrefixOf? t).map fun t => ([], t)

/-- Exported names as they are written. -/
def exportsText (names : List Text) : Text :=
  names.flatMap ("\n    , ".toList ++ ·) ++ "\n    )\n\n".toList

theorem exportsText_cons (name : Text) (more : List Text) (u : Text) :
    exportsText (name :: more) ++ u =
      "\n    , ".toList ++ (name ++ (exportsText more ++ u)) := by
  simp only [exportsText, List.flatMap_cons, List.append_assoc]

/-- What is left of the list of exports begins a line. -/
theorem exists_exportsText_eq (names : List Text) (u : Text) :
    ∃ rest, exportsText names ++ u = '\n' :: rest := by
  cases names with
  | nil => exact ⟨_, rfl⟩
  | cons name more => exact ⟨_, exportsText_cons name more u⟩

theorem length_lt_length_exportsText (names : List Text) (u : Text) :
    names.length < (exportsText names ++ u).length := by
  induction names with
  | nil => exact Nat.succ_pos _
  | cons name more ih =>
      rw [exportsText_cons, List.length_append, List.length_append, List.length_cons]
      have hgap : 0 < "\n    , ".toList.length := by decide
      omega

theorem exports?_eq_some {steps : Nat} {t u : Text} {names : List Text} :
    exports? steps t = some (names, u) ↔
      names.length < steps ∧ (∀ n ∈ names, '\n' ∉ n) ∧ t = exportsText names ++ u := by
  induction steps generalizing t names with
  | zero =>
      rw [exports?]
      constructor
      · intro h
        cases h
      · rintro ⟨hlength, -⟩
        exact absurd hlength (Nat.not_lt_zero _)
  | succ steps ih =>
      rw [exports?]
      constructor
      · intro h
        split at h
        · rename_i t₁ h₁
          obtain ⟨⟨name, t₂⟩, h₂, h⟩ := Option.bind_eq_some_iff.1 h
          obtain ⟨⟨more, t₃⟩, h₃, h⟩ := Option.bind_eq_some_iff.1 h
          cases h
          obtain rfl := Text.isPrefixOf?_eq_some.1 h₁
          obtain ⟨rfl, hname⟩ := Text.cutFirst_eq_some.1 h₂
          obtain ⟨hlength, hmore, heq⟩ := ih.1 h₃
          refine ⟨Nat.succ_lt_succ hlength, List.forall_mem_cons.2 ⟨hname, hmore⟩, ?_⟩
          rw [exportsText_cons, ← heq]
        · obtain ⟨t₁, h₁, h⟩ := Option.map_eq_some_iff.1 h
          cases h
          exact ⟨Nat.succ_pos _, fun n hn => (by cases hn), Text.isPrefixOf?_eq_some.1 h₁⟩
      · rintro ⟨hlength, hall, rfl⟩
        cases names with
        | nil => rfl
        | cons name more =>
            obtain ⟨hname, hmore⟩ := List.forall_mem_cons.1 hall
            obtain ⟨rest, hrest⟩ := exists_exportsText_eq more u
            have hothers := (@ih ('\n' :: rest) more).2
              ⟨Nat.lt_of_succ_lt_succ hlength, hmore, hrest.symm⟩
            rw [exportsText_cons, hrest]
            simp only [Text.isPrefixOf?_eq_some.2 rfl, Text.cutFirst_eq_some.2 ⟨rfl, hname⟩,
              hothers, bind, Option.bind_some, pure]

/-- Reads the head of a module, up to its blocks: the name, and the exported names after those
of the supporting part. -/
def head? (t : Text) : Option ((Text × List Text) × Text) := do
  let t ← "module ".toList.isPrefixOf? t
  let (line, t) ← Text.cutFirst '\n' t
  let name ← " exposing".toList.isSuffixOf? line
  let t ← ("    ( ".toList ++ Text.joined "\n    , ".toList supportExports).isPrefixOf? t
  let (names, t) ← exports? t.length t
  let t ← (named name (documentationOf names) ++ ['\n'] ++ named name support).isPrefixOf? t
  return ((name, names), t)

/-- The head of a module as it is written. -/
def headText (name : Text) (names : List Text) : Text := header names name ++ named name support

theorem header_eq_append (names : List Text) (name : Text) :
    header names name = "module ".toList ++ (name ++ " exposing".toList ++ '\n' ::
      ("    ( ".toList ++ Text.joined "\n    , ".toList supportExports ++ (exportsText names ++
        (named name (documentationOf names) ++ ['\n'])))) := by
  have hheader : header names name = "module ".toList ++ name ++
      (" exposing".toList ++ '\n' :: "    ( ".toList) ++
        Text.joined "\n    , ".toList (supportExports ++ names) ++ "\n    )\n\n".toList ++
          named name (documentationOf names) ++ ['\n'] := rfl
  rw [hheader, Text.joined_append (show supportExports ≠ [] from List.cons_ne_nil _ _),
    exportsText]
  simp only [List.append_assoc, List.cons_append]

theorem headText_append (name : Text) (names : List Text) (u : Text) :
    headText name names ++ u = "module ".toList ++ (name ++ " exposing".toList ++ '\n' ::
      ("    ( ".toList ++ Text.joined "\n    , ".toList supportExports ++ (exportsText names ++
        (named name (documentationOf names) ++ ['\n'] ++ named name support ++ u)))) := by
  rw [headText, header_eq_append]
  simp only [List.append_assoc, List.cons_append]

theorem isReader_head? :
    IsReader head? (fun h => '\n' ∉ h.1 ∧ ∀ n ∈ h.2, '\n' ∉ n) fun h => headText h.1 h.2 := by
  rintro t ⟨name, names⟩ u
  beta_reduce
  rw [headText_append, head?]
  constructor
  · intro h
    obtain ⟨t₁, h₁, h⟩ := Option.bind_eq_some_iff.1 h
    obtain ⟨⟨line, t₂⟩, h₂, h⟩ := Option.bind_eq_some_iff.1 h
    obtain ⟨name', h₃, h⟩ := Option.bind_eq_some_iff.1 h
    obtain ⟨t₃, h₄, h⟩ := Option.bind_eq_some_iff.1 h
    obtain ⟨⟨names', t₄⟩, h₅, h⟩ := Option.bind_eq_some_iff.1 h
    obtain ⟨t₅, h₆, h⟩ := Option.bind_eq_some_iff.1 h
    cases h
    obtain rfl := Text.isPrefixOf?_eq_some.1 h₁
    obtain ⟨rfl, hline⟩ := Text.cutFirst_eq_some.1 h₂
    obtain rfl := Text.isSuffixOf?_eq_some.1 h₃
    obtain rfl := Text.isPrefixOf?_eq_some.1 h₄
    obtain ⟨-, hnames, rfl⟩ := exports?_eq_some.1 h₅
    obtain rfl := Text.isPrefixOf?_eq_some.1 h₆
    exact ⟨⟨fun hmem => hline (List.mem_append_left _ hmem), hnames⟩, rfl⟩
  · rintro ⟨⟨hname, hnames⟩, rfl⟩
    have hline : '\n' ∉ name ++ " exposing".toList := List.not_mem_append hname (by decide)
    simp only [Text.isPrefixOf?_eq_some.2 rfl, Text.cutFirst_eq_some.2 ⟨rfl, hline⟩,
      Text.isSuffixOf?_eq_some.2 rfl, bind,
      exports?_eq_some.2 ⟨length_lt_length_exportsText names _, hnames, rfl⟩,
      Option.bind_some, pure]

/-! ## Icons with their aliases -/

/-- What a module shows of an icon. -/
structure Shown where
  camel : Text
  slug : Text
  aka : Option Text
  expressions : List Text

/-- The block of an icon, and directly after it that of its alias. -/
def Shown.blocks (icon : Shown) : List Block :=
  .icon icon.camel icon.slug icon.expressions ::
    icon.aka.toList.map fun aka => .aka aka icon.slug icon.camel

/-- The icons that some blocks are of. An alias has to follow the icon that it stands for. -/
def icons? : List Block → Option (List Shown)
  | [] => some []
  | .icon name slug expressions :: .aka aka slug' target :: rest =>
      if slug' = slug ∧ target = name then
        (icons? rest).map (⟨name, slug, some aka, expressions⟩ :: ·)
      else none
  | .icon name slug expressions :: rest =>
      (icons? rest).map (⟨name, slug, none, expressions⟩ :: ·)
  | .aka .. :: _ => none

/-- An alias is told from the icon after it, so blocks tell their icons. -/
theorem icons?_eq_some {bs : List Block} {icons : List Shown} :
    icons? bs = some icons ↔ bs = icons.flatMap Shown.blocks := by
  constructor
  · intro h
    fun_induction icons? bs generalizing icons with
    | case1 =>
        cases h
        rfl
    | case2 name slug expressions aka slug' target rest hsame ih =>
        obtain ⟨more, hmore, rfl⟩ := Option.map_eq_some_iff.1 h
        obtain ⟨rfl, rfl⟩ := hsame
        rw [List.flatMap_cons, ← ih hmore]
        rfl
    | case3 => cases h
    | case4 name slug expressions rest _ ih =>
        obtain ⟨more, hmore, rfl⟩ := Option.map_eq_some_iff.1 h
        rw [List.flatMap_cons, ← ih hmore]
        rfl
    | case5 => cases h
  · rintro rfl
    induction icons with
    | nil => rfl
    | cons icon more ih =>
        obtain ⟨camel, slug, aka, expressions⟩ := icon
        rw [List.flatMap_cons]
        cases aka with
        | some aka => simp [Shown.blocks, icons?, ih]
        | none =>
            -- The block of the next icon is no alias.
            cases more with
            | nil => rfl
            | cons next more =>
                have hnext : icons? (.icon camel slug expressions ::
                    (next :: more).flatMap Shown.blocks) =
                      (icons? ((next :: more).flatMap Shown.blocks)).map
                        (⟨camel, slug, none, expressions⟩ :: ·) := by
                  rw [List.flatMap_cons, Shown.blocks, List.cons_append, icons?]
                  rintro _ _ _ _ heq
                  cases heq
                rw [ih] at hnext
                exact hnext

/-! ## Modules -/

/-- What a module says. -/
structure Contents where
  name : Text
  exports : List Text
  icons : List Shown

/-- A module as it is written. -/
def Contents.text (previews : Text) (m : Contents) : Text :=
  headText m.name m.exports ++
    (m.icons.flatMap Shown.blocks).flatMap (Block.text previews)

/-- A module in which all names, slugs and expressions can be told from what surrounds them. -/
structure Contents.IsLegible (m : Contents) : Prop where
  name : '\n' ∉ m.name
  exports : ∀ n ∈ m.exports, '\n' ∉ n
  blocks : ∀ icon ∈ m.icons, ∀ b ∈ icon.blocks, b.IsLegible

/-- Reads the text of a module. -/
def module? (previews t : Text) : Option Contents := do
  let ((name, exports), t) ← head? t
  let blocks ← blocks? previews t.length t
  let icons ← icons? blocks
  return ⟨name, exports, icons⟩

/-- The reader reads legible modules as they are written, and nothing else. -/
theorem module?_eq_some {previews t : Text} {m : Contents} :
    module? previews t = some m ↔ m.IsLegible ∧ t = m.text previews := by
  rw [module?]
  constructor
  · intro h
    obtain ⟨⟨⟨name, exports⟩, t₁⟩, h₁, h⟩ := Option.bind_eq_some_iff.1 h
    obtain ⟨blocks, h₂, h⟩ := Option.bind_eq_some_iff.1 h
    obtain ⟨icons, h₃, h⟩ := Option.bind_eq_some_iff.1 h
    cases h
    obtain ⟨⟨hname, hexports⟩, rfl⟩ := (isReader_head? _ _ _).1 h₁
    obtain ⟨hblocks, rfl⟩ := (blocks?_eq_some (Nat.le_refl _)).1 h₂
    obtain rfl := icons?_eq_some.1 h₃
    refine ⟨⟨hname, hexports, fun icon hicon b hb => hblocks b ?_⟩, rfl⟩
    exact List.mem_flatMap.2 ⟨icon, hicon, hb⟩
  · rintro ⟨⟨hname, hexports, hblocks⟩, rfl⟩
    have hhead := (isReader_head? _ (m.name, m.exports)
      ((m.icons.flatMap Shown.blocks).flatMap (Block.text previews))).2 ⟨⟨hname, hexports⟩, rfl⟩
    have hall : ∀ b ∈ m.icons.flatMap Shown.blocks, b.IsLegible := by
      intro b hb
      obtain ⟨icon, hicon, hb⟩ := List.mem_flatMap.1 hb
      exact hblocks icon hicon b hb
    rw [Contents.text, hhead]
    simp only [blocks?_eq_some (Nat.le_refl _) |>.2 ⟨hall, rfl⟩, icons?_eq_some.2 rfl, bind,
      Option.bind_some, pure]

end Iconsmith.Elm
