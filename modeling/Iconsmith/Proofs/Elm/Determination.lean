import Iconsmith.Proofs.Elm.ModuleReader

set_option autoImplicit false

/-!
# Modules determine their icons

From the text of a module its icons can be told: their names, slugs and aliases, in order, and
the expression for each weight (`module?_moduleText?`). The names have to be words, and nothing
else may break a line. Then every icon shows as a block, its alias as the block after it
(`moduleText?_eq_some`), and the reader gives these back.
-/

namespace Iconsmith.Elm

/-! ## What a module shows -/

namespace Generated

/-- What a module shows of an icon. -/
def shown (icon : Generated) : Shown where
  camel := icon.entry.camel
  slug := icon.entry.slug
  aka := icon.entry.aka.map Alias.camel
  expressions := Weight.all.map fun w => (icon.expressions.get? w).getD []

/-- An icon with an expression for each weight. -/
def IsComplete (icon : Generated) : Prop := ∀ w, (icon.expressions.get? w).isSome

end Generated

/-- Mapping succeeds when it succeeds for each item. -/
theorem mapM_eq_some {α β : Type} {f : α → Option β} {P : α → Prop} {g : α → β}
    (h : ∀ a b, f a = some b ↔ P a ∧ b = g a) {as : List α} {bs : List β} :
    as.mapM f = some bs ↔ (∀ a ∈ as, P a) ∧ bs = as.map g := by
  induction as generalizing bs with
  | nil =>
      rw [List.mapM_nil, List.map_nil]
      constructor
      · intro heq
        cases heq
        exact ⟨fun a ha => (by cases ha), rfl⟩
      · rintro ⟨-, rfl⟩
        rfl
  | cons a as ih =>
      rw [List.mapM_cons, List.forall_mem_cons, List.map_cons]
      constructor
      · intro heq
        obtain ⟨b, hb, heq⟩ := Option.bind_eq_some_iff.1 heq
        obtain ⟨more, hmore, heq⟩ := Option.bind_eq_some_iff.1 heq
        cases heq
        obtain ⟨ha, rfl⟩ := (h a b).1 hb
        obtain ⟨hall, rfl⟩ := ih.1 hmore
        exact ⟨⟨ha, hall⟩, rfl⟩
      · rintro ⟨⟨ha, hall⟩, rfl⟩
        rw [(h a (g a)).2 ⟨ha, rfl⟩, ih.2 ⟨hall, rfl⟩]
        rfl

/-- There are branches for weights that all have expressions. -/
theorem branches?_eq_some {expressions : Table Weight Text} {ws : List Weight}
    {texts : List Text} :
    branches? expressions ws = some texts ↔ (∀ w ∈ ws, (expressions.get? w).isSome) ∧
      texts = ws.map fun w => branch w ((expressions.get? w).getD []) := by
  refine mapM_eq_some fun w text => ?_
  cases expressions.get? w <;> simp [eq_comm]

/-- An icon and its alias are written as their blocks. -/
theorem text_blocks (previews : Text) (icon : Generated) :
    icon.shown.blocks.flatMap (Block.text previews) =
      iconFunction previews icon.entry
          (Weight.all.map fun w => branch w ((icon.expressions.get? w).getD [])) ++
        (aliasFunction? previews icon.entry).getD [] := by
  obtain ⟨entry, expressions⟩ := icon
  have hicon : ∀ texts, iconFunction previews entry texts =
      previewComment previews entry.camel entry.slug ++ (typeLine entry.camel ++
        (iconHead ++ (texts.flatten ++ iconEnd))) := by
    intro texts
    simp only [iconFunction, typeLine, List.append_assoc]
    rfl
  have haka : ∀ aka : Alias, previewComment previews aka.camel entry.slug ++ aka.camel ++
      " : Icon\n".toList ++ aka.camel ++ " =\n    ".toList ++ entry.camel ++ "\n\n\n".toList =
        Block.text previews (.aka aka.camel entry.slug entry.camel) := by
    intro aka
    simp only [Block.text, Block.body, Block.name, Block.slug, typeLine, List.append_assoc]
    rfl
  rw [hicon, aliasFunction?, Generated.shown, Shown.blocks, List.flatMap_cons]
  cases entry.aka with
  | none =>
      rw [Option.map_none, Option.map_none]
      rfl
  | some aka =>
      simp only [Option.map_some, Option.toList_some, List.map_cons, List.map_nil,
        List.flatMap_cons, List.flatMap_nil, List.append_nil, Option.getD_some, haka]
      rfl

theorem definitions?_eq_some {previews : Text} {icon : Generated} {text : Text} :
    definitions? previews icon = some text ↔
      icon.IsComplete ∧ text = icon.shown.blocks.flatMap (Block.text previews) := by
  rw [definitions?, iconFunction?, text_blocks, Option.map_map, Option.map_eq_some_iff]
  constructor
  · rintro ⟨texts, htexts, rfl⟩
    obtain ⟨hcomplete, rfl⟩ := branches?_eq_some.1 htexts
    exact ⟨fun w => hcomplete w (Weight.mem_all w), rfl⟩
  · rintro ⟨hcomplete, rfl⟩
    exact ⟨_, branches?_eq_some.2 ⟨fun w _ => hcomplete w, rfl⟩, rfl⟩

theorem moduleText?_eq_some {previews : Text} {icons : List Generated} {name text : Text} :
    moduleText? previews icons name = some text ↔ (∀ icon ∈ icons, icon.IsComplete) ∧
      text = Contents.text previews
        ⟨name, icons.flatMap Generated.exportedNames, icons.map Generated.shown⟩ := by
  have hflat : (icons.map fun icon => icon.shown.blocks.flatMap (Block.text previews)).flatten =
      ((icons.map Generated.shown).flatMap Shown.blocks).flatMap (Block.text previews) := by
    rw [List.flatMap_map, List.flatMap_assoc]
    rfl
  rw [moduleText?, Option.map_eq_some_iff]
  constructor
  · rintro ⟨texts, htexts, rfl⟩
    obtain ⟨hcomplete, rfl⟩ := (mapM_eq_some fun _ _ => definitions?_eq_some).1 htexts
    exact ⟨hcomplete, congrArg (headText name _ ++ ·) hflat⟩
  · rintro ⟨hcomplete, rfl⟩
    refine ⟨_, (mapM_eq_some fun _ _ => definitions?_eq_some).2 ⟨hcomplete, rfl⟩, ?_⟩
    exact congrArg (headText name _ ++ ·) hflat

/-! ## Legible icons -/

/-- A character of a word. -/
def isWordChar (c : Char) : Bool := c.isAlphanum || c = '_'

/-- An icon whose names are words, and whose slug and expressions break no line. -/
structure Generated.IsLegible (icon : Generated) : Prop where
  camel : ∀ c ∈ icon.entry.camel, isWordChar c
  aka : ∀ aka ∈ icon.entry.aka, ∀ c ∈ aka.camel, isWordChar c
  slug : '\n' ∉ icon.entry.slug
  expressions : ∀ w e, icon.expressions.get? w = some e → '\n' ∉ e

theorem not_mem_of_isWordChar {t : Text} (h : ∀ c ∈ t, isWordChar c) : ']' ∉ t ∧ '\n' ∉ t :=
  ⟨fun hmem => absurd (h _ hmem) (by decide), fun hmem => absurd (h _ hmem) (by decide)⟩

theorem isLegible_contents {name : Text} {icons : List Generated} (hname : '\n' ∉ name)
    (hicons : ∀ icon ∈ icons, icon.IsLegible) :
    Contents.IsLegible
      ⟨name, icons.flatMap Generated.exportedNames, icons.map Generated.shown⟩ := by
  refine ⟨hname, fun n hn => ?_, fun s hs b hb => ?_⟩
  · obtain ⟨icon, hicon, hn⟩ := List.mem_flatMap.1 hn
    obtain ⟨hcamel, haka, -, -⟩ := hicons icon hicon
    rw [Generated.exportedNames, Entry.exportedNames] at hn
    split at hn
    · rename_i aka hsome
      rcases List.mem_cons.1 hn with rfl | hn
      · exact (not_mem_of_isWordChar hcamel).2
      · rw [List.mem_singleton.1 hn]
        exact (not_mem_of_isWordChar (haka aka hsome)).2
    · rw [List.mem_singleton.1 hn]
      exact (not_mem_of_isWordChar hcamel).2
  · obtain ⟨icon, hicon, rfl⟩ := List.mem_map.1 hs
    obtain ⟨hcamel, haka, hslug, hexpressions⟩ := hicons icon hicon
    rcases List.mem_cons.1 hb with rfl | hb
    · refine ⟨(not_mem_of_isWordChar hcamel).1, hslug, rfl, fun e he => ?_⟩
      obtain ⟨w, -, rfl⟩ := List.mem_map.1 he
      cases hsome : icon.expressions.get? w with
      | none => exact List.not_mem_nil
      | some e => exact hexpressions w e hsome
    · obtain ⟨name, hname, rfl⟩ := List.mem_map.1 hb
      obtain ⟨aka, hsome, rfl⟩ := Option.map_eq_some_iff.1 (Option.mem_toList.1 hname)
      exact ⟨(not_mem_of_isWordChar (haka aka hsome)).1, hslug,
        (not_mem_of_isWordChar hcamel).2⟩

/-- Icons that a module shows alike. -/
structure Generated.Agrees (icon other : Generated) : Prop where
  camel : icon.entry.camel = other.entry.camel
  slug : icon.entry.slug = other.entry.slug
  aka : icon.entry.aka.map Alias.camel = other.entry.aka.map Alias.camel
  expressions : ∀ w, icon.expressions.get? w = other.expressions.get? w

/-- Complete icons of which the same is shown agree. -/
theorem agrees_of_shown_eq {icon other : Generated} (hicon : icon.IsComplete)
    (hother : other.IsComplete) (h : icon.shown = other.shown) : icon.Agrees other := by
  obtain ⟨hcamel, hslug, haka, hexpressions⟩ := Shown.mk.inj h
  refine ⟨hcamel, hslug, haka, fun w => ?_⟩
  have hsame := List.map_inj_left.1 hexpressions w (Weight.mem_all w)
  obtain ⟨e, he⟩ := Option.isSome_iff_exists.1 (hicon w)
  obtain ⟨e', he'⟩ := Option.isSome_iff_exists.1 (hother w)
  rw [he, he', Option.getD_some, Option.getD_some] at hsame
  rw [he, he', hsame]

theorem forall₂_agrees {icons others : List Generated} (hicons : ∀ icon ∈ icons, icon.IsComplete)
    (hothers : ∀ icon ∈ others, icon.IsComplete)
    (h : icons.map Generated.shown = others.map Generated.shown) :
    List.Forall₂ Generated.Agrees icons others := by
  induction icons generalizing others with
  | nil =>
      rw [List.map_eq_nil_iff.1 h.symm]
      exact .nil
  | cons icon icons ih =>
      obtain ⟨other, others, rfl, hfirst, hrest⟩ := List.map_eq_cons_iff.1 h.symm
      obtain ⟨hicon, hicons⟩ := List.forall_mem_cons.1 hicons
      obtain ⟨hother, hothers⟩ := List.forall_mem_cons.1 hothers
      exact .cons (agrees_of_shown_eq hicon hother hfirst.symm) (ih hicons hothers hrest.symm)

/-- The text of a module is read back as what it says: its name, what it exports, and one icon
after another with its slug, its alias and its expressions. So it determines its icons: any
others with that text agree with them one by one. -/
theorem module?_moduleText? {previews name text : Text} {icons : List Generated}
    (hname : '\n' ∉ name) (hicons : ∀ icon ∈ icons, icon.IsLegible)
    (h : moduleText? previews icons name = some text) :
    module? previews text =
        some ⟨name, icons.flatMap Generated.exportedNames, icons.map Generated.shown⟩ ∧
      ∀ name' others, '\n' ∉ name' → (∀ icon ∈ others, icon.IsLegible) →
        moduleText? previews others name' = some text →
          name = name' ∧ List.Forall₂ Generated.Agrees icons others := by
  have hread : ∀ {name icons}, '\n' ∉ name → (∀ icon ∈ icons, Generated.IsLegible icon) →
      moduleText? previews icons name = some text → module? previews text =
        some ⟨name, icons.flatMap Generated.exportedNames, icons.map Generated.shown⟩ :=
    fun hname hicons h => module?_eq_some.2
      ⟨isLegible_contents hname hicons, (moduleText?_eq_some.1 h).2⟩
  refine ⟨hread hname hicons h, fun name' others hname' hothers h' => ?_⟩
  have hsame := (hread hname hicons h).symm.trans (hread hname' hothers h')
  obtain ⟨rfl, -, hshown⟩ := Contents.mk.inj (Option.some.inj hsame)
  exact ⟨rfl, forall₂_agrees (moduleText?_eq_some.1 h).1 (moduleText?_eq_some.1 h').1 hshown⟩

/-! ## A module with misleading names -/

/-- An icon with the same expression for each weight. -/
def plain (entry : Entry) (expression : Text) : Generated where
  entry := entry
  expressions := Table.ofList (Weight.all.map fun w => (w, expression))

/-- Two icons: the first has the name of the second as its alias, and the second has a slug that
looks like the end of a comment and an expression that looks like the next branch. -/
def lookalikes : List Generated :=
  [plain ⟨"text".toList, "Text".toList, some ⟨"text-bold".toList, "TextBold".toList⟩⟩ "[]".toList,
    plain ⟨"x.svg)".toList, "TextBold".toList, none⟩ "                Light ->".toList]

theorem module?_lookalikes : ∃ text, moduleText? "p".toList lookalikes "A ".toList = some text ∧
    module? "p".toList text = some
      ⟨"A ".toList, ["text".toList, "textBold".toList, "textBold".toList],
        [⟨"text".toList, "text".toList, some "textBold".toList, List.replicate 6 "[]".toList⟩,
          ⟨"textBold".toList, "x.svg)".toList, none,
            List.replicate 6 "                Light ->".toList⟩]⟩ := by
  obtain ⟨text, h⟩ := Option.isSome_iff_exists.1
    (show (moduleText? "p".toList lookalikes "A ".toList).isSome by rfl)
  have hget : ∀ entry expression w, (plain entry expression).expressions.get? w =
      some expression := by
    intro entry expression w
    cases w <;> rfl
  have hlegible : ∀ icon ∈ lookalikes, icon.IsLegible := by
    refine List.forall_mem_cons.2 ⟨⟨by decide, by decide, by decide, fun w e he => ?_⟩,
      List.forall_mem_singleton.2 ⟨by decide, by decide, by decide, fun w e he => ?_⟩⟩
    all_goals
      rw [hget, Option.some.injEq] at he
      subst he
      decide
  exact ⟨text, h, (module?_moduleText? (by decide) hlegible h).1⟩

end Iconsmith.Elm
