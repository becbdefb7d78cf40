import Iconsmith.Proofs.Elm.ModuleReader
import Iconsmith.Proofs.Replacing

set_option autoImplicit false

/-!
# What a header documents

A header lists the names of the icons twice: it exports them line by line, and it documents them on
one line below IconList. The name of the module is put in after the names have been, so on that
line, and only there, it is put into the names as well (`header_eq`). Both lists are read back from
the text (`exported?`, `documented?`). They agree if no name has the word MODULE in it, and
otherwise only if the module is called by this word (`documented?_header`).
-/

namespace Iconsmith.Elm

open Markup

/-! ## Names with the name of the module put in -/

theorem named_eq_self_iff {moduleName t : Text} :
    named moduleName t = t ↔ moduleName = "MODULE".toList ∨ ¬"MODULE".toList <:+: t :=
  Text.replaceAll_eq_self_iff (by decide)

theorem named_append_cons (moduleName : Text) {c : Char} (hc : c ∉ "MODULE".toList) (t u : Text) :
    named moduleName (t ++ c :: u) = named moduleName t ++ c :: named moduleName u :=
  Text.replaceAll_append_cons moduleName hc t u

theorem named_joined (moduleName : Text) (names : List Text) :
    named moduleName (Text.joined [',', ' '] names) =
      Text.joined [',', ' '] (names.map (named moduleName)) :=
  Text.replaceAll_joined moduleName (by decide) (by decide) names

/-- Whether names stay what they are when the name of a module is put in. -/
def Keeps (moduleName : Text) (names : List Text) : Prop :=
  moduleName = "MODULE".toList ∨ ∀ name ∈ names, ¬"MODULE".toList <:+: name

instance (moduleName : Text) (names : List Text) : Decidable (Keeps moduleName names) :=
  inferInstanceAs
    (Decidable (moduleName = "MODULE".toList ∨ ∀ name ∈ names, ¬"MODULE".toList <:+: name))

theorem map_named_eq_iff {moduleName : Text} {names : List Text} :
    names.map (named moduleName) = names ↔ Keeps moduleName names := by
  have hpointwise : names.map (named moduleName) = names ↔
      ∀ name ∈ names, named moduleName name = name := by
    conv_lhs => rhs; rw [← List.map_id names]
    exact List.map_inj_left
  rw [hpointwise]
  constructor
  · intro h
    by_cases hname : moduleName = "MODULE".toList
    · exact Or.inl hname
    · exact Or.inr fun name hmem => (named_eq_self_iff.1 (h name hmem)).resolve_left hname
  · rintro (rfl | h) name hmem
    · exact named_eq_self_iff.2 (Or.inl rfl)
    · exact named_eq_self_iff.2 (Or.inr (h name hmem))

/-- Names that are joined stay what they are when each of them does. -/
theorem joined_map_named_eq_iff {moduleName : Text} {names : List Text} :
    Text.joined [',', ' '] (names.map (named moduleName)) = Text.joined [',', ' '] names ↔
      Keeps moduleName names := by
  constructor
  · intro h
    -- A name with the word in it brings the word into what it is joined to.
    rw [← named_joined, named_eq_self_iff] at h
    refine h.imp_right fun hjoined name hmem hword => ?_
    exact hjoined (hword.trans (Text.infix_joined hmem))
  · intro h
    rw [map_named_eq_iff.2 h]

/-! ## The text of a header -/

/-- The lines of the documentation above the list of the icons. -/
def linesAbove (lines : List Text) : List Text := lines.takeWhile (· ≠ "# IconList".toList)

/-- The text of such lines and of those up to the names. -/
def textAbove (lines : List Text) : Text :=
  Text.joined ['\n'] (linesAbove lines) ++
    '\n' :: ("# IconList\n".toList ++ '\n' :: "@docs ".toList)

/-- Lines that end with the list of the icons, where the word for their names stands for the first
time. -/
def IsDocumentation (lines : List Text) : Prop :=
  Text.joined ['\n'] lines =
      textAbove lines ++ ("ICON_NAMES".toList ++ '\n' :: "\n-\x7d\n".toList) ∧
    ¬"ICON_NAMES".toList <:+: textAbove lines ++ "ICON_NAMES".toList.dropLast

instance (lines : List Text) : Decidable (IsDocumentation lines) :=
  inferInstanceAs (Decidable (_ ∧ _))

theorem exists_lines_documentation : ∃ lines, documentation = Text.joined ['\n'] lines ∧
    lines ≠ [] ∧ (∀ line ∈ lines, '\n' ∉ line) ∧ IsDocumentation lines := by
  rw [documentation, ofLines]
  dsimp only
  apply Exists.intro
  constructor
  · apply congrArg
    repeat apply Text.map_toList_cons
    exact List.map_nil
  · decide +kernel

/-- The lines of the documentation. -/
def docsLines : List Text := Text.fields '\n' documentation

theorem joined_docsLines : Text.joined ['\n'] docsLines = documentation := by
  obtain ⟨lines, hdocs, hne, hlines, -⟩ := exists_lines_documentation
  rw [docsLines, hdocs, Text.fields_joined hne hlines]

theorem isDocumentation_docsLines : IsDocumentation docsLines := by
  obtain ⟨lines, hdocs, hne, hlines, hdocumentation⟩ := exists_lines_documentation
  rwa [docsLines, hdocs, Text.fields_joined hne hlines]

/-- The documentation above the list of the icons. -/
def introduction : Text := Text.joined ['\n'] (linesAbove docsLines)

/-- The line that documents the names of the icons. -/
def docsLine (names : List Text) : Text := "@docs ".toList ++ Text.joined [',', ' '] names

/-- The list of the icons ends the documentation. -/
theorem documentationOf_eq {names : List Text} (hne : names ≠ []) :
    documentationOf names = introduction ++ '\n' :: ("# IconList\n".toList ++
      '\n' :: (docsLine names ++ '\n' :: "\n-\x7d\n".toList)) := by
  obtain ⟨hdocs, hfirst⟩ := isDocumentation_docsLines
  have hlast : ¬"ICON_NAMES".toList <:+: '\n' :: "\n-\x7d\n".toList := by decide
  have hof : documentationOf names =
      Text.replaceAll "ICON_NAMES".toList (Text.joined [',', ' '] names) documentation := by
    obtain ⟨name, more, rfl⟩ := List.exists_cons_of_ne_nil hne
    rfl
  have hline : docsLine names = "@docs ".toList ++ Text.joined [',', ' '] names := rfl
  rw [hof, ← joined_docsLines, hdocs, Text.replaceAll_append_literal _ _ _ (by decide) hfirst,
    Text.replaceAll_of_not_infix _ hlast]
  simp only [hline, textAbove, introduction, List.append_assoc, List.cons_append]

theorem named_docsLine (moduleName : Text) (names : List Text) :
    named moduleName (docsLine names) = docsLine (names.map (named moduleName)) := by
  have hdocs : named moduleName "@docs".toList = "@docs".toList :=
    named_eq_self_iff.2 (Or.inr (by decide))
  have hcut := named_append_cons moduleName (c := ' ') (by decide) "@docs".toList
    (Text.joined [',', ' '] names)
  rwa [hdocs, named_joined] at hcut

/-- The name of the module is put into the names that are documented, and into nothing else below
IconList. -/
theorem named_documentationOf {names : List Text} (hne : names ≠ []) (moduleName : Text) :
    named moduleName (documentationOf names) =
      named moduleName introduction ++ '\n' :: ("# IconList\n".toList ++
        '\n' :: (docsLine (names.map (named moduleName)) ++ '\n' :: "\n-\x7d\n".toList)) := by
  have hheading : named moduleName "# IconList\n".toList = "# IconList\n".toList :=
    named_eq_self_iff.2 (Or.inr (by decide))
  have hend : named moduleName "\n-\x7d\n".toList = "\n-\x7d\n".toList :=
    named_eq_self_iff.2 (Or.inr (by decide))
  rw [documentationOf_eq hne, named_append_cons moduleName (by decide),
    named_append_cons moduleName (by decide), named_append_cons moduleName (by decide), hheading,
    hend, named_docsLine]

/-- A header exports names as they are, and documents them with the name of the module put in. -/
theorem header_eq {names : List Text} (hne : names ≠ []) (moduleName : Text) :
    header names moduleName =
      "module ".toList ++ (moduleName ++ " exposing".toList ++ '\n' :: ("    ( ".toList ++
        Text.joined "\n    , ".toList supportExports ++ (exportsText names ++
          (named moduleName introduction ++ "\n# IconList\n".toList ++ '\n' ::
            (docsLine (names.map (named moduleName)) ++ '\n' :: "\n-\x7d\n\n".toList))))) := by
  have hend : "\n-\x7d\n".toList ++ ['\n'] = "\n-\x7d\n\n".toList := rfl
  have hheading : "\n# IconList\n".toList = '\n' :: "# IconList\n".toList := rfl
  rw [header_eq_append, named_documentationOf hne, ← hend, hheading]
  simp only [List.append_assoc, List.cons_append]

/-! ## Reading both lists back -/

/-- A text that can stand in a list on one line. -/
def IsListable (t : Text) : Prop := '\n' ∉ t ∧ ',' ∉ t

instance : DecidablePred IsListable := fun t => inferInstanceAs (Decidable ('\n' ∉ t ∧ ',' ∉ t))

theorem IsListable.named {moduleName t : Text} (hname : IsListable moduleName)
    (ht : IsListable t) : IsListable (named moduleName t) := by
  have hkept : ∀ {c : Char}, c ∉ moduleName → c ∉ t → c ∉ Elm.named moduleName t := by
    intro c hm ht hmem
    rcases Text.mem_replaceSpans hmem with h | h
    · exact hm h
    · exact ht h
  exact ⟨hkept hname.1 ht.1, hkept hname.2 ht.2⟩

/-- The names on a line that lists them. -/
def listed (line : Text) : List Text :=
  match Text.fields ',' line with
  | [] => []
  | first :: more => first :: more.map (List.drop 1)

theorem listed_joined {names : List Text} (hne : names ≠ []) (h : ∀ name ∈ names, ',' ∉ name) :
    listed (Text.joined [',', ' '] names) = names := by
  obtain ⟨first, more, rfl⟩ := List.exists_cons_of_ne_nil hne
  have hdrop : (List.drop 1 : Text → Text) ∘ ([' '] ++ ·) = id := rfl
  rw [listed, Text.fields_joined_cons (by decide) h]
  dsimp only
  rw [List.map_map, hdrop, List.map_id]

/-- Reads the names that a header documents last. -/
def documented? (t : Text) : Option (List Text) :=
  ((Text.fields '\n' t).reverse.findSome? ("@docs ".toList.isPrefixOf? ·)).map listed

/-- Reads the names that a header exports after those of the supporting part. -/
def exported? (t : Text) : Option (List Text) := do
  let t ← "module ".toList.isPrefixOf? t
  let (_, t) ← Text.cutFirst '\n' t
  let t ← ("    ( ".toList ++ Text.joined "\n    , ".toList supportExports).isPrefixOf? t
  (exports? t.length t).map Prod.fst

theorem documented?_eq {names : List Text} (hne : names ≠ []) (moduleName : Text)
    (h : ∀ name ∈ names.map (named moduleName), IsListable name) :
    documented? (header names moduleName) = some (names.map (named moduleName)) := by
  have hline : '\n' ∉ docsLine (names.map (named moduleName)) := by
    refine List.not_mem_append (by decide) fun hmem => ?_
    rcases Text.mem_joined hmem with hgap | ⟨name, hname, hc⟩
    · exact absurd hgap (by decide)
    · exact (h name hname).1 hc
  have hread : "@docs ".toList.isPrefixOf? (docsLine (names.map (named moduleName))) =
      some (Text.joined [',', ' '] (names.map (named moduleName))) :=
    Text.isPrefixOf?_eq_some.2 rfl
  have hlast : (Text.fields '\n' "\n-\x7d\n\n".toList).reverse.findSome?
      ("@docs ".toList.isPrefixOf? ·) = none := by decide
  have hcut : ∃ before, header names moduleName = before ++ '\n' ::
      (docsLine (names.map (named moduleName)) ++ '\n' :: "\n-\x7d\n\n".toList) := by
    rw [header_eq hne]
    simp only [← List.append_assoc, ← List.cons_append]
    exact ⟨_, rfl⟩
  obtain ⟨before, hcut⟩ := hcut
  have hmap : names.map (named moduleName) ≠ [] := fun hnil => hne (List.map_eq_nil_iff.1 hnil)
  rw [documented?, hcut, Text.fields_append_cons, Text.fields_append_cons,
    Text.fields_of_not_mem hline, List.reverse_append, List.reverse_append,
    List.findSome?_append, List.findSome?_append, hlast, List.reverse_singleton,
    List.findSome?_singleton, hread, Option.none_or, Option.some_or, Option.map_some,
    listed_joined hmap fun name hname => (h name hname).2]

theorem exported?_eq {names : List Text} {moduleName : Text} (hname : '\n' ∉ moduleName)
    (hnames : ∀ name ∈ names, '\n' ∉ name) : exported? (header names moduleName) = some names := by
  have hline : '\n' ∉ moduleName ++ " exposing".toList := List.not_mem_append hname (by decide)
  rw [exported?, header_eq_append]
  simp only [Text.isPrefixOf?_eq_some.2 rfl, Text.cutFirst_eq_some.2 ⟨rfl, hline⟩, bind,
    Option.bind_some, exports?_eq_some.2 ⟨length_lt_length_exportsText names _, hnames, rfl⟩,
    Option.map_some]

/-! ## Agreement -/

/-- A header exports some names as they are, and its last line of documentation lists the same
names, in the same order, with the name of the module put in. So the line is that of the exported
names, and the lists that are read back agree, exactly if putting in the name of the module keeps
all of these names. -/
theorem documented?_header {names : List Text} (hne : names ≠ []) (moduleName : Text) :
    header names moduleName =
        "module ".toList ++ (moduleName ++ " exposing".toList ++ '\n' :: ("    ( ".toList ++
          Text.joined "\n    , ".toList supportExports ++ (exportsText names ++
            (named moduleName introduction ++ "\n# IconList\n".toList ++ '\n' ::
              (docsLine (names.map (named moduleName)) ++ '\n' :: "\n-\x7d\n\n".toList))))) ∧
      (docsLine (names.map (named moduleName)) = docsLine names ↔ Keeps moduleName names) ∧
      ((∀ name ∈ names, IsListable name) → IsListable moduleName →
        exported? (header names moduleName) = some names ∧
        documented? (header names moduleName) = some (names.map (named moduleName)) ∧
        (documented? (header names moduleName) = exported? (header names moduleName) ↔
          Keeps moduleName names)) := by
  refine ⟨header_eq hne moduleName, ?_, ?_⟩
  · exact (List.append_right_inj "@docs ".toList).trans joined_map_named_eq_iff
  · intro hnames hname
    have hexported := exported?_eq hname.1 fun name hmem => (hnames name hmem).1
    have hdocumented : documented? (header names moduleName) =
        some (names.map (named moduleName)) := by
      refine documented?_eq hne moduleName fun name hmem => ?_
      obtain ⟨inner, hinner, rfl⟩ := List.mem_map.1 hmem
      exact hname.named (hnames inner hinner)
    refine ⟨hexported, hdocumented, ?_⟩
    rw [hexported, hdocumented, Option.some_inj, map_named_eq_iff]

/-- The header of a module with an icon that has another name. -/
theorem documented?_header_aliased :
    documented? (header ["arrowUp".toList, "fileText".toList, "fileDoc".toList]
        "Phosphor".toList) =
      some ["arrowUp".toList, "fileText".toList, "fileDoc".toList] ∧
    exported? (header ["arrowUp".toList, "fileText".toList, "fileDoc".toList]
        "Phosphor".toList) =
      some ["arrowUp".toList, "fileText".toList, "fileDoc".toList] := by
  obtain ⟨-, -, hread⟩ := @documented?_header
    ["arrowUp".toList, "fileText".toList, "fileDoc".toList] (List.cons_ne_nil _ _)
    "Phosphor".toList
  obtain ⟨hexported, -, hagree⟩ := hread (by decide) (by decide)
  exact ⟨(hagree.2 (by decide)).trans hexported, hexported⟩

/-- A name with the word for the name of the module in it is exported, and another one is
documented. -/
theorem not_forall_documented?_header :
    ¬∀ (names : List Text) (moduleName : Text), names ≠ [] →
      documented? (header names moduleName) = some names := by
  intro h
  have hlisted := h ["xMODULE".toList] "Phosphor".toList (List.cons_ne_nil _ _)
  have hdocumented := @documented?_eq ["xMODULE".toList] (List.cons_ne_nil _ _)
    "Phosphor".toList (by decide)
  rw [hdocumented] at hlisted
  exact absurd hlisted (by decide)

end Iconsmith.Elm
