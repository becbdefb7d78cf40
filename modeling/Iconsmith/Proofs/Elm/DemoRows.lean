import Iconsmith.Elm.Demo
import Iconsmith.Proofs.Disk.Following
import Iconsmith.Proofs.Elm.Determination
import Iconsmith.Proofs.Exits
import Iconsmith.Proofs.Generation.Accounting
import Iconsmith.Proofs.Replacing

set_option autoImplicit false

/-!
# Rows of the demo page

The words of the page are replaced one after another, but what is put in for one is not taken for
a later one, as long as the name of the module has no underscore. So the page has always the same
lines, in which the module is imported and one row stands for each icon, with a cell for each
weight (`demoPage_eq`). The rows stand in the order in which the module defines the icons
(`rows_demoPage`).
-/

namespace Iconsmith.Elm

/-! ## Replacing words -/

/-- A text in which words are replaced one after another. -/
def filled (parts : List (Text × Text)) (t : Text) : Text :=
  parts.foldl (fun t part => Text.replaceAll part.1 part.2 t) t

theorem filled_nil (t : Text) : filled [] t = t := rfl

theorem filled_cons (part : Text × Text) (parts : List (Text × Text)) (t : Text) :
    filled (part :: parts) t = filled parts (Text.replaceAll part.1 part.2 t) := rfl

theorem filled_append (parts more : List (Text × Text)) (t : Text) :
    filled (parts ++ more) t = filled more (filled parts t) := List.foldl_append

/-- A text in which none of the words occurs is kept. -/
theorem filled_of_forall {parts : List (Text × Text)} {t : Text}
    (h : ∀ part ∈ parts, ¬part.1 <:+: t) : filled parts t = t := by
  induction parts with
  | nil => rfl
  | cons part parts ih =>
      obtain ⟨hpart, hparts⟩ := List.forall_mem_cons.1 h
      rw [filled_cons, Text.replaceAll_of_not_infix part.2 hpart, ih hparts]

/-- Words are replaced on both sides of a character that none of them has. -/
theorem filled_append_cons {parts : List (Text × Text)} {c : Char}
    (h : ∀ part ∈ parts, c ∉ part.1) (t u : Text) :
    filled parts (t ++ c :: u) = filled parts t ++ c :: filled parts u := by
  induction parts generalizing t u with
  | nil => rfl
  | cons part parts ih =>
      obtain ⟨hpart, hparts⟩ := List.forall_mem_cons.1 h
      rw [filled_cons, Text.replaceAll_append_cons part.2 hpart, ih hparts]
      rfl

/-- Words are replaced in each line, which may become several. -/
theorem filled_ended_append {parts : List (Text × Text)} (h : ∀ part ∈ parts, '\n' ∉ part.1)
    (lines : List Text) (t : Text) :
    filled parts (Text.ended lines ++ t) =
      Text.ended (lines.flatMap fun line => Text.fields '\n' (filled parts line)) ++
        filled parts t := by
  induction lines with
  | nil => rfl
  | cons line lines ih =>
      have hsplit : Text.ended (line :: lines) ++ t = line ++ '\n' :: (Text.ended lines ++ t) := by
        simp [Text.ended]
      rw [hsplit, filled_append_cons h, ih, List.flatMap_cons, Text.ended_append,
        Text.ended_fields]
      simp

/-! ## Rows -/

/-- The line that opens a row. -/
def rowOpening : Text := "        , div [ class \"row\" ]".toList

/-- The line that closes a row. -/
def rowClosing : Text := "            ]".toList

/-- The cells that show an icon: in the weight selected, and in each of the six. -/
def cells (moduleName name : Text) : List Text :=
  cell moduleName name "model.weight".toList ::
    Weight.all.map fun weight => cell moduleName name weight.label

/-- Every cell refers to the icon by its name in the module, and gives it a weight. -/
theorem cells_eq (moduleName name : Text) :
    cells moduleName name =
      [moduleName ++ '.' :: name ++ " model.weight |> toHtml []".toList,
        moduleName ++ '.' :: name ++ " Thin |> toHtml []".toList,
        moduleName ++ '.' :: name ++ " Light |> toHtml []".toList,
        moduleName ++ '.' :: name ++ " Regular |> toHtml []".toList,
        moduleName ++ '.' :: name ++ " Bold |> toHtml []".toList,
        moduleName ++ '.' :: name ++ " Fill |> toHtml []".toList,
        moduleName ++ '.' :: name ++ " Duotone |> toHtml []".toList] := by
  simp only [cells, cell, Weight.all, List.map_cons, List.map_nil, List.append_assoc]
  rfl

/-- What stands before the first cell. -/
def firstMark : Text := "            [ ".toList

/-- What stands before any other cell. -/
def otherMark : Text := "            , ".toList

/-- The lines of some cells. -/
def cellLines : List Text → List Text
  | [] => []
  | first :: others => (firstMark ++ first) :: others.map (otherMark ++ ·)

/-- The lines of the row of an icon. -/
def rowLines (moduleName name : Text) : List Text :=
  rowOpening :: (cellLines (cells moduleName name) ++ [rowClosing])

theorem ended_cellLines (moduleName name : Text) :
    firstMark ++ Text.joined "\n            , ".toList (cells moduleName name) ++ ['\n'] =
      Text.ended (cellLines (cells moduleName name)) := by
  have hgap : "\n            , ".toList = '\n' :: otherMark := by decide
  rw [hgap, cells, List.append_assoc, Text.joined_lineFeed, cellLines]
  simp only [Text.ended, List.flatMap_cons, List.append_assoc]

theorem row_eq (moduleName name : Text) :
    row moduleName name ++ ['\n'] = Text.ended (rowLines moduleName name) := by
  have hrow : row moduleName name = "        , div [ class \"row\" ]\n            [ ".toList ++
      Text.joined "\n            , ".toList (cells moduleName name) ++ "\n            ]".toList :=
    rfl
  have hopening : "        , div [ class \"row\" ]\n            [ ".toList =
      rowOpening ++ ['\n'] ++ firstMark := by decide
  have hclosing : "\n            ]".toList = ['\n'] ++ rowClosing := by decide
  have hlines : Text.ended (rowLines moduleName name) = rowOpening ++ ['\n'] ++
      (Text.ended (cellLines (cells moduleName name)) ++ (rowClosing ++ ['\n'])) := by
    simp only [rowLines, Text.ended, List.flatMap_cons, List.flatMap_append, List.flatMap_nil,
      List.append_nil]
  rw [hlines, ← ended_cellLines, hrow, hopening, hclosing]
  simp only [List.append_assoc]

theorem rows_eq (moduleName : Text) (names : List Text) :
    rows moduleName names = Text.ended (names.flatMap (rowLines moduleName)) := by
  have hrows : Text.ended (names.map (row moduleName)) =
      Text.ended (names.flatMap (rowLines moduleName)) := by
    simp only [Text.ended, List.flatMap_map, List.flatMap_assoc]
    exact congrArg (fun f => names.flatMap f) (funext fun name => row_eq moduleName name)
  cases names with
  | nil => rfl
  | cons name names =>
      have hjoined := Text.joined_lineFeed [] (row moduleName name) (names.map (row moduleName))
      rw [show (names.map (row moduleName)).map ([] ++ ·) = names.map (row moduleName) from
        List.map_id' _] at hjoined
      exact hjoined.trans hrows

/-! ## Reading rows -/

/-- Reads rows from lines. The cells of a row are on the lines between that which opens it and
that which closes it, after a mark. -/
def rowsIn : List Text → List (List Text)
  | [] => []
  | line :: lines =>
      if line = rowOpening then
        (lines.takeWhile (· ≠ rowClosing)).map (List.drop firstMark.length) :: rowsIn lines
      else rowsIn lines

/-- The rows that a page shows, each with its cells. -/
def shownRows (page : Text) : List (List Text) := rowsIn (Text.fields '\n' page)

theorem rowsIn_append {lines : List Text} (h : rowOpening ∉ lines) (more : List Text) :
    rowsIn (lines ++ more) = rowsIn more := by
  induction lines with
  | nil => rfl
  | cons line lines ih =>
      rw [List.mem_cons, not_or] at h
      rw [List.cons_append, rowsIn, if_neg (Ne.symm h.1), ih h.2]

theorem exists_of_mem_cellLines {texts : List Text} {line : Text} (h : line ∈ cellLines texts) :
    ∃ mark ∈ [firstMark, otherMark], ∃ text ∈ texts, line = mark ++ text := by
  cases texts with
  | nil => cases h
  | cons first others =>
      rcases List.mem_cons.1 h with rfl | h
      · exact ⟨firstMark, List.mem_cons_self, first, List.mem_cons_self, rfl⟩
      · obtain ⟨other, hother, rfl⟩ := List.mem_map.1 h
        exact ⟨otherMark, List.mem_cons_of_mem _ List.mem_cons_self, other,
          List.mem_cons_of_mem first hother, rfl⟩

/-- The line of a cell neither opens nor closes a row. -/
theorem ne_of_mem_cellLines {texts : List Text} {line : Text} (h : line ∈ cellLines texts) :
    line ≠ rowOpening ∧ line ≠ rowClosing := by
  have hmarks : ∀ mark ∈ [firstMark, otherMark],
      ¬mark <+: rowOpening ∧ ¬mark <+: rowClosing := by decide
  obtain ⟨mark, hmark, text, -, rfl⟩ := exists_of_mem_cellLines h
  obtain ⟨hopening, hclosing⟩ := hmarks mark hmark
  exact ⟨fun heq => hopening ⟨text, heq⟩, fun heq => hclosing ⟨text, heq⟩⟩

theorem map_drop_cellLines (texts : List Text) :
    (cellLines texts).map (List.drop firstMark.length) = texts := by
  have hlength : firstMark.length = otherMark.length := by decide
  cases texts with
  | nil => rfl
  | cons first others =>
      have hothers : (others.map (otherMark ++ ·)).map (List.drop firstMark.length) = others := by
        rw [List.map_map, hlength]
        exact (List.map_congr_left fun other _ => List.drop_left).trans (List.map_id others)
      rw [cellLines, List.map_cons, List.drop_left, hothers]

/-- A row is read as its cells, and then the rows after it. -/
theorem rowsIn_rowLines (moduleName name : Text) (more : List Text) :
    rowsIn (rowLines moduleName name ++ more) = cells moduleName name :: rowsIn more := by
  have hcells : ∀ line ∈ cellLines (cells moduleName name), decide (line ≠ rowClosing) = true :=
    fun line hline => decide_eq_true (ne_of_mem_cellLines hline).2
  have hnone : rowOpening ∉ cellLines (cells moduleName name) ++ [rowClosing] := by
    refine List.not_mem_append (fun hmem => (ne_of_mem_cellLines hmem).1 rfl) ?_
    decide
  have htake : (cellLines (cells moduleName name) ++ [rowClosing] ++ more).takeWhile
      (· ≠ rowClosing) = cellLines (cells moduleName name) := by
    rw [List.append_assoc, List.takeWhile_append_of_pos hcells]
    simp
  rw [rowLines, List.cons_append, rowsIn, if_pos rfl, htake, map_drop_cellLines,
    rowsIn_append hnone]

theorem rowsIn_flatMap_rowLines (moduleName : Text) (names more : List Text) :
    rowsIn (names.flatMap (rowLines moduleName) ++ more) =
      names.map (cells moduleName) ++ rowsIn more := by
  induction names with
  | nil => rfl
  | cons name names ih =>
      rw [List.flatMap_cons, List.append_assoc, rowsIn_rowLines, ih, List.map_cons,
        List.cons_append]

/-! ## The lines of the page -/

/-- The words of the page. -/
def pageWords : List Text := (pageParts [] []).map Prod.fst

/-- The words of the page with texts that are always the same. -/
def fixedParts : List (Text × Text) := (pageParts [] []).tail.dropLast

theorem pageParts_eq (names : List Text) (moduleName : Text) :
    pageParts names moduleName = ("MODULE".toList, moduleName) ::
      (fixedParts ++ [("ICON_ROWS\n".toList, rows moduleName names)]) := rfl

/-- The rest of the line that imports the module, after the name. -/
def importRest : Text := "exposing (IconWeight(..), toHtml)".toList

/-- The line that imports the module. -/
def importLine (moduleName : Text) : Text :=
  "import".toList ++ ' ' :: (moduleName ++ ' ' :: importRest)

/-- The lines of a template before that one. -/
def linesBefore (lines : List Text) : List Text := lines.take 6

/-- The lines of a template between that one and the rows. -/
def linesBetween (lines : List Text) : List Text := (lines.drop 7).dropLast.dropLast.dropLast

/-- Lines in which the words are replaced that have always the same texts. These have an
underscore. -/
def filledLines (lines : List Text) : List Text :=
  lines.flatMap fun line =>
    if '_' ∈ line then Text.fields '\n' (filled fixedParts line) else [line]

/-- The line after the rows, without its first space. -/
def afterRest : Text := "       ]".toList

/-- Lines in which the words of the page stand where they should, and only there. -/
def IsTemplate (lines : List Text) : Prop :=
  lines = linesBefore lines ++ importLine "MODULE".toList ::
    (linesBetween lines ++ ["ICON_ROWS".toList] ++ [' ' :: afterRest]) ++ [[]] ∧
  (∀ word ∈ pageWords, ¬word <:+: Text.ended (linesBefore lines) ++ "import".toList) ∧
  ¬"MODULE".toList <:+:
    Text.ended (importRest :: linesBetween lines) ++ "ICON_ROWS\n".toList ∧
  ¬"ICON_ROWS\n".toList <:+: Text.ended (importRest :: filledLines (linesBetween lines)) ++
    "ICON_ROWS\n".toList.dropLast ∧
  rowOpening ∉ linesBefore lines ++ filledLines (linesBetween lines)

instance (lines : List Text) : Decidable (IsTemplate lines) := inferInstanceAs (Decidable (_ ∧ _))

/-- The lines of the page, with words. -/
def template : List Text := Text.fields '\n' page

theorem exists_lines_page : ∃ lines, page = Text.joined ['\n'] lines ∧
    lines ≠ [] ∧ (∀ line ∈ lines, '\n' ∉ line) ∧ IsTemplate lines := by
  rw [page, ofLines]
  dsimp only
  -- Literals become lists of characters by a lemma, as they are slow to evaluate.
  apply Exists.intro
  constructor
  · apply congrArg
    repeat apply Text.map_toList_cons
    exact List.map_nil
  · decide +kernel

theorem isTemplate_template : IsTemplate template := by
  obtain ⟨lines, hpage, hne, hlines, htemplate⟩ := exists_lines_page
  rwa [template, hpage, Text.fields_joined hne hlines]

theorem lineFeed_not_mem_of_mem_linesBetween : ∀ line ∈ linesBetween template, '\n' ∉ line := by
  intro line hline
  have hdropped := List.mem_of_mem_dropLast
    (List.mem_of_mem_dropLast (List.mem_of_mem_dropLast hline))
  exact Text.not_mem_of_mem_fields (List.mem_of_mem_drop hdropped)

theorem underscore_mem_of_mem_fixedParts : ∀ part ∈ fixedParts, '_' ∈ part.1 := by decide

/-- Lines without an underscore are kept. -/
theorem filledLines_eq {lines : List Text} (h : ∀ line ∈ lines, '\n' ∉ line) :
    filledLines lines = lines.flatMap fun line => Text.fields '\n' (filled fixedParts line) := by
  refine List.flatMap_congr fun line hline => ?_
  by_cases hscore : '_' ∈ line
  · rw [if_pos hscore]
  · have hkept : filled fixedParts line = line := filled_of_forall fun part hpart hwithin =>
      hscore (hwithin.subset (underscore_mem_of_mem_fixedParts part hpart))
    rw [if_neg hscore, hkept, Text.fields_of_not_mem (h line hline)]

section Parts

variable {names : List Text} {moduleName : Text}

theorem fst_mem_pageWords {part : Text × Text} (h : part ∈ pageParts names moduleName) :
    part.1 ∈ pageWords :=
  show part.1 ∈ (pageParts names moduleName).map Prod.fst from List.mem_map_of_mem h

/-- The name of a module is put in and kept: every other word has an underscore. -/
theorem filled_module (h : '_' ∉ moduleName) :
    filled (pageParts names moduleName) "MODULE".toList = moduleName := by
  have hput : Text.replaceAll "MODULE".toList moduleName ([] ++ ("MODULE".toList ++ [])) =
      [] ++ (moduleName ++ []) :=
    Text.replaceAll_append_literal moduleName [] [] (by decide) (by decide)
  rw [List.nil_append, List.nil_append, List.append_nil, List.append_nil] at hput
  have hrows : '_' ∈ "ICON_ROWS\n".toList := by decide
  rw [pageParts_eq, filled_cons, hput]
  refine filled_of_forall fun part hpart hwithin => h (hwithin.subset ?_)
  rcases List.mem_append.1 hpart with hpart | hpart
  · exact underscore_mem_of_mem_fixedParts part hpart
  · rw [List.mem_singleton.1 hpart]
    exact hrows

/-- What stands before the name of the module is kept. -/
theorem filled_before :
    filled (pageParts names moduleName) (Text.ended (linesBefore template) ++ "import".toList) =
      Text.ended (linesBefore template) ++ "import".toList := by
  obtain ⟨-, hkept, -⟩ := isTemplate_template
  exact filled_of_forall fun part hpart => hkept _ (fst_mem_pageWords hpart)

/-- The rows are put in last, after all the lines before them. -/
theorem filled_between :
    filled (pageParts names moduleName)
        (Text.ended (importRest :: linesBetween template) ++ "ICON_ROWS\n".toList) =
      Text.ended (importRest :: filledLines (linesBetween template)) ++ rows moduleName names := by
  obtain ⟨-, -, hmodule, hrows, -⟩ := isTemplate_template
  have hlines : ∀ part ∈ fixedParts, '\n' ∉ part.1 := by decide
  have hunbroken : ∀ line ∈ importRest :: linesBetween template, '\n' ∉ line :=
    List.forall_mem_cons.2 ⟨by decide, lineFeed_not_mem_of_mem_linesBetween⟩
  have hfilled : filledLines (importRest :: linesBetween template) =
      importRest :: filledLines (linesBetween template) := by
    rw [filledLines, filledLines, List.flatMap_cons, if_neg (by decide), List.singleton_append]
  have hword : filled fixedParts "ICON_ROWS\n".toList = "ICON_ROWS\n".toList ++ [] := by decide
  have hlast := Text.replaceAll_append_literal (rows moduleName names) _ [] (by decide) hrows
  rw [pageParts_eq, filled_cons, Text.replaceAll_of_not_infix moduleName hmodule, filled_append,
    filled_ended_append hlines, hword, ← filledLines_eq hunbroken, hfilled, filled_cons, filled_nil,
    hlast]
  exact congrArg _ (List.append_nil _)

theorem filled_after : filled (pageParts names moduleName) (afterRest ++ ['\n']) =
    afterRest ++ ['\n'] := by
  have hkept : ∀ word ∈ pageWords, ¬word <:+: afterRest ++ ['\n'] := by decide
  exact filled_of_forall fun part hpart => hkept _ (fst_mem_pageWords hpart)

end Parts

/-! ## The page -/

theorem ended_page (first more : List Text) (opening name rest last : Text) :
    Text.ended (first ++ (opening ++ ' ' :: (name ++ ' ' :: rest)) :: (more ++ [' ' :: last])) =
      Text.ended first ++ opening ++ ' ' :: (name ++ ' ' ::
        (Text.ended (rest :: more) ++ ' ' :: (last ++ ['\n']))) := by
  simp only [Text.ended, List.flatMap_append, List.flatMap_cons, List.flatMap_nil,
    List.append_assoc, List.cons_append, List.append_nil]

theorem page_eq : page = Text.ended (linesBefore template) ++ "import".toList ++ ' ' ::
    ("MODULE".toList ++ ' ' :: (Text.ended (importRest :: linesBetween template) ++
      "ICON_ROWS\n".toList ++ ' ' :: (afterRest ++ ['\n']))) := by
  have hword : Text.ended ["ICON_ROWS".toList] = "ICON_ROWS\n".toList := by decide
  have hmore := Text.ended_append (importRest :: linesBetween template) ["ICON_ROWS".toList]
  rw [List.cons_append, hword] at hmore
  have hlines := (Text.ended_fields page).symm.trans (congrArg Text.ended isTemplate_template.1)
  rw [Text.ended_append] at hlines
  rw [List.append_cancel_right hlines, ← hmore]
  exact ended_page _ _ _ _ _ _

/-- The lines of the page: always the same, beside that which imports the module and the rows. -/
def pageLines (names : List Text) (moduleName : Text) : List Text :=
  linesBefore template ++ importLine moduleName ::
    (filledLines (linesBetween template) ++ names.flatMap (rowLines moduleName) ++
      [' ' :: afterRest])

theorem demoPage_eq {moduleName : Text} (h : '_' ∉ moduleName) (names : List Text) :
    demoPage names moduleName = Text.ended (pageLines names moduleName) := by
  have hspace : ∀ part ∈ pageParts names moduleName, ' ' ∉ part.1 := by
    have hall : ∀ word ∈ pageWords, ' ' ∉ word := by decide
    exact fun part hpart => hall _ (fst_mem_pageWords hpart)
  have hfilled : demoPage names moduleName = filled (pageParts names moduleName) page := rfl
  have hmore := Text.ended_append (importRest :: filledLines (linesBetween template))
    (names.flatMap (rowLines moduleName))
  rw [List.cons_append] at hmore
  rw [hfilled, page_eq, filled_append_cons hspace, filled_append_cons hspace,
    filled_append_cons hspace, filled_before, filled_module h, filled_between, filled_after,
    rows_eq, ← hmore]
  exact (ended_page _ _ _ _ _ _).symm

section Unbroken

variable {moduleName name : Text} (hmodule : '\n' ∉ moduleName)

include hmodule

theorem lineFeed_not_mem_of_mem_cells (hname : '\n' ∉ name) :
    ∀ text ∈ cells moduleName name, '\n' ∉ text := by
  have hcell : ∀ weight, '\n' ∉ weight → '\n' ∉ cell moduleName name weight := by
    have hrest : '\n' ∉ " |> toHtml []".toList := by decide
    intro weight hweight
    have hdotted : '\n' ∉ '.' :: name := List.not_mem_cons_of_ne_of_not_mem (by decide) hname
    have hspaced : '\n' ∉ ' ' :: weight := List.not_mem_cons_of_ne_of_not_mem (by decide) hweight
    exact List.not_mem_append (List.not_mem_append (List.not_mem_append hmodule hdotted) hspaced)
      hrest
  intro text htext
  rcases List.mem_cons.1 htext with rfl | htext
  · exact hcell _ (by decide)
  · obtain ⟨weight, -, rfl⟩ := List.mem_map.1 htext
    exact hcell _ (by cases weight <;> decide)

theorem lineFeed_not_mem_of_mem_rowLines (hname : '\n' ∉ name) :
    ∀ line ∈ rowLines moduleName name, '\n' ∉ line := by
  have hmarks : ∀ mark ∈ [firstMark, otherMark], '\n' ∉ mark := by decide
  intro line hline
  rcases List.mem_cons.1 hline with rfl | hline
  · decide
  · rcases List.mem_append.1 hline with hline | hline
    · obtain ⟨mark, hmark, text, htext, rfl⟩ := exists_of_mem_cellLines hline
      exact List.not_mem_append (hmarks mark hmark)
        (lineFeed_not_mem_of_mem_cells hmodule hname text htext)
    · rw [List.mem_singleton.1 hline]
      decide

theorem lineFeed_not_mem_importLine : '\n' ∉ importLine moduleName := by
  have hends : '\n' ∉ "import".toList ∧ '\n' ∉ ' ' :: importRest := by decide
  exact List.not_mem_append hends.1
    (List.not_mem_cons_of_ne_of_not_mem (by decide) (List.not_mem_append hmodule hends.2))

/-- No line of the page breaks, if the names do not. -/
theorem lineFeed_not_mem_of_mem_pageLines {names : List Text}
    (hnames : ∀ name ∈ names, '\n' ∉ name) :
    ∀ line ∈ pageLines names moduleName, '\n' ∉ line := by
  intro line hline
  rcases List.mem_append.1 hline with hline | hline
  · -- The lines of the template are fields between line feeds.
    exact Text.not_mem_of_mem_fields (List.mem_of_mem_take hline)
  · rcases List.mem_cons.1 hline with rfl | hline
    · exact lineFeed_not_mem_importLine hmodule
    · rcases List.mem_append.1 hline with hline | hline
      · rcases List.mem_append.1 hline with hline | hline
        · rw [filledLines_eq lineFeed_not_mem_of_mem_linesBetween] at hline
          obtain ⟨other, -, hline⟩ := List.mem_flatMap.1 hline
          exact Text.not_mem_of_mem_fields hline
        · obtain ⟨name, hmem, hline⟩ := List.mem_flatMap.1 hline
          exact lineFeed_not_mem_of_mem_rowLines hmodule (hnames name hmem) line hline
      · rw [List.mem_singleton.1 hline]
        decide

end Unbroken

/-- The rows of the page are those of the names. -/
theorem rowsIn_pageLines (names : List Text) (moduleName : Text) :
    rowsIn (pageLines names moduleName ++ [[]]) = names.map (cells moduleName) := by
  obtain ⟨-, -, -, -, hopening⟩ := isTemplate_template
  rw [List.mem_append, not_or] at hopening
  have himport : rowOpening ∉ [importLine moduleName] := by
    have hleads : ¬"import".toList <+: rowOpening := by decide
    exact fun hmem => hleads ⟨_, (List.mem_singleton.1 hmem).symm⟩
  have hafter : rowsIn ([' ' :: afterRest] ++ [[]]) = [] := by decide
  rw [pageLines, List.append_assoc, rowsIn_append hopening.1, ← List.singleton_append,
    List.append_assoc, rowsIn_append himport, List.append_assoc, List.append_assoc,
    rowsIn_append hopening.2, rowsIn_flatMap_rowLines, hafter, List.append_nil]

/-- For whatever is generated from a catalog, and any name for the module without an underscore,
the page has always the same lines, beside that which imports the module and the rows. There is
one row for each icon, in the order in which the module defines them, and every cell refers to a
name that the module exports and defines. -/
theorem rows_demoPage {catalog : List Entry} {icons : Assets.IconTable} {limit : Option Int}
    {batch : Generation.Batch} (previews : Text) {moduleName : Text}
    (hbatch : (Generation.generate catalog icons limit).result = .ok batch)
    (hnames : ∀ name ∈ batch.names, '\n' ∉ name) (hname : '\n' ∉ moduleName)
    (hscore : '_' ∉ moduleName) :
    Text.fields '\n' (demoPage batch.names moduleName) =
      pageLines batch.names moduleName ++ [[]] ∧
    shownRows (demoPage batch.names moduleName) =
      (batch.names.map fun name =>
        [moduleName ++ '.' :: name ++ " model.weight |> toHtml []".toList,
          moduleName ++ '.' :: name ++ " Thin |> toHtml []".toList,
          moduleName ++ '.' :: name ++ " Light |> toHtml []".toList,
          moduleName ++ '.' :: name ++ " Regular |> toHtml []".toList,
          moduleName ++ '.' :: name ++ " Bold |> toHtml []".toList,
          moduleName ++ '.' :: name ++ " Fill |> toHtml []".toList,
          moduleName ++ '.' :: name ++ " Duotone |> toHtml []".toList]) ∧
    ∃ contents : Contents,
      moduleText? previews batch.icons moduleName = some (contents.text previews) ∧
      contents.name = moduleName ∧ contents.icons.map Shown.camel = batch.names ∧
      ∀ name ∈ batch.names, name ∈ contents.exports ∧
        name ∈ (contents.icons.flatMap Shown.blocks).map Block.name := by
  have hlines : Text.fields '\n' (demoPage batch.names moduleName) =
      pageLines batch.names moduleName ++ [[]] := by
    have hsplit :=
      Text.fields_ended_append (lineFeed_not_mem_of_mem_pageLines hname hnames) []
    rwa [List.append_nil, ← demoPage_eq hscore] at hsplit
  have hrows : shownRows (demoPage batch.names moduleName) = batch.names.map (cells moduleName) :=
    (congrArg rowsIn hlines).trans (rowsIn_pageLines _ _)
  refine ⟨hlines, hrows.trans (List.map_congr_left fun name _ => cells_eq moduleName name), ?_⟩
  obtain ⟨text, htext⟩ := Option.ne_none_iff_exists'.1
    (Generation.moduleText?_of_generateEach hbatch previews moduleName)
  obtain ⟨-, rfl⟩ := moduleText?_eq_some.1 htext
  refine ⟨_, htext, rfl, ?_, fun name hmem => ?_⟩
  · rw [List.map_map]
    rfl
  · obtain ⟨icon, hicon, rfl⟩ := List.mem_map.1 hmem
    refine ⟨List.mem_flatMap.2 ⟨icon, hicon, ?_⟩, ?_⟩
    · rw [Generated.exportedNames, Entry.exportedNames]
      split <;> exact List.mem_cons_self
    · have hblock : Block.icon icon.entry.camel icon.entry.slug icon.shown.expressions ∈
          icon.shown.blocks := List.mem_cons_self
      exact List.mem_map.2
        ⟨_, List.mem_flatMap.2 ⟨icon.shown, List.mem_map_of_mem hicon, hblock⟩, rfl⟩

/-- Two of three entries become icons, and the page of a module that is called as one of the words
of the page shows both. -/
theorem rows_demoPage_three : ∃ batch,
    (Generation.generate Generation.threeEntries Generation.twoRecords none).result = .ok batch ∧
      shownRows (demoPage batch.names "MODULE".toList) =
        [["MODULE.a model.weight |> toHtml []".toList, "MODULE.a Thin |> toHtml []".toList,
            "MODULE.a Light |> toHtml []".toList, "MODULE.a Regular |> toHtml []".toList,
            "MODULE.a Bold |> toHtml []".toList, "MODULE.a Fill |> toHtml []".toList,
            "MODULE.a Duotone |> toHtml []".toList],
          ["MODULE.c model.weight |> toHtml []".toList, "MODULE.c Thin |> toHtml []".toList,
            "MODULE.c Light |> toHtml []".toList, "MODULE.c Regular |> toHtml []".toList,
            "MODULE.c Bold |> toHtml []".toList, "MODULE.c Fill |> toHtml []".toList,
            "MODULE.c Duotone |> toHtml []".toList]] := by
  obtain ⟨batch, hbatch, hnames⟩ : ∃ batch : Generation.Batch,
      (Generation.generate Generation.threeEntries Generation.twoRecords none).result = .ok batch ∧
        batch.names = ["a".toList, "c".toList] := ⟨_, rfl, rfl⟩
  have hbreaks : ∀ name ∈ batch.names, '\n' ∉ name := by
    rw [hnames]
    decide
  obtain ⟨-, hrows, -⟩ := rows_demoPage "p".toList hbatch hbreaks
    (show '\n' ∉ "MODULE".toList by decide) (by decide)
  refine ⟨batch, hbatch, hrows.trans ?_⟩
  rw [hnames]
  rfl

end Iconsmith.Elm
