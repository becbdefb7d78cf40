import Iconsmith.Program
import Iconsmith.Proofs.Generation
import Iconsmith.Proofs.Output.Writing

set_option autoImplicit false

/-!
# What the program leaves behind

When the program succeeds on a catalog and a tree of weight folders, the module and the demo
page are those of exactly the entries that have all six drawings, and the lines on the
standard output tell of these in the order of the catalog (`files_of_main`).
-/

namespace Iconsmith

open Disk Disk.Tree

/-! ## Parts of a run -/

namespace Run

/-- The line that tells that the sources were refreshed. -/
def refreshedLine (colour : Bool) : Text :=
  Report.painted colour .green ['✓'] ++ ' ' :: "Updated submodule @phosphor-icons/core".toList ++
    ['\n']

/-- A refresh that is not skipped is told in one line. -/
theorem textOn_refresh (colour : Bool) (threshold : Nat) {ending : Submodule.Ending} {skip : Bool}
    {u : Unit} (h : (refresh ending skip).result = .ok u) :
    Report.textOn .output colour threshold (refresh ending skip).events =
      if skip then [] else refreshedLine colour := by
  cases skip with
  | true => rfl
  | false =>
      cases hfault : ending.fault? with
      | some fault =>
          rw [refresh, hfault] at h
          cases h
      | none =>
          rw [refresh, hfault]
          simp [Outcome.report, Report.textOn, Report.Event.lines, refreshedLine]

/-- Notes on assets are nothing on the standard output. -/
theorem textOn_notes (colour : Bool) (threshold : Nat) (notes : List Assets.Note) :
    Report.textOn .output colour threshold
      (notes.map fun note => Report.Event.log note.record) = [] := by
  refine Report.textOn_output_of_isAside colour threshold fun e he => ?_
  obtain ⟨note, -, rfl⟩ := List.mem_map.1 he
  rfl

/-- A catalog that can be loaded is loaded without events. -/
theorem loadCatalog_of_load {tree : Tree} {standard : Path} {asked : Option Text} {path : Path}
    {entries : List Entry} (hpath : catalogPath tree standard asked = .ok (some path))
    (hentries : Catalog.load tree path.text = .ok entries) :
    loadCatalog tree standard asked = .of (.ok (some entries)) := by
  simp only [loadCatalog, hpath, hentries]
  rfl

/-- Everything before the writing, when there is a catalog: the assets are loaded for its
entries, and icons are generated from what was loaded. -/
theorem exists_of_prepare {s : Settings} {ending : Submodule.Ending}
    {args : CommandLine.Arguments} {tree : Tree} {batch : Generation.Batch}
    {outs : List Output} {path : Path} {entries : List Entry}
    (h : (prepare s ending args tree).result = .ok (batch, outs))
    (hpath : catalogPath tree s.catalog args.catalog = .ok (some path))
    (hentries : Catalog.load tree path.text = .ok entries) (colour : Bool) (threshold : Nat) :
    ∃ icons, (Assets.loadAsked tree args.assets (some entries) args.layout).result = .ok icons ∧
      (Generation.generate entries icons args.limit).result = .ok batch ∧
      outputs s.previews args batch = .ok outs ∧
      Report.textOn .output colour threshold (prepare s ending args tree).events =
        (if args.skipSubmodule then [] else refreshedLine colour) ++
          Generation.printed colour threshold
            (Generation.generate entries icons args.limit).events := by
  have hcatalog := loadCatalog_of_load hpath hentries
  obtain ⟨u, hrefresh, h⟩ := Outcome.exists_of_bind_eq_ok h
  obtain ⟨catalog, hloaded, h⟩ := Outcome.exists_of_bind_eq_ok h
  have hsame := hloaded
  rw [hcatalog] at hsame
  obtain rfl : some entries = catalog := Except.ok.inj hsame
  obtain ⟨icons, hicons, h⟩ := Outcome.exists_of_bind_eq_ok h
  obtain ⟨same, hentries', h⟩ := Outcome.exists_of_bind_eq_ok h
  obtain rfl : entries = same := Except.ok.inj hentries'
  obtain ⟨batch', hbatch, h⟩ := Outcome.exists_of_bind_eq_ok h
  obtain ⟨outs', houts, h⟩ := Outcome.exists_of_bind_eq_ok h
  obtain ⟨rfl, rfl⟩ := Prod.mk.inj (Except.ok.inj h)
  refine ⟨icons, Outcome.map_eq_ok.1 hicons, Outcome.map_eq_ok.1 hbatch, houts, ?_⟩
  rw [prepare, Outcome.events_bind_of_ok _ hrefresh, Outcome.events_bind_of_ok _ hloaded,
    Outcome.events_bind_of_ok _ hicons, Outcome.events_bind_of_ok _ hentries',
    Outcome.events_bind_of_ok _ hbatch, Outcome.events_bind_of_ok _ houts]
  simp only [Report.textOn_append]
  rw [textOn_refresh colour threshold hrefresh]
  refine congrArg _ ?_
  have hnotes := textOn_notes colour threshold
    (Assets.loadAsked tree args.assets (some entries) args.layout).events
  have hicons' : Report.textOn .output colour threshold
      ((Assets.loadAsked tree args.assets (some entries) args.layout).map
        (fun note => Report.Event.log note.record) Stop.assets).events = [] := hnotes
  rw [hcatalog, hicons']
  exact List.append_nil _

/-- The result of a run is that of its preparation, unless writing fails. -/
theorem result_run (s : Settings) (ending : Submodule.Ending) (args : CommandLine.Arguments)
    (tree : Tree) :
    (run s ending args tree).2.result =
      match (prepare s ending args tree).result with
      | .error stop => .error stop
      | .ok (batch, outs) =>
          match (Output.write tree outs).2 with
          | some fault => .error (.output fault)
          | none => .ok batch := by
  rw [run]
  cases prepare s ending args tree with
  | mk events result =>
      cases result with
      | error stop => rfl
      | ok prepared =>
          simp only
          cases Output.write tree prepared.2 with
          | mk after fault => cases fault <;> rfl

/-- A run leaves the tree that the writing of its outputs leaves. -/
theorem exists_of_run {s : Settings} {ending : Submodule.Ending}
    {args : CommandLine.Arguments} {tree : Tree} {batch : Generation.Batch}
    (h : (run s ending args tree).2.result = .ok batch) :
    ∃ outs, (prepare s ending args tree).result = .ok (batch, outs) ∧
      (run s ending args tree).2.events = (prepare s ending args tree).events ∧
      (Output.write tree outs).2 = none ∧
      (run s ending args tree).1 = (Output.write tree outs).1 := by
  cases hprepare : prepare s ending args tree with
  | mk events result =>
      cases result with
      | error stop =>
          rw [run, hprepare] at h
          cases h
      | ok prepared =>
          obtain ⟨batch', outs⟩ := prepared
          cases hwrite : Output.write tree outs with
          | mk after fault =>
              cases fault with
              | some fault =>
                  simp only [run, hprepare, hwrite] at h
                  cases h
              | none =>
                  have hrun : run s ending args tree = (after, ⟨events, .ok batch'⟩) := by
                    simp only [run, hprepare, hwrite]
                  rw [hrun] at h ⊢
                  cases h
                  exact ⟨outs, rfl, rfl, by rw [hwrite], by rw [hwrite]⟩

/-- The outputs of a run are the module and the demo page of its icons. -/
theorem outputs_eq_ok {previews : Text} {args : CommandLine.Arguments}
    {batch : Generation.Batch} {name moduleText output demo : Text}
    (hname : args.moduleName = some name) (houtput : args.output = some output)
    (hdemo : args.demoOutput = some demo)
    (hmodule : Elm.moduleText? previews batch.icons name = some moduleText) :
    outputs previews args batch =
      .ok [⟨Path.ofText output, moduleText⟩,
        ⟨Path.ofText demo, Elm.demoPage batch.names name⟩] := by
  simp only [outputs, hname, houtput, hdemo, hmodule]

end Run

/-! ## The whole program -/

namespace Program

/-- A run that ends with code zero has a result. -/
theorem exists_of_conclude {result : Except Run.Stop Generation.Batch}
    (h : (conclude result).1 = .code 0) : ∃ batch, result = .ok batch := by
  cases result with
  | ok batch => exact ⟨batch, rfl⟩
  | error stop =>
      rw [conclude] at h
      cases hreport : stop.report? with
      | some event =>
          rw [hreport] at h
          cases h
      | none =>
          rw [hreport] at h
          cases h

/-- The lines that count the icons; a count of zero has none. -/
def countLines (colour : Bool) (passes failures : Nat) : Text :=
  (if passes = 0 then []
    else Report.painted colour .green (Report.components passes ++ " generated".toList) ++ ['\n']) ++
    if failures = 0 then []
    else Report.painted colour .red (Report.components failures ++ " failed".toList) ++ ['\n']

theorem textOn_summary (colour : Bool) (threshold passes failures : Nat) :
    Report.textOn .output colour threshold (Generation.summary passes failures) =
      countLines colour passes failures := by
  cases passes <;> cases failures <;>
    simp [Report.textOn, Generation.summary, Report.Event.lines, countLines]

theorem textOn_logs (colour : Bool) (threshold : Nat) (records : List Log.Record) :
    Report.textOn .output colour threshold (records.map Report.Event.log) = [] := by
  refine Report.textOn_output_of_isAside colour threshold fun e he => ?_
  obtain ⟨record, -, rfl⟩ := List.mem_map.1 he
  rfl

/-- What a run on a tree of weight folders is about: the entries of the catalog, the root of the
assets with the names of the folders in it, and how the module and the two outputs are called. -/
structure Request where
  entries : List Entry
  assets : Text
  folders : List Text
  moduleName : Text
  output : Text
  demoOutput : Text

/-- A command line with some arguments makes a request in a tree. -/
structure Makes (around : Surroundings) (words : List Text) (args : CommandLine.Arguments)
    (tree : Tree) (r : Request) : Prop where
  parsed : CommandLine.parse around.settings words = .ok (.run args)
  catalog : ∃ path, Run.catalogPath tree around.settings.catalog args.catalog = .ok (some path) ∧
    Catalog.load tree path.text = .ok r.entries
  slugs : ∀ e ∈ r.entries, '/' ∉ e.slug
  layout : args.layout = some .auto ∨ args.layout = some (.always .byWeight)
  limit : args.limit = none
  assets : args.assets = some r.assets
  folders : Assets.AreWeightFolders tree (Path.ofText r.assets) r.folders
  moduleName : args.moduleName = some r.moduleName
  output : args.output = some r.output
  demoOutput : args.demoOutput = some r.demoOutput
  apart : placeOf (Path.ofText r.output) ≠ placeOf (Path.ofText r.demoOutput)

/-- The expression for the drawing that the folder of a weight holds for an icon, if there is
one that can be read. -/
def Request.expression? (r : Request) (tree : Tree) (slug : Text) (weight : Weight) :
    Option Text :=
  (Assets.held? tree (Path.ofText r.assets) r.folders slug weight).bind fun drawing =>
    (Generation.expressionOf drawing).toOption

/-- The entries for which every weight has a drawing that can be read. -/
def Request.drawn (r : Request) (tree : Tree) : List Entry :=
  r.entries.filter fun e => Generation.isDrawn (r.expression? tree e.slug)

variable {around : Surroundings} {words : List Text} {args : CommandLine.Arguments} {tree : Tree}
  {r : Request}

/-- What is loaded for a request gives every entry the expressions of the drawings that the
folders hold. -/
theorem expression?_of_makes (h : Makes around words args tree r) {icons : Assets.IconTable}
    (hicons : (Assets.loadAsked tree args.assets (some r.entries) args.layout).result = .ok icons)
    {e : Entry} (he : e ∈ r.entries) :
    Generation.expression? icons e.slug = r.expression? tree e.slug := by
  funext w
  rw [Generation.expression?, Request.expression?]
  refine congrArg (Option.bind · _) ?_
  have hmem : e.slug ∈ r.entries.map Entry.slug := List.mem_map_of_mem he
  rw [h.assets] at hicons
  rcases h.layout with hlayout | hlayout
  · rw [hlayout] at hicons
    exact Assets.drawing?_load h.folders h.slugs (Or.inl rfl) hicons hmem w
  · rw [hlayout] at hicons
    exact Assets.drawing?_load h.folders h.slugs (Or.inr rfl) hicons hmem w

/-- How a run ends is how the program ends. -/
theorem exit_perform (threshold : Nat) (telemetry : Telemetry.State) :
    (perform around args threshold telemetry tree).exit =
      (conclude (Run.run around.settings around.submodule args tree).2.result).1 := rfl

/-- With a known log level the program carries out the run that is asked for. -/
theorem main_eq_perform (telemetry : Telemetry.State) {level : Text} {threshold : Nat}
    (hparsed : CommandLine.parse around.settings words = .ok (.run args))
    (hlevel : args.logLevel = some level) (hthreshold : Log.threshold? level = some threshold) :
    main around words telemetry tree = perform around args threshold telemetry tree := by
  simp only [main, hparsed, hlevel, hthreshold]

/-- When the program succeeds, a run has succeeded and the counts are told. -/
theorem exists_of_main (telemetry : Telemetry.State)
    (hparsed : CommandLine.parse around.settings words = .ok (.run args))
    (hexit : (main around words telemetry tree).exit = .code 0) :
    ∃ threshold batch,
      (Run.run around.settings around.submodule args tree).2.result = .ok batch ∧
      (main around words telemetry tree).tree =
        (Run.run around.settings around.submodule args tree).1 ∧
      (main around words telemetry tree).output =
        Report.textOn .output around.colour threshold
            (Run.run around.settings around.submodule args tree).2.events ++
          countLines around.colour batch.passes batch.failures := by
  cases hlevel : args.logLevel with
  | none =>
      simp only [main, hparsed, hlevel] at hexit
      cases hexit
  | some level =>
      cases hthreshold : Log.threshold? level with
      | none =>
          simp only [main, hparsed, hlevel, hthreshold] at hexit
          cases hexit
      | some threshold =>
          rw [main_eq_perform telemetry hparsed hlevel hthreshold] at hexit ⊢
          rw [exit_perform] at hexit
          obtain ⟨batch, hbatch⟩ := exists_of_conclude hexit
          refine ⟨threshold, batch, hbatch, rfl, ?_⟩
          have houtput : (perform around args threshold telemetry tree).output =
              Report.textOn .output around.colour threshold
                ((Telemetry.start around.telemetry telemetry).logs.map Report.Event.log ++
                    (Run.run around.settings around.submodule args tree).2.events ++
                    (conclude (Run.run around.settings around.submodule args tree).2.result).2.1 ++
                    (Telemetry.stop
                      (Telemetry.start around.telemetry telemetry).state).logs.map
                        Report.Event.log ++
                  (conclude
                    (Run.run around.settings around.submodule args tree).2.result).2.2) := rfl
          rw [houtput, hbatch, conclude]
          simp only [Report.textOn_append, textOn_logs, textOn_summary, List.nil_append,
            List.append_nil]

/-- When the program succeeds on a tree of weight folders, its outputs hold the module and the
demo page of exactly the entries that have all drawings, in the order of the catalog, and it
prints a line for each of these and the counts. -/
theorem files_of_main (telemetry : Telemetry.State) (h : Makes around words args tree r)
    (hexit : (main around words telemetry tree).exit = .code 0) :
    (main around words telemetry tree).tree.file? (placeOf (Path.ofText r.output)) =
        some (Text.Utf8.encode (Generation.assembled around.settings.previews r.moduleName
          (r.expression? tree) (r.drawn tree))) ∧
      (main around words telemetry tree).tree.file? (placeOf (Path.ofText r.demoOutput)) =
        some (Text.Utf8.encode
          (Elm.demoPage ((r.drawn tree).map Entry.camel) r.moduleName)) ∧
      (main around words telemetry tree).output =
        (if args.skipSubmodule then [] else Run.refreshedLine around.colour) ++
          (r.drawn tree).flatMap (Generation.doneLine around.colour) ++
          countLines around.colour (r.drawn tree).length
            (r.entries.length - (r.drawn tree).length) := by
  obtain ⟨threshold, batch, hrun, htree, houtput⟩ := exists_of_main telemetry h.parsed hexit
  obtain ⟨outs, hprepare, hevents, hwrite, hafter⟩ := Run.exists_of_run hrun
  obtain ⟨path, hpath, hcatalog⟩ := h.catalog
  obtain ⟨icons, hicons, hgenerate, houts, hprinted⟩ :=
    Run.exists_of_prepare hprepare hpath hcatalog around.colour threshold
  have heach : Generation.generate r.entries icons args.limit =
      Generation.generateEach icons r.entries := by
    rw [h.limit]
    rfl
  rw [heach] at hgenerate hprinted
  obtain ⟨hshows, hcount⟩ := Generation.forall₂_generateEach hgenerate
  have hsame : ∀ e ∈ r.entries, Generation.expression? icons e.slug = r.expression? tree e.slug :=
    fun e he => expression?_of_makes h hicons he
  have hdrawn : Generation.drawnEntries icons r.entries = r.drawn tree :=
    List.filter_congr fun e he => by rw [hsame e he]
  rw [hdrawn] at hshows
  have hshows' : List.Forall₂ (fun icon e => Generation.Shows icon e (r.expression? tree e.slug))
      batch.icons (r.drawn tree) := by
    have hmem : ∀ e ∈ r.drawn tree, e ∈ r.entries := fun e he => List.mem_of_mem_filter he
    have hboth := (List.forall₂_and_left _ _).2 ⟨hmem, hshows.flip⟩
    exact hboth.flip.imp fun icon e hicon => hsame e hicon.1 ▸ hicon.2
  have hmodule := Generation.moduleText?_of_shows around.settings.previews r.moduleName hshows'
    fun e he => (List.mem_filter.1 he).2
  have hlength : batch.icons.length = (r.drawn tree).length := hshows'.length_eq
  have hnames : batch.names = (r.drawn tree).map Entry.camel :=
    (Generation.exportedNames_of_shows hshows').2
  rw [Run.outputs_eq_ok h.moduleName h.output h.demoOutput hmodule, hnames] at houts
  obtain rfl := Except.ok.inj houts
  refine ⟨?_, ?_, ?_⟩
  · rw [htree, hafter, Output.file?_write, Output.replaced_of_write hwrite]
    simp [Output.content?, h.apart.symm]
  · rw [htree, hafter, Output.file?_write, Output.replaced_of_write hwrite]
    simp [Output.content?]
  · have hfailures : batch.failures = r.entries.length - (r.drawn tree).length := by omega
    rw [houtput, hevents, hprinted, Generation.printed_generateEach _ _ hgenerate, hdrawn,
      Generation.passes_of_generateEach hgenerate, hlength, hfailures]

/-! ## A run that succeeds -/

/-- Surroundings in which everything has a short name. -/
def quiet : Surroundings where
  settings :=
    { root := ⟨.here, []⟩
      assets := ⟨.here, ["a".toList]⟩
      catalog := ⟨.here, ["c".toList]⟩
      index := ⟨.here, ["o".toList]⟩
      demo := ⟨.here, ["d".toList]⟩
      moduleName := "M".toList
      previews := "p".toList
      logLevel := "error".toList }
  telemetry := Telemetry.Settings.standard
  submodule := .exited 0 []
  colour := false

/-- A request for two icons. -/
def request : Request where
  entries := [⟨"x".toList, "X".toList, none⟩, ⟨"y".toList, "Y".toList, none⟩]
  assets := "a".toList
  folders := ["bold", "duotone", "fill", "light", "regular", "thin"].map String.toList
  moduleName := "M".toList
  output := "o".toList
  demoOutput := "d".toList

/-- The manifest of the two icons. -/
def manifest : Text :=
  "[\x7b\"name\":\"x\",\"pascal_name\":\"X\"\x7d,\x7b\"name\":\"y\",\"pascal_name\":\"Y\"\x7d]".toList

/-- A tree with the manifest and with all drawings of the first icon. -/
def stocked : Tree :=
  ⟨Table.ofList ((["c".toList], .file (Text.Utf8.encode manifest)) ::
    (["a".toList], .folder) ::
    request.folders.flatMap fun name =>
      [(["a".toList, name], .folder),
        (["a".toList, name, "x.svg".toList], .file (Text.Utf8.encode "<svg/>".toList))])⟩

/-- What is loaded from the tree. -/
def stock : Assets.IconTable :=
  Table.ofList
    [("x".toList, Table.ofList
      (request.folders.filterMap fun name =>
        (Weight.ofName? name).map fun w => (w, "<svg/>".toList))),
      ("y".toList, Table.empty)]

theorem areWeightFolders_stocked :
    Assets.AreWeightFolders stocked (Path.ofText request.assets) request.folders where
  listed := by
    have hlist : stocked.list (Path.ofText request.assets) = .ok request.folders := by
      decide
    have hfilter : request.folders.filterM (fun name =>
        stocked.isFolder ((Path.ofText request.assets).child name)) = .ok request.folders := by
      decide
    have hsorted : request.folders.Pairwise fun a b => Text.atMost a b := by decide
    have hvisible : request.folders.filter (fun name => name.head? ≠ some '.') =
        request.folders := by decide
    simp only [Assets.subfolders, hlist, hfilter, bind, Except.bind, pure, Except.pure, hvisible,
      List.mergeSort_of_pairwise hsorted]
  named := by decide
  distinct := by decide

theorem makes_request :
    Makes quiet [] (CommandLine.Arguments.standard quiet.settings) stocked request where
  parsed := by decide
  catalog := ⟨quiet.settings.catalog, by decide, by decide +kernel⟩
  slugs := by decide
  layout := Or.inl rfl
  limit := rfl
  assets := by decide
  folders := areWeightFolders_stocked
  moduleName := by decide
  output := by decide
  demoOutput := by decide
  apart := by decide

theorem result_load_stocked :
    (Assets.load stocked request.assets (some request.entries) .auto).result = .ok stock := by
  have hfolders := areWeightFolders_stocked
  have hdetect := Assets.detectLayout_of_areWeightFolders hfolders
  have hne : ¬ request.folders = [] := by decide
  rw [if_neg hne] at hdetect
  have hloaded : (request.folders.foldlM
      (Assets.loadWeightFolder stocked (Path.ofText request.assets) (some request.entries))
      (Table.ofList (request.entries.map fun entry => (entry.slug, Table.empty)))).result =
      .ok stock := by
    decide
  rw [Assets.load, hdetect]
  show (Assets.loadByWeight _ _ _).result = _
  rw [Assets.loadByWeight, hfolders.listed]
  exact Outcome.result_bind_of_ok _ hloaded

/-- Up to the assets, nothing stops a run on the tree. -/
theorem result_prepare_stocked :
    (Run.prepare quiet.settings quiet.submodule (.standard quiet.settings) stocked).result =
      (do
        let batch ← (Generation.generate request.entries stock none).map
          Generation.Event.report Run.Stop.drawing
        let outputs ← Outcome.of
          (Run.outputs quiet.settings.previews (.standard quiet.settings) batch)
        return (batch, outputs) : Run.Part (Generation.Batch × List Output)).result := by
  have hrefresh : (Run.refresh quiet.submodule false).result = .ok () := rfl
  obtain ⟨path, hpath, hentries⟩ := makes_request.catalog
  have hcatalog : (Run.loadCatalog stocked quiet.settings.catalog none).result =
      .ok (some request.entries) :=
    congrArg Outcome.result (Run.loadCatalog_of_load hpath hentries)
  have hload :
      ((Assets.loadAsked stocked (some request.assets) (some request.entries) (some .auto)).map
        (fun note => Report.Event.log note.record) Run.Stop.assets).result = .ok stock := by
    have hstock := congrArg (Except.mapError Run.Stop.assets) result_load_stocked
    exact hstock
  exact (Outcome.result_bind_of_ok _ hrefresh).trans
    ((Outcome.result_bind_of_ok _ hcatalog).trans (Outcome.result_bind_of_ok _ hload))

theorem exit_main_stocked : (main quiet [] .fresh stocked).exit = .code 0 := by
  have hlevel : (CommandLine.Arguments.standard quiet.settings).logLevel =
      some "ERROR".toList := by decide
  have hthreshold : Log.threshold? "ERROR".toList = some 40 := by decide
  rw [main_eq_perform .fresh makes_request.parsed hlevel hthreshold, exit_perform,
    Run.result_run, result_prepare_stocked]
  decide +kernel

/-- Of the two icons the module has the one that has all drawings. -/
theorem files_of_main_stocked :
    request.drawn stocked = [⟨"x".toList, "X".toList, none⟩] ∧
      (main quiet [] .fresh stocked).tree.file? ["o".toList] =
        some (Text.Utf8.encode (Generation.assembled "p".toList "M".toList
          (request.expression? stocked) (request.drawn stocked))) ∧
      (main quiet [] .fresh stocked).tree.file? ["d".toList] =
        some (Text.Utf8.encode (Elm.demoPage ["x".toList] "M".toList)) ∧
      (main quiet [] .fresh stocked).output =
        ("✓ Updated submodule @phosphor-icons/core\n✓ DONE x\n" ++
          "1 component generated\n1 component failed\n").toList := by
  have hdrawn : request.drawn stocked = [⟨"x".toList, "X".toList, none⟩] := by decide
  obtain ⟨hmodule, hdemo, houtput⟩ := files_of_main .fresh makes_request exit_main_stocked
  have hplaces : placeOf (Path.ofText request.output) = ["o".toList] ∧
      placeOf (Path.ofText request.demoOutput) = ["d".toList] := by decide
  rw [hplaces.1] at hmodule
  rw [hplaces.2] at hdemo
  have hcamel : (request.drawn stocked).map Entry.camel = ["x".toList] := by
    rw [hdrawn]
    decide
  rw [hcamel] at hdemo
  refine ⟨hdrawn, hmodule, hdemo, ?_⟩
  rw [houtput, hdrawn]
  decide

end Program

end Iconsmith
