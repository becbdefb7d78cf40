import Iconsmith.Proofs.Assets.Dependence
import Iconsmith.Proofs.Failures
import Iconsmith.Proofs.Output.Rereading

set_option autoImplicit false

/-!
# Running again

A run whose outputs lie apart from all that it reads can be repeated (`IsRepeatable`): the second
run finds the same catalog and the same assets, prepares the same outputs, and writes them over
those of the first without changing the tree (`run_run`). So the program succeeds again, tells the
same, and leaves the tree as it was (`main_again`).
-/

namespace Iconsmith

open Disk Disk.Tree

namespace Run

/-! ## The catalog -/

/-- The path at which a catalog is looked for. -/
def consulted (standard : Path) (asked : Option Text) : Path :=
  match asked with
  | some (c :: rest) => Path.ofText (c :: rest)
  | _ => standard

/-- A catalog that has been read is read again where its file is the same. -/
theorem load_of_read {tree after : Tree} {path : Path} {entries : List Entry}
    (hread : ∀ bytes, tree.read path = .ok bytes → after.read path = .ok bytes)
    (h : Catalog.load tree path.text = .ok entries) :
    Catalog.load after path.text = .ok entries := by
  unfold Catalog.load at h ⊢
  cases hbytes : tree.readText path.text with
  | error fault =>
      rw [hbytes] at h
      cases h
  | ok bytes =>
      have hagain : after.readText path.text = .ok bytes := hread bytes hbytes
      rw [hbytes] at h
      rwa [hagain]

theorem catalogPath_of_isFile {tree after : Tree} {standard : Path} {asked : Option Text}
    {found : Option Path}
    (hfile : ∀ there, tree.isFile (consulted standard asked) = .ok there →
      after.isFile (consulted standard asked) = .ok there)
    (h : catalogPath tree standard asked = .ok found) :
    catalogPath after standard asked = .ok found ∧
      ∀ path, found = some path → path = consulted standard asked := by
  unfold catalogPath at h ⊢
  split at h
  · rename_i c rest
    cases h
    exact ⟨rfl, fun path hpath => (Option.some.inj hpath).symm⟩
  · rename_i hasked
    have hstandard : consulted standard asked = standard := by
      unfold consulted
      split
      · rename_i c rest
        exact absurd rfl (hasked c rest)
      · rfl
    rw [hstandard] at hfile ⊢
    cases hthere : tree.isFile standard with
    | error fault =>
        rw [hthere] at h
        cases h
    | ok there =>
        rw [hthere] at h
        rw [hfile there hthere]
        cases there with
        | false =>
            cases h
            exact ⟨rfl, fun path hpath => absurd hpath.symm (Option.some_ne_none path)⟩
        | true =>
            cases h
            exact ⟨rfl, fun path hpath => (Option.some.inj hpath).symm⟩

/-- What has been loaded as the catalog is loaded again where its file is the same, or is still
missing. -/
theorem loadCatalog_again {tree after : Tree} {standard : Path} {asked : Option Text}
    {catalog : Option (List Entry)}
    (hfile : ∀ there, tree.isFile (consulted standard asked) = .ok there →
      after.isFile (consulted standard asked) = .ok there)
    (hread : ∀ bytes, tree.read (consulted standard asked) = .ok bytes →
      after.read (consulted standard asked) = .ok bytes)
    (h : (loadCatalog tree standard asked).result = .ok catalog) :
    loadCatalog after standard asked = loadCatalog tree standard asked ∧
      ∀ entries, catalog = some entries →
        Catalog.load tree (consulted standard asked).text = .ok entries := by
  unfold loadCatalog at h ⊢
  cases hpath : catalogPath tree standard asked with
  | error fault =>
      rw [hpath] at h
      cases h
  | ok found =>
      obtain ⟨hagain, hconsulted⟩ := catalogPath_of_isFile hfile hpath
      rw [hpath] at h
      rw [hagain]
      cases found with
      | none =>
          cases h
          exact ⟨rfl, fun entries hnone => absurd hnone.symm (Option.some_ne_none entries)⟩
      | some path =>
          obtain rfl := hconsulted path rfl
          dsimp only at h ⊢
          cases hload : Catalog.load tree (consulted standard asked).text with
          | error fault =>
              rw [hload] at h
              cases h
          | ok entries =>
              rw [load_of_read hread hload]
              rw [hload] at h
              cases h
              exact ⟨rfl, fun other hother => by rw [Option.some.inj hother]⟩

/-! ## Runs that can be repeated -/

/-- The paths of a run lie apart: they lead on from where they start, and no output is the catalog
or lies in the assets. -/
structure LiesApart (s : Settings) (args : CommandLine.Arguments) (tree : Tree) : Prop where
  proper : tree.IsProper
  assets : ∀ root ∈ args.assets, (Path.ofText root).IsPlain
  catalog : (consulted s.catalog args.catalog).IsPlain
  outputs : ∀ t ∈ args.outputs, (Path.ofText t).IsPlain
  outside : ∀ t ∈ args.outputs, ∀ root ∈ args.assets,
    ¬ (Path.ofText t).IsInside (Path.ofText root)
  apart : ∀ t ∈ args.outputs, Path.ofText t ≠ consulted s.catalog args.catalog

/-- A run that reads nothing of what it writes. No output leads into a folder in which the path of
the catalog has a name that is too long, so that this is not found out only when the folder has
been made. And where files are looked up by the entries of a catalog, no output disturbs the
lookups. -/
structure IsRepeatable (s : Settings) (args : CommandLine.Arguments) (tree : Tree) : Prop
    extends LiesApart s args tree where
  long : ∀ before part more, (consulted s.catalog args.catalog).parts = before ++ part :: more →
    maxName < Text.Utf8.size part → ∀ t ∈ args.outputs,
      ¬ (Path.ofText t).IsInside ⟨(consulted s.catalog args.catalog).anchor, before⟩
  free : ∀ root ∈ args.assets, ∀ choice ∈ args.layout,
    Assets.layoutOf tree (Path.ofText root) choice = .ok .byWeight →
      ∀ entries, Catalog.load tree (consulted s.catalog args.catalog).text = .ok entries →
        ∀ folders, Assets.subfolders tree (Path.ofText root) = .ok folders →
          ∀ p, Assets.IsLookedUp (Path.ofText root) folders entries p →
            ∀ t ∈ args.outputs, ¬ (Path.ofText t).Disturbs tree p

/-- Lookups that do not lead out of the assets are disturbed by no output that lies outside. -/
theorem LiesApart.isRepeatable {s : Settings} {args : CommandLine.Arguments} {tree : Tree}
    (h : LiesApart s args tree)
    (hlong : ∀ before part more, (consulted s.catalog args.catalog).parts = before ++ part :: more →
      maxName < Text.Utf8.size part → ∀ t ∈ args.outputs,
        ¬ (Path.ofText t).IsInside ⟨(consulted s.catalog args.catalog).anchor, before⟩)
    (hcontained : ∀ entries,
      Catalog.load tree (consulted s.catalog args.catalog).text = .ok entries →
        ∀ entry ∈ entries, Assets.IsContained entry) : IsRepeatable s args tree := by
  refine ⟨h, hlong, ?_⟩
  rintro root hroot - - - entries hentries folders hfolders p
    ⟨name, hname, w, -, entry, hentry, hp⟩ t ht ⟨hanchor, place, hplace, hfolder, hway⟩
  have hplain := h.assets root hroot
  obtain ⟨names, hlist, -⟩ := Assets.exists_list_of_subfolders hfolders
  obtain ⟨top, hlocate, htop, -⟩ := list_eq_ok_iff.1 hlist
  obtain ⟨hsame, haround⟩ := Assets.around_of_isContained hplain
    (Assets.isPlainName_of_subfolders h.proper hfolders name hname)
    (hcontained entries hentries entry hentry) hp
  exact h.outside t ht root hroot (Path.isInside_of_passing hplain hlocate htop
    (haround place hplace) hfolder (hanchor.trans hsame) hway)

/-- What holds of the paths that a run writes to holds of its outputs. -/
theorem forall_of_outputs {previews : Text} {args : CommandLine.Arguments}
    {batch : Generation.Batch} {outs : List Output} (h : outputs previews args batch = .ok outs)
    {P : Path → Prop} (hP : ∀ t ∈ args.outputs, P (Path.ofText t)) : ∀ o ∈ outs, P o.path := by
  intro o ho
  obtain ⟨t, ht, hpath⟩ := path_of_outputs h ho
  exact hpath ▸ hP t ht

section Again

variable {s : Settings} {ending : Submodule.Ending} {args : CommandLine.Arguments} {tree : Tree}
  {batch : Generation.Batch} {outs : List Output}

/-- Whether there is a file at a path is whether it can be read. -/
theorem isFile_iff_of_isFile {p : Path} {there : Bool} (h : tree.isFile p = .ok there) :
    there = true ↔ ∃ bytes, tree.read p = .ok bytes := by
  rw [← Assets.isSome_bytesAt? h, Option.isSome_iff_exists]
  exact exists_congr fun bytes => Assets.bytesAt?_eq_some_iff

/-- Where a catalog is looked for there is the same file after the outputs have been written, or
none as before. -/
theorem isFile_again (hrepeatable : IsRepeatable s args tree)
    (houts : outputs s.previews args batch = .ok outs)
    (hwrite : (Output.write tree outs).2 = none) :
    (∀ bytes, (Output.write tree outs).1.read (consulted s.catalog args.catalog) = .ok bytes ↔
      tree.read (consulted s.catalog args.catalog) = .ok bytes) ∧
    ∀ there, tree.isFile (consulted s.catalog args.catalog) = .ok there →
      (Output.write tree outs).1.isFile (consulted s.catalog args.catalog) = .ok there := by
  have hplain := forall_of_outputs houts hrepeatable.outputs
  have hne := forall_of_outputs houts (P := fun p => p ≠ _) hrepeatable.apart
  have hread : ∀ bytes,
      (Output.write tree outs).1.read (consulted s.catalog args.catalog) = .ok bytes ↔
        tree.read (consulted s.catalog args.catalog) = .ok bytes := fun bytes =>
    Output.read_write_iff hwrite hplain hrepeatable.catalog hne hrepeatable.proper
  refine ⟨hread, fun there hthere => ?_⟩
  have hlong : ∀ before part more,
      (consulted s.catalog args.catalog).parts = before ++ part :: more →
        maxName < Text.Utf8.size part → ∀ o ∈ outs,
          ¬ o.path.IsInside ⟨(consulted s.catalog args.catalog).anchor, before⟩ :=
    fun before part more hparts hpart =>
      forall_of_outputs houts (P := fun p => ¬ p.IsInside _)
        (hrepeatable.long before part more hparts hpart)
  obtain ⟨found, hfound⟩ := Output.exists_test_write hwrite hplain hrepeatable.catalog
    hrepeatable.proper hlong hthere
  have hsame : there = true ↔ found = true := by
    rw [isFile_iff_of_isFile hthere, isFile_iff_of_isFile hfound]
    exact (exists_congr hread).symm
  rw [Bool.eq_iff_iff.2 hsame]
  exact hfound

/-- After its outputs have been written a run prepares the same outputs, and tells the same. -/
theorem prepare_again (hrepeatable : IsRepeatable s args tree)
    (h : (prepare s ending args tree).result = .ok (batch, outs))
    (hwrite : (Output.write tree outs).2 = none) :
    prepare s ending args (Output.write tree outs).1 = prepare s ending args tree := by
  have houts := outputs_of_prepare h
  obtain ⟨hread, hfile⟩ := isFile_again hrepeatable houts hwrite
  obtain ⟨_, -, h⟩ := Outcome.exists_of_bind_eq_ok h
  obtain ⟨catalog, hcatalog, h⟩ := Outcome.exists_of_bind_eq_ok h
  obtain ⟨icons, hicons, -⟩ := Outcome.exists_of_bind_eq_ok h
  obtain ⟨hsame, hentries⟩ := loadCatalog_again hfile (fun bytes => (hread bytes).2) hcatalog
  have hload : Assets.loadAsked (Output.write tree outs).1 args.assets catalog args.layout =
      Assets.loadAsked tree args.assets catalog args.layout := by
    obtain ⟨root, choice, hroot, hchoice, hload⟩ :=
      Assets.exists_of_loadAsked (Outcome.map_eq_ok.1 hicons)
    obtain ⟨place, hlocate, hfolder⟩ := Assets.exists_locate_of_load hload
    have hplain := hrepeatable.assets root hroot
    have hinside := forall_of_outputs houts (P := fun p => ¬ p.IsInside _)
      fun t ht => hrepeatable.outside t ht root hroot
    have houtputs := forall_of_outputs houts hrepeatable.outputs
    -- The outputs lie outside of the assets, so both trees agree below them.
    have hagree := Output.agreeAround_write hwrite houtputs hplain hlocate hfolder hinside
    rw [hroot, hchoice]
    exact Assets.load_of_agree hagree hrepeatable.proper hplain
      (fun hlayout entries hcatalog folders hfolders p hp => Output.agreeAlong_write hwrite houtputs
        (forall_of_outputs houts (P := fun t => ¬ t.Disturbs tree p) (hrepeatable.free root hroot
          choice hchoice hlayout entries (hentries entries hcatalog) folders hfolders p hp))) hload
  rw [prepare, prepare, hsame]
  refine congrArg (Outcome.bind _) (funext fun _ => Outcome.bind_congr_of_ok hcatalog ?_)
  rw [hload]

/-- A run that can be repeated and has succeeded succeeds again, tells the same, and leaves the
tree as it is. -/
theorem run_run (hrepeatable : IsRepeatable s args tree)
    (h : (run s ending args tree).2.result = .ok batch) :
    run s ending args (run s ending args tree).1 = run s ending args tree := by
  obtain ⟨outs, hprepare, -, hwrite, hafter⟩ := exists_of_run h
  have hagain := prepare_again hrepeatable hprepare hwrite
  have htidy := forall_of_outputs (outputs_of_prepare hprepare) fun t _ => Path.isTidy_ofText t
  have hrun : ∀ t, prepare s ending args t = prepare s ending args tree →
      (Output.write t outs).2 = none → run s ending args t =
        ((Output.write t outs).1, ⟨(prepare s ending args tree).events, .ok batch⟩) := by
    intro t hsame hnone
    rw [run, hsame]
    cases hparts : prepare s ending args tree with
    | mk events result =>
        rw [hparts] at hprepare
        obtain rfl : result = .ok (batch, outs) := hprepare
        cases hwritten : Output.write t outs with
        | mk left fault =>
            rw [hwritten] at hnone
            obtain rfl : fault = none := hnone
            simp only [hwritten]
  have hsecond := Output.write_write htidy hwrite
  rw [hafter, hrun tree rfl hwrite, hrun _ hagain (congrArg Prod.snd hsecond), hsecond]

end Again

end Run

/-! ## The whole program -/

namespace Program

variable {around : Surroundings} {words : List Text} {tree : Tree}

/-- What a run tells on the standard output, in the order in which it is told. -/
theorem output_perform (around : Surroundings) (args : CommandLine.Arguments) (threshold : Nat)
    (telemetry : Telemetry.State) (tree : Tree) :
    (perform around args threshold telemetry tree).output =
      Report.textOn .output around.colour threshold
        ((Run.run around.settings around.submodule args tree).2.events ++
            (conclude (Run.run around.settings around.submodule args tree).2.result).2.1 ++
          (conclude (Run.run around.settings around.submodule args tree).2.result).2.2) := by
  have hevents : (perform around args threshold telemetry tree).output =
      Report.textOn .output around.colour threshold
        ((Telemetry.start around.telemetry telemetry).logs.map Report.Event.log ++
            (Run.run around.settings around.submodule args tree).2.events ++
            (conclude (Run.run around.settings around.submodule args tree).2.result).2.1 ++
            (Telemetry.stop
              (Telemetry.start around.telemetry telemetry).state).logs.map Report.Event.log ++
          (conclude (Run.run around.settings around.submodule args tree).2.result).2.2) := rfl
  rw [hevents]
  simp only [Report.textOn_append, textOn_logs, List.nil_append, List.append_nil]

/-- What telemetry logs when it is started is settled by whether it is installed. -/
theorem logs_start_congr (s : Telemetry.Settings) {a b : Telemetry.State}
    (h : a.tracer = b.tracer) : (Telemetry.start s a).logs = (Telemetry.start s b).logs := by
  rw [Telemetry.start, Telemetry.start, h]
  split <;> rfl

/-- A run that can be repeated ends the program as before and leaves the tree as it is. What it
tells is the same, but for the log of telemetry, which depends on whether it is installed. -/
theorem perform_again {args : CommandLine.Arguments} (threshold : Nat)
    (telemetry again : Telemetry.State)
    (hrepeatable : Run.IsRepeatable around.settings args tree)
    (hexit : (perform around args threshold telemetry tree).exit = .code 0) :
    let first := perform around args threshold telemetry tree
    let second := perform around args threshold again first.tree
    second.exit = .code 0 ∧ second.output = first.output ∧ second.tree = first.tree ∧
      (again.tracer = telemetry.tracer → second.errors = first.errors) := by
  rw [exit_perform] at hexit
  obtain ⟨batch, hbatch⟩ := exists_of_conclude hexit
  have hrun : Run.run around.settings around.submodule args
      (perform around args threshold telemetry tree).tree =
        Run.run around.settings around.submodule args tree := Run.run_run hrepeatable hbatch
  refine ⟨?_, ?_, ?_, fun htracer => ?_⟩
  · rw [exit_perform, hrun, hexit]
  · rw [output_perform, output_perform, hrun]
  · exact congrArg Prod.fst hrun
  · rw [errors_perform, errors_perform, hrun, logs_start_congr around.telemetry htracer]
    rfl

/-- When the program has succeeded and its run can be repeated, it succeeds again with the same
words, tells the same and leaves the tree as the first run left it, in whatever state telemetry
is. -/
theorem main_again (around : Surroundings) (words : List Text)
    (telemetry again : Telemetry.State) (tree : Tree)
    (hrepeatable : ∀ args, CommandLine.parse around.settings words = .ok (.run args) →
      Run.IsRepeatable around.settings args tree)
    (hexit : (main around words telemetry tree).exit = .code 0) :
    let first := main around words telemetry tree
    let second := main around words again first.tree
    second.exit = .code 0 ∧ second.output = first.output ∧ second.tree = first.tree ∧
      (again.tracer = telemetry.tracer → second.errors = first.errors) := by
  cases hparsed : CommandLine.parse around.settings words with
  | error fault =>
      simp only [main, hparsed] at hexit
      cases hexit
  | ok asked =>
      cases asked with
      | help =>
          cases hhelp : CommandLine.help around.settings with
          | error fault =>
              simp only [main, hparsed, hhelp] at hexit
              cases hexit
          | ok help => simp only [main, hparsed, hhelp, implies_true, and_self]
      | run args =>
          cases hlevel : args.logLevel with
          | none =>
              simp only [main, hparsed, hlevel] at hexit
              cases hexit
          | some level =>
              cases hthreshold : Log.threshold? level with
              | none =>
                  simp only [main, hparsed, hlevel, hthreshold] at hexit
                  cases hexit
              | some threshold =>
                  intro first second
                  have hfirst : first = perform around args threshold telemetry tree :=
                    main_eq_perform telemetry hparsed hlevel hthreshold
                  have hsecond : second = perform around args threshold again first.tree :=
                    main_eq_perform again hparsed hlevel hthreshold
                  rw [hsecond, hfirst]
                  rw [main_eq_perform telemetry hparsed hlevel hthreshold] at hexit
                  exact perform_again threshold telemetry again (hrepeatable args hparsed) hexit

/-! ## A run that is repeated, and one that cannot be -/

theorem liesApart_stocked :
    Run.LiesApart quiet.settings (.standard quiet.settings) stocked := by
  constructor <;> decide

theorem isRepeatable_stocked :
    Run.IsRepeatable quiet.settings (.standard quiet.settings) stocked := by
  refine liesApart_stocked.isRepeatable ?_ ?_
  · intro before part more hparts hlong
    have hshort : ∀ part ∈ (Run.consulted quiet.settings.catalog
        (CommandLine.Arguments.standard quiet.settings).catalog).parts,
          Text.Utf8.size part ≤ maxName := by decide
    have hpart := hshort part (hparts ▸ List.mem_append_right _ List.mem_cons_self)
    exact absurd hlong (Nat.not_lt_of_le hpart)
  · intro entries hentries entry hentry
    have hload : Catalog.load stocked (Run.consulted quiet.settings.catalog
        (CommandLine.Arguments.standard quiet.settings).catalog).text = .ok request.entries := by
      decide +kernel
    obtain rfl := Except.ok.inj (hload.symm.trans hentries)
    have hcontained : ∀ e ∈ request.entries, ∀ w ∈ Weight.all,
        ∀ name ∈ Assets.candidates w e.slug,
          (Path.ofText name).anchor = .here ∧ staysWithin 1 (Path.ofText name).parts := by
      decide
    exact fun w => hcontained entry hentry w (Weight.mem_all w)

/-- The run on the tree with two icons can be repeated. -/
theorem main_again_stocked :
    Run.IsRepeatable quiet.settings (.standard quiet.settings) stocked ∧
      (main quiet [] .fresh stocked).exit = .code 0 ∧
      let first := main quiet [] .fresh stocked
      let second := main quiet [] .fresh first.tree
      second.exit = .code 0 ∧ second.output = first.output ∧ second.tree = first.tree ∧
        second.errors = first.errors := by
  refine ⟨isRepeatable_stocked, exit_main_stocked, ?_⟩
  obtain ⟨hexit, houtput, htree, herrors⟩ :=
    main_again quiet [] .fresh .fresh stocked (fun args hargs => by
      cases makes_request.parsed.symm.trans hargs
      exact isRepeatable_stocked) exit_main_stocked
  exact ⟨hexit, houtput, htree, herrors rfl⟩

/-- The words that ask for a run without the refresh, with both outputs in one folder. -/
def gathering : List Text :=
  ["--skip-submodule", "--assets-path", "a", "--catalog", "c", "--output", "g/o",
    "--demo-output", "g/t"].map String.toList

/-- A tree whose catalog names an icon outside of the assets, past the folder of the outputs. -/
def leaky : Tree :=
  ⟨Table.ofList [
    (["c".toList], .file (Text.Utf8.encode
      "[\x7b\"name\":\"../../g/../x\",\"pascal_name\":\"X\"\x7d]".toList)),
    (["x.svg".toList], .file []), (["a".toList], .folder), (["a".toList, "thin".toList], .folder)]⟩

/-- Not every run with paths that lie apart can be repeated: the second may find a drawing that the
first reported missing, as the path to it leads through a folder that the first has made. -/
theorem not_forall_main_again :
    ¬ ∀ (around : Surroundings) (words : List Text) (args : CommandLine.Arguments) (tree : Tree),
      CommandLine.parse around.settings words = .ok (.run args) → args.skipSubmodule = true →
      (∀ p ∈ [around.settings.assets, around.settings.catalog, around.settings.index,
        around.settings.demo], p.IsPlain) →
      Run.LiesApart around.settings args tree →
      (∀ t ∈ args.outputs, Path.ofText t ≠ around.settings.catalog) →
      (main around words .fresh tree).exit = .code 0 →
      let first := main around words .fresh tree
      let second := main around words .fresh first.tree
      second.exit = .code 0 ∧ second.output = first.output ∧ second.errors = first.errors ∧
        second.tree = first.tree := by
  intro hall
  have hapart : Run.LiesApart quiet.settings
      { CommandLine.Arguments.standard quiet.settings with
        skipSubmodule := true
        catalog := some "c".toList
        output := some "g/o".toList
        demoOutput := some "g/t".toList } leaky := by
    constructor <;> decide
  have hsecond := (hall quiet gathering _ leaky (by decide) rfl (by decide) hapart
    (by decide) (by decide +kernel)).2.2.1
  have hdiffers : (main quiet gathering .fresh (main quiet gathering .fresh leaky).tree).errors ≠
      (main quiet gathering .fresh leaky).errors := by decide +kernel
  exact hdiffers hsecond

end Program

end Iconsmith
