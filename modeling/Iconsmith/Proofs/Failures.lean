import Iconsmith.Proofs.Disk.Missing
import Iconsmith.Proofs.Disk.Passing
import Iconsmith.Proofs.Output.Effect
import Iconsmith.Proofs.Program

set_option autoImplicit false

/-!
# What failed runs leave behind

A run changes the tree by writing its outputs and by nothing else, and it writes them when all
icons have been processed. So whatever stops the program before leaves the tree as it was, and
a fault of the writing itself is reported, if the path of no output holds a NUL character and
there is room for the folders that are missing. For want of that room the program ends with a
crash, and folders that have been made before stay (`tree_main`).
-/

namespace Iconsmith

open Disk

/-! ## Folders that stay -/

namespace Output

open Disk.Tree

/-- A change of a tree that brings nothing but folders on the ways to some paths. -/
structure AddsFolders (paths : List Path) (before after : Tree) : Prop where
  kept : ∀ place item, before.get? place = some item → after.get? place = some item
  added : ∀ place item, before.get? place = none → after.get? place = some item →
    item = .folder ∧ ∃ p ∈ paths, place ∈ wayFrom [] p.parent.parts

theorem AddsFolders.mono {paths more : List Path} {before after : Tree}
    (h : AddsFolders paths before after) (hsub : paths ⊆ more) : AddsFolders more before after where
  kept := h.kept
  added := fun place item hbefore hafter =>
    let ⟨hitem, p, hp, hway⟩ := h.added place item hbefore hafter
    ⟨hitem, p, hsub hp, hway⟩

/-- Where there is no room for a folder no target has been replaced, and folders are all that
is new. -/
theorem addsFolders_of_tooDeep {tree : Tree} {outputs : List Output}
    (h : (write tree outputs).2 = some .tooDeep) :
    AddsFolders (outputs.map Output.path) tree (write tree outputs).1 := by
  have hreplaced : replaced tree outputs = [] := by
    have hstage := write_eq_tooDeep_iff_stage.1 h
    unfold replaced
    split
    · rfl
    · rename_i hnone
      rw [hnone] at hstage
      cases hstage
  have hfile : ∀ place, (write tree outputs).1.file? place = tree.file? place := by
    intro place
    rw [file?_write, hreplaced, content?, Option.none_or]
  constructor
  case kept =>
    intro place item hbefore
    cases item with
    | file bytes => rwa [← file?_eq_some_iff, hfile, file?_eq_some_iff]
    | folder => exact get?_write_of_folder outputs hbefore
  case added =>
    intro place item hbefore hafter
    rcases (isOwedTo_write tree outputs).added place item hbefore hafter with
      ⟨o, -, -, rfl⟩ | ⟨rfl, o, ho, hway⟩
    · rw [← file?_eq_some_iff, hfile, file?_eq_some_iff, hbefore] at hafter
      cases hafter
    · exact ⟨rfl, o.path, List.mem_map_of_mem ho, hway⟩

end Output

/-! ## Reports of failures -/

/-- What a failure leaves on the standard error. -/
def Report.failureText (colour : Bool) (message detail : Text) : Text :=
  textOn .error colour 0 [.failure message detail]

/-- What a part of some events leaves is a part of what they leave. -/
theorem Report.textOn_infix (stream : Stream) (colour : Bool) (threshold : Nat)
    {part events : List Event} (h : part <:+: events) :
    textOn stream colour threshold part <:+: textOn stream colour threshold events := by
  obtain ⟨before, after, rfl⟩ := h
  exact ⟨_, _, by rw [textOn_append, textOn_append]⟩

/-- The paths that a run writes to. -/
def CommandLine.Arguments.outputs (args : CommandLine.Arguments) : List Text :=
  [args.output, args.demoOutput].reduceOption

namespace Run

/-- No string of the catalog that a run reads holds half of a surrogate pair. -/
def ReadsTexts (s : Settings) (args : CommandLine.Arguments) (tree : Tree) : Prop :=
  ∀ path, catalogPath tree s.catalog args.catalog = .ok (some path) →
    Catalog.load tree path.text ≠ .error .loneSurrogate

theorem readsTexts_of_load {s : Settings} {args : CommandLine.Arguments} {tree : Tree}
    (path : Path) (hpath : catalogPath tree s.catalog args.catalog = .ok (some path))
    (h : Catalog.load tree path.text ≠ .error .loneSurrogate) : ReadsTexts s args tree := by
  intro found hfound
  cases hpath.symm.trans hfound
  exact h

/-- All that a run writes is text, and so are the paths that it writes to, without NUL
characters. What becomes of a catalog with other strings is left open. -/
structure WritesTexts (s : Settings) (args : CommandLine.Arguments) (tree : Tree) : Prop where
  outputs : ∀ t ∈ args.outputs, '\x00' ∉ t
  catalog : ReadsTexts s args tree

/-- The outputs of a run go to the paths that are asked for. -/
theorem path_of_outputs {previews : Text} {args : CommandLine.Arguments}
    {batch : Generation.Batch} {outs : List Output} (h : outputs previews args batch = .ok outs)
    {o : Output} (ho : o ∈ outs) : ∃ t ∈ args.outputs, o.path = Path.ofText t := by
  unfold outputs at h
  split at h
  · cases h
  · split at h
    · cases h
    · rename_i text output demoOutput _ houtput hdemo
      cases h
      have hpaths : args.outputs = [output, demoOutput] := by
        rw [CommandLine.Arguments.outputs, houtput, hdemo]
        rfl
      rw [hpaths]
      rcases List.mem_pair.1 ho with rfl | rfl
      · exact ⟨output, List.mem_cons_self, rfl⟩
      · exact ⟨demoOutput, List.mem_cons_of_mem _ List.mem_cons_self, rfl⟩
    · cases h

/-- What has been prepared are the outputs for some batch. -/
theorem outputs_of_prepare {s : Settings} {ending : Submodule.Ending}
    {args : CommandLine.Arguments} {tree : Tree} {batch : Generation.Batch}
    {outs : List Output} (h : (prepare s ending args tree).result = .ok (batch, outs)) :
    outputs s.previews args batch = .ok outs := by
  obtain ⟨_, _, h⟩ := Outcome.exists_of_bind_eq_ok h
  obtain ⟨_, _, h⟩ := Outcome.exists_of_bind_eq_ok h
  obtain ⟨_, _, h⟩ := Outcome.exists_of_bind_eq_ok h
  obtain ⟨_, _, h⟩ := Outcome.exists_of_bind_eq_ok h
  obtain ⟨_, _, h⟩ := Outcome.exists_of_bind_eq_ok h
  obtain ⟨_, houts, h⟩ := Outcome.exists_of_bind_eq_ok h
  obtain ⟨rfl, rfl⟩ := Prod.mk.inj (Except.ok.inj h)
  exact houts

/-- Of a fault of the writing there is a wording or it is for want of room, if no path that is
written to holds a NUL character. -/
theorem exists_message_of_write {s : Settings} {ending : Submodule.Ending}
    {args : CommandLine.Arguments} {tree : Tree} {batch : Generation.Batch} {outs : List Output}
    {fault : Output.Fault} (hnul : ∀ t ∈ args.outputs, '\x00' ∉ t)
    (hprepare : (prepare s ending args tree).result = .ok (batch, outs))
    (hwrite : (Output.write tree outs).2 = some fault) :
    (∃ message, fault.message? = some message) ∨ fault = .tooDeep := by
  have hpaths : ∀ o ∈ outs, o.path.HasNoNul := by
    intro o ho
    obtain ⟨t, ht, hpath⟩ := path_of_outputs (outputs_of_prepare hprepare) ho
    exact hpath ▸ Path.hasNoNul_ofText (hnul t ht)
  have haccess := Output.write_ne_nul hpaths hwrite
  cases fault with
  | tooDeep => exact Or.inr rfl
  | access path access =>
      cases access with
      | nul => exact absurd ⟨path, rfl⟩ haccess
      | refused r => exact Or.inl ⟨_, rfl⟩

/-- What has been prepared is written. -/
theorem fst_run_of_prepare {s : Settings} {ending : Submodule.Ending}
    {args : CommandLine.Arguments} {tree : Tree} {batch : Generation.Batch} {outs : List Output}
    (h : (prepare s ending args tree).result = .ok (batch, outs)) :
    (run s ending args tree).1 = (Output.write tree outs).1 := by
  cases hprepare : prepare s ending args tree with
  | mk events result =>
      rw [hprepare] at h
      obtain rfl : result = .ok (batch, outs) := h
      rw [run, hprepare]
      cases hwrite : Output.write tree outs with
      | mk after fault => cases fault <;> simp only [hwrite]

/-- A run leaves the tree as it was unless it succeeds or stops at an output. -/
theorem tree_run (s : Settings) (ending : Submodule.Ending) {args : CommandLine.Arguments}
    (tree : Tree) (hnul : ∀ t ∈ args.outputs, '\x00' ∉ t) :
    (run s ending args tree).1 = tree ∨ (∃ batch, (run s ending args tree).2.result = .ok batch) ∨
      (∃ fault message, (run s ending args tree).2.result = .error (.output fault) ∧
        fault.message? = some message) ∨
      (run s ending args tree).2.result = .error (.output .tooDeep) ∧
        Output.AddsFolders (args.outputs.map Path.ofText) tree (run s ending args tree).1 := by
  cases hprepare : prepare s ending args tree with
  | mk events result =>
      cases result with
      | error stop => exact Or.inl (by rw [run, hprepare])
      | ok prepared =>
          obtain ⟨batch, outs⟩ := prepared
          have hprepared : (prepare s ending args tree).result = .ok (batch, outs) :=
            congrArg Outcome.result hprepare
          refine Or.inr ?_
          rw [result_run, hprepare]
          cases hwrite : (Output.write tree outs).2 with
          | none => exact Or.inl ⟨batch, by simp only [hwrite]⟩
          | some fault =>
              refine Or.inr ?_
              rcases exists_message_of_write hnul hprepared hwrite with ⟨message, hmessage⟩ | rfl
              · exact Or.inl ⟨fault, message, by simp only [hwrite], hmessage⟩
              · refine Or.inr ⟨by simp only [hwrite], ?_⟩
                rw [fst_run_of_prepare hprepared]
                refine (Output.addsFolders_of_tooDeep hwrite).mono fun p hp => ?_
                obtain ⟨o, ho, rfl⟩ := List.mem_map.1 hp
                obtain ⟨t, ht, hpath⟩ := path_of_outputs (outputs_of_prepare hprepared) ho
                exact List.mem_map.2 ⟨t, ht, hpath.symm⟩

end Run

namespace Program

/-- The program reports that writing failed: a run stops at an output, the exit says so, and
the fault is told on the standard error. -/
structure ReportsFailedWriting (around : Surroundings) (args : CommandLine.Arguments)
    (tree : Tree) (effect : Effect) (fault : Output.Fault) (message : Text) : Prop where
  stopped : (Run.run around.settings around.submodule args tree).2.result =
    .error (.output fault)
  worded : fault.message? = some message
  exit : effect.exit = .code 1
  told : Report.failureText around.colour "Writing file failed".toList message <:+: effect.errors

/-- The program crashes in writing, for want of room for missing folders, and leaves those that
it has made. -/
structure CrashesInWriting (around : Surroundings) (args : CommandLine.Arguments) (tree : Tree)
    (effect : Effect) : Prop where
  stopped : (Run.run around.settings around.submodule args tree).2.result =
    .error (.output .tooDeep)
  exit : effect.exit = .crash (.stopped (.output .tooDeep))
  folders : Output.AddsFolders (args.outputs.map Path.ofText) tree effect.tree

/-- What a run tells on the standard error, in the order in which it is told. -/
theorem errors_perform (around : Surroundings) (args : CommandLine.Arguments) (threshold : Nat)
    (telemetry : Telemetry.State) (tree : Tree) :
    (perform around args threshold telemetry tree).errors =
      Report.textOn .error around.colour threshold
        ((Telemetry.start around.telemetry telemetry).logs.map Report.Event.log ++
            (Run.run around.settings around.submodule args tree).2.events ++
            (conclude (Run.run around.settings around.submodule args tree).2.result).2.1 ++
            (Telemetry.stop
              (Telemetry.start around.telemetry telemetry).state).logs.map Report.Event.log ++
          (conclude (Run.run around.settings around.submodule args tree).2.result).2.2) := rfl

/-- A run that stops with a report ends the program with code one, and the report is told. -/
theorem told_of_report {around : Surroundings} {args : CommandLine.Arguments} {tree : Tree}
    {stop : Run.Stop} {event : Report.Event} (threshold : Nat) (telemetry : Telemetry.State)
    (hstop : (Run.run around.settings around.submodule args tree).2.result = .error stop)
    (hreport : stop.report? = some event) :
    (perform around args threshold telemetry tree).exit = .code 1 ∧
      Report.textOn .error around.colour threshold [event] <:+:
        (perform around args threshold telemetry tree).errors := by
  have hconclude : conclude (Run.run around.settings around.submodule args tree).2.result =
      (.code 1, [event], []) := by
    rw [hstop, conclude, hreport]
  refine ⟨by rw [exit_perform, hconclude], ?_⟩
  rw [errors_perform, hconclude, List.append_nil]
  exact Report.textOn_infix _ _ _ ⟨_, _, rfl⟩

/-- Unless the program succeeds, reports that writing failed or crashes in writing, it leaves the
tree as it was. -/
theorem tree_main (around : Surroundings) (words : List Text) (telemetry : Telemetry.State)
    (tree : Tree)
    (htexts : ∀ args, CommandLine.parse around.settings words = .ok (.run args) →
      Run.WritesTexts around.settings args tree) :
    (main around words telemetry tree).tree = tree ∨
      (main around words telemetry tree).exit = .code 0 ∨
      ∃ args, CommandLine.parse around.settings words = .ok (.run args) ∧
        ((∃ fault message, ReportsFailedWriting around args tree
            (main around words telemetry tree) fault message) ∨
          CrashesInWriting around args tree (main around words telemetry tree)) := by
  cases hparsed : CommandLine.parse around.settings words with
  | error fault => exact Or.inl (by simp only [main, hparsed])
  | ok asked =>
      cases asked with
      | help =>
          refine Or.inl ?_
          simp only [main, hparsed]
          split <;> rfl
      | run args =>
          cases hlevel : args.logLevel with
          | none => exact Or.inl (by simp only [main, hparsed, hlevel])
          | some level =>
              cases hthreshold : Log.threshold? level with
              | none => exact Or.inl (by simp only [main, hparsed, hlevel, hthreshold])
              | some threshold =>
                  rw [main_eq_perform telemetry hparsed hlevel hthreshold]
                  rcases Run.tree_run around.settings around.submodule tree
                      (htexts args hparsed).outputs with
                    htree | ⟨batch, hbatch⟩ | ⟨fault, message, hstop, hworded⟩ | ⟨hstop, hfolders⟩
                  · exact Or.inl htree
                  · exact Or.inr (Or.inl (by rw [exit_perform, hbatch]; rfl))
                  · have hreport : (Run.Stop.output fault).report? =
                        some (.failure "Writing file failed".toList message) := by
                      rw [Run.Stop.report?, hworded]
                      rfl
                    obtain ⟨hexit, htold⟩ := told_of_report threshold telemetry hstop hreport
                    exact Or.inr (Or.inr ⟨args, rfl,
                      Or.inl ⟨fault, message, hstop, hworded, hexit, htold⟩⟩)
                  · refine Or.inr (Or.inr ⟨args, rfl, Or.inr ⟨hstop, ?_, hfolders⟩⟩)
                    rw [exit_perform, hstop]
                    rfl

/-- A tree with a catalog that breaks off. -/
def broken : Tree := ⟨Table.ofList [(["c".toList], .file (Text.Utf8.encode "[".toList))]⟩

/-- A catalog that cannot be read stops the program with the tree as it was. -/
theorem tree_main_broken :
    (main quiet [] .fresh broken).exit = .code 1 ∧ (main quiet [] .fresh broken).tree = broken := by
  have hexit : (main quiet [] .fresh broken).exit = .code 1 := by decide
  refine ⟨hexit, ?_⟩
  have hparsed := makes_request.parsed
  have htexts : Run.WritesTexts quiet.settings (.standard quiet.settings) broken :=
    ⟨by decide, Run.readsTexts_of_load quiet.settings.catalog (by decide) (by decide)⟩
  have hcatalog : (match (Run.run quiet.settings quiet.submodule (.standard quiet.settings)
      broken).2.result with
    | .error (.catalog _ _) => true
    | _ => false) = true := by decide
  -- The run stops at the catalog, so it is not writing that fails.
  rcases tree_main quiet [] .fresh broken (fun args hargs => by
    cases hparsed.symm.trans hargs
    exact htexts) with htree | hzero | ⟨args, hargs, ⟨fault, message, hreports⟩ | hcrashes⟩
  · exact htree
  · rw [hexit] at hzero
    cases hzero
  · cases hparsed.symm.trans hargs
    rw [hreports.stopped] at hcatalog
    cases hcatalog
  · have hcrash := hcrashes.exit
    rw [hexit] at hcrash
    cases hcrash

/-! ## A crash in writing -/

/-- A path with more folders on its way than there is room for. -/
def below : Path := ⟨.here, List.replicate 1000 ['d'] ++ [['o']]⟩

/-- Surroundings in which the module goes to a new folder and the demo page to this path. -/
def steep : Surroundings :=
  { quiet with
    settings := { quiet.settings with index := ⟨.here, [['x'], ['o']]⟩, demo := below } }

/-- A tree with a folder for the assets and nothing else. -/
def bare : Tree := ⟨Table.ofList [(["a".toList], .folder)]⟩

theorem isTooDeep_below {tree : Tree} (h : tree.get? [['d']] = none) :
    tree.IsTooDeep below.parent where
  passable := by decide +kernel
  long := by decide +kernel
  missing := by
    intro _
    have hparts : below.parent.parts.take (below.parent.parts.length - Tree.maxMissing) =
        ['d'] :: List.replicate 8 ['d'] := by
      decide +kernel
    have hstep : Tree.stepPlace [] ['d'] = [['d']] := by decide
    have hname : ¬Tree.maxName < Text.Utf8.size ['d'] := by decide
    rw [hparts, Tree.follow, hstep, h, if_neg hname]
    rfl

/-- Without words everything is as the settings have it. -/
theorem parse_nil (s : Settings) : CommandLine.parse s [] = .ok (.run (.standard s)) := rfl

theorem tree_perform (around : Surroundings) (args : CommandLine.Arguments) (threshold : Nat)
    (telemetry : Telemetry.State) (tree : Tree) :
    (perform around args threshold telemetry tree).tree =
      (Run.run around.settings around.submodule args tree).1 := rfl

/-- The module is prepared and staged in its folder, and the folders for the demo page are
missing. -/
theorem exists_prepare_steep : ∃ batch module page between staged,
    (Run.prepare steep.settings steep.submodule (.standard steep.settings) bare).result =
        .ok (batch, [module, page]) ∧
      page.path = below ∧
      Output.stage (Output.places [module, page]) bare [] [module] = (between, staged, none) ∧
      between.isFolderAt [['x']] ∧ between.get? [['d']] = none := by
  have hpaths : (Run.prepare steep.settings steep.submodule (.standard steep.settings)
      bare).result.toOption.map (fun prepared => prepared.2.map Output.path) =
        some [⟨.here, [['x'], ['o']]⟩, below] := by
    decide +kernel
  have hstages : (Run.prepare steep.settings steep.submodule (.standard steep.settings)
      bare).result.toOption.map (fun prepared =>
        let staging := Output.stage (Output.places prepared.2) bare [] (prepared.2.take 1)
        (staging.2.2, staging.1.isFolderAt [['x']], staging.1.get? [['d']])) =
          some (none, true, none) := by
    decide +kernel
  cases hprepare : (Run.prepare steep.settings steep.submodule (.standard steep.settings)
      bare).result with
  | error stop =>
      rw [hprepare] at hpaths
      cases hpaths
  | ok prepared =>
      obtain ⟨batch, outs⟩ := prepared
      rw [hprepare] at hpaths hstages
      obtain ⟨module, _, rfl, -, hmore⟩ := List.map_eq_cons_iff.1 (Option.some.inj hpaths)
      obtain ⟨page, rfl, hpage⟩ := List.map_eq_singleton_iff.1 hmore
      obtain ⟨hnone, hplaces⟩ := Prod.mk.inj (Option.some.inj hstages)
      obtain ⟨hfolder, hfree⟩ := Prod.mk.inj hplaces
      exact ⟨batch, module, page, _, _, rfl, hpage, Prod.ext rfl (Prod.ext rfl hnone), hfolder,
        hfree⟩

/-- The program crashes for want of room for the folders of the demo page, and the folder of the
module has been made by then. -/
theorem crash_steep :
    (main steep [] .fresh bare).exit = .crash (.stopped (.output .tooDeep)) ∧
      (main steep [] .fresh bare).tree.isFolderAt [['x']] := by
  obtain ⟨batch, module, page, between, staged, hprepare, hpage, hstage, hfolder, hfree⟩ :=
    exists_prepare_steep
  have hdeep : between.IsTooDeep page.path.parent := hpage ▸ isTooDeep_below hfree
  have hlevel : (CommandLine.Arguments.standard steep.settings).logLevel =
      some "ERROR".toList := by decide
  have hthreshold : Log.threshold? "ERROR".toList = some 40 := by decide
  have hmain : main steep [] .fresh bare = perform steep _ 40 .fresh bare :=
    main_eq_perform .fresh (parse_nil steep.settings) hlevel hthreshold
  constructor
  · have hwrite : (Output.write bare [module, page]).2 = some .tooDeep :=
      Output.write_eq_tooDeep_iff.2 ⟨[module], page, [], between, staged, rfl, hstage, hdeep⟩
    have hrun : (Run.run steep.settings steep.submodule (.standard steep.settings) bare).2.result =
        .error (.output .tooDeep) := by
      rw [Run.result_run, hprepare]
      simp only [hwrite]
    rw [hmain, exit_perform, hrun]
    rfl
  · have hstaged : Output.stage (Output.places [module, page]) bare [] [module, page] =
        (between, staged, some .tooDeep) := Output.stage_of_isTooDeep hstage hdeep
    rw [hmain, tree_perform, Run.fst_run_of_prepare hprepare, Output.isFolderAt_write_eq]
    exact (congrArg (fun staging => staging.1.isFolderAt [['x']]) hstaged).trans hfolder

/-- Not every crash leaves the tree as it was: the folder for the module has been made when there
turns out to be no room for those of the demo page. -/
theorem not_forall_tree_eq :
    ¬ ∀ (around : Surroundings) (words : List Text) (args : CommandLine.Arguments)
      (telemetry : Telemetry.State) (tree : Tree),
      CommandLine.parse around.settings words = .ok (.run args) →
      (∀ t ∈ args.outputs, '\x00' ∉ t) →
      (main around words telemetry tree).exit ≠ .code 0 →
      (∀ fault message, ¬ReportsFailedWriting around args tree
        (main around words telemetry tree) fault message) →
      (main around words telemetry tree).tree = tree := by
  intro hall
  obtain ⟨hexit, hafter⟩ := crash_steep
  have hcode : ∀ n, (main steep [] .fresh bare).exit ≠ .code n := by
    intro n hn
    rw [hexit] at hn
    cases hn
  have htree := hall steep [] _ .fresh bare (parse_nil steep.settings) (by decide +kernel)
    (hcode 0) fun _ _ hreports => hcode 1 hreports.exit
  rw [htree] at hafter
  exact absurd hafter (by decide)

end Program

end Iconsmith
