import Iconsmith.CommandLine.Help
import Iconsmith.CommandLine.Parse
import Iconsmith.Run
import Iconsmith.Telemetry.Lifecycle

set_option autoImplicit false

/-!
# The program

From a command line and a directory tree to an exit, the texts on the two streams,
and the tree that is left. Telemetry is started before the run and stopped after
it, however the run ends.

Out of view are links, permissions, full disks, whatever stands above the working
directory, and the command that refreshes the sources, of which only the ending is
given. Words and names are texts, and the streams take every text.
-/

namespace Iconsmith.Program

/-- A fault that ends the program without a report. -/
inductive Crash where
  | unusableHelp (fault : CommandLine.Template.Fault)
  | unknownLogLevel (name : Text)
  | noLogLevel
  | stopped (stop : Run.Stop)
  deriving DecidableEq

/-- How the program ends: with a code, or with a crash. -/
inductive Exit where
  | code (n : Nat)
  | crash (c : Crash)
  deriving DecidableEq

/-- What surrounds the program: its settings, those of telemetry, how the command
that refreshes the sources would end, and whether colour is wanted. -/
structure Surroundings where
  settings : Settings
  telemetry : Telemetry.Settings
  submodule : Submodule.Ending
  colour : Bool

/-- What the program does. -/
structure Effect where
  exit : Exit
  output : Text
  errors : Text
  tree : Disk.Tree
  telemetry : Telemetry.State
  refreshed : Bool

/-- The exit and the closing events of a run. -/
def conclude : Except Run.Stop Generation.Batch → Exit × List Report.Event × List Report.Event
  | .ok batch => (.code 0, [], Generation.summary batch.passes batch.failures)
  | .error stop =>
      match stop.report? with
      | some event => (.code 1, [event], [])
      | none => (.crash (.stopped stop), [], [])

/-- Carries out a run that has been asked for, at a threshold of the log. -/
def perform (around : Surroundings) (args : CommandLine.Arguments) (threshold : Nat)
    (telemetry : Telemetry.State) (tree : Disk.Tree) : Effect :=
  let started := Telemetry.start around.telemetry telemetry
  let (tree, outcome) := Run.run around.settings around.submodule args tree
  let (exit, failure, summary) := conclude outcome.result
  let stopped := Telemetry.stop started.state
  let events := started.logs.map Report.Event.log ++ outcome.events ++ failure ++
    stopped.logs.map Report.Event.log ++ summary
  { exit := exit
    output := Report.textOn .output around.colour threshold events
    errors := Report.textOn .error around.colour threshold events
    tree := tree
    telemetry := stopped.state
    refreshed := !args.skipSubmodule }

/-- The program. -/
def main (around : Surroundings) (words : List Text) (telemetry : Telemetry.State)
    (tree : Disk.Tree) : Effect :=
  match CommandLine.parse around.settings words with
  | .error fault => ⟨.code 2, [], CommandLine.complaint fault.message, tree, telemetry, false⟩
  | .ok .help =>
      match CommandLine.help around.settings with
      | .ok help => ⟨.code 0, help, [], tree, telemetry, false⟩
      | .error fault => ⟨.crash (.unusableHelp fault), [], [], tree, telemetry, false⟩
  | .ok (.run args) =>
      match args.logLevel with
      | none => ⟨.crash .noLogLevel, [], [], tree, telemetry, false⟩
      | some level =>
          match Log.threshold? level with
          | none => ⟨.crash (.unknownLogLevel level), [], [], tree, telemetry, false⟩
          | some threshold => perform around args threshold telemetry tree

end Iconsmith.Program
