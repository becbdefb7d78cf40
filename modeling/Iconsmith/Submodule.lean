import Iconsmith.Text.Blank
import Iconsmith.Text.Quoted

set_option autoImplicit false

/-!
# The submodule of sources

The sources are refreshed by a command, whose outcome comes from outside. This
module holds the command and words what went wrong with it.
-/

namespace Iconsmith.Submodule

/-- The command that refreshes the sources. -/
def command : List Text :=
  ["git", "submodule", "update", "--remote", "--init", "--force", "--recursive"].map String.toList

/-- How a command ended: by itself with a status, by a signal, or it was not there
to be started. -/
inductive Ending where
  | exited (status : Nat) (errors : Text)
  | killed (signal : Nat) (errors : Text)
  | absent (program : Text)
  deriving DecidableEq

/-- Why the sources could not be refreshed. -/
inductive Fault where
  | status (status : Nat) (errors : Text)
  | signal (signal : Nat) (errors : Text)
  | absent (program : Text)
  deriving DecidableEq

/-- The fault of an ending, unless the command succeeded. -/
def Ending.fault? : Ending → Option Fault
  | .exited 0 _ => none
  | .exited n errors => some (.status n errors)
  | .killed n errors => some (.signal n errors)
  | .absent program => some (.absent program)

/-! ## Wording -/

/-- The signals with names. -/
def signalNames : List (Nat × String) :=
  [(1, "SIGHUP"), (2, "SIGINT"), (3, "SIGQUIT"), (4, "SIGILL"), (5, "SIGTRAP"), (6, "SIGABRT"),
    (7, "SIGBUS"), (8, "SIGFPE"), (9, "SIGKILL"), (10, "SIGUSR1"), (11, "SIGSEGV"),
    (12, "SIGUSR2"), (13, "SIGPIPE"), (14, "SIGALRM"), (15, "SIGTERM"), (16, "SIGSTKFLT"),
    (17, "SIGCHLD"), (18, "SIGCONT"), (19, "SIGSTOP"), (20, "SIGTSTP"), (21, "SIGTTIN"),
    (22, "SIGTTOU"), (23, "SIGURG"), (24, "SIGXCPU"), (25, "SIGXFSZ"), (26, "SIGVTALRM"),
    (27, "SIGPROF"), (28, "SIGWINCH"), (29, "SIGIO"), (30, "SIGPWR"), (31, "SIGSYS"),
    (34, "SIGRTMIN"), (64, "SIGRTMAX")]

/-- The command as it is shown. -/
def shownCommand : Text :=
  "Command '[".toList ++ Text.joined [',', ' '] (command.map Text.quoted) ++ "]' ".toList

/-- How a signal is shown. -/
def shownSignal (signal : Nat) : Text :=
  match signalNames.lookup signal with
  | some name => "<Signals.".toList ++ name.toList ++ ": ".toList ++ Text.ofNat signal ++ ['>']
  | none => "unknown signal ".toList ++ Text.ofNat signal

/-- What the command wrote, or how it ended if that is nothing but blanks. -/
def orElse (errors ending : Text) : Text :=
  if Text.strip errors = [] then ending else Text.strip errors

/-- The wording of a fault. -/
def Fault.message : Fault → Text
  | .status n errors =>
      orElse errors (shownCommand ++ "returned non-zero exit status ".toList ++
        Text.ofNat n ++ ['.'])
  | .signal n errors =>
      orElse errors (shownCommand ++ "died with ".toList ++ shownSignal n ++ ['.'])
  | .absent program => "[Errno 2] No such file or directory: ".toList ++ Text.quoted program

end Iconsmith.Submodule
