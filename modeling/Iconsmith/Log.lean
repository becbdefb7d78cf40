import Iconsmith.Text.Case

set_option autoImplicit false

/-!
# Log records

A record has a level, a source and a message, and is written on one line. Which
records are shown is decided by a threshold, which is a level or one of its other
names.
-/

namespace Iconsmith.Log

/-- How important a record is. -/
inductive Level where
  | debug
  | info
  | warning
  | error
  | critical
  deriving DecidableEq

/-- The name of a level. -/
def Level.name : Level → Text
  | .debug => "DEBUG".toList
  | .info => "INFO".toList
  | .warning => "WARNING".toList
  | .error => "ERROR".toList
  | .critical => "CRITICAL".toList

/-- The number of a level; records below a threshold are not shown. -/
def Level.number : Level → Nat
  | .debug => 10
  | .info => 20
  | .warning => 30
  | .error => 40
  | .critical => 50

/-- The levels in ascending order. -/
def Level.all : List Level := [.debug, .info, .warning, .error, .critical]

/-- The part of the program that made a record. -/
inductive Source where
  | assets
  | drawing
  | run
  | telemetry
  deriving DecidableEq

/-- The name under which a source appears. -/
def Source.name : Source → Text
  | .assets => "icon_loader".toList
  | .drawing => "svg_processor".toList
  | .run => "generate_icons".toList
  | .telemetry => "otel_config".toList

/-- A log record. -/
structure Record where
  level : Level
  source : Source
  message : Text
  deriving DecidableEq

/-- The line of a record. -/
def Record.line (r : Record) : Text :=
  r.level.name ++ ' ' :: r.source.name ++ ':' :: ' ' :: r.message

/-! ## Thresholds -/

/-- The thresholds that can be set by name, with the least number shown. -/
def thresholds : List (Text × Nat) :=
  Level.all.map (fun level => (level.name, level.number)) ++
    [("WARN".toList, 30), ("FATAL".toList, 50), ("NOTSET".toList, 0)]

/-- The threshold with a name. -/
def threshold? (name : Text) : Option Nat := thresholds.lookup name

/-- Whether a record is shown at a threshold. -/
def Record.shownAt (threshold : Nat) (r : Record) : Bool := threshold ≤ r.level.number

end Iconsmith.Log
