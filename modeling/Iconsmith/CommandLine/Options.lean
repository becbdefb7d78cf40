import Iconsmith.Assets.Load
import Iconsmith.Log
import Iconsmith.Settings

set_option autoImplicit false

/-!
# Options

The options of the command line with their names and help, and what a command line
asks for when all of them are put together.
-/

namespace Iconsmith.CommandLine

/-- What a command line asks for. An option that is given without a value leaves none. -/
structure Arguments where
  skipSubmodule : Bool
  assets : Option Text
  catalog : Option Text
  layout : Option Assets.LayoutChoice
  limit : Option Int
  output : Option Text
  demoOutput : Option Text
  moduleName : Option Text
  logLevel : Option Text
  deriving DecidableEq

/-- What is asked for when no option is given. -/
def Arguments.standard (s : Settings) : Arguments where
  skipSubmodule := false
  assets := some s.assets.text
  catalog := none
  layout := some .auto
  limit := none
  output := some s.index.text
  demoOutput := some s.demo.text
  moduleName := some s.moduleName
  logLevel := some (Text.capitals s.logLevel)

/-- An option. -/
inductive Flag where
  | help
  | skipSubmodule
  | assetsPath
  | catalog
  | layout
  | limit
  | output
  | demoOutput
  | moduleName
  | logLevel
  deriving DecidableEq

namespace Flag

/-- The options in the order of the help. -/
def all : List Flag :=
  [.help, .skipSubmodule, .assetsPath, .catalog, .layout, .limit, .output, .demoOutput,
    .moduleName, .logLevel]

/-- The names of an option. -/
def names : Flag → List Text
  | .help => ["-h".toList, "--help".toList]
  | .skipSubmodule => ["--skip-submodule".toList]
  | .assetsPath => ["--assets-path".toList]
  | .catalog => ["--catalog".toList]
  | .layout => ["--layout".toList]
  | .limit => ["--limit".toList]
  | .output => ["--output".toList]
  | .demoOutput => ["--demo-output".toList]
  | .moduleName => ["--module-name".toList]
  | .logLevel => ["--log-level".toList]

/-- The key under which the value of an option is kept: its long name with underscores
for the hyphens in it. -/
def key (f : Flag) : Text :=
  ((f.names.getLast?.getD []).drop 2).map fun c => if c = '-' then '_' else c

/-- The names of an option as a message shows them. -/
def title (f : Flag) : Text := Text.joined ['/'] f.names

/-- Every name with its option, in order. -/
def named : List (Text × Flag) := all.flatMap fun f => f.names.map fun name => (name, f)

/-- The option with a name. -/
def ofName? (name : Text) : Option Flag := named.lookup name

end Flag

/-- The levels that can be asked for. -/
def levelChoices : List Text := Log.Level.all.map Log.Level.name

/-- The layouts that can be asked for. -/
def layoutNames : List Text := Assets.layoutChoices.map Prod.fst

end Iconsmith.CommandLine
