import Iconsmith.CommandLine.Options
import Iconsmith.CommandLine.Template
import Iconsmith.Text.Wrap

set_option autoImplicit false

/-!
# Help

The usage, which also precedes complaints, and the full help. Each option has its
invocation on the left and its help in lines to the right; an invocation that is
too wide has a line of its own.
-/

namespace Iconsmith.CommandLine

/-- Lines of text, each with its end. -/
def textOfLines (lines : List Text) : Text := lines.flatMap fun line => line ++ ['\n']

/-! ## Fixed texts -/

/-- The name under which the program is started. -/
def programName : Text := "generate_icons.py".toList

/-- The usage. -/
def usage : Text :=
  textOfLines <| List.map String.toList
    ["usage: generate_icons.py [-h] [--skip-submodule] [--assets-path ASSETS_PATH]",
      "                         [--catalog CATALOG] [--layout \x7bauto,weight,icon\x7d]",
      "                         [--limit LIMIT] [--output OUTPUT]",
      "                         [--demo-output DEMO_OUTPUT]",
      "                         [--module-name MODULE_NAME]",
      "                         [--log-level \x7bDEBUG,INFO,WARNING,ERROR,CRITICAL\x7d]"]

/-- What the program is for. -/
def description : Text := "Generate the Phosphor Elm module from SVG icon sources".toList

/-- What follows the options: a summary, the usage in short, and examples. -/
def epilogue : Text :=
  textOfLines <| List.map String.toList
    ["Phosphor Elm Generator",
      "",
      "Refreshes the phosphor-icons/core submodule, converts every icon's six weights",
      "into elm/svg code and writes the Phosphor module plus a demo page.",
      "",
      "Usage:",
      "    python generate_icons.py [--skip-submodule] [--assets-path DIR] [--catalog FILE]",
      "                             [--layout \x7bauto,weight,icon\x7d] [--limit N]",
      "                             [--output FILE] [--demo-output FILE]",
      "",
      "Examples:",
      "    # Full run: update submodule, regenerate src/Phosphor.elm and example/src/Test.elm",
      "    python generate_icons.py",
      "",
      "    # Regenerate from the current checkout without touching git",
      "    python generate_icons.py --skip-submodule",
      "",
      "    # Only the first 10 icons of the catalog (useful for testing)",
      "    python generate_icons.py --skip-submodule --limit 10"]

/-! ## Options -/

/-- The help of an option, which is a template. The values of settings in it are too. -/
def Flag.helpText (s : Settings) : Flag → Text
  | .help => "show this help message and exit".toList
  | .skipSubmodule => "Do not run 'git submodule update' before generating".toList
  | .assetsPath => "Root of the SVG source tree (default: ".toList ++ s.assets.text ++ [')']
  | .catalog =>
      "JSON icon catalog (default: ".toList ++ s.catalog.text ++
        " if present, else the asset tree listing)".toList
  | .layout =>
      "Asset tree layout: one folder per weight or one per icon (default: auto)".toList
  | .limit =>
      "Limit processing to the first N icons of the catalog (useful for testing)".toList
  | .output => "Generated Elm module (default: ".toList ++ s.index.text ++ [')']
  | .demoOutput => "Generated demo page (default: ".toList ++ s.demo.text ++ [')']
  | .moduleName => "Elm module name (default: ".toList ++ s.moduleName ++ [')']
  | .logLevel => "Python logging level (default: ".toList ++ s.logLevel ++ [')']

/-- How the value of an option is called. -/
def Flag.valueName : Flag → Option Text
  | .help | .skipSubmodule => none
  | .assetsPath => some "ASSETS_PATH".toList
  | .catalog => some "CATALOG".toList
  | .layout => some ('\x7b' :: Text.joined [','] layoutNames ++ ['\x7d'])
  | .limit => some "LIMIT".toList
  | .output => some "OUTPUT".toList
  | .demoOutput => some "DEMO_OUTPUT".toList
  | .moduleName => some "MODULE_NAME".toList
  | .logLevel => some ('\x7b' :: Text.joined [','] levelChoices ++ ['\x7d'])

/-- How an option is invoked. -/
def Flag.invocation (f : Flag) : Text :=
  Text.joined [',', ' '] f.names ++
    match f.valueName with
    | some value => ' ' :: value
    | none => []

/-- The values that help may show: what is known about the option by name. -/
def Flag.facts (s : Settings) (f : Flag) : Template.Values :=
  let standard : Template.Value :=
    match f with
    | .help | .skipSubmodule => .no
    | .assetsPath => .text s.assets.text
    | .catalog | .limit => .nothing
    | .layout => .text "auto".toList
    | .output => .text s.index.text
    | .demoOutput => .text s.demo.text
    | .moduleName => .text s.moduleName
    | .logLevel => .text s.logLevel
  let choices : Template.Value :=
    match f with
    | .layout => .text (Text.joined [',', ' '] layoutNames)
    | .logLevel => .text (Text.joined [',', ' '] levelChoices)
    | _ => .nothing
  let kind : Template.Value :=
    match f with
    | .limit => .text "int".toList
    | .logLevel => .text "upper".toList
    | _ => .nothing
  [("option_strings".toList, .texts f.names), ("dest".toList, .text f.key),
    ("nargs".toList, .nothing), ("const".toList, .nothing), ("default".toList, standard),
    ("type".toList, kind), ("choices".toList, choices), ("required".toList, .no),
    ("help".toList, .text (f.helpText s)), ("metavar".toList, .nothing),
    ("prog".toList, .text programName)]

/-- The column at which the help of options begins. -/
def helpColumn : Nat := 24

/-- The width of the lines of help. -/
def helpWidth : Nat := 54

/-- The lines for an option, if its help can be expanded. -/
def Flag.lines (s : Settings) (f : Flag) : Except Template.Fault (List Text) :=
  (Template.expand (f.facts s) (f.helpText s)).map fun text =>
    let invocation := ' ' :: ' ' :: f.invocation
    let margin := List.replicate helpColumn ' '
    match Text.wrapped helpWidth (Text.asParagraph text) with
    | [] => [invocation]
    | first :: more =>
        let others := more.map fun line => margin ++ line
        if invocation.length + 2 ≤ helpColumn then
          (invocation ++ List.replicate (helpColumn - invocation.length) ' ' ++ first) :: others
        else invocation :: (margin ++ first) :: others

/-! ## The help -/

/-- The full help, if the help of every option can be expanded. -/
def help (s : Settings) : Except Template.Fault Text :=
  (Flag.all.mapM (Flag.lines s)).map fun lines =>
    usage ++ textOfLines ([[], description, [], "options:".toList] ++ lines.flatten ++ [[]]) ++
      epilogue

/-- The complaint about a command line, after the usage. -/
def complaint (message : Text) : Text :=
  usage ++ programName ++ ": error: ".toList ++ message ++ ['\n']

end Iconsmith.CommandLine
