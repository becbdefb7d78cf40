import Iconsmith.CommandLine.Options
import Iconsmith.Text.Digit
import Iconsmith.Text.Quoted

set_option autoImplicit false

/-!
# Reading the command line

Words are sorted into options and values first, which fails when a shortened name
fits several options. Then the options are taken from left to right, each with its
value, and the first fault ends the reading. Words that belong to no option are
refused at the end, all together. A double hyphen ends the options; as the value of an option it
leaves the option without one.
-/

namespace Iconsmith.CommandLine

/-! ## Faults -/

/-- What is wrong with a command line. -/
inductive Fault where
  | ambiguous (word : Text) (matching : List Text)
  | missingValue (flag : Flag)
  | unwantedValue (flag : Flag) (value : Text)
  | notANumber (flag : Flag) (value : Text)
  | notAChoice (flag : Flag) (value : Text) (choices : List Text)
  | unrecognized (words : List Text)
  deriving DecidableEq

/-- A complaint about an option. -/
def about (flag : Flag) (complaint : Text) : Text :=
  "argument ".toList ++ flag.title ++ ": ".toList ++ complaint

/-- The wording of a fault. -/
def Fault.message : Fault → Text
  | .ambiguous word matching =>
      "ambiguous option: ".toList ++ word ++ " could match ".toList ++
        Text.joined [',', ' '] matching
  | .missingValue flag => about flag "expected one argument".toList
  | .unwantedValue flag value =>
      about flag ("ignored explicit argument ".toList ++ Text.quoted value)
  | .notANumber flag value => about flag ("invalid int value: ".toList ++ Text.quoted value)
  | .notAChoice flag value choices =>
      about flag ("invalid choice: ".toList ++ Text.quoted value ++ " (choose from ".toList ++
        Text.joined [',', ' '] (choices.map Text.quoted) ++ [')'])
  | .unrecognized words => "unrecognized arguments: ".toList ++ Text.joined [' '] words

/-! ## Sorting words -/

/-- What a word is: an option, perhaps with a value after an equals sign, a cluster
of letters after a single hyphen, an option that does not exist, or a value. -/
inductive Word where
  | flag (f : Flag) (value : Option Text)
  | cluster (f : Flag) (tail : Text)
  | unknown
  | value
  deriving DecidableEq

/-- Whether a text is a negative number: digits after a hyphen, perhaps with a
point, which has digits after it. A line feed may follow. -/
def isNegativeNumber (t : Text) : Bool :=
  match t with
  | '-' :: rest =>
      let body := if rest.getLast? = some '\n' then rest.dropLast else rest
      match Text.cutFirst '.' body with
      | none => body ≠ [] && body.all Text.isDigit
      | some (whole, decimals) =>
          whole.all Text.isDigit && decimals ≠ [] && decimals.all Text.isDigit
  | _ => false

/-- A word cut at its first equals sign. -/
def cutEquals (t : Text) : Text × Option Text :=
  match Text.cutFirst '=' t with
  | some (name, value) => (name, some value)
  | none => (t, none)

/-- The names of options of which a text is the beginning. -/
def namesFrom (start : Text) : List (Text × Flag) :=
  Flag.named.filter fun row => start.isPrefixOf row.1

/-- What a word is that begins with a hyphen and is no option, not even shortened. -/
def sortOther (t : Text) : Word :=
  if isNegativeNumber t || t.contains ' ' then .value else .unknown

/-- Sorts a word. Names that begin with two hyphens may be shortened. -/
def sortWord (t : Text) : Except Fault Word :=
  match t with
  | '-' :: c :: rest =>
      match Flag.ofName? t, cutEquals t with
      | some f, _ => .ok (.flag f none)
      | none, (name, value) =>
          match value.bind fun _ => Flag.ofName? name, value with
          | some f, some (d :: letters) =>
              .ok (if c = '-' then .flag f value else .cluster f (d :: letters))
          | some f, _ => .ok (.flag f value)
          | none, _ =>
              if c = '-' then
                match namesFrom name with
                | [] => .ok (sortOther t)
                | [(_, f)] => .ok (.flag f value)
                | several => .error (.ambiguous t (several.map Prod.fst))
              else
                match Flag.ofName? ['-', c] with
                | some f => .ok (.cluster f rest)
                | none => .ok (sortOther t)
  | _ => .ok .value

/-- The end of the options. -/
def endOfOptions : Text := ['-', '-']

/-- Sorts the words before a double hyphen. All that follow it are values. -/
def sortWords : List Text → Except Fault (List (Text × Word))
  | [] => .ok []
  | t :: more =>
      if t = endOfOptions then .ok ((t, .unknown) :: more.map fun u => (u, .value))
      else
        match sortWord t with
        | .error e => .error e
        | .ok word => (sortWords more).map ((t, word) :: ·)

/-! ## Taking options -/

/-- What is asked for once a value has been given to an option. -/
def setValue (f : Flag) (value : Text) (args : Arguments) : Except Fault Arguments :=
  match f with
  | .help | .skipSubmodule => .error (.unwantedValue f value)
  | .assetsPath => .ok { args with assets := some value }
  | .catalog => .ok { args with catalog := some value }
  | .layout =>
      match Assets.LayoutChoice.ofName? value with
      | some choice => .ok { args with layout := some choice }
      | none => .error (.notAChoice f value layoutNames)
  | .limit =>
      match Text.toInt? value with
      | some n => .ok { args with limit := some n }
      | none => .error (.notANumber f value)
  | .output => .ok { args with output := some value }
  | .demoOutput => .ok { args with demoOutput := some value }
  | .moduleName => .ok { args with moduleName := some value }
  | .logLevel =>
      let level := Text.capitals value
      if levelChoices.contains level then .ok { args with logLevel := some level }
      else .error (.notAChoice f level levelChoices)

/-- What is asked for once an option has been left without a value. -/
def clearValue (f : Flag) (args : Arguments) : Except Fault Arguments :=
  match f with
  | .help | .skipSubmodule => .error (.unwantedValue f endOfOptions)
  | .assetsPath => .ok { args with assets := none }
  | .catalog => .ok { args with catalog := none }
  | .layout => .ok { args with layout := none }
  | .limit => .ok { args with limit := none }
  | .output => .ok { args with output := none }
  | .demoOutput => .ok { args with demoOutput := none }
  | .moduleName => .ok { args with moduleName := none }
  | .logLevel => .ok { args with logLevel := none }

/-- What is asked for after an option with a text as its value. -/
def give (f : Flag) (value : Text) (args : Arguments) : Except Fault Arguments :=
  if value = endOfOptions then clearValue f args else setValue f value args

/-- What a command line asks for: help, or a run. -/
inductive Request where
  | help
  | run (args : Arguments)
  deriving DecidableEq

/-- Reads the letters after a single letter that stands for an option without a value. They
have to stand for such options too. -/
def clusterFault (f : Flag) : Text → Option Fault
  | [] => none
  | c :: rest =>
      match Flag.ofName? ['-', c] with
      | some g => clusterFault g rest
      | none => some (.unwantedValue f (c :: rest))

/-- Takes the words from left to right. `extra` collects those that belong to no
option. The help is given as soon as it is asked for. -/
def takeWords (extra : List Text) (args : Arguments) :
    List (Text × Word) → Except Fault Request
  | [] => if extra = [] then .ok (.run args) else .error (.unrecognized extra)
  | (_, .flag f (some value)) :: more =>
      match give f value args with
      | .ok args => takeWords extra args more
      | .error e => .error e
  | (_, .flag .help none) :: _ => .ok .help
  | (_, .flag .skipSubmodule none) :: more =>
      takeWords extra { args with skipSubmodule := true } more
  | (_, .flag f none) :: (value, .value) :: more =>
      match setValue f value args with
      | .ok args => takeWords extra args more
      | .error e => .error e
  | (_, .flag f none) :: _ => .error (.missingValue f)
  | (_, .cluster f tail) :: _ =>
      match clusterFault f tail with
      | some fault => .error fault
      | none => .ok .help
  | (t, .unknown) :: more | (t, .value) :: more => takeWords (extra ++ [t]) args more

/-- Reads a command line. -/
def parse (s : Settings) (words : List Text) : Except Fault Request :=
  match sortWords words with
  | .error e => .error e
  | .ok sorted => takeWords [] (Arguments.standard s) sorted

end Iconsmith.CommandLine
