import Iconsmith.Elm.Module

set_option autoImplicit false

/-!
# The demo page

A page that shows every icon in the weight that is selected and in all six. Words
in the fixed text stand for its parts and are replaced one after another, so the
text of a part may hold the words of later ones.
-/

namespace Iconsmith.Elm

/-- The page with words for its parts. -/
def page : Text :=
  ofLines
    ["module Test exposing (..)",
     "",
     "import Browser",
     "import Html exposing (..)",
     "import Html.Attributes exposing (..)",
     "import Html.Events exposing (onClick, onInput)",
     "import MODULE exposing (IconWeight(..), toHtml)",
     "",
     "",
     "",
     "-- MAIN",
     "",
     "",
     "main =",
     "    Browser.sandbox \x7b init = init, update = update, view = view \x7d",
     "",
     "",
     "",
     "-- MODEL",
     "",
     "",
     "type alias Model =",
     "    \x7b weight : IconWeight",
     "    , size : Float",
     "    \x7d",
     "",
     "",
     "init : Model",
     "init =",
     "    Model Thin INITIAL_SIZE",
     "",
     "",
     "",
     "-- UPDATE",
     "",
     "",
     "type Msg",
     "    = SetWeight String",
     "    | SetSize String",
     "    | Reset",
     "    | NoOp",
     "",
     "",
     "update : Msg -> Model -> Model",
     "update msg model =",
     "    case msg of",
     "        SetWeight weight ->",
     "            \x7b model | weight = parseWeight weight \x7d",
     "",
     "        SetSize size ->",
     "            \x7b model | size = clamp MIN_SIZE MAX_SIZE (size |> String.toFloat |> Maybe.withDefault DEFAULT_SIZE) \x7d",
     "",
     "        Reset ->",
     "            init",
     "",
     "        NoOp ->",
     "            model",
     "",
     "",
     "parseWeight : String -> IconWeight",
     "parseWeight weight =",
     "    case weight of",
     "PARSE_WEIGHT_BRANCHES",
     "        _ ->",
     "            Regular",
     "",
     "",
     "css =",
     "    \"\"\"",
     "    body \x7b",
     "        color: white;",
     "        background-color: #35313D;",
     "        font-family: monospace;",
     "    \x7d",
     "",
     "    h2 \x7b",
     "        color: darkgrey;",
     "    \x7d",
     "",
     "    .row \x7b",
     "        display: flex;",
     "        justify-content: center;",
     "        gap: 32px;",
     "        margin: 32px;",
     "    \x7d",
     "    \"\"\"",
     "",
     "",
     "",
     "-- VIEW",
     "",
     "",
     "view : Model -> Html Msg",
     "view model =",
     "    let",
     "        fontSize =",
     "            String.fromFloat model.size ++ \"px\"",
     "    in",
     "    div",
     "        [ style \"font-size\" fontSize ]",
     "        [ Html.node \"style\" [] [ text css ]",
     "        , div",
     "            [ style \"position\" \"fixed\"",
     "            , style \"bottom\" \"0\"",
     "            , style \"left\" \"0\"",
     "            , style \"right\" \"0\"",
     "            , style \"z-index\" \"1\"",
     "            , style \"display\" \"flex\"",
     "            , style \"gap\" \"16px\"",
     "            , style \"justify-content\" \"center\"",
     "            , style \"align-items\" \"center\"",
     "            , style \"padding\" \"16px\"",
     "            ]",
     "            [ select [ onInput SetWeight, style \"height\" \"21px\" ]",
     "WEIGHT_OPTIONS",
     "                ]",
     "            , input",
     "                [ type_ \"number\"",
     "                , placeholder \"Size\"",
     "                , value <| String.fromFloat model.size",
     "                , onInput SetSize",
     "                ]",
     "                []",
     "            , button",
     "                [ onClick Reset ]",
     "                [ text \"Reset\" ]",
     "            ]",
     "ICON_ROWS",
     "        ]",
     ""]

/-! ## Parts -/

/-- The branch that reads the name of a weight. -/
def weightBranch (weight : Weight) : Text :=
  "        \"".toList ++ weight.name ++ "\" ->\n            ".toList ++ weight.label ++ ['\n']

/-- The branches that read the names of weights; regular is what other names mean. -/
def weightBranches : Text :=
  Text.joined ['\n'] ((Weight.all.filter (· ≠ .regular)).map weightBranch)

/-- The option that selects a weight. -/
def weightOption (weight : Weight) : Text :=
  "option [ value \"".toList ++ weight.name ++ "\" ] [ text \"".toList ++ weight.label ++
    "\" ]".toList

/-- The options that select the weights. -/
def weightOptions : Text :=
  "                [ ".toList ++
    Text.joined "\n                , ".toList (Weight.all.map weightOption)

/-- A cell that shows an icon in a weight. -/
def cell (moduleName name weight : Text) : Text :=
  moduleName ++ '.' :: name ++ ' ' :: weight ++ " |> toHtml []".toList

/-- The row that shows an icon: in the weight selected, and in each of the six. -/
def row (moduleName name : Text) : Text :=
  "        , div [ class \"row\" ]\n            [ ".toList ++
    Text.joined "\n            , ".toList
      (cell moduleName name "model.weight".toList ::
        Weight.all.map fun weight => cell moduleName name weight.label) ++
    "\n            ]".toList

/-- The rows for some icons. -/
def rows (moduleName : Text) (names : List Text) : Text :=
  match names with
  | [] => []
  | _ => Text.joined ['\n'] (names.map (row moduleName)) ++ ['\n']

/-! ## Assembly -/

/-- The words of the page with the text for each, in the order in which they are
replaced. -/
def pageParts (names : List Text) (moduleName : Text) : List (Text × Text) :=
  [("MODULE".toList, moduleName), ("INITIAL_SIZE".toList, Text.ofNat 64),
    ("MIN_SIZE".toList, Text.ofNat 4), ("MAX_SIZE".toList, Text.ofNat 2000),
    ("DEFAULT_SIZE".toList, Text.ofNat 128), ("PARSE_WEIGHT_BRANCHES".toList, weightBranches),
    ("WEIGHT_OPTIONS".toList, weightOptions), ("ICON_ROWS\n".toList, rows moduleName names)]

/-- The demo page for the icons of a module. -/
def demoPage (names : List Text) (moduleName : Text) : Text :=
  (pageParts names moduleName).foldl (fun t part => Text.replaceAll part.1 part.2 t) page

end Iconsmith.Elm
