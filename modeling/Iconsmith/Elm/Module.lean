import Iconsmith.Elm.Icon

set_option autoImplicit false

/-!
# The icon module

The generated module has a header, which lists and documents what it exports, a
fixed supporting part, and the functions of the icons, each followed by its alias
if there is one. In the fixed texts the word MODULE stands for the name of the
module, and ICON_NAMES for the names of the icons.
-/

namespace Iconsmith.Elm

/-- A text of several lines. -/
def ofLines (lines : List String) : Text := Text.joined ['\n'] (lines.map String.toList)

/-! ## Fixed texts -/

/-- The exports of the supporting part. -/
def supportExports : List Text :=
  ["Icon, IconWeight(..), IconVariant, toHtml".toList,
    "withClass, withSize, withSizeUnit".toList,
    "customIcon".toList]

/-- The documentation of the module. -/
def documentation : Text :=
  ofLines
    ["\x7b-|",
     "",
     "",
     "# Basic Usage",
     "",
     "All icons have six weights; Regular, Thin, Light, Bold, Fill, and Duotone. Rendering an icon requires just a template and a weight:",
     "",
     "    cube : Html msg",
     "    cube =",
     "        MODULE.cube Bold",
     "            |> MODULE.toHtml []",
     "",
     "Change `MODULE.cube` to the icon you prefer, a list of all icons is visible here: <https://phosphoricons.com>",
     "",
     "All icons of this package are provided as the internal type `Icon`. To turn them into an `Html msg`, simply use the `toHtml` function.",
     "",
     "@docs Icon, IconWeight, IconVariant, toHtml",
     "",
     "",
     "# Customize Icons",
     "",
     "Phosphor Icons are `1em` by default, and come with the class `ph-icon`.",
     "To customize its class and size attributes simply use the `withClass` and `withSize` functions before turning them into Html with `toHtml`.",
     "",
     "@docs withClass, withSize, withSizeUnit",
     "",
     "",
     "# New Custom Icons",
     "",
     "If you'd like to use same API while creating personally designed icons, you can use the `customIcon` function. You have to provide it with a `List (Svg Never)` that will be embedded into the icon.",
     "",
     "@docs customIcon",
     "",
     "",
     "# IconList",
     "",
     "@docs ICON_NAMES",
     "",
     "-\x7d",
     ""]

/-- The supporting part of the module. -/
def support : Text :=
  ofLines
    ["import Html exposing (Html)",
     "import Json.Encode",
     "import Svg as S exposing (Svg, svg)",
     "import Svg.Attributes as A",
     "import VirtualDom",
     "",
     "",
     "\x7b-| Visual variant of the icon",
     "-\x7d",
     "type IconWeight",
     "    = Thin",
     "    | Light",
     "    | Regular",
     "    | Bold",
     "    | Fill",
     "    | Duotone",
     "",
     "",
     "\x7b-| Customizable attributes of an icon",
     "-\x7d",
     "type alias IconAttributes =",
     "    \x7b size : Float",
     "    , sizeUnit : String",
     "    , class : Maybe String",
     "    \x7d",
     "",
     "",
     "\x7b-| Default attributes of the icon",
     "-\x7d",
     "defaultAttributes : IconAttributes",
     "defaultAttributes =",
     "    \x7b size = 1",
     "    , sizeUnit = \"em\"",
     "    , class = Just \"ph-icon\"",
     "    \x7d",
     "",
     "",
     "\x7b-| Type representing icon builder",
     "-\x7d",
     "type alias Icon =",
     "    IconWeight -> IconVariant",
     "",
     "",
     "\x7b-| Opaque type representing builder output",
     "-\x7d",
     "type IconVariant",
     "    = IconVariant",
     "        \x7b attrs : IconAttributes",
     "        , src : List (Svg Never)",
     "        \x7d",
     "",
     "",
     "\x7b-| Build custom svg icon",
     "",
     "    [ Svg.line [ x1 \"21\", y1 \"10\", x2 \"3\", y2 \"10\" ]",
     "    , Svg.line [ x1 \"21\", y1 \"6\", x2 \"3\", y2 \"6\" ]",
     "    , Svg.line [ x1 \"21\", y1 \"14\", x2 \"3\", y2 \"14\" ]",
     "    , Svg.line [ x1 \"21\", y1 \"18\", x2 \"3\", y2 \"18\" ]",
     "    ]",
     "        |> customIcon",
     "        |> withSize 26",
     "        |> toHtml []",
     "",
     "-\x7d",
     "customIcon : List (Svg Never) -> IconVariant",
     "customIcon src =",
     "    IconVariant",
     "        \x7b src = src",
     "        , attrs = IconAttributes 1 \"em\" (Just \"ph-icon custom\")",
     "        \x7d",
     "",
     "",
     "\x7b-| Set size attribute of an icon",
     "",
     "    MODULE.download Regular",
     "        |> MODULE.withSize 10",
     "        |> MODULE.toHtml []",
     "",
     "-\x7d",
     "withSize : Float -> IconVariant -> IconVariant",
     "withSize size (IconVariant \x7b attrs, src \x7d) =",
     "    IconVariant \x7b attrs = \x7b attrs | size = size \x7d, src = src \x7d",
     "",
     "",
     "\x7b-| Set unit of size attribute of an icon, one of: \"em\", \"ex\", \"px\", \"in\", \"cm\", \"mm\", \"pt\", \"pc\", \"%\"",
     "",
     "    MODULE.download Regular",
     "        |> MODULE.withSize 50",
     "        |> MODULE.withSizeUnit \"%\"",
     "        |> MODULE.toHtml []",
     "",
     "-\x7d",
     "withSizeUnit : String -> IconVariant -> IconVariant",
     "withSizeUnit sizeUnit (IconVariant \x7b attrs, src \x7d) =",
     "    IconVariant \x7b attrs = \x7b attrs | sizeUnit = sizeUnit \x7d, src = src \x7d",
     "",
     "",
     "\x7b-| Overwrite class attribute of an icon",
     "",
     "    MODULE.download Regular",
     "        |> MODULE.withClass \"custom-clazz\"",
     "        |> MODULE.toHtml []",
     "",
     "-\x7d",
     "withClass : String -> IconVariant -> IconVariant",
     "withClass class (IconVariant \x7b attrs, src \x7d) =",
     "    IconVariant \x7b attrs = \x7b attrs | class = Just class \x7d, src = src \x7d",
     "",
     "",
     "\x7b-| Build an icon, ready to use in html. It accepts list of svg attributes, for example in case if you want to add an event handler.",
     "",
     "    MODULE.download Regular",
     "        |> MODULE.withSize 10",
     "        |> MODULE.withClass \"custom-clazz\"",
     "        |> MODULE.toHtml [ onClick Download ]",
     "",
     "-\x7d",
     "toHtml : List (S.Attribute msg) -> IconVariant -> Html msg",
     "toHtml attributes (IconVariant \x7b src, attrs \x7d) =",
     "    let",
     "        strSize =",
     "            attrs.size |> String.fromFloat",
     "",
     "        baseAttributes =",
     "            [ xmlns \"http://www.w3.org/2000/svg\"",
     "            , A.fill \"currentColor\"",
     "            , A.height <| strSize ++ attrs.sizeUnit",
     "            , A.width <| strSize ++ attrs.sizeUnit",
     "            , A.stroke \"currentColor\"",
     "            , A.strokeLinecap \"round\"",
     "            , A.strokeLinejoin \"round\"",
     "            , A.viewBox \"0 0 256 256\"",
     "            ]",
     "",
     "        combinedAttributes =",
     "            (case attrs.class of",
     "                Just c ->",
     "                    A.class c :: baseAttributes",
     "",
     "                Nothing ->",
     "                    baseAttributes",
     "            )",
     "                ++ attributes",
     "    in",
     "    src",
     "        |> List.map (S.map never)",
     "        |> svg combinedAttributes",
     "",
     "",
     "xmlns : String -> S.Attribute a",
     "xmlns s =",
     "    VirtualDom.property \"xmlns\" <| Json.Encode.string s",
     "",
     "",
     "makeBuilder : List (Svg Never) -> IconVariant",
     "makeBuilder src =",
     "    IconVariant \x7b attrs = defaultAttributes, src = src \x7d",
     "",
     "",
     ""]

/-! ## Assembly -/

/-- A text with the name of the module put in. -/
def named (moduleName t : Text) : Text := Text.replaceAll "MODULE".toList moduleName t

/-- The documentation of a module that exports some icons. Without any, the line
for their names goes. -/
def documentationOf (names : List Text) : Text :=
  match names with
  | [] => Text.replaceAll "\n@docs ICON_NAMES\n".toList [] documentation
  | _ => Text.replaceAll "ICON_NAMES".toList (Text.joined [',', ' '] names) documentation

/-- The header of a module that exports some icons. -/
def header (names : List Text) (moduleName : Text) : Text :=
  "module ".toList ++ moduleName ++ " exposing\n    ( ".toList ++
    Text.joined "\n    , ".toList (supportExports ++ names) ++ "\n    )\n\n".toList ++
    named moduleName (documentationOf names) ++ ['\n']

/-- The function of an icon and that of its alias. -/
def definitions? (previews : Text) (icon : Generated) : Option Text :=
  (iconFunction? previews icon).map fun text =>
    text ++ (aliasFunction? previews icon.entry).getD []

/-- The module of some icons, if each has an expression for every weight. -/
def moduleText? (previews : Text) (icons : List Generated) (moduleName : Text) : Option Text :=
  (icons.mapM (definitions? previews)).map fun definitions =>
    header (icons.flatMap Generated.exportedNames) moduleName ++ named moduleName support ++
      definitions.flatten

end Iconsmith.Elm
