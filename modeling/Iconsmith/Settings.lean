import Iconsmith.Disk.Path

set_option autoImplicit false

/-!
# Settings

Where the sources are and where the outputs go, unless the command line says
otherwise. Every setting but the root has a variable of the environment.
-/

namespace Iconsmith

/-- The settings of the program. -/
structure Settings where
  root : Disk.Path
  assets : Disk.Path
  catalog : Disk.Path
  index : Disk.Path
  demo : Disk.Path
  moduleName : Text
  previews : Text
  logLevel : Text
  deriving DecidableEq

namespace Settings

/-- A path below another. -/
def below (root : Disk.Path) (parts : List String) : Disk.Path :=
  root.join ⟨.here, parts.map String.toList⟩

/-- Where pictures of the icons are found. -/
def standardPreviews : Text :=
  "https://raw.githubusercontent.com/phosphor-icons/core/main/assets/regular".toList

/-- The variables that make settings. -/
def variableNames : List String :=
  ["PHOSPHOR_ASSETS_PATH", "PHOSPHOR_CATALOG_PATH", "PHOSPHOR_INDEX_PATH", "PHOSPHOR_TEST_PATH",
    "PHOSPHOR_MODULE_NAME", "PHOSPHOR_PREVIEW_URL", "LOG_LEVEL"]

/-- The settings of an environment, for a program that lives in the folder `root`. -/
def ofEnvironment (root : Disk.Path) (lookup? : Text → Option Text) : Settings :=
  let path := fun (name : String) (standard : Disk.Path) =>
    ((lookup? name.toList).map Disk.Path.ofText).getD standard
  let text := fun (name : String) (standard : Text) => (lookup? name.toList).getD standard
  { root := root
    assets := path "PHOSPHOR_ASSETS_PATH" (below root ["core", "assets"])
    catalog := path "PHOSPHOR_CATALOG_PATH" (below root ["core", "icons.json"])
    index := path "PHOSPHOR_INDEX_PATH" (below root ["src", "Phosphor.elm"])
    demo := path "PHOSPHOR_TEST_PATH" (below root ["example", "src", "Test.elm"])
    moduleName := text "PHOSPHOR_MODULE_NAME" "Phosphor".toList
    previews := text "PHOSPHOR_PREVIEW_URL" standardPreviews
    logLevel := text "LOG_LEVEL" "WARNING".toList }

/-- The settings when nothing is set. -/
def standard (root : Disk.Path) : Settings := ofEnvironment root fun _ => none

end Settings

end Iconsmith
