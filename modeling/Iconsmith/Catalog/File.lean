import Iconsmith.Catalog.Manifest
import Iconsmith.Disk.Tree
import Iconsmith.Json.Reader

set_option autoImplicit false

/-!
# Catalog files

A catalog file is a manifest in UTF-8. Its line ends are read as line feeds before
anything else, so that places in complaints count them as one character.
-/

namespace Iconsmith.Catalog

/-- Why there is no catalog: the file cannot be read, is not UTF-8, is not JSON,
holds a number that is too long, nests its values too deep, holds a string that is
no text, or is not the manifest of a catalog. -/
inductive Fault where
  | access (fault : Disk.AccessFault)
  | notUtf8
  | notJson (document : Text) (place : Json.Located)
  | hugeInteger
  | tooDeep
  | loneSurrogate
  | unfit (reason : Unfit)
  deriving DecidableEq

/-- The catalog in the bytes of a file. -/
def ofBytes (bytes : List UInt8) : Except Fault (List Entry) :=
  match Text.Utf8.decode? bytes with
  | none => .error .notUtf8
  | some raw =>
      match Json.read (Text.withLineFeeds raw) with
      | .error (.syntactic place) => .error (.notJson (Text.withLineFeeds raw) place)
      | .error .hugeInteger => .error .hugeInteger
      | .error .tooDeep => .error .tooDeep
      | .error .loneSurrogate => .error .loneSurrogate
      | .ok manifest =>
          match ofJson manifest with
          | .ok entries => .ok entries
          | .error reason => .error (.unfit reason)

/-- The catalog in the file at a path. -/
def load (tree : Disk.Tree) (path : Text) : Except Fault (List Entry) :=
  match tree.readText path with
  | .error fault => .error (.access fault)
  | .ok bytes => ofBytes bytes

/-! ## Wording -/

/-- The wording of faults that are reported, of an invalid catalog the line before its issues. The
others stop the program. -/
def Fault.message? (path : Text) : Fault → Option Text
  | .access (.refused r) =>
      some ("Could not read catalog ".toList ++ path ++ ": ".toList ++ r.message)
  | .notJson document place =>
      some ("Could not read catalog ".toList ++ path ++ ": ".toList ++ place.message document)
  | .unfit (.invalid issues) =>
      let noun := if issues.length = 1 then " validation error for " else " validation errors for "
      some ("Invalid catalog ".toList ++ path ++ ": ".toList ++ Text.ofNat issues.length ++
        noun.toList ++ "IconCatalogEntry".toList)
  | .access .nul | .notUtf8 | .hugeInteger | .tooDeep | .loneSurrogate | .unfit .noItems => none

end Iconsmith.Catalog
