import Iconsmith.Catalog.Names

set_option autoImplicit false

/-!
# Catalog entries

The catalog is the list of the icons to generate, in output order. Each entry has
a slug, which names its files, and a pascal name, from which its function is
named; it may carry an alias with names of its own.
-/

namespace Iconsmith

/-- A second name of an icon. -/
structure Alias where
  slug : Text
  pascal : Text
  deriving DecidableEq

/-- The function that re-exports the icon under this name. -/
def Alias.camel (a : Alias) : Text := Catalog.camelName a.pascal

/-- One icon of the catalog. -/
structure Entry where
  slug : Text
  pascal : Text
  aka : Option Alias
  deriving DecidableEq

namespace Entry

/-- The function generated for the icon. -/
def camel (e : Entry) : Text := Catalog.camelName e.pascal

/-- The names that the icon exports: its own and that of its alias. -/
def exportedNames (e : Entry) : List Text :=
  match e.aka with
  | some a => [e.camel, a.camel]
  | none => [e.camel]

/-- The entry of an icon that is known by its slug only. -/
def ofSlug (slug : Text) : Entry := ⟨slug, Catalog.pascalName slug, none⟩

end Entry

/-- The entries of icons that are known by their slugs only. -/
def Catalog.ofSlugs (slugs : List Text) : List Entry := slugs.map Entry.ofSlug

end Iconsmith
