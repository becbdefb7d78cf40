import Iconsmith.Elm.Module
import Iconsmith.Proofs.Catalog.Names
import Iconsmith.Proofs.Generation
import Iconsmith.Proofs.Table
import Mathlib.Data.List.Flatten

set_option autoImplicit false

/-!
# What a module exports

A module exports the names of its icons and of their aliases. Nothing keeps these apart: they are
distinct, and other than the names that the supporting part defines, for all tables of icons
exactly if this is so of the names in the catalog (`canExport_iff`). Entries that are made of slugs
have such names when the slugs are distinct, are written in kebab case, and none stands for a
name of the supporting part.
-/

namespace Iconsmith

/-! ## Names of the supporting part -/

namespace Elm

/-- The names that the supporting part defines. -/
def supportNames : List Text :=
  ["defaultAttributes", "customIcon", "withSize", "withSizeUnit", "withClass", "toHtml", "xmlns",
    "makeBuilder"].map String.toList

/-- Names that a module can export: they are distinct, and the supporting part does not define
them. -/
def CanExport (names : List Text) : Prop := names.Nodup ∧ ∀ name ∈ names, name ∉ supportNames

instance : DecidablePred CanExport := fun names =>
  inferInstanceAs (Decidable (names.Nodup ∧ ∀ name ∈ names, name ∉ supportNames))

/-- The names that a module of some icons exports. -/
def exports (icons : List Generated) : List Text := icons.flatMap Generated.exportedNames

theorem CanExport.sublist {names more : List Text} (h : CanExport more)
    (hsub : List.Sublist names more) : CanExport names :=
  ⟨h.1.sublist hsub, fun name hname => h.2 name (hsub.mem hname)⟩

end Elm

/-! ## Exports of generated icons -/

namespace Generation

open Assets Elm

/-- The entries of generated icons are entries of the catalog in its order, and the icons export
what these do. -/
theorem exports_sublist {catalog : List Entry} {icons : IconTable} {limit : Option Int}
    {batch : Batch} (h : (generate catalog icons limit).result = .ok batch) :
    List.Sublist (exports batch.icons) (catalog.flatMap Entry.exportedNames) := by
  obtain ⟨hshows, -⟩ := forall₂_generateEach h
  rw [exports, (exportedNames_of_shows hshows).1]
  have hlimited : List.Sublist (limited limit catalog) catalog := by
    rw [limited.eq_def]
    split
    · exact List.take_sublist _ _
    · exact List.Sublist.refl _
  exact (List.filter_sublist.trans hlimited).flatMap _

/-- A record of drawings with nothing in them. -/
def blankRecord : Record := Table.ofList (Weight.all.map fun w => (w, "<svg/>".toList))

theorem result_generateIcon_blankRecord (entry : Entry) :
    ∃ icon : Generated, (generateIcon entry blankRecord).result = .ok (some icon) ∧
      icon.entry = entry :=
  ⟨_, rfl, rfl⟩

/-- A table in which every entry of a catalog has drawings. -/
def blankTable (catalog : List Entry) : IconTable :=
  Table.ofList ((catalog.map Entry.slug).map fun slug => (slug, blankRecord))

/-- Where every entry has drawings, all of them become icons. -/
theorem exists_generateEach {icons : IconTable} {entries : List Entry}
    (hicons : ∀ e ∈ entries, icons.get? e.slug = some blankRecord) :
    ∃ batch, (generateEach icons entries).result = .ok batch ∧
      exports batch.icons = entries.flatMap Entry.exportedNames := by
  induction entries with
  | nil => exact ⟨⟨[], 0, 0⟩, rfl, rfl⟩
  | cons entry entries ih =>
      obtain ⟨hfirst, hothers⟩ := List.forall_mem_cons.1 hicons
      obtain ⟨batch, hbatch, hexports⟩ := ih hothers
      obtain ⟨icon, hicon, hentry⟩ := result_generateIcon_blankRecord entry
      refine ⟨⟨icon :: batch.icons, batch.passes + 1, batch.failures⟩, ?_, ?_⟩
      · rw [generateEach, hfirst, Option.getD_some, Outcome.result_bind_of_ok _ hicon]
        simp only
        rw [Outcome.result_bind_of_ok (a := ()) _ rfl, Outcome.result_bind_of_ok _ hbatch]
        rfl
      · rw [exports] at hexports ⊢
        rw [List.flatMap_cons, List.flatMap_cons, hexports, Generated.exportedNames, hentry]

theorem exists_generate_blankTable (catalog : List Entry) :
    ∃ batch, (generate catalog (blankTable catalog) none).result = .ok batch ∧
      exports batch.icons = catalog.flatMap Entry.exportedNames :=
  exists_generateEach fun _ he => Table.get?_ofList_const (List.mem_map_of_mem he) blankRecord

end Generation

/-! ## Names of slugs in kebab case -/

namespace Catalog

/-- Entries of slugs export the names of their functions. -/
theorem exportedNames_ofSlugs (slugs : List Text) :
    (ofSlugs slugs).flatMap Entry.exportedNames =
      slugs.map fun slug => camelName (pascalName slug) := by
  rw [ofSlugs, List.flatMap_map]
  exact List.map_eq_flatMap.symm

end Catalog

namespace Elm

/-- The slugs in kebab case that stand for names of the supporting part. -/
def supportSlugs : List Text := supportNames.map Catalog.kebabName

/-- The names for distinct slugs in kebab case can be exported, if none of these stands for a
name of the supporting part. -/
theorem canExport_ofSlugs {slugs : List Text} (hdistinct : slugs.Nodup)
    (hkebab : ∀ slug ∈ slugs, Catalog.isKebab slug ∧ slug ∉ supportSlugs) :
    CanExport ((Catalog.ofSlugs slugs).flatMap Entry.exportedNames) := by
  rw [Catalog.exportedNames_ofSlugs]
  constructor
  · -- The slug is told by the name, so distinct slugs have distinct names.
    refine List.Nodup.map_on (fun slug hslug other hother heq => ?_) hdistinct
    have hback := congrArg Catalog.kebabName heq
    rwa [Catalog.kebabName_camelName (hkebab slug hslug).1,
      Catalog.kebabName_camelName (hkebab other hother).1] at hback
  · intro name hname hsupport
    obtain ⟨slug, hslug, rfl⟩ := List.mem_map.1 hname
    obtain ⟨hcase, hfree⟩ := hkebab slug hslug
    have hmem := List.mem_map_of_mem (f := Catalog.kebabName) hsupport
    rw [Catalog.kebabName_camelName hcase] at hmem
    exact hfree hmem

/-! ## Which catalogs can be exported -/

/-- Whatever icons are generated from a catalog, they can be exported exactly if all names in the
catalog can be. So it is with catalogs of distinct slugs in kebab case that stand for no name of
the supporting part. -/
theorem canExport_iff :
    (∀ catalog : List Entry,
      (∀ (icons : Assets.IconTable) (limit : Option Int) (batch : Generation.Batch),
        (Generation.generate catalog icons limit).result = .ok batch →
          CanExport (exports batch.icons)) ↔
        CanExport (catalog.flatMap Entry.exportedNames)) ∧
      ∀ slugs : List Text, slugs.Nodup →
        (∀ slug ∈ slugs, Catalog.isKebab slug ∧ slug ∉ supportSlugs) →
          CanExport ((Catalog.ofSlugs slugs).flatMap Entry.exportedNames) := by
  refine ⟨fun catalog => ⟨fun h => ?_, fun h icons limit batch hbatch => ?_⟩,
    fun slugs hdistinct hkebab => canExport_ofSlugs hdistinct hkebab⟩
  · -- There are icons that make the whole catalog a module.
    obtain ⟨batch, hbatch, hexports⟩ := Generation.exists_generate_blankTable catalog
    rw [← hexports]
    exact h _ none batch hbatch
  · exact h.sublist (Generation.exports_sublist hbatch)

/-- The catalog of two icons, one of which has an alias. -/
def paired : List Entry :=
  [⟨"file".toList, "FileText".toList, some ⟨"doc".toList, "FileDoc".toList⟩⟩,
    ⟨"arrow-up".toList, "ArrowUp".toList, none⟩]

theorem canExport_paired :
    CanExport (paired.flatMap Entry.exportedNames) ∧
      (∀ (icons : Assets.IconTable) (limit : Option Int) (batch : Generation.Batch),
        (Generation.generate paired icons limit).result = .ok batch →
          CanExport (exports batch.icons)) ∧
        CanExport ((Catalog.ofSlugs ["arrow-up".toList, "x2".toList]).flatMap
          Entry.exportedNames) := by
  have hnames : CanExport (paired.flatMap Entry.exportedNames) := by decide
  exact ⟨hnames, (canExport_iff.1 paired).2 hnames,
    canExport_iff.2 _ (by decide) (by decide)⟩

/-! ## Slugs that clash -/

/-- Two slugs for one name. -/
def clashing : List Text := ["a-b".toList, "a_b".toList]

/-- Distinct slugs may have the same name, which is then exported twice. -/
theorem not_canExport_clashing :
    clashing.Nodup ∧
      ∃ batch, (Generation.generate (Catalog.ofSlugs clashing)
          (Generation.blankTable (Catalog.ofSlugs clashing)) none).result = .ok batch ∧
        exports batch.icons = ["aB".toList, "aB".toList] ∧ ¬CanExport (exports batch.icons) := by
  obtain ⟨batch, hbatch, hexports⟩ :=
    Generation.exists_generate_blankTable (Catalog.ofSlugs clashing)
  have hnames : (Catalog.ofSlugs clashing).flatMap Entry.exportedNames =
      ["aB".toList, "aB".toList] := by decide
  rw [hnames] at hexports
  refine ⟨by decide, batch, hbatch, hexports, ?_⟩
  rw [hexports]
  decide

end Elm

end Iconsmith
