import Iconsmith.Proofs.Assets.Damage
import Iconsmith.Proofs.Exits

set_option autoImplicit false

/-!
# Damage to one icon

The icons of a catalog are generated one by one, each from its own record. So when two tables
differ in the record of one icon, the others are generated, or fail, in the same way
(`filter_icons_eq`). A damaged source file does no harm to the other icons, unless its drawing
has names that cannot be told, which stops the generation altogether (`generate_of_damage`).
-/

namespace Iconsmith.Generation

open Assets

/-! ## Icons one by one -/

/-- The icon that is generated for an entry. -/
def generated? (icons : IconTable) (entry : Entry) : Option Elm.Generated :=
  match (generateIcon entry ((icons.get? entry.slug).getD Table.empty)).result with
  | .ok found => found
  | .error _ => none

theorem entry_of_generated? {icons : IconTable} {entry : Entry} {icon : Elm.Generated}
    (h : generated? icons entry = some icon) : icon.entry = entry := by
  unfold generated? at h
  split at h
  · rename_i found hfound
    exact ((shows_of_generateIcon hfound).2 icon h).entry
  · cases h

/-- The icons of a batch are those of the entries that have one. -/
theorem icons_of_generateEach {icons : IconTable} {entries : List Entry} {batch : Batch}
    (h : (generateEach icons entries).result = .ok batch) :
    batch.icons = entries.filterMap (generated? icons) := by
  induction entries generalizing batch with
  | nil =>
      cases h
      rfl
  | cons entry entries ih =>
      obtain ⟨found, others, hfound, hothers, rfl, -⟩ := exists_of_generateEach_cons h
      have hgenerated : generated? icons entry = found := by
        rw [generated?, hfound]
      cases found with
      | none => exact (ih hothers).trans (List.filterMap_cons_none hgenerated).symm
      | some icon =>
          rw [List.filterMap_cons_some hgenerated, ← ih hothers]
          rfl

/-- Icons of which both tables have the same record are generated in the same way. -/
theorem filter_icons_eq {icons others : IconTable} {entries : List Entry} {batch other : Batch}
    {slug : Text} (hsame : ∀ s, s ≠ slug → others.get? s = icons.get? s)
    (h : (generateEach icons entries).result = .ok batch)
    (hother : (generateEach others entries).result = .ok other) :
    other.icons.filter (fun icon => icon.entry.slug ≠ slug) =
      batch.icons.filter (fun icon => icon.entry.slug ≠ slug) := by
  have hkept : ∀ table : IconTable,
      (entries.filterMap (generated? table)).filter (fun icon => icon.entry.slug ≠ slug) =
        (entries.filter fun entry => entry.slug ≠ slug).filterMap (generated? table) := by
    intro table
    rw [List.filter_filterMap, List.filterMap_filter]
    refine List.filterMap_congr fun entry _ => ?_
    cases hicon : generated? table entry with
    | none => simp
    | some icon =>
        rw [Option.filter_some, entry_of_generated? hicon]
  rw [icons_of_generateEach h, icons_of_generateEach hother, hkept, hkept]
  refine List.filterMap_congr fun entry hentry => ?_
  have hne : entry.slug ≠ slug := of_decide_eq_true (List.mem_filter.1 hentry).2
  rw [generated?, generated?, hsame entry.slug hne]

/-! ## Entries to stop at -/

/-- Whether a drawing has names that cannot be told is found out by reading it. -/
theorem isUntellable_iff {drawing : Text} : IsUntellable drawing ↔
    (Drawing.read (Drawing.clean drawing)).map (fun _ => ()) =
      .error (.unreadable .untellable) := by
  rw [IsUntellable]
  cases Drawing.read (Drawing.clean drawing) with
  | ok root => exact iff_of_false (fun h => by cases h) fun h => by cases h
  | error fault =>
      show _ ↔ Except.error fault = _
      rw [Except.error.injEq, Except.error.injEq]

instance (drawing : Text) : Decidable (IsUntellable drawing) :=
  decidable_of_iff' _ isUntellable_iff

/-- The generation stops at an entry that has all drawings, of which one cannot be told. -/
theorem stopsAt_iff {icons : IconTable} {entry : Entry} :
    StopsAt icons entry ↔ (∀ w, (drawing? icons entry.slug w).isSome) ∧
      ∃ w drawing, drawing? icons entry.slug w = some drawing ∧ IsUntellable drawing := by
  have hdrawing : ∀ w, ((icons.get? entry.slug).getD Table.empty).get? w =
      drawing? icons entry.slug w := by
    intro w
    rw [drawing?]
    cases icons.get? entry.slug <;> rfl
  rw [StopsAt, isComplete_keysOf]
  simp only [hdrawing]
  refine and_congr_right fun _ => ?_
  constructor
  · rintro ⟨⟨w, drawing⟩, hrow, hbad⟩
    exact ⟨w, drawing, (hdrawing w).symm.trans (Table.get?_eq_some_iff.2 hrow), hbad⟩
  · rintro ⟨w, drawing, hsome, hbad⟩
    exact ⟨(w, drawing), Table.get?_eq_some_iff.1 ((hdrawing w).trans hsome), hbad⟩

/-- Where the generation stops for a table with another text, it stops for the table as well, or
the other text cannot be told. -/
theorem stopsAt_of_differsIn {slug : Text} {w : Weight} {text : Text} {icons others : IconTable}
    (h : DiffersIn slug w text icons others) {entry : Entry} (hstop : StopsAt others entry) :
    StopsAt icons entry ∨ entry.slug = slug ∧ IsUntellable text := by
  obtain ⟨hfull, v, drawing, hdrawing, hbad⟩ := stopsAt_iff.1 hstop
  have hfull : ∀ w, (drawing? icons entry.slug w).isSome := fun w =>
    h.isSome_drawing? entry.slug w ▸ hfull w
  by_cases hslug : entry.slug = slug
  · rw [hslug] at hdrawing
    rcases h.drawings v with hsame | ⟨-, -, htext⟩
    · rw [hsame] at hdrawing
      exact Or.inl (stopsAt_iff.2 ⟨hfull, v, drawing, hslug ▸ hdrawing, hbad⟩)
    · obtain rfl := Option.some.inj (htext.symm.trans hdrawing)
      exact Or.inr ⟨hslug, hbad⟩
  · have hsame : drawing? others entry.slug v = drawing? icons entry.slug v := by
      rw [drawing?, drawing?, h.records entry.slug hslug]
    exact Or.inl (stopsAt_iff.2 ⟨hfull, v, drawing, hsame.symm.trans hdrawing, hbad⟩)

theorem exists_generateEach_iff {icons : IconTable} {entries : List Entry} :
    (∃ batch, (generateEach icons entries).result = .ok batch) ↔
      ∀ entry ∈ entries, ¬StopsAt icons entry := by
  constructor
  · rintro ⟨batch, hbatch⟩ entry hentry hstop
    have hfailed := generateEach_eq_error.2 ⟨rfl, entry, hentry, hstop⟩
    cases hfailed.symm.trans hbatch
  · intro hnone
    cases hresult : (generateEach icons entries).result with
    | ok batch => exact ⟨batch, rfl⟩
    | error fault =>
        obtain ⟨-, entry, hentry, hstop⟩ := generateEach_eq_error.1 hresult
        exact absurd hstop (hnone entry hentry)

/-! ## Damage -/

/-- A tree is loaded alike whatever the bytes of one source file are, with the same icons and the
same records of all icons but that of the file. From both the other icons are generated alike.
The generation cannot be stopped but by the icon of the file, and for its new drawing. -/
theorem generate_of_damage {tree : Disk.Tree} {root : Disk.Path} {place : Disk.Place}
    {folder file : Text} {old : List UInt8} {w : Weight} (hproper : tree.IsProper)
    (hroot : tree.locate root = .ok place)
    (hold : tree.get? (place ++ [folder, file]) = some (.file old))
    (hweight : Weight.ofName? folder = some w) (bytes : List UInt8) :
    let damaged := tree.put (place ++ [folder, file]) (.file bytes)
    let slug := w.stripSuffix (Disk.stem file)
    (∀ fault, (loadByWeight tree root none).result = .error fault ↔
      (loadByWeight damaged root none).result = .error fault) ∧
    ∀ icons, (loadByWeight tree root none).result = .ok icons →
      ∃ others, (loadByWeight damaged root none).result = .ok others ∧
        others.keys = icons.keys ∧ (∀ s, s ≠ slug → others.get? s = icons.get? s) ∧
        ∀ limit batch,
          (generate (Catalog.ofSlugs icons.keys) icons limit).result = .ok batch →
          ((∃ other, (generate (Catalog.ofSlugs others.keys) others limit).result = .ok other) ↔
            ∀ entry ∈ limited limit (Catalog.ofSlugs icons.keys), entry.slug = slug →
              ¬StopsAt others entry) ∧
          (¬IsUntellable (Text.Utf8.decode bytes) →
            ∃ other, (generate (Catalog.ofSlugs others.keys) others limit).result = .ok other) ∧
          ∀ other, (generate (Catalog.ofSlugs others.keys) others limit).result = .ok other →
            other.icons.filter (fun icon => icon.entry.slug ≠ slug) =
              batch.icons.filter fun icon => icon.entry.slug ≠ slug := by
  intro damaged slug
  have hrelated := related_loadByWeight hproper hroot hold hweight bytes
  refine ⟨hrelated.error_iff, fun icons hicons => ?_⟩
  obtain ⟨others, hothers, hdiffers⟩ := hrelated.of_ok hicons
  refine ⟨others, hothers, hdiffers.keys, hdiffers.records, fun limit batch hbatch => ?_⟩
  have hnone := exists_generateEach_iff.1 ⟨batch, hbatch⟩
  rw [hdiffers.keys]
  refine ⟨?_, fun htold => ?_, fun other hother => ?_⟩
  · refine exists_generateEach_iff.trans ⟨fun hall entry hentry _ => hall entry hentry, ?_⟩
    intro hall entry hentry hstop
    -- An entry stops the damaged run that did not stop the first, so it is the one of the file.
    rcases stopsAt_of_differsIn hdiffers hstop with hbefore | ⟨hslug, -⟩
    · exact hnone entry hentry hbefore
    · exact hall entry hentry hslug hstop
  · refine exists_generateEach_iff.2 fun entry hentry hstop => ?_
    rcases stopsAt_of_differsIn hdiffers hstop with hbefore | ⟨-, hbad⟩
    · exact hnone entry hentry hbefore
    · exact htold hbad
  · exact filter_icons_eq hdiffers.records hbatch hother

/-! ## Two icons, one of them damaged -/

/-- A table with all drawings of two icons. -/
def twoDrawn : IconTable :=
  Table.ofList (["a".toList, "b".toList].map fun slug =>
    (slug, Table.ofList (Weight.all.map fun w => (w, "<svg/>".toList))))

theorem keys_twoDrawn : twoDrawn.keys = ["a".toList, "b".toList] := by rfl

theorem drawing?_twoDrawn {s : Text} (hs : s ∈ ["a".toList, "b".toList]) (w : Weight) :
    drawing? twoDrawn s w = some "<svg/>".toList := by
  rcases List.mem_cons.1 hs with rfl | hs
  · cases w <;> rfl
  · obtain rfl := List.mem_singleton.1 hs
    cases w <;> rfl

/-- The place of the thin drawing of the first icon. -/
def thinPlace : Disk.Place := ["assets".toList, "thin".toList, "a-thin.svg".toList]

/-- The tree in which the table is stored, with another text at this place. -/
def redrawnTree (thin : Text) : Disk.Tree :=
  (assetTree twoDrawn).put thinPlace (.file (Text.Utf8.encode thin))

theorem isStorable_of_keys {table : IconTable} (hkeys : table.keys = ["a".toList, "b".toList])
    (hfilled : ∀ s ∈ table.keys, (drawing? table s .thin).isSome) :
    IsStorable assetRoot table := by
  refine ⟨by rw [hkeys]; decide, fun s hs => ⟨.thin, hfilled s hs⟩, fun s w hdrawing => ?_⟩
  have hs := mem_keys_of_drawing? hdrawing
  rw [hkeys] at hs
  clear hdrawing
  cases w <;> revert s <;> decide

theorem loadByWeight_twoDrawn :
    ∃ icons, (loadByWeight (assetTree twoDrawn) assetRoot none).result = .ok icons ∧
      icons.keys = ["a".toList, "b".toList] ∧
        ∀ s ∈ ["a".toList, "b".toList], ∀ w, drawing? icons s w = some "<svg/>".toList := by
  have hfit : IsStorable assetRoot twoDrawn := isStorable_of_keys keys_twoDrawn fun s hs => by
    rw [drawing?_twoDrawn (keys_twoDrawn ▸ hs)]
    rfl
  obtain ⟨icons, hload, hkeys, hdrawings⟩ := (stores_assetTree twoDrawn).loadByWeight_none hfit
  refine ⟨icons, congrArg Outcome.result hload, ?_, fun s hs w => ?_⟩
  · rw [hkeys, keys_twoDrawn, List.mergeSort_of_pairwise (by decide)]
  · rw [hdrawings, drawing?_twoDrawn hs]

theorem drawing?_redrawnTree {thin : Text} {icons : IconTable}
    (h : (loadByWeight (redrawnTree thin) assetRoot none).result = .ok icons) {s : Text}
    (hs : s ∈ ["a".toList, "b".toList]) (w : Weight) :
    drawing? icons s w =
      some (if s = "a".toList ∧ w = .thin then thin else "<svg/>".toList) := by
  have hthin : (drawing? twoDrawn "a".toList .thin).isSome := by decide
  have hstores : Stores (redrawnTree thin) assetRoot ["assets".toList]
      (addDrawing twoDrawn "a".toList .thin thin) :=
    (stores_assetTree twoDrawn).put_file hthin thin
  have hkeys : (addDrawing twoDrawn "a".toList .thin thin).keys = ["a".toList, "b".toList] :=
    keys_addDrawing_of_mem (by rw [keys_twoDrawn]; decide) _ _
  have hdrawing : ∀ s ∈ ["a".toList, "b".toList], ∀ w,
      drawing? (addDrawing twoDrawn "a".toList .thin thin) s w =
        some (if s = "a".toList ∧ w = .thin then thin else "<svg/>".toList) := by
    intro s hs w
    rw [drawing?_addDrawing, drawing?_twoDrawn hs]
    split <;> rfl
  have hfit := isStorable_of_keys hkeys fun s hs => by
    rw [hdrawing s (hkeys ▸ hs)]
    rfl
  obtain ⟨others, hothers, -, hdrawings⟩ := hstores.loadByWeight_none hfit
  have hothers : (loadByWeight (redrawnTree thin) assetRoot none).result = .ok others :=
    congrArg Outcome.result hothers
  obtain rfl := Except.ok.inj (hothers.symm.trans h)
  rw [hdrawings, hdrawing s hs]

theorem get?_thinPlace : (assetTree twoDrawn).get? (["assets".toList] ++ ["thin".toList,
    "a-thin.svg".toList]) = some (.file (Text.Utf8.encode "<svg/>".toList)) := by
  decide

theorem isProper_twoDrawn : (assetTree twoDrawn).IsProper := by decide

theorem not_isUntellable_svg : ¬IsUntellable "<svg/>".toList := by decide

/-- All icons of which all drawings are plain are generated. -/
theorem exists_generate_twoDrawn {icons : IconTable}
    (hkeys : icons.keys = ["a".toList, "b".toList])
    (hdrawings : ∀ s ∈ ["a".toList, "b".toList], ∀ w, drawing? icons s w = some "<svg/>".toList) :
    ∃ batch, (generate (Catalog.ofSlugs icons.keys) icons none).result = .ok batch ∧
      batch.icons.map Elm.Generated.entry = Catalog.ofSlugs ["a".toList, "b".toList] := by
  have hslug : ∀ entry ∈ Catalog.ofSlugs icons.keys, ∀ w,
      drawing? icons entry.slug w = some "<svg/>".toList := by
    intro entry hentry
    refine hdrawings entry.slug ?_
    rw [← hkeys, ← map_slug_ofSlugs icons.keys]
    exact List.mem_map_of_mem hentry
  have htold : ∀ entry ∈ Catalog.ofSlugs icons.keys, ¬StopsAt icons entry := by
    intro entry hentry hstop
    obtain ⟨-, w, drawing, hdrawing, hbad⟩ := stopsAt_iff.1 hstop
    obtain rfl := Option.some.inj ((hslug entry hentry w).symm.trans hdrawing)
    exact not_isUntellable_svg hbad
  obtain ⟨batch, hbatch⟩ := exists_generateEach_iff.2 htold
  refine ⟨batch, hbatch, ?_⟩
  have hexpression : ((expressionOf "<svg/>".toList).toOption).isSome := by decide
  have hdrawn : drawnEntries icons (Catalog.ofSlugs icons.keys) = Catalog.ofSlugs icons.keys := by
    refine List.filter_eq_self.2 fun entry hentry => (isDrawn_iff _).2 fun w => ?_
    rw [expression?, hslug entry hentry w]
    exact hexpression
  obtain ⟨hshows, -⟩ := forall₂_generateEach hbatch
  rw [hdrawn, hkeys] at hshows
  exact List.forall₂_eq_eq_eq ▸
    List.forall₂_map_left_iff.2 (hshows.imp fun icon entry hicon => hicon.entry)

/-- A drawing that is cut off takes away its own icon, and the other is generated as before. -/
theorem generate_of_damage_twoDrawn :
    ∃ icons others batch other,
      (loadByWeight (assetTree twoDrawn) assetRoot none).result = .ok icons ∧
      (loadByWeight (redrawnTree "<svg".toList) assetRoot none).result = .ok others ∧
      (generate (Catalog.ofSlugs icons.keys) icons none).result = .ok batch ∧
      (generate (Catalog.ofSlugs others.keys) others none).result = .ok other ∧
      batch.icons.map Elm.Generated.entry = Catalog.ofSlugs ["a".toList, "b".toList] ∧
      other.icons.filter (fun icon => icon.entry.slug ≠ "a".toList) =
        batch.icons.filter fun icon => icon.entry.slug ≠ "a".toList := by
  obtain ⟨icons, hload, hkeys, hdrawings⟩ := loadByWeight_twoDrawn
  obtain ⟨batch, hbatch, hentries⟩ := exists_generate_twoDrawn hkeys hdrawings
  obtain ⟨-, hdamage⟩ := generate_of_damage isProper_twoDrawn (stores_assetTree twoDrawn).located
    get?_thinPlace rfl (Text.Utf8.encode "<svg".toList)
  obtain ⟨others, hothers, -, -, hrest⟩ := hdamage icons hload
  obtain ⟨-, htold, hsame⟩ := hrest none batch hbatch
  obtain ⟨other, hother⟩ := htold (by decide)
  exact ⟨icons, others, batch, other, hload, hothers, hbatch, hother, hentries,
    hsame other hother⟩

/-- Damage to one file is not always confined to its icon: a drawing with names that cannot be
told stops the generation of all icons. -/
theorem not_forall_generate_of_damage :
    ¬ ∀ (tree : Disk.Tree) (root : Disk.Path) (place : Disk.Place) (folder file : Text)
      (old bytes : List UInt8) (w : Weight), tree.IsProper → tree.locate root = .ok place →
      tree.get? (place ++ [folder, file]) = some (.file old) → Weight.ofName? folder = some w →
      ∀ icons others,
        (loadByWeight tree root none).result = .ok icons →
        (loadByWeight (tree.put (place ++ [folder, file]) (.file bytes)) root none).result =
          .ok others →
        (∃ batch, (generate (Catalog.ofSlugs icons.keys) icons none).result = .ok batch) →
          ∃ other, (generate (Catalog.ofSlugs others.keys) others none).result = .ok other := by
  intro hall
  let drawing := "<svg><x:a/><g xmlns=\"u\"/></svg>".toList
  have hbad : IsUntellable drawing := by decide
  obtain ⟨icons, hload, hkeys, hdrawings⟩ := loadByWeight_twoDrawn
  obtain ⟨batch, hbatch, -⟩ := exists_generate_twoDrawn hkeys hdrawings
  obtain ⟨others, hothers, hdiffers⟩ := (related_loadByWeight isProper_twoDrawn
    (stores_assetTree twoDrawn).located get?_thinPlace rfl (Text.Utf8.encode drawing)).of_ok hload
  obtain ⟨other, hother⟩ := hall _ _ _ _ _ _ _ .thin isProper_twoDrawn
    (stores_assetTree twoDrawn).located get?_thinPlace rfl icons others hload hothers
    ⟨batch, hbatch⟩
  have hfirst : "a".toList ∈ ["a".toList, "b".toList] := by decide
  have hdrawn := drawing?_redrawnTree hothers hfirst
  have hmem : Entry.ofSlug "a".toList ∈ Catalog.ofSlugs others.keys := by
    rw [hdiffers.keys, hkeys]
    exact List.mem_map_of_mem hfirst
  refine exists_generateEach_iff.1 ⟨other, hother⟩ _ hmem (stopsAt_iff.2 ⟨fun w => ?_, ?_⟩)
  · exact Option.isSome_of_eq_some (hdrawn w)
  · exact ⟨.thin, drawing, hdrawn .thin, hbad⟩

end Iconsmith.Generation
