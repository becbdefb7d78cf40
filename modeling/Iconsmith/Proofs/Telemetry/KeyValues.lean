import Iconsmith.Proofs.Table
import Iconsmith.Proofs.Text.Fields
import Iconsmith.Telemetry.KeyValues

set_option autoImplicit false

/-!
# Reading lists of keys and values

A list is read item by item: its keys and values are those of what stands before a comma, updated by
those of what follows it (`keyValues_append`). An item that writes a key and a value, with blanks
around each, is read as these (`keyValue?_of_writesPair`), and one without an equals sign is passed
over. So a list gives back the pairs that its items write, in their order, whatever stands between
them (`keyValues_joined`).
-/

namespace Iconsmith

/-! ## Blanks around a text -/

namespace Text

/-- A text that neither begins nor ends with a blank. -/
structure IsTrimmed (t : Text) : Prop where
  first : ∀ c ∈ t.head?, isBlank c = false
  last : ∀ c ∈ t.getLast?, isBlank c = false

instance : DecidablePred IsTrimmed := fun t =>
  decidable_of_iff (t.head?.all (!isBlank ·) = true ∧ t.getLast?.all (!isBlank ·) = true) <| by
    simp only [Option.all_eq_true, Bool.not_eq_true']
    exact ⟨fun h => ⟨h.1, h.2⟩, fun h => ⟨h.first, h.last⟩⟩

variable {blanks : Text} (h : ∀ c ∈ blanks, isBlank c = true)

include h

theorem stripStart_append (t : Text) : stripStart (blanks ++ t) = stripStart t :=
  List.dropWhile_append_of_pos h

theorem strip_append_left (t : Text) : strip (blanks ++ t) = strip t := by
  rw [strip, stripStart_append h, strip]

theorem strip_append_right (t : Text) : strip (t ++ blanks) = strip t := by
  have hblanks : stripStart blanks = [] := by
    have hall := stripStart_append h []
    rwa [List.append_nil] at hall
  have hreverse : ∀ c ∈ blanks.reverse, isBlank c = true :=
    fun c hc => h c (List.mem_reverse.1 hc)
  have hsplit : stripStart (t ++ blanks) =
      if (stripStart t).isEmpty then stripStart blanks else stripStart t ++ blanks :=
    List.dropWhile_append
  rw [strip, strip, hsplit]
  cases stripStart t with
  | nil => rw [List.isEmpty_nil, if_pos rfl, hblanks]
  | cons c rest =>
      rw [List.isEmpty_cons, if_neg Bool.false_ne_true, List.reverse_append,
        stripStart_append hreverse]

omit h in
/-- Blanks around a trimmed text are taken off, and nothing else. -/
theorem IsTrimmed.strip_append_append {t : Text} (ht : t.IsTrimmed) {before behind : Text}
    (hbefore : ∀ c ∈ before, isBlank c = true) (hbehind : ∀ c ∈ behind, isBlank c = true) :
    strip (before ++ t ++ behind) = t := by
  rw [strip_append_right hbehind, strip_append_left hbefore, strip_eq_self t ht.first ht.last]

end Text

/-! ## Items -/

namespace Telemetry

open Text

/-- A key and a value that an item can write. -/
structure IsWritable (key value : Text) : Prop where
  comma_key : ',' ∉ key
  equals_key : '=' ∉ key
  comma_value : ',' ∉ value
  trimmed_key : key.IsTrimmed
  trimmed_value : value.IsTrimmed

instance (key value : Text) : Decidable (IsWritable key value) :=
  decidable_of_iff
    (',' ∉ key ∧ '=' ∉ key ∧ ',' ∉ value ∧ key.IsTrimmed ∧ value.IsTrimmed)
    ⟨fun ⟨h₁, h₂, h₃, h₄, h₅⟩ => ⟨h₁, h₂, h₃, h₄, h₅⟩,
      fun ⟨h₁, h₂, h₃, h₄, h₅⟩ => ⟨h₁, h₂, h₃, h₄, h₅⟩⟩

/-- Whether an item writes a key and a value: with an equals sign between them, and any blanks
around each. -/
def WritesPair (item key value : Text) : Prop :=
  ∃ before after front behind : Text,
    (∀ c ∈ before ++ after ++ front ++ behind, isBlank c = true) ∧
      item = (before ++ key ++ after) ++ '=' :: (front ++ value ++ behind)

/-- Items that write pairs, in this order, with any number of items without an equals sign before,
between and after them. -/
inductive Writes : List Text → List (Text × Text) → Prop where
  | nil : Writes [] []
  | skipped {item : Text} {items : List Text} {pairs : List (Text × Text)} :
      '=' ∉ item → Writes items pairs → Writes (item :: items) pairs
  | pair {item key value : Text} {items : List Text} {pairs : List (Text × Text)} :
      WritesPair item key value → Writes items pairs → Writes (item :: items) ((key, value) :: pairs)

theorem keyValue?_eq_none {item : Text} (h : '=' ∉ item) : keyValue? item = none := by
  rw [keyValue?, cutFirst_eq_none h, Option.map_none]

theorem not_mem_of_isBlank {blanks : Text} (h : ∀ c ∈ blanks, isBlank c = true) {c : Char}
    (hc : isBlank c = false) : c ∉ blanks := by
  intro hmem
  rw [h c hmem] at hc
  cases hc

/-- An item that writes a key and a value has no comma, and is read as these. -/
theorem keyValue?_of_writesPair {item key value : Text} (h : WritesPair item key value)
    (hwritable : IsWritable key value) : ',' ∉ item ∧ keyValue? item = some (key, value) := by
  obtain ⟨before, after, front, behind, hblank, rfl⟩ := h
  simp only [List.forall_mem_append] at hblank
  obtain ⟨⟨⟨hbefore, hafter⟩, hfront⟩, hbehind⟩ := hblank
  have hcomma : isBlank ',' = false := by decide
  have hequals : isBlank '=' = false := by decide
  constructor
  · simp [not_mem_of_isBlank hbefore hcomma, not_mem_of_isBlank hafter hcomma,
      not_mem_of_isBlank hfront hcomma, not_mem_of_isBlank hbehind hcomma, hwritable.comma_key,
      hwritable.comma_value]
  · -- Blanks are no equals signs, so the first one is that between the key and the value.
    have hkey : '=' ∉ before ++ key ++ after := by
      simp [not_mem_of_isBlank hbefore hequals, not_mem_of_isBlank hafter hequals,
        hwritable.equals_key]
    rw [keyValue?, cutFirst_append _ hkey, Option.map_some]
    simp only [hwritable.trimmed_key.strip_append_append hbefore hafter,
      hwritable.trimmed_value.strip_append_append hfront hbehind]

/-! ## Lists -/

/-- The pairs that are written are found in the fields of the items. -/
theorem filterMap_keyValue?_of_writes {items : List Text} {pairs : List (Text × Text)}
    (h : Writes items pairs) (hwritable : ∀ pair ∈ pairs, IsWritable pair.1 pair.2) :
    (items.flatMap (fields ',')).filterMap keyValue? = pairs := by
  induction h with
  | nil => rfl
  | @skipped item items pairs hequals _ ih =>
      have hnone : (fields ',' item).filterMap keyValue? = [] := by
        rw [List.filterMap_eq_nil_iff]
        intro field hfield
        exact keyValue?_eq_none fun hmem => hequals (mem_of_mem_fields hfield hmem)
      rw [List.flatMap_cons, List.filterMap_append, hnone, ih hwritable, List.nil_append]
  | pair hpair _ ih =>
      obtain ⟨hfirst, hothers⟩ := List.forall_mem_cons.1 hwritable
      obtain ⟨hcomma, hread⟩ := keyValue?_of_writesPair hpair hfirst
      rw [List.flatMap_cons, fields_of_not_mem hcomma, List.singleton_append,
        List.filterMap_cons_some hread, ih hothers]

/-- A list is read as what stands before a comma, updated by what stands behind it. -/
theorem keyValues_append (a b : Text) :
    keyValues (a ++ ',' :: b) = (keyValues a).update (keyValues b) := by
  rw [keyValues, fields_append_cons, List.filterMap_append, Table.ofList_append]
  rfl

/-- The rows of a list of items are the pairs that the items write. -/
theorem rows_keyValues_of_writes {items : List Text} {pairs : List (Text × Text)}
    (hdistinct : (pairs.map Prod.fst).Nodup)
    (hwritable : ∀ pair ∈ pairs, IsWritable pair.1 pair.2) (h : Writes items pairs) :
    (keyValues (joined [','] items)).rows = pairs := by
  have hpairs : (fields ',' (joined [','] items)).filterMap keyValue? = pairs := by
    rw [← filterMap_keyValue?_of_writes h hwritable]
    cases items with
    | nil => rfl
    | cons item items => rw [fields_joined_eq_flatMap (List.cons_ne_nil _ _)]
  rw [keyValues, hpairs, Table.rows_ofList hdistinct]

/-- A list of items that write pairs with distinct keys gives just these pairs, in their order. And
two lists with a comma between them give the pairs of the first, updated by those of the second: the
keys of the first keep their places, new keys come after them, and of two values of a key the later
one counts. -/
theorem keyValues_joined :
    (∀ (items : List Text) (pairs : List (Text × Text)), (pairs.map Prod.fst).Nodup →
      (∀ pair ∈ pairs, IsWritable pair.1 pair.2) → Writes items pairs →
        (keyValues (joined [','] items)).rows = pairs) ∧
    ∀ a b : Text,
      keyValues (a ++ ',' :: b) = (keyValues a).update (keyValues b) ∧
      (keyValues (a ++ ',' :: b)).keys =
        (keyValues a).keys ++ (keyValues b).keys.filter (fun key => key ∉ (keyValues a).keys) ∧
      ∀ key, (keyValues (a ++ ',' :: b)).get? key =
        ((keyValues b).get? key).or ((keyValues a).get? key) := by
  refine ⟨fun items pairs hdistinct hwritable h => ?_, fun a b => ?_⟩
  · exact rows_keyValues_of_writes hdistinct hwritable h
  · rw [keyValues_append]
    exact ⟨rfl, Table.keys_update _ _, Table.get?_update _ _⟩

/-- Items with blanks, with equals signs in a value, without a key or a value, and to be skipped. -/
theorem keyValues_joined_untidy :
    (keyValues (joined [','] ["note".toList, " a b\t=\n x=1= ".toList, "".toList, "=".toList,
        "c = ".toList, " ".toList])).rows =
      [("a b".toList, "x=1=".toList), ("".toList, "".toList), ("c".toList, "".toList)] ∧
    (keyValues "k=1,l=2,k=3,l=,m=5".toList).keys = ["k".toList, "l".toList, "m".toList] ∧
    (keyValues "k=1,l=2,k=3,l=,m=5".toList).get? "k".toList = some "3".toList := by
  obtain ⟨hitems, hcomma⟩ := keyValues_joined
  have hspread : WritesPair " a b\t=\n x=1= ".toList "a b".toList "x=1=".toList :=
    ⟨" ".toList, "\t".toList, "\n ".toList, " ".toList, by decide, rfl⟩
  have hbare : WritesPair "=".toList "".toList "".toList := ⟨[], [], [], [], by decide, rfl⟩
  have hvalueless : WritesPair "c = ".toList "c".toList "".toList :=
    ⟨[], " ".toList, " ".toList, [], by decide, rfl⟩
  refine ⟨hitems _ _ (by decide) (by decide) ?_, ?_, ?_⟩
  · exact .skipped (by decide) (.pair hspread (.skipped (by decide) (.pair hbare
      (.pair hvalueless (.skipped (by decide) .nil)))))
  · obtain ⟨-, hkeys, -⟩ := hcomma "k=1,l=2".toList "k=3,l=,m=5".toList
    exact hkeys.trans (by decide)
  · obtain ⟨-, -, hvalue⟩ := hcomma "k=1,l=2".toList "k=3,l=,m=5".toList
    exact (hvalue "k".toList).trans (by decide)

end Telemetry

end Iconsmith
