import Iconsmith.Disk.Path
import Iconsmith.Proofs.Text.Fields
import Iconsmith.Weight

set_option autoImplicit false

/-!
# Suffixes of weights

The suffix of a weight leaves a stem in two ways. In the folder of a weight just the suffix that its
files carry is taken off, and regular files carry none (`stripSuffix_eq_iff`). Where the weight is
not known, the stem is cut at its last hyphen, and what follows is looked up as the name of a
weight: regular has a name too, and case and blanks do not matter (`splitSuffix_eq_some`).

So whatever the first way takes off the second takes off as well, and it finds the weight. The
converse holds just where the name stands as in the suffix that files carry
(`stripSuffix_iff_splitSuffix`): from `a-BOLD` and from `a-regular` the second way alone takes
something off (`not_forall_splitSuffix_iff`).
-/

namespace Iconsmith.Weight

variable {w : Weight} {stem base : Text}

/-! ## Names and suffixes -/

/-- Looking up a name compares it with the names of the weights, blanks and case aside. -/
theorem ofName?_eq_some {name : Text} :
    ofName? name = some w ↔ Text.folded (Text.strip name) = w.name := by
  constructor
  · intro h
    have hname := List.find?_some h
    exact (beq_iff_eq.1 hname).symm
  · intro h
    -- The name of a weight is its own folding, so the lookup is that of the name itself.
    have hself : Text.folded (Text.strip w.name) = w.name := by cases w <;> decide
    have hname := ofName?_name w
    rw [ofName?, hself] at hname
    rw [ofName?, h]
    exact hname

theorem fileSuffix_of_ne (h : w ≠ .regular) : w.fileSuffix = '-' :: w.name := by
  cases w with
  | regular => exact absurd rfl h
  | thin | light | bold | fill | duotone => rfl

theorem hyphen_not_mem_name (w : Weight) : '-' ∉ w.name := by cases w <;> decide

/-! ## Taking a known suffix off -/

theorem stripSuffix_append (w : Weight) (h : base ≠ []) :
    w.stripSuffix (base ++ w.fileSuffix) = base := by
  have hpos := List.length_pos_iff.2 h
  have hsuffix : w.fileSuffix.isSuffixOf (base ++ w.fileSuffix) = true :=
    List.isSuffixOf_iff_suffix.2 (List.suffix_append _ _)
  rw [stripSuffix, hsuffix, List.length_append, if_pos (by simpa using hpos), Nat.add_sub_cancel,
    List.take_left]

/-- A stem loses the suffix of a weight or stays as it is. -/
theorem eq_append_or_eq_of_stripSuffix (h : w.stripSuffix stem = base) :
    base ≠ [] ∧ stem = base ++ w.fileSuffix ∨ stem = base ∧ w.stripSuffix base = base := by
  rw [stripSuffix] at h
  split at h
  · rename_i hsuffix
    rw [Bool.and_eq_true, List.isSuffixOf_iff_suffix, decide_eq_true_eq] at hsuffix
    obtain ⟨⟨base, rfl⟩, hlength⟩ := hsuffix
    rw [List.length_append, Nat.add_sub_cancel, List.take_left] at h
    subst h
    refine Or.inl ⟨?_, rfl⟩
    rintro rfl
    simp at hlength
  · rename_i hnot
    subst h
    refine Or.inr ⟨rfl, ?_⟩
    rw [stripSuffix, if_neg hnot]

/-- A stem changes exactly if it is some text and then the suffix of a weight that has one. -/
theorem stripSuffix_eq_iff :
    w.stripSuffix stem = base ∧ base ≠ stem ↔
      w ≠ .regular ∧ base ≠ [] ∧ stem = base ++ w.fileSuffix := by
  constructor
  · rintro ⟨h, hne⟩
    rcases eq_append_or_eq_of_stripSuffix h with ⟨hbase, rfl⟩ | ⟨rfl, -⟩
    · refine ⟨?_, hbase, rfl⟩
      rintro rfl
      exact hne (List.append_nil base).symm
    · exact absurd rfl hne
  · rintro ⟨hw, hbase, rfl⟩
    refine ⟨stripSuffix_append w hbase, ?_⟩
    intro h
    rw [fileSuffix_of_ne hw, List.self_eq_append_right] at h
    exact List.cons_ne_nil _ _ h

/-! ## Finding the weight -/

/-- A weight is found when some text is followed by a last hyphen and a name of the weight. -/
theorem splitSuffix_eq_some :
    splitSuffix stem = (base, some w) ↔
      base ≠ [] ∧ ∃ token, stem = base ++ '-' :: token ∧ '-' ∉ token ∧ ofName? token = some w := by
  rw [splitSuffix.eq_def]
  constructor
  · intro h
    split at h
    · rename_i before token hcut
      split at h
      · rename_i c rest hname
        cases h
        obtain ⟨rfl, hhyphen⟩ := Text.cutLast_eq_some.1 hcut
        exact ⟨List.cons_ne_nil _ _, token, rfl, hhyphen, hname⟩
      · cases h
    · cases h
  · rintro ⟨hbase, token, rfl, hhyphen, hname⟩
    obtain ⟨c, rest, rfl⟩ := List.exists_cons_of_ne_nil hbase
    rw [Text.cutLast_append_cons _ hhyphen]
    simp only [hname]

/-- Where no weight is found, the stem stays whole. -/
theorem eq_of_splitSuffix_none (h : splitSuffix stem = (base, none)) : base = stem := by
  rw [splitSuffix.eq_def] at h
  split at h
  · split at h
    · cases h
    · cases h
      rfl
  · cases h
    rfl

/-- Where a weight is found, something is taken off. -/
theorem ne_of_splitSuffix_some (h : splitSuffix stem = (base, some w)) : base ≠ stem := by
  obtain ⟨-, token, rfl, -, -⟩ := splitSuffix_eq_some.1 h
  intro heq
  rw [List.self_eq_append_right] at heq
  exact List.cons_ne_nil _ _ heq

/-- The suffix that the files of a weight carry is found. -/
theorem splitSuffix_append (hw : w ≠ .regular) (h : base ≠ []) :
    splitSuffix (base ++ w.fileSuffix) = (base, some w) := by
  refine splitSuffix_eq_some.2 ⟨h, w.name, ?_, hyphen_not_mem_name w, ofName?_name w⟩
  rw [fileSuffix_of_ne hw]

/-! ## Both ways compared -/

/-- The weight that is found has its suffix taken off exactly if the stem ends in this suffix, as
files carry it. -/
theorem stripSuffix_eq_iff_of_splitSuffix (h : splitSuffix stem = (base, some w)) (v : Weight) :
    v.stripSuffix stem = base ↔ stem = base ++ v.fileSuffix := by
  constructor
  · intro hstrip
    exact (stripSuffix_eq_iff.1 ⟨hstrip, ne_of_splitSuffix_some h⟩).2.2
  · rintro rfl
    exact stripSuffix_append v (splitSuffix_eq_some.1 h).1

/-- Taking a suffix off finds its weight. -/
theorem splitSuffix_of_stripSuffix (h : w.stripSuffix stem = base) (hne : base ≠ stem) :
    splitSuffix stem = (base, some w) := by
  obtain ⟨hw, hbase, rfl⟩ := stripSuffix_eq_iff.1 ⟨h, hne⟩
  exact splitSuffix_append hw hbase

/-- A stem in which no weight is found has no suffix to be taken off. -/
theorem stripSuffix_of_splitSuffix_none (h : splitSuffix stem = (base, none)) :
    w.stripSuffix stem = base := by
  obtain rfl := eq_of_splitSuffix_none h
  by_contra hne
  have hfound := splitSuffix_of_stripSuffix (w := w) rfl hne
  rw [h] at hfound
  exact absurd (congrArg Prod.snd hfound) (Option.some_ne_none w).symm

/-- A suffix is taken off exactly if its weight is found with the same rest and the suffix stands as
files carry it; what is found at all is a name of a weight behind the last hyphen, in any case and
with any blanks around. So the file with a name gives the same icon in the folder of a weight as
its stem gives on its own exactly if no weight is found in the stem or it ends in the suffix that
the files of this folder carry. -/
theorem stripSuffix_iff_splitSuffix :
    (∀ (stem base : Text) (w : Weight), w.stripSuffix stem = base ∧ base ≠ stem ↔
      splitSuffix stem = (base, some w) ∧ stem = base ++ w.fileSuffix) ∧
    (∀ (stem base : Text) (w : Weight), splitSuffix stem = (base, some w) ↔
      base ≠ [] ∧ ∃ token, stem = base ++ '-' :: token ∧ '-' ∉ token ∧
        Text.folded (Text.strip token) = w.name) ∧
    ∀ (file : Text) (w : Weight),
      w.stripSuffix (Disk.stem file) = (splitSuffix (Disk.stem file)).1 ↔
        (splitSuffix (Disk.stem file)).2 = none ∨
          Disk.stem file = (splitSuffix (Disk.stem file)).1 ++ w.fileSuffix := by
  refine ⟨fun stem base w => ?_, fun stem base w => ?_, fun file w => ?_⟩
  · constructor
    · rintro ⟨h, hne⟩
      have hfound := splitSuffix_of_stripSuffix h hne
      exact ⟨hfound, (stripSuffix_eq_iff_of_splitSuffix hfound w).1 h⟩
    · rintro ⟨hfound, hstem⟩
      refine ⟨?_, ne_of_splitSuffix_some hfound⟩
      exact (stripSuffix_eq_iff_of_splitSuffix hfound w).2 hstem
  · rw [splitSuffix_eq_some]
    simp only [ofName?_eq_some]
  · rcases hsplit : splitSuffix (Disk.stem file) with ⟨base, _ | v⟩
    · -- Nothing is found, and so no folder takes anything off.
      have hkept := stripSuffix_of_splitSuffix_none (w := w) hsplit
      simp [hkept]
    · -- The weight that is found need not be that of the folder, whose suffix decides.
      simpa using stripSuffix_eq_iff_of_splitSuffix hsplit w

/-- Regular has a name that is found, and no suffix that is taken off. -/
example : splitSuffix "a-regular".toList = ("a".toList, some .regular) ∧
    Weight.regular.stripSuffix "a-regular".toList = "a-regular".toList := by decide

/-- A name in capitals is found, and is not taken off. -/
theorem not_forall_splitSuffix_iff :
    ¬∀ (stem base : Text) (w : Weight), base ≠ [] →
      (splitSuffix stem = (base, some w) ↔ w.stripSuffix stem = base ∧ base ≠ stem) := by
  intro h
  have hfound : splitSuffix "a-BOLD".toList = ("a".toList, some .bold) := by decide
  have hkept : Weight.bold.stripSuffix "a-BOLD".toList = "a-BOLD".toList := by decide
  have hstrip := ((h _ _ _ (by decide)).1 hfound).1
  rw [hkept] at hstrip
  exact absurd hstrip (by decide)

end Iconsmith.Weight
