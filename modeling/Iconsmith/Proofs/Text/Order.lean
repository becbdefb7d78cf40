import Iconsmith.Text.Basic

set_option autoImplicit false

/-!
# The order of texts

The order by code points is total, so texts have one sorted list, in whatever order they come
(`mergeSort_eq_of_perm`).
-/

namespace Iconsmith.Text

theorem atMost_cons {c d : Char} {s t : Text} :
    atMost (c :: s) (d :: t) ↔ c.toNat < d.toNat ∨ c = d ∧ atMost s t := by
  rw [atMost, Bool.or_eq_true, Bool.and_eq_true, decide_eq_true_eq, decide_eq_true_eq]

theorem eq_of_toNat_eq {c d : Char} (h : c.toNat = d.toNat) : c = d := by
  rw [← Char.ofNat_toNat c, h, Char.ofNat_toNat]

/-- Texts that begin alike are in the order of what follows. -/
theorem atMost_append_left (s t u : Text) : atMost (s ++ t) (s ++ u) = atMost t u := by
  induction s with
  | nil => rfl
  | cons c s ih => rw [List.cons_append, List.cons_append, atMost, ih]; simp

theorem atMost_total (s t : Text) : (atMost s t || atMost t s) = true := by
  rw [Bool.or_eq_true]
  induction s generalizing t with
  | nil => exact Or.inl rfl
  | cons c s ih =>
      cases t with
      | nil => exact Or.inr rfl
      | cons d t =>
          rw [atMost_cons, atMost_cons]
          rcases Nat.lt_trichotomy c.toNat d.toNat with hlt | heq | hgt
          · exact Or.inl (Or.inl hlt)
          · have hsame := eq_of_toNat_eq heq
            exact (ih t).imp (fun h => Or.inr ⟨hsame, h⟩) fun h => Or.inr ⟨hsame.symm, h⟩
          · exact Or.inr (Or.inl hgt)

theorem atMost_refl (s : Text) : atMost s s := by
  have htotal := atMost_total s s
  rwa [Bool.or_self] at htotal

theorem atMost_trans (s t u : Text) (hst : atMost s t) (htu : atMost t u) : atMost s u := by
  induction s generalizing t u with
  | nil => rfl
  | cons c s ih =>
      cases t with
      | nil => cases hst
      | cons d t =>
          cases u with
          | nil => cases htu
          | cons e u =>
              rw [atMost_cons] at hst htu ⊢
              rcases hst with hcd | ⟨rfl, hst⟩
              · rcases htu with hde | ⟨rfl, -⟩
                · exact Or.inl (Nat.lt_trans hcd hde)
                · exact Or.inl hcd
              · exact htu.imp_right fun htu => ⟨htu.1, ih t u hst htu.2⟩

theorem atMost_antisymm (s t : Text) (hst : atMost s t) (hts : atMost t s) : s = t := by
  induction s generalizing t with
  | nil =>
      cases t with
      | nil => rfl
      | cons d t => cases hts
  | cons c s ih =>
      cases t with
      | nil => cases hst
      | cons d t =>
          rw [atMost_cons] at hst hts
          rcases hst with hlt | ⟨rfl, hst⟩
          · rcases hts with hgt | ⟨rfl, -⟩
            · exact absurd hlt (Nat.lt_asymm hgt)
            · exact absurd hlt (Nat.lt_irrefl _)
          · rcases hts with hgt | ⟨-, hts⟩
            · exact absurd hgt (Nat.lt_irrefl _)
            · rw [ih t hst hts]

/-- Texts that are the same in another order are sorted in the same way. -/
theorem mergeSort_eq_of_perm {ts us : List Text} (h : ts.Perm us) :
    ts.mergeSort atMost = us.mergeSort atMost := by
  refine List.Perm.eq_of_pairwise (fun s t _ _ => atMost_antisymm s t)
    (List.pairwise_mergeSort atMost_trans atMost_total ts)
    (List.pairwise_mergeSort atMost_trans atMost_total us) ?_
  exact (List.mergeSort_perm ts atMost).trans (h.trans (List.mergeSort_perm us atMost).symm)

/-- Texts that are sorted already are what they are sorted to from any other order. -/
theorem mergeSort_eq_of_sorted {ts us : List Text} (h : ts.Perm us)
    (hsorted : us.Pairwise fun s t => atMost s t) : ts.mergeSort atMost = us :=
  (mergeSort_eq_of_perm h).trans (List.mergeSort_of_pairwise hsorted)

end Iconsmith.Text
