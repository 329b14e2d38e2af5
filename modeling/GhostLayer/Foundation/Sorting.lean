import Mathlib.Data.List.Basic

/-! # Laws of stable sorting

When a stable sort brings a list into an order other than the one it sorts by.
-/

namespace Foundation

namespace Sorting

variable {α : Type} {le : α → α → Bool}

theorem pair_sublist_or_swap {list : List α} {a b : α} (ha : a ∈ list) (hb : b ∈ list)
    (hne : a ≠ b) : [a, b].Sublist list ∨ [b, a].Sublist list := by
  obtain ⟨front, rear, rfl⟩ := List.append_of_mem ha
  rw [List.mem_append, List.mem_cons] at hb
  obtain hb | heq | hb := hb
  · refine .inr ?_
    exact (List.singleton_sublist.mpr hb).append (List.singleton_sublist.mpr List.mem_cons_self)
  · exact absurd heq.symm hne
  · refine .inl ?_
    exact ((List.singleton_sublist.mpr hb).cons_cons a).trans (List.sublist_append_right ..)

section Preorder

variable (trans : ∀ a b c, le a b = true → le b c = true → le a c = true)
  (total : ∀ a b, (le a b || le b a) = true)

include trans total

/-- Elements that tie keep the order they come in. -/
theorem filter_mergeSort_tied (list : List α) (pivot : α) :
    (list.mergeSort le).filter (fun a => le a pivot && le pivot a) =
      list.filter (fun a => le a pivot && le pivot a) := by
  have hsorted : (list.filter fun a => le a pivot && le pivot a).Pairwise (fun a b => le a b) := by
    refine List.pairwise_of_forall_mem_list fun a ha b hb => ?_
    simp only [List.mem_filter, Bool.and_eq_true] at ha hb
    exact trans a pivot b ha.2.1 hb.2.2
  have hsub := (List.sublist_mergeSort trans total hsorted List.filter_sublist).filter
    (fun a => le a pivot && le pivot a)
  rw [List.filter_filter] at hsub
  simp only [Bool.and_self] at hsub
  refine (hsub.eq_of_length ?_).symm
  exact ((List.mergeSort_perm list le).filter _).length_eq.symm

theorem le_of_pair_sublist_mergeSort {list : List α} {a b : α}
    (hpair : [a, b].Sublist (list.mergeSort le)) : le a b = true :=
  List.pairwise_iff_forall_sublist.mp (List.pairwise_mergeSort trans total list) hpair

/-- What the sort puts in order was in that order already, or was out of order before. -/
theorem pair_sublist_of_mergeSort {list : List α} {a b : α}
    (hpair : [a, b].Sublist (list.mergeSort le)) :
    [a, b].Sublist list ∧ le a b = true ∨ [b, a].Sublist list ∧ le b a = false := by
  have hle := le_of_pair_sublist_mergeSort trans total hpair
  by_cases hback : le b a = true
  · have hself : le b b = true := trans b a b hback hle
    have hkept := hpair.filter (fun c => le c b && le b c)
    rw [filter_mergeSort_tied trans total] at hkept
    simp only [List.filter_cons, hle, hback, hself, Bool.and_self, if_true, List.filter_nil]
      at hkept
    exact .inl ⟨hkept.trans List.filter_sublist, hle⟩
  · have hne : a ≠ b := fun heq => hback (heq ▸ hle)
    have ha : a ∈ list := List.mem_mergeSort.mp (hpair.subset (by simp))
    have hb : b ∈ list := List.mem_mergeSort.mp (hpair.subset (by simp))
    rw [Bool.not_eq_true] at hback
    obtain hsub | hsub := pair_sublist_or_swap ha hb hne
    · exact .inl ⟨hsub, hle⟩
    · exact .inr ⟨hsub, hback⟩

theorem pair_sublist_mergeSort_swap {list : List α} {a b : α} (hpair : [a, b].Sublist list)
    (hback : le a b = false) : [b, a].Sublist (list.mergeSort le) := by
  have hne : a ≠ b := by
    rintro rfl
    have hself := total a a
    rw [hback] at hself
    exact absurd hself (by simp)
  have ha : a ∈ list.mergeSort le := List.mem_mergeSort.mpr (hpair.subset (by simp))
  have hb : b ∈ list.mergeSort le := List.mem_mergeSort.mpr (hpair.subset (by simp))
  obtain hsub | hsub := pair_sublist_or_swap ha hb hne
  · rw [le_of_pair_sublist_mergeSort trans total hsub] at hback
    exact absurd hback (by simp)
  · exact hsub

/-- A stable sort brings a list into the order `R` exactly when every two elements do, in the
order the sort gives them. -/
theorem pairwise_mergeSort_iff {R : α → α → Prop} (list : List α) :
    (list.mergeSort le).Pairwise R ↔
      list.Pairwise (fun a b => if le a b = true then R a b else R b a) := by
  simp only [List.pairwise_iff_forall_sublist]
  constructor
  · intro hsorted a b hpair
    split
    next hle => exact hsorted (List.pair_sublist_mergeSort trans total hle hpair)
    next hle =>
        rw [Bool.not_eq_true] at hle
        exact hsorted (pair_sublist_mergeSort_swap trans total hpair hle)
  · intro hlist a b hpair
    obtain ⟨hsub, hle⟩ | ⟨hsub, hle⟩ := pair_sublist_of_mergeSort trans total hpair
    · have hR := hlist hsub
      rwa [if_pos hle] at hR
    · have hR := hlist hsub
      rwa [hle, if_neg (by simp)] at hR

end Preorder

end Sorting

end Foundation
