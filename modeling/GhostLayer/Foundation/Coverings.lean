import Mathlib.Data.Fintype.BigOperators
import Mathlib.Data.Fintype.Fin
import Mathlib.Data.Finset.Max

/-! # Coverings by sets that are nested or disjoint

Among finitely many sets of which any two are nested or disjoint, those that lie
in no other one are disjoint and cover the same points, so that their sizes add
up to the number of the points covered. The words that begin alike are such sets.
-/

namespace Foundation

section Laminar

variable {ι α : Type*} [DecidableEq ι]

/-- Distinct sets, any two of them nested or disjoint, and the order of the items by inclusion. -/
structure Laminar (cover : ι → Finset α) (within : ι → ι → Prop) (items : Finset ι) : Prop where
  within_iff : ∀ first ∈ items, ∀ second ∈ items,
    (within first second ↔ cover first ⊆ cover second)
  injective : ∀ first ∈ items, ∀ second ∈ items, cover first = cover second → first = second
  nested : ∀ first ∈ items, ∀ second ∈ items,
    cover first ⊆ cover second ∨ cover second ⊆ cover first ∨
      Disjoint (cover first) (cover second)

/-- The items that lie in no other one. -/
def outermost (within : ι → ι → Prop) [DecidableRel within] (items : Finset ι) : Finset ι :=
  items.filter fun item => ∀ other ∈ items, within item other → other = item

namespace Laminar

variable {cover : ι → Finset α} {within : ι → ι → Prop} [DecidableRel within] {items : Finset ι}

theorem disjoint_outermost (hlaminar : Laminar cover within items) :
    Set.PairwiseDisjoint (outermost within items : Set ι) cover := by
  intro first hfirst second hsecond hdistinct
  obtain ⟨hfirst, hfirstOuter⟩ := Finset.mem_filter.mp hfirst
  obtain ⟨hsecond, hsecondOuter⟩ := Finset.mem_filter.mp hsecond
  rcases hlaminar.nested _ hfirst _ hsecond with hinside | hinside | hdisjoint
  · have hwithin := (hlaminar.within_iff _ hfirst _ hsecond).mpr hinside
    exact absurd (hfirstOuter _ hsecond hwithin).symm hdistinct
  · have hwithin := (hlaminar.within_iff _ hsecond _ hfirst).mpr hinside
    exact absurd (hsecondOuter _ hfirst hwithin) hdistinct
  · exact hdisjoint

variable [DecidableEq α]

/-- Every item lies in an outermost one: a largest of those around it. -/
theorem exists_outermost (hlaminar : Laminar cover within items) {item : ι} (hitem : item ∈ items) :
    ∃ outer ∈ outermost within items, cover item ⊆ cover outer := by
  obtain ⟨outer, houter, hlargest⟩ := Finset.exists_max_image
    (items.filter fun other => cover item ⊆ cover other) (fun other => (cover other).card)
    ⟨item, Finset.mem_filter.mpr ⟨hitem, Finset.Subset.refl _⟩⟩
  obtain ⟨hmember, haround⟩ := Finset.mem_filter.mp houter
  refine ⟨outer, Finset.mem_filter.mpr ⟨hmember, fun other hother hwithin => ?_⟩, haround⟩
  have hinside : cover outer ⊆ cover other := (hlaminar.within_iff _ hmember _ hother).mp hwithin
  have hsize : (cover other).card ≤ (cover outer).card :=
    hlargest other (Finset.mem_filter.mpr ⟨hother, haround.trans hinside⟩)
  apply hlaminar.injective _ hother _ hmember
  exact (Finset.eq_of_subset_of_card_le hinside hsize).symm

theorem biUnion_outermost (hlaminar : Laminar cover within items) :
    (outermost within items).biUnion cover = items.biUnion cover := by
  apply Finset.Subset.antisymm
  · exact Finset.biUnion_subset_biUnion_of_subset_left cover (Finset.filter_subset _ _)
  · intro point hpoint
    obtain ⟨item, hitem, hinside⟩ := Finset.mem_biUnion.mp hpoint
    obtain ⟨outer, houter, haround⟩ := hlaminar.exists_outermost hitem
    exact Finset.mem_biUnion.mpr ⟨outer, houter, haround hinside⟩

/-- The sizes of the outermost sets add up to the number of the points covered. -/
theorem card_biUnion (hlaminar : Laminar cover within items) :
    (items.biUnion cover).card = ∑ item ∈ outermost within items, (cover item).card := by
  rw [← hlaminar.biUnion_outermost]
  exact Finset.card_biUnion hlaminar.disjoint_outermost

/-- A point is left over exactly when the sizes of the outermost sets leave one. -/
theorem exists_uncovered_iff [Fintype α] (hlaminar : Laminar cover within items) :
    (∃ point, ∀ item ∈ items, point ∉ cover item) ↔
      ∑ item ∈ outermost within items, (cover item).card < Fintype.card α := by
  rw [← hlaminar.card_biUnion, Finset.card_lt_iff_ne_univ, Ne, Finset.eq_univ_iff_forall,
    not_forall]
  simp only [Finset.mem_biUnion, not_exists, not_and]

end Laminar

end Laminar

/-! ## Words -/

namespace Word

variable {σ : Type*} [Fintype σ] [DecidableEq σ] {width length : Nat}

/-- The words that begin with the first letters of a word. -/
def cylinder (word : Fin width → σ) (length : Nat) : Finset (Fin width → σ) :=
  Finset.univ.filter fun other => ∀ index, index.val < length → other index = word index

@[simp]
theorem mem_cylinder {word other : Fin width → σ} :
    other ∈ cylinder word length ↔ ∀ index, index.val < length → other index = word index := by
  simp [cylinder]

theorem self_mem_cylinder (word : Fin width → σ) (length : Nat) : word ∈ cylinder word length :=
  mem_cylinder.mpr fun _ _ => rfl

/-- The letters behind the beginning are free. -/
theorem card_cylinder (word : Fin width → σ) (hlength : length ≤ width) :
    (cylinder word length).card = Fintype.card σ ^ (width - length) := by
  have hproduct : cylinder word length = Fintype.piFinset fun index : Fin width =>
      if index.val < length then {word index} else Finset.univ := by
    ext other
    simp only [mem_cylinder, Fintype.mem_piFinset]
    refine forall_congr' fun index => ?_
    split_ifs with hindex <;> simp [hindex]
  have hfree : (Finset.univ.filter fun index : Fin width => ¬ index.val < length).card =
      width - length := by
    rw [Finset.filter_not, Finset.card_sdiff_of_subset (Finset.filter_subset _ _),
      Fin.card_filter_val_lt, Finset.card_fin, Nat.min_eq_right hlength]
  rw [hproduct, Fintype.card_piFinset]
  simp only [apply_ite Finset.card, Finset.card_singleton, Finset.card_univ, Finset.prod_ite,
    Finset.prod_const_one, Finset.prod_const, one_mul, hfree]

variable {first second : Fin width → σ} {m n : Nat}

/-- Words that begin alike have the same continuations. -/
theorem cylinder_subset (hlength : n ≤ m)
    (hagree : ∀ index, index.val < n → first index = second index) :
    cylinder first m ⊆ cylinder second n := by
  intro word hword
  rw [mem_cylinder] at hword ⊢
  intro index hindex
  rw [hword index (hindex.trans_le hlength), hagree index hindex]

theorem cylinder_subset_iff [Nontrivial σ] (hm : m ≤ width) (hn : n ≤ width) :
    cylinder first m ⊆ cylinder second n ↔
      n ≤ m ∧ ∀ index, index.val < n → first index = second index := by
  constructor
  · intro hinside
    have hsize := Finset.card_le_card hinside
    rw [card_cylinder _ hm, card_cylinder _ hn,
      Nat.pow_le_pow_iff_right Fintype.one_lt_card] at hsize
    exact ⟨by omega, mem_cylinder.mp (hinside (self_mem_cylinder first m))⟩
  · rintro ⟨hlength, hagree⟩
    exact cylinder_subset hlength hagree

/-- Two beginnings have a common continuation only when one continues the other. -/
theorem cylinder_nested (first second : Fin width → σ) (m n : Nat) :
    cylinder first m ⊆ cylinder second n ∨ cylinder second n ⊆ cylinder first m ∨
      Disjoint (cylinder first m) (cylinder second n) := by
  by_cases hdisjoint : Disjoint (cylinder first m) (cylinder second n)
  · exact .inr (.inr hdisjoint)
  · obtain ⟨word, hfirst, hsecond⟩ := Finset.not_disjoint_iff.mp hdisjoint
    rw [mem_cylinder] at hfirst hsecond
    rcases Nat.le_total n m with hle | hle
    · refine .inl (cylinder_subset hle fun index hindex => ?_)
      rw [← hfirst index (hindex.trans_le hle), hsecond index hindex]
    · refine .inr (.inl (cylinder_subset hle fun index hindex => ?_))
      rw [← hsecond index (hindex.trans_le hle), hfirst index hindex]

end Word

end Foundation
