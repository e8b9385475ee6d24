import Mathlib.Data.Finset.Sort
import Mathlib.Data.List.Sort

/-!
# Lists under two orders

A list that is sorted by one key may be asked for in another order. Sorting it by that order keeps
the key increasing exactly when the two orders agree on the elements of the list.
-/

namespace Sorting

variable {α κ : Type*} [LinearOrder κ]

/-- A sorted list without a repetition increases strictly. -/
theorem pairwise_lt_insertionSort {l : List κ} (h : l.Nodup) :
    (l.insertionSort (· ≤ ·)).Pairwise (· < ·) := by
  have hle : (l.insertionSort (· ≤ ·)).Pairwise (· ≤ ·) := List.pairwise_insertionSort _ l
  have hne : (l.insertionSort (· ≤ ·)).Pairwise (· ≠ ·) :=
    (List.perm_insertionSort _ l).nodup_iff.mpr h
  exact (hle.and hne).imp fun hab => lt_of_le_of_ne hab.1 hab.2

variable {key : α → κ} {l : List α}

/-- On a list with increasing keys, an order of the elements is an order of the keys. -/
theorem pairwise_iff_of_increasing (hl : l.Pairwise fun a b => key a < key b)
    {r : α → α → Prop} : l.Pairwise r ↔ ∀ a ∈ l, ∀ b ∈ l, key a < key b → r a b := by
  constructor
  · intro hr a ha b hb hab
    obtain ⟨i, hi, rfl⟩ := List.getElem_of_mem ha
    obtain ⟨j, hj, rfl⟩ := List.getElem_of_mem hb
    rcases lt_trichotomy i j with hij | rfl | hji
    · exact List.pairwise_iff_getElem.mp hr i j hi hj hij
    · exact absurd hab (lt_irrefl _)
    · exact absurd (List.pairwise_iff_getElem.mp hl j i hj hi hji) (lt_asymm hab)
  · intro hr
    refine hl.imp_of_mem ?_
    intro a b ha hb hab
    exact hr a ha b hb hab

/-- Sorting a list with increasing keys by another order keeps the keys increasing exactly when the
list stands in that order already. -/
theorem increasing_insertionSort_iff (hl : l.Pairwise fun a b => key a < key b)
    (r : α → α → Prop) [DecidableRel r] [Std.Total r] [IsTrans α r] :
    ((l.insertionSort r).Pairwise fun a b => key a < key b) ↔ l.Pairwise r := by
  constructor
  · intro h
    have hsame : l.insertionSort r = l :=
      (List.perm_insertionSort r l).eq_of_pairwise
        (fun _ _ _ _ hab hba => absurd hab (lt_asymm hba)) h hl
    rw [← hsame]
    exact List.pairwise_insertionSort r l
  · intro h
    rw [h.insertionSort_eq]
    exact hl

/-! ## Sorting by a key -/

theorem increasing_insertionSort (h : (l.map key).Nodup) :
    (l.insertionSort fun a b => key a ≤ key b).Pairwise fun a b => key a < key b := by
  have hle : (l.insertionSort fun a b => key a ≤ key b).Pairwise fun a b => key a ≤ key b :=
    List.pairwise_insertionSort _ l
  have hperm := List.perm_insertionSort (fun a b => key a ≤ key b) l
  have hne : (l.insertionSort fun a b => key a ≤ key b).Pairwise fun a b => key a ≠ key b :=
    List.pairwise_map.mp ((hperm.map key).nodup_iff.mpr h)
  exact (hle.and hne).imp fun hab => lt_of_le_of_ne hab.1 hab.2

/-- Lists with distinct keys and the same elements are sorted by the key to one list. -/
theorem insertionSort_key_eq_of_perm {l' : List α} (hkeys : (l.map key).Nodup) (h : l.Perm l') :
    (l.insertionSort fun a b => key a ≤ key b) = l'.insertionSort fun a b => key a ≤ key b := by
  have hkeys' : (l'.map key).Nodup := (h.map key).nodup_iff.mp hkeys
  have hperm : (l.insertionSort fun a b => key a ≤ key b).Perm
      (l'.insertionSort fun a b => key a ≤ key b) :=
    (List.perm_insertionSort _ l).trans (h.trans (List.perm_insertionSort _ l').symm)
  exact hperm.eq_of_pairwise (fun _ _ _ _ hab hba => absurd hab (lt_asymm hba))
    (increasing_insertionSort hkeys) (increasing_insertionSort hkeys')

/-! ## Sorting forgets an order -/

theorem insertionSort_eq_of_perm {l l' : List κ} (h : l.Perm l') :
    l.insertionSort (· ≤ ·) = l'.insertionSort (· ≤ ·) := by
  have hperm : (l.insertionSort (· ≤ ·)).Perm (l'.insertionSort (· ≤ ·)) :=
    (List.perm_insertionSort _ l).trans (h.trans (List.perm_insertionSort _ l').symm)
  exact hperm.eq_of_pairwise (fun _ _ _ _ => le_antisymm) (List.pairwise_insertionSort _ l)
    (List.pairwise_insertionSort _ l')

/-- The elements of a finite set in their order. -/
def listed (s : Finset κ) : List κ :=
  Quot.liftOn s.1 (List.insertionSort (· ≤ ·)) fun _ _ h => insertionSort_eq_of_perm h

theorem listed_eq_sort (s : Finset κ) : listed s = s.sort := by
  obtain ⟨⟨l⟩, hs⟩ := s
  have hperm : (l.insertionSort (· ≤ ·)).Perm (Finset.sort ⟨Quot.mk _ l, hs⟩) :=
    (List.perm_insertionSort _ l).trans
      (Multiset.coe_eq_coe.mp (Finset.sort_eq ⟨Quot.mk _ l, hs⟩ (· ≤ ·))).symm
  exact hperm.eq_of_pairwise (fun _ _ _ _ => le_antisymm) (List.pairwise_insertionSort _ l)
    (Finset.pairwise_sort _ _)

variable {s : Finset κ} {a : κ}

@[simp] theorem mem_listed : a ∈ listed s ↔ a ∈ s := by
  rw [listed_eq_sort, Finset.mem_sort]

theorem pairwise_lt_listed : (listed s).Pairwise (· < ·) := by
  rw [listed_eq_sort]
  exact (Finset.sortedLT_sort s).pairwise

theorem nodup_listed : (listed s).Nodup := by
  rw [listed_eq_sort]
  exact Finset.sort_nodup _ _

@[simp] theorem toFinset_listed : (listed s).toFinset = s := by
  rw [listed_eq_sort, Finset.sort_toFinset]

@[simp] theorem length_listed : (listed s).length = s.card := by
  rw [listed_eq_sort, Finset.length_sort]

/-- A list in strict order is the list of its elements. -/
theorem eq_listed {l : List κ} (h : l.Pairwise (· < ·)) (hmem : ∀ a, a ∈ l ↔ a ∈ s) :
    l = listed s := by
  have hnodup : l.Nodup := h.imp fun hab => hab.ne
  have hperm : l.Perm (listed s) :=
    (List.perm_ext_iff_of_nodup hnodup nodup_listed).mpr fun a => (hmem a).trans mem_listed.symm
  exact hperm.eq_of_pairwise (fun _ _ _ _ hab hba => absurd hab (lt_asymm hba)) h pairwise_lt_listed

/-! ## First occurrences -/

/-- In a list with increasing keys, the elements whose value no smaller key has are as many as there
are values. -/
theorem length_filter_first {α κ β : Type*} [LinearOrder κ] [DecidableEq β] {l : List α}
    {key : α → κ} (hl : l.Pairwise fun a b => key a < key b) (value : α → β) :
    (l.filter fun a => ∀ b ∈ l, key b < key a → value b ≠ value a).length =
      (l.map value).toFinset.card := by
  have hnodup : ((l.filter fun a => ∀ b ∈ l, key b < key a → value b ≠ value a).map value).Nodup := by
    rw [List.Nodup, List.pairwise_map]
    refine (hl.filter _).imp_of_mem ?_
    intro a b ha hb hab
    exact of_decide_eq_true (List.mem_filter.mp hb).2 a (List.mem_filter.mp ha).1 hab
  have hsame : ((l.filter fun a => ∀ b ∈ l, key b < key a → value b ≠ value a).map value).toFinset =
      (l.map value).toFinset := by
    ext v
    simp only [List.mem_toFinset, List.mem_map, List.mem_filter, decide_eq_true_eq]
    constructor
    · rintro ⟨a, ⟨ha, -⟩, rfl⟩
      exact ⟨a, ha, rfl⟩
    · rintro ⟨a, ha, rfl⟩
      classical
      -- The smallest key with this value is the first one.
      obtain ⟨b, hb, hmin⟩ := (l.filter fun b => value b = value a).toFinset.exists_min_image key
        ⟨a, by simp [ha]⟩
      simp only [List.mem_toFinset, List.mem_filter, decide_eq_true_eq] at hb hmin
      refine ⟨b, ⟨hb.1, fun c hc hlt heq => ?_⟩, hb.2⟩
      exact absurd hlt (not_lt.mpr (hmin c ⟨hc, heq.trans hb.2⟩))
  rw [← hsame, List.toFinset_card_of_nodup hnodup, List.length_map]

end Sorting
