import Mathlib.Data.List.Sort
import Mathlib.Data.Prod.Lex

/-!
# Rankings

A stable sort by a key depends only on the order inside each class of equal keys. A ranking reads the
two best keys, which an element below both of them does not move.
-/

namespace Ranking

variable {α κ : Type*} [LinearOrder κ] {key : α → κ}

/-! ## Stable sorting -/

/-- Sorting by a key keeps the order of the elements of one key. -/
theorem filter_insertionSort (l : List α) (k : κ) :
    (l.insertionSort fun a b => key a ≤ key b).filter (fun a => key a = k) =
      l.filter fun a => key a = k := by
  have hpairwise : (l.filter fun a => key a = k).Pairwise fun a b => key a ≤ key b := by
    refine List.pairwise_of_forall_mem_list fun a ha b hb => ?_
    have hka := of_decide_eq_true (List.mem_filter.mp ha).2
    have hkb := of_decide_eq_true (List.mem_filter.mp hb).2
    exact (hka.trans hkb.symm).le
  have hsub := (List.sublist_insertionSort hpairwise List.filter_sublist).filter
    fun a => decide (key a = k)
  rw [List.filter_eq_self.mpr fun a ha => (List.mem_filter.mp ha).2] at hsub
  refine (hsub.eq_of_length ?_).symm
  exact ((List.perm_insertionSort _ l).filter _).length_eq.symm

/-- Two sorted lists that agree on every class of keys are the same. -/
theorem eq_of_filter_eq {s s' : List α} (hs : s.Pairwise fun a b => key a ≤ key b)
    (hs' : s'.Pairwise fun a b => key a ≤ key b)
    (h : ∀ k, s.filter (fun a => key a = k) = s'.filter fun a => key a = k) : s = s' := by
  have hmem (a : α) : a ∈ s ↔ a ∈ s' := by
    have hclass := congrArg (a ∈ ·) (h (key a))
    simpa using hclass
  induction s generalizing s' with
  | nil => exact (List.eq_nil_iff_forall_not_mem.mpr fun a ha => by simpa using (hmem a).mpr ha).symm
  | cons a s ih =>
    cases s' with
    | nil => simpa using (hmem a).mp List.mem_cons_self
    | cons a' s' =>
      rw [List.pairwise_cons] at hs hs'
      -- Both heads have the least key, and they come first in its class.
      have hle : key a ≤ key a' := by
        rcases List.mem_cons.mp ((hmem a').mpr List.mem_cons_self) with rfl | ha'
        · exact le_refl _
        · exact hs.1 a' ha'
      have hle' : key a' ≤ key a := by
        rcases List.mem_cons.mp ((hmem a).mp List.mem_cons_self) with rfl | ha
        · exact le_refl _
        · exact hs'.1 a ha
      have hkey : key a = key a' := le_antisymm hle hle'
      have hhead := h (key a)
      rw [List.filter_cons_of_pos (by simp), List.filter_cons_of_pos (by simp [hkey])] at hhead
      obtain ⟨rfl, -⟩ := List.cons.inj hhead
      have htail (k : κ) : s.filter (fun b => key b = k) = s'.filter fun b => key b = k := by
        have hclass := h k
        rw [List.filter_cons, List.filter_cons] at hclass
        split_ifs at hclass with hk
        · exact (List.cons.inj hclass).2
        · exact hclass
      have hmemTail (b : α) : b ∈ s ↔ b ∈ s' := by
        have hclass := congrArg (b ∈ ·) (htail (key b))
        simpa using hclass
      rw [ih hs.2 hs'.2 htail hmemTail]

/-- A stable sort depends only on the order inside each class of equal keys. -/
theorem insertionSort_eq_of_filter_eq {l l' : List α}
    (h : ∀ k, l.filter (fun a => key a = k) = l'.filter fun a => key a = k) :
    (l.insertionSort fun a b => key a ≤ key b) = l'.insertionSort fun a b => key a ≤ key b := by
  refine eq_of_filter_eq (List.pairwise_insertionSort _ l) (List.pairwise_insertionSort _ l')
    fun k => ?_
  rw [filter_insertionSort, filter_insertionSort, h]

/-- Where keys are distinct, each class has one element, whatever the order. -/
theorem filter_eq_of_perm {α κ : Type*} [DecidableEq κ] {key : α → κ} {l l' : List α}
    (h : l.Perm l') (hkeys : (l.map key).Nodup) (k : κ) :
    l.filter (fun a => key a = k) = l'.filter fun a => key a = k := by
  have hclass := h.filter fun a => decide (key a = k)
  have hnodup : ((l.filter fun a => key a = k).map key).Nodup :=
    hkeys.sublist (List.filter_sublist.map key)
  have hconstant : (l.filter fun a => key a = k).map key =
      List.replicate (l.filter fun a => key a = k).length k :=
    List.map_eq_replicate_iff.mpr fun a ha => of_decide_eq_true (List.mem_filter.mp ha).2
  rw [hconstant, List.nodup_replicate] at hnodup
  rcases hfilter : l.filter (fun a => key a = k) with _ | ⟨a, _ | ⟨b, rest⟩⟩
  · rw [hfilter] at hclass
    exact hclass.nil_eq
  · rw [hfilter] at hclass
    exact (List.singleton_perm.mp hclass)
  · rw [hfilter] at hnodup
    simp at hnodup

/-! ## The two best -/

/-- The elements from the best key downwards. -/
def ranked (key : α → κ) (l : List α) : List α := l.insertionSort fun a b => key b ≤ key a

theorem perm_ranked (l : List α) : (ranked key l).Perm l := List.perm_insertionSort _ l

theorem pairwise_ranked (l : List α) : (ranked key l).Pairwise fun a b => key b ≤ key a :=
  haveI : Std.Total fun a b : α => key b ≤ key a := ⟨fun a b => le_total (key b) (key a)⟩
  haveI : IsTrans α fun a b => key b ≤ key a := ⟨fun _ _ _ hab hbc => hbc.trans hab⟩
  List.pairwise_insertionSort _ l

theorem map_ranked (l : List α) : (ranked key l).map key = ranked id (l.map key) :=
  List.map_insertionSort _ _ key l fun _ _ _ _ => Iff.rfl

theorem ranked_eq_of_perm {keys keys' : List κ} (h : keys.Perm keys') :
    ranked id keys = ranked id keys' :=
  ((perm_ranked keys).trans (h.trans (perm_ranked keys').symm)).eq_of_pairwise
    (fun _ _ _ _ hab hba => le_antisymm hba hab) (pairwise_ranked keys) (pairwise_ranked keys')

/-- An element below two others leaves the two best as they are. -/
theorem ranked_insert_below {keys : List κ} {k : κ} (h : 2 ≤ keys.countP (k < ·)) :
    ∃ best second rest rest', ranked id keys = best :: second :: rest ∧
      ranked id (k :: keys) = best :: second :: rest' := by
  have hcount : 2 ≤ (ranked id keys).countP (k < ·) := by rwa [(perm_ranked keys).countP_eq]
  have hsorted : (ranked id keys).Pairwise fun a b => b ≤ a := pairwise_ranked keys
  have hinsert : ranked id (k :: keys) =
      (ranked id keys).orderedInsert (fun a b => id b ≤ id a) k := rfl
  rcases hranked : ranked id keys with _ | ⟨best, _ | ⟨second, rest⟩⟩
  · simp [hranked] at hcount
  · have hone := hcount.trans List.countP_le_length
    simp [hranked] at hone
  · rw [hranked, List.pairwise_cons, List.pairwise_cons] at hsorted
    obtain ⟨hbest, hsecond, -⟩ := hsorted
    have hlt : k < second := by
      by_contra hge
      have hrest : (second :: rest).countP (k < ·) = 0 := by
        rw [List.countP_eq_zero]
        intro other hother
        rcases List.mem_cons.mp hother with rfl | hother
        · simpa using hge
        · simpa using (hsecond other hother).trans (not_lt.mp hge)
      rw [hranked, List.countP_cons, hrest] at hcount
      split at hcount <;> omega
    have hlt' : k < best := hlt.trans_le (hbest second List.mem_cons_self)
    refine ⟨best, second, rest, rest.orderedInsert (fun a b => id b ≤ id a) k, rfl, ?_⟩
    rw [hinsert, hranked, List.orderedInsert_cons, List.orderedInsert_cons,
      if_neg (by exact not_le.mpr hlt'), if_neg (by exact not_le.mpr hlt)]

end Ranking
