import Mathlib.Data.Finset.Basic
import Mathlib.Data.Finset.Insert
import Mathlib.Logic.Relation

/-!
# Closure under linked pairs

A set is closed under a list of pairs when it holds both ends of every pair or neither. The closure
of a set is found by passing over the list until a pass absorbs nothing; a list has as many pairs to
absorb as pairs, so that many passes are enough. The closure is the least closed set above the start
and does not depend on the order of the pairs. A guarded search for the closure stops at the first
element that is not allowed; it finds the closure exactly when the closure is allowed.
-/

namespace PairClosure

variable {α ε : Type*} [DecidableEq α] {pairs pairs' : List (α × α)} {s t : Finset α}
  {p : α × α} {a : α}

/-- A set holds both ends of every pair or neither. -/
def Closed (pairs : List (α × α)) (s : Finset α) : Prop := ∀ p ∈ pairs, p.1 ∈ s ↔ p.2 ∈ s

theorem Closed.union (hs : Closed pairs s) (ht : Closed pairs t) : Closed pairs (s ∪ t) := by
  intro p hp
  rw [Finset.mem_union, Finset.mem_union, hs p hp, ht p hp]

omit [DecidableEq α] in
theorem Closed.perm (hs : Closed pairs s) (h : pairs'.Perm pairs) : Closed pairs' s :=
  fun p hp => hs p (h.subset hp)

/-! ## One pass -/

/-- A pair with one end in the set brings both ends into it. -/
def absorb (s : Finset α) (p : α × α) : Finset α :=
  if p.1 ∈ s ∨ p.2 ∈ s then insert p.1 (insert p.2 s) else s

theorem subset_absorb : s ⊆ absorb s p := by
  unfold absorb
  split
  · exact (Finset.subset_insert _ _).trans (Finset.subset_insert _ _)
  · exact Finset.Subset.refl s

/-- A closed set above a set is above what the set absorbs. -/
theorem absorb_subset (ht : Closed pairs t) (hp : p ∈ pairs) (h : s ⊆ t) : absorb s p ⊆ t := by
  unfold absorb
  split
  · rename_i hend
    have hends : p.1 ∈ t ∧ p.2 ∈ t := by
      rcases hend with hl | hr
      · exact ⟨h hl, (ht p hp).mp (h hl)⟩
      · exact ⟨(ht p hp).mpr (h hr), h hr⟩
    exact Finset.insert_subset hends.1 (Finset.insert_subset hends.2 h)
  · exact h

/-- A set that a pair leaves alone holds both of its ends or neither. -/
theorem iff_of_absorb_eq (h : absorb s p = s) : p.1 ∈ s ↔ p.2 ∈ s := by
  constructor
  · intro hl
    rw [← h, absorb, if_pos (.inl hl)]
    exact Finset.mem_insert_of_mem (Finset.mem_insert_self _ _)
  · intro hr
    rw [← h, absorb, if_pos (.inr hr)]
    exact Finset.mem_insert_self _ _

/-- One pass over the pairs. -/
def pass (pairs : List (α × α)) (s : Finset α) : Finset α := pairs.foldl absorb s

theorem subset_pass : s ⊆ pass pairs s := by
  induction pairs generalizing s with
  | nil => exact Finset.Subset.refl s
  | cons p pairs ih => exact subset_absorb.trans ih

theorem pass_subset (ht : Closed pairs t) (h : s ⊆ t) : pass pairs s ⊆ t := by
  unfold pass
  suffices hfold : ∀ l : List (α × α), (∀ p ∈ l, p ∈ pairs) → ∀ s, s ⊆ t →
      l.foldl absorb s ⊆ t from hfold pairs (fun _ hp => hp) s h
  intro l
  induction l with
  | nil => exact fun _ s hs => hs
  | cons p l ih =>
    intro hl s hs
    exact ih (fun q hq => hl q (List.mem_cons_of_mem p hq)) _
      (absorb_subset ht (hl p List.mem_cons_self) hs)

/-- A set that a pass leaves alone is closed. -/
theorem closed_of_pass_eq (h : pass pairs s = s) : Closed pairs s := by
  induction pairs with
  | nil => exact fun p hp => absurd hp List.not_mem_nil
  | cons p pairs ih =>
    have hp : absorb s p = s :=
      Finset.Subset.antisymm (subset_pass.trans h.subset) subset_absorb
    have hrest : pass pairs s = s := by
      rw [pass, List.foldl_cons, hp] at h
      exact h
    intro q hq
    rcases List.mem_cons.mp hq with rfl | hq
    · exact iff_of_absorb_eq hp
    · exact ih hrest q hq

/-! ## Passing until nothing is absorbed -/

/-- The pairs that a set does not hold entirely. -/
def outside (pairs : List (α × α)) (s : Finset α) : List (α × α) :=
  pairs.filter fun p => ¬(p.1 ∈ s ∧ p.2 ∈ s)

theorem mem_outside : p ∈ outside pairs s ↔ p ∈ pairs ∧ ¬(p.1 ∈ s ∧ p.2 ∈ s) := by
  rw [outside, List.mem_filter, decide_eq_true_eq]

/-- A set that grows holds entirely what it held entirely. -/
theorem outside_sublist (h : s ⊆ t) : (outside pairs t).Sublist (outside pairs s) :=
  List.monotone_filter_right pairs fun _ hp => by
    rw [decide_eq_true_eq] at hp ⊢
    exact fun hs => hp ⟨h hs.1, h hs.2⟩

/-- A pass that absorbs something leaves fewer pairs outside. -/
theorem length_outside_pass_lt (h : pass pairs s ≠ s) :
    (outside pairs (pass pairs s)).length < (outside pairs s).length := by
  have hsub : (outside pairs (pass pairs s)).Sublist (outside pairs s) :=
    outside_sublist subset_pass
  refine lt_of_le_of_ne hsub.length_le fun hlength => h ?_
  -- If as many pairs stay outside, none of them was absorbed on the way.
  have hsame : outside pairs (pass pairs s) = outside pairs s := hsub.eq_of_length hlength
  suffices hfold : ∀ l : List (α × α), (∀ p ∈ l, p ∈ pairs) → l.foldl absorb s ⊆ pass pairs s →
      l.foldl absorb s = s from hfold pairs (fun _ hp => hp) (Finset.Subset.refl _)
  intro l
  induction l using List.reverseRecOn with
  | nil => exact fun _ _ => rfl
  | append_singleton l p ih =>
    intro hl hle
    rw [List.foldl_concat] at hle ⊢
    have hstart : l.foldl absorb s = s :=
      ih (fun q hq => hl q (List.mem_append_left _ hq)) (subset_absorb.trans hle)
    rw [hstart] at hle ⊢
    by_cases hend : p.1 ∈ s ∨ p.2 ∈ s
    · have hends : p.1 ∈ s ∧ p.2 ∈ s := by
        by_contra hout
        have hmem : p ∈ outside pairs s :=
          mem_outside.mpr ⟨hl p (List.mem_append_right l (List.mem_singleton_self p)), hout⟩
        rw [← hsame] at hmem
        rw [absorb, if_pos hend] at hle
        exact (mem_outside.mp hmem).2 ⟨hle (Finset.mem_insert_self _ _),
          hle (Finset.mem_insert_of_mem (Finset.mem_insert_self _ _))⟩
      rw [absorb, if_pos hend, Finset.insert_eq_of_mem hends.2, Finset.insert_eq_of_mem hends.1]
    · rw [absorb, if_neg hend]

/-- Pass until a pass absorbs nothing, at most so many times. -/
def grow (pairs : List (α × α)) : Nat → Finset α → Finset α
  | 0, s => s
  | n + 1, s => if pass pairs s = s then s else grow pairs n (pass pairs s)

theorem subset_grow {n : Nat} : s ⊆ grow pairs n s := by
  induction n generalizing s with
  | zero => exact Finset.Subset.refl s
  | succ n ih =>
    rw [grow]
    split
    · exact Finset.Subset.refl s
    · exact subset_pass.trans ih

theorem grow_subset {n : Nat} (ht : Closed pairs t) (h : s ⊆ t) : grow pairs n s ⊆ t := by
  induction n generalizing s with
  | zero => exact h
  | succ n ih =>
    rw [grow]
    split
    · exact h
    · exact ih (pass_subset ht h)

/-- As many passes as pairs outside are enough. -/
theorem closed_grow {n : Nat} (h : (outside pairs s).length ≤ n) :
    Closed pairs (grow pairs n s) := by
  induction n generalizing s with
  | zero =>
    intro p hp
    have hin : p.1 ∈ s ∧ p.2 ∈ s := by
      by_contra hout
      exact absurd (List.length_pos_of_mem (mem_outside.mpr ⟨hp, hout⟩)) (by omega)
    exact ⟨fun _ => hin.2, fun _ => hin.1⟩
  | succ n ih =>
    rw [grow]
    split
    · rename_i hpass
      exact closed_of_pass_eq hpass
    · rename_i hpass
      have := length_outside_pass_lt hpass
      exact ih (by omega)

/-! ## The closure -/

/-- The least closed set above a set. -/
def closure (pairs : List (α × α)) (s : Finset α) : Finset α := grow pairs pairs.length s

theorem subset_closure : s ⊆ closure pairs s := subset_grow

theorem closed_closure : Closed pairs (closure pairs s) :=
  closed_grow (List.length_filter_le _ _)

theorem closure_subset (ht : Closed pairs t) (h : s ⊆ t) : closure pairs s ⊆ t := grow_subset ht h

/-- The closure does not depend on the order of the pairs. -/
theorem closure_perm (h : pairs.Perm pairs') : closure pairs s = closure pairs' s :=
  Finset.Subset.antisymm
    (closure_subset (closed_closure.perm h) subset_closure)
    (closure_subset (closed_closure.perm h.symm) subset_closure)

/-! ## Components -/

/-- Two elements that a chain of pairs links, in any direction. -/
def Linked (pairs : List (α × α)) : α → α → Prop := Relation.EqvGen fun a b => (a, b) ∈ pairs

omit [DecidableEq α] in
/-- A closed set holds linked elements together. -/
theorem Closed.mem_iff_of_linked (hs : Closed pairs s) {b : α} (h : Linked pairs a b) :
    a ∈ s ↔ b ∈ s := by
  induction h with
  | rel a b hpair => exact hs (a, b) hpair
  | refl a => exact Iff.rfl
  | symm a b _ ih => exact ih.symm
  | trans a b c _ _ ihab ihbc => exact ihab.trans ihbc

/-- The closure of a set holds what is linked to it. -/
theorem mem_closure_iff {b : α} : b ∈ closure pairs s ↔ ∃ a ∈ s, Linked pairs a b := by
  classical
  constructor
  · intro hb
    have hclosed : Closed pairs ((closure pairs s).filter fun b => ∃ a ∈ s, Linked pairs a b) := by
      intro p hp
      have hlinked : (∃ a ∈ s, Linked pairs a p.1) ↔ ∃ a ∈ s, Linked pairs a p.2 :=
        exists_congr fun a => and_congr_right fun _ =>
          ⟨fun h => h.trans _ _ _ (.rel _ _ hp), fun h => h.trans _ _ _ (.symm _ _ (.rel _ _ hp))⟩
      rw [Finset.mem_filter, Finset.mem_filter, closed_closure p hp, hlinked]
    have hstart : s ⊆ (closure pairs s).filter fun b => ∃ a ∈ s, Linked pairs a b := by
      intro a ha
      exact Finset.mem_filter.mpr ⟨subset_closure ha, a, ha, .refl a⟩
    exact (Finset.mem_filter.mp (closure_subset hclosed hstart hb)).2
  · rintro ⟨a, ha, hlinked⟩
    exact (closed_closure.mem_iff_of_linked hlinked).mp (subset_closure ha)

/-! ## The closure inside what is allowed -/

/-- A pair with one end in the set brings its other end into it, if that is allowed. -/
def absorbWithin (allowed : Finset α) (refusal : ε) (s : Finset α) (p : α × α) :
    Except ε (Finset α) :=
  if absorb s p = s then .ok s
  else if absorb s p \ s ⊆ allowed then .ok (absorb s p) else .error refusal

/-- One pass over the pairs, inside what is allowed. -/
def passWithin (allowed : Finset α) (refusal : ε) (pairs : List (α × α)) (s : Finset α) :
    Except ε (Finset α) :=
  pairs.foldlM (absorbWithin allowed refusal) s

/-- Pass until a pass absorbs nothing, inside what is allowed. -/
def growWithin (allowed : Finset α) (refusal : ε) (pairs : List (α × α)) :
    Nat → Finset α → Except ε (Finset α)
  | 0, s => .ok s
  | n + 1, s => do
    let next ← passWithin allowed refusal pairs s
    if next = s then return s
    growWithin allowed refusal pairs n next

/-- The closure of a set, if it is allowed. -/
def closureWithin (allowed : Finset α) (refusal : ε) (pairs : List (α × α)) (s : Finset α) :
    Except ε (Finset α) :=
  growWithin allowed refusal pairs pairs.length s

variable {allowed : Finset α} {refusal : ε}

theorem absorbWithin_eq (h : s ⊆ allowed) : absorbWithin allowed refusal s p =
    if absorb s p ⊆ allowed then .ok (absorb s p) else .error refusal := by
  unfold absorbWithin
  have hnew : absorb s p \ s ⊆ allowed ↔ absorb s p ⊆ allowed := by
    refine ⟨fun hnew a ha => ?_, Finset.sdiff_subset.trans⟩
    by_cases has : a ∈ s
    · exact h has
    · exact hnew (Finset.mem_sdiff.mpr ⟨ha, has⟩)
  by_cases hsame : absorb s p = s
  · rw [if_pos hsame, hsame, if_pos h]
  · simp only [if_neg hsame, hnew]

theorem passWithin_eq (h : s ⊆ allowed) : passWithin allowed refusal pairs s =
    if pass pairs s ⊆ allowed then .ok (pass pairs s) else .error refusal := by
  induction pairs generalizing s with
  | nil => exact (if_pos h).symm
  | cons p pairs ih =>
    rw [passWithin, List.foldlM_cons, absorbWithin_eq h]
    by_cases hp : absorb s p ⊆ allowed
    · rw [if_pos hp]
      exact ih hp
    · have hpass : ¬pass (p :: pairs) s ⊆ allowed := fun hle => hp (subset_pass.trans hle)
      rw [if_neg hp, if_neg hpass]
      rfl

theorem growWithin_eq {n : Nat} (h : s ⊆ allowed) : growWithin allowed refusal pairs n s =
    if grow pairs n s ⊆ allowed then .ok (grow pairs n s) else .error refusal := by
  induction n generalizing s with
  | zero => exact (if_pos h).symm
  | succ n ih =>
    rw [growWithin, passWithin_eq h, grow]
    by_cases hp : pass pairs s ⊆ allowed
    · rw [if_pos hp]
      by_cases hsame : pass pairs s = s
      · rw [if_pos hsame, if_pos h]
        exact if_pos hsame
      · rw [if_neg hsame]
        exact (if_neg hsame).trans (ih hp)
    · have hsame : pass pairs s ≠ s := fun heq => hp (heq.subset.trans h)
      have hgrow : ¬grow pairs n (pass pairs s) ⊆ allowed := fun hle => hp (subset_grow.trans hle)
      rw [if_neg hp, if_neg hsame, if_neg hgrow]
      rfl

/-- The guarded search finds the closure exactly when the closure is allowed. -/
theorem closureWithin_eq (h : s ⊆ allowed) : closureWithin allowed refusal pairs s =
    if closure pairs s ⊆ allowed then .ok (closure pairs s) else .error refusal :=
  growWithin_eq h

end PairClosure
