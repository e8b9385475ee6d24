import Mathlib.Data.List.Cycle
import Mathlib.Data.List.Lex
import Mathlib.Data.List.MinMax
import Mathlib.Logic.Relation

/-!
# Simple cycles

The simple cycles of a relation as lists up to rotation. A relation has one exactly if some element
reaches itself. The least rotation of a list stands for all its rotations.
-/

namespace SimpleCycles

variable {α : Type*} {E : α → α → Prop} {a b : α} {l l' : List α}

/-- A list of distinct elements, each related to the next and the last to the first. -/
structure IsSimpleCycle (E : α → α → Prop) (l : List α) : Prop where
  ne_nil : l ≠ []
  nodup : l.Nodup
  chain : Cycle.Chain E l

theorem IsSimpleCycle.rotated (h : IsSimpleCycle E l) (hr : l ~r l') : IsSimpleCycle E l' := by
  have hsame : (l : Cycle α) = l' := Cycle.coe_eq_coe.mpr hr
  refine ⟨?_, hr.nodup_iff.mp h.nodup, hsame ▸ h.chain⟩
  rintro rfl
  exact h.ne_nil (List.isRotated_nil_iff.mp hr)

theorem isSimpleCycle_cons :
    IsSimpleCycle E (a :: l) ↔ (a :: l).Nodup ∧ (a :: (l ++ [a])).IsChain E := by
  constructor
  · exact fun h => ⟨h.nodup, (Cycle.chain_coe_cons E a l).mp h.chain⟩
  · exact fun h => ⟨List.cons_ne_nil a l, h.1, (Cycle.chain_coe_cons E a l).mpr h.2⟩

/-! ## Closed walks -/

theorem transGen_of_isChain (h : (a :: (l ++ [b])).IsChain E) : Relation.TransGen E a b := by
  induction l generalizing a with
  | nil => exact .single (by simpa using h)
  | cons c l ih =>
    rw [List.cons_append, List.isChain_cons_cons] at h
    exact .head h.1 (ih h.2)

theorem exists_isChain_of_transGen (h : Relation.TransGen E a b) :
    ∃ l, (a :: (l ++ [b])).IsChain E := by
  induction h using Relation.TransGen.head_induction_on with
  | single hab => exact ⟨[], by simpa using hab⟩
  | head hac _ ih =>
    obtain ⟨l, hl⟩ := ih
    exact ⟨_ :: l, List.isChain_cons_cons.mpr ⟨hac, hl⟩⟩

/-- A list that is not free of repetitions has an element that stands at two places. -/
theorem exists_repetition (h : ¬l.Nodup) : ∃ x p q r, l = p ++ x :: (q ++ x :: r) := by
  induction l with
  | nil => exact absurd List.nodup_nil h
  | cons a l ih =>
    by_cases ha : a ∈ l
    · obtain ⟨q, r, rfl⟩ := List.append_of_mem ha
      exact ⟨a, [], q, r, rfl⟩
    · obtain ⟨x, p, q, r, rfl⟩ := ih fun hl => h (List.nodup_cons.mpr ⟨ha, hl⟩)
      exact ⟨x, a :: p, q, r, rfl⟩

/-- Every closed walk has a simple cycle in it: one between the two places of a repeated element is
shorter. -/
theorem exists_simpleCycle_of_isChain (h : (a :: (l ++ [a])).IsChain E) :
    ∃ c, IsSimpleCycle E c := by
  induction hn : l.length using Nat.strong_induction_on generalizing a l with
  | h n ih =>
    by_cases hnodup : (a :: l).Nodup
    · exact ⟨a :: l, isSimpleCycle_cons.mpr ⟨hnodup, h⟩⟩
    · obtain ⟨x, p, q, r, hl⟩ := exists_repetition hnodup
      have hpart : (x :: (q ++ [x])) <:+: a :: (l ++ [a]) := by
        refine ⟨p, r ++ [a], ?_⟩
        rw [← List.cons_append (a := a), hl]
        simp
      have hlength := congrArg List.length hl
      simp only [List.length_cons, List.length_append] at hlength
      exact ih q.length (by omega) ( List.IsChain.infix h hpart) rfl

/-- A relation has a simple cycle exactly if some element reaches itself. -/
theorem exists_isSimpleCycle_iff : (∃ l, IsSimpleCycle E l) ↔ ∃ a, Relation.TransGen E a a := by
  constructor
  · rintro ⟨l, h⟩
    obtain ⟨a, l, rfl⟩ := List.exists_cons_of_ne_nil h.ne_nil
    exact ⟨a, transGen_of_isChain (isSimpleCycle_cons.mp h).2⟩
  · rintro ⟨a, h⟩
    obtain ⟨l, hl⟩ := exists_isChain_of_transGen h
    exact exists_simpleCycle_of_isChain hl

/-! ## Least elements -/

section Least

variable {β κ : Type*} [LinearOrder κ] {key : β → κ} {elements : List β} {m : β}

/-- The first of the elements of a list with the least key. -/
def leastBy (key : β → κ) (elements : List β) : Option β := elements.argmin key

theorem leastBy_eq_none : leastBy key elements = none ↔ elements = [] := List.argmin_eq_none

theorem leastBy_mem (h : leastBy key elements = some m) : m ∈ elements := List.argmin_mem h

theorem leastBy_le (h : leastBy key elements = some m) {b : β} (hb : b ∈ elements) :
    key m ≤ key b := List.le_of_mem_argmin hb h

end Least

/-! ## The least rotation -/

/-- The rotations of a list, one for each index. -/
def rotations (l : List α) : List (List α) :=
  (List.range l.length).map fun index => l.drop index ++ l.take index

theorem mem_rotations (hl : l ≠ []) : l' ∈ rotations l ↔ l ~r l' := by
  have hpos := List.length_pos_iff.mpr hl
  simp only [rotations, List.mem_map, List.mem_range]
  constructor
  · rintro ⟨index, hindex, rfl⟩
    exact ⟨index, List.rotate_eq_drop_append_take hindex.le⟩
  · rintro ⟨n, rfl⟩
    have hmod := Nat.mod_lt n hpos
    refine ⟨n % l.length, hmod, ?_⟩
    rw [← List.rotate_eq_drop_append_take hmod.le, List.rotate_mod]

section Canonical

variable [LinearOrder α]

/-- The least rotation of a list. -/
def canonical (l : List α) : List α := (leastBy id (rotations l)).getD []

theorem canonical_isLeast (hl : l ≠ []) : IsLeast {r | l ~r r} (canonical l) := by
  have hsome : leastBy id (rotations l) ≠ none := by
    rw [Ne, leastBy_eq_none]
    exact List.ne_nil_of_mem ((mem_rotations hl).mpr (List.IsRotated.refl l))
  obtain ⟨r, hr⟩ := Option.ne_none_iff_exists'.mp hsome
  rw [canonical, hr]
  refine ⟨(mem_rotations hl).mp (leastBy_mem hr), fun r' hr' => ?_⟩
  exact leastBy_le hr ((mem_rotations hl).mpr hr')

/-- Rotations have one least rotation. -/
theorem canonical_eq_of_isLeast (hl : l ≠ []) (h : IsLeast {r | l ~r r} l') : canonical l = l' :=
  (canonical_isLeast hl).unique h

end Canonical

end SimpleCycles
