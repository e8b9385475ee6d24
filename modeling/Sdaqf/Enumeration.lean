import Mathlib.Algebra.Group.Action.Defs
import Mathlib.Algebra.Order.BigOperators.GroupWithZero.List
import Mathlib.Algebra.Order.Ring.Nat
import Mathlib.Data.List.Forall2

/-!
# Cartesian products in order

The product of a list of domains enumerates every choice of one value from each domain, with the
last choice varying fastest.
-/

namespace Enumeration

variable {α : Type*}

/-- The choices of one value from each domain. -/
def product : List (List α) → List (List α)
  | [] => [[]]
  | domain :: domains => domain.flatMap fun a => (product domains).map (a :: ·)

/-- The product holds exactly the choices. -/
theorem mem_product {domains : List (List α)} {choice : List α} :
    choice ∈ product domains ↔ List.Forall₂ (· ∈ ·) choice domains := by
  induction domains generalizing choice with
  | nil => simp [product]
  | cons domain domains ih =>
    simp only [product, List.mem_flatMap, List.mem_map]
    constructor
    · rintro ⟨a, ha, rest, hrest, rfl⟩
      exact .cons ha (ih.mp hrest)
    · intro h
      cases h with
      | @cons a _ rest _ ha hrest => exact ⟨a, ha, rest, ih.mpr hrest, rfl⟩

/-- A product has as many choices as its domains allow together. -/
theorem length_product (domains : List (List α)) :
    (product domains).length = (domains.map List.length).prod := by
  induction domains with
  | nil => rfl
  | cons domain domains ih =>
    have hconst : (domain.map fun a => ((product domains).map (a :: ·)).length) =
        List.replicate domain.length (product domains).length := by
      simp [List.map_const']
    rw [product, List.length_flatMap, hconst, List.sum_replicate, smul_eq_mul, ih, List.map_cons,
      List.prod_cons]

/-- The product of nonempty domains is nonempty. -/
theorem length_product_pos {domains : List (List α)} (h : ∀ domain ∈ domains, domain ≠ []) :
    0 < (product domains).length := by
  rw [length_product]
  refine List.prod_pos ?_
  intro n hn
  obtain ⟨domain, hdomain, rfl⟩ := List.mem_map.mp hn
  exact List.length_pos_of_ne_nil (h domain hdomain)

end Enumeration
