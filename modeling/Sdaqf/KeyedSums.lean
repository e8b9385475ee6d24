import Mathlib.Algebra.BigOperators.Group.List.Basic
import Mathlib.Algebra.Order.Group.Int
import Mathlib.Tactic.Abel

/-!
# Sums over keyed lists

A book is a list of items with pairwise different keys and an amount for each item. A posting
changes the amount of one key, so it changes the total by the difference at that key.
-/

namespace KeyedSums

variable {α β : Type} {key : α → β} {f g : α → Int} {l : List α} {a : α}

/-- The total of the amounts of a list. -/
def total (f : α → Int) (l : List α) : Int := (l.map f).sum

@[simp] theorem total_nil : total f [] = 0 := rfl

@[simp] theorem total_cons : total f (a :: l) = f a + total f l := by
  simp [total]

@[simp] theorem total_append {l₁ l₂ : List α} : total f (l₁ ++ l₂) = total f l₁ + total f l₂ := by
  simp [total]

theorem total_map {γ : Type} {k : γ → α} {l : List γ} :
    total f (l.map k) = total (fun c => f (k c)) l := by
  simp [total, Function.comp_def]

theorem total_congr (h : ∀ a ∈ l, g a = f a) : total g l = total f l := by
  rw [total, total, List.map_congr_left h]

/-- A posting at one key changes the total by the difference there. -/
theorem total_posting (hl : (l.map key).Nodup) (ha : a ∈ l)
    (h : ∀ b ∈ l, key b ≠ key a → g b = f b) : total g l = total f l - f a + g a := by
  induction l with
  | nil => cases ha
  | cons b l ih =>
    rw [List.map_cons, List.nodup_cons] at hl
    rw [total_cons, total_cons]
    rcases List.mem_cons.mp ha with rfl | ha
    · have hrest : total g l = total f l := by
        refine total_congr fun c hc => h c (List.mem_cons_of_mem _ hc) fun heq => hl.1 ?_
        exact heq ▸ List.mem_map_of_mem hc
      rw [hrest]
      abel
    · have hb : g b = f b :=
        h b List.mem_cons_self fun heq => hl.1 (heq ▸ List.mem_map_of_mem ha)
      rw [hb, ih hl.2 ha fun c hc => h c (List.mem_cons_of_mem _ hc)]
      abel

/-- A total of zeros and ones counts. -/
theorem total_indicator (p : α → Bool) :
    total (fun a => if p a then 1 else 0) l = (l.countP p : Int) := by
  induction l with
  | nil => rfl
  | cons a l ih => cases hp : p a <;> simp [hp, ih, Int.add_comm]

end KeyedSums
