import Mathlib.Data.List.Nodup
import Mathlib.Data.String.Basic
import Mathlib.Tactic.Linarith

/-!
# Folds whose steps commute

A fold over a list does not depend on the order of the list when its steps commute. A fold that may
fail succeeds in one order exactly when it does in the other, with the same result, when two steps
that both succeed may be exchanged. Updates of a map at different keys commute.
-/

namespace Commuting

variable {ε σ α κ β : Type*}

/-- Exchangeable steps give one result in every order in which the fold succeeds. -/
theorem foldlM_perm {f : σ → α → Except ε σ} {l l' : List α} (h : l.Perm l') {apart : α → α → Prop}
    (hsymm : ∀ {a b}, apart a b → apart b a) (hl : l.Pairwise apart)
    (hcomm : ∀ s a b r, apart a b → (f s a >>= fun t => f t b) = .ok r →
      (f s b >>= fun t => f t a) = .ok r)
    {s r : σ} (hr : l.foldlM f s = .ok r) : l'.foldlM f s = .ok r := by
  induction h generalizing s with
  | nil => exact hr
  | @cons a l l' _ ih =>
    rw [List.foldlM_cons] at hr ⊢
    cases hstep : f s a with
    | error e =>
      rw [hstep] at hr
      cases hr
    | ok t =>
      rw [hstep] at hr
      exact ih (List.pairwise_cons.mp hl).2 hr
  | swap a b l =>
    rw [List.foldlM_cons] at hr ⊢
    have happart : apart b a := (List.pairwise_cons.mp hl).1 a List.mem_cons_self
    cases hpair : f s b >>= fun t => f t a with
    | error e =>
      simp only [List.foldlM_cons, ← bind_assoc, hpair] at hr
      cases hr
    | ok t =>
      simp only [List.foldlM_cons, ← bind_assoc, hpair, hcomm s b a t happart hpair] at hr ⊢
      exact hr
  | trans h₁ _ ih₁ ih₂ =>
    exact ih₂ ((h₁.pairwise_iff hsymm).mp hl) (ih₁ hl hr)

/-- A fold whose steps commute at different keys does not depend on the order of a list without a
repeated key. -/
theorem foldl_perm {f : σ → α → σ} {key : α → κ} {l l' : List α} (h : l.Perm l')
    (hl : (l.map key).Nodup) (hcomm : ∀ s a b, key a ≠ key b → f (f s a) b = f (f s b) a) (s : σ) :
    l.foldl f s = l'.foldl f s := by
  refine h.foldl_eq' (fun a ha b hb s => ?_) s
  by_cases hkey : key a = key b
  · rw [List.inj_on_of_nodup_map hl ha hb hkey]
  · exact hcomm s a b hkey

/-! ## Updates of a map -/

section Maps

variable {cmp : κ → κ → Ordering} [Std.TransCmp cmp] [Std.LawfulEqCmp cmp]
  {m : Std.ExtTreeMap κ β cmp} {k k' : κ}

/-- Updates at different keys commute. -/
theorem alter_comm (h : k ≠ k') {f g : Option β → Option β} :
    (m.alter k f).alter k' g = (m.alter k' g).alter k f := by
  refine Std.ExtTreeMap.ext_getElem? fun a => ?_
  simp only [Std.ExtTreeMap.getElem?_alter, Std.LawfulEqCmp.compare_eq_iff_eq]
  by_cases hk : k = a
  · have hk' : k' ≠ a := fun h' => h (hk.trans h'.symm)
    subst hk
    simp [h.symm]
  · by_cases hk' : k' = a
    · subst hk'
      simp [h]
    · simp [hk, hk']

/-- Insertions at different keys commute. -/
theorem insert_comm (h : k ≠ k') {v w : β} :
    (m.insert k v).insert k' w = (m.insert k' w).insert k v := by
  refine Std.ExtTreeMap.ext_getElem? fun a => ?_
  simp only [Std.ExtTreeMap.getElem?_insert, Std.LawfulEqCmp.compare_eq_iff_eq]
  split
  · rename_i hk'
    have hk : cmp k a ≠ .eq := fun hk => h
      ((Std.LawfulEqCmp.eq_of_compare hk).trans (Std.LawfulEqCmp.eq_of_compare hk').symm)
    rw [if_neg hk]
  · rfl

end Maps

end Commuting
