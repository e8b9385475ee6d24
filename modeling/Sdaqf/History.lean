import Mathlib.Data.List.Basic
import Mathlib.Data.List.Induction

/-!
# Append-only histories

A history is a list that only grows at its end. Two things are said about it. A *reading* looks up
the last element with some property, and `lastWhere` says how such a reading changes when the
history grows. A *judgement* accepts each element relative to the elements before it, and
`Accepted` says that every element of a history was accepted in this way. An invariant of accepted
histories is proved by the single induction `Accepted.invariant`.
-/

namespace History

variable {α β : Type}

/-! ## The last element with a property -/

/-- The last element of a history that satisfies `p`. -/
def lastWhere (p : α → Bool) (log : List α) : Option α :=
  log.reverse.find? p

@[simp] theorem lastWhere_nil {p : α → Bool} : lastWhere p [] = none := rfl

@[simp] theorem lastWhere_append {p : α → Bool} {l₁ l₂ : List α} :
    lastWhere p (l₁ ++ l₂) = (lastWhere p l₂).or (lastWhere p l₁) := by
  simp [lastWhere, List.find?_append]

theorem lastWhere_singleton {p : α → Bool} {a : α} :
    lastWhere p [a] = if p a then some a else none := by
  simp [lastWhere, List.find?_singleton]

theorem lastWhere_cons {p : α → Bool} {a : α} {l : List α} :
    lastWhere p (a :: l) = (lastWhere p l).or (if p a then some a else none) := by
  rw [← List.singleton_append, lastWhere_append, lastWhere_singleton]

/-- What a reading returns is in the history and has the property. -/
theorem of_lastWhere_eq_some {p : α → Bool} {log : List α} {a : α}
    (h : lastWhere p log = some a) : a ∈ log ∧ p a = true :=
  ⟨List.mem_reverse.mp (List.mem_of_find?_eq_some h), List.find?_some h⟩

theorem lastWhere_eq_none {p : α → Bool} {log : List α} :
    lastWhere p log = none ↔ ∀ a ∈ log, p a = false := by
  simp [lastWhere, List.find?_eq_none]

/-- Elements without the property do not change the reading. -/
theorem lastWhere_append_of_forall {p : α → Bool} {l₁ l₂ : List α}
    (h : ∀ a ∈ l₂, p a = false) : lastWhere p (l₁ ++ l₂) = lastWhere p l₁ := by
  rw [lastWhere_append, lastWhere_eq_none.mpr h, Option.none_or]

theorem lastWhere_congr {p q : α → Bool} {log : List α}
    (h : ∀ a ∈ log, p a = q a) : lastWhere p log = lastWhere q log := by
  induction log with
  | nil => rfl
  | cons a l ih =>
    rw [lastWhere_cons, lastWhere_cons, ih fun b hb => h b (List.mem_cons_of_mem _ hb),
      h a List.mem_cons_self]

/-- Where keys are unique, looking a key up returns the one element that has it. -/
theorem find?_key [DecidableEq β] {f : α → β} {l : List α} {a : α} (hl : (l.map f).Nodup)
    (ha : a ∈ l) : l.find? (fun b => decide (f b = f a)) = some a := by
  induction l with
  | nil => cases ha
  | cons b l ih =>
    rw [List.map_cons, List.nodup_cons] at hl
    rcases List.mem_cons.mp ha with rfl | ha
    · simp
    · have hne : f b ≠ f a := fun heq => hl.1 (heq ▸ List.mem_map_of_mem ha)
      simp [hne, ih hl.2 ha]

/-! ## Acceptance relative to the prefix -/

/-- Every element satisfies `ok` relative to the elements before it. -/
def Accepted (ok : List α → α → Prop) (log : List α) : Prop :=
  ∀ pre a post, log = pre ++ a :: post → ok pre a

variable {ok : List α → α → Prop} {log : List α}

@[simp] theorem accepted_nil : Accepted ok [] := by
  intro pre a post h
  simp at h

theorem accepted_concat {a : α} :
    Accepted ok (log ++ [a]) ↔ Accepted ok log ∧ ok log a := by
  constructor
  · intro h
    refine ⟨fun pre b post hl => h pre b (post ++ [a]) ?_, h log a [] rfl⟩
    rw [hl, List.append_assoc, List.cons_append]
  · rintro ⟨hlog, ha⟩ pre b post hl
    induction post using List.reverseRecOn with
    | nil =>
      obtain ⟨rfl, hb⟩ := List.append_inj' hl rfl
      simp only [List.cons.injEq, and_true] at hb
      exact hb ▸ ha
    | append_singleton post c _ =>
      rw [← List.cons_append, ← List.append_assoc] at hl
      exact hlog pre b post (List.append_inj' hl rfl).1

/-- A prefix of an accepted history is accepted. -/
theorem Accepted.of_append {l₁ l₂ : List α} (h : Accepted ok (l₁ ++ l₂)) : Accepted ok l₁ := by
  intro pre a post hl
  exact h pre a (post ++ l₂) (by rw [hl, List.append_assoc, List.cons_append])

theorem Accepted.of_append_cons {pre post : List α} {a : α}
    (h : Accepted ok (pre ++ a :: post)) : ok pre a :=
  h pre a post rfl

/-- An invariant of the empty history that every accepted element preserves holds of every
accepted history. -/
theorem Accepted.invariant (inv : List α → Prop) (nil : inv [])
    (step : ∀ pre a, Accepted ok pre → inv pre → ok pre a → inv (pre ++ [a]))
    (h : Accepted ok log) : inv log := by
  induction log using List.reverseRecOn with
  | nil => exact nil
  | append_singleton pre a ih =>
    obtain ⟨hpre, ha⟩ := accepted_concat.mp h
    exact step pre a hpre (ih hpre) ha

theorem Accepted.mono {ok' : List α → α → Prop}
    (himp : ∀ pre a post, log = pre ++ a :: post → ok pre a → ok' pre a)
    (h : Accepted ok log) : Accepted ok' log :=
  fun pre a post hl => himp pre a post hl (h pre a post hl)

/-! ## The executable judgement -/

variable {ε : Type}

/-- Run the check of every element against its prefix, in order. -/
def checkFrom (f : List α → α → Except ε Unit) (pre : List α) : List α → Except ε Unit
  | [] => .ok ()
  | a :: rest => do
      f pre a
      checkFrom f (pre ++ [a]) rest

theorem checkFrom_eq_ok {f : List α → α → Except ε Unit} {pre rest : List α} :
    checkFrom f pre rest = .ok () ↔
      ∀ mid a post, rest = mid ++ a :: post → f (pre ++ mid) a = .ok () := by
  induction rest generalizing pre with
  | nil => simp [checkFrom]
  | cons b rest ih =>
    have hstep : checkFrom f pre (b :: rest) = .ok () ↔
        f pre b = .ok () ∧ checkFrom f (pre ++ [b]) rest = .ok () := by
      cases hb : f pre b <;> simp [checkFrom, hb, bind, Except.bind]
    rw [hstep, ih]
    constructor
    · rintro ⟨hb, hrest⟩ mid a post h
      cases mid with
      | nil =>
        simp only [List.nil_append, List.cons.injEq] at h
        rw [List.append_nil, ← h.1]
        exact hb
      | cons c mid =>
        simp only [List.cons_append, List.cons.injEq] at h
        have := hrest mid a post h.2
        rwa [List.append_assoc, List.singleton_append, h.1] at this
    · intro h
      refine ⟨by simpa using h [] b rest rfl, fun mid a post hr => ?_⟩
      have := h (b :: mid) a post (by rw [hr, List.cons_append])
      rwa [List.append_assoc, List.singleton_append]

/-- The judgement passes exactly when every element is accepted relative to its prefix. -/
theorem check_eq_ok {f : List α → α → Except ε Unit} :
    checkFrom f [] log = .ok () ↔ Accepted (fun pre a => f pre a = .ok ()) log := by
  rw [checkFrom_eq_ok]
  rfl

end History
