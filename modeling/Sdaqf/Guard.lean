import Mathlib.Data.List.Forall2
import Mathlib.Logic.Basic

/-!
# Fail-closed checks

A validator is a program in `Except ε Unit` that runs a list of guards and stops at the first one
that fails. This file names the guard and states what a successful run of such a program says: a
guard that passed holds, a sequence that passed has a passing head and a passing tail, and a loop
that passed has passed at every element.
-/

namespace Guard

variable {ε α β : Type}

/-- One guard of a fail-closed program. -/
def require (c : Prop) [Decidable c] (message : ε) : Except ε Unit :=
  if c then .ok () else .error message

@[simp] theorem require_eq_ok {c : Prop} [Decidable c] {message : ε} {u : Unit} :
    require c message = .ok u ↔ c := by
  unfold require
  split <;> simp_all

/-- A guard that holds lets the program continue. -/
theorem require_pos {c : Prop} [Decidable c] {message : ε} (h : c) :
    require c message = .ok () := by
  simp [h]

@[simp] theorem bind_eq_ok {x : Except ε α} {f : α → Except ε β} {b : β} :
    (x >>= f) = .ok b ↔ ∃ a, x = .ok a ∧ f a = .ok b := by
  cases x with
  | error e => simp [bind, Except.bind]
  | ok a => simp [bind, Except.bind]

@[simp] theorem map_eq_ok {x : Except ε α} {f : α → β} {b : β} :
    (f <$> x) = .ok b ↔ ∃ a, x = .ok a ∧ f a = b := by
  cases x with
  | error e => simp [Functor.map, Except.map]
  | ok a => simp [Functor.map, Except.map]

/-- The one value of a check that returned. -/
@[simp] theorem exists_unit {p : Unit → Prop} : (∃ u, p u) ↔ p () :=
  ⟨fun ⟨_, h⟩ => h, fun h => ⟨(), h⟩⟩

@[simp] theorem pure_eq_ok {a b : α} : (pure a : Except ε α) = .ok b ↔ a = b := by
  simp [pure, Except.pure]

@[simp] theorem throw_ne_ok {e : ε} {a : α} : (throw e : Except ε α) ≠ .ok a := by
  intro h
  cases h

/-- A sequence fails where its head does, or where its tail does after it. -/
theorem bind_eq_error {x : Except ε α} {f : α → Except ε β} {e : ε} :
    (x >>= f) = .error e ↔ x = .error e ∨ ∃ a, x = .ok a ∧ f a = .error e := by
  cases x with
  | error e' => simp [bind, Except.bind]
  | ok a => simp [bind, Except.bind]

/-- A sequence depends on its tail only where the tail runs. -/
theorem bind_congr_of_ok {x : Except ε α} {f g : α → Except ε β} (h : ∀ a, x = .ok a → f a = g a) :
    (x >>= f) = (x >>= g) := by
  cases x with
  | error e => rfl
  | ok a => exact h a rfl

theorem require_eq_error {c : Prop} [Decidable c] {message e : ε} :
    require c message = .error e ↔ ¬c ∧ message = e := by
  unfold require
  split <;> simp_all

/-- The value of a program that returned. -/
def result : (x : Except ε α) → x.isOk = true → α
  | .ok a, _ => a

theorem eq_ok_result {x : Except ε α} (h : x.isOk = true) : x = .ok (result x h) := by
  cases x with
  | error e => cases h
  | ok a => rfl

/-- A value that must be present, with the error raised when it is not. -/
def fromOption (x : Option α) (message : ε) : Except ε α :=
  match x with
  | some a => .ok a
  | none => .error message

@[simp] theorem fromOption_eq_ok {x : Option α} {message : ε} {a : α} :
    fromOption x message = .ok a ↔ x = some a := by
  cases x <;> simp [fromOption]

theorem fromOption_eq_error {x : Option α} {message e : ε} :
    fromOption x message = .error e ↔ x = none ∧ message = e := by
  cases x <;> simp [fromOption]

/-- Run one check on every element of a list, stopping at the first failure. -/
def forEach (f : α → Except ε Unit) : List α → Except ε Unit
  | [] => .ok ()
  | a :: as => do
      f a
      forEach f as

@[simp] theorem forEach_eq_ok {f : α → Except ε Unit} {l : List α} {u : Unit} :
    forEach f l = .ok u ↔ ∀ a ∈ l, f a = .ok () := by
  induction l with
  | nil => simp [forEach]
  | cons a as ih => simp [forEach, ih]

/-- A loop that fails fails at an element. -/
theorem forEach_eq_error {f : α → Except ε Unit} {l : List α} {e : ε} (h : forEach f l = .error e) :
    ∃ a ∈ l, f a = .error e := by
  induction l with
  | nil => cases h
  | cons a as ih =>
    rcases bind_eq_error.mp h with hhead | ⟨-, -, htail⟩
    · exact ⟨a, List.mem_cons_self, hhead⟩
    · obtain ⟨b, hb, herror⟩ := ih htail
      exact ⟨b, List.mem_cons_of_mem a hb, herror⟩

/-- A traversal succeeds with the results of its elements. -/
theorem mapM_eq_ok {f : α → Except ε β} {l : List α} {out : List β} :
    l.mapM f = .ok out ↔ List.Forall₂ (fun a b => f a = .ok b) l out := by
  induction l generalizing out with
  | nil => rw [List.mapM_nil, pure_eq_ok, List.forall₂_nil_left_iff, eq_comm]
  | cons a as ih =>
    simp only [List.mapM_cons, bind_eq_ok, pure_eq_ok, ih]
    constructor
    · rintro ⟨b, hb, bs, hbs, rfl⟩
      exact .cons hb hbs
    · rintro (_ | ⟨hb, hbs⟩)
      exact ⟨_, hb, _, hbs, rfl⟩

/-- A traversal that fails fails at an element. -/
theorem mapM_eq_error {f : α → Except ε β} {l : List α} {e : ε} (h : l.mapM f = .error e) :
    ∃ a ∈ l, f a = .error e := by
  induction l with
  | nil => cases h
  | cons a as ih =>
    rw [List.mapM_cons, bind_eq_error] at h
    rcases h with h | ⟨b, -, h⟩
    · exact ⟨a, List.mem_cons_self, h⟩
    · rcases bind_eq_error.mp h with h | ⟨bs, -, h⟩
      · obtain ⟨a', ha', h⟩ := ih h
        exact ⟨a', List.mem_cons_of_mem a ha', h⟩
      · cases h

/-- A fold that fails fails in a step at an element. -/
theorem foldlM_eq_error {f : β → α → Except ε β} {l : List α} {b : β} {e : ε}
    (h : l.foldlM f b = .error e) : ∃ b', ∃ a ∈ l, f b' a = .error e := by
  induction l generalizing b with
  | nil => cases h
  | cons a as ih =>
    rw [List.foldlM_cons, bind_eq_error] at h
    rcases h with h | ⟨b', -, h⟩
    · exact ⟨b, a, List.mem_cons_self, h⟩
    · obtain ⟨b'', a', ha', h⟩ := ih h
      exact ⟨b'', a', List.mem_cons_of_mem a ha', h⟩

/-- What every step of a fold preserves, the fold preserves. -/
theorem foldlM_invariant {f : β → α → Except ε β} (inv : β → Prop) {l : List α}
    (step : ∀ b a b', a ∈ l → inv b → f b a = .ok b' → inv b') {b b' : β}
    (hb : inv b) (h : l.foldlM f b = .ok b') : inv b' := by
  induction l generalizing b with
  | nil =>
    rw [List.foldlM_nil, pure_eq_ok] at h
    exact h ▸ hb
  | cons a as ih =>
    simp only [List.foldlM_cons, bind_eq_ok] at h
    obtain ⟨c, hc, h⟩ := h
    exact ih (fun b a b' ha => step b a b' (List.mem_cons_of_mem _ ha))
      (step b a c List.mem_cons_self hb hc) h

/-- A left fold that may fail. -/
def foldE (f : β → α → Except ε β) : β → List α → Except ε β
  | b, [] => .ok b
  | b, a :: as => do
      let b' ← f b a
      foldE f b' as

@[simp] theorem foldE_nil {f : β → α → Except ε β} {b : β} : foldE f b [] = .ok b := rfl

@[simp] theorem foldE_cons {f : β → α → Except ε β} {b : β} {a : α} {as : List α} :
    foldE f b (a :: as) = (f b a >>= fun b' => foldE f b' as) := rfl

theorem foldE_append {f : β → α → Except ε β} {b : β} {l₁ l₂ : List α} :
    foldE f b (l₁ ++ l₂) = (foldE f b l₁ >>= fun b' => foldE f b' l₂) := by
  induction l₁ generalizing b with
  | nil => rfl
  | cons a as ih =>
    simp only [List.cons_append, foldE_cons]
    cases f b a with
    | error e => rfl
    | ok b' => exact ih

/-- What every step of a fold preserves, the fold preserves. -/
theorem foldE_invariant {f : β → α → Except ε β} (inv : β → Prop) {l : List α}
    (step : ∀ b a b', a ∈ l → inv b → f b a = .ok b' → inv b') {b b' : β}
    (hb : inv b) (h : foldE f b l = .ok b') : inv b' := by
  induction l generalizing b with
  | nil =>
    simp only [foldE_nil, Except.ok.injEq] at h
    exact h ▸ hb
  | cons a as ih =>
    simp only [foldE_cons, bind_eq_ok] at h
    obtain ⟨c, hc, h⟩ := h
    exact ih (fun b a b' ha => step b a b' (List.mem_cons_of_mem _ ha))
      (step b a c List.mem_cons_self hb hc) h

end Guard
