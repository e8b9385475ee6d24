import Mathlib.Data.List.Basic
import Mathlib.Data.Nat.Find

/-!
# Walks and breadth-first searches

The distance of an element from some starts is the length of a shortest walk. A breadth-first search
keeps what it found, each element with a distance, and a queue of found elements whose steps it has
not followed yet. As long as it takes the first element of the queue and adds what a step leads to
at the end, a walk to an element that was not found passes the queue, and when the queue is empty
the search has found every distance.
-/

namespace Walks

variable {α : Type*}

/-- A walk of so many steps from a start. -/
inductive Walk (step : α → α → Prop) (starts : α → Prop) : Nat → α → Prop
  | start {a} (h : starts a) : Walk step starts 0 a
  | step {n a b} (h : Walk step starts n a) (hstep : step a b) : Walk step starts (n + 1) b

/-- The length of a shortest walk. -/
def IsDistance (step : α → α → Prop) (starts : α → Prop) (n : Nat) (a : α) : Prop :=
  Walk step starts n a ∧ ∀ m, Walk step starts m a → n ≤ m

variable {step : α → α → Prop} {starts : α → Prop} {found found' : α → Option Nat}
  {queue : List α} {a b current : α} {n m distance : Nat}

theorem IsDistance.unique (h : IsDistance step starts n a) (h' : IsDistance step starts m a) :
    n = m :=
  Nat.le_antisymm (h.2 m h'.1) (h'.2 n h.1)

theorem Walk.exists_distance (h : Walk step starts n a) :
    ∃ m ≤ n, IsDistance step starts m a := by
  classical
  have hsome : ∃ m, Walk step starts m a := ⟨n, h⟩
  refine ⟨Nat.find hsome, Nat.find_min' hsome h, Nat.find_spec hsome, fun m hm => ?_⟩
  exact Nat.find_min' hsome hm

/-! ## What a search has explored -/

/-- What was found, apart from one element whose steps are being followed at some distance. -/
structure Exploring (step : α → α → Prop) (starts : α → Prop) (found : α → Option Nat)
    (queue : List α) (current : Option α) (distance : Nat) : Prop where
  zero : ∀ a, starts a → found a = some 0
  sound : ∀ a n, found a = some n → Walk step starts n a
  followed : ∀ a n b, found a = some n → a ∉ queue → current ≠ some a → step a b →
    ∃ m ≤ n + 1, found b = some m
  ordered : queue.Pairwise fun a b => ∀ n m, found a = some n → found b = some m → n ≤ m
  queued : ∀ a ∈ queue, ∃ n, found a = some n ∧ distance ≤ n
  near : ∀ a n, found a = some n → n ≤ distance + 1

/-- A walk leads to a found element, or passes the queue before. -/
theorem Exploring.walk (h : Exploring step starts found queue none distance)
    (hwalk : Walk step starts n b) :
    (∃ m ≤ n, found b = some m) ∨ ∃ a ∈ queue, ∃ m < n, found a = some m := by
  induction hwalk with
  | @start b hb => exact .inl ⟨0, le_refl _, h.zero b hb⟩
  | @step n a b _ hstep ih =>
    rcases ih with ⟨m, hm, ha⟩ | ⟨c, hc, m, hm, hfound⟩
    · by_cases hqueue : a ∈ queue
      · exact .inr ⟨a, hqueue, m, by omega, ha⟩
      · obtain ⟨k, hk, hb⟩ := h.followed a m b ha hqueue (by simp) hstep
        exact .inl ⟨k, by omega, hb⟩
    · exact .inr ⟨c, hc, m, by omega, hfound⟩

/-- What a search found when nothing is left to follow. -/
theorem Exploring.found_iff (h : Exploring step starts found [] none distance) :
    found a = some n ↔ IsDistance step starts n a := by
  have hshort (m : Nat) (hwalk : Walk step starts m a) : ∃ k ≤ m, found a = some k := by
    rcases h.walk hwalk with hfound | ⟨_, hc, -⟩
    · exact hfound
    · cases hc
  constructor
  · intro ha
    refine ⟨h.sound a n ha, fun m hm => ?_⟩
    obtain ⟨k, hk, hfound⟩ := hshort m hm
    rw [ha, Option.some.injEq] at hfound
    omega
  · intro hdistance
    obtain ⟨k, hk, hfound⟩ := hshort n hdistance.1
    have := hdistance.2 k (h.sound a k hfound)
    rw [hfound, Nat.le_antisymm hk this]

/-- What was not found before the first element of the queue is farther away than it. -/
theorem Exploring.lt_of_not_found (h : Exploring step starts found (current :: queue) none distance)
    (hcurrent : found current = some m) (hb : found b = none) (hwalk : Walk step starts n b) :
    m < n := by
  rcases h.walk hwalk with ⟨k, -, hfound⟩ | ⟨a, ha, k, hk, hfound⟩
  · rw [hb] at hfound
    cases hfound
  · rcases List.mem_cons.mp ha with rfl | ha
    · rw [hcurrent, Option.some.injEq] at hfound
      omega
    · have := (List.pairwise_cons.mp h.ordered).1 a ha m k hcurrent hfound
      omega

/-- The first element of the queue is taken. -/
theorem Exploring.take (h : Exploring step starts found (current :: queue) none distance)
    (hcurrent : found current = some m) : Exploring step starts found queue (some current) m where
  zero := h.zero
  sound := h.sound
  followed a n b ha hqueue hne hstep := by
    refine h.followed a n b ha ?_ (by simp) hstep
    rw [List.mem_cons, not_or]
    exact ⟨fun heq => hne (congrArg some heq.symm), hqueue⟩
  ordered := (List.pairwise_cons.mp h.ordered).2
  queued a ha := by
    obtain ⟨n, hn, -⟩ := h.queued a (List.mem_cons_of_mem _ ha)
    exact ⟨n, hn, (List.pairwise_cons.mp h.ordered).1 a ha m n hcurrent hn⟩
  near a n ha := by
    obtain ⟨k, hk, hle⟩ := h.queued current List.mem_cons_self
    rw [hcurrent, Option.some.injEq] at hk
    have := h.near a n ha
    omega

/-- A step from the taken element leads to a new one. -/
theorem Exploring.add (h : Exploring step starts found queue (some current) distance)
    (hcurrent : found current = some distance) (hstep : step current b) (hb : found b = none)
    (hsame : ∀ a, a ≠ b → found' a = found a) (hnew : found' b = some (distance + 1)) :
    Exploring step starts found' (queue ++ [b]) (some current) distance := by
  have hkeep (a : α) (n : Nat) (ha : found a = some n) : found' a = some n := by
    rw [hsame a, ha]
    rintro rfl
    rw [hb] at ha
    cases ha
  have hcases (a : α) (n : Nat) (ha : found' a = some n) :
      found a = some n ∨ a = b ∧ n = distance + 1 := by
    by_cases hab : a = b
    · subst hab
      rw [hnew, Option.some.injEq] at ha
      exact .inr ⟨rfl, ha.symm⟩
    · rw [hsame a hab] at ha
      exact .inl ha
  refine ⟨fun a ha => hkeep a 0 (h.zero a ha), ?_, ?_, ?_, ?_, ?_⟩
  · intro a n ha
    rcases hcases a n ha with hold | ⟨rfl, rfl⟩
    · exact h.sound a n hold
    · exact (h.sound current distance hcurrent).step hstep
  · intro a n c ha hqueue hne hac
    rw [List.mem_append, List.mem_singleton, not_or] at hqueue
    rcases hcases a n ha with hold | ⟨rfl, -⟩
    · obtain ⟨m, hm, hc⟩ := h.followed a n c hold hqueue.1 hne hac
      exact ⟨m, hm, hkeep c m hc⟩
    · exact absurd rfl hqueue.2
  · rw [List.pairwise_append]
    refine ⟨h.ordered.imp_of_mem ?_, List.pairwise_singleton _ _, ?_⟩
    · intro a c ha hc hac n m hn hm
      obtain ⟨n', hn', -⟩ := h.queued a ha
      obtain ⟨m', hm', -⟩ := h.queued c hc
      rw [hkeep a n' hn', Option.some.injEq] at hn
      rw [hkeep c m' hm', Option.some.injEq] at hm
      have := hac n' m' hn' hm'
      omega
    · intro a ha c hc n m hn hm
      rw [List.mem_singleton.mp hc, hnew, Option.some.injEq] at hm
      obtain ⟨n', hn', -⟩ := h.queued a ha
      rw [hkeep a n' hn', Option.some.injEq] at hn
      have := h.near a n' hn'
      omega
  · intro a ha
    rcases List.mem_append.mp ha with ha | ha
    · obtain ⟨n, hn, hle⟩ := h.queued a ha
      exact ⟨n, hkeep a n hn, hle⟩
    · rw [List.mem_singleton.mp ha]
      exact ⟨distance + 1, hnew, Nat.le_succ _⟩
  · intro a n ha
    rcases hcases a n ha with hold | ⟨-, rfl⟩
    · exact h.near a n hold
    · exact le_refl _

/-- All steps of the taken element have been followed. -/
theorem Exploring.finish (h : Exploring step starts found queue (some current) distance)
    (hcurrent : found current = some distance)
    (hall : ∀ b, step current b → ∃ m, found b = some m) :
    Exploring step starts found queue none distance where
  zero := h.zero
  sound := h.sound
  followed a n b ha hqueue _ hstep := by
    by_cases heq : current = a
    · subst heq
      obtain ⟨m, hm⟩ := hall b hstep
      rw [hcurrent, Option.some.injEq] at ha
      have := h.near b m hm
      exact ⟨m, by omega, hm⟩
    · exact h.followed a n b ha hqueue (fun hsome => heq (Option.some.inj hsome)) hstep
  ordered := h.ordered
  queued := h.queued
  near := h.near

end Walks
