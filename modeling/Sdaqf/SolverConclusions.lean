import Mathlib.Algebra.Order.BigOperators.Group.List
import Mathlib.Algebra.Order.Group.Unbundled.Abs
import Mathlib.Algebra.Order.Ring.Abs
import Mathlib.Tactic.Linarith
import Sdaqf.SolverSoundness

/-!
# What a search concludes

The solver, the contract of its result and the verifier state the same accounting three times. This
file states it once, as what an enumeration that ended after some assignments concludes, and shows
that all three agree with it: the solver reports it, the contract accepts it, and a replay to the
same end expects it.
-/

namespace Sdaqf

open Guard SolverRequest

variable {request : SolverRequest} {problem : SolverProblem} {n : Nat}

/-! ## Ranges -/

/-- The largest product of two scalars. -/
def maxProduct : Nat := maxScalar * maxScalar

theorem mul_scalars {a b : Int} (ha : InScalars a) (hb : InScalars b) :
    -(maxProduct : Int) ≤ a * b ∧ a * b ≤ maxProduct := by
  have habs : |a * b| ≤ (maxScalar : Int) * maxScalar := by
    rw [abs_mul]
    exact mul_le_mul (abs_le.mpr ha) (abs_le.mpr hb) (abs_nonneg b) (by simp)
  rw [maxProduct, Nat.cast_mul]
  exact abs_le.mp habs

/-- The bounds of the terms of an objective exist, and each term moves them by one product. -/
theorem boundTerm_eq_ok (hlaw : ProblemLaw problem) {terms : List LinearTerm}
    (hknown : ∀ term ∈ terms, term.variableId ∈ problem.variableIds)
    (hscalars : ∀ term ∈ terms, InScalars term.coefficient) {bounds : ObjectiveInterval} :
    ∃ bounds', foldE (boundTerm problem) bounds terms = .ok bounds' ∧
      bounds.lower - terms.length * maxProduct ≤ bounds'.lower ∧
      bounds'.upper ≤ bounds.upper + terms.length * maxProduct := by
  induction terms generalizing bounds with
  | nil => exact ⟨bounds, rfl, by simp, by simp⟩
  | cons term terms ih =>
    obtain ⟨v, hv, hid⟩ := List.mem_map.mp (hknown term List.mem_cons_self)
    have hdomain := domain?_of_mem hlaw.wellFormed hv
    rw [hid] at hdomain
    have hne : v.domain.values.map (term.coefficient * ·) ≠ [] := by
      simpa using (hlaw.domains v hv).nonempty
    have hproduct : ∀ p ∈ v.domain.values.map (term.coefficient * ·),
        -(maxProduct : Int) ≤ p ∧ p ≤ maxProduct := by
      intro p hp
      obtain ⟨value, hvalue, rfl⟩ := List.mem_map.mp hp
      exact mul_scalars (hscalars term List.mem_cons_self)
        ((hlaw.domains v hv).scalars value hvalue)
    obtain ⟨least, hleast⟩ := Option.isSome_iff_exists.mp (List.isSome_min?_iff.mpr hne)
    obtain ⟨greatest, hgreatest⟩ := Option.isSome_iff_exists.mp (List.isSome_max?_iff.mpr hne)
    have hlow := (hproduct least (List.min?_mem hleast)).1
    have hhigh := (hproduct greatest (List.max?_mem hgreatest)).2
    obtain ⟨bounds', hrest, hlower, hupper⟩ :=
      @ih (fun t ht => hknown t (List.mem_cons_of_mem _ ht))
        (fun t ht => hscalars t (List.mem_cons_of_mem _ ht))
        ⟨bounds.lower + least, bounds.upper + greatest⟩
    refine ⟨bounds', ?_, ?_, ?_⟩
    · simp only [foldE_cons, boundTerm, bind_eq_ok, fromOption_eq_ok, pure_eq_ok]
      exact ⟨_, ⟨_, hdomain, least, hleast, greatest, hgreatest, rfl⟩, hrest⟩
    · rw [List.length_cons, Nat.cast_add, Nat.cast_one]
      linarith
    · rw [List.length_cons, Nat.cast_add, Nat.cast_one]
      linarith

/-- A value that a result may state. -/
def InObjectives (value : Int) : Prop := -(maxObjective : Int) ≤ value ∧ value ≤ maxObjective

theorem objectiveBound_eq_ok {field : String} {value : Int} :
    objectiveBound field value = .ok () ↔ InObjectives value := integerValue_eq_ok

/-- The bounds of an objective exist and are within the limits of a result. -/
theorem objectiveDomainBounds_eq_ok (hlaw : ProblemLaw problem) {objective : SolverObjective}
    (hobjective : problem.objective = some objective) :
    ∃ bounds, objectiveDomainBounds problem objective = .ok bounds ∧
      -(maxObjective : Int) ≤ bounds.lower ∧ bounds.upper ≤ maxObjective := by
  obtain ⟨hterms, hconstant⟩ := hlaw.objective objective hobjective
  obtain ⟨bounds, hbounds, hlower, hupper⟩ :=
    @boundTerm_eq_ok problem hlaw objective.terms hterms.known hterms.scalars
      ⟨objective.constant, objective.constant⟩
  have hlength : (objective.terms.length : Int) ≤ 16 := by exact_mod_cast hterms.length
  unfold InScalars maxScalar at hconstant
  unfold maxProduct maxScalar at hlower hupper
  unfold maxObjective
  refine ⟨bounds, hbounds, ?_, ?_⟩
  · simp only at hlower
    push_cast at hlower hconstant ⊢
    linarith
  · simp only at hupper
    push_cast at hupper hconstant ⊢
    linarith

/-- The value of a feasible assignment lies within the bounds of its objective. -/
theorem value_bounds (hlaw : ProblemLaw problem) {objective : SolverObjective}
    (hobjective : problem.objective = some objective) {σ : Valuation} (hσ : problem.Feasible σ) :
    ∃ bounds, objectiveDomainBounds problem objective = .ok bounds ∧
      -(maxObjective : Int) ≤ bounds.lower ∧ bounds.lower ≤ objective.value σ ∧
      objective.value σ ≤ bounds.upper ∧ bounds.upper ≤ maxObjective := by
  obtain ⟨bounds, hbounds, hlower, hupper⟩ := objectiveDomainBounds_eq_ok hlaw hobjective
  have hvalue := objectiveDomainBounds_bounds hlaw.wellFormed hσ.domains hobjective hbounds
  exact ⟨bounds, hbounds, hlower, hvalue.1, hvalue.2, hupper⟩

/-- The checks of a number of assignments are bounded by those of every constraint on each. -/
theorem seenAt_checks_le (hwf : request.problem.WellFormed) :
    (request.seenAt n).checks ≤ n * request.problem.constraints.length := by
  have hbound : ∀ c ∈ (request.problem.assignments.take n).map request.problem.checkCount,
      c ≤ request.problem.constraints.length := by
    intro c hc
    obtain ⟨a, ha, rfl⟩ := List.mem_map.mp hc
    exact (hwf.evaluateConstraints_eq_ok (List.mem_of_mem_take ha)).2
  have hsum := List.sum_le_card_nsmul _ _ hbound
  rw [List.length_map, smul_eq_mul] at hsum
  exact hsum.trans (Nat.mul_le_mul_right _ (List.length_take_le _ _))

/-- More assignments take more checks. -/
theorem seenAt_checks_mono {m : Nat} (h : m ≤ n) :
    (request.seenAt m).checks ≤ (request.seenAt n).checks := by
  have hmono := List.monotone_sum_take (request.problem.assignments.map request.problem.checkCount)
  have hle := hmono h
  simpa only [SolverRequest.seenAt, SolverRequest.seen, List.map_take] using hle

/-! ## What a search concludes -/

/-- What a search that ended after a number of assignments concludes: the status it claims, the
proof and the diagnostic behind it, and the interval of its objective. -/
inductive Concludes (request : SolverRequest) (n : Nat) : SolverTerminationReason → Expected → Prop
  | satisfiable (hit : request.Hit n) (decision : request.problem.objective = none) :
      Concludes request n .witnessFound ⟨.satisfiable, .witness, none, none⟩
  | feasible {objective : SolverObjective} (hit : request.Hit n)
      (optimization : request.problem.objective = some objective) :
      Concludes request n .witnessFound ⟨.feasible, .witness, none, none⟩
  | unsatisfiable (whole : n = searchSpaceSize request.problem) (clear : request.ClearAt n)
      (decision : request.problem.objective = none) :
      Concludes request n .searchExhausted ⟨.unsatisfiable, .exhaustiveEnumeration, none, none⟩
  | infeasible {objective : SolverObjective} (whole : n = searchSpaceSize request.problem)
      (clear : request.ClearAt n) (optimization : request.problem.objective = some objective)
      (best : (request.seenAt n).bestAssignment = none) :
      Concludes request n .searchExhausted ⟨.infeasible, .exhaustiveEnumeration, none, none⟩
  | optimal {objective : SolverObjective} {value : Int}
      (whole : n = searchSpaceSize request.problem) (clear : request.ClearAt n)
      (optimization : request.problem.objective = some objective)
      (best : (request.seenAt n).bestObjective = some value) :
      Concludes request n .searchExhausted
        ⟨.optimal, .exhaustiveEnumeration, none, some ⟨value, value⟩⟩
  | bounded {objective : SolverObjective} {value : Int} {bounds : ObjectiveInterval}
      (part : n < searchSpaceSize request.problem) (clear : request.ClearAt n)
      (limit : n = request.resourcePolicy.maxSolveSteps)
      (optimization : request.problem.objective = some objective)
      (best : (request.seenAt n).bestObjective = some value)
      (bounds_eq : objectiveDomainBounds request.problem objective = .ok bounds) :
      Concludes request n .stepLimit
        ⟨.bounded, .objectiveBound, none, some (boundedInterval objective.direction bounds value)⟩
  | unknown (part : n < searchSpaceSize request.problem) (clear : request.ClearAt n)
      (limit : n = request.resourcePolicy.maxSolveSteps)
      (nothing : request.problem.objective = none ∨ (request.seenAt n).bestAssignment = none) :
      Concludes request n .stepLimit ⟨.unknown, .none, some "step-limit", none⟩
  | requestTimeout (part : n < searchSpaceSize request.problem) (clear : request.ClearAt n) :
      Concludes request n .requestTimeout ⟨.timeout, .none, some "request-timeout", none⟩
  | leaseDeadline (part : n < searchSpaceSize request.problem) (clear : request.ClearAt n) :
      Concludes request n .leaseDeadline ⟨.timeout, .none, some "lease-deadline", none⟩

variable {clock : SolverClock} {requestDeadline : Option Int} {last : SearchEnd}
variable {reason : SolverTerminationReason} {expected : Expected}
variable {resources : SolverResourceEvidence}

/-- The resources that a search of a number of assignments reports. -/
structure Accounts (request : SolverRequest) (n : Nat) (ending : SolverTerminationReason)
    (resources : SolverResourceEvidence) : Prop where
  reason : resources.terminationReason = ending
  calls : resources.solverCalls = 1
  steps : resources.solverSteps = n
  space : resources.searchSpaceSize = searchSpaceSize request.problem
  visited : resources.visitedAssignments = n
  unvisited : resources.unvisitedAssignments = searchSpaceSize request.problem - n
  checks : resources.constraintChecks = (request.seenAt n).checks
  limit : resources.stepLimit = request.resourcePolicy.maxSolveSteps
  timeout : resources.timeoutMilliseconds = request.resourcePolicy.timeoutMilliseconds
  short : resources.elapsedMilliseconds ≤ maxTimeoutMilliseconds
  untimed : ending.timed = false → resources.elapsedMilliseconds = 0
  timed : ending = .requestTimeout →
    ∃ timeout, request.resourcePolicy.timeoutMilliseconds = some timeout ∧
      timeout ≤ resources.elapsedMilliseconds

/-- The best assignment of a search is one it admits. -/
theorem seenAt_best {a : List Int} (h : (request.seenAt n).bestAssignment = some a) :
    a ∈ request.problem.assignments ∧ request.Admits a ∧
      (request.seenAt n).bestObjective = request.objectiveAt a := by
  have hbest : request.best (request.problem.assignments.take n) = some a := h
  obtain ⟨hmem, hadmits, _⟩ := best_eq_some hbest
  refine ⟨List.mem_of_mem_take hmem, hadmits, ?_⟩
  rw [SolverRequest.seenAt, SolverRequest.seen, hbest, Option.bind_some]

theorem seenAt_best_eq_none (h : (request.seenAt n).bestAssignment = none) :
    (request.seenAt n).bestObjective = none := by
  have hbest : request.best (request.problem.assignments.take n) = none := h
  rw [SolverRequest.seenAt, SolverRequest.seen, hbest, Option.bind_none]

/-- The best assignment of a search under an objective has a value. -/
theorem seenAt_value {objective : SolverObjective}
    (hobjective : request.problem.objective = some objective)
    (h : (request.seenAt n).bestAssignment ≠ none) :
    ∃ value, (request.seenAt n).bestObjective = some value := by
  obtain ⟨a, ha⟩ := Option.ne_none_iff_exists'.mp h
  obtain ⟨_, _, hvalue⟩ := seenAt_best ha
  exact ⟨_, by rw [hvalue, objectiveAt, hobjective, Option.map_some]⟩

/-- A stated value is the value of the best assignment. -/
theorem seenAt_best_of_value {value : Int} (h : (request.seenAt n).bestObjective = some value) :
    ∃ a, (request.seenAt n).bestAssignment = some a ∧ request.Admits a ∧
      request.objectiveAt a = some value := by
  cases ha : (request.seenAt n).bestAssignment with
  | none =>
    rw [seenAt_best_eq_none ha] at h
    cases h
  | some a =>
    obtain ⟨_, hadmits, hvalue⟩ := seenAt_best ha
    exact ⟨a, rfl, hadmits, hvalue.symm.trans h⟩

theorem seenAt_visited (h : n ≤ searchSpaceSize request.problem) :
    (request.seenAt n).visited = n := by
  rw [SolverRequest.seenAt, SolverRequest.seen, List.length_take, SolverProblem.length_assignments]
  exact Nat.min_eq_left h

/-- A search that ended at a witness has seen it. -/
theorem seenAt_hit (h : request.Hit n) : ∃ a, (request.seenAt n).bestAssignment = some a := by
  obtain ⟨a, _, _, hbest⟩ := h.best_eq
  exact ⟨a, hbest⟩

namespace Ended

theorem search (h : Ended request clock requestDeadline n last) :
    last.search = request.seenAt n := by
  cases h <;> rfl

theorem le_limit (h : Ended request clock requestDeadline n last) :
    n ≤ request.resourcePolicy.maxSolveSteps := by
  cases h with
  | witnessFound hit le => exact le
  | searchExhausted eq clear le => exact le
  | stepLimit lt clear eq => exact eq.le
  | requestTimeout lt clear le passed => exact le
  | leaseDeadline lt clear le => exact le

theorem le_space (h : Ended request clock requestDeadline n last) :
    n ≤ searchSpaceSize request.problem := by
  cases h with
  | witnessFound hit le => exact hit.le_length
  | searchExhausted eq clear le => exact eq.le
  | stepLimit lt clear eq => exact lt.le
  | requestTimeout lt clear le passed => exact lt.le
  | leaseDeadline lt clear le => exact lt.le

/-- Every search that ended concludes something. -/
theorem concludes (hlaw : ProblemLaw request.problem)
    (h : Ended request clock requestDeadline n last) :
    ∃ expected, Concludes request n last.termination expected := by
  cases h with
  | witnessFound hit le =>
    cases hobjective : request.problem.objective with
    | none => exact ⟨_, .satisfiable hit hobjective⟩
    | some objective => exact ⟨_, .feasible hit hobjective⟩
  | searchExhausted eq clear le =>
    cases hobjective : request.problem.objective with
    | none => exact ⟨_, .unsatisfiable eq clear hobjective⟩
    | some objective =>
      by_cases hbest : (request.seenAt n).bestAssignment = none
      · exact ⟨_, .infeasible eq clear hobjective hbest⟩
      · obtain ⟨value, hvalue⟩ := seenAt_value hobjective hbest
        exact ⟨_, .optimal eq clear hobjective hvalue⟩
  | stepLimit lt clear eq =>
    cases hobjective : request.problem.objective with
    | none => exact ⟨_, .unknown lt clear eq (.inl hobjective)⟩
    | some objective =>
      by_cases hbest : (request.seenAt n).bestAssignment = none
      · exact ⟨_, .unknown lt clear eq (.inr hbest)⟩
      · obtain ⟨value, hvalue⟩ := seenAt_value hobjective hbest
        obtain ⟨bounds, hbounds, _⟩ := objectiveDomainBounds_eq_ok hlaw hobjective
        exact ⟨_, .bounded lt clear eq hobjective hvalue hbounds⟩
  | requestTimeout lt clear le passed => exact ⟨_, .requestTimeout lt clear⟩
  | leaseDeadline lt clear le => exact ⟨_, .leaseDeadline lt clear⟩

/-- A request that timed out has used up its time. -/
theorem elapsed {startMs : Int} {timeoutMilliseconds : Option Nat}
    (h : Ended request clock
      (timeoutMilliseconds.map fun timeout : Nat => startMs + (timeout : Int)) n last)
    (hclock : clock.Nondecreasing) (hreason : last.termination = .requestTimeout) :
    ∃ timeout, timeoutMilliseconds = some timeout ∧
      timeout ≤ (clock.monotonicMilliseconds last.reading - startMs).toNat := by
  cases h with
  | requestTimeout lt clear le passed =>
    obtain ⟨deadline, earlier, hdeadline, hearlier, hpassed⟩ := passed
    obtain ⟨timeout, htimeout, rfl⟩ := Option.map_eq_some_iff.mp hdeadline
    have hmono := hclock.monotonicMilliseconds hearlier
    exact ⟨timeout, htimeout, by simp only; omega⟩
  | _ => cases hreason

end Ended

namespace Concludes

/-- The solver reports the conclusion. -/
theorem disposition (h : Concludes request n reason expected) :
    resultDisposition request.problem reason (request.seenAt n).bestAssignment =
      .ok (expected.status, expected.proof, expected.diagnostic) := by
  cases h with
  | satisfiable hit decision => simp [resultDisposition, decision]
  | feasible hit optimization => simp [resultDisposition, optimization]
  | unsatisfiable whole clear decision => simp [resultDisposition, decision]
  | infeasible whole clear optimization best => simp [resultDisposition, optimization, best]
  | optimal whole clear optimization best =>
    obtain ⟨a, ha, _⟩ := seenAt_best_of_value best
    simp [resultDisposition, optimization, ha]
  | bounded part clear limit optimization best bounds_eq =>
    obtain ⟨a, ha, _⟩ := seenAt_best_of_value best
    simp [resultDisposition, optimization, ha]
  | unknown part clear limit nothing =>
    have hnot : ¬(request.problem.objective ≠ none ∧
        (request.seenAt n).bestAssignment ≠ none) := by
      rintro ⟨hobjective, hbest⟩
      exact nothing.elim hobjective hbest
    rw [resultDisposition, if_neg hnot]
  | requestTimeout part clear => rfl
  | leaseDeadline part clear => rfl

/-- The solver states the interval of the conclusion. -/
theorem interval (h : Concludes request n reason expected) :
    objectiveInterval request.problem expected.status (request.seenAt n).bestObjective =
      .ok expected.interval := by
  have hplain : ∀ {status : SolverResultStatus}, status ≠ .optimal → status ≠ .bounded →
      objectiveInterval request.problem status (request.seenAt n).bestObjective = .ok none := by
    intro status hoptimal hbounded
    unfold objectiveInterval
    split
    · rw [if_neg hoptimal, if_pos hbounded]
    · rfl
  cases h with
  | optimal whole clear optimization best => simp [objectiveInterval, optimization, best]
  | bounded part clear limit optimization best bounds_eq =>
    simp only [objectiveInterval, optimization, best, bounds_eq]
    rfl
  | _ => exact hplain (by simp) (by simp)

/-- A replay that ended like the search expects the conclusion. -/
theorem expectedEnd (h : Concludes request n reason expected)
    (haccounts : Accounts request n reason resources) {early : Option Nat}
    (hhit : request.Hit n → early ≠ none) (hclear : request.ClearAt n → early = none) :
    Sdaqf.expectedEnd request resources (request.seenAt n) early = .ok (some expected) := by
  unfold Sdaqf.expectedEnd
  rw [haccounts.reason, haccounts.visited]
  cases h with
  | satisfiable hit decision => simp [hhit hit, decision]
  | feasible hit optimization => simp [hhit hit, optimization]
  | unsatisfiable whole clear decision => simp [hclear clear, whole, decision]
  | infeasible whole clear optimization best =>
    subst whole
    simp [hclear clear, optimization, best]
  | optimal whole clear optimization best =>
    obtain ⟨a, ha, _⟩ := seenAt_best_of_value best
    subst whole
    simp [hclear clear, optimization, ha, best, fromOption]
  | bounded part clear limit optimization best bounds_eq =>
    obtain ⟨a, ha, _⟩ := seenAt_best_of_value best
    simp [hclear clear, ← limit, Nat.not_le.mpr part, optimization, ha, best, bounds_eq,
      fromOption]
  | unknown part clear limit nothing =>
    simp only [hclear clear, ← limit, Nat.not_le.mpr part]
    rcases nothing with hobjective | hbest
    · simp [hobjective]
    · rw [hbest]
      cases request.problem.objective <;> simp
  | requestTimeout part clear =>
    obtain ⟨timeout, htimeout, hle⟩ := haccounts.timed rfl
    simp [hclear clear, Nat.not_le.mpr part, htimeout, Nat.not_lt.mpr hle]
  | leaseDeadline part clear => simp [hclear clear, Nat.not_le.mpr part]

/-- The contract of results accepts the shape of the conclusion. -/
theorem shape (h : Concludes request n reason expected) (hwf : request.problem.WellFormed)
    (hpositive : request.resourcePolicy.maxSolveSteps ≠ 0)
    (haccounts : Accounts request n reason resources) :
    validateResultShape expected.status
      (witnessOf request.problem.variableIds (request.seenAt n).bestAssignment)
      (request.seenAt n).bestObjective expected.interval expected.proof expected.diagnostic
      resources = .ok () := by
  have hspace := hwf.searchSpaceSize_pos
  have huntimed := haccounts.untimed
  simp only [validateResultShape, SolverResultStatus.positive, SolverResultStatus.negative,
    SolverResultStatus.incomplete, bind_eq_ok, exists_unit, require_eq_ok]
  rw [haccounts.reason, haccounts.calls, haccounts.steps, haccounts.space, haccounts.visited,
    haccounts.unvisited, haccounts.limit]
  cases h with
  | satisfiable hit decision =>
    obtain ⟨a, ha⟩ := seenAt_hit hit
    have hvalue : (request.seenAt n).bestObjective = none := by
      rw [(seenAt_best ha).2.2, objectiveAt, decision, Option.map_none]
    simp [SolverResultStatus.terminations, SolverResultStatus.diagnostic?, witnessOf, ha, hvalue,
      huntimed rfl, hit.pos.ne']
  | feasible hit optimization =>
    obtain ⟨a, ha⟩ := seenAt_hit hit
    obtain ⟨value, hvalue⟩ := seenAt_value optimization (ne_of_eq_of_ne ha (by simp))
    simp [SolverResultStatus.terminations, SolverResultStatus.diagnostic?, witnessOf, ha, hvalue,
      huntimed rfl, hit.pos.ne']
  | unsatisfiable whole clear decision =>
    have hnone : (request.seenAt n).bestAssignment = none :=
      best_eq_none.mpr (clear (.inl decision))
    have hvalue := seenAt_best_eq_none hnone
    subst whole
    simp [SolverResultStatus.terminations, SolverResultStatus.diagnostic?, witnessOf, hnone, hvalue,
      huntimed rfl, hspace.ne']
  | infeasible whole clear optimization best =>
    subst whole
    simp [SolverResultStatus.terminations, SolverResultStatus.diagnostic?, witnessOf, best,
      huntimed rfl, hspace.ne']
  | optimal whole clear optimization best =>
    obtain ⟨a, ha, _⟩ := seenAt_best_of_value best
    subst whole
    simp [SolverResultStatus.terminations, SolverResultStatus.diagnostic?, witnessOf, ha, best,
      huntimed rfl, hspace.ne']
  | bounded part clear limit optimization best bounds_eq =>
    obtain ⟨a, ha, _⟩ := seenAt_best_of_value best
    have hrest : searchSpaceSize request.problem - n ≠ 0 := Nat.sub_ne_zero_of_lt part
    rw [← limit] at hpositive ⊢
    simp [SolverResultStatus.terminations, SolverResultStatus.diagnostic?, witnessOf, ha, best,
      huntimed rfl, hpositive, hrest]
  | unknown part clear limit nothing =>
    have hrest : searchSpaceSize request.problem - n ≠ 0 := Nat.sub_ne_zero_of_lt part
    simp [SolverResultStatus.terminations, SolverResultStatus.diagnostic?, huntimed rfl, hrest,
      ← limit]
  | requestTimeout part clear =>
    have hrest : searchSpaceSize request.problem - n ≠ 0 := Nat.sub_ne_zero_of_lt part
    simp [SolverResultStatus.terminations, SolverResultStatus.diagnostic?,
      SolverTerminationReason.value, hrest]
  | leaseDeadline part clear =>
    have hrest : searchSpaceSize request.problem - n ≠ 0 := Nat.sub_ne_zero_of_lt part
    simp [SolverResultStatus.terminations, SolverResultStatus.diagnostic?,
      SolverTerminationReason.value, hrest]

/-- The interval of the conclusion is within the limits of a result. -/
theorem intervalContract (h : Concludes request n reason expected)
    (hlaw : ProblemLaw request.problem) {interval : ObjectiveInterval}
    (hinterval : expected.interval = some interval) :
    Sdaqf.intervalContract interval = .ok () := by
  have hvalue : ∀ {objective value}, request.problem.objective = some objective →
      (request.seenAt n).bestObjective = some value → ∃ bounds,
        objectiveDomainBounds request.problem objective = .ok bounds ∧
          -(maxObjective : Int) ≤ bounds.lower ∧ bounds.lower ≤ value ∧ value ≤ bounds.upper ∧
          bounds.upper ≤ maxObjective := by
    intro objective value hobjective hbest
    obtain ⟨a, _, hadmits, ha⟩ := seenAt_best_of_value hbest
    rw [objectiveAt, hobjective, Option.map_some, Option.some.injEq] at ha
    rw [← ha]
    exact value_bounds hlaw hobjective hadmits
  simp only [Sdaqf.intervalContract, bind_eq_ok, exists_unit, objectiveBound_eq_ok, require_eq_ok]
  unfold InObjectives
  cases h with
  | optimal whole clear optimization best =>
    obtain ⟨bounds, _, hlower, hle, hge, hupper⟩ := hvalue optimization best
    cases hinterval
    simp only
    omega
  | @bounded objective value bounds part clear limit optimization best bounds_eq =>
    obtain ⟨bounds', hbounds', hlower, hle, hge, hupper⟩ := hvalue optimization best
    have heq : bounds' = bounds := Except.ok.inj (hbounds'.symm.trans bounds_eq)
    subst heq
    cases hinterval
    unfold boundedInterval
    cases objective.direction with
    | minimize =>
      simp only
      omega
    | maximize =>
      simp only
      omega
  | _ => cases hinterval

/-- The diagnostic of the conclusion belongs to the vocabulary. -/
theorem diagnosticCode (h : Concludes request n reason expected) :
    ∀ code ∈ expected.diagnostic, code ∈ diagnosticCodes := by
  cases h <;> simp [diagnosticCodes]

end Concludes

/-! ## Contracts of the evidence -/

/-- A number of assignments that a search of a problem can visit. -/
theorem Accounts.contract (haccounts : Accounts request n reason resources)
    (hlaw : ProblemLaw request.problem)
    (hpolicy : resourcePolicyContract request.resourcePolicy = .ok ())
    (hlimit : n ≤ request.resourcePolicy.maxSolveSteps)
    (hspace : n ≤ searchSpaceSize request.problem) :
    resourcesContract resources = .ok () := by
  simp only [resourcePolicyContract, bind_eq_ok, exists_unit, integerValue_eq_ok, require_eq_ok,
    forEach_eq_ok] at hpolicy
  obtain ⟨⟨hone, hmax⟩, _, _, htimeout, _⟩ := hpolicy
  have hpos := hlaw.wellFormed.searchSpaceSize_pos
  have hsize := hlaw.space
  have hchecks : (request.seenAt n).checks ≤ maxSearchSpace * maxConstraints :=
    (seenAt_checks_le hlaw.wellFormed).trans
      (Nat.mul_le_mul (hspace.trans hsize) hlaw.few_constraints)
  have hshort := haccounts.short
  simp only [resourcesContract, bind_eq_ok, exists_unit, integerValue_eq_ok, require_eq_ok,
    forEach_eq_ok]
  rw [haccounts.calls, haccounts.steps, haccounts.space, haccounts.visited, haccounts.unvisited,
    haccounts.limit, haccounts.timeout, haccounts.checks]
  unfold maxSteps at hmax ⊢
  unfold maxSearchSpace at hsize
  refine ⟨by simp, ?_, ?_, ?_, ?_, ⟨hone, hmax⟩, ?_, hlimit, htimeout, ?_, ?_⟩
  · omega
  · unfold maxSearchSpace
    omega
  · unfold maxSearchSpace
    omega
  · unfold maxSearchSpace
    omega
  · omega
  · exact ⟨Int.natCast_nonneg _, Int.ofNat_le.mpr hchecks⟩
  · omega

theorem witnessContract_eq_ok (hlaw : ProblemLaw problem) {assignment : List Int}
    (h : assignment ∈ problem.assignments) :
    witnessContract ⟨problem.variableIds.zip assignment⟩ = .ok () := by
  have hdomains : ∀ v ∈ problem.vars,
      problem.valuation assignment v.variableId ∈ v.domain.values := by
    rwa [← SolverProblem.choice_mem_assignments, hlaw.wellFormed.choice_valuation h]
  rw [hlaw.wellFormed.zip_assignment h]
  simp only [witnessContract, arrayValue, bind_eq_ok, exists_unit, require_eq_ok, List.length_map]
  refine ⟨hlaw.few_variables, forEachIndexed_of_forall fun pair hpair field => ?_, ?_, ?_⟩
  · obtain ⟨v, hv, rfl⟩ := List.mem_map.mp hpair
    simp only [bind_eq_ok, exists_unit, scalar_eq_ok]
    exact ⟨(hlaw.domains v hv).symbol _, (hlaw.domains v hv).scalars _ (hdomains v hv)⟩
  · simpa using hlaw.some_variable
  · rw [List.map_map]
    exact hlaw.wellFormed.sorted

end Sdaqf
