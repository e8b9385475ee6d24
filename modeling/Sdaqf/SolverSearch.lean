import Mathlib.Data.List.MinMax
import Mathlib.Data.Prod.Lex
import Sdaqf.SolverSemantics

/-!
# What a search has seen

The solver and its verifier walk through the same assignments in the same order. On a well-formed
problem each step extends what was seen by one assignment, and what was seen of a list of
assignments does not depend on who looked: its feasible assignment of the least rank, and the number
of checks that were made. So the end of a search, and of its replay, is known from its length.
-/

namespace Sdaqf

open Guard

variable {request : SolverRequest} {pre rest : List (List Int)} {assignment : List Int}

instance (problem : SolverProblem) (σ : Valuation) : Decidable (problem.Feasible σ) :=
  decidable_of_iff ((∀ v ∈ problem.vars, σ v.variableId ∈ v.domain.values) ∧
    ∀ item ∈ problem.constraints, item.Holds σ)
    ⟨fun h => ⟨h.1, h.2⟩, fun h => ⟨h.domains, h.holds⟩⟩

/-! ## Ranking assignments -/

/-- A rank is a cost, and the assignment that has it. -/
def Rank : Type := ℤ ×ₗ List ℤ

instance : LinearOrder Rank :=
  @Prod.Lex.instLinearOrder ℤ (List ℤ) Int.instLinearOrder (@List.instLinearOrder ℤ Int.instLinearOrder)

instance : Preorder Rank := inferInstance

instance : DecidableLT Rank := inferInstance

namespace SolverRequest

variable (request : SolverRequest)

/-- The search ends at its first witness. -/
def Stops : Prop := request.problem.objective = none ∨ request.requiredClaim = .feasible

instance : Decidable request.Stops := by
  unfold Stops
  infer_instance

/-- An assignment of the problem is feasible. -/
def Admits (assignment : List Int) : Prop :=
  request.problem.Feasible (request.problem.valuation assignment)

instance : Decidable (request.Admits assignment) := by
  unfold Admits
  infer_instance

/-- The value of an assignment under the objective, when there is one. -/
def objectiveAt (assignment : List Int) : Option Int :=
  request.problem.objective.map (·.value (request.problem.valuation assignment))

/-- The value of an assignment, so that a better one is smaller. -/
def cost (assignment : List Int) : Int :=
  match request.problem.objective with
  | none => 0
  | some objective =>
    match objective.direction with
    | .minimize => objective.value (request.problem.valuation assignment)
    | .maximize => -objective.value (request.problem.valuation assignment)

/-- The rank of an assignment. -/
def rankKey (assignment : List Int) : Rank := toLex (request.cost assignment, assignment)

/-- The feasible assignments of a list. -/
def admitted (assignments : List (List Int)) : List (List Int) :=
  assignments.filter fun assignment => decide (request.Admits assignment)

/-- The feasible assignment of the least rank. -/
def best (assignments : List (List Int)) : Option (List Int) :=
  (request.admitted assignments).argmin request.rankKey

/-- What a search has seen of a list of assignments. -/
def seen (assignments : List (List Int)) : Search where
  visited := assignments.length
  checks := (assignments.map request.problem.checkCount).sum
  bestAssignment := request.best assignments
  bestObjective := (request.best assignments).bind request.objectiveAt

/-- A search that would stop at a witness has found none in a list. -/
def Clear (assignments : List (List Int)) : Prop :=
  request.Stops → ∀ assignment ∈ assignments, ¬request.Admits assignment

end SolverRequest

open SolverRequest

theorem admitted_eq_nil (h : ∀ a ∈ pre, ¬request.Admits a) : request.admitted pre = [] := by
  rw [admitted, List.filter_eq_nil_iff]
  intro a ha
  simpa using h a ha

theorem admitted_concat : request.admitted (pre ++ [assignment]) =
    if request.Admits assignment then request.admitted pre ++ [assignment]
    else request.admitted pre := by
  rw [admitted, List.filter_append, List.filter_singleton, admitted]
  by_cases h : request.Admits assignment <;> simp [h]

theorem best_concat_of_not (h : ¬request.Admits assignment) :
    request.best (pre ++ [assignment]) = request.best pre := by
  rw [best, admitted_concat, if_neg h, best]

/-- The first feasible assignment is the best one so far. -/
theorem best_concat_of_first (h : request.Admits assignment)
    (hpre : ∀ a ∈ pre, ¬request.Admits a) :
    request.best (pre ++ [assignment]) = some assignment := by
  rw [best, admitted_concat, if_pos h, admitted_eq_nil hpre, List.nil_append,
    List.argmin_singleton]

/-- A feasible assignment replaces the best one when its rank is smaller. -/
theorem best_concat (h : request.Admits assignment) :
    request.best (pre ++ [assignment]) =
      match request.best pre with
      | none => some assignment
      | some old => if request.rankKey assignment < request.rankKey old then some assignment
        else some old := by
  rw [best, admitted_concat, if_pos h, List.argmin_concat, best]
  cases (request.admitted pre).argmin request.rankKey <;> rfl

theorem best_eq_some {a : List Int} (h : request.best pre = some a) :
    a ∈ pre ∧ request.Admits a ∧
      ∀ b ∈ pre, request.Admits b → request.rankKey a ≤ request.rankKey b := by
  have hmem : a ∈ request.admitted pre := List.argmin_mem (Option.mem_def.mpr h)
  rw [admitted, List.mem_filter, decide_eq_true_eq] at hmem
  refine ⟨hmem.1, hmem.2, fun b hb hadmits => ?_⟩
  exact List.le_of_mem_argmin (List.mem_filter.mpr ⟨hb, by simpa using hadmits⟩)
    (Option.mem_def.mpr h)

theorem best_eq_none : request.best pre = none ↔ ∀ a ∈ pre, ¬request.Admits a := by
  rw [best, List.argmin_eq_none, admitted, List.filter_eq_nil_iff]
  simp

theorem rankKey_lt {a b : List Int} : request.rankKey a < request.rankKey b ↔
    request.cost a < request.cost b ∨ request.cost a = request.cost b ∧ a < b :=
  Prod.Lex.toLex_lt_toLex

theorem rankKey_le {a b : List Int} : request.rankKey a ≤ request.rankKey b ↔
    request.cost a < request.cost b ∨ request.cost a = request.cost b ∧ a ≤ b :=
  Prod.Lex.toLex_le_toLex

/-- The comparison of the solver is the order of the ranks. -/
theorem isBetter_iff {objective : SolverObjective}
    (hobjective : request.problem.objective = some objective) {old : List Int} :
    isBetter objective.direction (objective.value (request.problem.valuation assignment)) assignment
        (some (objective.value (request.problem.valuation old))) (some old) = true ↔
      request.rankKey assignment < request.rankKey old := by
  rw [rankKey_lt, cost, cost, hobjective]
  cases hdirection : objective.direction with
  | minimize => simp [isBetter, hdirection]
  | maximize => simp [isBetter, hdirection]

/-! ## One assignment -/

theorem seen_concat : request.seen (pre ++ [assignment]) =
    { visited := (request.seen pre).visited + 1
      checks := (request.seen pre).checks + request.problem.checkCount assignment
      bestAssignment := request.best (pre ++ [assignment])
      bestObjective := (request.best (pre ++ [assignment])).bind request.objectiveAt } := by
  simp [seen]

/-- A visit extends what was seen by one assignment, and stops at a witness when one is enough. -/
theorem visit_eq_ok (hwf : request.problem.WellFormed)
    (hmem : assignment ∈ request.problem.assignments) (hclear : request.Clear pre) :
    visit request (request.seen pre) assignment =
      .ok (request.seen (pre ++ [assignment]),
        decide (request.Stops ∧ request.Admits assignment)) := by
  have hconstraints := (hwf.evaluateConstraints_eq_ok hmem).1
  have hadmits := hwf.feasible_valuation_iff hmem
  simp only [visit, bind_eq_ok, Prod.exists]
  refine ⟨_, _, hconstraints, ?_⟩
  by_cases h : request.Admits assignment
  · rw [decide_eq_true (hadmits.mp h), seen_concat]
    cases hobjective : request.problem.objective with
    | none =>
      have hstops : request.Stops := .inl hobjective
      have hbest := best_concat_of_first h (hclear hstops)
      have hnone := best_eq_none.mpr (hclear hstops)
      simp [hbest, hstops, h, seen, hnone, objectiveAt, hobjective]
    | some objective =>
      have hvalue := hwf.evaluateObjective_eq_ok hmem hobjective
      have hat : request.objectiveAt assignment =
          some (objective.value (request.problem.valuation assignment)) := by
        rw [objectiveAt, hobjective, Option.map_some]
      simp only [hvalue, not_true_eq_false, if_false, bind_eq_ok, Except.ok.injEq, exists_eq_left']
      by_cases hclaim : request.requiredClaim = .feasible
      · have hstops : request.Stops := .inr hclaim
        have hbest := best_concat_of_first h (hclear hstops)
        simp [hclaim, hbest, hstops, h, hat]
      · have hstops : ¬request.Stops := by simp [Stops, hobjective, hclaim]
        rw [if_neg hclaim, best_concat h]
        cases hold : request.best pre with
        | none => simp [seen, hold, isBetter, hstops, hat]
        | some old =>
          have hbetter := @isBetter_iff request assignment objective hobjective old
          have hatOld : request.objectiveAt old =
              some (objective.value (request.problem.valuation old)) := by
            rw [objectiveAt, hobjective, Option.map_some]
          by_cases hlt : request.rankKey assignment < request.rankKey old
          · simp [seen, hold, hatOld, hbetter.mpr hlt, hlt, hstops, hat]
          · have hnot := (not_congr hbetter).mpr hlt
            simp [seen, hold, hatOld, hnot, hlt, hstops]
  · have hall := fun hholds => h (hadmits.mpr hholds)
    rw [decide_eq_false hall, seen_concat, best_concat_of_not h]
    simp [h, seen]

/-- The verifier replays an assignment as the solver visits it. -/
theorem replayStep_eq_visit (search : Search) :
    replayStep request search assignment = visit request search assignment := by
  unfold replayStep visit
  refine congrArg (bind _) (funext fun evaluated => ?_)
  cases request.problem.objective with
  | none => rfl
  | some objective =>
    cases search.bestObjective with
    | none => simp [isBetter]
    | some bestObjective =>
      cases search.bestAssignment with
      | none => simp [isBetter]
      | some bestAssignment =>
        cases hdirection : objective.direction with
        | minimize => simp [isBetter, hdirection]
        | maximize => simp [isBetter, hdirection]

/-! ## The whole enumeration -/

namespace SolverRequest

variable (request)

/-- What is seen after a number of assignments. -/
def seenAt (n : Nat) : Search := request.seen (request.problem.assignments.take n)

/-- No witness that ends the search is among the first assignments. -/
def ClearAt (n : Nat) : Prop := request.Clear (request.problem.assignments.take n)

/-- The search ends at an assignment as its first witness. -/
structure Hit (n : Nat) : Prop where
  stops : request.Stops
  witness : ∃ pre a rest, request.problem.assignments = pre ++ a :: rest ∧
    n = pre.length + 1 ∧ request.Admits a ∧ ∀ b ∈ pre, ¬request.Admits b

end SolverRequest

theorem SolverRequest.Hit.le_length {n : Nat} (h : request.Hit n) :
    n ≤ searchSpaceSize request.problem := by
  obtain ⟨pre, a, rest, hall, rfl, _⟩ := h.witness
  rw [← SolverProblem.length_assignments, hall, List.length_append, List.length_cons]
  omega

theorem SolverRequest.Hit.pos {n : Nat} (h : request.Hit n) : 0 < n := by
  obtain ⟨pre, a, rest, _, rfl, _⟩ := h.witness
  exact Nat.succ_pos _

/-- No search passes its first witness. -/
theorem SolverRequest.Hit.not_clearAt {n m : Nat} (h : request.Hit n)
    (hclear : request.ClearAt m) : m < n := by
  obtain ⟨pre, a, rest, hall, rfl, hadmits, _⟩ := h.witness
  by_contra hle
  refine hclear h.stops a ?_ hadmits
  rw [hall, List.mem_take_iff_getElem]
  exact ⟨pre.length, by simp; omega, by simp⟩

/-- A search has one first witness. -/
theorem SolverRequest.Hit.unique {n m : Nat} (h : request.Hit n) (h' : request.Hit m) : n = m := by
  have hclear : ∀ {k}, request.Hit k → request.ClearAt (k - 1) := by
    rintro k ⟨_, pre, a, rest, hall, rfl, _, hpre⟩ _
    rwa [hall, Nat.add_sub_cancel, List.take_left]
  have hpos := h.pos
  have hpos' := h'.pos
  have hlt := h.not_clearAt (hclear h')
  have hlt' := h'.not_clearAt (hclear h)
  omega

/-- The witness of a search is the best assignment it has seen. -/
theorem SolverRequest.Hit.best_eq {n : Nat} (h : request.Hit n) :
    ∃ a, a ∈ request.problem.assignments ∧ request.Admits a ∧
      request.best (request.problem.assignments.take n) = some a := by
  obtain ⟨pre, a, rest, hall, rfl, hadmits, hpre⟩ := h.witness
  refine ⟨a, by simp [hall], hadmits, ?_⟩
  have htake : request.problem.assignments.take (pre.length + 1) = pre ++ [a] := by
    simp [hall, List.take_append]
  rw [htake]
  exact best_concat_of_first hadmits hpre

/-- A search stands between the assignments it has seen and the rest. -/
structure Between (request : SolverRequest) (pre rest : List (List Int)) : Prop where
  all : request.problem.assignments = pre ++ rest
  clear : request.Clear pre

namespace Between

theorem start (request : SolverRequest) : Between request [] request.problem.assignments :=
  ⟨rfl, fun _ _ h => by cases h⟩

theorem take (h : Between request pre rest) :
    request.problem.assignments.take pre.length = pre := by
  rw [h.all, List.take_left]

theorem seenAt (h : Between request pre rest) : request.seenAt pre.length = request.seen pre := by
  rw [SolverRequest.seenAt, h.take]

theorem clearAt (h : Between request pre rest) : request.ClearAt pre.length := by
  rw [ClearAt, h.take]
  exact h.clear

theorem space (h : Between request pre rest) :
    searchSpaceSize request.problem = pre.length + rest.length := by
  rw [← SolverProblem.length_assignments, h.all, List.length_append]

theorem mem (h : Between request pre (assignment :: rest)) :
    assignment ∈ request.problem.assignments := by
  simp [h.all]

/-- The search goes on past an assignment that does not end it. -/
theorem next (h : Between request pre (assignment :: rest))
    (hhit : ¬(request.Stops ∧ request.Admits assignment)) :
    Between request (pre ++ [assignment]) rest := by
  refine ⟨by simp [h.all], fun hstops b hb => ?_⟩
  rcases List.mem_append.mp hb with hb | hb
  · exact h.clear hstops b hb
  · rw [List.mem_singleton.mp hb]
    exact fun hadmits => hhit ⟨hstops, hadmits⟩

/-- The search ends at a witness. -/
theorem hit (h : Between request pre (assignment :: rest))
    (hhit : request.Stops ∧ request.Admits assignment) : request.Hit (pre.length + 1) :=
  ⟨hhit.1, pre, assignment, rest, h.all, rfl, hhit.2, h.clear hhit.1⟩

theorem seenAt_succ (h : Between request pre (assignment :: rest)) :
    request.seenAt (pre.length + 1) = request.seen (pre ++ [assignment]) := by
  have hall : request.problem.assignments = (pre ++ [assignment]) ++ rest := by simp [h.all]
  have htake := @List.take_left _ (pre ++ [assignment]) rest
  rw [← hall, List.length_append, List.length_singleton] at htake
  rw [SolverRequest.seenAt, htake]

end Between

/-- How a replay up to a target ends. -/
inductive Replayed (request : SolverRequest) (target : Nat) : Search → Option Nat → Prop
  | stopped {n : Nat} (hit : request.Hit n) (le : n ≤ target) :
      Replayed request target (request.seenAt n) (some n)
  | finished {n : Nat} (eq : n = min target (searchSpaceSize request.problem))
      (clear : request.ClearAt n) : Replayed request target (request.seenAt n) none

theorem replayLoop_eq_ok (hwf : request.problem.WellFormed) {target : Nat}
    (h : Between request pre rest) (hle : pre.length ≤ target) :
    ∃ search early, replayLoop request target (pre.length + 1) (request.seen pre) rest =
      .ok (search, early) ∧ Replayed request target search early := by
  induction rest generalizing pre with
  | nil =>
    refine ⟨_, none, rfl, ?_⟩
    rw [← h.seenAt]
    have hspace := h.space
    exact .finished (by simp at hspace; omega) h.clearAt
  | cons a rest ih =>
    by_cases htarget : target < pre.length + 1
    · refine ⟨_, none, by rw [replayLoop, if_pos htarget], ?_⟩
      rw [← h.seenAt]
      have hspace := h.space
      exact .finished (by omega) h.clearAt
    · simp only [replayLoop, if_neg htarget, replayStep_eq_visit, visit_eq_ok hwf h.mem h.clear,
        bind_eq_ok, Except.ok.injEq, exists_eq_left']
      by_cases hhit : request.Stops ∧ request.Admits a
      · refine ⟨_, some (pre.length + 1), by rw [decide_eq_true hhit]; rfl, ?_⟩
        rw [← h.seenAt_succ]
        exact .stopped (h.hit hhit) (by omega)
      · rw [decide_eq_false hhit]
        have hrest := ih (h.next hhit) (by simp; omega)
        rwa [List.length_append, List.length_singleton] at hrest

/-- A replay never fails on a well-formed problem, and ends as its target says. -/
theorem replay_eq_ok (hwf : request.problem.WellFormed) (target : Nat) :
    ∃ search early, replayLoop request target 1 {} request.problem.assignments =
      .ok (search, early) ∧ Replayed request target search early :=
  replayLoop_eq_ok hwf (Between.start request) (Nat.zero_le _)

/-- How the search of the solver ends after a number of assignments. -/
inductive Ended (request : SolverRequest) (clock : SolverClock) (requestDeadline : Option Int) :
    Nat → SearchEnd → Prop
  | witnessFound {n reading : Nat} (hit : request.Hit n)
      (le : n ≤ request.resourcePolicy.maxSolveSteps) :
      Ended request clock requestDeadline n ⟨request.seenAt n, .witnessFound, reading⟩
  | searchExhausted {n reading : Nat} (eq : n = searchSpaceSize request.problem)
      (clear : request.ClearAt n) (le : n ≤ request.resourcePolicy.maxSolveSteps) :
      Ended request clock requestDeadline n ⟨request.seenAt n, .searchExhausted, reading⟩
  | stepLimit {n reading : Nat} (lt : n < searchSpaceSize request.problem)
      (clear : request.ClearAt n) (eq : n = request.resourcePolicy.maxSolveSteps) :
      Ended request clock requestDeadline n ⟨request.seenAt n, .stepLimit, reading⟩
  | requestTimeout {n reading : Nat} (lt : n < searchSpaceSize request.problem)
      (clear : request.ClearAt n) (le : n ≤ request.resourcePolicy.maxSolveSteps)
      (passed : ∃ deadline earlier, requestDeadline = some deadline ∧ earlier ≤ reading ∧
        deadline ≤ clock.monotonicMilliseconds earlier) :
      Ended request clock requestDeadline n ⟨request.seenAt n, .requestTimeout, reading⟩
  | leaseDeadline {n reading : Nat} (lt : n < searchSpaceSize request.problem)
      (clear : request.ClearAt n) (le : n ≤ request.resourcePolicy.maxSolveSteps) :
      Ended request clock requestDeadline n ⟨request.seenAt n, .leaseDeadline, reading⟩

theorem searchLoop_eq_ok (hwf : request.problem.WellFormed) {clock : SolverClock}
    {requestDeadline : Option Int} {leaseDeadline : Timestamp} {reading : Nat}
    (h : Between request pre rest) (hle : pre.length ≤ request.resourcePolicy.maxSolveSteps) :
    ∃ n last, searchLoop request clock requestDeadline leaseDeadline reading (request.seen pre)
      rest = .ok last ∧ Ended request clock requestDeadline n last := by
  induction rest generalizing pre reading with
  | nil =>
    refine ⟨pre.length, _, rfl, ?_⟩
    rw [← h.seenAt]
    exact .searchExhausted (by simpa using h.space.symm) h.clearAt hle
  | cons a rest ih =>
    have hlt : pre.length < searchSpaceSize request.problem := by
      rw [h.space, List.length_cons]
      omega
    unfold searchLoop
    dsimp only
    split
    · refine ⟨pre.length, _, rfl, ?_⟩
      rw [← h.seenAt]
      exact .leaseDeadline hlt h.clearAt hle
    split
    · next htimeout =>
      refine ⟨pre.length, _, rfl, ?_⟩
      rw [← h.seenAt]
      refine .requestTimeout hlt h.clearAt hle ?_
      simp only [timedOut, Option.any_eq_true, decide_eq_true_eq] at htimeout
      obtain ⟨deadline, hdeadline, hpassed⟩ := htimeout
      exact ⟨deadline, reading + 1, hdeadline, Nat.le_add_right _ _, hpassed⟩
    split
    · next hsteps =>
      refine ⟨pre.length, _, rfl, ?_⟩
      rw [← h.seenAt]
      exact .stepLimit hlt h.clearAt (Nat.le_antisymm hle hsteps)
    next hsteps =>
    have hroom : pre.length + 1 ≤ request.resourcePolicy.maxSolveSteps := by
      have hvisited : (request.seen pre).visited = pre.length := rfl
      omega
    simp only [visit_eq_ok hwf h.mem h.clear, bind_eq_ok, Except.ok.injEq, exists_eq_left']
    by_cases hhit : request.Stops ∧ request.Admits a
    · rw [decide_eq_true hhit]
      refine ⟨pre.length + 1, _, rfl, ?_⟩
      rw [← h.seenAt_succ]
      exact .witnessFound (h.hit hhit) hroom
    · rw [decide_eq_false hhit]
      exact ih (h.next hhit) (by simpa using hroom)

/-- A search never fails on a well-formed problem. -/
theorem search_eq_ok (hwf : request.problem.WellFormed) (clock : SolverClock)
    (requestDeadline : Option Int) (leaseDeadline : Timestamp) (reading : Nat) :
    ∃ n last, searchLoop request clock requestDeadline leaseDeadline reading {}
      request.problem.assignments = .ok last ∧ Ended request clock requestDeadline n last :=
  searchLoop_eq_ok hwf (Between.start request) (Nat.zero_le _)

end Sdaqf
