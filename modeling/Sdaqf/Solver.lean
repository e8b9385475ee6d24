import Sdaqf.SolverContracts

/-!
# The finite-domain reference adapter

The reference adapter enumerates the complete assignments of a problem in order. It stops at the
first witness when one is enough, at the step limit of the request, at its timeout or at the
deadline of the lease, or when the assignments are exhausted; how it stopped decides what its result
claims.
-/

namespace Sdaqf

open Guard

/-! ## Evaluating an assignment -/

/-- The values of the variables under an assignment. -/
abbrev SolverValues := List (String × Int)

def SolverValues.value (values : SolverValues) (variableId : String) : Except String Int :=
  fromOption (values.lookup variableId) ("KeyError: " ++ variableId)

/-- The sum of the terms of a linear form, added to a first amount. -/
def linearSum (values : SolverValues) (first : Int) (terms : List LinearTerm) :
    Except String Int :=
  foldE (fun total term => do
    let value ← values.value term.variableId
    return total + value * term.coefficient) first terms

def LinearRelation.holds : LinearRelation → Int → Int → Bool
  | .eq, left, right => left = right
  | .ne, left, right => left ≠ right
  | .lt, left, right => left < right
  | .le, left, right => left ≤ right
  | .gt, left, right => right < left
  | .ge, left, right => right ≤ left

/-- The values of some variables. -/
def selectValues (values : SolverValues) : List String → Except String (List Int)
  | [] => .ok []
  | variableId :: rest => do
    let value ← values.value variableId
    let selected ← selectValues values rest
    return value :: selected

/-- Some literal of a clause holds. -/
def anyLiteral (values : SolverValues) : List ClauseLiteral → Except String Bool
  | [] => .ok false
  | literal :: rest => do
    let value ← values.value literal.variableId
    if value = literal.equals then return true else anyLiteral values rest

/-- An assignment passes one constraint. -/
def SolverConstraint.passed (values : SolverValues) : SolverConstraint → Except String Bool
  | .linear _ terms relation rightHandSide => do
    let left ← linearSum values 0 terms
    return relation.holds left rightHandSide
  | .allDifferent _ variableIds => do
    let selected ← selectValues values variableIds
    return decide selected.Nodup
  | .table _ variableIds mode rows => do
    let row ← selectValues values variableIds
    return match mode with
      | .allowed => decide (row ∈ rows)
      | .forbidden => decide (row ∉ rows)
  | .clause _ literals => anyLiteral values literals
  | .nonOverlap _ leftStart leftDuration rightStart rightDuration => do
    let left ← values.value leftStart
    let right ← values.value rightStart
    return decide (left + leftDuration ≤ right ∨ right + rightDuration ≤ left)

/-- Evaluate constraints in canonical order up to the first failure, counting from the checks made
before. -/
def evaluateFrom (values : SolverValues) :
    Nat → List SolverConstraint → Except String (Bool × Nat)
  | checks, [] => .ok (true, checks)
  | checks, item :: rest => do
    let passed ← item.passed values
    if passed then evaluateFrom values (checks + 1) rest else return (false, checks + 1)

/-- Evaluate constraints in canonical order and return the checked count. -/
def evaluateConstraints (problem : SolverProblem) (values : SolverValues) :
    Except String (Bool × Nat) :=
  evaluateFrom values 0 problem.constraints

/-- Evaluate the exact integer linear objective. -/
def evaluateObjective (objective : SolverObjective) (values : SolverValues) : Except String Int :=
  linearSum values objective.constant objective.terms

/-- Add the range of one term to the bounds. -/
def boundTerm (problem : SolverProblem) (bounds : ObjectiveInterval) (term : LinearTerm) :
    Except String ObjectiveInterval := do
  let domain ← fromOption (problem.domain? term.variableId) ("KeyError: " ++ term.variableId)
  let products := domain.map (term.coefficient * ·)
  let least ← fromOption products.min? "min() iterable argument is empty"
  let greatest ← fromOption products.max? "max() iterable argument is empty"
  return ⟨bounds.lower + least, bounds.upper + greatest⟩

/-- Calculate conservative exact bounds without assuming feasibility. -/
def objectiveDomainBounds (problem : SolverProblem) (objective : SolverObjective) :
    Except String ObjectiveInterval :=
  foldE (boundTerm problem) ⟨objective.constant, objective.constant⟩ objective.terms

/-- An objective value improves on the best one, or equals it at a smaller assignment. -/
def isBetter (direction : ObjectiveDirection) (objective : Int) (assignment : List Int)
    (bestObjective : Option Int) (bestAssignment : Option (List Int)) : Bool :=
  match bestObjective, bestAssignment with
  | some bestObjective, some bestAssignment =>
    match direction with
    | .minimize =>
      objective < bestObjective || (objective = bestObjective && assignment < bestAssignment)
    | .maximize =>
      bestObjective < objective || (objective = bestObjective && assignment < bestAssignment)
  | _, _ => true

/-! ## The enumeration -/

/-- The readings of a clock, counted over both of its faces. -/
structure SolverClock where
  now : Nat → Timestamp
  monotonicMilliseconds : Nat → Int

/-- Neither face of a clock goes back. -/
structure SolverClock.Nondecreasing (clock : SolverClock) : Prop where
  now : Monotone clock.now
  monotonicMilliseconds : ∀ ⦃i j⦄, i ≤ j →
    clock.monotonicMilliseconds i ≤ clock.monotonicMilliseconds j

/-- What an enumeration has seen so far. -/
structure Search where
  visited : Nat := 0
  checks : Nat := 0
  bestAssignment : Option (List Int) := none
  bestObjective : Option Int := none
deriving DecidableEq

variable (request : SolverRequest)

/-- Visit one assignment, and say whether it ends the search as a witness. -/
def visit (search : Search) (assignment : List Int) : Except String (Search × Bool) := do
  let problem := request.problem
  let values := problem.variableIds.zip assignment
  let (satisfied, evaluated) ← evaluateConstraints problem values
  let search := { search with visited := search.visited + 1, checks := search.checks + evaluated }
  if ¬ satisfied then return (search, false)
  else
    match problem.objective with
    | none => return ({ search with bestAssignment := some assignment }, true)
    | some objective => do
      let value ← evaluateObjective objective values
      if request.requiredClaim = .feasible then
        return ({ search with bestAssignment := some assignment, bestObjective := some value },
          true)
      else if isBetter objective.direction value assignment search.bestObjective
          search.bestAssignment then
        return ({ search with bestAssignment := some assignment, bestObjective := some value },
          false)
      else return (search, false)

/-- The timeout of the request has passed; only a request with a timeout reads the clock. -/
def timedOut (clock : SolverClock) (deadline : Option Int) (reading : Nat) : Bool :=
  deadline.any fun deadline => deadline ≤ clock.monotonicMilliseconds reading

/-- How a search ended: what it saw, why it stopped, and the next reading of the clock. -/
structure SearchEnd where
  search : Search
  termination : SolverTerminationReason
  reading : Nat
deriving DecidableEq

/-- Enumerate the assignments until a limit, a deadline or a witness ends the search. -/
def searchLoop (clock : SolverClock) (requestDeadline : Option Int) (leaseDeadline : Timestamp) :
    Nat → Search → List (List Int) → Except String SearchEnd
  | reading, search, [] => .ok ⟨search, .searchExhausted, reading⟩
  | reading, search, assignment :: rest =>
    let afterTimeout := reading + 1 + requestDeadline.toList.length
    if leaseDeadline ≤ clock.now reading then .ok ⟨search, .leaseDeadline, reading + 1⟩
    else if timedOut clock requestDeadline (reading + 1) then
      .ok ⟨search, .requestTimeout, afterTimeout⟩
    else if request.resourcePolicy.maxSolveSteps ≤ search.visited then
      .ok ⟨search, .stepLimit, afterTimeout⟩
    else do
      let (search, found) ← visit request search assignment
      if found then return ⟨search, .witnessFound, afterTimeout⟩
      else searchLoop clock requestDeadline leaseDeadline afterTimeout search rest

/-! ## The result -/

/-- What the end of a search claims. -/
def resultDisposition (problem : SolverProblem) (termination : SolverTerminationReason)
    (bestAssignment : Option (List Int)) :
    Except String (SolverResultStatus × SolverProofDisposition × Option String) :=
  match termination with
  | .witnessFound =>
    .ok (if problem.objective = none then .satisfiable else .feasible, .witness, none)
  | .searchExhausted =>
    if problem.objective = none then .ok (.unsatisfiable, .exhaustiveEnumeration, none)
    else if bestAssignment = none then .ok (.infeasible, .exhaustiveEnumeration, none)
    else .ok (.optimal, .exhaustiveEnumeration, none)
  | .stepLimit =>
    if problem.objective ≠ none ∧ bestAssignment ≠ none then .ok (.bounded, .objectiveBound, none)
    else .ok (.unknown, .none, some "step-limit")
  | .requestTimeout => .ok (.timeout, .none, some "request-timeout")
  | .leaseDeadline => .ok (.timeout, .none, some "lease-deadline")
  | .adapterUnavailable => .error "Unexpected reference termination reason."
  | .adapterError => .error "Unexpected reference termination reason."

/-- The witness of an assignment. -/
def witnessOf (variableIds : List String) (assignment : Option (List Int)) :
    Option SolverWitness :=
  assignment.map fun assignment => ⟨variableIds.zip assignment⟩

/-- The interval of an objective value in the direction of its objective. -/
def boundedInterval (direction : ObjectiveDirection) (bounds : ObjectiveInterval) (value : Int) :
    ObjectiveInterval :=
  match direction with
  | .minimize => ⟨bounds.lower, value⟩
  | .maximize => ⟨value, bounds.upper⟩

/-- The objective interval a status states. -/
def objectiveInterval (problem : SolverProblem) (status : SolverResultStatus)
    (value : Option Int) : Except String (Option ObjectiveInterval) :=
  match problem.objective, value with
  | some objective, some value =>
    if status = .optimal then .ok (some ⟨value, value⟩)
    else if status ≠ .bounded then .ok none
    else do
      let bounds ← objectiveDomainBounds problem objective
      return some (boundedInterval objective.direction bounds value)
  | _, _ => .ok none

variable (S : SolverSurroundings)

/-- The zero-use evidence of an adapter that is not run. -/
def adapterUnavailableResult (request : LoadedSolverArtifact SolverRequest)
    (requestReference : ArtifactReference) (adapter : SolverAdapterDefinition)
    (lease : SolverLeaseEvidence) : Except String (LoadedSolverArtifact SolverResult) :=
  let value := request.value
  let space := searchSpaceSize value.problem
  artifactFromValue (resultContract S) S.resultId
    { sensitivity := value.sensitivity
      request := requestReference
      requestId := request.artifactId
      contractId := value.contractId
      candidate := value.candidate
      graphId := value.graphId
      taskId := value.taskId
      contextSnapshotId := value.contextSnapshotId
      adapterId := adapter.adapterId
      adapterVersion := adapter.version
      licenseExpression := adapter.licenseExpression
      provenance := adapter.provenance
      lease := lease
      status := .unavailable
      witness := none
      objectiveValue := none
      objectiveInterval := none
      proofDisposition := .none
      resources :=
        { solverCalls := 0
          solverSteps := 0
          searchSpaceSize := space
          visitedAssignments := 0
          unvisitedAssignments := space
          constraintChecks := 0
          elapsedMilliseconds := 0
          stepLimit := value.resourcePolicy.maxSolveSteps
          timeoutMilliseconds := value.resourcePolicy.timeoutMilliseconds
          terminationReason := .adapterUnavailable }
      diagnosticCode := some "adapter-unavailable" }

/-- The value of a result, from the end of a search and what it claims. -/
def solvedResult (request : LoadedSolverArtifact SolverRequest)
    (requestReference : ArtifactReference) (adapter : SolverAdapterDefinition)
    (lease : SolverLeaseEvidence) (last : SearchEnd) (elapsed : Nat)
    (disposition : SolverResultStatus × SolverProofDisposition × Option String)
    (interval : Option ObjectiveInterval) : SolverResult :=
  let value := request.value
  let space := searchSpaceSize value.problem
  { sensitivity := value.sensitivity
    request := requestReference
    requestId := request.artifactId
    contractId := value.contractId
    candidate := value.candidate
    graphId := value.graphId
    taskId := value.taskId
    contextSnapshotId := value.contextSnapshotId
    adapterId := adapter.adapterId
    adapterVersion := adapter.version
    licenseExpression := adapter.licenseExpression
    provenance := adapter.provenance
    lease := lease
    status := disposition.1
    witness := witnessOf value.problem.variableIds last.search.bestAssignment
    objectiveValue := last.search.bestObjective
    objectiveInterval := interval
    proofDisposition := disposition.2.1
    resources :=
      { solverCalls := 1
        solverSteps := last.search.visited
        searchSpaceSize := space
        visitedAssignments := last.search.visited
        unvisitedAssignments := space - last.search.visited
        constraintChecks := last.search.checks
        elapsedMilliseconds := min elapsed maxTimeoutMilliseconds
        stepLimit := value.resourcePolicy.maxSolveSteps
        timeoutMilliseconds := value.resourcePolicy.timeoutMilliseconds
        terminationReason := last.termination }
    diagnosticCode := disposition.2.2 }

/-- A termination that reports the time it took. -/
def SolverTerminationReason.timed (termination : SolverTerminationReason) : Bool :=
  termination = .requestTimeout || termination = .leaseDeadline

/-- The reference adapter. -/
def solve (clock : SolverClock) (request : LoadedSolverArtifact SolverRequest)
    (requestReference : ArtifactReference) (adapter : SolverAdapterDefinition)
    (lease : SolverLeaseEvidence) : Except String (LoadedSolverArtifact SolverResult) :=
  if adapter.adapterKind ≠ .reference then
    adapterUnavailableResult S request requestReference adapter lease
  else do
    require (adapter.adapterId = referenceAdapterId) "Reference adapter identity is invalid."
    let problem := request.value.problem
    let startMs := clock.monotonicMilliseconds 0
    let requestDeadline := request.value.resourcePolicy.timeoutMilliseconds.map
      fun timeout : Nat => startMs + (timeout : Int)
    let last ← searchLoop request.value clock requestDeadline lease.expiresAt 1 {}
      problem.assignments
    let disposition ← resultDisposition problem last.termination last.search.bestAssignment
    let interval ← objectiveInterval problem disposition.1 last.search.bestObjective
    let elapsed := if last.termination.timed then
      (clock.monotonicMilliseconds last.reading - startMs).toNat else 0
    artifactFromValue (resultContract S) S.resultId
      (solvedResult request requestReference adapter lease last elapsed disposition interval)

end Sdaqf
