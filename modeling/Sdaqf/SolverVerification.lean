import Sdaqf.Solver

/-!
# Independent verification of a solver result

The verifier reads a result as it finds it, honest or forged. It replays the enumeration that the
result claims, within its own step budget, and accepts the evidence only when the replay arrives at
the same end. A replay cut short by the budget leaves the result inconclusive.
-/

namespace Sdaqf

open Guard

/-- The outcome of the four replay checks. -/
structure ReplayChecks where
  resource : Bool := true
  witness : Bool := true
  objective : Bool := true
  proof : Bool := true
deriving DecidableEq

/-- What a replay says about a result: its checks, whether it was complete, and its steps. -/
structure ReplayVerdict where
  checks : ReplayChecks
  complete : Bool
  steps : Nat
deriving DecidableEq

/-! ## Replaying the enumeration -/

variable (request : SolverRequest)

/-- Replay one assignment, and say whether the solver would have stopped at it. -/
def replayStep (search : Search) (assignment : List Int) : Except String (Search × Bool) := do
  let problem := request.problem
  let values := problem.variableIds.zip assignment
  let (feasible, evaluated) ← evaluateConstraints problem values
  let search := { search with visited := search.visited + 1, checks := search.checks + evaluated }
  if ¬ feasible then return (search, false)
  else
    match problem.objective with
    | none => return ({ search with bestAssignment := some assignment }, true)
    | some objective => do
      let value ← evaluateObjective objective values
      let kept :=
        { search with bestAssignment := some assignment, bestObjective := some value }
      if request.requiredClaim = .feasible then return (kept, true)
      else
        match search.bestObjective, search.bestAssignment with
        | some bestObjective, some bestAssignment =>
          let better : Bool :=
            match objective.direction with
            | .minimize => value < bestObjective
            | .maximize => bestObjective < value
          if better ∨ (value = bestObjective ∧ assignment < bestAssignment) then
            return (kept, false)
          else return (search, false)
        | _, _ => return (kept, false)

/-- Replay the assignments up to a target, and note the step of an early witness. -/
def replayLoop (target : Nat) : Nat → Search → List (List Int) →
    Except String (Search × Option Nat)
  | _, search, [] => .ok (search, none)
  | step, search, assignment :: rest =>
    if target < step then .ok (search, none)
    else do
      let (search, stopped) ← replayStep request search assignment
      if stopped then return (search, some step)
      else replayLoop target (step + 1) search rest

/-- What a complete replay expects of a result. -/
structure Expected where
  status : SolverResultStatus
  proof : SolverProofDisposition
  diagnostic : Option String
  interval : Option ObjectiveInterval
deriving DecidableEq

/-- Compare a result with what its replay expects. -/
def Expected.compare (expected : Expected) (result : SolverResult) (search : Search) :
    ReplayChecks where
  resource := result.resources.terminationReason.timed || result.resources.elapsedMilliseconds = 0
  witness := result.witness = witnessOf request.problem.variableIds search.bestAssignment
  objective := result.objectiveValue = search.bestObjective &&
    result.objectiveInterval = expected.interval
  proof := result.status = expected.status && result.proofDisposition = expected.proof &&
    result.diagnosticCode = expected.diagnostic

/-- What a replay to the end of a result expects, if the termination of the result is possible. -/
def expectedEnd (resources : SolverResourceEvidence) (search : Search) (early : Option Nat) :
    Except String (Option Expected) :=
  let problem := request.problem
  let space := searchSpaceSize problem
  match resources.terminationReason with
  | .witnessFound =>
    if early = none then .ok none
    else .ok (some ⟨if problem.objective = none then .satisfiable else .feasible, .witness, none,
      none⟩)
  | .searchExhausted =>
    if resources.visitedAssignments ≠ space ∨ early ≠ none then .ok none
    else if problem.objective = none then
      .ok (some ⟨.unsatisfiable, .exhaustiveEnumeration, none, none⟩)
    else if search.bestAssignment = none then
      .ok (some ⟨.infeasible, .exhaustiveEnumeration, none, none⟩)
    else do
      let best ← fromOption search.bestObjective "AssertionError"
      return some ⟨.optimal, .exhaustiveEnumeration, none, some ⟨best, best⟩⟩
  | .stepLimit =>
    if resources.visitedAssignments ≠ request.resourcePolicy.maxSolveSteps ∨
        space ≤ resources.visitedAssignments ∨ early ≠ none then .ok none
    else
      match problem.objective, search.bestAssignment with
      | some objective, some _ => do
        let best ← fromOption search.bestObjective "AssertionError"
        let bounds ← objectiveDomainBounds problem objective
        return some ⟨.bounded, .objectiveBound, none,
          some (boundedInterval objective.direction bounds best)⟩
      | _, _ => .ok (some ⟨.unknown, .none, some "step-limit", none⟩)
  | .requestTimeout =>
    if space ≤ resources.visitedAssignments ∨ early ≠ none then .ok none
    else if request.resourcePolicy.timeoutMilliseconds.all fun timeout =>
        resources.elapsedMilliseconds < timeout then .ok none
    else .ok (some ⟨.timeout, .none, some "request-timeout", none⟩)
  | .leaseDeadline =>
    if space ≤ resources.visitedAssignments ∨ early ≠ none then .ok none
    else .ok (some ⟨.timeout, .none, some "lease-deadline", none⟩)
  | .adapterUnavailable => .ok none
  | .adapterError => .ok none

/-- The accounting that every adapter has to meet. -/
def commonAccounting (result : SolverResult) (lease : SolverLeaseEvidence)
    (resultSizeBytes : Nat) : Prop :=
  let resources := result.resources
  let policy := request.resourcePolicy
  let space := searchSpaceSize request.problem
  resources.searchSpaceSize = space ∧ resources.stepLimit = policy.maxSolveSteps ∧
    resources.timeoutMilliseconds = policy.timeoutMilliseconds ∧
    resources.solverSteps = resources.visitedAssignments ∧
    resources.solverSteps ≤ policy.maxSolveSteps ∧
    (0 < resultSizeBytes ∧ resultSizeBytes ≤ policy.maxResultBytes) ∧
    resources.visitedAssignments + resources.unvisitedAssignments = space ∧
    resources.solverCalls ≤ lease.reservedSolverCalls

instance {result : SolverResult} {lease : SolverLeaseEvidence} {resultSizeBytes : Nat} :
    Decidable (commonAccounting request result lease resultSizeBytes) := by
  unfold commonAccounting
  infer_instance

/-- The verdict on a result that reports no search. -/
def unusedVerdict (result : SolverResult) (solverCalls : Nat) (reason : SolverTerminationReason)
    (status : SolverResultStatus) (diagnostic : String) : ReplayVerdict :=
  let resources := result.resources
  let checks : ReplayChecks :=
    { resource := resources.terminationReason = reason && resources.solverCalls = solverCalls &&
        resources.solverSteps = 0 && resources.visitedAssignments = 0 &&
        resources.unvisitedAssignments = searchSpaceSize request.problem &&
        resources.constraintChecks = 0 && resources.elapsedMilliseconds = 0
      witness := result.witness = none
      objective := result.objectiveValue = none && result.objectiveInterval = none
      proof := result.status = status && result.proofDisposition = .none &&
        result.diagnosticCode = some diagnostic }
  ⟨checks, true, 0⟩

/-- Replay causal solve evidence within the exact verification-step budget. -/
def resourceReplayMatches (result : SolverResult) (adapter : SolverAdapterDefinition)
    (lease : SolverLeaseEvidence) (maxVerificationSteps resultSizeBytes : Nat) :
    Except String ReplayVerdict :=
  let resources := result.resources
  let problem := request.problem
  let space := searchSpaceSize problem
  if ¬ commonAccounting request result lease resultSizeBytes then
    .ok ⟨{ resource := false }, true, 0⟩
  else if adapter.adapterKind = .externalCli then
    .ok (unusedVerdict request result 0 .adapterUnavailable .unavailable "adapter-unavailable")
  else if resources.terminationReason = .adapterError then
    .ok (unusedVerdict request result 1 .adapterError .error "adapter-error")
  else if resources.solverCalls ≠ 1 ∨ space < resources.visitedAssignments then
    .ok ⟨{ resource := false }, true, 0⟩
  else do
    let target := min resources.visitedAssignments maxVerificationSteps
    let (search, early) ← replayLoop request target 1 {} problem.assignments
    if resources.constraintChecks < search.checks then
      return ⟨{ resource := false }, true, search.visited⟩
    else if early ≠ none ∧ early ≠ some resources.visitedAssignments then
      return ⟨{ resource := false, proof := false }, true, search.visited⟩
    else if target < resources.visitedAssignments then
      return ⟨{}, false, search.visited⟩
    else if search.checks ≠ resources.constraintChecks then
      return ⟨{ resource := false }, true, search.visited⟩
    else do
      let expected ← expectedEnd request resources search early
      match expected with
      | none => return ⟨{ resource := false, proof := false }, true, search.visited⟩
      | some expected =>
        return ⟨expected.compare request result search, true, search.visited⟩

/-! ## The verification -/

/-- The statuses each claim is satisfied with. -/
def claimAllows : SolverRequiredClaim → SolverResultStatus → Bool
  | .decision, status => status = .satisfiable || status = .unsatisfiable
  | .feasible, status => status = .feasible || status = .bounded || status = .optimal
  | .bounded, status => status = .bounded || status = .optimal
  | .optimal, status => status = .optimal

/-- The identities of a result are those of its request. -/
def identityBindings (request : LoadedSolverArtifact SolverRequest) (result : SolverResult)
    (requestReference : ArtifactReference) : Bool :=
  result.request = requestReference && result.requestId = request.artifactId &&
    result.contractId = request.value.contractId && result.candidate = request.value.candidate &&
    result.graphId = request.value.graphId && result.taskId = request.value.taskId &&
    result.contextSnapshotId = request.value.contextSnapshotId &&
    result.adapterId = request.value.adapterId &&
    request.value.sensitivity.rank ≤ result.sensitivity.rank

/-- The result carries the lease that reserved the steps of its request. -/
def leaseAuthority (result : SolverResult) (lease : SolverLeaseEvidence) : Bool :=
  result.lease = lease && lease.graphId = request.graphId && lease.taskId = request.taskId &&
    lease.reservedSolverCalls = 1 && lease.reservedSolverSteps =
      request.resourcePolicy.maxSolveSteps + request.resourcePolicy.maxVerificationSteps

/-- The result names its adapter exactly. -/
def adapterProvenance (result : SolverResult) (adapter : SolverAdapterDefinition) : Bool :=
  result.adapterId = adapter.adapterId && result.adapterVersion = adapter.version &&
    result.licenseExpression = adapter.licenseExpression && result.provenance = adapter.provenance

/-- The outcome and the reasons that the checks lead to. -/
def verificationOutcome (checks : List SolverVerificationCheck) (complete claimAllowed : Bool)
    (status : SolverResultStatus) : SolverVerificationOutcome × List String :=
  let failed := checks.filter fun check => !check.passed && check.checkId != "required-claim"
  if failed ≠ [] then (.rejected, failed.map fun check => "failed-" ++ check.checkId)
  else if status.incomplete ∨ ¬ complete then
    (.inconclusive, [if complete then "result-" ++ status.value else "verification-step-limit"])
  else (.verified, if claimAllowed then [] else ["required-claim-unsatisfied"])

variable (S : SolverSurroundings)

/-- Purely reproduce one verification from exact typed evidence. The checks are listed in the order
of their names. -/
def verifyLoadedSolverResult (request : LoadedSolverArtifact SolverRequest)
    (result : LoadedSolverArtifact SolverResult)
    (requestReference resultReference : ArtifactReference) (adapter : SolverAdapterDefinition)
    (lease : SolverLeaseEvidence) (resultSizeBytes : Nat) :
    Except String (LoadedSolverArtifact SolverVerification) := do
  let verdict ← resourceReplayMatches request.value result.value adapter lease
    request.value.resourcePolicy.maxVerificationSteps resultSizeBytes
  let claimAllowed := claimAllows request.value.requiredClaim result.value.status
  let checks : List SolverVerificationCheck :=
    [⟨"adapter-provenance", adapterProvenance result.value adapter⟩,
      ⟨"identity-bindings", identityBindings request result.value requestReference⟩,
      ⟨"lease-authority", leaseAuthority request.value result.value lease⟩,
      ⟨"objective-evidence", verdict.checks.objective⟩,
      ⟨"proof-disposition", verdict.checks.proof⟩,
      ⟨"required-claim", claimAllowed⟩,
      ⟨"resource-accounting", verdict.checks.resource⟩,
      ⟨"witness-feasibility", verdict.checks.witness⟩]
  let outcome := verificationOutcome checks verdict.complete claimAllowed result.value.status
  artifactFromValue (verificationContract S) S.verificationId
    { sensitivity := result.value.sensitivity
      request := requestReference
      requestId := request.artifactId
      result := resultReference
      resultId := result.artifactId
      contractId := request.value.contractId
      candidate := request.value.candidate
      graphId := request.value.graphId
      taskId := request.value.taskId
      contextSnapshotId := request.value.contextSnapshotId
      lease := lease
      outcome := outcome.1
      adoptionAllowed := outcome.1 = .verified && claimAllowed
      checks := checks
      reasons := outcome.2
      verificationSteps := verdict.steps }

end Sdaqf
