import Sdaqf.SolverDomain
import Sdaqf.TextContracts

/-!
# Solver contracts

The contracts of the solver artifacts. A request, a result or a verification is accepted when every
guard of its contract holds; a value the program builds itself passes through the same contract
before it gets its identity.
-/

namespace Sdaqf

open Guard

/-! ## Limits -/

def maxArtifactBytes : Nat := 1048576
def maxVariables : Nat := 16
def maxDomainValues : Nat := 256
def maxSearchSpace : Nat := 1000000
def maxConstraints : Nat := 256
def maxTableRows : Nat := 4096
def maxScalar : Nat := 1000000
def maxSteps : Nat := 1000000
def maxTotalSteps : Nat := 2000000
def maxObjective : Nat := 10 ^ 15
def maxTimeoutMilliseconds : Nat := 3600000

def referenceAdapterId : String := "stdlib-finite-domain-v1"

def requestMark : String := "M7-SOLVER-REQUEST-"
def registryMark : String := "M7-SOLVER-REGISTRY-"
def resultMark : String := "M7-SOLVER-RESULT-"
def contractMark : String := "M7-SOLVER-CONTRACT-"

def scalar (field : String) (value : Int) : Except String Unit :=
  integerValue field (-maxScalar) maxScalar value

/-! ## What the program reads from outside a solve -/

/-- The content identities of the solver artifacts, and the safe relative paths. An identity is its
mark with a digest. -/
structure SolverSurroundings where
  safeRelativePath : String → Bool
  /-- The identity of the operational content of a request. -/
  operationalContractId : String → String → SolverProblem → SolverRequiredClaim →
    SolverResourcePolicy → String
  requestId : SolverRequest → String
  resultId : SolverResult → String
  verificationId : SolverVerification → String
  requestId_valid : ∀ field request, solverId field requestMark (requestId request) = .ok ()
  resultId_valid : ∀ field result, solverId field resultMark (resultId result) = .ok ()

variable (S : SolverSurroundings)

/-- The contract of one repository-relative artifact reference. -/
def artifactReference (field : String) (reference : ArtifactReference) : Except String Unit := do
  require (S.safeRelativePath reference.path) (field ++ ".path must be a relative POSIX path.")
  sha256Text (field ++ ".sha256") reference.sha256

/-- The order of references: by path, then by digest. -/
def referenceLt (a b : ArtifactReference) : Prop :=
  a.path < b.path ∨ (a.path = b.path ∧ a.sha256 < b.sha256)

instance {a b : ArtifactReference} : Decidable (referenceLt a b) := by
  unfold referenceLt
  infer_instance

def references (field : String) (minimum : Nat) (items : List ArtifactReference) :
    Except String Unit := do
  arrayValue field 64 items
  forEachIndexed field (artifactReference S) items
  require (minimum ≤ items.length ∧ items.Pairwise referenceLt)
    (field ++ " must be sorted and unique.")

/-! ## Problems -/

/-- The values of a variable of a problem. -/
def SolverProblem.domain? (problem : SolverProblem) (variableId : String) : Option (List Int) :=
  (problem.vars.find? (·.variableId = variableId)).map (·.domain.values)

/-- The contract of one variable with its domain. -/
def variableContract (field : String) (item : SolverVariable) : Except String Unit := do
  symbolText (field ++ ".variable_id") item.variableId
  match item.domain with
  | .integerSet values => do
    arrayValue (field ++ ".domain.values") maxDomainValues values
    forEachIndexed (field ++ ".domain.values") scalar values
    require (values ≠ [] ∧ values.Pairwise (· < ·))
      (field ++ ".domain values must be sorted and unique.")
  | .integerRange lower upper => do
    scalar (field ++ ".domain.lower") lower
    scalar (field ++ ".domain.upper") upper
    require (lower ≤ upper ∧ upper - lower + 1 ≤ maxDomainValues)
      (field ++ ".domain range is invalid.")

variable (problem : SolverProblem)

/-- The contract of the terms of a linear form. -/
def termsContract (field : String) (terms : List LinearTerm) : Except String Unit := do
  arrayValue field maxVariables terms
  require (terms ≠ []) (field ++ " must not be empty.")
  forEachIndexed field (fun field term => do
    symbolText (field ++ ".variable_id") term.variableId
    require (term.variableId ∈ problem.variableIds) (field ++ " references an unknown variable.")
    scalar (field ++ ".coefficient") term.coefficient
    require (term.coefficient ≠ 0) (field ++ ".coefficient must not be zero.")) terms
  require ((terms.map (·.variableId)).Pairwise (· < ·)) (field ++ " must be sorted and unique.")

/-- The contract of the variables a constraint names. -/
def variableIdsContract (field : String) (minimum : Nat) (variableIds : List String) :
    Except String Unit := do
  arrayValue field maxVariables variableIds
  forEachIndexed field symbolText variableIds
  require (minimum ≤ variableIds.length ∧ variableIds.Pairwise (· < ·))
    (field ++ " must be canonical and unique.")
  require (∀ id ∈ variableIds, id ∈ problem.variableIds)
    (field ++ " references an unknown variable.")

/-- The contract of one row of a table. -/
def rowContract (variableIds : List String) (field : String) (row : List Int) :
    Except String Unit := do
  arrayValue field maxVariables row
  require (row.length = variableIds.length) (field ++ " has invalid arity.")
  forEachIndexed field scalar row
  require (∀ pair ∈ variableIds.zip row, pair.2 ∈ (problem.domain? pair.1).getD [])
    (field ++ " contains an out-of-domain value.")

/-- The contract of one literal of a clause. -/
def literalContract (field : String) (literal : ClauseLiteral) : Except String Unit := do
  symbolText (field ++ ".variable_id") literal.variableId
  require (literal.variableId ∈ problem.variableIds) (field ++ " references an unknown variable.")
  scalar (field ++ ".equals") literal.equals
  require (literal.equals ∈ (problem.domain? literal.variableId).getD [])
    (field ++ " value is outside the domain.")
  require (problem.profile = .booleanSat → literal.equals = 0 ∨ literal.equals = 1)
    "Boolean SAT literal must equal 0 or 1."

/-- The order of literals: by variable, then by value. -/
def literalLt (a b : ClauseLiteral) : Prop :=
  a.variableId < b.variableId ∨ (a.variableId = b.variableId ∧ a.equals < b.equals)

instance {a b : ClauseLiteral} : Decidable (literalLt a b) := by
  unfold literalLt
  infer_instance

/-- The contract of one constraint of a problem. -/
def constraintContract (field : String) (item : SolverConstraint) : Except String Unit := do
  symbolText (field ++ ".constraint_id") item.constraintId
  match item with
  | .linear _ terms _ rightHandSide => do
    termsContract problem (field ++ ".terms") terms
    scalar (field ++ ".right_hand_side") rightHandSide
  | .allDifferent _ variableIds =>
    variableIdsContract problem (field ++ ".variable_ids") 2 variableIds
  | .table _ variableIds _ rows => do
    variableIdsContract problem (field ++ ".variable_ids") 1 variableIds
    arrayValue (field ++ ".rows") maxTableRows rows
    forEachIndexed (field ++ ".rows") (rowContract problem variableIds) rows
    require (rows.Pairwise (· < ·)) (field ++ ".rows must be sorted and unique.")
  | .clause _ literals => do
    arrayValue (field ++ ".literals") maxVariables literals
    require (literals ≠ []) (field ++ ".literals must not be empty.")
    forEachIndexed (field ++ ".literals") (literalContract problem) literals
    require (literals.Pairwise literalLt) (field ++ ".literals must be sorted and unique.")
  | .nonOverlap _ leftStart leftDuration rightStart rightDuration => do
    require (problem.profile = .finiteScheduling)
      "Non-overlap requires the finite-scheduling profile."
    symbolText (field ++ ".left_start") leftStart
    symbolText (field ++ ".right_start") rightStart
    require (leftStart ≠ rightStart ∧ leftStart ∈ problem.variableIds ∧
      rightStart ∈ problem.variableIds) "Non-overlap start variables are invalid."
    integerValue (field ++ ".left_duration") 1 maxScalar leftDuration
    integerValue (field ++ ".right_duration") 1 maxScalar rightDuration

/-- The contract of an objective. -/
def objectiveContract (objective : SolverObjective) : Except String Unit := do
  termsContract problem "content.problem.objective.terms" objective.terms
  scalar "content.problem.objective.constant" objective.constant

/-- The contract of a finite-domain problem. -/
def problemContract : Except String Unit := do
  require (¬(problem.problemKind = .optimization ∧ problem.profile = .booleanSat))
    "Boolean SAT profile is feasibility-only."
  arrayValue "content.problem.variables" maxVariables problem.vars
  require (problem.vars ≠ []) "Solver problem must contain a variable."
  forEachIndexed "content.problem.variables" variableContract problem.vars
  require (problem.variableIds.Pairwise (· < ·)) "Solver variables must be sorted and unique."
  require (problem.profile = .booleanSat → ∀ v ∈ problem.vars, v.domain.values = [0, 1])
    "Boolean SAT variables must have domain [0, 1]."
  arrayValue "content.problem.constraints" maxConstraints problem.constraints
  forEachIndexed "content.problem.constraints" (constraintContract problem) problem.constraints
  require ((problem.constraints.map (·.constraintId)).Pairwise (· < ·))
    "Solver constraints must be sorted and unique."
  forEach (objectiveContract problem) problem.objective.toList
  require (problem.problemKind = .feasibility ↔ problem.objective = none)
    "Problem kind and objective are inconsistent."
  require (searchSpaceSize problem ≤ maxSearchSpace)
    "Solver search space exceeds one million assignments."

/-! ## Requests -/

def validateClaim (kind : SolverProblemKind) (claim : SolverRequiredClaim) :
    Except String Unit := do
  require (kind = .feasibility → claim = .decision) "Feasibility requires the decision claim."
  require (kind = .optimization → claim ≠ .decision) "Optimization claim is invalid."

def resourcePolicyContract (policy : SolverResourcePolicy) : Except String Unit := do
  integerValue "content.resource_policy.max_solve_steps" 1 maxSteps policy.maxSolveSteps
  integerValue "content.resource_policy.max_verification_steps" 1 maxSteps
    policy.maxVerificationSteps
  require (policy.maxSolveSteps + policy.maxVerificationSteps ≤ maxTotalSteps)
    "Solver Request total steps exceed the limit."
  forEach (fun timeout : Nat => integerValue "content.resource_policy.timeout_milliseconds" 1
    maxTimeoutMilliseconds timeout) policy.timeoutMilliseconds.toList
  integerValue "content.resource_policy.max_result_bytes" 1 maxArtifactBytes policy.maxResultBytes

/-- The task authority that a request, a result and a verification carry. -/
def taskAuthority (graphId taskId contextSnapshotId : String) : Except String Unit := do
  patternId "content.graph_id" "M6-TASK-GRAPH-" isDigest graphId
  patternId "content.task_id" "TSK-" isLocalName taskId
  patternId "content.context_snapshot_id" "CTX-SNAPSHOT-" isDigest contextSnapshotId

/-- The contract of a request. -/
def requestContract (request : SolverRequest) : Except String Unit := do
  solverId "content.registry_id" registryMark request.registryId
  slugText "content.adapter_id" request.adapterId
  solverId "content.contract_id" contractMark request.contractId
  taskAuthority request.graphId request.taskId request.contextSnapshotId
  problemContract request.problem
  validateClaim request.problem.problemKind request.requiredClaim
  resourcePolicyContract request.resourcePolicy
  artifactReference S "content.registry" request.registry
  artifactReference S "content.task_graph" request.taskGraph
  candidateIdentity "content.candidate" request.candidate
  artifactReference S "content.context_snapshot" request.contextSnapshot
  require (S.operationalContractId request.registryId request.adapterId request.problem
    request.requiredClaim request.resourcePolicy = request.contractId)
    "Solver Request contract identity does not match content."

/-- The contract of an adapter definition, as far as a solve reads it. -/
def adapterContract (adapter : SolverAdapterDefinition) : Except String Unit := do
  slugText "content.adapters.adapter_id" adapter.adapterId
  patternText "content.adapters.version" 32 isVersion " is invalid." adapter.version
  patternText "content.adapters.license_expression" 64 isLicense " is invalid."
    adapter.licenseExpression
  references S "content.adapters.provenance" 1 adapter.provenance
  require (adapter.adapterKind = .reference → adapter.adapterId = referenceAdapterId)
    "Reference adapter boundary is invalid."
  require (adapter.adapterKind = .reference →
    adapter.version = "1.0.0" ∧ adapter.licenseExpression = "Apache-2.0")
    "Reference adapter definition is not exact."

/-! ## Results -/

/-- The contract of the lease evidence of a result. -/
def leaseContract (lease : SolverLeaseEvidence) : Except String Unit := do
  patternId "content.lease.graph_id" "M6-TASK-GRAPH-" isDigest lease.graphId
  patternId "content.lease.task_id" "TSK-" isLocalName lease.taskId
  patternId "content.lease.host_id" "HST-" isLocalName lease.hostId
  integerValue "content.lease.attempt" 1 3 lease.attempt
  patternId "content.lease.lease_id" "M6-LEASE-" isDigest lease.leaseId
  integerValue "content.lease.fence" 1 1000000000 lease.fence
  patternId "content.lease.idempotency_key" "IDEM-" isDigest lease.idempotencyKey
  patternId "content.lease.dispatch_message_id" "M6-MESSAGE-" isDigest lease.dispatchMessageId
  integerValue "content.lease.reserved_solver_calls" 1 1 lease.reservedSolverCalls
  integerValue "content.lease.reserved_solver_steps" 2 maxTotalSteps lease.reservedSolverSteps

/-- The contract of a witness. -/
def witnessContract (witness : SolverWitness) : Except String Unit := do
  arrayValue "content.witness.assignments" maxVariables witness.assignments
  forEachIndexed "content.witness.assignments" (fun field pair => do
    symbolText (field ++ ".variable_id") pair.1
    scalar (field ++ ".value") pair.2) witness.assignments
  require (witness.assignments ≠ [] ∧ (witness.assignments.map (·.1)).Pairwise (· < ·))
    "Witness assignments must be sorted and unique."

def objectiveBound (field : String) (value : Int) : Except String Unit :=
  integerValue field (-maxObjective) maxObjective value

/-- The contract of an objective interval. -/
def intervalContract (interval : ObjectiveInterval) : Except String Unit := do
  objectiveBound "content.objective_interval.lower" interval.lower
  objectiveBound "content.objective_interval.upper" interval.upper
  require (interval.lower ≤ interval.upper) "Objective interval is reversed."

/-- The contract of the resources a solve reports. -/
def resourcesContract (resources : SolverResourceEvidence) : Except String Unit := do
  integerValue "content.resources.solver_calls" 0 1 resources.solverCalls
  integerValue "content.resources.solver_steps" 0 maxSteps resources.solverSteps
  integerValue "content.resources.search_space_size" 1 maxSearchSpace resources.searchSpaceSize
  integerValue "content.resources.visited_assignments" 0 maxSearchSpace
    resources.visitedAssignments
  integerValue "content.resources.unvisited_assignments" 0 maxSearchSpace
    resources.unvisitedAssignments
  integerValue "content.resources.step_limit" 1 maxSteps resources.stepLimit
  require (resources.visitedAssignments = resources.solverSteps ∧
    resources.visitedAssignments + resources.unvisitedAssignments = resources.searchSpaceSize)
    "Result assignment accounting is inconsistent."
  require (resources.solverSteps ≤ resources.stepLimit)
    "Result solver steps exceed its solve step limit."
  forEach (fun timeout : Nat => integerValue "content.resources.timeout_milliseconds" 1
    maxTimeoutMilliseconds timeout) resources.timeoutMilliseconds.toList
  integerValue "content.resources.constraint_checks" 0 (maxSearchSpace * maxConstraints : Nat)
    resources.constraintChecks
  integerValue "content.resources.elapsed_milliseconds" 0 maxTimeoutMilliseconds
    resources.elapsedMilliseconds

namespace SolverResultStatus

variable (status : SolverResultStatus)

def positive : Bool :=
  status = .satisfiable || status = .feasible || status = .bounded || status = .optimal

def negative : Bool := status = .unsatisfiable || status = .infeasible

def incomplete : Bool :=
  status = .timeout || status = .unavailable || status = .unknown || status = .error

/-- The terminations each status can have. -/
def terminations : SolverResultStatus → List SolverTerminationReason
  | .satisfiable => [.witnessFound]
  | .feasible => [.witnessFound]
  | .unsatisfiable => [.searchExhausted]
  | .infeasible => [.searchExhausted]
  | .optimal => [.searchExhausted]
  | .bounded => [.stepLimit]
  | .unknown => [.stepLimit]
  | .timeout => [.requestTimeout, .leaseDeadline]
  | .unavailable => [.adapterUnavailable]
  | .error => [.adapterError]

/-- The diagnostic that some statuses must carry. -/
def diagnostic? : SolverResultStatus → Option String
  | .unknown => some "step-limit"
  | .unavailable => some "adapter-unavailable"
  | .error => some "adapter-error"
  | _ => none

end SolverResultStatus

/-- How the status of a result ties its evidence. -/
def validateResultShape (status : SolverResultStatus) (witness : Option SolverWitness)
    (objective : Option Int) (interval : Option ObjectiveInterval)
    (proof : SolverProofDisposition) (diagnostic : Option String)
    (resources : SolverResourceEvidence) : Except String Unit := do
  require (status.positive → witness.isSome) "Positive Result requires a witness."
  require (status.negative → witness = none) "Negative Result cannot contain a witness."
  require (status = .feasible ∨ status = .bounded ∨ status = .optimal → objective.isSome)
    "Optimization Result requires an objective value."
  require (status = .satisfiable ∨ status = .unsatisfiable → objective = none ∧ interval = none)
    "Feasibility Result cannot contain objective evidence."
  require (status = .bounded → interval.isSome ∧ proof = .objectiveBound)
    "Bounded Result requires objective-bound evidence."
  require (status = .optimal → interval.any (fun i => i.lower = i.upper) ∧
    proof = .exhaustiveEnumeration) "Optimal Result requires exact exhaustive evidence."
  require (status.negative → proof = .exhaustiveEnumeration)
    "Negative Result requires exhaustive evidence."
  require (status = .satisfiable ∨ status = .feasible → proof = .witness)
    "Witness Result has an invalid proof disposition."
  require (status.incomplete → proof = .none) "Incomplete Result cannot claim proof."
  require (status.incomplete → diagnostic.isSome) "Incomplete Result requires a diagnostic code."
  require (¬ status.incomplete → diagnostic = none)
    "Complete Result cannot contain a diagnostic code."
  require (status = .unavailable → resources.solverCalls = 0 ∧ resources.solverSteps = 0)
    "Unavailable Result cannot report solver use."
  require (resources.terminationReason ∈ status.terminations)
    "Result status and termination reason are inconsistent."
  require (status.positive ∨ status.negative →
    resources.solverCalls = 1 ∧ resources.solverSteps ≠ 0)
    "Mathematical Result requires positive solver use."
  require (status.negative ∨ status = .optimal →
    resources.visitedAssignments = resources.searchSpaceSize ∧ resources.unvisitedAssignments = 0)
    "Exhaustive Result requires complete search accounting."
  require (status = .bounded ∨ status = .unknown → resources.solverCalls = 1 ∧
    resources.solverSteps = resources.stepLimit ∧ resources.unvisitedAssignments ≠ 0)
    "Step-limited Result has inconsistent accounting."
  require (status = .timeout → resources.solverCalls = 1 ∧ resources.unvisitedAssignments ≠ 0)
    "Timeout Result has inconsistent accounting."
  require (status ≠ .timeout → resources.elapsedMilliseconds = 0)
    "Non-timeout Result must use canonical zero elapsed evidence."
  require (status = .unavailable ∨ status = .error → resources.visitedAssignments = 0 ∧
    resources.constraintChecks = 0 ∧ resources.elapsedMilliseconds = 0)
    "Non-solve Result must report exact zero-use evidence."
  require (status = .error → resources.solverCalls = 1)
    "Controlled adapter error requires one solver call."
  require (∀ expected, status.diagnostic? = some expected → diagnostic = some expected)
    "Result diagnostic contradicts its status."
  require (status = .timeout → diagnostic = some resources.terminationReason.value)
    "Timeout diagnostic contradicts its termination reason."

/-- The closed vocabulary of diagnostics. -/
def diagnosticCodes : List String :=
  ["adapter-unavailable", "adapter-error", "request-timeout", "lease-deadline", "step-limit"]

/-- The contract of a result. -/
def resultContract (result : SolverResult) : Except String Unit := do
  forEach witnessContract result.witness.toList
  forEach (objectiveBound "content.objective_value") result.objectiveValue.toList
  forEach intervalContract result.objectiveInterval.toList
  require (∀ code ∈ result.diagnosticCode, code ∈ diagnosticCodes)
    "Result diagnostic code is unsupported."
  resourcesContract result.resources
  validateResultShape result.status result.witness result.objectiveValue result.objectiveInterval
    result.proofDisposition result.diagnosticCode result.resources
  patternText "content.adapter_version" 32 isVersion " is invalid." result.adapterVersion
  patternText "content.license_expression" 64 isLicense " is invalid." result.licenseExpression
  artifactReference S "content.request" result.request
  solverId "content.request_id" requestMark result.requestId
  solverId "content.contract_id" contractMark result.contractId
  candidateIdentity "content.candidate" result.candidate
  taskAuthority result.graphId result.taskId result.contextSnapshotId
  slugText "content.adapter_id" result.adapterId
  references S "content.provenance" 1 result.provenance
  leaseContract result.lease

/-! ## Verifications -/

/-- The contract of a verification. -/
def verificationContract (verification : SolverVerification) : Except String Unit := do
  arrayValue "content.checks" 64 verification.checks
  require (verification.checks ≠ []) "Verification checks must not be empty."
  forEachIndexed "content.checks" (fun field check => slugText (field ++ ".check_id") check.checkId)
    verification.checks
  require ((verification.checks.map (·.checkId)).Pairwise (· < ·))
    "Verification checks must be sorted and unique."
  arrayValue "content.reasons" 64 verification.reasons
  forEachIndexed "content.reasons" slugText verification.reasons
  require (verification.reasons.Pairwise (· < ·)) "content.reasons must be sorted and unique."
  require (verification.adoptionAllowed → verification.outcome = .verified ∧
    ∀ check ∈ verification.checks, check.passed)
    "Adoption requires all checks to be verified."
  artifactReference S "content.request" verification.request
  solverId "content.request_id" requestMark verification.requestId
  artifactReference S "content.result" verification.result
  solverId "content.result_id" resultMark verification.resultId
  solverId "content.contract_id" contractMark verification.contractId
  candidateIdentity "content.candidate" verification.candidate
  taskAuthority verification.graphId verification.taskId verification.contextSnapshotId
  leaseContract verification.lease
  integerValue "content.verification_steps" 0 maxSteps verification.verificationSteps

/-! ## Envelopes -/

/-- Give a value its identity once it meets its contract. -/
def artifactFromValue {α : Type} (contract : α → Except String Unit) (identity : α → String)
    (value : α) : Except String (LoadedSolverArtifact α) := do
  contract value
  return ⟨identity value, value⟩

end Sdaqf
