import Mathlib.Data.List.Lex
import Sdaqf.Domain
import Sdaqf.Enumeration

/-!
# Solver domain contracts

The immutable values of the solver: the finite-domain problem with its five kinds of constraint, the
request that binds it to a task, the result of one solve with its evidence, and the verification of
a result. Integers are exact.
-/

namespace Sdaqf

/-! ## Closed vocabularies -/

/-- Supported adapter boundaries. -/
inductive SolverAdapterKind
  | reference | externalCli
deriving DecidableEq

inductive SolverProblemKind
  | feasibility | optimization
deriving DecidableEq

/-- Profiles that add closed validation rules to a finite-domain problem. -/
inductive SolverProblemProfile
  | general | booleanSat | finiteScheduling
deriving DecidableEq

/-- Exact integer comparison. -/
inductive LinearRelation
  | eq | ne | lt | le | gt | ge
deriving DecidableEq

inductive TableMode
  | allowed | forbidden
deriving DecidableEq

inductive ObjectiveDirection
  | minimize | maximize
deriving DecidableEq

/-- Strength of result required for scheduler adoption. -/
inductive SolverRequiredClaim
  | decision | feasible | bounded | optimal
deriving DecidableEq

inductive SolverResultStatus
  | satisfiable | unsatisfiable | feasible | infeasible | optimal | bounded | timeout | unavailable
  | unknown | error
deriving DecidableEq

/-- Evidence strength represented by one result. -/
inductive SolverProofDisposition
  | none | witness | objectiveBound | exhaustiveEnumeration
deriving DecidableEq

/-- Why the adapter stopped. -/
inductive SolverTerminationReason
  | witnessFound | searchExhausted | stepLimit | requestTimeout | leaseDeadline
  | adapterUnavailable | adapterError
deriving DecidableEq

/-- The text of a termination reason. -/
def SolverTerminationReason.value : SolverTerminationReason → String
  | .witnessFound => "witness-found"
  | .searchExhausted => "search-exhausted"
  | .stepLimit => "step-limit"
  | .requestTimeout => "request-timeout"
  | .leaseDeadline => "lease-deadline"
  | .adapterUnavailable => "adapter-unavailable"
  | .adapterError => "adapter-error"

/-- The text of a result status. -/
def SolverResultStatus.value : SolverResultStatus → String
  | .satisfiable => "satisfiable"
  | .unsatisfiable => "unsatisfiable"
  | .feasible => "feasible"
  | .infeasible => "infeasible"
  | .optimal => "optimal"
  | .bounded => "bounded"
  | .timeout => "timeout"
  | .unavailable => "unavailable"
  | .unknown => "unknown"
  | .error => "error"

/-- Independent verification conclusion. -/
inductive SolverVerificationOutcome
  | verified | rejected | inconclusive
deriving DecidableEq

/-! ## Problems -/

/-- One exact finite integer domain: listed values, or a range with both ends. -/
inductive IntegerDomain
  | integerSet (values : List Int)
  | integerRange (lower upper : Int)
deriving DecidableEq

/-- The values of a domain in increasing order. -/
def IntegerDomain.values : IntegerDomain → List Int
  | .integerSet values => values
  | .integerRange lower upper =>
    (List.range (upper - lower + 1).toNat).map fun i : Nat => lower + (i : Int)

structure SolverVariable where
  variableId : String
  domain : IntegerDomain
deriving DecidableEq

structure LinearTerm where
  variableId : String
  coefficient : Int
deriving DecidableEq

structure ClauseLiteral where
  variableId : String
  equals : Int
deriving DecidableEq

/-- One constraint, with one constructor for each kind. -/
inductive SolverConstraint
  | linear (constraintId : String) (terms : List LinearTerm) (relation : LinearRelation)
      (rightHandSide : Int)
  | allDifferent (constraintId : String) (variableIds : List String)
  | table (constraintId : String) (variableIds : List String) (mode : TableMode)
      (rows : List (List Int))
  | clause (constraintId : String) (literals : List ClauseLiteral)
  | nonOverlap (constraintId leftStart : String) (leftDuration : Int) (rightStart : String)
      (rightDuration : Int)
deriving DecidableEq

def SolverConstraint.constraintId : SolverConstraint → String
  | .linear constraintId .. => constraintId
  | .allDifferent constraintId .. => constraintId
  | .table constraintId .. => constraintId
  | .clause constraintId .. => constraintId
  | .nonOverlap constraintId .. => constraintId

/-- The variables a constraint reads. -/
def SolverConstraint.reads : SolverConstraint → List String
  | .linear _ terms _ _ => terms.map (·.variableId)
  | .allDifferent _ variableIds => variableIds
  | .table _ variableIds _ _ => variableIds
  | .clause _ literals => literals.map (·.variableId)
  | .nonOverlap _ leftStart _ rightStart _ => [leftStart, rightStart]

structure SolverObjective where
  direction : ObjectiveDirection
  terms : List LinearTerm
  constant : Int
deriving DecidableEq

structure SolverProblem where
  problemKind : SolverProblemKind
  profile : SolverProblemProfile
  vars : List SolverVariable
  constraints : List SolverConstraint
  objective : Option SolverObjective
deriving DecidableEq

namespace SolverProblem

variable (problem : SolverProblem)

def variableIds : List String := problem.vars.map (·.variableId)

def domains : List (List Int) := problem.vars.map (·.domain.values)

/-- The assignments in the order of the enumeration. -/
def assignments : List (List Int) := Enumeration.product problem.domains

end SolverProblem

/-- Return the already-bounded Cartesian assignment count. -/
def searchSpaceSize (problem : SolverProblem) : Nat :=
  (problem.vars.map fun v => v.domain.values.length).prod

/-! ## Requests and results -/

structure SolverResourcePolicy where
  maxSolveSteps : Nat
  maxVerificationSteps : Nat
  timeoutMilliseconds : Option Nat
  maxResultBytes : Nat
deriving DecidableEq

structure SolverRequest where
  sensitivity : Sensitivity
  registry : ArtifactReference
  registryId : String
  adapterId : String
  contractId : String
  taskGraph : ArtifactReference
  graphId : String
  taskId : String
  candidate : CandidateIdentity
  contextSnapshot : ArtifactReference
  contextSnapshotId : String
  problem : SolverProblem
  requiredClaim : SolverRequiredClaim
  resourcePolicy : SolverResourcePolicy
deriving DecidableEq

/-- What a solve and its verification read of an adapter. -/
structure SolverAdapterDefinition where
  adapterId : String
  adapterKind : SolverAdapterKind
  version : String
  licenseExpression : String
  provenance : List ArtifactReference
deriving DecidableEq

/-- The value a result gives to each variable. -/
structure SolverWitness where
  assignments : List (String × Int)
deriving DecidableEq

structure ObjectiveInterval where
  lower : Int
  upper : Int
deriving DecidableEq

structure SolverResourceEvidence where
  solverCalls : Nat
  solverSteps : Nat
  searchSpaceSize : Nat
  visitedAssignments : Nat
  unvisitedAssignments : Nat
  constraintChecks : Nat
  elapsedMilliseconds : Nat
  stepLimit : Nat
  timeoutMilliseconds : Option Nat
  terminationReason : SolverTerminationReason
deriving DecidableEq

structure SolverResult where
  sensitivity : Sensitivity
  request : ArtifactReference
  requestId : String
  contractId : String
  candidate : CandidateIdentity
  graphId : String
  taskId : String
  contextSnapshotId : String
  adapterId : String
  adapterVersion : String
  licenseExpression : String
  provenance : List ArtifactReference
  lease : SolverLeaseEvidence
  status : SolverResultStatus
  witness : Option SolverWitness
  objectiveValue : Option Int
  objectiveInterval : Option ObjectiveInterval
  proofDisposition : SolverProofDisposition
  resources : SolverResourceEvidence
  diagnosticCode : Option String
deriving DecidableEq

structure SolverVerificationCheck where
  checkId : String
  passed : Bool
deriving DecidableEq

structure SolverVerification where
  sensitivity : Sensitivity
  request : ArtifactReference
  requestId : String
  result : ArtifactReference
  resultId : String
  contractId : String
  candidate : CandidateIdentity
  graphId : String
  taskId : String
  contextSnapshotId : String
  lease : SolverLeaseEvidence
  outcome : SolverVerificationOutcome
  adoptionAllowed : Bool
  checks : List SolverVerificationCheck
  reasons : List String
  verificationSteps : Nat
deriving DecidableEq

/-- A solver artifact with its identity. -/
structure LoadedSolverArtifact (α : Type) where
  artifactId : String
  value : α
deriving DecidableEq

end Sdaqf
