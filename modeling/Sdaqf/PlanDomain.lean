import Sdaqf.Domain

/-!
# Workflow integration domain contracts

The immutable values of the integration layer: the Integrated Plan with its tasks, decisions and
protected effects, the observations adopted from accepted results, and the Workflow State that
projects the scheduler and these observations. The parts of a predecessor come together, so they
are one optional value.
-/

namespace Sdaqf

/-! ## Closed vocabularies -/

/-- Closed completion predicates selected by untrusted Development Intent. -/
inductive CompletionProfile
  | planOnly | implementationVerified | independentReviewAccepted | releaseCandidateReady
deriving DecidableEq

/-- The gates a completion profile requires. -/
def CompletionProfile.requiredGates : CompletionProfile → List String
  | .planOnly => ["G1"]
  | .implementationVerified => ["G1", "G2"]
  | .independentReviewAccepted => ["G1", "G2", "G3"]
  | .releaseCandidateReady => ["G1", "G2", "G3", "G4"]

/-- Auditable planner decision classes. -/
inductive WorkflowDecisionKind
  | selected | excluded | uncertainty
deriving DecidableEq

def WorkflowDecisionKind.value : WorkflowDecisionKind → String
  | .selected => "selected"
  | .excluded => "excluded"
  | .uncertainty => "uncertainty"

/-- Closed integration transition causes. -/
inductive WorkflowEventCause
  | planAdopted | runtimeStarted | contextRevalidated | schedulerAdvanced | approvalBlocked
  | approvalRevalidated | solverRevalidated | evidenceRevalidated | reviewRevalidated
  | gateEvaluated | ambiguityRecorded | recoveryObserved | planSuperseded | handoffRevalidated
  | outcomeProduced
deriving DecidableEq

/-- Truthful Outcome dispositions that cannot upgrade native evidence. -/
inductive WorkflowDisposition
  | completed | blocked | rejected | superseded
deriving DecidableEq

/-- Availability of one exact measurement. -/
inductive MeasurementStatus
  | observed | notAvailable
deriving DecidableEq

/-- Native gate observation states. -/
inductive GateStatus
  | pass | fail | notVerified
deriving DecidableEq

def selectedReasonCodes : List String :=
  ["required-by-intent", "required-by-requirement", "required-dependency", "required-context",
    "review-separation", "gate-prerequisite", "solver-justified", "handoff-required"]

def excludedReasonCodes : List String :=
  ["outside-allowed-scope", "inside-prohibited-scope", "unsupported-capability",
    "budget-exceeded", "approval-not-authority", "evidence-unavailable", "solver-not-justified",
    "ui-not-applicable", "optional-context-not-selected"]

def uncertaintyReasonCodes : List String :=
  ["open-decision", "blocking-diagnostic", "unresolved-contradiction", "stale-context",
    "cost-not-available", "capability-not-observed", "external-effect-ambiguous"]

/-- The reason codes a decision of each kind may give. -/
def WorkflowDecisionKind.reasonCodes : WorkflowDecisionKind → List String
  | .selected => selectedReasonCodes
  | .excluded => excludedReasonCodes
  | .uncertainty => uncertaintyReasonCodes

/-! ## The Integrated Plan -/

/-- Exact path, digest, identity, type, and requiredness of a native artifact. -/
structure NativeArtifactBinding where
  artifactType : String
  artifactId : String
  reference : ArtifactReference
  required : Bool
deriving DecidableEq

/-- One exact planner selection, exclusion, or uncertainty. -/
structure WorkflowDecision where
  subjectKind : String
  subjectId : String
  kind : WorkflowDecisionKind
  reasonCode : String
  references : List String
  blocking : Bool
deriving DecidableEq

/-- Protected native effect that needs fresh scheduler authority before host dispatch. -/
structure ProtectedEffect where
  effectId : String
  taskId : String
  effectKind : EffectKind
  targetPaths : List String
  networkDestinations : List String
  reversible : Bool
  ambiguousOnFailure : Bool
  approvalTypes : List String
  idempotencyScope : String
  effectDigest : String
deriving DecidableEq

/-- Validated deterministic projection of one native task. -/
structure IntegratedPlanTask where
  taskId : String
  phase : Nat
  topologicalRank : Nat
  wave : Nat
  taskKind : String
  dependencies : List String
  roleId : String
  contextSnapshotId : String
  requirementIds : List String
  acceptanceIds : List String
  contextNodeIds : List String
  solverRequestIds : List String
  effectKind : EffectKind
  approvalStops : List String
  evidencePredicates : List String
  terminalPredicates : List String
deriving DecidableEq

/-- The Plan, the State and the Outcome a plan succeeds, each with its exact binding. -/
structure PlanPredecessor where
  planId : String
  stateId : String
  outcomeId : String
  plan : NativeArtifactBinding
  state : NativeArtifactBinding
  outcome : NativeArtifactBinding
deriving DecidableEq

/-- Validated deterministic integration plan; never execution authority. -/
structure IntegratedPlan where
  intent : NativeArtifactBinding
  projectId : String
  candidate : CandidateIdentity
  sensitivity : Sensitivity
  completionProfile : CompletionProfile
  specification : ArtifactReference
  requirementBaselineId : String
  requirementBaseline : ArtifactReference
  contextGraph : NativeArtifactBinding
  contextQuery : NativeArtifactBinding
  contextSelection : NativeArtifactBinding
  contextSnapshot : NativeArtifactBinding
  taskGraph : NativeArtifactBinding
  solverRegistry : Option NativeArtifactBinding
  solverRequests : List NativeArtifactBinding
  tasks : List IntegratedPlanTask
  protectedEffects : List ProtectedEffect
  decisions : List WorkflowDecision
  budget : SchedulerBudget
  requiredGateIds : List String
  observationSlots : List String
  uiRequired : Bool
  predecessor : Option PlanPredecessor
deriving DecidableEq

/-- The decisions that block a plan. -/
def IntegratedPlan.blockingDecisions (plan : IntegratedPlan) : List WorkflowDecision :=
  plan.decisions.filter (·.blocking)

/-! ## The Workflow State -/

/-- Exact task status retained in one projection. -/
structure WorkflowTaskProjection where
  taskId : String
  state : TaskState
  outcome : TaskOutcome
  attempt : Nat
  fence : Nat
  blockerCodes : List String
deriving DecidableEq

/-- Recomputed observation of an existing gate authority. -/
structure GateObservation where
  gateId : String
  status : GateStatus
  evidenceIds : List String
  blockerCodes : List String
deriving DecidableEq

/-- One exact blocker retained through state, recovery, and outcome. -/
structure WorkflowBlocker where
  code : String
  references : List String
deriving DecidableEq

/-- The value of a measurement: a number, or a text. -/
inductive MeasuredValue
  | number (value : Nat)
  | text (value : String)
deriving DecidableEq

/-- One named measurement with explicit availability and native sources. -/
structure WorkflowMeasurement where
  name : String
  status : MeasurementStatus
  value : Option MeasuredValue
  unit : Option String
  sourceIds : List String
deriving DecidableEq

/-- A handoff that was observed, with its status. -/
structure HandoffObservation where
  handoffId : String
  status : String
deriving DecidableEq

/-- Reproducible projection over native stores and immutable evidence. The latest event is the last
of the chain. -/
structure WorkflowState where
  planId : String
  candidate : CandidateIdentity
  sensitivity : Sensitivity
  status : TaskState
  schedulerGraphId : String
  schedulerStateId : String
  schedulerEventSequence : Nat
  schedulerEventHeadSha256 : String
  tasks : List WorkflowTaskProjection
  solverVerificationIds : List String
  evidenceIds : List String
  reviewIds : List String
  approvalIds : List String
  gates : List GateObservation
  handoffId : Option String
  handoffStatus : Option String
  blockers : List WorkflowBlocker
  ambiguities : List String
  measurements : List WorkflowMeasurement
  observationArtifacts : List NativeArtifactBinding
  eventChain : List NativeArtifactBinding
  latestEvent : NativeArtifactBinding
  transitionCount : Nat
  recordedAt : Timestamp
deriving DecidableEq

end Sdaqf
