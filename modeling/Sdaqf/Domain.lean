import Mathlib.Data.Fintype.Pi
import Mathlib.Data.List.Induction
import Mathlib.Data.List.Sort
import Mathlib.Data.String.Basic
import Mathlib.Tactic.Linarith

/-!
# Scheduler domain contracts

The immutable values of the scheduler: the Task Graph, the task projections, leases, mailbox
messages, events, budget ledgers and worktree leases. Closed vocabularies are inductive types, and
the parts of a contract that tie one field to another are built in where the types allow it: the
direction of a message follows from its body, a task-bound message carries its whole task identity,
and the task and the after-state of an event are those of its projection.

Identifiers, digests and paths are strings. Instants are microseconds since the epoch.
-/

namespace Sdaqf

/-! ## References and candidates -/

/-- Repository-bounded artifact path and content digest. -/
structure ArtifactReference where
  path : String
  sha256 : String
deriving DecidableEq

/-- Immutable identity of one locally observed repository candidate. -/
structure CandidateIdentity where
  sourceSpecSha256 : String
  gitHead : String
  repositoryDigest : String
deriving DecidableEq

/-- Approved sensitivity levels in increasing order. -/
inductive Sensitivity
  | isPublic
  | repositoryPrivate
  | ownerPrivate
  | secretOrProhibited
deriving DecidableEq

/-- The position of a sensitivity level in its order. -/
def Sensitivity.rank : Sensitivity → Nat
  | .isPublic => 0
  | .repositoryPrivate => 1
  | .ownerPrivate => 2
  | .secretOrProhibited => 3

/-! ## Instants -/

/-- Microseconds since the epoch. -/
abbrev Timestamp := Nat

/-- Microseconds in one second. -/
def second : Nat := 1000000

/-- The canonical timestamp of an instant, which keeps whole seconds only. -/
def formatUtc (t : Timestamp) : Timestamp := t / second * second

/-- A timestamp moved forward by a number of seconds. -/
def addSeconds (t : Timestamp) (seconds : Nat) : Timestamp := t + seconds * second

/-- The textual order of two timestamps, with fractions written in full. A fraction sorts before the
closing `Z`, so only whole seconds are compared when the right-hand side has no fraction. -/
def textLe (s t : Timestamp) : Prop := s / second < t / second ∨
  (s / second = t / second ∧ (t % second = 0 ∨ (s % second ≠ 0 ∧ s ≤ t)))

instance (s t : Timestamp) : Decidable (textLe s t) := by
  unfold textLe
  infer_instance

/-! ## Closed vocabularies -/

inductive TaskKind
  | discovery | implementation | test | tool | review | integration | solver | handoff
deriving DecidableEq

/-- Normative task states. -/
inductive TaskState
  | planned | ready | running | blocked | verification | completed | rejected | superseded
deriving DecidableEq

/-- Host-dispatch phase orthogonal to the task state. -/
inductive DispatchPhase
  | notDispatched | intentPending | accepted | cancellationRequested | cancellationAcknowledged
deriving DecidableEq

/-- Terminal or ambiguous task outcome. -/
inductive TaskOutcome
  | none | succeeded | failed | cancelled | unknown
deriving DecidableEq

/-- Effect class used for the conservative retry policy. -/
inductive EffectKind
  | readOnly | localWrite | external | destructive
deriving DecidableEq

inductive MessageType
  | dispatchIntent | dispatchAcknowledgement | heartbeat | taskResult | cancelRequest
  | cancelAcknowledgement | worktreeRequest | worktreeObservation | approvalDecision
  | capabilityObservation
deriving DecidableEq

inductive MessageDirection
  | schedulerToHost | hostToScheduler | ownerToScheduler
deriving DecidableEq

inductive LeaseStatus
  | current | released | expired | rejected
deriving DecidableEq

inductive WorktreeLeaseStatus
  | requested | observed | integrated | released | blocked
deriving DecidableEq

/-- A worktree lease that still holds its path. -/
def WorktreeLeaseStatus.active (s : WorktreeLeaseStatus) : Bool :=
  s = .requested || s = .observed

inductive IntegrationState
  | notStarted | requested | verified | ambiguous
deriving DecidableEq

inductive ApprovalType
  | owner | technicalSandbox
deriving DecidableEq

inductive ApprovalVerdict
  | approved | rejected
deriving DecidableEq

/-- The effect a host observed when it answered a dispatch. -/
inductive DispatchEffect
  | none | possible | confirmed
deriving DecidableEq

/-- The effect a host observed at the end of an attempt. -/
inductive ObservedEffect
  | none | confirmed | ambiguous
deriving DecidableEq

inductive ResultOutcome
  | succeeded | failed | unknown
deriving DecidableEq

inductive WorktreeObservationState
  | created | unchanged | integrated | ambiguous
deriving DecidableEq

/-- The resources of a budget, in the order of their names. -/
inductive Resource
  | concurrency | contextBytes | dispatches | microunits | retries | solverCalls | solverSteps
  | toolCalls | wallTimeSeconds
deriving DecidableEq

/-- All resources, in the order of their names. -/
def Resource.all : List Resource :=
  [.concurrency, .contextBytes, .dispatches, .microunits, .retries, .solverCalls, .solverSteps,
    .toolCalls, .wallTimeSeconds]

theorem Resource.mem_all (r : Resource) : r ∈ Resource.all := by
  cases r <;> decide

instance : Fintype Resource := Fintype.ofList Resource.all Resource.mem_all

inductive Availability
  | available | notAvailable
deriving DecidableEq

/-- The closed vocabulary of event causes. -/
inductive EventCause
  | approvalConsumed | approvalProposalExpired | approvalReceived | cancelAcknowledgement
  | cancelRequest | capabilityObserved | dispatchAccepted | dispatchApprovalBlocked
  | dispatchBudgetBlocked | dispatchIntent | dispatchRejected | duplicateMessage | heartbeat
  | initialization | leaseExpired | messageRejected | readinessRefreshed | resultReceived
  | resultTerminal | verificationBlocked | verificationCompleted | wallTimeObserved
  | worktreeObserved | worktreeRequest
deriving DecidableEq

/-! ## The Task Graph -/

/-- Exact reference to one validated Context Snapshot. -/
structure ContextBinding where
  artifactId : String
  reference : ArtifactReference
  sensitivity : Sensitivity
  candidate : CandidateIdentity
deriving DecidableEq

/-- Hard integer scheduler resource limits. The cost is available exactly when it has a limit. -/
structure SchedulerBudget where
  maxAgents : Nat
  maxConcurrency : Nat
  maxReasoningEffort : String
  maxDispatches : Nat
  maxRetries : Nat
  maxWallTimeSeconds : Nat
  maxToolCalls : Nat
  maxContextBytesPerDispatch : Nat
  maxContextBytesTotal : Nat
  maxSolverCalls : Nat
  maxSolverSteps : Nat
  cost : Option (String × Nat)
deriving DecidableEq

/-- The status of the cost limit. -/
def SchedulerBudget.costStatus (b : SchedulerBudget) : Availability :=
  if b.cost.isSome then .available else .notAvailable

/-- The limit on cost, when there is one. -/
def SchedulerBudget.maxMicrounits (b : SchedulerBudget) : Option Nat := b.cost.map (·.2)

/-- One immutable Task Graph node. -/
structure SchedulerTask where
  taskId : String
  kind : TaskKind
  dependencies : List String
  roleId : String
  contextSnapshotId : String
  requiredTools : List String
  requiredCapabilities : List String
  ownedPaths : List String
  worktreeAssignment : Option String
  effectKind : EffectKind
  approvalStops : List ApprovalType
  evidencePredicate : List String
  reviewTargets : List String
  terminalPredicate : List String
  wave : Nat
  maxAttempts : Nat
deriving DecidableEq

/-- Validated immutable task DAG and all exact input references. -/
structure TaskGraph where
  candidate : CandidateIdentity
  agentRegistry : ArtifactReference
  toolRegistry : ArtifactReference
  orchestrationRequest : ArtifactReference
  worktreePlan : Option ArtifactReference
  contexts : List ContextBinding
  budget : SchedulerBudget
  tasks : List SchedulerTask
deriving DecidableEq

/-- The node of a task. -/
def TaskGraph.task? (g : TaskGraph) (taskId : String) : Option SchedulerTask :=
  g.tasks.find? (·.taskId = taskId)

/-- The Context Snapshot bound to a task. -/
def TaskGraph.binding? (g : TaskGraph) (task : SchedulerTask) : Option ContextBinding :=
  g.contexts.find? (·.artifactId = task.contextSnapshotId)

/-- Longest-dependency rank of a task. The first argument bounds the length of a dependency chain;
the number of tasks is enough for an acyclic graph. -/
def TaskGraph.rank (g : TaskGraph) : Nat → String → Nat
  | 0, _ => 0
  | fuel + 1, taskId =>
    match g.task? taskId with
    | some task =>
      if task.dependencies = [] then 0
      else 1 + (task.dependencies.map (g.rank fuel)).foldl max 0
    | none => 0

/-- Deterministic longest-dependency ranks for ready ordering. -/
def TaskGraph.topologicalRank (g : TaskGraph) (taskId : String) : Nat :=
  g.rank g.tasks.length taskId

/-! ## Projections -/

/-- One deterministic task blocker. -/
structure Blocker where
  code : String
  references : List String
deriving DecidableEq

/-- Current durable projection for one task. -/
structure TaskProjection where
  taskId : String
  state : TaskState
  dispatchPhase : DispatchPhase
  outcome : TaskOutcome
  attempt : Nat
  fence : Nat
  blockers : List Blocker
deriving DecidableEq

/-- The projection a task starts from. -/
def SchedulerTask.initialProjection (task : SchedulerTask) : TaskProjection where
  taskId := task.taskId
  state := if task.dependencies = [] then .ready else .planned
  dispatchPhase := .notDispatched
  outcome := .none
  attempt := 0
  fence := 0
  blockers := []

/-! ## Leases -/

/-- Fenced single-owner task lease. -/
structure Lease where
  graphId : String
  taskId : String
  candidate : CandidateIdentity
  contextSnapshotId : String
  attempt : Nat
  ownerId : String
  fence : Nat
  idempotencyKey : String
  acquiredAt : Timestamp
  heartbeatAt : Timestamp
  expiresAt : Timestamp
  ttlSeconds : Nat
  heartbeatIntervalSeconds : Nat
  status : LeaseStatus
  releaseOutcome : TaskOutcome
deriving DecidableEq

/-- Durable host-observed worktree authority record. -/
structure WorktreeLease where
  graphId : String
  taskId : String
  worktreePlan : ArtifactReference
  baseCommit : String
  worktree : String
  ownerId : String
  ownedPaths : List String
  fence : Nat
  observedDigest : Option String
  status : WorktreeLeaseStatus
  integrationState : IntegrationState
  ambiguous : Bool
  recoveryGuidance : String
deriving DecidableEq

/-! ## Mailbox messages -/

/-- The budget one dispatch reserves. -/
structure BudgetReservation where
  contextBytes : Nat
  microunits : Nat
  solverCalls : Nat
  solverSteps : Nat
  toolCalls : Nat
deriving DecidableEq

/-- The budget one result reports as used. -/
structure BudgetUsage where
  microunits : Nat
  solverCalls : Nat
  solverSteps : Nat
  toolCalls : Nat
deriving DecidableEq

structure DispatchIntentPayload where
  effectDigest : String
  leaseTtlSeconds : Nat
  heartbeatIntervalSeconds : Nat
  requiredCapabilities : List String
  requiredTools : List String
  contextBytes : Nat
  budgetReservation : BudgetReservation
deriving DecidableEq

structure TaskResultPayload where
  agentResult : ArtifactReference
  outcome : ResultOutcome
  effectObserved : ObservedEffect
  evidenceRefs : List ArtifactReference
  budgetUsage : BudgetUsage
deriving DecidableEq

structure ApprovalPayload where
  approvalId : String
  approvalType : ApprovalType
  decision : ApprovalVerdict
  transition : String
  effectDigest : String
  approvedAt : Timestamp
  expiresAt : Timestamp
  authority : String
  supersedesApprovalId : Option String
deriving DecidableEq

/-- The payload of a task-bound message, one constructor for each type. -/
inductive TaskPayload
  | dispatchIntent (payload : DispatchIntentPayload)
  | dispatchAcknowledgement (accepted : Bool) (effectObserved : DispatchEffect)
      (note : Option String)
  | heartbeat (progress : String)
  | taskResult (payload : TaskResultPayload)
  | cancelRequest (reason : String)
  | cancelAcknowledgement (cancelled : Bool) (effectObserved : ObservedEffect)
  | worktreeRequest (worktree : String) (ownedPaths : List String)
  | worktreeObservation (worktree : String) (observedDigest : Option String)
      (state : WorktreeObservationState)
  | approvalDecision (payload : ApprovalPayload)
deriving DecidableEq

def TaskPayload.messageType : TaskPayload → MessageType
  | .dispatchIntent .. => .dispatchIntent
  | .dispatchAcknowledgement .. => .dispatchAcknowledgement
  | .heartbeat .. => .heartbeat
  | .taskResult .. => .taskResult
  | .cancelRequest .. => .cancelRequest
  | .cancelAcknowledgement .. => .cancelAcknowledgement
  | .worktreeRequest .. => .worktreeRequest
  | .worktreeObservation .. => .worktreeObservation
  | .approvalDecision .. => .approvalDecision

/-- The complete identity of the attempt a task-bound message speaks about. -/
structure TaskIdentity where
  taskId : String
  contextSnapshotId : String
  attempt : Nat
  leaseId : String
  fence : Nat
  idempotencyKey : String
deriving DecidableEq

/-- What a message is about: an observation of the capabilities of a host, which names no task, or
a payload together with the whole identity of one attempt. -/
inductive MessageBody
  | capabilityObservation (capabilities : List String)
  | task (identity : TaskIdentity) (payload : TaskPayload)
deriving DecidableEq

/-- One immutable typed scheduler mailbox message. -/
structure MailboxMessage where
  sender : String
  recipient : String
  graphId : String
  candidate : CandidateIdentity
  sensitivity : Sensitivity
  provenance : List ArtifactReference
  causalParentMessageIds : List String
  recordedAt : Timestamp
  body : MessageBody
deriving DecidableEq

namespace MailboxMessage

variable (m : MailboxMessage)

def messageType : MessageType :=
  match m.body with
  | .capabilityObservation _ => .capabilityObservation
  | .task _ payload => payload.messageType

/-- The one direction the type of a message allows. -/
def direction : MessageDirection :=
  match m.messageType with
  | .dispatchIntent => .schedulerToHost
  | .cancelRequest => .schedulerToHost
  | .worktreeRequest => .schedulerToHost
  | .approvalDecision => .ownerToScheduler
  | _ => .hostToScheduler

def identity? : Option TaskIdentity :=
  match m.body with
  | .capabilityObservation _ => none
  | .task identity _ => some identity

def taskId? : Option String := m.identity?.map (·.taskId)

def contextSnapshotId? : Option String := m.identity?.map (·.contextSnapshotId)

def attempt? : Option Nat := m.identity?.map (·.attempt)

def leaseId? : Option String := m.identity?.map (·.leaseId)

def fence? : Option Nat := m.identity?.map (·.fence)

def idempotencyKey? : Option String := m.identity?.map (·.idempotencyKey)

def approval? : Option ApprovalPayload :=
  match m.body with
  | .task _ (.approvalDecision payload) => some payload
  | _ => none

def dispatch? : Option DispatchIntentPayload :=
  match m.body with
  | .task _ (.dispatchIntent payload) => some payload
  | _ => none

def result? : Option TaskResultPayload :=
  match m.body with
  | .task _ (.taskResult payload) => some payload
  | _ => none

def capabilities? : Option (List String) :=
  match m.body with
  | .capabilityObservation capabilities => some capabilities
  | .task .. => none

end MailboxMessage

/-- The only sender and authority an approval of each type can have. -/
def approvalActor : ApprovalType → String × String
  | .owner => ("HST-OWNER", "Owner")
  | .technicalSandbox => ("HST-TECHNICAL-SANDBOX", "Technical sandbox reviewer")

/-! ## Events and ledgers -/

/-- The exact changes of an event to the budget: no entry for a resource it does not name. -/
abbrev BudgetDeltas := Resource → Option Int

/-- An amount for every resource. -/
abbrev Amounts := Resource → Int

/-- One append-only hash-chained scheduler transition. The task and the after-state of the event are
those of its projection. -/
structure SchedulerEvent where
  sequence : Nat
  previousEventSha256 : String
  actor : String
  cause : EventCause
  graphId : String
  candidate : CandidateIdentity
  contextSnapshotId : Option String
  beforeState : Option TaskState
  leaseId : Option String
  messageId : Option String
  resultId : Option String
  approvalId : Option String
  budgetDeltas : BudgetDeltas
  taskProjection : Option TaskProjection
  reason : Option String
  recordedAt : Timestamp
deriving DecidableEq

def SchedulerEvent.taskId (e : SchedulerEvent) : Option String := e.taskProjection.map (·.taskId)

def SchedulerEvent.afterState (e : SchedulerEvent) : Option TaskState :=
  e.taskProjection.map (·.state)

/-- Transactional reservation and usage projection. -/
@[ext] structure BudgetLedger where
  graphId : String
  limits : SchedulerBudget
  reserved : Amounts
  used : Amounts
  availability : Resource → Availability
  blockerCodes : List String
  eventSequence : Nat

-- The amounts are functions, so the derived instance would not evaluate.
instance : DecidableEq BudgetLedger := fun _ _ => decidable_of_iff _ BudgetLedger.ext_iff.symm

/-- Deterministic bounded public projection of one scheduler database. -/
structure SchedulerState where
  graphId : String
  candidate : CandidateIdentity
  tasks : List TaskProjection
  readyOrder : List String
  leaseIds : List String
  messageIds : List String
  budgetLedgerId : String
  worktreeLeaseIds : List String
  eventSequence : Nat
  eventHeadSha256 : String
deriving DecidableEq

/-- Exact scheduler authority presented to the verifier of a solver result. -/
structure SolverLeaseEvidence where
  graphId : String
  taskId : String
  hostId : String
  attempt : Nat
  leaseId : String
  fence : Nat
  idempotencyKey : String
  dispatchMessageId : String
  expiresAt : Timestamp
  reservedSolverCalls : Nat
  reservedSolverSteps : Nat
deriving DecidableEq

end Sdaqf
