import Sdaqf.Tick

/-!
# The vocabulary of event causes

The closed tables of the replay: the scope of each cause, the state transitions and projection
changes it allows, who may author it, and what evidence it may carry.
-/

namespace Sdaqf

/-- Whether an event speaks about a task. -/
inductive EventScope
  | task | graph | optionalTask
deriving DecidableEq

/-- A mutable field of a projection. -/
inductive ProjectionField
  | state | dispatchPhase | outcome | attempt | fence | blockers
deriving DecidableEq

/-- A field, when it changed. -/
def changedField (same : Prop) [Decidable same] (field : ProjectionField) : List ProjectionField :=
  if same then [] else [field]

/-- The exact mutable projection fields changed by one event. -/
def projectionChanges (before after : TaskProjection) : List ProjectionField :=
  changedField (before.state = after.state) .state ++
    changedField (before.dispatchPhase = after.dispatchPhase) .dispatchPhase ++
    changedField (before.outcome = after.outcome) .outcome ++
    changedField (before.attempt = after.attempt) .attempt ++
    changedField (before.fence = after.fence) .fence ++
    changedField (before.blockers = after.blockers) .blockers

namespace EventCause

def scope : EventCause → EventScope
  | .capabilityObserved => .graph
  | .initialization => .graph
  | .wallTimeObserved => .graph
  | .duplicateMessage => .optionalTask
  | .messageRejected => .optionalTask
  | _ => .task

/-- A state the readiness pass may write. -/
def readinessState (s : TaskState) : Bool := s = .planned || s = .ready || s = .blocked

/-- The before-states and after-states of an event about a running task. -/
def runningTo (after : List TaskState) : List (TaskState × TaskState) :=
  after.map fun s => (.running, s)

/-- The transitions of a cause that records its before-state. -/
def transitions : EventCause → List (TaskState × TaskState)
  | .approvalConsumed => [(.ready, .ready), (.running, .running)]
  | .approvalProposalExpired => [(.blocked, .ready), (.running, .ready)]
  | .cancelAcknowledgement => runningTo [.blocked, .superseded]
  | .cancelRequest => runningTo [.running]
  | .dispatchAccepted => runningTo [.running]
  | .dispatchApprovalBlocked => [(.ready, .blocked), (.running, .running)]
  | .dispatchBudgetBlocked => (.ready, .blocked) :: runningTo [.blocked, .running]
  | .dispatchIntent => [(.ready, .running), (.running, .running)]
  | .dispatchRejected => runningTo [.blocked, .ready]
  | .heartbeat => runningTo [.running]
  | .leaseExpired => runningTo [.blocked, .ready]
  | .resultReceived => runningTo [.verification]
  | .resultTerminal => runningTo [.blocked, .ready, .rejected]
  | .verificationBlocked => [(.verification, .blocked)]
  | .verificationCompleted => [(.verification, .completed)]
  | .worktreeObserved => runningTo [.blocked, .running]
  | .worktreeRequest => [(.ready, .running)]
  | _ => []

/-- A cause whose events leave every projection as it is and record no before-state. -/
def audits : EventCause → Bool
  | .approvalReceived | .duplicateMessage | .messageRejected => true
  | _ => false

/-- The transition from the recorded before-state to the state of the projection is allowed. -/
def allows (c : EventCause) (before : Option TaskState) (after : TaskState) : Bool :=
  match before with
  | none => c.audits
  | some before =>
    if c = .readinessRefreshed then readinessState before && readinessState after
    else decide ((before, after) ∈ c.transitions)

/-- The projection fields a cause may change. -/
def mutable : EventCause → List ProjectionField
  | .approvalProposalExpired => [.state, .dispatchPhase, .attempt, .fence, .blockers]
  | .cancelAcknowledgement => [.state, .dispatchPhase, .outcome, .blockers]
  | .cancelRequest => [.dispatchPhase]
  | .dispatchAccepted => [.dispatchPhase]
  | .dispatchApprovalBlocked => [.state, .attempt, .fence, .blockers]
  | .dispatchBudgetBlocked => [.state, .dispatchPhase, .outcome, .blockers]
  | .dispatchIntent => [.state, .dispatchPhase, .outcome, .attempt, .fence, .blockers]
  | .dispatchRejected => [.state, .dispatchPhase, .outcome, .blockers]
  | .leaseExpired => [.state, .dispatchPhase, .outcome, .blockers]
  | .readinessRefreshed => [.state, .blockers]
  | .resultReceived => [.state, .dispatchPhase, .outcome, .blockers]
  | .resultTerminal => [.state, .dispatchPhase, .outcome, .blockers]
  | .verificationBlocked => [.state, .outcome, .blockers]
  | .verificationCompleted => [.state, .outcome, .blockers]
  | .worktreeObserved => [.state, .dispatchPhase, .outcome, .blockers]
  | .worktreeRequest => [.state, .outcome, .attempt, .fence, .blockers]
  | _ => []

/-- The scheduler itself is the only actor of these causes. -/
def schedulerActor : EventCause → Bool
  | .approvalConsumed | .approvalProposalExpired | .cancelRequest | .dispatchBudgetBlocked
  | .dispatchIntent | .duplicateMessage | .initialization | .leaseExpired | .messageRejected
  | .readinessRefreshed | .verificationBlocked | .verificationCompleted | .wallTimeObserved
  | .worktreeRequest => true
  | _ => false

/-- These causes may produce lease history, apart from the results. -/
def leaseHistoryOutput : EventCause → Bool
  | .approvalProposalExpired | .cancelAcknowledgement | .dispatchApprovalBlocked
  | .dispatchIntent | .dispatchRejected | .heartbeat | .leaseExpired | .worktreeObserved
  | .worktreeRequest => true
  | _ => false

/-- These causes may produce worktree history. -/
def worktreeHistoryOutput : EventCause → Bool
  | .approvalProposalExpired | .cancelAcknowledgement | .dispatchRejected | .leaseExpired
  | .resultReceived | .resultTerminal | .worktreeObserved | .worktreeRequest => true
  | _ => false

/-- These causes may change the budget. -/
def budget : EventCause → Bool
  | .cancelAcknowledgement | .dispatchAccepted | .dispatchBudgetBlocked | .dispatchIntent
  | .dispatchRejected | .leaseExpired | .resultReceived | .resultTerminal | .wallTimeObserved
  | .worktreeObserved | .worktreeRequest => true
  | _ => false

/-- These causes may give a reason. -/
def reasoned : EventCause → Bool
  | .approvalProposalExpired | .cancelAcknowledgement | .dispatchApprovalBlocked
  | .dispatchBudgetBlocked | .dispatchRejected | .duplicateMessage | .leaseExpired | .initialization
  | .messageRejected | .readinessRefreshed | .resultTerminal | .verificationBlocked
  | .worktreeObserved => true
  | _ => false

/-- These causes name a result. -/
def result : EventCause → Bool
  | .resultReceived | .resultTerminal | .verificationBlocked | .verificationCompleted => true
  | _ => false

/-- These causes name an approval. -/
def approval : EventCause → Bool
  | .approvalConsumed | .approvalReceived => true
  | _ => false

/-- These causes address the host. -/
def egress : EventCause → Bool
  | .cancelRequest | .dispatchIntent | .worktreeRequest => true
  | _ => false

/-- These causes take or reuse a lease for a dispatch. -/
def takesLease : EventCause → Bool
  | .dispatchApprovalBlocked | .dispatchIntent | .worktreeRequest => true
  | _ => false

/-- These causes open the attempt of a lease. -/
def activates (c : EventCause) : Bool := c = .dispatchIntent || c = .worktreeRequest

end EventCause

/-- The message type a message of each type must answer. -/
def MessageType.causalParent : MessageType → Option MessageType
  | .dispatchAcknowledgement => some .dispatchIntent
  | .heartbeat => some .dispatchIntent
  | .taskResult => some .dispatchIntent
  | .cancelAcknowledgement => some .cancelRequest
  | .worktreeObservation => some .worktreeRequest
  | _ => none

end Sdaqf
