import Sdaqf.Replay

/-!
# Judging one event

`validateEventSemantics` judges one entry of the log against the entries before it. It checks the
shape every event must have, finds the message the event speaks about, checks its causal parent and
its lease authority, and then reproduces the outcome of the cause. Each cause has its own check.
-/

namespace Sdaqf

open Guard Store

variable (E : Environment) (ev : Evidence)

/-! ## Causes other than results -/

/-- The projection of an event is the expected one. -/
def requireProjection (projection expected : TaskProjection) : Except String Unit :=
  require (projection = expected)
    "Scheduler event projection does not match exact cause semantics."

def validateApprovalReceived (entry : Entry) (m : MailboxMessage)
    (prior projection : TaskProjection) : Except String Unit := do
  require (entry.event.beforeState = none ∧ entry.event.reason = none ∧
    m.direction = .ownerToScheduler ∧ m.recipient = "HST-SCHEDULER" ∧
    textLe m.recordedAt entry.event.recordedAt)
    "Approval receipt event semantics drifted."
  requireProjection projection prior

def validateApprovalConsumed (entry : Entry) (m : MailboxMessage)
    (prior projection : TaskProjection) : Except String Unit := do
  let payload ← fromOption m.approval? "Approval consumption evidence is missing."
  require (entry.event.beforeState = some prior.state ∧ entry.event.reason = none ∧
    payload.decision = .approved ∧ payload.transition = "dispatch" ∧
    payload.approvedAt ≤ entry.event.recordedAt ∧ entry.event.recordedAt < payload.expiresAt)
    "Approval consumption semantics drifted."
  requireProjection projection prior

def validateDuplicate (entry : Entry) (prior projection : TaskProjection) : Except String Unit := do
  require (entry.event.beforeState = none ∧ entry.event.reason = some "duplicate-message-retained")
    "Duplicate-message audit semantics drifted."
  requireProjection projection prior

def validateRejection (entry : Entry) (prior projection : TaskProjection) : Except String Unit := do
  require (entry.event.beforeState = none ∧ entry.event.reason ≠ none)
    "Message rejection audit semantics drifted."
  requireProjection projection prior

def validateCancelRequested (entry : Entry) (prior projection : TaskProjection) :
    Except String Unit := do
  require (prior.state = .running ∧ entry.event.reason = none)
    "Cancellation request semantics drifted."
  requireProjection projection { prior with dispatchPhase := .cancellationRequested }

def validateDispatchAccepted (entry : Entry) (m : MailboxMessage)
    (prior projection : TaskProjection) : Except String Unit := do
  let accepted : Bool :=
    match m.body with
    | .task _ (.dispatchAcknowledgement accepted _ _) => accepted
    | _ => false
  require (accepted = true ∧ prior.state = .running ∧ prior.dispatchPhase = .intentPending ∧
    entry.event.reason = none)
    "Dispatch acknowledgement does not prove exact acceptance."
  requireProjection projection { prior with dispatchPhase := .accepted }

/-- The projection at the end of an attempt. -/
def endedProjection (prior : TaskProjection) (ending : Ending) : TaskProjection :=
  { prior with
    state := ending.state
    dispatchPhase := ending.phase
    outcome := ending.outcome
    blockers := blockers ending.reason [] }

/-- A retry is safe and left in the budget at an event. -/
def retryLeft (pre : List Entry) (task : SchedulerTask) (prior : TaskProjection) : Prop :=
  task.effectKind = .readOnly ∧ prior.attempt < task.maxAttempts ∧
    retryUsage pre < ev.graph.budget.maxRetries

instance {pre : List Entry} {task : SchedulerTask} {prior : TaskProjection} :
    Decidable (retryLeft ev pre task prior) := by
  unfold retryLeft
  infer_instance

def validateDispatchRejected (pre : List Entry) (task : SchedulerTask) (entry : Entry)
    (m : MailboxMessage) (prior projection : TaskProjection) : Except String Unit := do
  let answer : Option DispatchEffect :=
    match m.body with
    | .task _ (.dispatchAcknowledgement false observed _) => some observed
    | _ => none
  let observed ← fromOption answer "Dispatch acknowledgement does not prove exact rejection."
  require (prior.state = .running ∧ prior.dispatchPhase = .intentPending)
    "Dispatch acknowledgement does not prove exact rejection."
  let ending : Ending :=
    if observed = .none ∧ retryLeft ev pre task prior then
      ⟨.ready, .notDispatched, .failed, "unambiguous-dispatch-rejection"⟩
    else ⟨.blocked, .notDispatched, .unknown, "dispatch-rejection-ambiguous"⟩
  requireProjection projection (endedProjection prior ending)
  require (entry.event.reason = some ending.reason) "Dispatch rejection policy reason drifted."
  validateExactLeaseRelease pre entry task.taskId ending.outcome true

def validateHeartbeat (pre : List Entry) (task : SchedulerTask) (entry : Entry)
    (prior projection : TaskProjection) : Except String Unit := do
  require (prior.state = .running ∧
    (prior.dispatchPhase = .intentPending ∨ prior.dispatchPhase = .accepted) ∧
    entry.event.reason = none)
    "Heartbeat event semantics drifted."
  requireProjection projection prior
  let lease ← priorLease pre task.taskId entry.event
  validateExactLeaseHistory entry task.taskId
    { lease with
      heartbeatAt := entry.event.recordedAt
      expiresAt := formatUtc (addSeconds entry.event.recordedAt ev.leaseTtlSeconds)
      status := .current
      releaseOutcome := .none }

def validateCancelAcknowledged (pre : List Entry) (task : SchedulerTask) (entry : Entry)
    (m : MailboxMessage) (prior projection : TaskProjection) : Except String Unit := do
  require (prior.state = .running ∧ prior.dispatchPhase = .cancellationRequested)
    "Cancellation acknowledgement semantics drifted."
  let exact : Bool :=
    match m.body with
    | .task _ (.cancelAcknowledgement true .none) => true
    | _ => false
  let ending : Ending :=
    if exact then
      ⟨.superseded, .cancellationAcknowledged, .cancelled, "cancellation-acknowledged"⟩
    else ⟨.blocked, .cancellationRequested, .unknown, "cancellation-ambiguous"⟩
  requireProjection projection (endedProjection prior ending)
  require (entry.event.reason = some ending.reason) "Cancellation acknowledgement reason drifted."
  validateExactLeaseRelease pre entry task.taskId ending.outcome true

def validateWorktreeObserved (pre : List Entry) (task : SchedulerTask) (entry : Entry)
    (m : MailboxMessage) (prior projection : TaskProjection) : Except String Unit := do
  let row ← priorLeaseRow pre task.taskId
  require (entry.event.leaseId = some row.authorityLeaseId)
    "Worktree observation authority is not the latest active Lease."
  let priorWorktree ← fromOption
    ((latestWorktreeRow pre task.taskId).filter (·.status.active))
    "Worktree observation authority has no current prior Worktree Lease."
  let request ← fromOption
    (causalParentMessage E ev ev.log m .worktreeRequest row.authorityLeaseId
      (some entry.event.sequence))
    "Worktree observation authority has no exact prior request."
  let verdict ← deriveExactWorktreeObservation entry.event.graphId ev.graph task prior
    row.authorityLeaseId row.lease priorWorktree m request entry.event.recordedAt
  if verdict.terminal then do
    requireProjection projection
      (endedProjection prior ⟨.blocked, .notDispatched, .unknown, verdict.reason.getD "None"⟩)
    validateExactLeaseRelease pre entry task.taskId .unknown false
  else do
    requireProjection projection prior
    requireNoLeaseHistory entry task.taskId
  require (entry.event.reason = verdict.reason) "Worktree observation reason drifted."
  validateExactWorktreeHistory entry verdict.worktree

def validateProposalExpired (pre : List Entry) (task : SchedulerTask) (entry : Entry)
    (prior projection : TaskProjection) : Except String Unit := do
  let lease ← priorLease pre task.taskId entry.event
  require (entry.event.reason = some "approval-proposal-expired" ∧
    lease.expiresAt ≤ entry.event.recordedAt ∧ activatedBefore E ev pre entry.event = false)
    "Approval proposal expiry semantics drifted."
  requireProjection projection
    { prior with
      state := .ready
      dispatchPhase := .notDispatched
      attempt := prior.attempt - 1
      fence := prior.fence - 1
      blockers := [] }
  validateExactLeaseRelease pre entry task.taskId .none true

def validateLeaseExpired (pre : List Entry) (task : SchedulerTask) (entry : Entry)
    (prior projection : TaskProjection) : Except String Unit := do
  let lease ← priorLease pre task.taskId entry.event
  let ending : Ending :=
    if retryLeft ev pre task prior then
      ⟨.ready, .notDispatched, .failed, "lease-expired-safe-retry"⟩
    else ⟨.blocked, .notDispatched, .unknown, "lease-expired-ambiguous"⟩
  require (entry.event.reason = some ending.reason ∧
    lease.expiresAt ≤ entry.event.recordedAt ∧ activatedBefore E ev pre entry.event = true)
    "Lease expiry semantics drifted."
  requireProjection projection (endedProjection prior ending)
  validateExactLeaseRelease pre entry task.taskId ending.outcome true

/-- The increment of attempt and fence of a task that takes a lease. -/
def takenProjection (prior : TaskProjection) (reused : Bool) (state : TaskState)
    (phase : DispatchPhase) (outcome : TaskOutcome) (blockers : List Blocker) : TaskProjection :=
  { prior with
    state := state
    dispatchPhase := phase
    outcome := outcome
    attempt := prior.attempt + (if reused then 0 else 1)
    fence := prior.fence + (if reused then 0 else 1)
    blockers := blockers }

def validateDispatchIntent (pre : List Entry) (task : SchedulerTask) (entry : Entry)
    (m : MailboxMessage) (prior projection : TaskProjection) : Except String Unit := do
  require (entry.event.reason = none) "Dispatch intent semantics drifted."
  match prior.state with
  | .ready => do
    let reused := reusesPriorLease pre task.taskId entry.event
    requireProjection projection (takenProjection prior reused .running .intentPending .none [])
    if reused then requireNoLeaseHistory entry task.taskId
    else validateExactLeaseAcquisition E ev task entry m
  | .running => do
    requireProjection projection
      { prior with dispatchPhase := .intentPending, outcome := .none, blockers := [] }
    requireNoLeaseHistory entry task.taskId
  | _ => .error "Dispatch intent prior state is not live-policy valid."

def validateWorktreeRequested (pre : List Entry) (task : SchedulerTask) (entry : Entry)
    (m : MailboxMessage) (prior projection : TaskProjection) : Except String Unit := do
  require (prior.state = .ready ∧ entry.event.reason = none)
    "Worktree request semantics drifted."
  let reused := reusesPriorLease pre task.taskId entry.event
  requireProjection projection (takenProjection prior reused .running .notDispatched .none [])
  if reused then requireNoLeaseHistory entry task.taskId
  else validateExactLeaseAcquisition E ev task entry m

def validateApprovalBlocked (pre : List Entry) (task : SchedulerTask) (entry : Entry)
    (prior projection : TaskProjection) : Except String Unit := do
  require (entry.event.reason = some "approval-required") "Approval blocker reason drifted."
  match prior.state with
  | .ready => do
    require (isHostId entry.event.actor) "Provisional Lease owner evidence is invalid."
    let reused := reusesPriorLease pre task.taskId entry.event
    requireProjection projection
      (takenProjection prior reused .blocked prior.dispatchPhase prior.outcome
        (blockers "approval-required" []))
    if reused then do
      let lease ← priorLease pre task.taskId entry.event
      require (lease.ownerId = entry.event.actor)
        "Reused provisional Lease owner evidence drifted."
      requireNoLeaseHistory entry task.taskId
    else validateProvisionalLeaseAcquisition E ev task entry projection
  | .running => do
    require (entry.event.actor = "scheduler")
      "Scheduler-authored approval blocker actor drifted."
    requireProjection projection { prior with blockers := blockers "approval-required" [] }
    requireNoLeaseHistory entry task.taskId
  | _ => .error "Approval blocker prior state drifted."
  let lease ← leaseAtOrBefore pre entry task.taskId
  require (approvalTypesBefore E ev pre task lease entry.event .approvalReceived ≠
    task.approvalStops)
    "Approval blocker has no missing approval."

def validateBudgetBlocked (entry : Entry) (prior projection : TaskProjection) :
    Except String Unit := do
  require (entry.event.reason = some "budget-exhausted") "Budget blocker reason drifted."
  match prior.state with
  | .ready =>
    requireProjection projection
      { prior with state := .blocked, blockers := blockers "budget-exhausted" [] }
  | .running =>
    requireProjection projection
      { prior with
        state := .running
        dispatchPhase := .notDispatched
        outcome := .none
        blockers := blockers "budget-exhausted" [] }
  | _ => .error "Budget blocker prior state drifted."

/-- Run a check on the message an event must have. -/
def withMessage (m : Option MailboxMessage) (missing : String)
    (check : MailboxMessage → Except String Unit) : Except String Unit := do
  let m ← fromOption m missing
  check m

/-- Reproduce the exact live-policy outcome of a non-result task event. -/
def validateNonResultCause (pre : List Entry) (task : SchedulerTask) (entry : Entry)
    (m : Option MailboxMessage) (prior projection : TaskProjection) : Except String Unit :=
  match entry.event.cause with
  | .approvalReceived =>
    withMessage m "Approval receipt evidence is missing."
      (validateApprovalReceived entry · prior projection)
  | .approvalConsumed =>
    withMessage m "Approval consumption evidence is missing."
      (validateApprovalConsumed entry · prior projection)
  | .duplicateMessage =>
    withMessage m "Duplicate-message evidence is missing."
      (fun _ => validateDuplicate entry prior projection)
  | .messageRejected => validateRejection entry prior projection
  | .cancelRequest => validateCancelRequested entry prior projection
  | .dispatchAccepted =>
    withMessage m "Dispatch acknowledgement is missing."
      (validateDispatchAccepted entry · prior projection)
  | .dispatchRejected =>
    withMessage m "Dispatch acknowledgement is missing."
      (validateDispatchRejected ev pre task entry · prior projection)
  | .heartbeat =>
    withMessage m "Heartbeat message evidence is missing."
      (fun _ => validateHeartbeat ev pre task entry prior projection)
  | .cancelAcknowledgement =>
    withMessage m "Cancellation acknowledgement evidence is missing."
      (validateCancelAcknowledged pre task entry · prior projection)
  | .worktreeObserved =>
    withMessage m "Worktree observation evidence is missing."
      (validateWorktreeObserved E ev pre task entry · prior projection)
  | .approvalProposalExpired => validateProposalExpired E ev pre task entry prior projection
  | .leaseExpired => validateLeaseExpired E ev pre task entry prior projection
  | .dispatchIntent =>
    withMessage m "Dispatch intent evidence is missing."
      (validateDispatchIntent E ev pre task entry · prior projection)
  | .worktreeRequest =>
    withMessage m "Worktree request evidence is missing."
      (validateWorktreeRequested E ev pre task entry · prior projection)
  | .dispatchApprovalBlocked => validateApprovalBlocked E ev pre task entry prior projection
  | .dispatchBudgetBlocked => validateBudgetBlocked entry prior projection
  | .readinessRefreshed => validateExactReadiness E ev pre task prior projection entry.event
  | _ => .ok ()

/-- Judge a non-result task event: its outcome, and that it wrote no lease unless its cause may. -/
def validateNonResultEvent (pre : List Entry) (task : SchedulerTask) (entry : Entry)
    (m : Option MailboxMessage) (prior projection : TaskProjection) : Except String Unit := do
  validateNonResultCause E ev pre task entry m prior projection
  if entry.event.cause.leaseHistoryOutput then .ok ()
  else requireNoLeaseHistory entry task.taskId

/-! ## Results and their verification -/

/-- The lease a solver result was produced under: the current lease when it still is the one of the
message, and otherwise the last row of its history. -/
def solverLease (currentLeases : Table CurrentLease) (m : MailboxMessage) :
    Except String Lease :=
  match m.identity? with
  | none => .error "Solver task result lacks Lease identity."
  | some identity =>
    match (currentLeases[identity.taskId]?).filter fun row =>
        decide (row.authorityLeaseId = identity.leaseId) with
    | some row => .ok row.lease
    | none => do
      let row ← fromOption (latestAuthorityRow ev.log identity.leaseId identity.taskId)
        "Solver Lease history is unavailable."
      return row.lease

/-- The result succeeded without an ambiguous effect. -/
def TaskResultPayload.successful (payload : TaskResultPayload) : Prop :=
  payload.outcome = .succeeded ∧ payload.effectObserved ≠ .ambiguous

instance {payload : TaskResultPayload} : Decidable payload.successful := by
  unfold TaskResultPayload.successful
  infer_instance

/-- How a result that is not a success ends its attempt. -/
def terminalEnding (pre : List Entry) (task : SchedulerTask) (prior : TaskProjection)
    (payload : TaskResultPayload) : Ending :=
  if payload.outcome = .failed ∧ payload.effectObserved = .none then
    if retryLeft ev pre task prior then
      ⟨.ready, .notDispatched, .failed, "safe-read-only-retry"⟩
    else ⟨.rejected, .notDispatched, .failed, "unambiguous-failure"⟩
  else ⟨.blocked, .notDispatched, .unknown, "ambiguous-external-effect"⟩

/-- Judge the event that ends an attempt with a result. -/
def validateResultEvent (currentLeases : Table CurrentLease) (pre : List Entry)
    (task : SchedulerTask) (entry : Entry) (m : MailboxMessage)
    (prior projection : TaskProjection) : Except String Unit := do
  require (entry.event.resultId = entry.event.messageId)
    "Scheduler result event evidence is incomplete."
  require (prior.dispatchPhase = .intentPending ∨ prior.dispatchPhase = .accepted)
    "Scheduler result lacks an authorized dispatch phase."
  validateTaskResultReference E ev task m (solverLease ev currentLeases m)
  let payload ← fromOption m.result? "Scheduler result event evidence is incomplete."
  if entry.event.cause = .resultReceived then do
    require (payload.successful ∧ projection.state = .verification ∧
      projection.dispatchPhase = .accepted ∧ projection.outcome = .succeeded ∧
      projection.blockers = [])
      "Accepted result event does not prove successful result semantics."
    validateExactLeaseRelease pre entry task.taskId .succeeded true
  else do
    require (¬ payload.successful) "Successful result was recorded as a terminal failure event."
    let ending := terminalEnding ev pre task prior payload
    require (entry.event.reason = some ending.reason ∧ projection.state = ending.state ∧
      projection.dispatchPhase = ending.phase ∧ projection.outcome = ending.outcome ∧
      projection.blockers = blockers ending.reason [])
      "Terminal result event does not match its exact result semantics."
    validateExactLeaseRelease pre entry task.taskId ending.outcome true

/-- The review targets of a task that are not completed before an event. -/
def incompleteReviewsBefore (pre : List Entry) (task : SchedulerTask) : List String :=
  task.reviewTargets.filter fun target =>
    decide ((projectionAt ev.graph pre target).map (·.state) ≠ some .completed)

/-- Judge the verification of a received result. -/
def validateVerificationEvent (pre : List Entry) (task : SchedulerTask) (entry : Entry)
    (projection : TaskProjection) : Except String Unit := do
  let resultId ← fromOption entry.event.resultId "Verification event evidence is incomplete."
  require (acceptedResult pre task.taskId = some resultId)
    "Verification event result was not accepted."
  let m ← fromOption (ev.message? E resultId) "Verification result message is unavailable."
  let payload ← fromOption m.result? "Verification result message is unavailable."
  require payload.successful "Verification event does not reference an accepted successful result."
  let incomplete := incompleteReviewsBefore ev pre task
  match verificationReason task payload.evidenceRefs incomplete, entry.event.cause with
  | none, .verificationCompleted =>
    require (projection.state = .completed ∧ projection.dispatchPhase = .accepted ∧
      projection.outcome = .succeeded ∧ projection.blockers = [])
      "Completed verification predicate or projection is unsatisfied."
  | some _, .verificationCompleted =>
    .error "Completed verification predicate or projection is unsatisfied."
  | some reason, _ =>
    require (entry.event.reason = some reason ∧ projection.state = .blocked ∧
      projection.dispatchPhase = .accepted ∧ projection.outcome = .unknown ∧
      projection.blockers = blockers reason incomplete)
      "Blocked verification reason is not replayable."
  | none, _ => .error "Blocked verification reason is not replayable."
  require (ownLeaseRows entry task.taskId = [])
    "Verification event has an unexpected Lease history artifact."

/-! ## The common shape of an event -/

/-- What an event may carry depends on its cause. -/
def validateEventShape (e : SchedulerEvent) : Except String Unit := do
  require (e.candidate = ev.graph.candidate) "Scheduler event candidate identity drifted."
  require (e.cause.schedulerActor = true → e.actor = "scheduler")
    "Scheduler-authored event actor drifted."
  require (e.cause.budget = false → e.budgetDeltas = BudgetDeltas.none)
    "Scheduler event contains forbidden budget deltas."
  require (e.cause.reasoned = false → e.reason = none)
    "Scheduler event contains a forbidden reason."
  require (e.cause.result = false → e.resultId = none)
    "Scheduler event contains a forbidden result identity."
  require (e.cause.approval = false → e.approvalId = none)
    "Scheduler event contains a forbidden approval identity."

/-- The event that creates the store names nothing but the lease policy. -/
def validateInitialize (e : SchedulerEvent) : Except String Unit :=
  require (e.sequence = 1 ∧ e.taskProjection = none ∧ e.contextSnapshotId = none ∧
    e.beforeState = none ∧ e.leaseId = none ∧ e.messageId = none ∧ e.resultId = none ∧
    e.approvalId = none ∧ e.reason ≠ none ∧ e.budgetDeltas = BudgetDeltas.none)
    "Scheduler initialization event is invalid."

/-- A graph-wide event names no task, and a task event names one. -/
def validateScope (e : SchedulerEvent) : Except String Unit := do
  require (e.cause.scope = .graph → e.taskProjection = none ∧ e.contextSnapshotId = none ∧
    e.beforeState = none ∧ e.leaseId = none ∧ e.resultId = none ∧ e.approvalId = none)
    "Graph-wide Scheduler event contains task authority."
  require (e.cause.scope = .task → e.taskProjection ≠ none)
    "Task-scoped Scheduler event is missing its task."

/-- The projection of a task event follows from the one before it by an allowed transition. -/
def validateTransition (e : SchedulerEvent) (task : SchedulerTask)
    (prior projection : TaskProjection) : Except String Unit := do
  require (e.contextSnapshotId = some task.contextSnapshotId)
    "Scheduler event Context identity drifted."
  require (e.beforeState = none ∨ e.beforeState = some prior.state)
    "Scheduler event before-state is not replayable."
  require (e.cause.allows e.beforeState projection.state = true)
    "Scheduler event transition is not allowed."
  require (∀ field ∈ projectionChanges prior projection, field ∈ e.cause.mutable)
    "Scheduler event projection mutation is not allowed."
  require (e.beforeState = none → projection = prior)
    "Scheduler audit event changed its task projection."
  require (e.cause.takesLease = true →
    (projection.attempt = prior.attempt ∧ projection.fence = prior.fence) ∨
      (projection.attempt = prior.attempt + 1 ∧ projection.fence = prior.fence + 1))
    "Scheduler dispatch identity increment is invalid."
  require (e.cause = .approvalProposalExpired →
    projection.attempt + 1 = prior.attempt ∧ projection.fence + 1 = prior.fence)
    "Expired proposal identity rollback is invalid."

/-- The message an event speaks about. -/
def causalMessage (e : SchedulerEvent) : Except String (Option MailboxMessage) :=
  match e.cause.messageType, e.cause with
  | some expected, _ => do
    let id ← fromOption e.messageId "Scheduler event causal message is missing."
    let m ← fromOption (ev.message? E id) "Scheduler event causal message is unavailable."
    require (m.messageType = expected) "Scheduler event causal message type drifted."
    require (e.taskId = m.taskId?) "Scheduler event causal task drifted."
    return some m
  | none, .duplicateMessage => do
    let id ← fromOption e.messageId "Duplicate event message identity is missing."
    let m ← fromOption (ev.message? E id) "Duplicate event message is unavailable."
    require (e.taskId = m.taskId?) "Duplicate event causal task drifted."
    return some m
  | none, .messageRejected => do
    let id ← fromOption e.messageId "Rejected event message identity is missing."
    require ((ev.message? E id).isNone) "Rejected event message was incorrectly adopted."
    return none
  | none, _ => do
    require (e.messageId = none) "Scheduler event contains a forbidden message identity."
    return none

/-- The identity of an event agrees with its message. -/
def validateMessageIdentity (e : SchedulerEvent) (m : MailboxMessage) : Except String Unit := do
  require (m.graphId = e.graphId ∧ m.candidate = e.candidate ∧ m.taskId? = e.taskId ∧
    (e.taskId ≠ none → m.contextSnapshotId? = e.contextSnapshotId))
    "Scheduler event causal identity drifted."
  require (e.cause.approval = false → e.leaseId = m.leaseId?)
    "Scheduler event causal Lease identity drifted."
  require (e.cause.schedulerActor = false → e.actor = m.sender)
    "Scheduler event causal actor or Lease authority drifted."

/-- An observation of capabilities is a plain public message. -/
def validateCapabilityObserved (e : SchedulerEvent) (m : MailboxMessage) : Except String Unit :=
  require (m.direction = .hostToScheduler ∧ m.recipient = "HST-SCHEDULER" ∧ m.identity? = none ∧
    m.sensitivity = .isPublic ∧ m.provenance = [] ∧ m.causalParentMessageIds = [] ∧
    textLe m.recordedAt e.recordedAt ∧ e.actor = m.sender)
    "Capability observation semantics drifted."

/-- The lease a message from a host or an owner speaks about was held at the event. -/
def validateLeaseAuthority (pre : List Entry) (e : SchedulerEvent) (m : MailboxMessage) :
    Except String Unit :=
  match m.identity? with
  | none => .ok ()
  | some identity =>
    if m.direction = .schedulerToHost then .ok ()
    else do
      let row ← fromOption (latestAuthorityRow pre identity.leaseId identity.taskId)
        "Scheduler event has no prior Lease authority."
      require ((m.sender = row.lease.ownerId ∨ m.messageType = .approvalDecision) ∧
        identity.attempt = row.lease.attempt ∧ identity.fence = row.lease.fence ∧
        identity.idempotencyKey = row.lease.idempotencyKey ∧ e.recordedAt < row.lease.expiresAt)
        "Scheduler event Lease authority is invalid."

/-- A message that answers another has an earlier exact parent. -/
def validateCausalParent (e : SchedulerEvent) (m : MailboxMessage) : Except String Unit :=
  match m.messageType.causalParent with
  | none => .ok ()
  | some expected =>
    require (m.leaseId?.any fun leaseId =>
      (causalParentMessage E ev ev.log m expected leaseId (some e.sequence)).isSome)
      "Scheduler event causal parent is invalid."

/-! ## One event -/

/-- The evidence of an observation of capabilities. -/
def validateCapabilityEvidence (e : SchedulerEvent) (m : Option MailboxMessage) :
    Except String Unit :=
  if e.cause = .capabilityObserved then
    withMessage m "Capability observation evidence is missing." (validateCapabilityObserved e)
  else .ok ()

/-- The evidence of an approval event. -/
def validateApprovalEvidence (pre : List Entry) (entry : Entry) (task : Option SchedulerTask)
    (m : Option MailboxMessage) : Except String Unit :=
  if entry.event.cause.approval then do
    let m ← fromOption m "Scheduler approval event identity is incomplete."
    let payload ← fromOption m.approval? "Scheduler approval event identity is incomplete."
    require (entry.event.approvalId = some payload.approvalId)
      "Scheduler approval event identity is incomplete."
    let task ← fromOption task "Scheduler approval event identity is incomplete."
    validateExactApprovalMessage E pre task entry m payload
  else .ok ()

/-- The evidence of a message to a host. -/
def validateEgressEvidence (pre : List Entry) (entry : Entry) (task : Option SchedulerTask)
    (m : Option MailboxMessage) : Except String Unit :=
  if entry.event.cause.egress then do
    let m ← fromOption m "Scheduler egress event evidence is incomplete."
    let task ← fromOption task "Scheduler egress event evidence is incomplete."
    validateSchedulerEgressEvent E ev pre task entry m
  else .ok ()

/-- The checks on the message of an event, apart from those of its cause. -/
def validateMessageEvidence (pre : List Entry) (entry : Entry) (task : Option SchedulerTask)
    (m : Option MailboxMessage) : Except String Unit := do
  forEach (validateMessageIdentity entry.event) m.toList
  validateCapabilityEvidence entry.event m
  validateApprovalEvidence E pre entry task m
  validateEgressEvidence E ev pre entry task m
  forEach (validateCausalParent E ev entry.event) m.toList
  forEach (validateLeaseAuthority pre entry.event) m.toList

/-- Reproduce the outcome of the cause of a task event. -/
def validateCause (currentLeases : Table CurrentLease) (pre : List Entry) (task : SchedulerTask)
    (entry : Entry) (m : Option MailboxMessage) (prior projection : TaskProjection) :
    Except String Unit :=
  match entry.event.cause with
  | .resultReceived | .resultTerminal =>
    withMessage m "Scheduler result event evidence is incomplete." fun m =>
      validateResultEvent E ev currentLeases pre task entry m prior projection
  | .verificationBlocked | .verificationCompleted =>
    validateVerificationEvent E ev pre task entry projection
  | _ => validateNonResultEvent E ev pre task entry m prior projection

/-- The task of an event with the projections around it. -/
structure TaskContext where
  task : SchedulerTask
  prior : TaskProjection
  projection : TaskProjection

/-- The task context of an event about a task. -/
def taskContext (pre : List Entry) (e : SchedulerEvent) :
    Except String (Option TaskContext) :=
  match e.taskProjection with
  | none => .ok none
  | some projection => do
    let task ← fromOption (ev.graph.task? projection.taskId)
      "Scheduler event task semantics are invalid."
    let prior ← fromOption (projectionAt ev.graph pre projection.taskId)
      "Scheduler event task semantics are invalid."
    return some ⟨task, prior, projection⟩

/-- Judge the meaning of one event against the entries before it. -/
def validateEventSemantics (currentLeases : Table CurrentLease) (pre : List Entry)
    (entry : Entry) : Except String Unit := do
  let e := entry.event
  validateEventShape ev e
  if e.cause = .initialization then validateInitialize e
  else do
    validateScope e
    let context ← taskContext ev pre e
    forEach (fun c : TaskContext => validateTransition e c.task c.prior c.projection)
      context.toList
    let m ← causalMessage E ev e
    validateMessageEvidence E ev pre entry (context.map (·.task)) m
    forEach (fun c : TaskContext =>
      validateCause E ev currentLeases pre c.task entry m c.prior c.projection) context.toList

/-- The reason that records the lease policy of a store. -/
def leasePolicyReason (ttlSeconds heartbeatIntervalSeconds : Nat) : String :=
  "lease-policy-ttl-" ++ toString ttlSeconds ++ "-heartbeat-" ++ toString heartbeatIntervalSeconds

/-- Judge the place of one event in the chain and in time. -/
def validateChain (pre : List Entry) (e : SchedulerEvent) : Except String Unit := do
  require (e.sequence = nextSequence pre ∧ e.previousEventSha256 = headDigest E pre ∧
    e.graphId = E.graphId ev.graph)
    "Scheduler event artifact is inconsistent."
  require (lastRecordedAt ev pre ≤ e.recordedAt) "Scheduler event time moved backwards."
  let elapsed := elapsedSeconds ev.createdAt e.recordedAt
  if pre = [] then
    require (e.recordedAt = ev.createdAt ∧
      e.reason = some (leasePolicyReason ev.leaseTtlSeconds ev.heartbeatIntervalSeconds))
      "Scheduler creation time is not anchored to initialization."
  else if observedWall ev pre < elapsed then
    require (e.cause = .wallTimeObserved)
      ("Scheduler operation advanced without an exact wall-time observation before Lease " ++
        "authority use.")
  else require (e.cause ≠ .wallTimeObserved) "Wall-time observation is extra or misplaced."

/-- Judge one entry of the log. -/
def validateEntry (currentLeases : Table CurrentLease) (pre : List Entry) (entry : Entry) :
    Except String Unit := do
  validateChain E ev pre entry.event
  validateEventSemantics E ev currentLeases pre entry

/-- Replay the whole log. -/
def validateEvents (currentLeases : Table CurrentLease) : Except String Unit := do
  require (ev.log ≠ []) "Scheduler event chain is empty."
  History.checkFrom (validateEntry E ev currentLeases) [] ev.log

end Sdaqf
