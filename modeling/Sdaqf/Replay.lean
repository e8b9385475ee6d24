import Sdaqf.Causes

/-!
# Replaying the events

The validator reads the event log from its start and judges each event against the rows before it.
It derives the outcome the live policy would have produced from the immutable evidence alone, and
refuses an event whose projection, lease history or worktree history differs.

The loop variables of the replay are functions of the prefix: the projections recorded so far, the
accepted results, the time of the last event and the wall time observed so far.
-/

namespace Sdaqf

open Guard Store

variable (E : Environment) (ev : Evidence)

/-! ## Loop variables -/

/-- Whole seconds since the creation of the store. -/
def elapsedSeconds (createdAt t : Timestamp) : Nat := (t - createdAt) / second

/-- The time of the last event, or of the creation of the store. -/
def lastRecordedAt (pre : List Entry) : Timestamp :=
  match pre.getLast? with
  | some entry => entry.event.recordedAt
  | none => ev.createdAt

/-- The wall time the events before an event have observed. -/
def observedWall (pre : List Entry) : Nat :=
  (pre.map fun e => elapsedSeconds ev.createdAt e.event.recordedAt).foldl max 0

/-- The last result of a task that was received. -/
def acceptedResult (pre : List Entry) (taskId : String) : Option String :=
  (History.lastWhere
    (fun e => decide (e.event.cause = .resultReceived ∧ e.event.taskId = some taskId)) pre).bind
    (·.event.resultId)

/-- The retries spent before an event. -/
def retryUsage (pre : List Entry) : Int :=
  (pre.map fun e => (e.event.budgetDeltas .retries).getD 0).sum

/-! ## Lease history -/

/-- The current lease row of the task of an event, before the event. -/
def priorLeaseRow (pre : List Entry) (taskId : String) : Except String LeaseRow := do
  let row ← fromOption (latestLeaseRow pre taskId)
    "Scheduler event has no exact prior current Lease."
  require (row.lease.status = .current) "Scheduler event has no exact prior current Lease."
  return row

/-- The current lease of the task of an event under the authority the event names. -/
def priorLease (pre : List Entry) (taskId : String) (e : SchedulerEvent) :
    Except String Lease := do
  let row ← priorLeaseRow pre taskId
  require (e.leaseId = some row.authorityLeaseId) "Scheduler event Lease identity drifted."
  return row.lease

/-- An event continues the lease that is already current. -/
def reusesPriorLease (pre : List Entry) (taskId : String) (e : SchedulerEvent) : Bool :=
  (latestLeaseRow pre taskId).any fun row =>
    decide (row.lease.status = .current ∧ e.leaseId = some row.authorityLeaseId)

/-- The lease rows of an event about its task. -/
def ownLeaseRows (entry : Entry) (taskId : String) : List LeaseRow :=
  entry.leaseRows.filter fun row => decide (row.lease.taskId = taskId)

/-- The worktree rows of an event about its task. -/
def ownWorktreeRows (entry : Entry) (taskId : String) : List WorktreeLease :=
  entry.worktreeRows.filter fun row => decide (row.taskId = taskId)

def requireNoLeaseHistory (entry : Entry) (taskId : String) : Except String Unit :=
  require (ownLeaseRows entry taskId = [])
    "Scheduler cause has an unexpected Lease history artifact."

/-- The event wrote exactly the expected lease. -/
def validateExactLeaseHistory (entry : Entry) (taskId : String) (expected : Lease) :
    Except String Unit :=
  match ownLeaseRows entry taskId with
  | [row] =>
    require (row.lease = expected ∧ entry.event.leaseId = some row.authorityLeaseId)
      "Authoritative Lease history semantics drifted."
  | _ => .error "Scheduler event Lease history cardinality drifted."

/-- The event wrote exactly the expected worktree lease. -/
def validateExactWorktreeHistory (entry : Entry) (expected : WorktreeLease) :
    Except String Unit :=
  match entry.worktreeRows with
  | [row] =>
    require (row = expected ∧ entry.event.taskId = some row.taskId)
      "Worktree authority history semantics drifted."
  | _ => .error "Worktree authority history cardinality drifted."

/-- The event released the current lease, and the active worktree with it when that is expected. -/
def validateExactLeaseRelease (pre : List Entry) (entry : Entry) (taskId : String)
    (outcome : TaskOutcome) (expectWorktreeRelease : Bool) : Except String Unit := do
  let prior ← priorLease pre taskId entry.event
  validateExactLeaseHistory entry taskId (releasedLease prior outcome)
  match (latestWorktreeRow pre taskId).filter (·.status.active), expectWorktreeRelease with
  | some priorWorktree, true => do
    require ((ownWorktreeRows entry taskId).length = 1) "Worktree release evidence is incomplete."
    validateExactWorktreeHistory entry (releasedWorktree priorWorktree)
  | _, expected =>
    require (¬ (expected = true ∧ ownWorktreeRows entry taskId ≠ []))
      "Unexpected Worktree release evidence."

/-- The lease a task acquires at an event. -/
def acquiredLease (task : SchedulerTask) (e : SchedulerEvent) (attempt fence : Nat)
    (owner : String) : Lease where
  graphId := e.graphId
  taskId := task.taskId
  candidate := e.candidate
  contextSnapshotId := task.contextSnapshotId
  attempt := attempt
  ownerId := owner
  fence := fence
  idempotencyKey := E.idempotencyKey e.graphId task.taskId attempt fence e.candidate
    task.contextSnapshotId (E.effectDigest task)
  acquiredAt := e.recordedAt
  heartbeatAt := e.recordedAt
  expiresAt := formatUtc (addSeconds e.recordedAt ev.leaseTtlSeconds)
  ttlSeconds := ev.leaseTtlSeconds
  heartbeatIntervalSeconds := ev.heartbeatIntervalSeconds
  status := .current
  releaseOutcome := .none

/-- The event acquired the lease that its message speaks about. -/
def validateExactLeaseAcquisition (task : SchedulerTask) (entry : Entry) (m : MailboxMessage) :
    Except String Unit := do
  let identity ← fromOption m.identity? "Dispatch Lease idempotency evidence drifted."
  let expected := acquiredLease E ev task entry.event identity.attempt identity.fence m.recipient
  require (identity.idempotencyKey = expected.idempotencyKey)
    "Dispatch Lease idempotency evidence drifted."
  validateExactLeaseHistory entry task.taskId expected

/-- The event acquired a provisional lease for its actor. -/
def validateProvisionalLeaseAcquisition (task : SchedulerTask) (entry : Entry)
    (projection : TaskProjection) : Except String Unit :=
  validateExactLeaseHistory entry task.taskId
    (acquiredLease E ev task entry.event projection.attempt projection.fence entry.event.actor)

/-- A dispatch or a worktree request was adopted earlier under the lease of an event. -/
def activatedBefore (pre : List Entry) (e : SchedulerEvent) : Bool :=
  (ev.adoptions E pre).any fun a =>
    decide (a.event.leaseId = e.leaseId) && a.event.cause.activates

/-- The lease an event speaks about, at the event. -/
def leaseAtOrBefore (pre : List Entry) (entry : Entry) (taskId : String) :
    Except String Lease := do
  let row ← fromOption
    (entry.event.leaseId.bind fun authority =>
      latestAuthorityRow (pre ++ [entry]) authority taskId)
    "Approval event Lease evidence is missing."
  require (row.lease.status = .current) "Approval event Lease is not current."
  return row.lease

/-! ## Approvals -/

/-- The approval types that events of one cause have recorded under the lease of an event. -/
def approvalTypesBefore (pre : List Entry) (task : SchedulerTask) (lease : Lease)
    (e : SchedulerEvent) (cause : EventCause) : List ApprovalType :=
  task.approvalStops.filter fun approvalType =>
    (pre.map (·.event)).any fun prior =>
      decide (prior.cause = cause ∧ prior.taskId = some task.taskId ∧
        prior.leaseId = e.leaseId) &&
      (prior.messageId.bind (ev.message? E)).any fun m =>
        e.leaseId.any fun leaseId =>
          decide (approvalMatches m approvalType (E.effectDigest task) leaseId lease.attempt
            lease.fence lease.idempotencyKey e.recordedAt)

/-- The decision of an approval event is exact. -/
def validateExactApprovalMessage (pre : List Entry) (task : SchedulerTask) (entry : Entry)
    (m : MailboxMessage) (payload : ApprovalPayload) : Except String Unit := do
  let lease ← leaseAtOrBefore pre entry task.taskId
  require ((m.sender, payload.authority) = approvalActor payload.approvalType ∧
    m.recipient = "HST-SCHEDULER" ∧ payload.approvalType ∈ task.approvalStops ∧
    payload.effectDigest = E.effectDigest task ∧ payload.transition = "dispatch" ∧
    payload.approvedAt < payload.expiresAt ∧ m.attempt? = some lease.attempt ∧
    m.leaseId? = entry.event.leaseId ∧ m.fence? = some lease.fence ∧
    m.idempotencyKey? = some lease.idempotencyKey)
    "Approval authority semantics drifted."

/-! ## Egress -/

/-- The lease an egress event speaks about agrees with its message. -/
def egressLeaseAgrees (task : SchedulerTask) (e : SchedulerEvent) (m : MailboxMessage)
    (lease : Lease) : Prop :=
  lease.status = .current ∧ lease.graphId = e.graphId ∧ lease.taskId = task.taskId ∧
    lease.candidate = e.candidate ∧ lease.contextSnapshotId = task.contextSnapshotId ∧
    lease.ownerId = m.recipient ∧ m.attempt? = some lease.attempt ∧
    m.fence? = some lease.fence ∧ m.idempotencyKey? = some lease.idempotencyKey ∧
    e.recordedAt < lease.expiresAt

instance {task : SchedulerTask} {e : SchedulerEvent} {m : MailboxMessage} {lease : Lease} :
    Decidable (egressLeaseAgrees task e m lease) := by
  unfold egressLeaseAgrees
  infer_instance

/-- A cancellation request answers the last intent of its task. -/
def validateCancelRequest (pre : List Entry) (task : SchedulerTask) (e : SchedulerEvent)
    (m : MailboxMessage) (lease : Lease) (messageSequence : Nat) : Except String Unit := do
  let parent ← fromOption
    (History.lastWhere
      (fun a : Adoption => a.event.cause.activates &&
        decide (a.event.taskId = some task.taskId) &&
        (ev.messageSequence? E a.messageId).any fun n => decide (n < messageSequence))
      (ev.adoptions E pre))
    "Cancellation request causal parent is missing."
  require (m.causalParentMessageIds = [parent.messageId] ∧ parent.message.leaseId? = e.leaseId ∧
    parent.message.taskId? = some task.taskId ∧ parent.message.recipient = lease.ownerId ∧
    e.budgetDeltas = BudgetDeltas.none)
    "Cancellation request budget evidence drifted."

/-- A worktree request opens exactly the requested worktree lease. -/
def validateWorktreeRequest (task : SchedulerTask) (entry : Entry) (m : MailboxMessage)
    (lease : Lease) : Except String Unit := do
  let payloadAgrees : Bool :=
    match m.body with
    | .task _ (.worktreeRequest worktree ownedPaths) =>
      decide (some worktree = task.worktreeAssignment ∧ ownedPaths = task.ownedPaths)
    | _ => false
  require (m.causalParentMessageIds = [] ∧ payloadAgrees = true ∧
    entry.event.budgetDeltas = BudgetDeltas.single .concurrency 1)
    "Worktree request evidence drifted."
  let plan ← fromOption ev.graph.worktreePlan "Task Graph has no worktree plan."
  let assignment ← fromOption task.worktreeAssignment "Task has no worktree assignment."
  validateExactWorktreeHistory entry
    (requestedWorktree entry.event.graphId ev.graph task plan assignment lease)

/-- A dispatch behind a worktree answers the newest observation of that worktree. -/
def validateDispatchWorktree (pre : List Entry) (task : SchedulerTask) (e : SchedulerEvent)
    (m : MailboxMessage) (lease : Lease) (leaseId : String) (messageSequence : Nat) :
    Except String Unit :=
  match task.worktreeAssignment with
  | none => require (m.causalParentMessageIds = []) "Plain dispatch has a forbidden causal parent."
  | some assignment => do
    let observation ← fromOption
      (latestWorktreeObservation E (ev.messages.take (messageSequence - 1)) ev.log task.taskId
        leaseId (some e.sequence))
      "Dispatch Worktree authority is missing."
    let worktree ← fromOption (latestWorktreeRow pre task.taskId)
      "Dispatch Worktree authority is missing."
    require (m.causalParentMessageIds = [observation] ∧ worktree.status = .observed ∧
      worktree.graphId = e.graphId ∧ worktree.taskId = task.taskId ∧
      some worktree.worktreePlan = ev.graph.worktreePlan ∧
      worktree.baseCommit = ev.graph.candidate.gitHead ∧ worktree.worktree = assignment ∧
      worktree.ownerId = lease.ownerId ∧ worktree.ownedPaths = task.ownedPaths ∧
      worktree.fence = lease.fence)
      "Dispatch Worktree authority drifted."

/-- The payload and the budget of a dispatch are exact. -/
def validateDispatchPayload (task : SchedulerTask) (binding : ContextBinding) (e : SchedulerEvent)
    (m : MailboxMessage) : Except String Unit := do
  let payload ← fromOption m.dispatch? "Dispatch reservation evidence is missing."
  let contextBytes := E.referenceSize binding.reference
  require (payload =
    { effectDigest := E.effectDigest task
      leaseTtlSeconds := ev.leaseTtlSeconds
      heartbeatIntervalSeconds := ev.heartbeatIntervalSeconds
      requiredCapabilities := task.requiredCapabilities
      requiredTools := task.requiredTools
      contextBytes := contextBytes
      budgetReservation := payload.budgetReservation })
    "Dispatch intent payload or Authoritative Lease evidence drifted."
  require (e.budgetDeltas =
    dispatchDeltas { payload.budgetReservation with contextBytes := contextBytes }
      (decide (e.beforeState = some .ready)))
    "Dispatch intent budget evidence drifted."

/-- Replay the exact intent, lease, approval and budget evidence of a message to a host. -/
def validateSchedulerEgressEvent (pre : List Entry) (task : SchedulerTask) (entry : Entry)
    (m : MailboxMessage) : Except String Unit := do
  let e := entry.event
  let leaseId ← fromOption e.leaseId "Scheduler egress event Lease is missing."
  let row ← fromOption (latestAuthorityRow (pre ++ [entry]) leaseId task.taskId)
    "Scheduler egress event has no prior Lease authority evidence."
  require (egressLeaseAgrees task e m row.lease) "Scheduler egress event Lease evidence drifted."
  let binding ← fromOption (ev.graph.binding? task) "Task Context binding is unavailable."
  let messageSequence ← fromOption (e.messageId.bind (ev.messageSequence? E))
    "Scheduler egress envelope evidence drifted."
  require (m.direction = .schedulerToHost ∧ m.sender = "HST-SCHEDULER" ∧
    m.recordedAt = e.recordedAt ∧ m.sensitivity = binding.sensitivity ∧
    m.provenance = (if e.cause = .dispatchIntent then taskInputProvenance E task binding
      else [binding.reference]))
    "Scheduler egress envelope evidence drifted."
  if e.cause = .cancelRequest then
    validateCancelRequest E ev pre task e m row.lease messageSequence
  else do
    let approvalCause : EventCause :=
      if e.cause = .dispatchIntent then .approvalConsumed else .approvalReceived
    require (approvalTypesBefore E ev pre task row.lease e approvalCause = task.approvalStops)
      "Scheduler egress approval evidence is incomplete."
    if e.cause = .worktreeRequest then validateWorktreeRequest ev task entry m row.lease
    else do
      validateDispatchWorktree E ev pre task e m row.lease leaseId messageSequence
      validateDispatchPayload E ev task binding e m

/-! ## Readiness -/

/-- The capabilities the hosts have shown before an event. -/
def capabilitiesBefore (pre : List Entry) : Table (List String) :=
  (ev.adoptionsOf E pre .capabilityObserved).foldl
    (fun table a => table.insert a.message.sender (a.message.capabilities?.getD [])) ∅

/-- The host whose capabilities decide a readiness event. -/
def readinessAuthorityHost (pre : List Entry) (taskId : String) (e : SchedulerEvent)
    (capabilities : Table (List String)) : Option String :=
  match (latestLeaseRow pre taskId).filter fun row => decide (row.lease.status = .current) with
  | some row => some row.lease.ownerId
  | none =>
    match History.lastWhere
        (fun a : Adoption => decide (a.event.recordedAt = e.recordedAt ∧
          a.message.direction = .hostToScheduler)) (ev.adoptions E pre) with
    | some a => some a.event.actor
    | none =>
      match capabilities.keys with
      | [host] => some host
      | _ => none

/-- The missing capabilities of a task at a readiness event. -/
def replayedMissing (pre : List Entry) (task : SchedulerTask) (e : SchedulerEvent) :
    Except String (List String) :=
  let capabilities := capabilitiesBefore E ev pre
  match readinessAuthorityHost E ev pre task.taskId e capabilities with
  | some host => .ok (missingCapabilities task ((capabilities[host]?).getD []))
  | none =>
    match ((if capabilities.isEmpty then [[]] else capabilities.rows).map
        (missingCapabilities task)).eraseDups with
    | [missing] => .ok missing
    | _ => .error "Readiness capability authority is ambiguous."

/-- The task that holds a worktree before an event: the last one, in the order in which tasks first
appear in the worktree history. -/
def worktreeOwnerBefore (pre : List Entry) (worktree : String) : Option String :=
  History.lastWhere
    (fun taskId => (latestWorktreeRow pre taskId).any fun row =>
      row.status.active && decide (row.worktree = worktree))
    ((worktreeHistory pre).map (·.taskId)).eraseDups

/-- The blockers of a task at a readiness event whose dependencies are completed. -/
def replayedBlockers (pre : List Entry) (task : SchedulerTask) (e : SchedulerEvent) :
    Except String (List Blocker) :=
  if e.reason = some "worktree-unavailable" then do
    let assignment ← fromOption task.worktreeAssignment
      "Worktree blocker has no planned assignment."
    let holder ← fromOption (worktreeOwnerBefore pre assignment)
      "Worktree blocker authority is not replayable."
    require (holder ≠ task.taskId) "Worktree blocker authority is not replayable."
    return [⟨"worktree-unavailable", [holder]⟩]
  else do
    require (e.reason = none) "Readiness event reason drifted."
    let missing ← replayedMissing E ev pre task e
    return readinessBlockers E ev.graph task false missing

/-- The projection a readiness event must record. -/
def replayedReadiness (pre : List Entry) (task : SchedulerTask) (prior : TaskProjection)
    (e : SchedulerEvent) : Except String TaskProjection :=
  let dependencyStates := task.dependencies.map fun d =>
    (projectionAt ev.graph pre d).map (·.state)
  if dependencyStates.any fun s => s.any terminalBlocker then
    .ok { prior with
      state := .blocked
      blockers := [⟨"dependency-terminal-blocker", task.dependencies⟩] }
  else if ¬ ∀ s ∈ dependencyStates, s = some .completed then
    .ok { prior with state := .planned, blockers := [] }
  else do
    let blockers ← replayedBlockers E ev pre task e
    return { prior with
      state := if blockers = [] then .ready else .blocked
      blockers := blockers }

def validateExactReadiness (pre : List Entry) (task : SchedulerTask)
    (prior projection : TaskProjection) (e : SchedulerEvent) : Except String Unit := do
  require (EventCause.readinessState prior.state = true)
    "Readiness event prior state is not refreshable."
  require (¬ (prior.state = .blocked ∧ prior.outcome = .unknown))
    "Unknown task cannot be refreshed as ready."
  require (projection.dispatchPhase = prior.dispatchPhase ∧ projection.outcome = prior.outcome ∧
    projection.attempt = prior.attempt ∧ projection.fence = prior.fence)
    "Readiness event changed protected task identity."
  let expected ← replayedReadiness E ev pre task prior e
  require (projection = expected) "Readiness projection is not deterministically replayable."

end Sdaqf
