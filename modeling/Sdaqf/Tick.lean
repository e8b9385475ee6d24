import Sdaqf.Ingest

/-!
# The live policy

One tick observes the wall time, expires leases, ingests messages, refreshes readiness, retries
budget-blocked worktrees and dispatches ready work. This file gives each of these passes over the
store, the public state, and the two bodies of a cancellation. A transaction runs such a body and
commits it only if the store it leaves is valid; that is in the file on runs.
-/

namespace Sdaqf

open Guard

/-- The exact form of a host identity. -/
def isHostId (id : String) : Bool :=
  match id.toList with
  | 'H' :: 'S' :: 'T' :: '-' :: c :: rest =>
    (c.isUpper || c.isDigit) && rest.all (fun d => d.isUpper || d.isDigit || d == '-') &&
      decide (rest.length ≤ 63)
  | _ => false

namespace Store

variable (E : Environment) (st : Store)

/-! ## Ingesting messages -/

/-- Audit a refused message. -/
def appendRejection (m : MailboxMessage) (timestamp : Timestamp) (reason : String) :
    Except String Store :=
  let known := m.taskId?.bind st.graph.task?
  st.appendEvent E timestamp
    { actor := "scheduler"
      cause := .messageRejected
      taskId := known.map (·.taskId)
      contextSnapshotId := known.map (·.contextSnapshotId)
      leaseId := m.leaseId?
      messageId := some (E.messageId m)
      reason := some reason }

/-- The outcome of one message: the store, whether the message was accepted, and what the scheduler
sends because of it. -/
structure Ingested where
  store : Store
  accepted : Bool
  outgoing : List MailboxMessage

/-- Refuse a message with an audited reason. -/
def refuse (m : MailboxMessage) (timestamp : Timestamp) (reason : String) :
    Except String Ingested := do
  let st ← st.appendRejection E m timestamp reason
  return ⟨st, false, []⟩

/-- A message type that may repeat under one idempotency key. -/
def repeatable : MessageType → Bool
  | .approvalDecision => true
  | .heartbeat => true
  | .worktreeObservation => true
  | _ => false

/-- Another stored message holds the idempotency key of this one for the same type. -/
def idempotencyConflict (m : MailboxMessage) : Bool :=
  m.idempotencyKey?.isSome && !repeatable m.messageType &&
    st.evidence.messages.any fun n =>
      decide (n.idempotencyKey? = m.idempotencyKey? ∧ n.messageType = m.messageType ∧
        n.direction = m.direction)

/-- A causal parent that no event adopted. -/
def missingParent (m : MailboxMessage) : Bool :=
  m.causalParentMessageIds.any fun parent => (primaryEvent? st.log parent).isNone

/-- Adopt an observation of the capabilities of a host. -/
def ingestCapabilities (hostId : String) (m : MailboxMessage) (capabilities : List String)
    (timestamp : Timestamp) : Except String Ingested :=
  if m.sender ≠ hostId ∨ m.recipient ≠ "HST-SCHEDULER" then
    st.refuse E m timestamp "foreign-host"
  else do
    let st := (st.insertMessage m).withTables fun t =>
      { t with hostCapabilities := t.hostCapabilities.insert m.sender capabilities }
    let st ← st.appendEvent E timestamp
      { actor := hostId
        cause := .capabilityObserved
        messageId := some (E.messageId m) }
    return ⟨st, true, []⟩

/-- The current lease is the one a message speaks about. -/
def namesLease (identity : TaskIdentity) (current : CurrentLease) : Prop :=
  identity.attempt = current.lease.attempt ∧ identity.leaseId = current.authorityLeaseId ∧
    identity.fence = current.lease.fence ∧
    identity.idempotencyKey = current.lease.idempotencyKey

instance {identity : TaskIdentity} {current : CurrentLease} :
    Decidable (namesLease identity current) := by
  unfold namesLease
  infer_instance

/-- Adopt an approval decision, and dispatch a task that waited for it behind its worktree. -/
def ingestApproval (task : SchedulerTask) (m : MailboxMessage) (identity : TaskIdentity)
    (payload : ApprovalPayload) (timestamp : Timestamp) : Except String Ingested :=
  if m.recipient ≠ "HST-SCHEDULER" ∨
      (m.sender, payload.authority) ≠ approvalActor payload.approvalType ∨
      payload.approvalType ∉ task.approvalStops then
    st.refuse E m timestamp "approval-recipient-mismatch"
  else
    match st.tables.currentLeases[task.taskId]? with
    | none => st.refuse E m timestamp "approval-proposal-mismatch"
    | some current =>
      if ¬ namesLease identity current then
        st.refuse E m timestamp "approval-proposal-mismatch"
      else if payload.expiresAt ≤ payload.approvedAt then
        st.refuse E m timestamp "approval-time-window-invalid"
      else do
        let st ← (st.insertMessage m).appendEvent E timestamp
          { actor := m.sender
            cause := .approvalReceived
            taskId := some task.taskId
            contextSnapshotId := some task.contextSnapshotId
            leaseId := some identity.leaseId
            messageId := some (E.messageId m)
            approvalId := some payload.approvalId }
        let waiting := decide ((st.tables.currentWorktrees[task.taskId]?).isSome ∧
          (st.projection? task.taskId).map (·.dispatchPhase) = some .notDispatched)
        match waiting, latestWorktreeObservation E st.evidence.messages st.log task.taskId
            current.authorityLeaseId none with
        | true, some parent => do
          let (st, dispatch) ← st.activateDispatchAfterWorktree E task current parent timestamp
          return ⟨st, true, dispatch.toList⟩
        | _, _ => return ⟨st, true, []⟩

/-- The exact lease evidence presented to the verifier of a solver result. -/
def solverLeaseEvidence (E : Environment) (ev : Evidence) (m : MailboxMessage)
    (lease : Lease) : Except String SolverLeaseEvidence :=
  match m.identity? with
  | none => .error "Solver task result lacks Lease identity."
  | some identity =>
    match (ev.adoptionsOf E ev.log .dispatchIntent).filter fun a =>
        decide (a.message.taskId? = some identity.taskId ∧
          a.message.leaseId? = some identity.leaseId) with
    | [dispatch] => do
      let payload ← fromOption dispatch.message.dispatch?
        "Solver dispatch reservation is unavailable."
      let calls := payload.budgetReservation.solverCalls
      let steps := payload.budgetReservation.solverSteps
      require (calls = 1 ∧ 2 ≤ steps ∧ lease.ownerId = m.sender)
        "Solver Lease authority is inconsistent."
      return {
        graphId := lease.graphId
        taskId := lease.taskId
        hostId := lease.ownerId
        attempt := lease.attempt
        leaseId := identity.leaseId
        fence := lease.fence
        idempotencyKey := lease.idempotencyKey
        dispatchMessageId := dispatch.messageId
        expiresAt := lease.expiresAt
        reservedSolverCalls := calls
        reservedSolverSteps := steps }
    | _ => .error "Solver dispatch evidence is ambiguous."

/-- The lease evidence a result is verified with: only a solver result has one. -/
def resultEvidence (E : Environment) (ev : Evidence) (task : SchedulerTask) (m : MailboxMessage)
    (lease : Except String Lease) : Except String (Option SolverLeaseEvidence) :=
  if task.kind = .solver then do
    let lease ← lease
    let evidence ← solverLeaseEvidence E ev m lease
    return some evidence
  else .ok none

/-- Validate the Agent Result wrapper of a task result. -/
def validateTaskResultReference (E : Environment) (ev : Evidence) (task : SchedulerTask)
    (m : MailboxMessage) (lease : Except String Lease) : Except String Unit := do
  let solver ← resultEvidence E ev task m lease
  require (E.resultReferenceValid ev.graph m solver) "Task Result reference is invalid."

/-- Adopt a message of the host that owns the current lease. -/
def adoptHostMessage (task : SchedulerTask) (current : CurrentLease) (m : MailboxMessage)
    (payload : TaskPayload) (verdict : Option WorktreeVerdict) (timestamp : Timestamp) :
    Except String Ingested := do
  let st := st.insertMessage m
  match payload with
  | .dispatchAcknowledgement accepted observed _ => do
    let st ← st.applyDispatchAck E task current m accepted observed timestamp
    return ⟨st, true, []⟩
  | .heartbeat _ => do
    let st ← st.applyHeartbeat E task current m timestamp
    return ⟨st, true, []⟩
  | .taskResult result => do
    validateTaskResultReference E st.evidence task m (.ok current.lease)
    let st ← st.applyResult E task current m result timestamp
    return ⟨st, true, []⟩
  | .cancelAcknowledgement cancelled observed => do
    let st ← st.applyCancelAck E task current m cancelled observed timestamp
    return ⟨st, true, []⟩
  | .worktreeObservation .. => do
    let verdict ← fromOption verdict "Worktree observation authority is incomplete."
    let (st, dispatch) ← st.applyWorktreeObservation E task current m verdict timestamp
    return ⟨st, true, dispatch.toList⟩
  | _ => st.refuse E m timestamp "host-message-not-adoptable"

/-- The verdict on a worktree observation, when its authority is complete and exact. -/
def worktreeVerdict (task : SchedulerTask) (current : CurrentLease) (m : MailboxMessage)
    (timestamp : Timestamp) : Except String WorktreeVerdict := do
  let prior ← fromOption (st.projection? task.taskId)
    "Worktree observation authority is incomplete."
  let priorWorktree ← fromOption st.tables.currentWorktrees[task.taskId]?
    "Worktree observation authority is incomplete."
  let request ← fromOption
    (causalParentMessage E st.evidence st.log m .worktreeRequest current.authorityLeaseId none)
    "Worktree observation authority is incomplete."
  deriveExactWorktreeObservation (E.graphId st.graph) st.graph task prior
    current.authorityLeaseId current.lease priorWorktree m request timestamp

/-- The dispatch phases in which a message of a type may arrive, for the types that answer a
dispatch. -/
def answerPhases : MessageType → Option (List DispatchPhase)
  | .dispatchAcknowledgement => some [.intentPending]
  | .heartbeat => some [.intentPending, .accepted]
  | .taskResult => some [.intentPending, .accepted]
  | _ => none

/-- Ingest a message of a host about a task. -/
def ingestHostMessage (hostId : String) (task : SchedulerTask) (m : MailboxMessage)
    (identity : TaskIdentity) (payload : TaskPayload) (timestamp : Timestamp) :
    Except String Ingested :=
  match st.tables.currentLeases[task.taskId]? with
  | none => st.refuse E m timestamp "stale-foreign-or-late-message"
  | some current =>
    if m.sender ≠ current.lease.ownerId ∨ m.sender ≠ hostId ∨ m.recipient ≠ "HST-SCHEDULER" ∨
        ¬ namesLease identity current then
      st.refuse E m timestamp "stale-foreign-or-late-message"
    else if current.lease.expiresAt ≤ timestamp then
      st.refuse E m timestamp "message-at-or-after-lease-expiry"
    else
      let phase := (st.projection? task.taskId).map (·.dispatchPhase)
      let answers (expected : MessageType) : Bool :=
        (causalParentMessage E st.evidence st.log m expected current.authorityLeaseId none).isSome
      if (answerPhases m.messageType).any fun phases =>
          !(phase.any fun p => decide (p ∈ phases)) || !answers .dispatchIntent then
        st.refuse E m timestamp "dispatch-cause-or-phase-mismatch"
      else
        match m.messageType with
        | .worktreeObservation =>
          if st.graph.worktreePlan = none ∨ task.worktreeAssignment = none then
            st.refuse E m timestamp "unexpected-worktree-observation"
          else
            match st.worktreeVerdict E task current m timestamp with
            | .error _ => st.refuse E m timestamp "worktree-request-or-assignment-mismatch"
            | .ok verdict =>
              st.adoptHostMessage E task current m payload (some verdict) timestamp
        | .cancelAcknowledgement =>
          if phase ≠ some .cancellationRequested ∨ answers .cancelRequest = false then
            st.refuse E m timestamp "cancel-request-missing"
          else st.adoptHostMessage E task current m payload none timestamp
        | _ => st.adoptHostMessage E task current m payload none timestamp

/-- Ingest a message about a task. -/
def ingestTaskMessage (hostId : String) (m : MailboxMessage) (identity : TaskIdentity)
    (payload : TaskPayload) (timestamp : Timestamp) : Except String Ingested :=
  match st.graph.task? identity.taskId with
  | none => st.refuse E m timestamp "unknown-task"
  | some task => do
    let binding ← fromOption (st.graph.binding? task) "Task Context binding is unavailable."
    if identity.contextSnapshotId ≠ task.contextSnapshotId ∨
        m.sensitivity.rank < binding.sensitivity.rank then
      st.refuse E m timestamp "context-or-sensitivity-mismatch"
    else
      match payload with
      | .approvalDecision approval => st.ingestApproval E task m identity approval timestamp
      | _ => st.ingestHostMessage E hostId task m identity payload timestamp

/-- Ingest one message: retain a duplicate, refuse it with an audited reason, or adopt it. -/
def ingestMessage (hostId : String) (m : MailboxMessage) (timestamp : Timestamp) :
    Except String Ingested :=
  if (st.evidence.message? E (E.messageId m)).isSome then do
    let st ← st.appendEvent E timestamp
      { actor := "scheduler"
        cause := .duplicateMessage
        taskId := m.taskId?
        contextSnapshotId := m.contextSnapshotId?
        leaseId := m.leaseId?
        messageId := some (E.messageId m)
        reason := some "duplicate-message-retained" }
    return ⟨st, true, []⟩
  else if st.idempotencyConflict m then
    st.refuse E m timestamp "conflicting-idempotency-message"
  else if m.graphId ≠ E.graphId st.graph ∨ m.candidate ≠ st.graph.candidate then
    st.refuse E m timestamp "foreign-graph-or-candidate"
  else if st.missingParent m then
    st.refuse E m timestamp "missing-causal-parent"
  else
    match m.body with
    | .capabilityObservation capabilities =>
      st.ingestCapabilities E hostId m capabilities timestamp
    | .task identity payload => st.ingestTaskMessage E hostId m identity payload timestamp

/-! ## Readiness -/

/-- The capabilities of a task that a host does not have. -/
def missingCapabilities (task : SchedulerTask) (capabilities : List String) : List String :=
  task.requiredCapabilities.filter fun c => decide (c ∉ capabilities)

/-- A task whose contract with the solver is unavailable. -/
def solverUnavailable (E : Environment) (graph : TaskGraph) (task : SchedulerTask) : Prop :=
  task.kind = .solver ∧ solverReservation E task graph = none

instance {E : Environment} {graph : TaskGraph} {task : SchedulerTask} :
    Decidable (solverUnavailable E graph task) := by
  unfold solverUnavailable
  infer_instance

/-- The blockers of a task whose dependencies are settled. -/
def readinessBlockers (E : Environment) (graph : TaskGraph) (task : SchedulerTask)
    (dependencyBlocked : Bool) (missing : List String) : List Blocker :=
  let onDependency : List Blocker :=
    if dependencyBlocked then [⟨"dependency-terminal-blocker", task.dependencies⟩] else []
  let onCapability : List Blocker :=
    if missing = [] then [] else [⟨"missing-capability", missing⟩]
  let onSolver : List Blocker :=
    if solverUnavailable E graph task then [⟨"solver-contract-unavailable", [task.taskId]⟩] else []
  (onDependency ++ onCapability ++ onSolver).insertionSort Blocker.le

/-- Write a refreshed readiness when it differs from the task row. -/
def writeReadiness (task : SchedulerTask) (current : TaskProjection) (target : TaskState)
    (blockers : List Blocker) (timestamp : Timestamp) : Except String Store :=
  if current.state = target ∧ current.blockers = blockers then .ok st
  else
    (st.updateProjection task.taskId fun p =>
      { p with state := target, blockers := blockers }).appendEvent E timestamp
      { actor := "scheduler"
        cause := .readinessRefreshed
        taskId := some task.taskId
        contextSnapshotId := some task.contextSnapshotId
        beforeState := some current.state
        afterState := some target }

/-- A dependency that can no longer complete. -/
def terminalBlocker (s : TaskState) : Bool :=
  s = .blocked || s = .rejected || s = .superseded

/-- Refresh the readiness of one task. -/
def refreshTask (hostId : String) (timestamp : Timestamp) (st : Store) (task : SchedulerTask) :
    Except String Store :=
  match st.projection? task.taskId with
  | none => .ok st
  | some current =>
    if ¬ (current.state = .planned ∨ current.state = .ready ∨ current.state = .blocked) ∨
        (current.state = .blocked ∧ current.outcome = .unknown) then .ok st
    else
      let dependencyStates := task.dependencies.map fun d =>
        (st.projection? d).map (·.state)
      let dependencyBlocked := dependencyStates.any fun s => s.any terminalBlocker
      if dependencyBlocked = false ∧ ¬ ∀ s ∈ dependencyStates, s = some .completed then
        st.writeReadiness E task current .planned [] timestamp
      else
        let authorityHost := ((st.tables.currentLeases[task.taskId]?).map (·.lease.ownerId)).getD
          hostId
        let capabilities := (st.tables.hostCapabilities[authorityHost]?).getD []
        let blockers := readinessBlockers E st.graph task dependencyBlocked
          (missingCapabilities task capabilities)
        st.writeReadiness E task current (if blockers = [] then .ready else .blocked) blockers
          timestamp

/-- Refresh the readiness of every task, in task order. -/
def refreshReady (hostId : String) (timestamp : Timestamp) : Except String Store :=
  foldE (refreshTask E hostId timestamp) st st.graph.tasks

/-! ## Dispatching -/

/-- The scheduling order of two task rows: wave, then rank, then identity. -/
def rowLe (a b : TaskRow) : Prop :=
  a.wave < b.wave ∨ (a.wave = b.wave ∧ (a.topologicalRank < b.topologicalRank ∨
    (a.topologicalRank = b.topologicalRank ∧ a.projection.taskId ≤ b.projection.taskId)))

instance {a b : TaskRow} : Decidable (rowLe a b) := by
  unfold rowLe
  infer_instance

/-- The task rows in scheduling order. -/
def orderedRows (p : TaskRow → Bool) : List TaskRow :=
  (st.tables.tasks.rows.filter p).insertionSort rowLe

/-- Retry the dispatch of one budget-blocked worktree task. -/
def retryWorktree (timestamp : Timestamp) (acc : Store × List MailboxMessage) (row : TaskRow)
    (current : CurrentLease) : Except String (Store × List MailboxMessage) := do
  let parent ← fromOption
    (latestWorktreeObservation E acc.1.evidence.messages acc.1.log row.projection.taskId
      current.authorityLeaseId none)
    "Budget-blocked Worktree dispatch lost its observation authority."
  let task ← fromOption (acc.1.graph.task? row.projection.taskId)
    "Scheduler Event task projection is missing."
  let (st, dispatch) ← acc.1.activateDispatchAfterWorktree E task current parent timestamp
  return (st, acc.2 ++ dispatch.toList)

/-- The budget-blocked tasks that hold a lease and a worktree, with their leases. -/
def budgetBlockedWorktrees : List (TaskRow × CurrentLease) :=
  (st.orderedRows fun row =>
    decide (row.projection.state = .running ∧ row.projection.dispatchPhase = .notDispatched ∧
      row.projection.blockers = blockers "budget-exhausted" []) &&
    (st.tables.currentWorktrees[row.projection.taskId]?).isSome).filterMap fun row =>
      (st.tables.currentLeases[row.projection.taskId]?).map fun current => (row, current)

/-- Retry every budget-blocked worktree task, in scheduling order. -/
def retryBudgetBlockedWorktrees (timestamp : Timestamp) :
    Except String (Store × List MailboxMessage) :=
  foldE (fun acc pair => retryWorktree E timestamp acc pair.1 pair.2) (st, [])
    st.budgetBlockedWorktrees

/-- The lease a task is dispatched under: its current lease, or a new proposal. -/
def proposedLease (hostId : String) (task : SchedulerTask) (projection : TaskProjection)
    (timestamp : Timestamp) : LeaseRow :=
  match st.tables.currentLeases[task.taskId]? with
  | some current => current
  | none =>
    let lease : Lease :=
      { graphId := E.graphId st.graph
        taskId := task.taskId
        candidate := st.graph.candidate
        contextSnapshotId := task.contextSnapshotId
        attempt := projection.attempt + 1
        ownerId := hostId
        fence := projection.fence + 1
        idempotencyKey := E.idempotencyKey (E.graphId st.graph) task.taskId
          (projection.attempt + 1) (projection.fence + 1) st.graph.candidate
          task.contextSnapshotId (E.effectDigest task)
        acquiredAt := timestamp
        heartbeatAt := timestamp
        expiresAt := formatUtc (addSeconds timestamp st.evidence.leaseTtlSeconds)
        ttlSeconds := st.evidence.leaseTtlSeconds
        heartbeatIntervalSeconds := st.evidence.heartbeatIntervalSeconds
        status := .current
        releaseOutcome := .none }
    ⟨E.leaseId lease, lease⟩

/-- Another task holds a worktree. -/
def occupant (taskId worktree : String) : Option String :=
  (st.tables.currentWorktrees.toList.find? fun row =>
    decide (row.2.worktree = worktree ∧ row.1 ≠ taskId)).map (·.1)

/-- The worktree request of a task under a lease. -/
def worktreeRequestMessage (task : SchedulerTask) (binding : ContextBinding) (row : LeaseRow)
    (assignment : String) (timestamp : Timestamp) : MailboxMessage where
  sender := "HST-SCHEDULER"
  recipient := row.lease.ownerId
  graphId := E.graphId st.graph
  candidate := st.graph.candidate
  sensitivity := binding.sensitivity
  provenance := [binding.reference]
  causalParentMessageIds := []
  recordedAt := timestamp
  body := .task (leaseIdentity task row.authorityLeaseId row.lease)
    (.worktreeRequest assignment task.ownedPaths)

/-- The worktree lease a request opens. -/
def requestedWorktree (graphId : String) (graph : TaskGraph) (task : SchedulerTask)
    (plan : ArtifactReference) (assignment : String) (lease : Lease) : WorktreeLease where
  graphId := graphId
  taskId := task.taskId
  worktreePlan := plan
  baseCommit := graph.candidate.gitHead
  worktree := assignment
  ownerId := lease.ownerId
  ownedPaths := task.ownedPaths
  fence := lease.fence
  observedDigest := none
  status := .requested
  integrationState := .requested
  ambiguous := false
  recoveryGuidance := "Await the exact host worktree observation."

/-- Block a ready task on its budget. -/
def blockOnBudget (task : SchedulerTask) (timestamp : Timestamp) : Except String Store :=
  (st.updateProjection task.taskId fun p =>
    { p with state := .blocked, blockers := blockers "budget-exhausted" [] }).appendEvent E
    timestamp
    { actor := "scheduler"
      cause := .dispatchBudgetBlocked
      taskId := some task.taskId
      contextSnapshotId := some task.contextSnapshotId
      beforeState := some .ready
      afterState := some .blocked
      reason := some "budget-exhausted" }

/-- Block a ready task on a missing approval; a new proposal becomes its current lease. -/
def blockOnApproval (task : SchedulerTask) (row : LeaseRow) (fresh : Bool)
    (timestamp : Timestamp) : Except String Store := do
  let st ← (st.updateProjection task.taskId fun p =>
    { p with
      state := .blocked
      attempt := row.lease.attempt
      fence := row.lease.fence
      blockers := blockers "approval-required" [] }).appendEvent E timestamp
    { actor := row.lease.ownerId
      cause := .dispatchApprovalBlocked
      taskId := some task.taskId
      contextSnapshotId := some task.contextSnapshotId
      beforeState := some .ready
      afterState := some .blocked
      leaseId := some row.authorityLeaseId
      reason := some "approval-required"
      leaseRows := if fresh then [row] else [] }
  return if fresh then st.putCurrentLease task.taskId row else st

/-- Block a ready task on a worktree that another task holds. -/
def blockOnWorktree (task : SchedulerTask) (row : LeaseRow) (fresh : Bool) (holder : String)
    (timestamp : Timestamp) : Except String Store :=
  (st.updateProjection task.taskId fun p =>
    { p with state := .blocked, blockers := blockers "worktree-unavailable" [holder] }).appendEvent
    E timestamp
    { actor := "scheduler"
      cause := .readinessRefreshed
      taskId := some task.taskId
      contextSnapshotId := some task.contextSnapshotId
      beforeState := some .ready
      afterState := some .blocked
      leaseId := if fresh then none else some row.authorityLeaseId
      reason := some "worktree-unavailable" }

/-- Request the worktree of a ready task. -/
def requestWorktree (task : SchedulerTask) (binding : ContextBinding) (row : LeaseRow)
    (fresh : Bool) (assignment : String) (timestamp : Timestamp) :
    Except String (Store × MailboxMessage) := do
  let request := st.worktreeRequestMessage E task binding row assignment timestamp
  let st ← st.insertSchedulerMessage E request
  let st := st.updateProjection task.taskId fun p =>
    { p with
      state := .running
      dispatchPhase := .notDispatched
      outcome := .none
      attempt := row.lease.attempt
      fence := row.lease.fence
      blockers := [] }
  let st ← st.changeBudget .concurrency 1 0
  let plan ← fromOption st.graph.worktreePlan "Task Graph has no worktree plan."
  let worktree := requestedWorktree (E.graphId st.graph) st.graph task plan assignment row.lease
  let st ← st.appendEvent E timestamp
    { actor := "scheduler"
      cause := .worktreeRequest
      taskId := some task.taskId
      contextSnapshotId := some task.contextSnapshotId
      beforeState := some .ready
      afterState := some .running
      leaseId := some row.authorityLeaseId
      messageId := some (E.messageId request)
      budgetDeltas := BudgetDeltas.single .concurrency 1
      leaseRows := if fresh then [row] else []
      worktreeRows := [worktree]
      snapshot := true }
  let st := st.putCurrentWorktree task.taskId worktree
  return (if fresh then st.putCurrentLease task.taskId row else st, request)

/-- Dispatch a ready task. -/
def dispatchTask (task : SchedulerTask) (binding : ContextBinding) (row : LeaseRow)
    (fresh : Bool) (contextBytes : Nat) (reservation : BudgetReservation)
    (timestamp : Timestamp) : Except String (Store × MailboxMessage) := do
  let dispatch := st.dispatchMessage E task binding row.authorityLeaseId row.lease []
    contextBytes reservation timestamp
  let st ← st.insertSchedulerMessage E dispatch
  let st := st.updateProjection task.taskId fun p =>
    { p with
      state := .running
      dispatchPhase := .intentPending
      outcome := .none
      attempt := row.lease.attempt
      fence := row.lease.fence
      blockers := [] }
  let st ← st.changeBudget .concurrency 1 0
  let st ← st.changeBudget .dispatches 0 1
  let st ← st.reserveAll reservation
  let st ← st.appendEvent E timestamp
    { actor := "scheduler"
      cause := .dispatchIntent
      taskId := some task.taskId
      contextSnapshotId := some task.contextSnapshotId
      beforeState := some .ready
      afterState := some .running
      leaseId := some row.authorityLeaseId
      messageId := some (E.messageId dispatch)
      budgetDeltas := dispatchDeltas reservation true
      leaseRows := if fresh then [row] else []
      snapshot := true }
  return (if fresh then st.putCurrentLease task.taskId row else st, dispatch)

/-- The state of the dispatching pass: the store, the remaining capacity and what was sent. -/
structure Dispatching where
  store : Store
  capacity : Int
  outgoing : List MailboxMessage

/-- Dispatch one ready task, or record what blocks it. -/
def dispatchRow (hostId : String) (timestamp : Timestamp) (acc : Dispatching) (row : TaskRow) :
    Except String Dispatching :=
  if acc.capacity ≤ 0 then .ok acc
  else do
    let st := acc.store
    let task ← fromOption (st.graph.task? row.projection.taskId)
      "Scheduler Event task projection is missing."
    let binding ← fromOption (st.graph.binding? task) "Task Context binding is unavailable."
    let contextBytes := E.referenceSize binding.reference
    let reservation := st.currentReservation E task binding
    if ¬ st.budgetAllowsDispatch contextBytes reservation true then do
      let st ← st.blockOnBudget E task timestamp
      return { acc with store := st }
    else do
      let fresh := (st.tables.currentLeases[task.taskId]?).isNone
      let lease := st.proposedLease E hostId task row.projection timestamp
      let (st, approved) ← st.consumeApprovals E task lease.authorityLeaseId lease.lease.attempt
        lease.lease.fence lease.lease.idempotencyKey timestamp task.worktreeAssignment.isNone
      if ¬ approved then do
        let st ← st.blockOnApproval E task lease fresh timestamp
        return { acc with store := st }
      else
        match task.worktreeAssignment with
        | some assignment =>
          match st.occupant task.taskId assignment with
          | some holder => do
            let st ← st.blockOnWorktree E task lease fresh holder timestamp
            return { acc with store := st }
          | none => do
            let (st, request) ← st.requestWorktree E task binding lease fresh assignment timestamp
            return ⟨st, acc.capacity - 1, acc.outgoing ++ [request]⟩
        | none => do
          let (st, dispatch) ← st.dispatchTask E task binding lease fresh contextBytes reservation
            timestamp
          return ⟨st, acc.capacity - 1, acc.outgoing ++ [dispatch]⟩

/-- The number of current leases of running tasks. -/
def runningLeases : Nat :=
  st.tables.currentLeases.keys.countP fun taskId =>
    (st.projection? taskId).any fun p => decide (p.state = .running)

/-- Dispatch ready tasks in scheduling order while capacity remains. -/
def dispatchReady (hostId : String) (timestamp : Timestamp) : Except String Dispatching :=
  foldE (dispatchRow E hostId timestamp)
    ⟨st, budgetLimits st.graph .concurrency - st.runningLeases, []⟩
    (st.orderedRows fun row => decide (row.projection.state = .ready))

/-! ## The public state -/

/-- The contract of a sorted list of artifact identities. -/
def identityListContract (field : String) (ids : List String) : Except String Unit := do
  require (ids.length ≤ 1000) (field ++ " exceeds the item limit.")
  require (sortedUnique ids) (field ++ " must be sorted and unique.")

/-- The contract of a Scheduler State. -/
def stateContract (E : Environment) (state : SchedulerState) : Except String Unit := do
  forEach (projectionContract E "tasks") state.tasks
  require (sortedUnique (state.tasks.map (·.taskId)))
    "Scheduler State tasks must be sorted and unique."
  require (sortedUnique state.readyOrder) "ready_order must be sorted and unique."
  require (∀ taskId ∈ state.readyOrder, taskId ∈ state.tasks.map (·.taskId))
    "ready_order references an unknown task."
  identityListContract "lease_ids" state.leaseIds
  identityListContract "message_ids" state.messageIds
  identityListContract "worktree_lease_ids" state.worktreeLeaseIds

/-- The identities of the stored messages, cut at the export bound. -/
def messageIds : List String :=
  ((st.evidence.messages.map E.messageId).insertionSort (· ≤ ·)).take 1000

/-- The public state of the tables. -/
def publicState : SchedulerState where
  graphId := E.graphId st.graph
  candidate := st.graph.candidate
  tasks := st.tables.tasks.rows.map (·.projection)
  readyOrder := (st.orderedRows fun row => decide (row.projection.state = .ready)).map
    (·.projection.taskId)
  leaseIds := (st.tables.currentLeases.rows.map (·.authorityLeaseId)).insertionSort (· ≤ ·)
  messageIds := st.messageIds E
  budgetLedgerId := E.ledgerId (st.budgetLedger E st.log.length)
  worktreeLeaseIds := (st.tables.currentWorktrees.rows.map E.worktreeLeaseId).insertionSort (· ≤ ·)
  eventSequence := st.log.length
  eventHeadSha256 := headDigest E st.log

/-- The public state, when it meets its contract. -/
def status : Except String SchedulerState := do
  stateContract E (st.publicState E)
  return st.publicState E

/-! ## A tick -/

/-- Revalidate the inputs of the Task Graph: its files, its contexts and its worktree plan. -/
def validateTaskGraphInputs (E : Environment) (graph : TaskGraph) : Except String Unit := do
  require (E.inputFilesValid graph) "Task Graph M2 input validation failed."
  require (∀ task ∈ graph.tasks, (graph.binding? task).isSome)
    "Task references an unknown Context Snapshot."
  require (∀ task ∈ graph.tasks, task.worktreeAssignment.isSome → graph.worktreePlan.isSome)
    "Task worktree assignment does not match its plan."

/-- What a tick returns. -/
structure TickResult where
  store : Store
  state : SchedulerState
  outgoing : List MailboxMessage
  accepted : List String
  rejected : List String

/-- The messages of a tick, with what they caused so far. -/
structure Ingestion where
  store : Store
  outgoing : List MailboxMessage
  accepted : List String
  rejected : List String

/-- Ingest the next message of a tick. -/
def ingestNext (hostId : String) (timestamp : Timestamp) (acc : Ingestion) (m : MailboxMessage) :
    Except String Ingestion := do
  let result ← acc.store.ingestMessage E hostId m timestamp
  return {
    store := result.store
    outgoing := acc.outgoing ++ result.outgoing
    accepted := if result.accepted then acc.accepted ++ [E.messageId m] else acc.accepted
    rejected := if result.accepted then acc.rejected else acc.rejected ++ [E.messageId m] }

/-- The passes of a tick after its arguments were checked. -/
def tickPasses (hostId : String) (messages : List MailboxMessage) (timestamp : Timestamp) :
    Except String TickResult := do
  validateTaskGraphInputs E st.graph
  let st ← st.observeWallTime E timestamp
  let st ← st.expireLeases E timestamp
  let ingestion ← foldE (ingestNext E hostId timestamp) ⟨st, [], [], []⟩ messages
  let st ← ingestion.store.refreshReady E hostId timestamp
  let (st, retried) ← st.retryBudgetBlockedWorktrees E timestamp
  let dispatching ← st.dispatchReady E hostId timestamp
  let state ← dispatching.store.status E
  return {
    store := dispatching.store
    state := state
    outgoing := ingestion.outgoing ++ retried ++ dispatching.outgoing
    accepted := ingestion.accepted.insertionSort (· ≤ ·)
    rejected := ingestion.rejected.insertionSort (· ≤ ·) }

/-- The body of a tick at an instant. The lease policy a caller passes must be the one of the store,
so it is not an argument. -/
def tickBody (hostId : String) (messages : List MailboxMessage) (now : Timestamp) :
    Except String TickResult := do
  require (isHostId hostId) "tick host_id must be a host identifier."
  st.tickPasses E hostId messages (formatUtc now)

/-! ## Cancellation -/

/-- The first transaction of a cancellation: record the wall time and expire the target when its
lease has run out. The result says whether it did. -/
def cancelPrelude (hostId taskId : String) (timestamp : Timestamp) :
    Except String (Store × Bool) := do
  let st ← st.observeWallTime E timestamp
  if (st.tables.currentLeases[taskId]?).any fun current =>
      decide (current.lease.ownerId = hostId ∧ current.lease.expiresAt ≤ timestamp) then do
    let st ← st.expireLeases E timestamp
    return (st, true)
  else return (st, false)

/-- The cause of the event that opened the attempt a cancellation answers. -/
def cancelParentCause : DispatchPhase → Option EventCause
  | .notDispatched => some .worktreeRequest
  | .intentPending => some .dispatchIntent
  | .accepted => some .dispatchIntent
  | _ => none

/-- The last adopted intent of the attempt under a lease. -/
def cancelParent (cause : EventCause) (taskId : String) (current : CurrentLease) :
    Option Adoption :=
  History.lastWhere
    (fun a : Adoption => decide (a.event.cause = cause ∧ a.event.taskId = some taskId ∧
      a.event.leaseId = some current.authorityLeaseId ∧ a.message.taskId? = some taskId ∧
      a.message.leaseId? = some current.authorityLeaseId ∧
      a.message.recipient = current.lease.ownerId))
    (st.evidence.adoptions E st.log)

/-- The request that asks a host to cancel. -/
def cancelMessage (hostId : String) (task : SchedulerTask) (binding : ContextBinding)
    (current : CurrentLease) (parentId reason : String) (timestamp : Timestamp) :
    MailboxMessage where
  sender := "HST-SCHEDULER"
  recipient := hostId
  graphId := E.graphId st.graph
  candidate := st.graph.candidate
  sensitivity := binding.sensitivity
  provenance := [binding.reference]
  causalParentMessageIds := [parentId]
  recordedAt := timestamp
  body := .task (leaseIdentity task current.authorityLeaseId current.lease)
    (.cancelRequest reason)

/-- The stored cancellation of the attempt under a lease. -/
def existingCancel (taskId : String) (current : CurrentLease) : Option MailboxMessage :=
  History.lastWhere
    (fun m : MailboxMessage => decide (m.messageType = .cancelRequest ∧
      m.taskId? = some taskId ∧ m.leaseId? = some current.authorityLeaseId))
    st.evidence.messages

/-- Record a new cancellation request. -/
def insertCancel (hostId : String) (task : SchedulerTask) (current : CurrentLease)
    (reason : String) (timestamp : Timestamp) : Except String (Store × MailboxMessage) := do
  let prior ← fromOption (st.projection? task.taskId) "Cancellation has no active host intent."
  require (prior.state = .running) "Cancellation has no active host intent."
  let parent ← fromOption
    ((cancelParentCause prior.dispatchPhase).bind fun cause =>
      st.cancelParent E cause task.taskId current)
    "Cancellation has no active host intent."
  let binding ← fromOption (st.graph.binding? task) "Task Context binding is unavailable."
  let m := st.cancelMessage E hostId task binding current parent.messageId reason timestamp
  let st ← st.insertSchedulerMessage E m
  let st := st.updateProjection task.taskId fun p =>
    { p with dispatchPhase := .cancellationRequested }
  let st ← st.appendEvent E timestamp
    { actor := "scheduler"
      cause := .cancelRequest
      taskId := some task.taskId
      contextSnapshotId := some task.contextSnapshotId
      beforeState := some prior.state
      afterState := some prior.state
      leaseId := some current.authorityLeaseId
      messageId := some (E.messageId m) }
  return (st, m)

/-- The second transaction of a cancellation: return the stored request of the attempt, or create
it. -/
def cancelBody (hostId taskId reason : String) (timestamp : Timestamp) :
    Except String (Store × MailboxMessage) := do
  validateTaskGraphInputs E st.graph
  let st ← st.observeWallTime E timestamp
  let st ← st.expireLeases E timestamp
  match st.graph.task? taskId, st.tables.currentLeases[taskId]? with
  | some task, some current =>
    if current.lease.ownerId ≠ hostId then
      .error "Cancellation requires the current host-owned lease."
    else
      match st.existingCancel taskId current with
      | some existing => return (st, existing)
      | none => st.insertCancel E hostId task current reason timestamp
  | _, _ => .error "Cancellation requires the current host-owned lease."

end Store

end Sdaqf
