import Sdaqf.Events

/-!
# Applying a message

The transitions of the live policy that a mailbox message or the clock causes: acknowledgement,
heartbeat, result, cancellation, worktree observation, the activation of a dispatch, and the expiry
of a lease. Each writes the task row and the totals and appends its events.
-/

namespace Sdaqf

open Guard

namespace Store

variable (E : Environment) (st : Store)

/-! ## Releasing -/

/-- The lease a release writes. -/
def releasedLease (lease : Lease) (outcome : TaskOutcome) : Lease :=
  { lease with status := .released, releaseOutcome := outcome }

/-- The worktree lease a release writes. -/
def releasedWorktree (lease : WorktreeLease) : WorktreeLease :=
  { lease with
    status := .released
    ambiguous := false
    recoveryGuidance := "Worktree authority is released; reacquire before reuse." }

/-- Release the current worktree lease of a task; the history row joins the next event. -/
def releaseCurrentWorktree (taskId : String) : Store × List WorktreeLease :=
  match st.tables.currentWorktrees[taskId]? with
  | none => (st, [])
  | some lease => (st.deleteCurrentWorktree taskId, [releasedWorktree lease])

/-- Release the current lease of a task; the history rows join the next event. -/
def releaseCurrentLease (current : CurrentLease) (taskId : String) (outcome : TaskOutcome)
    (releaseWorktree : Bool) : Store × List LeaseRow × List WorktreeLease :=
  let (st, worktreeRows) :=
    if releaseWorktree then st.releaseCurrentWorktree taskId else (st, [])
  (st.deleteCurrentLease taskId,
    [⟨current.authorityLeaseId, releasedLease current.lease outcome⟩], worktreeRows)

/-- One deterministic blocker. -/
def blockers (code : String) (references : List String) : List Blocker := [⟨code, references⟩]

/-! ## Causal parents -/

/-- The one earlier message a message answers. -/
def causalParentMessage (ev : Evidence) (log : List Entry) (m : MailboxMessage)
    (expected : MessageType) (leaseId : String) (before : Option Nat) :
    Option (String × MailboxMessage) :=
  match m.causalParentMessageIds with
  | [parentId] =>
    (ev.message? E parentId).bind fun parent =>
      (primaryEvent? log parentId).bind fun primary =>
        if parent.messageType = expected ∧ primary.cause ∈ expected.primaryCauses ∧
            (∀ n ∈ before, primary.sequence < n) ∧ parent.taskId? = m.taskId? ∧
            parent.attempt? = m.attempt? ∧ parent.leaseId? = some leaseId ∧
            parent.fence? = m.fence? ∧ parent.idempotencyKey? = m.idempotencyKey? then
          some (parentId, parent)
        else none
  | _ => none

/-- The newest adopted worktree observation under a lease, among the given messages. -/
def latestWorktreeObservation (messages : List MailboxMessage) (log : List Entry)
    (taskId leaseId : String) (before : Option Nat) : Option String :=
  (History.lastWhere
    (fun m : MailboxMessage =>
      decide (m.messageType = .worktreeObservation ∧ m.taskId? = some taskId ∧
        m.leaseId? = some leaseId) &&
      (primaryEvent? log (E.messageId m)).any fun e =>
        decide (e.cause = .worktreeObserved ∧ ∀ n ∈ before, e.sequence < n))
    messages).map E.messageId

/-! ## Approvals -/

/-- An approved decision that a dispatch may use at an instant. -/
def approvalMatches (m : MailboxMessage) (approvalType : ApprovalType)
    (effectDigest leaseId : String) (attempt fence : Nat) (idempotencyKey : String)
    (at' : Timestamp) : Prop :=
  match m.approval? with
  | none => False
  | some payload =>
    payload.approvalType = approvalType ∧ payload.decision = .approved ∧
      payload.transition = "dispatch" ∧ payload.effectDigest = effectDigest ∧
      m.attempt? = some attempt ∧ m.leaseId? = some leaseId ∧ m.fence? = some fence ∧
      m.idempotencyKey? = some idempotencyKey ∧
      payload.approvedAt ≤ at' ∧ at' < payload.expiresAt

instance {m : MailboxMessage} {approvalType : ApprovalType} {effectDigest leaseId : String}
    {attempt fence : Nat} {idempotencyKey : String} {at' : Timestamp} :
    Decidable (approvalMatches m approvalType effectDigest leaseId attempt fence idempotencyKey
      at') := by
  unfold approvalMatches
  split <;> infer_instance

/-- The first adopted decision of a type that is unconsumed and matches. -/
def selectApproval (task : SchedulerTask) (approvalType : ApprovalType) (leaseId : String)
    (attempt fence : Nat) (idempotencyKey : String) (timestamp : Timestamp) :
    Option (String × MailboxMessage) :=
  ((st.evidence.adoptionsOf E st.log .approvalReceived).find? fun a =>
    decide (a.message.taskId? = some task.taskId ∧
      approvalMatches a.message approvalType (E.effectDigest task) leaseId attempt fence
        idempotencyKey timestamp) &&
    a.message.approval?.all fun payload =>
      (st.tables.approvalConsumptions[payload.approvalId]?).isNone).map
    fun a => (a.messageId, a.message)

/-- One selected decision for every approval stop, or none when one is missing. -/
def selectApprovals (task : SchedulerTask) (leaseId : String) (attempt fence : Nat)
    (idempotencyKey : String) (timestamp : Timestamp) : Option (List (String × MailboxMessage)) :=
  task.approvalStops.mapM fun approvalType =>
    st.selectApproval E task approvalType leaseId attempt fence idempotencyKey timestamp

/-- Consume one decision. The approval identity is the primary key of the consumptions, and a
message is consumed once. -/
def consumeApproval (task : SchedulerTask) (state : TaskState) (leaseId : String)
    (timestamp : Timestamp) (st : Store) (selection : String × MailboxMessage) :
    Except String Store := do
  let payload ← fromOption selection.2.approval? "Approval payload is missing."
  require ((st.tables.approvalConsumptions[payload.approvalId]?).isNone)
    "UNIQUE constraint failed: approval_consumptions.approval_id"
  require (∀ c ∈ st.tables.approvalConsumptions.rows, c.messageId ≠ selection.1)
    "UNIQUE constraint failed: approval_consumptions.message_id"
  let st := st.withTables fun t =>
    { t with
      approvalConsumptions := t.approvalConsumptions.insert payload.approvalId
        ⟨selection.1, task.taskId, nextSequence st.log⟩ }
  st.appendEvent E timestamp
    { actor := "scheduler"
      cause := .approvalConsumed
      taskId := some task.taskId
      contextSnapshotId := some task.contextSnapshotId
      beforeState := some state
      afterState := some state
      leaseId := some leaseId
      messageId := some selection.1
      approvalId := some payload.approvalId }

/-- Select one decision for every stop and consume the selection. The result says whether every stop
was met. -/
def consumeApprovals (task : SchedulerTask) (leaseId : String) (attempt fence : Nat)
    (idempotencyKey : String) (timestamp : Timestamp) (consume : Bool) :
    Except String (Store × Bool) :=
  match st.selectApprovals E task leaseId attempt fence idempotencyKey timestamp with
  | none => .ok (st, false)
  | some selections =>
    if consume then do
      let p ← fromOption (st.projection? task.taskId) "Scheduler Event task projection is missing."
      let st ← foldE (consumeApproval E task p.state leaseId timestamp) st selections
      return (st, true)
    else .ok (st, true)

/-! ## Dispatch -/

/-- The exact context and Skill inputs supplied to a task. -/
def taskInputProvenance (task : SchedulerTask) (binding : ContextBinding) :
    List ArtifactReference :=
  binding.reference :: E.skillReferences task.requiredCapabilities

/-- The attempt a lease stands for. -/
def leaseIdentity (task : SchedulerTask) (authority : String) (lease : Lease) : TaskIdentity where
  taskId := task.taskId
  contextSnapshotId := task.contextSnapshotId
  attempt := lease.attempt
  leaseId := authority
  fence := lease.fence
  idempotencyKey := lease.idempotencyKey

/-- The dispatch intent of a task under a lease. -/
def dispatchMessage (task : SchedulerTask) (binding : ContextBinding) (authority : String)
    (lease : Lease) (causalParents : List String) (contextBytes : Nat)
    (reservation : BudgetReservation) (timestamp : Timestamp) : MailboxMessage where
  sender := "HST-SCHEDULER"
  recipient := lease.ownerId
  graphId := E.graphId st.graph
  candidate := st.graph.candidate
  sensitivity := binding.sensitivity
  provenance := taskInputProvenance E task binding
  causalParentMessageIds := causalParents
  recordedAt := timestamp
  body := .task (leaseIdentity task authority lease) (.dispatchIntent
    { effectDigest := E.effectDigest task
      leaseTtlSeconds := st.evidence.leaseTtlSeconds
      heartbeatIntervalSeconds := st.evidence.heartbeatIntervalSeconds
      requiredCapabilities := task.requiredCapabilities
      requiredTools := task.requiredTools
      contextBytes := contextBytes
      budgetReservation := reservation })

/-- Append a scheduler-authored message; its identity must be new. -/
def insertSchedulerMessage (m : MailboxMessage) : Except String Store := do
  require ((st.evidence.message? E (E.messageId m)).isNone)
    "UNIQUE constraint failed: messages.artifact_id"
  return st.insertMessage m

/-- The context bytes and the reservation of a dispatch at the current totals. -/
def currentReservation (task : SchedulerTask) (binding : ContextBinding) : BudgetReservation :=
  dispatchReservation E st.graph task (E.referenceSize binding.reference) st.reserved st.used

/-- Dispatch a task whose worktree is observed, or record what blocks the dispatch. -/
def activateDispatchAfterWorktree (task : SchedulerTask) (current : CurrentLease)
    (causalParent : String) (timestamp : Timestamp) :
    Except String (Store × Option MailboxMessage) := do
  let binding ← fromOption (st.graph.binding? task) "Task Context binding is unavailable."
  let contextBytes := E.referenceSize binding.reference
  let reservation := st.currentReservation E task binding
  if ¬ st.budgetAllowsDispatch contextBytes reservation false then do
    let blocked := blockers "budget-exhausted" []
    let prior ← fromOption (st.projection? task.taskId)
      "Scheduler Event task projection is missing."
    let st := st.updateProjection task.taskId fun p =>
      { p with
        state := .running
        dispatchPhase := .notDispatched
        outcome := .none
        blockers := blocked }
    if prior.blockers = blocked then return (st, none)
    let st ← st.appendEvent E timestamp
      { actor := "scheduler"
        cause := .dispatchBudgetBlocked
        taskId := some task.taskId
        contextSnapshotId := some task.contextSnapshotId
        beforeState := some .running
        afterState := some .running
        leaseId := some current.authorityLeaseId
        reason := some "budget-exhausted" }
    return (st, none)
  else do
    let (st, approved) ← st.consumeApprovals E task current.authorityLeaseId
      current.lease.attempt current.lease.fence current.lease.idempotencyKey timestamp true
    if ¬ approved then do
      let st := st.updateProjection task.taskId fun p =>
        { p with blockers := blockers "approval-required" [] }
      let st ← st.appendEvent E timestamp
        { actor := "scheduler"
          cause := .dispatchApprovalBlocked
          taskId := some task.taskId
          contextSnapshotId := some task.contextSnapshotId
          beforeState := some .running
          afterState := some .running
          leaseId := some current.authorityLeaseId
          reason := some "approval-required" }
      return (st, none)
    else do
      let dispatch := st.dispatchMessage E task binding current.authorityLeaseId current.lease
        [causalParent] contextBytes reservation timestamp
      let st ← st.insertSchedulerMessage E dispatch
      let st := st.updateProjection task.taskId fun p =>
        { p with dispatchPhase := .intentPending, blockers := [] }
      let st ← st.changeBudget .dispatches 0 1
      let st ← st.reserveAll reservation
      let st ← st.appendEvent E timestamp
        { actor := "scheduler"
          cause := .dispatchIntent
          taskId := some task.taskId
          contextSnapshotId := some task.contextSnapshotId
          beforeState := some .running
          afterState := some .running
          leaseId := some current.authorityLeaseId
          messageId := some (E.messageId dispatch)
          budgetDeltas := dispatchDeltas reservation false
          snapshot := true }
      return (st, some dispatch)

/-! ## The worktree observation -/

/-- The requests and observations of one worktree agree with the live policy. -/
def worktreeAuthority (graphId : String) (graph : TaskGraph) (task : SchedulerTask)
    (binding : ContextBinding) (assignment : String) (prior : TaskProjection) (leaseId : String)
    (lease : Lease) (m : MailboxMessage) (observedWorktree : String)
    (request : String × MailboxMessage) (recordedAt : Timestamp) : Prop :=
  prior.state = .running ∧ prior.dispatchPhase = .notDispatched ∧ prior.outcome = .none ∧
    lease.graphId = graphId ∧ lease.taskId = task.taskId ∧ lease.candidate = graph.candidate ∧
    lease.contextSnapshotId = task.contextSnapshotId ∧ lease.status = .current ∧
    lease.releaseOutcome = .none ∧
    request.2 =
      { sender := "HST-SCHEDULER"
        recipient := lease.ownerId
        graphId := graphId
        candidate := graph.candidate
        sensitivity := binding.sensitivity
        provenance := [binding.reference]
        causalParentMessageIds := []
        recordedAt := request.2.recordedAt
        body := .task (leaseIdentity task leaseId lease)
          (.worktreeRequest assignment task.ownedPaths) } ∧
    m.messageType = .worktreeObservation ∧ m.sender = lease.ownerId ∧
    m.recipient = "HST-SCHEDULER" ∧ m.graphId = graphId ∧ m.candidate = graph.candidate ∧
    m.identity? = some (leaseIdentity task leaseId lease) ∧
    m.sensitivity = binding.sensitivity ∧ m.provenance = [binding.reference] ∧
    m.causalParentMessageIds = [request.1] ∧ m.recordedAt ≤ recordedAt ∧
    observedWorktree = assignment

instance {graphId : String} {graph : TaskGraph} {task : SchedulerTask} {binding : ContextBinding}
    {assignment : String} {prior : TaskProjection} {leaseId : String} {lease : Lease}
    {m : MailboxMessage} {observedWorktree : String} {request : String × MailboxMessage}
    {recordedAt : Timestamp} :
    Decidable (worktreeAuthority graphId graph task binding assignment prior leaseId lease m
      observedWorktree request recordedAt) := by
  unfold worktreeAuthority
  infer_instance

/-- The worktree lease a host observation stands for, whether it ends the attempt, and why. -/
structure WorktreeVerdict where
  worktree : WorktreeLease
  terminal : Bool
  reason : Option String

/-- Derive the exact worktree lease of an observation, or refuse it. -/
def deriveExactWorktreeObservation (graphId : String) (graph : TaskGraph) (task : SchedulerTask)
    (prior : TaskProjection) (leaseId : String) (lease : Lease) (priorWorktree : WorktreeLease)
    (m : MailboxMessage) (request : String × MailboxMessage) (recordedAt : Timestamp) :
    Except String WorktreeVerdict :=
  match graph.worktreePlan, task.worktreeAssignment, graph.binding? task, m.body with
  | some plan, some assignment, some binding,
      .task _ (.worktreeObservation observedWorktree observedDigest state) => do
    require (worktreeAuthority graphId graph task binding assignment prior leaseId lease m
      observedWorktree request recordedAt)
      "Worktree observation authority does not match live policy."
    require (priorWorktree.status.active = true ∧ priorWorktree.graphId = graphId ∧
      priorWorktree.taskId = task.taskId ∧ priorWorktree.worktreePlan = plan ∧
      priorWorktree.baseCommit = graph.candidate.gitHead ∧
      priorWorktree.worktree = assignment ∧ priorWorktree.ownerId = lease.ownerId ∧
      priorWorktree.ownedPaths = task.ownedPaths ∧ priorWorktree.fence = lease.fence)
      "Worktree observation authority prior Worktree Lease drifted."
    let ambiguous := decide (state = .ambiguous)
    let integrated := decide (state = .integrated)
    return {
      worktree :=
        { graphId := graphId
          taskId := task.taskId
          worktreePlan := plan
          baseCommit := graph.candidate.gitHead
          worktree := assignment
          ownerId := lease.ownerId
          ownedPaths := task.ownedPaths
          fence := lease.fence
          observedDigest := observedDigest
          status := if ambiguous then .blocked else if integrated then .integrated else .observed
          integrationState := if ambiguous then .ambiguous else .verified
          ambiguous := ambiguous
          recoveryGuidance := "Preserve the worktree and require an exact host observation." }
      terminal := ambiguous || integrated
      reason :=
        if ambiguous then some "ambiguous-worktree"
        else if integrated then some "worktree-already-integrated" else none }
  | _, _, _, _ => .error "Worktree observation authority is not assigned by the graph."

/-- Record a host observation of a worktree, and dispatch the task unless the observation ends the
attempt. -/
def applyWorktreeObservation (task : SchedulerTask) (current : CurrentLease) (m : MailboxMessage)
    (verdict : WorktreeVerdict) (timestamp : Timestamp) :
    Except String (Store × Option MailboxMessage) :=
  if verdict.terminal then do
    let (st, leaseRows, _) := st.releaseCurrentLease current task.taskId .unknown false
    let st := st.deleteCurrentWorktree task.taskId
    let st := st.updateProjection task.taskId fun p =>
      { p with
        state := .blocked
        dispatchPhase := .notDispatched
        outcome := .unknown
        blockers := blockers (verdict.reason.getD "None") [] }
    let st ← st.changeBudget .concurrency (-1) 0
    let st ← st.appendEvent E timestamp
      { actor := current.lease.ownerId
        cause := .worktreeObserved
        taskId := some task.taskId
        contextSnapshotId := some task.contextSnapshotId
        beforeState := some .running
        afterState := some .blocked
        leaseId := some current.authorityLeaseId
        messageId := some (E.messageId m)
        reason := verdict.reason
        budgetDeltas := BudgetDeltas.single .concurrency (-1)
        leaseRows := leaseRows
        worktreeRows := [verdict.worktree]
        snapshot := true }
    return (st, none)
  else do
    let st ← st.appendEvent E timestamp
      { actor := current.lease.ownerId
        cause := .worktreeObserved
        taskId := some task.taskId
        contextSnapshotId := some task.contextSnapshotId
        beforeState := some .running
        afterState := some .running
        leaseId := some current.authorityLeaseId
        messageId := some (E.messageId m)
        reason := verdict.reason
        worktreeRows := [verdict.worktree] }
    let st := st.putCurrentWorktree task.taskId verdict.worktree
    st.activateDispatchAfterWorktree E task current (E.messageId m) timestamp

/-! ## Ending an attempt -/

/-- How an attempt ends: the projection fields it writes and the reason it records. -/
structure Ending where
  state : TaskState
  phase : DispatchPhase
  outcome : TaskOutcome
  reason : String

/-- Close an attempt without a successful result: close its budget, release its lease, write the
task row and append the event. -/
def endAttempt (task : SchedulerTask) (current : CurrentLease) (cause : EventCause)
    (actor : String) (messageId resultId : Option String) (deltas : BudgetDeltas)
    (retried : Bool) (ending : Ending) (timestamp : Timestamp) : Except String Store := do
  let (st, leaseRows, worktreeRows) :=
    st.releaseCurrentLease current task.taskId ending.outcome true
  let st := st.updateProjection task.taskId fun p =>
    { p with
      state := ending.state
      dispatchPhase := ending.phase
      outcome := ending.outcome
      blockers := blockers ending.reason [] }
  let st ← st.changeBudget .concurrency (-1) 0
  st.appendEvent E timestamp
    { actor := actor
      cause := cause
      taskId := some task.taskId
      contextSnapshotId := some task.contextSnapshotId
      beforeState := some .running
      afterState := some ending.state
      leaseId := some current.authorityLeaseId
      messageId := messageId
      resultId := resultId
      reason := some ending.reason
      budgetDeltas := ((BudgetDeltas.single .concurrency (-1)).and deltas).and
        (if retried then BudgetDeltas.single .retries 1 else BudgetDeltas.none)
      leaseRows := leaseRows
      worktreeRows := worktreeRows
      snapshot := true }

/-- Apply the answer of a host to a dispatch. -/
def applyDispatchAck (task : SchedulerTask) (current : CurrentLease) (m : MailboxMessage)
    (accepted : Bool) (observed : DispatchEffect) (timestamp : Timestamp) :
    Except String Store :=
  if accepted then do
    let (st, contextUsed) ← st.settleContextReservation E task.taskId current.authorityLeaseId
    let st := st.updateProjection task.taskId fun p => { p with dispatchPhase := .accepted }
    st.appendEvent E timestamp
      { actor := current.lease.ownerId
        cause := .dispatchAccepted
        taskId := some task.taskId
        contextSnapshotId := some task.contextSnapshotId
        beforeState := some .running
        afterState := some .running
        leaseId := some current.authorityLeaseId
        messageId := some (E.messageId m)
        budgetDeltas := BudgetDeltas.single .contextBytes contextUsed
        snapshot := decide (contextUsed ≠ 0) }
  else do
    let (st, retried) ← st.reserveRetryIf (observed = .none ∧ task.effectKind = .readOnly ∧
      current.lease.attempt < task.maxAttempts)
    let (st, deltas) ← st.closeAttemptBudget E task.taskId current.authorityLeaseId false
    st.endAttempt E task current .dispatchRejected current.lease.ownerId
      (some (E.messageId m)) none deltas retried
      (if retried then ⟨.ready, .notDispatched, .failed, "unambiguous-dispatch-rejection"⟩
        else ⟨.blocked, .notDispatched, .unknown, "dispatch-rejection-ambiguous"⟩)
      timestamp

/-- Extend the lease of a running attempt. -/
def applyHeartbeat (task : SchedulerTask) (current : CurrentLease) (m : MailboxMessage)
    (timestamp : Timestamp) : Except String Store :=
  let refreshed : Lease :=
    { current.lease with
      heartbeatAt := timestamp
      expiresAt := formatUtc (addSeconds timestamp current.lease.ttlSeconds)
      status := .current
      releaseOutcome := .none }
  let row : LeaseRow := ⟨current.authorityLeaseId, refreshed⟩
  (st.putCurrentLease task.taskId row).appendEvent E timestamp
    { actor := current.lease.ownerId
      cause := .heartbeat
      taskId := some task.taskId
      contextSnapshotId := some task.contextSnapshotId
      beforeState := some .running
      afterState := some .running
      leaseId := some current.authorityLeaseId
      messageId := some (E.messageId m)
      leaseRows := [row] }

/-- The review targets of a task that are not completed. -/
def incompleteReviews (task : SchedulerTask) : List String :=
  task.reviewTargets.filter fun target =>
    (st.projection? target).any fun p => decide (p.state ≠ .completed)

/-- Why a successful result is not verified. -/
def verificationReason (task : SchedulerTask) (evidence : List ArtifactReference)
    (incomplete : List String) : Option String :=
  if task.evidencePredicate = ["evidence-reference-present"] ∧ evidence = [] then
    some "evidence-predicate-unsatisfied"
  else if task.terminalPredicate ≠ ["agent-result-valid"] then
    some "terminal-predicate-unsupported"
  else if incomplete ≠ [] then some "review-targets-unsatisfied"
  else none

/-- Verify a received result: complete the task or block it. -/
def verifyResult (task : SchedulerTask) (resultId : String) (evidence : List ArtifactReference)
    (timestamp : Timestamp) : Except String Store :=
  let incomplete := st.incompleteReviews task
  match verificationReason task evidence incomplete with
  | some reason =>
    (st.updateProjection task.taskId fun p =>
      { p with
        state := .blocked
        outcome := .unknown
        blockers := blockers reason incomplete }).appendEvent E timestamp
      { actor := "scheduler"
        cause := .verificationBlocked
        taskId := some task.taskId
        contextSnapshotId := some task.contextSnapshotId
        beforeState := some .verification
        afterState := some .blocked
        resultId := some resultId
        reason := some reason }
  | none =>
    (st.updateProjection task.taskId fun p =>
      { p with state := .completed, outcome := .succeeded, blockers := [] }).appendEvent E
      timestamp
      { actor := "scheduler"
        cause := .verificationCompleted
        taskId := some task.taskId
        contextSnapshotId := some task.contextSnapshotId
        beforeState := some .verification
        afterState := some .completed
        resultId := some resultId }

/-- Apply the result of an attempt. -/
def applyResult (task : SchedulerTask) (current : CurrentLease) (m : MailboxMessage)
    (payload : TaskResultPayload) (timestamp : Timestamp) : Except String Store := do
  let (st, deltas) ← st.settleResultBudget E task.taskId current.authorityLeaseId
    payload.budgetUsage
  let messageId := E.messageId m
  if payload.outcome = .succeeded ∧ payload.effectObserved ≠ .ambiguous then do
    let (st, leaseRows, worktreeRows) :=
      st.releaseCurrentLease current task.taskId .succeeded true
    let st := st.updateProjection task.taskId fun p =>
      { p with
        state := .verification
        dispatchPhase := .accepted
        outcome := .succeeded
        blockers := [] }
    let st ← st.changeBudget .concurrency (-1) 0
    let st ← st.appendEvent E timestamp
      { actor := current.lease.ownerId
        cause := .resultReceived
        taskId := some task.taskId
        contextSnapshotId := some task.contextSnapshotId
        beforeState := some .running
        afterState := some .verification
        leaseId := some current.authorityLeaseId
        messageId := some messageId
        resultId := some messageId
        budgetDeltas := (BudgetDeltas.single .concurrency (-1)).and deltas
        leaseRows := leaseRows
        worktreeRows := worktreeRows
        snapshot := true }
    st.verifyResult E task messageId payload.evidenceRefs timestamp
  else do
    let unambiguous := decide (payload.outcome = .failed ∧ payload.effectObserved = .none)
    let (st, retried) ← st.reserveRetryIf (unambiguous ∧ task.effectKind = .readOnly ∧
      current.lease.attempt < task.maxAttempts)
    st.endAttempt E task current .resultTerminal current.lease.ownerId
      (some messageId) (some messageId) deltas retried
      (if retried then ⟨.ready, .notDispatched, .failed, "safe-read-only-retry"⟩
        else if unambiguous then ⟨.rejected, .notDispatched, .failed, "unambiguous-failure"⟩
        else ⟨.blocked, .notDispatched, .unknown, "ambiguous-external-effect"⟩)
      timestamp

/-- Apply the answer of a host to a cancellation. -/
def applyCancelAck (task : SchedulerTask) (current : CurrentLease) (m : MailboxMessage)
    (cancelled : Bool) (observed : ObservedEffect) (timestamp : Timestamp) :
    Except String Store := do
  let (st, deltas) ← st.closeAttemptBudget E task.taskId current.authorityLeaseId true
  st.endAttempt E task current .cancelAcknowledgement current.lease.ownerId
    (some (E.messageId m)) none deltas false
    (if cancelled = true ∧ observed = .none then
        ⟨.superseded, .cancellationAcknowledged, .cancelled, "cancellation-acknowledged"⟩
      else ⟨.blocked, .cancellationRequested, .unknown, "cancellation-ambiguous"⟩)
    timestamp

/-! ## Expiry -/

/-- Roll an unactivated proposal back when its lease expires. -/
def expireProposal (task : SchedulerTask) (current : CurrentLease) (timestamp : Timestamp) :
    Except String Store := do
  let prior ← fromOption (st.projection? task.taskId) "Scheduler Event task projection is missing."
  let (st, leaseRows, worktreeRows) := st.releaseCurrentLease current task.taskId .none true
  let st := st.updateProjection task.taskId fun p =>
    { p with
      state := .ready
      dispatchPhase := .notDispatched
      attempt := current.lease.attempt - 1
      fence := current.lease.fence - 1
      blockers := [] }
  st.appendEvent E timestamp
    { actor := "scheduler"
      cause := .approvalProposalExpired
      taskId := some task.taskId
      contextSnapshotId := some task.contextSnapshotId
      beforeState := some prior.state
      afterState := some .ready
      leaseId := some current.authorityLeaseId
      reason := some "approval-proposal-expired"
      leaseRows := leaseRows
      worktreeRows := worktreeRows }

/-- End an activated attempt whose lease expired. -/
def expireAttempt (task : SchedulerTask) (current : CurrentLease) (timestamp : Timestamp) :
    Except String Store := do
  let (st, retried) ← st.reserveRetryIf (task.effectKind = .readOnly ∧
    current.lease.attempt < task.maxAttempts)
  let (st, deltas) ← st.closeAttemptBudget E task.taskId current.authorityLeaseId true
  st.endAttempt E task current .leaseExpired "scheduler" none none deltas retried
    (if retried then ⟨.ready, .notDispatched, .failed, "lease-expired-safe-retry"⟩
      else ⟨.blocked, .notDispatched, .unknown, "lease-expired-ambiguous"⟩)
    timestamp

/-- Expire one current lease, when its time has come. -/
def expireLease (timestamp : Timestamp) (st : Store) (row : String × CurrentLease) :
    Except String Store :=
  if timestamp < row.2.lease.expiresAt then .ok st
  else do
    let task ← fromOption (st.graph.task? row.1) "Scheduler Event task projection is missing."
    if st.leaseWasActivated E task.taskId row.2.authorityLeaseId then
      st.expireAttempt E task row.2 timestamp
    else st.expireProposal E task row.2 timestamp

/-- Expire every lease whose time has come, in task order. -/
def expireLeases (timestamp : Timestamp) : Except String Store :=
  foldE (expireLease E timestamp) st st.tables.currentLeases.toList

/-- Record the elapsed wall time. -/
def observeWallTime (timestamp : Timestamp) : Except String Store :=
  if timestamp < st.evidence.createdAt then
    .error "Scheduler clock moved before database creation."
  else
    let elapsed : Int := ((timestamp - st.evidence.createdAt) / second : Nat)
    let previous := st.used .wallTimeSeconds
    if elapsed ≤ previous then .ok st
    else do
      let st ← st.changeBudget .wallTimeSeconds 0 (elapsed - previous)
      st.appendEvent E timestamp
        { actor := "scheduler"
          cause := .wallTimeObserved
          budgetDeltas := BudgetDeltas.single .wallTimeSeconds (elapsed - previous)
          snapshot := true }

end Store

end Sdaqf
