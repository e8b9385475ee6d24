import Sdaqf.ReplayLedger

/-!
# The validator of a store

The mutable tables are what the immutable evidence says they are. The historical state of an event
reads the prefix of the evidence that ends there; the scheduler authority of a workflow event is
checked against it. Validating a store validates its evidence and then its tables.
-/

namespace Sdaqf

open Guard Store

variable (E : Environment) (ev : Evidence)

/-! ## Task and lease projections -/

/-- The task row a graph node must have. -/
def expectedRow (task : SchedulerTask) (row : TaskRow) : Except String Unit := do
  require (row.definition = task) "Scheduler task definition drifted."
  require (row.wave = task.wave ∧ row.topologicalRank = ev.graph.topologicalRank task.taskId)
    "Scheduler task ordering projection drifted."
  require (row.projection.attempt = row.projection.fence ∧
    row.projection.attempt ≤ task.maxAttempts)
    "Scheduler task attempt or fence drifted."
  require (some row.projection = projectionAt ev.graph ev.log task.taskId)
    "Scheduler task projection drifted from event evidence."

/-- The pairs of a task and one of its dependencies. -/
def dependencyPairs (graph : TaskGraph) : Finset (String × String) :=
  (graph.tasks.flatMap fun task => task.dependencies.map fun d => (task.taskId, d)).toFinset

/-- The consumption an event records. -/
def consumptionOf (e : SchedulerEvent) : Option (String × Consumption) :=
  match e.approvalId, e.messageId, e.taskId with
  | some approvalId, some messageId, some taskId =>
    some (approvalId, ⟨messageId, taskId, e.sequence⟩)
  | _, _, _ => none

/-- The approval consumptions that the events record. -/
def recordedConsumptions (log : List Entry) : List (String × Consumption) :=
  (eventsOf log .approvalConsumed).filterMap consumptionOf

/-- The tasks whose latest lease row is current. -/
def currentLeaseOf (log : List Entry) (taskId : String) : Option CurrentLease :=
  (latestLeaseRow log taskId).filter fun row => decide (row.lease.status = .current)

/-- The active worktree lease of a task. -/
def currentWorktreeOf (log : List Entry) (taskId : String) : Option WorktreeLease :=
  (latestWorktreeRow log taskId).filter (·.status.active)

/-- Compare the mutable tables with the immutable evidence. -/
def validateProjections (tables : Tables) : Except String Unit := do
  require (tables.tasks.keys = ev.graph.tasks.map (·.taskId))
    "Scheduler task projection does not match the graph."
  forEach (fun task : SchedulerTask => do
    let row ← fromOption tables.tasks[task.taskId]?
      "Scheduler task projection does not match the graph."
    expectedRow ev task row) ev.graph.tasks
  require (tables.dependencies = dependencyPairs ev.graph)
    "Scheduler dependency projection drifted."
  require (∀ taskId ∈ tables.currentLeases.keys ++ (leaseHistory ev.log).map (·.lease.taskId),
    (taskId ∈ tables.currentLeases.keys ↔ (currentLeaseOf ev.log taskId).isSome))
    "Current lease projection set drifted from lease history."
  forEach (fun pair : String × CurrentLease => do
    validateAuthoritativeLease ev pair.2.lease
    require (pair.2.lease.taskId = pair.1 ∧ pair.2.lease.status = .current)
      "Current lease projection drifted."
    require (currentLeaseOf ev.log pair.1 = some pair.2)
      "Current lease does not match lease history.") tables.currentLeases.toList
  require (∀ r : Resource, 0 ≤ (tables.budgetTotals r).reserved ∧
    0 ≤ (tables.budgetTotals r).used)
    "Budget projection contains a negative total."
  let ledger ← validateBudgetEvidence E ev
  require (∀ r : Resource, tables.budgetTotals r =
    ⟨ledger.reserved r, ledger.used r, ledger.availability r⟩)
    "Budget totals drifted from immutable ledger evidence."
  require (∀ taskId ∈ tables.currentWorktrees.keys ++ (worktreeHistory ev.log).map (·.taskId),
    (taskId ∈ tables.currentWorktrees.keys ↔ (currentWorktreeOf ev.log taskId).isSome))
    "Current Worktree Lease projection set drifted from worktree history."
  forEach (fun pair : String × WorktreeLease =>
    require (pair.2.taskId = pair.1 ∧ currentWorktreeOf ev.log pair.1 = some pair.2)
      "Current worktree lease projection drifted.") tables.currentWorktrees.toList
  require (∀ row ∈ tables.approvalConsumptions.toList, row ∈ recordedConsumptions ev.log)
    "Approval consumption projection drifted."
  require (∀ row ∈ recordedConsumptions ev.log, row ∈ tables.approvalConsumptions.toList)
    "Approval consumption projection drifted."
  require (tables.hostCapabilities = capabilitiesBefore E ev ev.log)
    "Host capability projection drifted."

/-! ## The historical state -/

/-- The scheduling order of two tasks: wave, then rank, then identity. -/
def taskLe (graph : TaskGraph) (a b : SchedulerTask) : Prop :=
  a.wave < b.wave ∨ (a.wave = b.wave ∧
    (graph.topologicalRank a.taskId < graph.topologicalRank b.taskId ∨
      (graph.topologicalRank a.taskId = graph.topologicalRank b.taskId ∧ a.taskId ≤ b.taskId)))

instance {graph : TaskGraph} {a b : SchedulerTask} : Decidable (taskLe graph a b) := by
  unfold taskLe
  infer_instance

/-- The identities of the messages that the events of a prefix name. -/
def namedMessageIds (log : List Entry) : List String :=
  (log.filterMap (·.event.messageId)).eraseDups

/-- The last snapshot of the budget. -/
def latestLedger (log : List Entry) : Option BudgetLedger :=
  (log.filterMap (·.ledger)).getLast?

/-- The public state at the end of an evidence prefix. -/
def historicalPublicState (log : List Entry) (ledger : BudgetLedger) :
    SchedulerState where
  graphId := E.graphId ev.graph
  candidate := ev.graph.candidate
  tasks := ev.graph.tasks.filterMap fun task => projectionAt ev.graph log task.taskId
  readyOrder := ((ev.graph.tasks.filter fun task =>
    (projectionAt ev.graph log task.taskId).any fun p => decide (p.state = .ready)).insertionSort
      (taskLe ev.graph)).map (·.taskId)
  leaseIds := ((ev.graph.tasks.filterMap fun task =>
    (currentLeaseOf log task.taskId).map (·.authorityLeaseId))).insertionSort (· ≤ ·)
  messageIds := ((namedMessageIds log).insertionSort (· ≤ ·)).take 1000
  budgetLedgerId := E.ledgerId { ledger with eventSequence := log.length }
  worktreeLeaseIds := ((ev.graph.tasks.filterMap fun task =>
    (currentWorktreeOf log task.taskId).map E.worktreeLeaseId)).insertionSort (· ≤ ·)
  eventSequence := log.length
  eventHeadSha256 := headDigest E log

/-- Derive the state at an event from the immutable prefix that ends there. -/
def historicalStatus (eventSequence : Nat) : Except String SchedulerState := do
  require (0 < eventSequence ∧ eventSequence ≤ ev.log.length)
    "Historical Scheduler State prefix is unavailable."
  let log := ev.log.take eventSequence
  let ledger ← fromOption (latestLedger log) "Historical Scheduler State lacks budget evidence."
  let state := historicalPublicState E ev log ledger
  stateContract E state
  return state

/-! ## Workflow epochs -/

/-- Apply one workflow event to the heads of all plans. -/
def replayWorkflowEvent (heads : Table WorkflowEpochHead) (indexed : WorkflowEpochEvent × Nat) :
    Except String (Table WorkflowEpochHead) := do
  let e := indexed.1
  require (e.content.sequence = indexed.2 + 1)
    "Workflow epoch global sequence is not contiguous."
  let head ← reduceWorkflowEvent E.workflowEventId heads[e.content.planId]? e
  return heads.insert e.content.planId head

/-- The heads of all plans after a list of workflow events. -/
def replayWorkflowEpochs (events : List WorkflowEpochEvent) :
    Except String (Table WorkflowEpochHead) :=
  foldE (replayWorkflowEvent E) ∅ events.zipIdx

/-- The scheduler authority of a workflow event is the historical state at its sequence. -/
def validateSchedulerTriple (t : SchedulerTriple) : Except String Unit := do
  require (0 < t.eventSequence ∧
    (ev.log[t.eventSequence - 1]?).map (fun entry => E.eventId entry.event) = some t.eventHeadId)
    "Workflow epoch references a nonauthoritative scheduler event."
  let state ← historicalStatus E ev t.eventSequence
  require (E.stateId state = t.stateId ∧ state.eventSequence = t.eventSequence)
    "Workflow epoch scheduler triple differs from immutable historical evidence."

/-- The heads that wait for the publication of their terminal. -/
def pendingTerminals (heads : Table WorkflowEpochHead) : List WorkflowEpochHead :=
  heads.rows.filter fun head => decide (head.phase = .terminalReserved)

/-- A pending terminal pins the final scheduler authority. -/
def validatePending (heads : Table WorkflowEpochHead) : Except String Unit :=
  match pendingTerminals heads with
  | [] => .ok ()
  | [head] => do
    let final ← fromOption (ev.log.getLast?) "Pending terminal has no scheduler authority."
    let state ← historicalStatus E ev ev.log.length
    require (head.content.scheduler = ⟨E.stateId state, ev.log.length, E.eventId final.event⟩)
      "Pending terminal publication does not pin the final scheduler authority."
  | _ => .error "Pending terminal publication does not pin the final scheduler authority."

/-- Validate the workflow events against the scheduler evidence. -/
def validateWorkflowEpochEvidence (events : List WorkflowEpochEvent) : Except String Unit := do
  let heads ← replayWorkflowEpochs E events
  require (∀ head ∈ heads.rows, head.content.graphId = E.graphId ev.graph ∧
    head.content.candidate = ev.graph.candidate)
    "Workflow epoch differs from scheduler graph authority."
  forEach (fun e : WorkflowEpochEvent => validateSchedulerTriple E ev e.content.scheduler) events
  validatePending E ev heads

/-- The stored heads are the replayed ones. -/
def validateWorkflowEpochProjection (events : List WorkflowEpochEvent)
    (stored : Table WorkflowEpochHead) : Except String Unit := do
  let heads ← replayWorkflowEpochs E events
  require (stored = heads) "Workflow epoch head projection differs from replay."

/-! ## The whole store -/

/-- A lease policy in the supported range. -/
def validateLeasePolicy (ttlSeconds heartbeatIntervalSeconds : Nat) : Except String Unit := do
  require (30 ≤ ttlSeconds ∧ ttlSeconds ≤ 3600) "Lease TTL is outside the supported range."
  require (5 ≤ heartbeatIntervalSeconds ∧ heartbeatIntervalSeconds ≤ min 300 (ttlSeconds / 2))
    "Heartbeat interval is outside the supported range."

/-- Validate the immutable evidence of a store. The current leases are read for the solver evidence,
and the capability owners for their form. -/
def validateEvidence (tables : Tables) : Except String Unit := do
  validateLeasePolicy ev.leaseTtlSeconds ev.heartbeatIntervalSeconds
  require (∀ owner ∈ tables.hostCapabilities.keys, isHostId owner = true)
    "capability owner must be a host identifier."
  validateEvents E ev tables.currentLeases
  validateImmutableRows E ev
  validateMessageAdoption E ev
  let _ ← validateBudgetEvidence E ev
  forEach (validateWorkflowEpochEvidence E ev) ev.workflowEvents.toList

/-- Validate a whole store. A store of the first version has no workflow heads. -/
def Store.validate (st : Store) : Except String Unit := do
  validateEvidence E st.evidence st.tables
  validateProjections E st.evidence st.tables
  match st.evidence.workflowEvents with
  | none => require (st.tables.workflowHeads = ∅) "Scheduler database schema shape is unexpected."
  | some events => validateWorkflowEpochProjection E events st.tables.workflowHeads

/-- The current scheduler authority is the one a workflow request names. -/
def requireSchedulerHead (st : Store) (candidate : CandidateIdentity) (graphId : String)
    (t : SchedulerTriple) : Except String Unit := do
  let state ← st.status E
  require (E.graphId st.graph = graphId ∧ st.graph.candidate = candidate ∧
    E.stateId state = t.stateId ∧ state.eventSequence = t.eventSequence ∧
    st.log.getLast?.map (fun entry => E.eventId entry.event) = some t.eventHeadId)
    "Workflow request does not match the current M6 authority."

end Sdaqf
