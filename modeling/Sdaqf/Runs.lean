import Sdaqf.Epochs

/-!
# Creation, recovery and runs

A store is created from a Task Graph, and changes only by transactions. A transaction validates the
store, runs its body and commits the result only if the result is valid. Recovery throws the mutable
tables away and rebuilds them from the immutable evidence.
-/

namespace Sdaqf

open Guard Store

variable (E : Environment)

/-! ## Creation -/

/-- The task table of a new store. -/
def initialTasks (graph : TaskGraph) : Table TaskRow :=
  graph.tasks.foldl
    (fun table task => table.insert task.taskId
      ⟨task, task.wave, graph.topologicalRank task.taskId, task.initialProjection⟩) ∅

/-- The budget totals of a new store. -/
def initialTotals (graph : TaskGraph) : Resource → BudgetTotal :=
  fun r => ⟨0, 0, initialAvailability graph r⟩

/-- The mutable tables of a new store. -/
def initialTables (graph : TaskGraph) : Tables where
  tasks := initialTasks graph
  dependencies := dependencyPairs graph
  currentLeases := ∅
  budgetTotals := initialTotals graph
  currentWorktrees := ∅
  approvalConsumptions := ∅
  hostCapabilities := ∅
  workflowHeads := ∅

/-- The first event of a store. -/
def initializeEvent (graph : TaskGraph) (timestamp : Timestamp) (ttlSeconds heartbeat : Nat) :
    SchedulerEvent where
  sequence := 1
  previousEventSha256 := zeroSha256
  actor := "scheduler"
  cause := .initialization
  graphId := E.graphId graph
  candidate := graph.candidate
  contextSnapshotId := none
  beforeState := none
  leaseId := none
  messageId := none
  resultId := none
  approvalId := none
  budgetDeltas := BudgetDeltas.none
  taskProjection := none
  reason := some (leasePolicyReason ttlSeconds heartbeat)
  recordedAt := timestamp

/-- The first ledger of a store. -/
def initializeLedger (graph : TaskGraph) : BudgetLedger where
  graphId := E.graphId graph
  limits := graph.budget
  reserved := fun _ => 0
  used := fun _ => 0
  availability := initialAvailability graph
  blockerCodes := []
  eventSequence := 1

/-- The rows a new store is seeded with. A store with workflow authority is of the second
version. -/
def seed (graph : TaskGraph) (timestamp : Timestamp) (ttlSeconds heartbeat : Nat)
    (workflowAuthority : Bool) : Store where
  evidence :=
    { graph := graph
      createdAt := timestamp
      leaseTtlSeconds := ttlSeconds
      heartbeatIntervalSeconds := heartbeat
      log := [{
        event := initializeEvent E graph timestamp ttlSeconds heartbeat
        ledger := some (initializeLedger E graph) }]
      messages := []
      workflowEvents := if workflowAuthority then some [] else none }
  tables := initialTables graph

/-- Create a store and validate it before it is published. -/
def initializeStore (graph : TaskGraph) (now : Timestamp) (ttlSeconds heartbeat : Nat)
    (workflowAuthority : Bool) : Except String Store := do
  validateLeasePolicy ttlSeconds heartbeat
  let st := seed E graph (formatUtc now) ttlSeconds heartbeat workflowAuthority
  st.validate E
  return st

/-! ## Recovery -/

/-- Write the projection an event records into the row of its task. -/
def writeRecorded (table : Table TaskRow) (entry : Entry) : Table TaskRow :=
  match entry.event.taskProjection with
  | none => table
  | some p => table.modify p.taskId fun row => { row with projection := p }

/-- The task rows recovery writes: the rows of a new store with the last recorded projections. -/
def rebuiltTasks (ev : Evidence) : Table TaskRow :=
  ev.log.foldl writeRecorded (initialTasks ev.graph)

/-- Insert the row of a task, when it has one. -/
def insertRow {α : Type} (row : String → Option α) (table : Table α) (taskId : String) : Table α :=
  match row taskId with
  | none => table
  | some a => table.insert taskId a

/-- Insert a row for every task that has one. -/
def tableOf {α : Type} (taskIds : List String) (row : String → Option α) : Table α :=
  taskIds.foldl (insertRow row) ∅

/-- Insert one recorded consumption; an approval is consumed once, and so is a message. -/
def insertConsumption (table : Table Consumption) (row : String × Consumption) :
    Except String (Table Consumption) := do
  require ((table[row.1]?).isNone) "UNIQUE constraint failed: approval_consumptions.approval_id"
  require (∀ c ∈ table.rows, c.messageId ≠ row.2.messageId)
    "UNIQUE constraint failed: approval_consumptions.message_id"
  return table.insert row.1 row.2

/-- The workflow heads recovery writes: those of the replay, in a store of the second version. -/
def rebuiltHeads (ev : Evidence) : Except String (Table WorkflowEpochHead) :=
  match ev.workflowEvents with
  | none => .ok ∅
  | some events => replayWorkflowEpochs E events

/-- Rebuild the mutable tables from the immutable evidence. -/
def rebuildFromEvidence (ev : Evidence) : Except String Tables := do
  let ledger ← fromOption (latestLedger ev.log) "Recovery requires budget evidence."
  let consumptions ← foldE insertConsumption ∅ (recordedConsumptions ev.log)
  let heads ← rebuiltHeads E ev
  let taskIds := ev.graph.tasks.map (·.taskId)
  return {
    tasks := rebuiltTasks ev
    dependencies := dependencyPairs ev.graph
    currentLeases := tableOf taskIds (currentLeaseOf ev.log)
    budgetTotals := fun r => ⟨ledger.reserved r, ledger.used r, ledger.availability r⟩
    currentWorktrees := tableOf taskIds (currentWorktreeOf ev.log)
    approvalConsumptions := consumptions
    hostCapabilities := capabilitiesBefore E ev ev.log
    workflowHeads := heads }

/-! ## Runs -/

/-- Open a scheduler transaction on a valid store. A pending terminal publication blocks it. -/
def beginTransaction (st : Store) : Except String Unit := do
  st.validate E
  require (pendingTerminals st.tables.workflowHeads = [])
    "Pending terminal publication blocks scheduler mutation."

/-- Commit the store a body leaves, if it is valid. -/
def commit (st : Store) : Except String Store := do
  st.validate E
  return st

/-- One tick: its body, committed as one transaction. -/
def tick (st : Store) (hostId : String) (messages : List MailboxMessage) (now : Timestamp) :
    Except String TickResult := do
  beginTransaction E st
  let result ← st.tickBody E hostId messages now
  let _ ← commit E result.store
  return result

/-- The first transaction of a cancellation. -/
def cancelFirst (st : Store) (hostId taskId reason : String) (now : Timestamp) :
    Except String (Store × Bool) := do
  require (isHostId hostId) "Cancellation request arguments are invalid."
  require (E.pathFreeText reason) "Cancellation request arguments are invalid."
  beginTransaction E st
  let result ← st.cancelPrelude E hostId taskId (formatUtc now)
  let _ ← commit E result.1
  return result

/-- The second transaction of a cancellation. -/
def cancelSecond (st : Store) (hostId taskId reason : String) (now : Timestamp) :
    Except String (Store × MailboxMessage) := do
  beginTransaction E st
  let result ← st.cancelBody E hostId taskId reason (formatUtc now)
  let _ ← commit E result.1
  return result

/-- A cancellation: its two transactions. The first one stays committed when the second one is
refused or not reached. -/
def requestCancel (st : Store) (hostId taskId reason : String) (now : Timestamp) :
    Store × Except String MailboxMessage :=
  match cancelFirst E st hostId taskId reason now with
  | .error e => (st, .error e)
  | .ok (st, true) => (st, .error "Cancellation requires the current host-owned lease.")
  | .ok (st, false) =>
    match cancelSecond E st hostId taskId reason now with
    | .error e => (st, .error e)
    | .ok (st, m) => (st, .ok m)

/-- The time of the last recorded event. -/
def Store.lastTime (st : Store) : Timestamp := lastRecordedAt st.evidence st.log

/-- What the callers of a run guarantee about a Task Graph: its contract. -/
structure TaskGraph.Valid (graph : TaskGraph) : Prop where
  taskIds_sorted : sortedUnique (graph.tasks.map (·.taskId))
  dependencies_known : ∀ task ∈ graph.tasks, ∀ d ∈ task.dependencies,
    d ∈ graph.tasks.map (·.taskId)
  dependencies_sorted : ∀ task ∈ graph.tasks, sortedUnique task.dependencies
  dependencies_acyclic : ∀ task ∈ graph.tasks, ∀ d ∈ task.dependencies,
    graph.topologicalRank d < graph.topologicalRank task.taskId
  reviews_known : ∀ task ∈ graph.tasks, ∀ d ∈ task.reviewTargets,
    d ∈ graph.tasks.map (·.taskId)
  capabilities_sorted : ∀ task ∈ graph.tasks, sortedUnique task.requiredCapabilities
  stops_nodup : ∀ task ∈ graph.tasks, task.approvalStops.Nodup
  attempts_bounded : ∀ task ∈ graph.tasks, 1 ≤ task.maxAttempts ∧ task.maxAttempts ≤ 3

/-- The contract of a mailbox message that its type does not build in: the sender and the authority
of an approval follow from its type. -/
def MailboxMessage.ContractValid (m : MailboxMessage) : Prop :=
  ∀ payload ∈ m.approval?, (m.sender, payload.authority) = approvalActor payload.approvalType

/-- One committed operation: a tick, one transaction of a cancellation, or a workflow call, with any
host, any contract-valid messages and a time not before the last recorded event. -/
inductive Step : Store → Store → Prop
  | tick {st : Store} {hostId : String} {messages : List MailboxMessage} {now : Timestamp}
      {result : TickResult} (later : st.lastTime ≤ now)
      (valid : ∀ m ∈ messages, m.ContractValid)
      (h : tick E st hostId messages now = .ok result) : Step st result.store
  | cancelFirst {st : Store} {hostId taskId reason : String} {now : Timestamp}
      {result : Store × Bool} (later : st.lastTime ≤ now)
      (h : cancelFirst E st hostId taskId reason now = .ok result) : Step st result.1
  | cancelSecond {st : Store} {hostId taskId reason : String} {now : Timestamp}
      {result : Store × MailboxMessage} (later : st.lastTime ≤ now)
      (h : cancelSecond E st hostId taskId reason now = .ok result) : Step st result.1
  | workflow {st : Store} {call : WorkflowCall} {result : Store × WorkflowEpochHead}
      (h : call.run E st = .ok result) : Step st result.1

/-- The stores that committed operations reach from a new store. -/
inductive Reachable : Store → Prop
  | initial {graph : TaskGraph} {now : Timestamp} {ttlSeconds heartbeat : Nat}
      {workflowAuthority : Bool} {st : Store} (valid : graph.Valid)
      (h : initializeStore E graph now ttlSeconds heartbeat workflowAuthority = .ok st) :
      Reachable st
  | step {st st' : Store} (reach : Reachable st) (h : Step E st st') : Reachable st'

end Sdaqf
