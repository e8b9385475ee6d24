import Sdaqf.History
import Sdaqf.Tables
import Sdaqf.Workflow

/-!
# The scheduler store

A store holds immutable evidence and mutable tables. The evidence is the Task Graph, the creation
metadata, the event log and the mailbox. The rows of the lease history, the worktree history and the
budget entries name the event that produced them, and every such event is in the log, so each row
is kept with its event: an `Entry` is one event together with the rows it produced. A query for the
rows before an event reads a prefix of the log.

The mutable tables are the projections the live policy reads: task rows, current leases, current
worktree leases, budget totals, approval consumptions, host capabilities and workflow heads.
-/

namespace Sdaqf

/-! ## What the program reads from outside the store -/

/-- The functions of the surroundings of a store: the content identities of artifacts, and what the
files under the project root and the text contracts say. They do not change during a run. -/
structure Environment where
  graphId : TaskGraph → String
  leaseId : Lease → String
  messageId : MailboxMessage → String
  eventId : SchedulerEvent → String
  eventDigest : SchedulerEvent → String
  ledgerId : BudgetLedger → String
  worktreeLeaseId : WorktreeLease → String
  stateId : SchedulerState → String
  workflowEventId : WorkflowEpochEvent → String
  /-- `derive_idempotency_key`, from graph, task, attempt, fence, candidate, context and effect. -/
  idempotencyKey : String → String → Nat → Nat → CandidateIdentity → String → String → String
  /-- The digest of the definition of a task. -/
  effectDigest : SchedulerTask → String
  /-- The exact input files of a Task Graph are present and authorize it. -/
  inputFilesValid : TaskGraph → Bool
  /-- The byte size of a referenced artifact. -/
  referenceSize : ArtifactReference → Nat
  /-- The Skill inputs resolved from the capabilities of a task. -/
  skillReferences : List String → List ArtifactReference
  /-- The Agent Result wrapper behind a task result is valid. -/
  resultReferenceValid : TaskGraph → MailboxMessage → Option SolverLeaseEvidence → Bool
  /-- Bounded text without an absolute path or a control character. -/
  pathFreeText : String → Bool
  /-- The solve and verification steps named by a solver capability token. -/
  solverCapabilityToken : String → Option (Nat × Nat)
  /-- The canonical identities of workflow artifacts of one type. -/
  workflowArtifactId : WorkflowArtifactType → String → Bool
  /-- The canonical idempotency identities of workflow requests. -/
  workflowIdempotencyKey : String → Bool
  /-- A safe path relative to the root. -/
  safeRelativePath : String → Bool
  /-- A path with its case folded. -/
  casefold : String → String

/-- No two different leases, and no two different messages, share an identity. -/
structure Environment.CollisionFree (E : Environment) : Prop where
  leaseId_injective : Function.Injective E.leaseId
  messageId_injective : Function.Injective E.messageId

/-! ## Evidence -/

/-- One row of the lease history. The authority is the identity under which the lease was acquired;
it stays the same when a heartbeat or a release rewrites the lease. -/
structure LeaseRow where
  authorityLeaseId : String
  lease : Lease
deriving DecidableEq

/-- One event and the history rows that name it, in the order of their identities. -/
structure Entry where
  event : SchedulerEvent
  leaseRows : List LeaseRow := []
  worktreeRows : List WorktreeLease := []
  ledger : Option BudgetLedger := none
deriving DecidableEq

/-- The immutable tables of a store. A store of the first version has no workflow events. -/
structure Evidence where
  graph : TaskGraph
  createdAt : Timestamp
  leaseTtlSeconds : Nat
  heartbeatIntervalSeconds : Nat
  log : List Entry
  messages : List MailboxMessage
  workflowEvents : Option (List WorkflowEpochEvent)
deriving DecidableEq

/-- The rows of the lease history in the order of their events. -/
def leaseHistory (log : List Entry) : List LeaseRow := log.flatMap (·.leaseRows)

/-- The rows of the worktree history in the order of their events. -/
def worktreeHistory (log : List Entry) : List WorktreeLease := log.flatMap (·.worktreeRows)

@[simp] theorem leaseHistory_nil : leaseHistory [] = [] := rfl

@[simp] theorem leaseHistory_append (l₁ l₂ : List Entry) :
    leaseHistory (l₁ ++ l₂) = leaseHistory l₁ ++ leaseHistory l₂ :=
  List.flatMap_append

@[simp] theorem leaseHistory_singleton (e : Entry) : leaseHistory [e] = e.leaseRows := by
  simp [leaseHistory]

@[simp] theorem worktreeHistory_nil : worktreeHistory [] = [] := rfl

@[simp] theorem worktreeHistory_append (l₁ l₂ : List Entry) :
    worktreeHistory (l₁ ++ l₂) = worktreeHistory l₁ ++ worktreeHistory l₂ :=
  List.flatMap_append

@[simp] theorem worktreeHistory_singleton (e : Entry) :
    worktreeHistory [e] = e.worktreeRows := by
  simp [worktreeHistory]

/-- The latest lease row of a task. -/
def latestLeaseRow (log : List Entry) (taskId : String) : Option LeaseRow :=
  History.lastWhere (fun row => decide (row.lease.taskId = taskId)) (leaseHistory log)

/-- The latest lease row of a task under one authority. -/
def latestAuthorityRow (log : List Entry) (authority taskId : String) : Option LeaseRow :=
  History.lastWhere
    (fun row => decide (row.authorityLeaseId = authority ∧ row.lease.taskId = taskId))
    (leaseHistory log)

/-- The latest worktree row of a task. -/
def latestWorktreeRow (log : List Entry) (taskId : String) : Option WorktreeLease :=
  History.lastWhere (fun row => decide (row.taskId = taskId)) (worktreeHistory log)

/-- The projection of a task recorded by the last event about it. -/
def recordedProjection (log : List Entry) (taskId : String) : Option TaskProjection :=
  (History.lastWhere (fun e => decide (e.event.taskId = some taskId)) log).bind
    (·.event.taskProjection)

/-- The projection of a task before any later event. -/
def projectionAt (graph : TaskGraph) (log : List Entry) (taskId : String) :
    Option TaskProjection :=
  (recordedProjection log taskId).or ((graph.task? taskId).map (·.initialProjection))

/-- The sequence of the event that is appended next. -/
def nextSequence (log : List Entry) : Nat := log.length + 1

/-- The chain root of an empty log. -/
def zeroSha256 : String := "0000000000000000000000000000000000000000000000000000000000000000"

/-- The digest of the last event. -/
def headDigest (E : Environment) (log : List Entry) : String :=
  match log.getLast? with
  | some entry => E.eventDigest entry.event
  | none => zeroSha256

/-! ## The mailbox -/

/-- The stored message with an identity. -/
def Evidence.message? (E : Environment) (ev : Evidence) (id : String) : Option MailboxMessage :=
  ev.messages.find? (fun m => E.messageId m = id)

/-- The position of a stored message, counted from one. -/
def Evidence.messageSequence? (E : Environment) (ev : Evidence) (id : String) : Option Nat :=
  (ev.messages.findIdx? (fun m => E.messageId m = id)).map (· + 1)

/-- The type of message each cause speaks about. -/
def EventCause.messageType : EventCause → Option MessageType
  | .approvalConsumed => some .approvalDecision
  | .approvalReceived => some .approvalDecision
  | .cancelAcknowledgement => some .cancelAcknowledgement
  | .cancelRequest => some .cancelRequest
  | .capabilityObserved => some .capabilityObservation
  | .dispatchAccepted => some .dispatchAcknowledgement
  | .dispatchIntent => some .dispatchIntent
  | .dispatchRejected => some .dispatchAcknowledgement
  | .heartbeat => some .heartbeat
  | .resultReceived => some .taskResult
  | .resultTerminal => some .taskResult
  | .worktreeObserved => some .worktreeObservation
  | .worktreeRequest => some .worktreeRequest
  | _ => none

/-- A cause that adopts its message. -/
def EventCause.isPrimary (c : EventCause) : Bool :=
  c.messageType.isSome && c != .approvalConsumed

/-- The causes that may adopt a message of each type. -/
def MessageType.primaryCauses : MessageType → List EventCause
  | .approvalDecision => [.approvalReceived]
  | .cancelAcknowledgement => [.cancelAcknowledgement]
  | .cancelRequest => [.cancelRequest]
  | .capabilityObservation => [.capabilityObserved]
  | .dispatchAcknowledgement => [.dispatchAccepted, .dispatchRejected]
  | .dispatchIntent => [.dispatchIntent]
  | .heartbeat => [.heartbeat]
  | .taskResult => [.resultReceived, .resultTerminal]
  | .worktreeObservation => [.worktreeObserved]
  | .worktreeRequest => [.worktreeRequest]

/-- The events that adopt a message. -/
def primaryEvents (log : List Entry) (id : String) : List SchedulerEvent :=
  (log.map (·.event)).filter fun e => decide (e.messageId = some id) && e.cause.isPrimary

/-- The one event that adopts a message. -/
def primaryEvent? (log : List Entry) (id : String) : Option SchedulerEvent :=
  match primaryEvents log id with
  | [e] => some e
  | _ => none

/-- A primary-adopted message with its event. -/
structure Adoption where
  event : SchedulerEvent
  messageId : String
  message : MailboxMessage

/-- The adoption an event makes, when its message is stored. -/
def adoptionOf (E : Environment) (ev : Evidence) (e : SchedulerEvent) : Option Adoption :=
  if e.cause.isPrimary then
    e.messageId.bind fun id => (ev.message? E id).map fun m => ⟨e, id, m⟩
  else none

/-- The primary-adopted messages in event order. -/
def Evidence.adoptions (E : Environment) (ev : Evidence) (log : List Entry) : List Adoption :=
  (log.map (·.event)).filterMap (adoptionOf E ev)

/-- The adopted messages of one cause. -/
def Evidence.adoptionsOf (E : Environment) (ev : Evidence) (log : List Entry)
    (cause : EventCause) : List Adoption :=
  (ev.adoptions E log).filter
    fun a => decide (a.event.cause = cause ∧ cause.messageType = some a.message.messageType)

/-! ## Mutable tables -/

/-- One row of the task table. -/
structure TaskRow where
  definition : SchedulerTask
  wave : Nat
  topologicalRank : Nat
  projection : TaskProjection
deriving DecidableEq

/-- The current lease of a task: the lease as last written, and the identity it was acquired
under. -/
abbrev CurrentLease := LeaseRow

/-- One row of the budget totals. -/
structure BudgetTotal where
  reserved : Int
  used : Int
  availability : Availability
deriving DecidableEq

/-- One consumed approval. -/
structure Consumption where
  messageId : String
  taskId : String
  eventSequence : Nat
deriving DecidableEq

/-- The mutable tables of a store. -/
structure Tables where
  tasks : Table TaskRow
  dependencies : Finset (String × String)
  currentLeases : Table CurrentLease
  budgetTotals : Resource → BudgetTotal
  currentWorktrees : Table WorktreeLease
  approvalConsumptions : Table Consumption
  hostCapabilities : Table (List String)
  workflowHeads : Table WorkflowEpochHead
deriving DecidableEq

/-- A scheduler database. -/
structure Store where
  evidence : Evidence
  tables : Tables
deriving DecidableEq

namespace Store

variable (st : Store)

def graph : TaskGraph := st.evidence.graph

def log : List Entry := st.evidence.log

/-- Replace the mutable tables. -/
def withTables (f : Tables → Tables) : Store := { st with tables := f st.tables }

@[simp] theorem withTables_evidence (f : Tables → Tables) :
    (st.withTables f).evidence = st.evidence := rfl

@[simp] theorem withTables_tables (f : Tables → Tables) :
    (st.withTables f).tables = f st.tables := rfl

/-- The projection of a task. -/
def projection? (taskId : String) : Option TaskProjection :=
  (st.tables.tasks[taskId]?).map (·.projection)

/-- `UPDATE tasks SET … WHERE task_id = ?`. -/
def updateProjection (taskId : String) (f : TaskProjection → TaskProjection) : Store :=
  st.withTables fun t =>
    { t with tasks := t.tasks.modify taskId fun row => { row with projection := f row.projection } }

/-- `DELETE FROM current_leases WHERE task_id = ?`. -/
def deleteCurrentLease (taskId : String) : Store :=
  st.withTables fun t => { t with currentLeases := t.currentLeases.erase taskId }

/-- Write the current lease of a task. -/
def putCurrentLease (taskId : String) (row : CurrentLease) : Store :=
  st.withTables fun t => { t with currentLeases := t.currentLeases.insert taskId row }

/-- `DELETE FROM current_worktree_leases WHERE task_id = ?`. -/
def deleteCurrentWorktree (taskId : String) : Store :=
  st.withTables fun t => { t with currentWorktrees := t.currentWorktrees.erase taskId }

/-- Write the current worktree lease of a task. -/
def putCurrentWorktree (taskId : String) (row : WorktreeLease) : Store :=
  st.withTables fun t => { t with currentWorktrees := t.currentWorktrees.insert taskId row }

/-- Append an immutable message. -/
def insertMessage (m : MailboxMessage) : Store :=
  { st with evidence := { st.evidence with messages := st.evidence.messages ++ [m] } }

end Store

end Sdaqf
