import Sdaqf.Budget

/-!
# Appending events

Every transition of the scheduler ends with one appended event. The event takes its projection from
the task row, so the row is written first; the artifact contract then refuses a projection whose
blockers are not canonical. The history rows and the ledger that name the event are appended with
it.
-/

namespace Sdaqf

open Guard

/-! ## The contract of a projection -/

/-- A strictly increasing list of names: sorted and without a repetition. -/
def sortedUnique (l : List String) : Prop := l.Pairwise (· < ·)

instance {l : List String} : Decidable (sortedUnique l) := by
  unfold sortedUnique
  infer_instance

/-- The order of blockers: by code, then by references. -/
def Blocker.le (a b : Blocker) : Prop :=
  a.code < b.code ∨ (a.code = b.code ∧ a.references ≤ b.references)

instance {a b : Blocker} : Decidable (a.le b) := by
  unfold Blocker.le
  infer_instance

/-- The contract of the references of one blocker. -/
def blockerContract (E : Environment) (field : String) (b : Blocker) : Except String Unit := do
  require (b.references.length ≤ 64) (field ++ ".references exceeds the item limit.")
  require (b.references.all E.pathFreeText) (field ++ ".references contains an absolute path.")
  require (sortedUnique b.references) (field ++ ".references must be sorted and unique.")

/-- The contract of the blockers and counters of a projection. -/
def projectionContract (E : Environment) (field : String) (p : TaskProjection) :
    Except String Unit := do
  require (p.blockers.length ≤ 64) (field ++ ".blockers exceeds the item limit.")
  forEach (blockerContract E (field ++ ".blockers")) p.blockers
  require (p.blockers.Pairwise Blocker.le) (field ++ ".blockers must be sorted.")
  require (p.attempt ≤ 3) (field ++ ".attempt must be between 0 and 3.")

/-! ## Appending -/

/-- The arguments of an appended event, with the rows that will name it. -/
structure EventDraft where
  actor : String
  cause : EventCause
  taskId : Option String := none
  contextSnapshotId : Option String := none
  beforeState : Option TaskState := none
  afterState : Option TaskState := none
  leaseId : Option String := none
  messageId : Option String := none
  resultId : Option String := none
  approvalId : Option String := none
  budgetDeltas : BudgetDeltas := BudgetDeltas.none
  reason : Option String := none
  leaseRows : List LeaseRow := []
  worktreeRows : List WorktreeLease := []
  snapshot : Bool := false

namespace Store

variable (E : Environment) (st : Store)

/-- The projection an event about a task records. -/
def draftProjection (draft : EventDraft) : Except String (Option TaskProjection) :=
  match draft.taskId with
  | none => .ok none
  | some taskId =>
    match st.projection? taskId with
    | none => .error "Scheduler Event task projection is missing."
    | some p =>
      if draft.afterState = none ∨ draft.afterState = some p.state then .ok (some p)
      else .error "Scheduler Event state does not match its projection."

/-- The event of a draft. -/
def draftEvent (timestamp : Timestamp) (draft : EventDraft)
    (projection : Option TaskProjection) : SchedulerEvent where
  sequence := nextSequence st.log
  previousEventSha256 := headDigest E st.log
  actor := draft.actor
  cause := draft.cause
  graphId := E.graphId st.graph
  candidate := st.graph.candidate
  contextSnapshotId := draft.contextSnapshotId
  beforeState := draft.beforeState
  leaseId := draft.leaseId
  messageId := draft.messageId
  resultId := draft.resultId
  approvalId := draft.approvalId
  budgetDeltas := draft.budgetDeltas
  taskProjection := projection
  reason := draft.reason
  recordedAt := timestamp

/-- The entry of a draft. A snapshot is the ledger of the totals at the event; no total changes
between an event and its snapshot. -/
def draftEntry (timestamp : Timestamp) (draft : EventDraft)
    (projection : Option TaskProjection) : Entry where
  event := st.draftEvent E timestamp draft projection
  leaseRows := draft.leaseRows
  worktreeRows := draft.worktreeRows
  ledger := if draft.snapshot then some (st.budgetLedger E (nextSequence st.log)) else none

/-- Append an entry to the log. -/
def appendEntry (entry : Entry) : Store :=
  { st with evidence := { st.evidence with log := st.evidence.log ++ [entry] } }

/-- Append one event with the rows that name it. -/
def appendEvent (timestamp : Timestamp) (draft : EventDraft) : Except String Store := do
  let projection ← st.draftProjection draft
  match projection with
  | none => pure ()
  | some p => projectionContract E "task_projection" p
  return st.appendEntry (st.draftEntry E timestamp draft projection)

end Store

end Sdaqf
