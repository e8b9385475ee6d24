import Sdaqf.Naming
import Sdaqf.Runs

/-!
# A sample of the surroundings

The functions of the surroundings of a store can be chosen: an environment that names the leases and
messages of a short run, and names everything else without a collision. A run in this environment
evaluates.
-/

namespace Sdaqf

deriving instance Countable for CandidateIdentity
deriving instance Countable for ArtifactReference
deriving instance Countable for Sensitivity
deriving instance Countable for LeaseStatus
deriving instance Countable for TaskOutcome
deriving instance Countable for Lease
deriving instance Countable for BudgetReservation
deriving instance Countable for BudgetUsage
deriving instance Countable for DispatchIntentPayload
deriving instance Countable for ResultOutcome
deriving instance Countable for ObservedEffect
deriving instance Countable for DispatchEffect
deriving instance Countable for ApprovalType
deriving instance Countable for ApprovalVerdict
deriving instance Countable for WorktreeObservationState
deriving instance Countable for TaskResultPayload
deriving instance Countable for ApprovalPayload
deriving instance Countable for TaskPayload
deriving instance Countable for TaskIdentity
deriving instance Countable for MessageBody
deriving instance Countable for MailboxMessage

namespace Sample

open Naming

/-- An environment with short names for the given leases and messages. Every file is valid, every
referenced artifact has ten bytes, and no task uses a Skill or a solver. -/
noncomputable def environment (leases : List Lease) (messages : List MailboxMessage) :
    Environment where
  graphId _ := "graph"
  leaseId := name 'L' leases
  messageId := name 'M' messages
  eventId e := label 'E' e.sequence
  eventDigest e := label 'D' e.sequence
  ledgerId ledger := label 'B' ledger.eventSequence
  worktreeLeaseId w := "W-" ++ w.taskId
  stateId state := label 'S' state.eventSequence
  workflowEventId e := label 'F' e.content.sequence
  idempotencyKey _ taskId attempt _ _ _ _ := taskId ++ label 'K' attempt
  effectDigest task := "effect-" ++ task.taskId
  inputFilesValid _ := true
  referenceSize _ := 10
  skillReferences _ := []
  resultReferenceValid _ _ _ := true
  pathFreeText _ := true
  solverCapabilityToken _ := none
  workflowArtifactId _ _ := true
  workflowIdempotencyKey _ := true
  safeRelativePath _ := true
  casefold path := path

theorem environment_collisionFree (leases : List Lease) (messages : List MailboxMessage) :
    (environment leases messages).CollisionFree where
  leaseId_injective := name_injective (by decide) leases
  messageId_injective := name_injective (by decide) messages

def candidate : CandidateIdentity := ⟨"snapshot", "head", "root"⟩

def reference : ArtifactReference := ⟨"context.json", "digest"⟩

def budget : SchedulerBudget where
  maxAgents := 4
  maxConcurrency := 4
  maxReasoningEffort := "low"
  maxDispatches := 10
  maxRetries := 2
  maxWallTimeSeconds := 100000
  maxToolCalls := 100
  maxContextBytesPerDispatch := 10000
  maxContextBytesTotal := 100000
  maxSolverCalls := 1
  maxSolverSteps := 100
  cost := none

/-- A read-only task that waits for nothing. -/
def task (taskId : String) : SchedulerTask where
  taskId := taskId
  kind := .implementation
  dependencies := []
  roleId := "role"
  contextSnapshotId := "context"
  requiredTools := ["tool"]
  requiredCapabilities := []
  ownedPaths := []
  worktreeAssignment := none
  effectKind := .readOnly
  approvalStops := []
  evidencePredicate := []
  reviewTargets := []
  terminalPredicate := ["agent-result-valid"]
  wave := 0
  maxAttempts := 2

def graph (tasks : List SchedulerTask) : TaskGraph where
  candidate := candidate
  agentRegistry := reference
  toolRegistry := reference
  orchestrationRequest := reference
  worktreePlan := some reference
  contexts := [⟨"context", reference, .isPublic, candidate⟩]
  budget := budget
  tasks := tasks

def host : String := "HST-A"

/-- The lease a task of the sample acquires. -/
def lease (taskId : String) (attempt acquiredAt : Nat) : Lease where
  graphId := "graph"
  taskId := taskId
  candidate := candidate
  contextSnapshotId := "context"
  attempt := attempt
  ownerId := host
  fence := attempt
  idempotencyKey := taskId ++ label 'K' attempt
  acquiredAt := acquiredAt * second
  heartbeatAt := acquiredAt * second
  expiresAt := (acquiredAt + 60) * second
  ttlSeconds := 60
  heartbeatIntervalSeconds := 15
  status := .current
  releaseOutcome := .none

/-- The dispatch intent of a task of the sample under its listed lease. -/
def dispatchIntent (taskId : String) (attempt listed sentAt : Nat) : MailboxMessage where
  sender := "HST-SCHEDULER"
  recipient := host
  graphId := "graph"
  candidate := candidate
  sensitivity := .isPublic
  provenance := [reference]
  causalParentMessageIds := []
  recordedAt := sentAt * second
  body := .task ⟨taskId, "context", attempt, label 'L' listed, attempt, taskId ++ label 'K' attempt⟩
    (.dispatchIntent ⟨"effect-" ++ taskId, 60, 15, [], ["tool"], 10, ⟨10, 0, 0, 0, 1⟩⟩)

end Sample

end Sdaqf
