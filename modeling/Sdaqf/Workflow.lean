import Sdaqf.Guard
import Sdaqf.Domain

/-!
# Workflow epochs

A store of the second version also holds workflow epochs. The events of an epoch form a chain for
each plan, and the head of a plan is what the reducer makes of its chain. An artifact identity and
its path come together, and so do the four parts of the attestation of a predecessor.
-/

namespace Sdaqf

open Guard

/-! ## Vocabulary -/

inductive WorkflowEpochCause
  | epochOpened | transitionReserved | artifactPublicationReserved | artifactPublicationConfirmed
  | terminalReserved | terminalConfirmed
deriving DecidableEq

/-- Replay-derived current workflow epoch phase. -/
inductive WorkflowEpochPhase
  | opened | transitionReserved | active | terminalReserved | terminalConfirmed
deriving DecidableEq

inductive WorkflowReceiptStatus
  | reserved | confirmed
deriving DecidableEq

inductive WorkflowArtifactType
  | integratedPlan | workflowEvent | workflowState | workflowOutcome
deriving DecidableEq

inductive WorkflowProducer
  | plan | run | resume | recover | outcome | supersede | simulate
deriving DecidableEq

/-- What a receipt authorizes, apart from its status. -/
structure ReceiptKey where
  artifactType : WorkflowArtifactType
  artifactId : String
  path : String
  producer : WorkflowProducer
deriving DecidableEq

/-- One exact path-to-canonical-artifact producer receipt. -/
structure WorkflowArtifactReceipt where
  key : ReceiptKey
  status : WorkflowReceiptStatus
deriving DecidableEq

/-- The identity and the path of a workflow artifact. -/
structure ArtifactHead where
  artifactId : String
  path : String
deriving DecidableEq

/-- The artifacts a workflow head stands at. -/
structure ArtifactHeads where
  workflowEvent : Option ArtifactHead
  workflowState : Option ArtifactHead
  outcome : Option ArtifactHead
deriving DecidableEq

/-- The attestation of the epoch a plan succeeds. -/
structure WorkflowPredecessor where
  planId : String
  terminalEventHeadId : String
  stateId : String
  outcomeId : String
deriving DecidableEq

/-- The scheduler authority an epoch event is bound to. -/
structure SchedulerTriple where
  stateId : String
  eventSequence : Nat
  eventHeadId : String
deriving DecidableEq

/-- What a workflow event and the head it produces have in common. -/
structure WorkflowEpochContent where
  sequence : Nat
  epochSequence : Nat
  planId : String
  predecessor : Option WorkflowPredecessor
  candidate : CandidateIdentity
  graphId : String
  scheduler : SchedulerTriple
  idempotencyKey : String
  producer : WorkflowProducer
  sourceStateId : Option String
  heads : ArtifactHeads
  receipts : List WorkflowArtifactReceipt
  recordedAt : Timestamp
deriving DecidableEq

/-- One append-only workflow epoch authority event. -/
structure WorkflowEpochEvent where
  previousEventId : Option String
  cause : WorkflowEpochCause
  content : WorkflowEpochContent
deriving DecidableEq

/-- Replay-derived authoritative current head for one plan epoch. -/
structure WorkflowEpochHead where
  currentEventHeadId : String
  phase : WorkflowEpochPhase
  content : WorkflowEpochContent
  terminalAt : Option Timestamp
deriving DecidableEq

/-! ## The reducer -/

/-- The receipts of an event whose authority is new. -/
def addedReceipts (prior current : List WorkflowArtifactReceipt) : List WorkflowArtifactReceipt :=
  current.filter fun item => decide (item.key ∉ prior.map (·.key))

/-- Every earlier receipt is still there. -/
def keepsReceipts (prior current : List WorkflowArtifactReceipt) : Prop :=
  ∀ item ∈ prior, item.key ∈ current.map (·.key)

instance {prior current : List WorkflowArtifactReceipt} :
    Decidable (keepsReceipts prior current) := by
  unfold keepsReceipts
  infer_instance

/-- The keys of the receipts whose status changed. -/
def changedReceipts (prior current : List WorkflowArtifactReceipt) :
    List WorkflowArtifactReceipt :=
  current.filter fun item =>
    (prior.find? fun old => decide (old.key = item.key)).any fun old =>
      decide (old.status ≠ item.status)

/-- The head of the added receipt of one type. -/
def addedHead (added : List WorkflowArtifactReceipt) (t : WorkflowArtifactType) :
    Option ArtifactHead :=
  (added.find? fun item => decide (item.key.artifactType = t)).map fun item =>
    ⟨item.key.artifactId, item.key.path⟩

/-- The new receipts are reserved and bind exactly these types. -/
def bindsExactly (added : List WorkflowArtifactReceipt) (types : List WorkflowArtifactType) :
    Prop :=
  (∀ item ∈ added, item.status = .reserved ∧ item.key.artifactType ∈ types) ∧
    ∀ t ∈ types, t ∈ added.map (·.key.artifactType)

instance {added : List WorkflowArtifactReceipt} {types : List WorkflowArtifactType} :
    Decidable (bindsExactly added types) := by
  unfold bindsExactly
  infer_instance

/-- The phase, the artifact heads and the terminal time an event moves an epoch to. -/
structure EpochMove where
  phase : WorkflowEpochPhase
  heads : ArtifactHeads
  terminalAt : Option Timestamp

/-- The first event of an epoch reserves its plan. -/
def openEpoch (e : WorkflowEpochEvent) : Except String EpochMove := do
  require (e.cause = .epochOpened ∧ e.content.epochSequence = 1 ∧ e.previousEventId = none ∧
    e.content.sourceStateId = none)
    "Workflow epoch root semantics are invalid."
  match e.content.receipts with
  | [receipt] =>
    require (receipt.key.artifactType = .integratedPlan ∧
      receipt.key.artifactId = e.content.planId ∧ receipt.status = .reserved)
      "Workflow epoch root semantics are invalid."
  | _ => .error "Workflow epoch root semantics are invalid."
  return ⟨.opened, ⟨none, none, none⟩, none⟩

/-- A later event continues the chain of its plan. -/
def continuesEpoch (prior : WorkflowEpochHead) (e : WorkflowEpochEvent) : Prop :=
  e.content.planId = prior.content.planId ∧ e.content.predecessor = prior.content.predecessor ∧
    e.content.candidate = prior.content.candidate ∧ e.content.graphId = prior.content.graphId ∧
    e.content.epochSequence = prior.content.epochSequence + 1 ∧
    e.previousEventId = some prior.currentEventHeadId ∧
    prior.content.recordedAt ≤ e.content.recordedAt

instance {prior : WorkflowEpochHead} {e : WorkflowEpochEvent} :
    Decidable (continuesEpoch prior e) := by
  unfold continuesEpoch
  infer_instance

/-- A confirmation keeps the authority of its reservation. -/
def keepsReservation (prior : WorkflowEpochHead) (e : WorkflowEpochEvent) : Prop :=
  e.content.idempotencyKey = prior.content.idempotencyKey ∧
    e.content.producer = prior.content.producer ∧
    e.content.sourceStateId = prior.content.sourceStateId ∧
    e.content.scheduler = prior.content.scheduler ∧
    keepsReceipts e.content.receipts prior.content.receipts

instance {prior : WorkflowEpochHead} {e : WorkflowEpochEvent} :
    Decidable (keepsReservation prior e) := by
  unfold keepsReservation
  infer_instance

def reserveTransition (prior : WorkflowEpochHead) (e : WorkflowEpochEvent) :
    Except String EpochMove := do
  require (prior.phase = .opened ∨ prior.phase = .active)
    "Workflow transition reservation phase is invalid."
  require (e.content.sourceStateId = prior.content.heads.workflowState.map (·.artifactId))
    "Workflow transition source differs from epoch head."
  let added := addedReceipts prior.content.receipts e.content.receipts
  require (added ≠ [] ∧ ∀ item ∈ added, item.status = .reserved)
    "Workflow transition did not add reserved artifacts."
  require (bindsExactly added [.workflowEvent, .workflowState])
    "Workflow transition must bind Event and State."
  return {
    phase := .transitionReserved
    heads := { prior.content.heads with
      workflowEvent := addedHead added .workflowEvent
      workflowState := addedHead added .workflowState }
    terminalAt := prior.terminalAt }

def confirmArtifact (prior : WorkflowEpochHead) (e : WorkflowEpochEvent) :
    Except String EpochMove := do
  require (keepsReservation prior e)
    "Workflow artifact confirmation changed reservation authority."
  match changedReceipts prior.content.receipts e.content.receipts with
  | [item] =>
    require (item.status = .confirmed) "Workflow confirmation must confirm exactly one receipt."
  | _ => .error "Workflow confirmation must confirm exactly one receipt."
  return {
    phase :=
      if prior.phase ≠ .terminalReserved ∧
          ∀ item ∈ e.content.receipts, item.status = .confirmed then .active
      else prior.phase
    heads := prior.content.heads
    terminalAt := prior.terminalAt }

def reserveTerminal (prior : WorkflowEpochHead) (e : WorkflowEpochEvent) :
    Except String EpochMove := do
  require (prior.phase = .opened ∨ prior.phase = .active)
    "Workflow terminal reservation phase is invalid."
  require (e.content.sourceStateId ≠ none ∧
    e.content.sourceStateId = prior.content.heads.workflowState.map (·.artifactId))
    "Workflow terminal source differs from epoch head."
  let added := addedReceipts prior.content.receipts e.content.receipts
  require (bindsExactly added [.workflowEvent, .workflowState, .workflowOutcome])
    "Terminal reservation must bind Event, State, and Outcome."
  return {
    phase := .terminalReserved
    heads :=
      { workflowEvent := addedHead added .workflowEvent
        workflowState := addedHead added .workflowState
        outcome := addedHead added .workflowOutcome }
    terminalAt := some e.content.recordedAt }

def confirmTerminal (prior : WorkflowEpochHead) (e : WorkflowEpochEvent) :
    Except String EpochMove := do
  require (prior.phase = .terminalReserved ∧ some e.content.recordedAt = prior.terminalAt ∧
    keepsReservation prior e ∧ ∀ item ∈ e.content.receipts, item.status = .confirmed)
    "Workflow terminal confirmation is invalid."
  return ⟨.terminalConfirmed, prior.content.heads, prior.terminalAt⟩

/-- Where an event moves the epoch of its plan. -/
def epochMove (prior : Option WorkflowEpochHead) (e : WorkflowEpochEvent) :
    Except String EpochMove :=
  match prior with
  | none => openEpoch e
  | some prior => do
    require (continuesEpoch prior e) "Workflow epoch chain continuity is invalid."
    require (keepsReceipts prior.content.receipts e.content.receipts)
      "Workflow event removed prior publication authority."
    match e.cause with
    | .epochOpened => .error "Workflow epoch may be opened only once."
    | .transitionReserved => reserveTransition prior e
    | .artifactPublicationReserved => reserveTransition prior e
    | .artifactPublicationConfirmed => confirmArtifact prior e
    | .terminalReserved => reserveTerminal prior e
    | .terminalConfirmed => confirmTerminal prior e

/-- The head of a plan after one event. -/
def reduceWorkflowEvent (eventId : WorkflowEpochEvent → String)
    (prior : Option WorkflowEpochHead) (e : WorkflowEpochEvent) :
    Except String WorkflowEpochHead := do
  let move ← epochMove prior e
  require (e.content.heads = move.heads) "Workflow event artifact-head projection is invalid."
  return ⟨eventId e, move.phase, e.content, move.terminalAt⟩

end Sdaqf
