import Sdaqf.Validate

/-!
# Workflow epoch calls

The five calls that write workflow epochs: open an epoch, reserve a transition, reserve a terminal,
confirm an artifact, confirm a terminal. Each call is one transaction. It compares the request with
the current head of its plan, returns an exact retry unchanged, and appends at most one event.
-/

namespace Sdaqf

open Guard Store

variable (E : Environment)

/-! ## Receipts -/

/-- The order of receipts: by path without its case, then by identity. -/
def receiptLe (a b : WorkflowArtifactReceipt) : Prop :=
  E.casefold a.key.path < E.casefold b.key.path ∨
    (E.casefold a.key.path = E.casefold b.key.path ∧ a.key.artifactId ≤ b.key.artifactId)

instance {a b : WorkflowArtifactReceipt} : Decidable (receiptLe E a b) := by
  unfold receiptLe
  infer_instance

def orderedWorkflowReceipts (receipts : List WorkflowArtifactReceipt) :
    List WorkflowArtifactReceipt :=
  receipts.insertionSort (receiptLe E)

/-- Merge one requested receipt into the receipts collected so far. -/
def mergeWorkflowReceipt (receipts : List WorkflowArtifactReceipt)
    (item : WorkflowArtifactReceipt) : Except String (List WorkflowArtifactReceipt) := do
  let pathMatch := History.lastWhere
    (fun old : WorkflowArtifactReceipt =>
      decide (E.casefold old.key.path = E.casefold item.key.path)) receipts
  let idMatch := History.lastWhere
    (fun old : WorkflowArtifactReceipt => decide (old.key.artifactId = item.key.artifactId))
    receipts
  require (∀ old ∈ pathMatch, old.key = item.key)
    "Workflow receipt path collides with existing authority."
  require (∀ old ∈ idMatch, old.key.path = item.key.path)
    "Workflow artifact identity is reserved at another path."
  return if pathMatch.isSome then receipts else receipts ++ [item]

def mergeWorkflowReceipts (existing additions : List WorkflowArtifactReceipt) :
    Except String (List WorkflowArtifactReceipt) := do
  let merged ← foldE (mergeWorkflowReceipt E) existing additions
  return orderedWorkflowReceipts E merged

/-- The artifacts an event stands at: those of the head before it, overwritten by the receipts whose
authority is new. -/
def workflowArtifactHeads (prior : Option WorkflowEpochHead)
    (receipts : List WorkflowArtifactReceipt) : ArtifactHeads :=
  let added := addedReceipts ((prior.map (·.content.receipts)).getD []) receipts
  let written (t : WorkflowArtifactType) : Option ArtifactHead :=
    (History.lastWhere (fun item : WorkflowArtifactReceipt =>
      decide (item.key.artifactType = t)) added).map fun item =>
        ⟨item.key.artifactId, item.key.path⟩
  { workflowEvent := (written .workflowEvent).or (prior.bind (·.content.heads.workflowEvent))
    workflowState := (written .workflowState).or (prior.bind (·.content.heads.workflowState))
    outcome := (written .workflowOutcome).or (prior.bind (·.content.heads.outcome)) }

/-! ## The contract of an event -/

/-- The contract of one receipt. -/
def receiptContract (item : WorkflowArtifactReceipt) : Except String Unit := do
  require (E.workflowArtifactId item.key.artifactType item.key.artifactId)
    "artifact_id is not the expected canonical workflow artifact ID."
  require (E.safeRelativePath item.key.path) "path is not a safe relative path."

/-- The contract of the attestation of a predecessor. -/
def predecessorContract (p : WorkflowPredecessor) : Except String Unit := do
  require (E.workflowArtifactId .integratedPlan p.planId)
    "predecessor_plan_id is not the expected canonical workflow artifact ID."
  require (E.workflowArtifactId .workflowState p.stateId)
    "predecessor_state_id is not the expected canonical workflow artifact ID."
  require (E.workflowArtifactId .workflowOutcome p.outcomeId)
    "predecessor_outcome_id is not the expected canonical workflow artifact ID."

/-- The contract of a Workflow Epoch Event. -/
def epochEventContract (e : WorkflowEpochEvent) : Except String Unit := do
  require (e.content.epochSequence = 1 ↔ e.previousEventId = none)
    "Workflow epoch chain root is invalid."
  require (E.workflowArtifactId .integratedPlan e.content.planId)
    "plan_id is not the expected canonical workflow artifact ID."
  forEach (predecessorContract E) e.content.predecessor.toList
  require (e.content.receipts.length ≤ 1024) "receipts exceeds the item limit."
  forEach (receiptContract E) e.content.receipts
  require (e.content.receipts ≠ []) "Workflow Epoch Event requires at least one receipt."
  require (e.content.receipts.Pairwise (receiptLe E) ∧
    (e.content.receipts.map fun item => E.casefold item.key.path).Nodup)
    "Workflow Epoch Event receipts must be path-sorted and unique."
  require (∀ id ∈ e.content.sourceStateId, E.workflowArtifactId .workflowState id = true)
    "source_state_id is not the expected canonical workflow artifact ID."
  require (E.workflowIdempotencyKey e.content.idempotencyKey)
    "idempotency_key must be a canonical M8 idempotency identity."

/-! ## Requests -/

/-- The authority a request claims for its plan. -/
structure WorkflowRequest where
  scheduler : SchedulerTriple
  idempotencyKey : String
  producer : WorkflowProducer
  sourceStateId : Option String
  receipts : List WorkflowArtifactReceipt
deriving DecidableEq

/-- A receipt that is not yet published. -/
def reservedReceipt (artifactType : WorkflowArtifactType) (producer : WorkflowProducer)
    (artifact : ArtifactHead) : WorkflowArtifactReceipt :=
  ⟨⟨artifactType, artifact.artifactId, artifact.path, producer⟩, .reserved⟩

/-- The head already stands for the request. -/
def sameWorkflowRequest (head : WorkflowEpochHead) (candidate : CandidateIdentity)
    (graphId : String) (request : WorkflowRequest) : Prop :=
  head.content.candidate = candidate ∧ head.content.graphId = graphId ∧
    head.content.scheduler = request.scheduler ∧
    head.content.idempotencyKey = request.idempotencyKey ∧
    head.content.producer = request.producer ∧
    head.content.sourceStateId = request.sourceStateId ∧
    keepsReceipts request.receipts head.content.receipts

instance {head : WorkflowEpochHead} {candidate : CandidateIdentity} {graphId : String}
    {request : WorkflowRequest} :
    Decidable (sameWorkflowRequest head candidate graphId request) := by
  unfold sameWorkflowRequest
  infer_instance

/-! ## Transactions -/

namespace Store

variable (st : Store)

/-- The replayed head of a plan. -/
def workflowHead (planId : String) : Except String (Option WorkflowEpochHead) := do
  let events ← fromOption st.evidence.workflowEvents
    "M6 workflow authority requires scheduler store version 2."
  let heads ← replayWorkflowEpochs E events
  return heads[planId]?

def requiredWorkflowHead (planId : String) : Except String WorkflowEpochHead := do
  let head ← st.workflowHead E planId
  fromOption head "Workflow epoch does not exist."

/-- The replayed heads that wait for the publication of their terminal. -/
def pendingHeads : Except String (List WorkflowEpochHead) := do
  let events ← fromOption st.evidence.workflowEvents
    "M6 workflow authority requires scheduler store version 2."
  let heads ← replayWorkflowEpochs E events
  return pendingTerminals heads

/-- While a terminal is pending, only its own plan may go on. -/
def requirePendingTerminalScope (planId : String) : Except String Unit := do
  let pending ← st.pendingHeads E
  require (pending = [] ∨ pending.length = 1 ∧ ∀ head ∈ pending, head.content.planId = planId)
    "Pending terminal publication permits only same-epoch finalization."

/-- The scheduler authority a head is bound to is still the current one. -/
def requireUnchangedSchedulerHead (head : WorkflowEpochHead) : Except String Unit := do
  require (st.log.getLast?.map (fun entry => E.eventId entry.event) =
    some head.content.scheduler.eventHeadId)
    "Scheduler authority changed during workflow publication."
  let state ← st.status E
  require (E.stateId state = head.content.scheduler.stateId ∧
    state.eventSequence = head.content.scheduler.eventSequence)
    "Scheduler projection changed during workflow publication."

/-- Append one event to the epoch of a plan, and write the head it leads to. -/
def appendWorkflowEvent (cause : WorkflowEpochCause) (planId : String)
    (predecessor : Option WorkflowPredecessor) (candidate : CandidateIdentity)
    (graphId : String) (request : WorkflowRequest) (recordedAt : Timestamp) :
    Except String (Store × WorkflowEpochHead) := do
  let events ← fromOption st.evidence.workflowEvents
    "M6 workflow authority requires scheduler store version 2."
  let prior ← st.workflowHead E planId
  let e : WorkflowEpochEvent :=
    { previousEventId := prior.map (·.currentEventHeadId)
      cause := cause
      content :=
        { sequence := events.length + 1
          epochSequence := (prior.map (·.content.epochSequence)).getD 0 + 1
          planId := planId
          predecessor :=
            match prior with
            | none => predecessor
            | some prior => prior.content.predecessor
          candidate := candidate
          graphId := graphId
          scheduler := request.scheduler
          idempotencyKey := request.idempotencyKey
          producer := request.producer
          sourceStateId := request.sourceStateId
          heads := workflowArtifactHeads prior request.receipts
          receipts := orderedWorkflowReceipts E request.receipts
          recordedAt := recordedAt } }
  epochEventContract E e
  let head ← reduceWorkflowEvent E.workflowEventId prior e
  return (
    { evidence := { st.evidence with workflowEvents := some (events ++ [e]) }
      tables := { st.tables with
        workflowHeads := st.tables.workflowHeads.insert planId head } }, head)

/-- One workflow transaction on a valid store of the second version: its body, committed when the
store it leaves is valid. -/
def workflowTransaction (allowPending : Bool)
    (body : Except String (Store × WorkflowEpochHead)) :
    Except String (Store × WorkflowEpochHead) := do
  require (st.evidence.workflowEvents.isSome)
    "M6 workflow authority requires scheduler store version 2."
  st.validate E
  require (allowPending = true ∨ pendingTerminals st.tables.workflowHeads = [])
    "Pending terminal publication blocks scheduler mutation."
  let result ← body
  result.1.validate E
  return result

end Store

/-! ## Calls -/

/-- Open exactly one epoch of a plan and reserve its publication. -/
def openWorkflowEpoch (st : Store) (planId : String) (candidate : CandidateIdentity)
    (graphId : String) (scheduler : SchedulerTriple) (idempotencyKey : String)
    (producer : WorkflowProducer) (artifactType : WorkflowArtifactType) (artifact : ArtifactHead)
    (recordedAt : Timestamp) (predecessor : Option WorkflowPredecessor) :
    Except String (Store × WorkflowEpochHead) :=
  let request : WorkflowRequest :=
    ⟨scheduler, idempotencyKey, producer, none, [reservedReceipt artifactType producer artifact]⟩
  st.workflowTransaction E false do
    let existing ← st.workflowHead E planId
    match existing with
    | some head => do
      require (sameWorkflowRequest head candidate graphId request ∧
        head.content.predecessor = predecessor)
        "Workflow epoch already exists with different authority."
      return (st, head)
    | none => do
      requireSchedulerHead E st candidate graphId scheduler
      st.appendWorkflowEvent E .epochOpened planId predecessor candidate graphId request
        (formatUtc recordedAt)

/-- A request that was reserved before is answered with the head it led to. -/
def answersReservation (head : WorkflowEpochHead) (cause : WorkflowEpochCause)
    (request : WorkflowRequest) (timestamp : Timestamp) : Prop :=
  sameWorkflowRequest head head.content.candidate head.content.graphId request ∧
    ((cause = .terminalReserved ∧
        (head.phase = .terminalReserved ∨ head.phase = .terminalConfirmed)) ∨
      (cause = .transitionReserved ∧
        (head.phase = .transitionReserved ∨ head.phase = .active))) ∧
    (cause ≠ .terminalReserved ∨ head.terminalAt = some timestamp)

instance {head : WorkflowEpochHead} {cause : WorkflowEpochCause} {request : WorkflowRequest}
    {timestamp : Timestamp} : Decidable (answersReservation head cause request timestamp) := by
  unfold answersReservation
  infer_instance

/-- Reserve the publication of a change of a plan. -/
def reserveWorkflowChange (st : Store) (cause : WorkflowEpochCause) (planId expectedHeadId : String)
    (request : WorkflowRequest) (recordedAt : Timestamp) :
    Except String (Store × WorkflowEpochHead) :=
  st.workflowTransaction E true do
    let timestamp := formatUtc recordedAt
    let pending ← st.pendingHeads E
    require (pending = [] ∨ pending.length = 1 ∧ cause = .terminalReserved ∧
      ∀ head ∈ pending, head.content.planId = planId)
      "Pending terminal publication blocks scheduler mutation."
    let head ← st.requiredWorkflowHead E planId
    if answersReservation head cause request timestamp then return (st, head)
    else do
      require (head.phase = .opened ∨ head.phase = .active)
        "Workflow epoch phase rejects a new transition."
      require (head.currentEventHeadId = expectedHeadId)
        "Workflow epoch head changed before reservation."
      requireSchedulerHead E st head.content.candidate head.content.graphId request.scheduler
      let merged ← mergeWorkflowReceipts E head.content.receipts request.receipts
      st.appendWorkflowEvent E cause head.content.planId none head.content.candidate
        head.content.graphId { request with receipts := merged } timestamp

/-- Reserve one nonterminal publication: an event and a state. -/
def reserveWorkflowTransition (st : Store) (planId expectedHeadId : String)
    (scheduler : SchedulerTriple) (sourceStateId : Option String)
    (workflowEvent workflowState : ArtifactHead) (idempotencyKey : String)
    (producer : WorkflowProducer) (recordedAt : Timestamp) :
    Except String (Store × WorkflowEpochHead) :=
  reserveWorkflowChange E st .transitionReserved planId expectedHeadId
    ⟨scheduler, idempotencyKey, producer, sourceStateId, orderedWorkflowReceipts E
      [reservedReceipt .workflowEvent producer workflowEvent,
        reservedReceipt .workflowState producer workflowState]⟩ recordedAt

/-- Reserve the terminal publication: an event, a state and an outcome. -/
def reserveWorkflowTerminal (st : Store) (planId expectedHeadId : String)
    (scheduler : SchedulerTriple) (sourceStateId : String)
    (workflowEvent workflowState outcome : ArtifactHead) (idempotencyKey : String)
    (producer : WorkflowProducer) (recordedAt : Timestamp) :
    Except String (Store × WorkflowEpochHead) :=
  reserveWorkflowChange E st .terminalReserved planId expectedHeadId
    ⟨scheduler, idempotencyKey, producer, some sourceStateId, orderedWorkflowReceipts E
      [reservedReceipt .workflowEvent producer workflowEvent,
        reservedReceipt .workflowState producer workflowState,
        reservedReceipt .workflowOutcome producer outcome]⟩ recordedAt

/-- The request a head stands for, with other receipts. -/
def WorkflowEpochHead.request (head : WorkflowEpochHead)
    (receipts : List WorkflowArtifactReceipt) : WorkflowRequest where
  scheduler := head.content.scheduler
  idempotencyKey := head.content.idempotencyKey
  producer := head.content.producer
  sourceStateId := head.content.sourceStateId
  receipts := receipts

/-- The receipts with one artifact confirmed. -/
def confirmReceipt (artifact : ArtifactHead) (receipts : List WorkflowArtifactReceipt) :
    List WorkflowArtifactReceipt :=
  receipts.map fun item =>
    if item.key.artifactId = artifact.artifactId ∧ item.key.path = artifact.path then
      { item with status := .confirmed }
    else item

/-- Confirm one exact reserved artifact. -/
def confirmWorkflowArtifact (st : Store) (planId expectedHeadId : String)
    (artifact : ArtifactHead) (idempotencyKey : String) (recordedAt : Timestamp)
    (artifactType : Option WorkflowArtifactType) (producer : Option WorkflowProducer) :
    Except String (Store × WorkflowEpochHead) :=
  st.workflowTransaction E true do
    let head ← st.requiredWorkflowHead E planId
    st.requirePendingTerminalScope E planId
    let found ← fromOption
      (head.content.receipts.find? fun item =>
        decide (item.key.artifactId = artifact.artifactId ∧ item.key.path = artifact.path))
      "Workflow artifact confirmation differs from reservation."
    require ((∀ t ∈ artifactType, found.key.artifactType = t) ∧
      (∀ p ∈ producer, found.key.producer = p) ∧ head.content.idempotencyKey = idempotencyKey)
      "Workflow artifact confirmation differs from reservation."
    if found.status = .confirmed then return (st, head)
    else do
      require (head.currentEventHeadId = expectedHeadId)
        "Workflow epoch head changed before confirmation."
      st.requireUnchangedSchedulerHead E head
      st.appendWorkflowEvent E .artifactPublicationConfirmed head.content.planId none
        head.content.candidate head.content.graphId
        (head.request (orderedWorkflowReceipts E (confirmReceipt artifact head.content.receipts)))
        (formatUtc recordedAt)

/-- Confirm a reserved terminal after all its artifacts. -/
def confirmWorkflowTerminal (st : Store) (planId expectedHeadId idempotencyKey : String)
    (recordedAt : Timestamp) (producer : Option WorkflowProducer) :
    Except String (Store × WorkflowEpochHead) :=
  st.workflowTransaction E true do
    let timestamp := formatUtc recordedAt
    let head ← st.requiredWorkflowHead E planId
    st.requirePendingTerminalScope E planId
    if head.phase = .terminalConfirmed then do
      require (head.content.idempotencyKey = idempotencyKey ∧ head.terminalAt = some timestamp ∧
        ∀ p ∈ producer, head.content.producer = p)
        "Terminal retry differs from confirmed authority."
      return (st, head)
    else do
      require (head.phase = .terminalReserved ∧ head.currentEventHeadId = expectedHeadId ∧
        head.content.idempotencyKey = idempotencyKey ∧ head.terminalAt = some timestamp ∧
        (∀ p ∈ producer, head.content.producer = p) ∧
        ∀ item ∈ head.content.receipts, item.status = .confirmed)
        "Terminal confirmation is not admissible."
      st.requireUnchangedSchedulerHead E head
      st.appendWorkflowEvent E .terminalConfirmed head.content.planId none head.content.candidate
        head.content.graphId (head.request head.content.receipts) timestamp

/-- One call of the workflow interface. -/
inductive WorkflowCall
  | openEpoch (planId : String) (candidate : CandidateIdentity) (graphId : String)
      (scheduler : SchedulerTriple) (idempotencyKey : String) (producer : WorkflowProducer)
      (artifactType : WorkflowArtifactType) (artifact : ArtifactHead) (recordedAt : Timestamp)
      (predecessor : Option WorkflowPredecessor)
  | reserveTransition (planId expectedHeadId : String) (scheduler : SchedulerTriple)
      (sourceStateId : Option String) (workflowEvent workflowState : ArtifactHead)
      (idempotencyKey : String) (producer : WorkflowProducer) (recordedAt : Timestamp)
  | reserveTerminal (planId expectedHeadId : String) (scheduler : SchedulerTriple)
      (sourceStateId : String) (workflowEvent workflowState outcome : ArtifactHead)
      (idempotencyKey : String) (producer : WorkflowProducer) (recordedAt : Timestamp)
  | confirmArtifact (planId expectedHeadId : String) (artifact : ArtifactHead)
      (idempotencyKey : String) (recordedAt : Timestamp)
      (artifactType : Option WorkflowArtifactType) (producer : Option WorkflowProducer)
  | confirmTerminal (planId expectedHeadId idempotencyKey : String) (recordedAt : Timestamp)
      (producer : Option WorkflowProducer)

/-- The plan a call is about. -/
def WorkflowCall.planId : WorkflowCall → String
  | .openEpoch planId .. => planId
  | .reserveTransition planId .. => planId
  | .reserveTerminal planId .. => planId
  | .confirmArtifact planId .. => planId
  | .confirmTerminal planId .. => planId

/-- Make one call. -/
def WorkflowCall.run (st : Store) : WorkflowCall → Except String (Store × WorkflowEpochHead)
  | .openEpoch planId candidate graphId scheduler key producer artifactType artifact recordedAt
      predecessor =>
    openWorkflowEpoch E st planId candidate graphId scheduler key producer artifactType artifact
      recordedAt predecessor
  | .reserveTransition planId headId scheduler source event state key producer recordedAt =>
    reserveWorkflowTransition E st planId headId scheduler source event state key producer
      recordedAt
  | .reserveTerminal planId headId scheduler source event state outcome key producer recordedAt =>
    reserveWorkflowTerminal E st planId headId scheduler source event state outcome key producer
      recordedAt
  | .confirmArtifact planId headId artifact key recordedAt artifactType producer =>
    confirmWorkflowArtifact E st planId headId artifact key recordedAt artifactType producer
  | .confirmTerminal planId headId key recordedAt producer =>
    confirmWorkflowTerminal E st planId headId key recordedAt producer

end Sdaqf
