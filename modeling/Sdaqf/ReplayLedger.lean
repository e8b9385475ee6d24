import Sdaqf.ReplayEvents

/-!
# Replaying the mailbox and the budget

Every history row agrees with its event, every message was adopted by exactly one event after its
causal parents, and the budget snapshots follow from the events.
-/

namespace Sdaqf

open Guard Store

variable (E : Environment) (ev : Evidence)

/-! ## History rows -/

/-- A lease row follows the lease policy of the store. -/
def validateAuthoritativeLease (lease : Lease) : Except String Unit := do
  require (lease.ttlSeconds = ev.leaseTtlSeconds ∧
    lease.heartbeatIntervalSeconds = ev.heartbeatIntervalSeconds)
    "Authoritative Lease policy drifted."
  require (lease.acquiredAt ≤ lease.heartbeatAt ∧ lease.heartbeatAt < lease.expiresAt)
    "Authoritative Lease timestamps are inconsistent."
  require (lease.expiresAt = addSeconds lease.heartbeatAt ev.leaseTtlSeconds)
    "Authoritative Lease expiry derivation drifted."

/-- The rows of an event name its task and its lease. -/
def validateRows (entry : Entry) : Except String Unit := do
  forEach (fun row : LeaseRow => do
    validateAuthoritativeLease ev row.lease
    require (entry.event.taskId = some row.lease.taskId ∧
      entry.event.leaseId = some row.authorityLeaseId)
      "Immutable lease evidence drifted.") entry.leaseRows
  forEach (fun ledger : BudgetLedger =>
    require (ledger.eventSequence = entry.event.sequence) "Immutable budget evidence drifted.")
    entry.ledger.toList
  forEach (fun row : WorktreeLease =>
    require (entry.event.taskId = some row.taskId ∧
      entry.event.cause.worktreeHistoryOutput = true)
      "Immutable worktree evidence drifted.") entry.worktreeRows

/-- The immutable rows agree with their events, and message identities are unique. -/
def validateImmutableRows : Except String Unit := do
  require (ev.messages.map E.messageId).Nodup "Scheduler database integrity check failed."
  forEach (validateRows ev) ev.log

/-! ## Adoption of messages -/

/-- A stored message was adopted once, by an event of its type and not before it was recorded; its
causal parents are stored before it and were adopted before it. -/
def validateAdopted (messageSequence : Nat) (m : MailboxMessage) : Except String Unit := do
  let adopter ← fromOption (primaryEvent? ev.log (E.messageId m))
    "Immutable mailbox message does not have one exact primary adoption."
  require (adopter.cause ∈ m.messageType.primaryCauses)
    "Immutable mailbox message does not have one exact primary adoption."
  require (m.recordedAt ≤ adopter.recordedAt)
    "Mailbox message was adopted before its recorded time."
  forEach (fun parentId => do
    let parentSequence ← fromOption (ev.messageSequence? E parentId)
      "Mailbox causal parent has no immutable message."
    let parentAdopter ← fromOption (primaryEvent? ev.log parentId)
      "Mailbox causal parent lacks exact primary adoption."
    require (parentSequence < messageSequence ∧ parentAdopter.sequence < adopter.sequence)
      "Mailbox causal parent is not an earlier adopted message.") m.causalParentMessageIds

/-- A duplicate is audited after the adoption of its message. -/
def validateDuplicateAudit (e : SchedulerEvent) : Except String Unit := do
  let id ← fromOption e.messageId "Duplicate mailbox audit is not replayable."
  require ((ev.message? E id).isSome) "Duplicate mailbox audit is not replayable."
  let adopter ← fromOption (primaryEvent? ev.log id) "Duplicate mailbox audit is not replayable."
  require (adopter.sequence < e.sequence ∧ e.reason = some "duplicate-message-retained")
    "Duplicate mailbox audit is not replayable."

/-- A consumption is bound to one adopted decision of the same task and lease. -/
def validateConsumption (pre : List SchedulerEvent) (e : SchedulerEvent) : Except String Unit := do
  let id ← fromOption e.messageId "Approval consumption adoption is incomplete."
  let approvalId ← fromOption e.approvalId "Approval consumption adoption is incomplete."
  let m ← fromOption (ev.message? E id) "Consumed approval was not adopted."
  let adopter ← fromOption (primaryEvent? ev.log id) "Consumed approval was not adopted."
  require (m.messageType = .approvalDecision ∧ adopter.cause = .approvalReceived ∧
    adopter.sequence < e.sequence ∧ m.approval?.map (·.approvalId) = some approvalId ∧
    e.taskId = adopter.taskId ∧ e.leaseId = adopter.leaseId ∧
    ∀ prior ∈ pre, ¬ (prior.messageId = some id ∧ prior.approvalId = some approvalId))
    "Approval consumption is not bound to one adopted decision."

/-- The events of one cause, in order. -/
def eventsOf (log : List Entry) (cause : EventCause) : List SchedulerEvent :=
  (log.map (·.event)).filter fun e => decide (e.cause = cause)

/-- Every immutable message has one exact adopting event. -/
def validateMessageAdoption : Except String Unit := do
  forEach (fun e : SchedulerEvent =>
    require (e.cause.isPrimary = true → (e.messageId.bind (ev.message? E)).isSome)
      "Primary mailbox adoption event has no immutable message.") (ev.log.map (·.event))
  forEach (fun pair : MailboxMessage × Nat => validateAdopted E ev (pair.2 + 1) pair.1)
    ev.messages.zipIdx
  forEach (validateDuplicateAudit E ev) (eventsOf ev.log .duplicateMessage)
  History.checkFrom (validateConsumption E ev) [] (eventsOf ev.log .approvalConsumed)

/-! ## The budget -/

/-- The state of the budget replay. -/
structure BudgetReplay where
  reserved : Amounts
  used : Amounts
  outstanding : Table BudgetReservation
  original : Table BudgetReservation
  latest : Option BudgetLedger

/-- The replay starts from nothing reserved and nothing used. -/
def BudgetReplay.initial : BudgetReplay := ⟨fun _ => 0, fun _ => 0, ∅, ∅, none⟩

/-- Change one replayed total, refusing a negative result. -/
def BudgetReplay.change (b : BudgetReplay) (r : Resource) (reservedDelta usedDelta : Int) :
    Except String BudgetReplay := do
  let reserved := b.reserved r + reservedDelta
  let used := b.used r + usedDelta
  require (0 ≤ reserved ∧ 0 ≤ used) "Budget evidence replay became negative."
  return { b with
    reserved := Function.update b.reserved r reserved
    used := Function.update b.used r used }

/-- Change one replayed total when the condition holds. -/
def BudgetReplay.changeIf (b : BudgetReplay) (c : Bool) (r : Resource)
    (reservedDelta usedDelta : Int) : Except String BudgetReplay :=
  if c then b.change r reservedDelta usedDelta else .ok b

/-- Change the totals of every reservable resource. -/
def BudgetReplay.changeAll (b : BudgetReplay) (amount : Resource → Int × Int) :
    Except String BudgetReplay :=
  foldE (fun b r => b.change r (amount r).1 (amount r).2) b reservable

/-- The context bytes and the reservation of a dispatch at the replayed totals, and whether it is
admitted. -/
def dispatchAdmission (b : BudgetReplay) (e : SchedulerEvent) :
    Except String (Nat × BudgetReservation × Bool) := do
  let task ← fromOption (e.taskId.bind ev.graph.task?) "Dispatch budget task evidence is missing."
  let binding ← fromOption (ev.graph.binding? task) "Task Context binding is unavailable."
  let contextBytes := E.referenceSize binding.reference
  let reservation := dispatchReservation E ev.graph task contextBytes b.reserved b.used
  return (contextBytes, reservation,
    decide (budgetAllows ev.graph contextBytes reservation (decide (e.beforeState = some .ready))
      b.reserved b.used))

/-- The message of a budget event. -/
def budgetMessage (e : SchedulerEvent) : Except String MailboxMessage := do
  let id ← fromOption e.messageId "Budget event message evidence is missing."
  fromOption (ev.message? E id) "Budget event message evidence is unavailable."

/-- The result of replaying one event: the totals, the deltas it must record, and whether it writes
a snapshot. -/
structure BudgetEffect where
  budget : BudgetReplay
  deltas : BudgetDeltas
  changed : Bool

/-- Nothing changes. -/
def BudgetEffect.none (b : BudgetReplay) : BudgetEffect := ⟨b, BudgetDeltas.none, false⟩

def replayDispatch (b : BudgetReplay) (e : SchedulerEvent) : Except String BudgetEffect := do
  let m ← budgetMessage E ev e
  let payload ← fromOption m.dispatch? "Dispatch reservation is not deterministically replayable."
  let (contextBytes, reservation, allowed) ← dispatchAdmission E ev b e
  require (payload.contextBytes = contextBytes ∧ payload.budgetReservation = reservation ∧
    allowed = true)
    "Dispatch reservation is not deterministically replayable."
  let acquires := decide (e.beforeState = some .ready)
  let b ← b.changeIf acquires .concurrency 1 0
  let b ← b.change .dispatches 0 1
  let b ← b.changeAll fun r => (reservation.amount r, 0)
  let leaseId ← fromOption e.leaseId "Dispatch budget Lease evidence is invalid."
  require ((b.outstanding[leaseId]?).isNone) "Dispatch budget Lease evidence is invalid."
  return {
    budget := { b with
      outstanding := b.outstanding.insert leaseId reservation
      original := b.original.insert leaseId reservation }
    deltas := dispatchDeltas reservation acquires
    changed := true }

def replayAccepted (b : BudgetReplay) (e : SchedulerEvent) : Except String BudgetEffect := do
  let leaseId ← fromOption e.leaseId "Dispatch settlement Lease evidence is missing."
  let reservation ← fromOption b.outstanding[leaseId]?
    "Dispatch settlement Lease evidence is missing."
  let amount : Int := reservation.contextBytes
  if amount = 0 then return BudgetEffect.none b
  else do
    let b ← b.change .contextBytes (-amount) amount
    return {
      budget := { b with
        outstanding := b.outstanding.insert leaseId { reservation with contextBytes := 0 } }
      deltas := BudgetDeltas.single .contextBytes amount
      changed := true }

/-- What the end of an attempt counts as used. -/
def actualUsage (e : SchedulerEvent) (reservation original : BudgetReservation)
    (hasOriginal : Bool) : Except String (Resource → Nat) :=
  match e.cause with
  | .resultReceived | .resultTerminal => do
    let m ← budgetMessage E ev e
    let payload ← fromOption m.result? "Budget event message evidence is unavailable."
    require (hasOriginal = true ∧
      ∀ r ∈ reported, payload.budgetUsage.amount r ≤ original.amount r)
      "Result usage exceeds its rederived dispatch reservation."
    return fun r => if r = .contextBytes then reservation.contextBytes
      else payload.budgetUsage.amount r
  | .cancelAcknowledgement | .leaseExpired => .ok reservation.amount
  | _ => .ok fun _ => 0

/-- The reasons that spend a retry. -/
def retryReason (reason : Option String) : Bool :=
  reason = some "lease-expired-safe-retry" || reason = some "safe-read-only-retry" ||
    reason = some "unambiguous-dispatch-rejection"

/-- An event that needs a dispatch under its lease when nothing is outstanding. -/
def needsDispatch : EventCause → Bool
  | .dispatchRejected | .resultReceived | .resultTerminal => true
  | _ => false

def replayTerminal (b : BudgetReplay) (e : SchedulerEvent) : Except String BudgetEffect := do
  let leaseId ← fromOption e.leaseId "Terminal budget Lease evidence is missing."
  let reservation := (b.outstanding[leaseId]?).getD ⟨0, 0, 0, 0, 0⟩
  require (needsDispatch e.cause = true → (∀ r ∈ reservable, reservation.amount r = 0) →
    (e.taskId.bind fun taskId => ev.dispatchForLease E taskId leaseId).isSome)
    "Terminal budget dispatch evidence is missing."
  let b ← b.change .concurrency (-1) 0
  let actual ← actualUsage E ev e reservation ((b.original[leaseId]?).getD ⟨0, 0, 0, 0, 0⟩)
    (b.original[leaseId]?).isSome
  let b ← b.changeAll fun r => (-(reservation.amount r : Int), 0)
  let b ← b.changeAll fun r => (0, (actual r : Int))
  let b ← b.changeIf (retryReason e.reason) .retries 0 1
  return {
    budget := { b with outstanding := b.outstanding.erase leaseId }
    deltas := ((BudgetDeltas.single .concurrency (-1)).and
      (fun r => if r ∈ reservable ∧ actual r ≠ 0 then some (actual r : Int) else none)).and
      (if retryReason e.reason then BudgetDeltas.single .retries 1 else BudgetDeltas.none)
    changed := true }

def replayWallTime (b : BudgetReplay) (e : SchedulerEvent) : Except String BudgetEffect := do
  let elapsed : Int := elapsedSeconds ev.createdAt e.recordedAt
  let delta := elapsed - b.used .wallTimeSeconds
  require (ev.createdAt ≤ e.recordedAt ∧ 0 < delta) "Wall-time budget evidence is invalid."
  let b ← b.change .wallTimeSeconds 0 delta
  return ⟨b, BudgetDeltas.single .wallTimeSeconds delta, true⟩

/-- The effect of one event on the budget. -/
def replayBudgetEvent (b : BudgetReplay) (e : SchedulerEvent) : Except String BudgetEffect :=
  match e.cause with
  | .worktreeRequest => do
    let b ← b.change .concurrency 1 0
    return ⟨b, BudgetDeltas.single .concurrency 1, true⟩
  | .dispatchIntent => replayDispatch E ev b e
  | .dispatchAccepted => replayAccepted b e
  | .cancelAcknowledgement | .dispatchRejected | .leaseExpired | .resultReceived
  | .resultTerminal => replayTerminal E ev b e
  | .worktreeObserved =>
    if e.afterState = some .blocked then do
      let b ← b.change .concurrency (-1) 0
      return ⟨b, BudgetDeltas.single .concurrency (-1), true⟩
    else return BudgetEffect.none b
  | .wallTimeObserved => replayWallTime ev b e
  | .dispatchBudgetBlocked => do
    let (_, _, allowed) ← dispatchAdmission E ev b e
    require (allowed = false) "Budget blocker has no replayable admission failure."
    return BudgetEffect.none b
  | _ => return BudgetEffect.none b

/-- The ledger of the replayed totals at an event. -/
def BudgetReplay.ledger (b : BudgetReplay) (eventSequence : Nat) : BudgetLedger where
  graphId := E.graphId ev.graph
  limits := ev.graph.budget
  reserved := b.reserved
  used := b.used
  availability := initialAvailability ev.graph
  blockerCodes := []
  eventSequence := eventSequence

/-- The replayed totals respect the limits and the availability of every resource. -/
def validateLimits (b : BudgetReplay) : Except String Unit := do
  require (∀ r : Resource, r ≠ .wallTimeSeconds →
    b.reserved r + b.used r ≤ budgetLimits ev.graph r)
    "Budget evidence exceeds its configured admission limit."
  require (∀ r : Resource, initialAvailability ev.graph r = .notAvailable →
    b.reserved r = 0 ∧ b.used r = 0)
    "Unavailable budget evidence was consumed."

/-- The snapshot of an entry is the expected one. -/
def validateSnapshot (entry : Entry) (expected : Option BudgetLedger) : Except String Unit := do
  require (entry.ledger.isSome = expected.isSome) "Budget evidence snapshot sequence drifted."
  require (entry.ledger = expected) "Budget evidence semantic replay drifted."

/-- Replay the budget of one entry. Each snapshot is compared as the replay reaches its event. -/
def validateBudgetEntry (b : BudgetReplay) (entry : Entry) : Except String BudgetReplay := do
  let e := entry.event
  if e.cause = .initialization then do
    let expected := b.ledger E ev e.sequence
    validateSnapshot entry (some expected)
    return { b with latest := some expected }
  else do
    let effect ← replayBudgetEvent E ev b e
    require (e.budgetDeltas = effect.deltas) "Scheduler event budget semantics drifted."
    validateLimits ev effect.budget
    if effect.changed then do
      let expected := effect.budget.ledger E ev e.sequence
      validateSnapshot entry (some expected)
      return { effect.budget with latest := some expected }
    else do
      validateSnapshot entry none
      return effect.budget

/-- Replay the budget of a log. -/
def replayBudget (log : List Entry) : Except String BudgetReplay :=
  foldE (validateBudgetEntry E ev) BudgetReplay.initial log

/-- Replay the whole budget and return its last snapshot. -/
def validateBudgetEvidence : Except String BudgetLedger := do
  let b ← replayBudget E ev ev.log
  fromOption b.latest "Budget evidence is missing."

end Sdaqf
