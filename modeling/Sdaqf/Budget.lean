import Sdaqf.Store

/-!
# The budget of a store

Admission, reservation and settlement. A dispatch reserves an amount of five resources; the
acknowledgement of the host settles the context bytes, and the event that ends the attempt settles
the rest. What is still outstanding for a lease is read off the event log, not stored.
-/

namespace Sdaqf

open Guard

/-! ## Limits and reservations -/

/-- The exact solve and verification reservation of a solver task, or none when its contract is not
met. -/
def solverReservation (E : Environment) (task : SchedulerTask) (graph : TaskGraph) :
    Option (Nat × Nat) :=
  if task.kind ≠ .solver then none
  else
    match task.requiredCapabilities.filter (fun c => c.startsWith "m7-solver-v1@") with
    | [token] =>
      if task.effectKind ≠ .readOnly ∨ task.requiredTools ≠ [] ∨ task.ownedPaths ≠ [] ∨
          task.worktreeAssignment ≠ none ∨
          task.evidencePredicate ≠ ["evidence-reference-present"] ∨
          task.terminalPredicate ≠ ["agent-result-valid"] ∨
          graph.budget.maxSolverCalls < 1 then none
      else
        match E.solverCapabilityToken token with
        | none => none
        | some (solveSteps, verificationSteps) =>
          if solveSteps + verificationSteps > graph.budget.maxSolverSteps then none
          else some (solveSteps, verificationSteps)
    | _ => none

/-- The limit of every resource. -/
def budgetLimits (graph : TaskGraph) : Amounts
  | .concurrency => min graph.budget.maxAgents graph.budget.maxConcurrency
  | .contextBytes => graph.budget.maxContextBytesTotal
  | .dispatches => graph.budget.maxDispatches
  | .microunits => graph.budget.maxMicrounits.getD 0
  | .retries => graph.budget.maxRetries
  | .solverCalls => graph.budget.maxSolverCalls
  | .solverSteps => graph.budget.maxSolverSteps
  | .toolCalls => graph.budget.maxToolCalls
  | .wallTimeSeconds => graph.budget.maxWallTimeSeconds

/-- The availability every resource starts with. -/
def initialAvailability (graph : TaskGraph) : Resource → Availability
  | .microunits => graph.budget.costStatus
  | _ => .available

/-- The reserved amount of every resource. -/
def BudgetReservation.amount (b : BudgetReservation) : Resource → Nat
  | .contextBytes => b.contextBytes
  | .microunits => b.microunits
  | .solverCalls => b.solverCalls
  | .solverSteps => b.solverSteps
  | .toolCalls => b.toolCalls
  | _ => 0

/-- The resources a dispatch reserves. -/
def reservable : List Resource :=
  [.contextBytes, .microunits, .solverCalls, .solverSteps, .toolCalls]

/-- The resources a result reports. -/
def reported : List Resource := [.microunits, .solverCalls, .solverSteps, .toolCalls]

/-- The reported amount of every resource. -/
def BudgetUsage.amount (b : BudgetUsage) : Resource → Nat
  | .microunits => b.microunits
  | .solverCalls => b.solverCalls
  | .solverSteps => b.solverSteps
  | .toolCalls => b.toolCalls
  | _ => 0

/-- The reservation a dispatch of a task makes at the given totals. -/
def dispatchReservation (E : Environment) (graph : TaskGraph) (task : SchedulerTask)
    (contextBytes : Nat) (reserved used : Amounts) : BudgetReservation where
  contextBytes := contextBytes
  microunits :=
    match graph.budget.maxMicrounits with
    | none => 0
    | some limit => (limit - reserved .microunits - used .microunits).toNat
  solverCalls := if task.kind = .solver then 1 else 0
  solverSteps :=
    match solverReservation E task graph with
    | none => 0
    | some (solveSteps, verificationSteps) => solveSteps + verificationSteps
  toolCalls := task.requiredTools.length

/-- A dispatch with this reservation fits the given totals. -/
def budgetAllows (graph : TaskGraph) (contextBytes : Nat) (reservation : BudgetReservation)
    (acquireConcurrency : Bool) (reserved used : Amounts) : Prop :=
  contextBytes ≤ graph.budget.maxContextBytesPerDispatch ∧
    used .dispatches < graph.budget.maxDispatches ∧
    reserved .concurrency + (if acquireConcurrency then 1 else 0) ≤
      budgetLimits graph .concurrency ∧
    used .wallTimeSeconds ≤ graph.budget.maxWallTimeSeconds ∧
    ∀ r ∈ reservable, reserved r + used r + reservation.amount r ≤ budgetLimits graph r

instance {graph : TaskGraph} {contextBytes : Nat} {reservation : BudgetReservation}
    {acquireConcurrency : Bool} {reserved used : Amounts} :
    Decidable (budgetAllows graph contextBytes reservation acquireConcurrency reserved used) := by
  unfold budgetAllows
  infer_instance

/-! ## Deltas -/

/-- No change. -/
def BudgetDeltas.none : BudgetDeltas := fun _ => Option.none

/-- The change of one resource by a non-zero amount, when it is not zero. -/
def BudgetDeltas.single (r : Resource) (amount : Int) : BudgetDeltas :=
  fun s => if s = r ∧ amount ≠ 0 then some amount else Option.none

/-- Two sets of changes of different resources; the second wins where both name a resource. -/
def BudgetDeltas.and (d e : BudgetDeltas) : BudgetDeltas := fun r => (e r).or (d r)

/-- The deltas of a dispatch, which name every reserved resource even when its amount is zero. -/
def dispatchDeltas (reservation : BudgetReservation) (acquireConcurrency : Bool) : BudgetDeltas
  | .concurrency => if acquireConcurrency then some 1 else Option.none
  | .dispatches => some 1
  | .retries => Option.none
  | .wallTimeSeconds => Option.none
  | r => some (reservation.amount r)

/-! ## Totals -/

namespace Store

variable (E : Environment) (st : Store)

/-- The reserved totals. -/
def reserved : Amounts := fun r => (st.tables.budgetTotals r).reserved

/-- The used totals. -/
def used : Amounts := fun r => (st.tables.budgetTotals r).used

/-- The largest total the budget can hold. -/
def maxBudgetTotal : Int := 1000000000000000

/-- Change one total, refusing a negative or overflowing result. -/
def changeBudget (r : Resource) (reservedDelta usedDelta : Int) : Except String Store :=
  let reserved := st.reserved r + reservedDelta
  let used := st.used r + usedDelta
  if reserved < 0 ∨ used < 0 ∨ reserved > maxBudgetTotal ∨ used > maxBudgetTotal then
    .error "Budget arithmetic is invalid or overflowed."
  else
    .ok (st.withTables fun t =>
      { t with
        budgetTotals := Function.update t.budgetTotals r
          { t.budgetTotals r with reserved := reserved, used := used } })

/-- Change one total when there is something to change. -/
def changeBudgetIf (c : Prop) [Decidable c] (r : Resource) (reservedDelta usedDelta : Int) :
    Except String Store :=
  if c then st.changeBudget r reservedDelta usedDelta else .ok st

/-- Reserve every amount of a reservation. -/
def reserveAll (reservation : BudgetReservation) : Except String Store :=
  foldE (fun st r => st.changeBudget r (reservation.amount r) 0) st reservable

/-- The ledger of the current totals. -/
def budgetLedger (eventSequence : Nat) : BudgetLedger where
  graphId := E.graphId st.graph
  limits := st.graph.budget
  reserved := st.reserved
  used := st.used
  availability := fun r => (st.tables.budgetTotals r).availability
  blockerCodes := []
  eventSequence := eventSequence

end Store

/-! ## Outstanding reservations -/

/-- The last adopted dispatch under a lease. -/
def Evidence.dispatchForLease (E : Environment) (ev : Evidence) (taskId leaseId : String) :
    Option MailboxMessage :=
  (History.lastWhere
    (fun a : Adoption => decide (a.message.taskId? = some taskId ∧
      a.message.leaseId? = some leaseId))
    (ev.adoptionsOf E ev.log .dispatchIntent)).map (·.message)

namespace Store

variable (E : Environment) (st : Store)

/-- A dispatch or a worktree request was adopted under the lease. -/
def leaseWasActivated (taskId leaseId : String) : Bool :=
  (st.evidence.adoptions E st.log).any fun a =>
    decide ((a.event.cause = .dispatchIntent ∨ a.event.cause = .worktreeRequest) ∧
      a.message.taskId? = some taskId ∧ a.message.leaseId? = some leaseId)

/-- The reservation made by the dispatch under a lease. -/
def dispatchReservationForLease (taskId leaseId : String) : Option BudgetReservation :=
  (st.evidence.dispatchForLease E taskId leaseId).bind fun m =>
    m.dispatch?.map (·.budgetReservation)

end Store

/-- The causes that settle everything a lease still has outstanding. -/
def EventCause.settlesAttempt : EventCause → Bool
  | .cancelAcknowledgement => true
  | .dispatchRejected => true
  | .leaseExpired => true
  | .resultReceived => true
  | .resultTerminal => true
  | _ => false

/-- An event under the lease settled the resource. -/
def settled (log : List Entry) (leaseId : String) (r : Resource) : Bool :=
  log.any fun e => decide (e.event.leaseId = some leaseId) &&
    (e.event.cause.settlesAttempt ||
      (decide (e.event.cause = .dispatchAccepted) && decide (r = .contextBytes)))

namespace Store

variable (E : Environment) (st : Store)

/-- What a lease still has outstanding. -/
def outstandingForLease (taskId leaseId : String) : Option (Resource → Nat) :=
  (st.dispatchReservationForLease E taskId leaseId).map fun reservation r =>
    if settled st.log leaseId r then 0 else reservation.amount r

/-- Move the outstanding context bytes of a lease from reserved to used. -/
def settleContextReservation (taskId leaseId : String) : Except String (Store × Int) :=
  match st.outstandingForLease E taskId leaseId with
  | none => .ok (st, 0)
  | some outstanding => do
    let amount : Int := outstanding .contextBytes
    require (amount ≤ st.reserved .contextBytes) "Attempt-scoped context reservation drifted."
    let st ← st.changeBudgetIf (amount ≠ 0) .contextBytes (-amount) amount
    return (st, amount)

/-- Settle one reported resource of a result. -/
def settleReported (outstanding : Resource → Nat) (reservation : BudgetReservation)
    (usage : BudgetUsage) (st : Store) (r : Resource) : Except String Store := do
  let actual : Int := usage.amount r
  let reserved : Int := reservation.amount r
  require (actual ≤ reserved) "Task Result exceeds its budget reservation."
  require (¬(r = .microunits ∧ (st.tables.budgetTotals .microunits).availability = .notAvailable ∧
    actual ≠ 0)) "Unavailable cost cannot be reported as used."
  require ((outstanding r : Int) = reserved) "Attempt-scoped result reservation drifted."
  require ((outstanding r : Int) ≤ st.reserved r) "Attempt-scoped result reservation drifted."
  let st ← st.changeBudgetIf (outstanding r ≠ 0) r (-(outstanding r : Int)) 0
  st.changeBudgetIf (actual ≠ 0) r 0 actual

/-- The deltas of a settled result. -/
def reportedDeltas (usage : BudgetUsage) : BudgetDeltas :=
  fun r => if r ∈ reported ∧ usage.amount r ≠ 0 then some (usage.amount r : Int) else none

/-- Settle the reservation of a lease by the usage of its result. -/
def settleResultBudget (taskId leaseId : String) (usage : BudgetUsage) :
    Except String (Store × BudgetDeltas) := do
  let reservation ← fromOption (st.dispatchReservationForLease E taskId leaseId)
    "Task Result has no current dispatch reservation."
  let outstanding ← fromOption (st.outstandingForLease E taskId leaseId)
    "Task Result has no current dispatch reservation."
  let (st, contextUsed) ← st.settleContextReservation E taskId leaseId
  let st ← foldE (settleReported outstanding reservation usage) st reported
  return (st, (BudgetDeltas.single .contextBytes contextUsed).and (reportedDeltas usage))

/-- Close one resource of an attempt: release what is outstanding, and count it as used when the
closing is conservative. -/
def closeResource (outstanding : Resource → Nat) (conservative : Bool) (st : Store)
    (r : Resource) : Except String Store := do
  let amount : Int := outstanding r
  require (amount ≤ st.reserved r) "Attempt-scoped closing reservation drifted."
  let st ← st.changeBudgetIf (amount ≠ 0) r (-amount) 0
  st.changeBudgetIf (amount ≠ 0 ∧ conservative = true) r 0 amount

/-- The deltas of a conservatively closed attempt. -/
def closeDeltas (outstanding : Resource → Nat) (conservative : Bool) : BudgetDeltas :=
  fun r => if conservative ∧ r ∈ reservable ∧ outstanding r ≠ 0 then some (outstanding r : Int)
    else none

/-- Close the budget of an attempt without a result. -/
def closeAttemptBudget (taskId leaseId : String) (conservative : Bool) :
    Except String (Store × BudgetDeltas) :=
  match st.outstandingForLease E taskId leaseId with
  | none => .ok (st, BudgetDeltas.none)
  | some outstanding => do
    let st ← foldE (closeResource outstanding conservative) st reservable
    return (st, closeDeltas outstanding conservative)

/-- Take one retry from the budget, when one is left. -/
def reserveRetry : Except String (Store × Bool) :=
  if st.used .retries ≥ st.graph.budget.maxRetries then .ok (st, false)
  else do
    let st ← st.changeBudget .retries 0 1
    return (st, true)

/-- Take one retry when a retry is safe. -/
def reserveRetryIf (safe : Prop) [Decidable safe] : Except String (Store × Bool) :=
  if safe then st.reserveRetry else .ok (st, false)

/-- A dispatch of a task fits the current totals. -/
def budgetAllowsDispatch (contextBytes : Nat) (reservation : BudgetReservation)
    (acquireConcurrency : Bool) : Prop :=
  budgetAllows st.graph contextBytes reservation acquireConcurrency st.reserved st.used

instance {contextBytes : Nat} {reservation : BudgetReservation} {acquireConcurrency : Bool} :
    Decidable (st.budgetAllowsDispatch contextBytes reservation acquireConcurrency) := by
  unfold budgetAllowsDispatch
  infer_instance

end Store

end Sdaqf
