import Mathlib.Data.List.Lex
import Mathlib.Data.Prod.Lex
import Sdaqf.Observations
import Sdaqf.TextContracts

/-!
# Deriving the Workflow State

The Workflow State is derived afresh from a plan, the scheduler and the adopted observations: the
task projections, the gates of the plan, the blockers, the status and the measurements. A set of
blockers is listed in the order of codes and references.
-/

namespace Sdaqf

/-! ## Tasks and ambiguities -/

/-- The projection of one task that a Workflow State retains. -/
def projectTask (item : TaskProjection) : WorkflowTaskProjection where
  taskId := item.taskId
  state := item.state
  outcome := item.outcome
  attempt := item.attempt
  fence := item.fence
  blockerCodes := (item.blockers.map (·.code)).insertionSort (· ≤ ·)

def taskProjections (native : SchedulerState) : List WorkflowTaskProjection :=
  (native.tasks.insertionSort fun a b => a.taskId ≤ b.taskId).map projectTask

/-- A text that contains another one. -/
def containsText (part text : String) : Bool :=
  text.toList.tails.any fun tail => part.toList.isPrefixOf tail

/-- A text that starts with another one. -/
def startsWithText (part text : String) : Bool := part.toList.isPrefixOf text.toList

/-- The ambiguities of a scheduler state: a task whose outcome is unknown, a blocker that says so,
or a current worktree lease that is ambiguous. -/
def stateAmbiguities (native : SchedulerState) (worktrees : List (String × WorktreeLease)) :
    List String :=
  if (∃ task ∈ native.tasks, task.outcome = .unknown ∨ ∃ blocker ∈ task.blockers,
      containsText "ambiguous" blocker.code ∨ containsText "unknown" blocker.code) ∨
      ∃ item ∈ worktrees, item.1 ∈ native.worktreeLeaseIds ∧ item.2.ambiguous then
    ["external-effect-ambiguous"]
  else []

/-! ## Gates, blockers and status -/

section Projection

variable (plan : IntegratedPlan) (tasks : List WorkflowTaskProjection)

/-- There is a task, and every task is completed. -/
def allCompleted : Prop := tasks ≠ [] ∧ ∀ task ∈ tasks, task.state = .completed

instance : Decidable (allCompleted tasks) := by
  unfold allCompleted
  infer_instance

/-- The evidence of the gates, which counts only where the existing service passed it. -/
structure GateEvidence where
  evidenceIds : List String
  reviewIds : List String
  handoffStatus : Option String
  g4ResultIds : List String
  g4Passed : Bool

/-- The gate evidence of some observations. -/
def NativeWorkflowObservations.gateEvidence (o : NativeWorkflowObservations) : GateEvidence where
  evidenceIds := if o.g2Passed then o.evidenceIds else []
  reviewIds := if o.g3Passed then o.reviewIds else []
  handoffStatus := o.handoffStatus
  g4ResultIds := o.g4ResultIds
  g4Passed := o.g4Passed

/-- The status, the evidence and the blockers of one gate. -/
def gateVerdict (evidence : GateEvidence) (gateId : String) :
    GateStatus × List String × List String :=
  let blockingPlan := plan.blockingDecisions.map (·.reasonCode)
  if gateId = "G1" then
    (if blockingPlan = [] then .pass else .fail, [plan.requirementBaselineId], blockingPlan)
  else if gateId = "G2" ∧ allCompleted tasks ∧ evidence.evidenceIds ≠ [] ∧
      evidence.handoffStatus = some "completed" then
    (.pass, evidence.evidenceIds, [])
  else if gateId = "G3" ∧ allCompleted tasks ∧ evidence.reviewIds ≠ [] then
    (.pass, evidence.reviewIds, [])
  else if gateId = "G4" ∧ allCompleted tasks ∧ evidence.g4Passed ∧ evidence.g4ResultIds ≠ [] then
    (.pass, evidence.g4ResultIds, [])
  else if gateId = "G2" ∧ allCompleted tasks then
    (.notVerified, [], ["evidence-unavailable", "handoff-unavailable"])
  else (.notVerified, [], [gateId.toLower ++ "-not-verified"])

/-- The observation of one gate of a plan. -/
def gateObservation (evidence : GateEvidence) (gateId : String) : GateObservation :=
  let (status, evidenceIds, blockerCodes) := gateVerdict plan tasks evidence gateId
  ⟨gateId, status, evidenceIds.insertionSort (· ≤ ·), blockerCodes.insertionSort (· ≤ ·)⟩

def deriveGates (evidence : GateEvidence) : List GateObservation :=
  plan.requiredGateIds.map (gateObservation plan tasks evidence)

/-- The status of a gate among some observations. -/
def gateStatus? (gates : List GateObservation) (gateId : String) : Option GateStatus :=
  (gates.reverse.find? (·.gateId = gateId)).map (·.status)

/-- The blockers that stand once every task is completed: the codes of the gates that did not pass,
and missing evidence for a user interface. -/
def closingBlockers (gates : List GateObservation) : List (String × List String) :=
  if ∀ task ∈ tasks, task.state = .completed then
    (gates.filter fun gate => gate.status ≠ .pass).flatMap (fun gate =>
      gate.blockerCodes.map fun code => (code, [gate.gateId])) ++
    if plan.uiRequired ∧ gateStatus? gates "G4" ≠ some .pass then
      [("ui-evidence-unavailable", ["G4"])] else []
  else []

/-- All blockers of a projection, in no order and with repetitions. -/
def rawBlockers (gates : List GateObservation) (ambiguities : List String) :
    List (String × List String) :=
  plan.blockingDecisions.map (fun decision => (decision.reasonCode, [decision.subjectId])) ++
    tasks.flatMap (fun task => task.blockerCodes.map fun code => (code, [task.taskId])) ++
    ambiguities.map (fun ambiguity => (ambiguity, [plan.taskGraph.artifactId])) ++
    closingBlockers plan tasks gates

def deriveBlockers (gates : List GateObservation) (ambiguities : List String) :
    List WorkflowBlocker :=
  (Sorting.listed ((rawBlockers plan tasks gates ambiguities).map toLex).toFinset).map
    fun blocker => ⟨(ofLex blocker).1, (ofLex blocker).2⟩

def deriveStatus (blockers : List WorkflowBlocker) (ambiguities : List String) : TaskState :=
  let found (state : TaskState) : Bool := tasks.any fun task => task.state = state
  if plan.completionProfile = .planOnly then
    if blockers = [] then .completed else .blocked
  else if found .rejected then .rejected
  else if found .superseded then .superseded
  else if ambiguities ≠ [] ∨ found .blocked then .blocked
  else if allCompleted tasks then if blockers = [] then .completed else .blocked
  else if found .running then .running
  else if found .verification then .verification
  else if found .ready then .ready
  else .planned

end Projection

/-! ## Measurements -/

/-- What the measurements of the context read. -/
structure ContextQuality where
  staleRequiredCount : Nat
  provenanceMissingCount : Nat
  sensitivityViolationCount : Nat
  selectedContextBytes : Nat
  budgetBytes : Nat
  unresolvedContradictionCount : Nat
deriving DecidableEq

/-- What the measurements read beyond the plan, the tasks and the observations: the scheduler events
and the budget used so far, the context artifacts of the plan, the open diagnostics of its baseline
and the causes of the workflow events. -/
structure MeasurementEvidence where
  schedulerEvents : List SchedulerEvent
  usedBudget : Resource → Nat
  requiredContext : Finset String
  snapshotNodes : Finset String
  contextQuality : ContextQuality
  openDiagnosticCount : Nat
  workflowCauses : List WorkflowEventCause

/-- The requirements a plan selected as required. -/
def IntegratedPlan.requiredRequirements (plan : IntegratedPlan) : Finset String :=
  ((plan.decisions.filter fun item => item.subjectKind = "requirement" ∧ item.kind = .selected ∧
    item.reasonCode = "required-by-requirement").map (·.subjectId)).toFinset

/-- The requirements the tasks of a plan are mapped to. -/
def IntegratedPlan.mappedRequirements (plan : IntegratedPlan) : Finset String :=
  (plan.tasks.flatMap (·.requirementIds)).toFinset

/-- The required requirements that the observations do not cover. -/
def uncoveredRequirements (plan : IntegratedPlan) (o : NativeWorkflowObservations) :
    Finset String :=
  plan.requiredRequirements \ o.coveredRequirementIds.toFinset

/-- The statuses of the adopted verifications with their numbers. -/
def solverStatusText (o : NativeWorkflowObservations) : String :=
  if o.solverStatusCounts = [] then "none"
  else ";".intercalate (o.solverStatusCounts.map fun item => item.1 ++ ":" ++ toString item.2)

/-- The identities a measurement is taken from. -/
def measurementSources (planId : String) (plan : IntegratedPlan) (graphId stateId : String)
    (o : NativeWorkflowObservations) (eventChain : List NativeArtifactBinding) : Finset String :=
  ([planId, graphId, stateId, plan.requirementBaselineId, plan.contextGraph.artifactId,
      plan.contextQuery.artifactId, plan.contextSelection.artifactId,
      plan.contextSnapshot.artifactId] ++
    o.bindings.map (·.artifactId) ++ eventChain.map (·.artifactId)).toFinset

/-- A rejection of a message for a reason that starts as an approval one does. -/
def approvalRejection (e : SchedulerEvent) : Bool :=
  e.cause = .messageRejected && e.reason.any (startsWithText "approval-")

/-- A named value with its unit, or nothing where it is not available. -/
abbrev NamedValue := String × Option (MeasuredValue × String)

def observedCount (name : String) (value : Nat) : NamedValue :=
  (name, some (.number value, "count"))

def observedText (name value unit : String) : NamedValue := (name, some (.text value, unit))

def unavailable (name : String) : NamedValue := (name, none)

/-- Counts that are observed together, or all not available. -/
def countsWhen (available : Prop) [Decidable available] (items : List (String × Nat)) :
    List NamedValue :=
  items.map fun item => if available then observedCount item.1 item.2 else unavailable item.1

section Measurements

variable (plan : IntegratedPlan) (tasks : List WorkflowTaskProjection)
  (approvalIds ambiguities : List String) (o : NativeWorkflowObservations)
  (evidence : MeasurementEvidence)

def requirementValues : List NamedValue :=
  [observedCount "requirements.required_requirement_count" plan.requiredRequirements.card] ++
    (if o.requirementCoverageAvailable then
      [observedCount "requirements.covered_requirement_count"
          (o.coveredRequirementIds.toFinset ∩ plan.requiredRequirements).card,
        observedText "requirements.uncovered_requirement_ids"
          (if uncoveredRequirements plan o = ∅ then "none"
            else ",".intercalate (Sorting.listed (uncoveredRequirements plan o)))
          "identifier-list"]
    else
      [unavailable "requirements.covered_requirement_count",
        unavailable "requirements.uncovered_requirement_ids"]) ++
    [observedCount "requirements.scope_addition_count"
        (plan.mappedRequirements \ plan.requiredRequirements).card,
      observedCount "requirements.blocking_diagnostic_count" evidence.openDiagnosticCount]

def contextValues : List NamedValue :=
  let quality := evidence.contextQuality
  let bytes (name : String) (value : Nat) : NamedValue :=
    (name, some (.number value, "canonical-utf8-bytes"))
  [observedCount "context.required_reference_count" evidence.requiredContext.card,
    observedCount "context.selected_required_reference_count"
      (evidence.requiredContext ∩ evidence.snapshotNodes).card,
    observedCount "context.stale_required_count" quality.staleRequiredCount,
    observedCount "context.provenance_missing_count" quality.provenanceMissingCount,
    observedCount "context.sensitivity_violation_count" quality.sensitivityViolationCount,
    bytes "context.selected_context_bytes" quality.selectedContextBytes,
    bytes "context.context_budget_bytes" quality.budgetBytes,
    observedCount "context.unresolved_contradiction_count" quality.unresolvedContradictionCount]

def schedulingValues : List NamedValue :=
  [observedCount "scheduling.task_count" tasks.length,
    observedCount "scheduling.completed_task_count"
      (tasks.countP fun task => task.state = .completed),
    observedCount "scheduling.blocked_task_count"
      (tasks.countP fun task => task.state = .blocked),
    observedCount "scheduling.retry_used_count" (evidence.usedBudget .retries),
    observedCount "scheduling.duplicate_rejection_count"
      (evidence.schedulerEvents.countP fun e => e.cause = .duplicateMessage),
    observedCount "scheduling.late_result_rejection_count"
      (evidence.schedulerEvents.countP fun e => e.cause = .messageRejected &&
        e.reason.any fun reason => containsText "late" reason || containsText "lease-expiry" reason),
    observedCount "scheduling.deadlock_count"
      ((tasks.flatMap (·.blockerCodes)).toFinset.filter (containsText "deadlock" ·)).card]

def solverValues : List NamedValue :=
  [observedCount "solver.solver_task_count" plan.solverRequests.length,
    observedText "solver.status_counts" (solverStatusText o) "status-counts",
    observedCount "solver.verified_result_count" (o.solverCount .verified),
    observedCount "solver.adoptable_result_count" o.solverVerificationIds.length,
    observedCount "solver.solver_calls_used" (evidence.usedBudget .solverCalls),
    observedCount "solver.solver_steps_used" (evidence.usedBudget .solverSteps)]

def evidenceValues : List NamedValue :=
  countsWhen (∃ item ∈ o.bindings, item.artifactType = "evidence-ledger")
    [("evidence.claim_count", o.claimCount),
      ("evidence.verified_claim_count", o.verifiedClaimCount),
      ("evidence.unverified_claim_count", o.unverifiedClaimCount),
      ("evidence.known_problem_count", o.evidenceKnownProblemCount),
      ("evidence.missing_evidence_count", o.missingEvidenceCount)]

def handoffValues : List NamedValue :=
  countsWhen (∃ item ∈ o.bindings, item.artifactType = "automated-handoff")
    [("handoff.handoff_created_count", o.handoffCreatedCount),
      ("handoff.handoff_resume_failure_count", o.handoffResumeFailureCount),
      ("handoff.incomplete_item_count", o.handoffIncompleteItemCount),
      ("handoff.open_decision_count", o.handoffOpenDecisionCount),
      ("handoff.known_problem_count", o.handoffKnownProblemCount)]

def recoveryValues : List NamedValue :=
  [unavailable "recovery.resume_attempt_count",
    observedCount "recovery.successful_resume_count"
      (evidence.workflowCauses.countP fun cause => !([WorkflowEventCause.runtimeStarted,
        .recoveryObserved, .planSuperseded, .outcomeProduced].contains cause)),
    unavailable "recovery.recovery_attempt_count",
    observedCount "recovery.successful_recovery_count"
      (evidence.workflowCauses.countP fun cause => cause = .recoveryObserved),
    observedCount "recovery.ambiguous_effect_count" ambiguities.length]

def approvalValues : List NamedValue :=
  [observedCount "approval.required_approval_count"
      (plan.protectedEffects.map (·.approvalTypes.length)).sum,
    observedCount "approval.consumed_approval_count" approvalIds.length,
    observedCount "approval.refused_approval_count"
      (evidence.schedulerEvents.countP fun e => approvalRejection e &&
        !(e.reason.any (containsText "time-window"))),
    observedCount "approval.expired_approval_count"
      (evidence.schedulerEvents.countP fun e => e.cause = .approvalProposalExpired),
    observedCount "approval.pending_approval_count"
      (tasks.countP fun task => "approval-required" ∈ task.blockerCodes),
    observedCount "approval.approval_revalidation_failure_count"
      (evidence.schedulerEvents.countP fun e => e.cause = .dispatchApprovalBlocked ||
        e.cause = .approvalProposalExpired || approvalRejection e)]

def costValues : List NamedValue :=
  match plan.budget.cost with
  | some (currency, maximum) =>
    let used := evidence.usedBudget .microunits
    [observedText "available_cost.status" "available" "availability-status",
      observedText "available_cost.currency" currency "iso-4217",
      ("available_cost.budget_microunits", some (.number maximum, "microunits")),
      ("available_cost.used_microunits", some (.number used, "microunits")),
      ("available_cost.remaining_microunits", some (.number (maximum - used), "microunits"))]
  | none =>
    [observedText "available_cost.status" "not_available" "availability-status",
      unavailable "available_cost.currency", unavailable "available_cost.budget_microunits",
      unavailable "available_cost.used_microunits",
      unavailable "available_cost.remaining_microunits"]

/-- The measurements of a projection, group by group. -/
def measuredValues : List NamedValue :=
  requirementValues plan o evidence ++ contextValues evidence ++ schedulingValues tasks evidence ++
    solverValues plan o evidence ++ evidenceValues o ++ handoffValues o ++
    recoveryValues ambiguities evidence ++ approvalValues plan tasks approvalIds evidence ++
    costValues plan evidence

/-- Each measurement with its availability and the common sources. -/
def deriveMeasurements (sources : Finset String) : List WorkflowMeasurement :=
  (measuredValues plan tasks approvalIds ambiguities o evidence).map fun item =>
    { name := item.1
      status := if item.2.isSome then .observed else .notAvailable
      value := item.2.map (·.1)
      unit := item.2.map (·.2)
      sourceIds := Sorting.listed sources }

end Measurements

/-! ## The state -/

/-- What a derivation reads of the stores beyond the plan: the scheduler state with its identity,
the identities of the consumed approvals and of the ambiguous worktrees, and the measurements. -/
structure NativeEvidence where
  native : SchedulerState
  stateId : String
  approvalIds : Finset String
  worktrees : List (String × WorktreeLease)
  measured : MeasurementEvidence

def deriveState (planId : String) (plan : IntegratedPlan) (evidence : NativeEvidence)
    (o : NativeWorkflowObservations) (priorEvents : List NativeArtifactBinding)
    (latestEvent : NativeArtifactBinding) (recordedAt : Timestamp) : WorkflowState :=
  let native := evidence.native
  let tasks := taskProjections native
  let approvalIds := Sorting.listed evidence.approvalIds
  let ambiguities := stateAmbiguities native evidence.worktrees
  let gates := deriveGates plan tasks o.gateEvidence
  let blockers := deriveBlockers plan tasks gates ambiguities
  let eventChain := priorEvents ++ [latestEvent]
  { planId := planId
    candidate := plan.candidate
    sensitivity := plan.sensitivity
    status := deriveStatus plan tasks blockers ambiguities
    schedulerGraphId := native.graphId
    schedulerStateId := evidence.stateId
    schedulerEventSequence := native.eventSequence
    schedulerEventHeadSha256 := native.eventHeadSha256
    tasks := tasks
    solverVerificationIds := o.solverVerificationIds
    evidenceIds := o.evidenceIds
    reviewIds := o.reviewIds
    approvalIds := approvalIds
    gates := gates
    handoffId := o.handoffId
    handoffStatus := o.handoffStatus
    blockers := blockers
    ambiguities := ambiguities
    measurements := deriveMeasurements plan tasks approvalIds ambiguities o evidence.measured
      (measurementSources planId plan native.graphId evidence.stateId o eventChain)
    observationArtifacts := o.bindings
    eventChain := eventChain
    latestEvent := latestEvent
    transitionCount := priorEvents.length + 1
    recordedAt := recordedAt }

end Sdaqf
