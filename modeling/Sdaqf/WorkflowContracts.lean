import Mathlib.Data.List.Lex
import Mathlib.Data.Prod.Lex
import Sdaqf.PlanDomain
import Sdaqf.TextContracts
import Sdaqf.Workflow

/-!
# Workflow integration contracts

The contracts of the Integrated Plan and of the Workflow State. Both are rebuilt from their own
content before they get an identity, so a value that the program derives itself is accepted only
when it meets the contract. The names of the measurements stand in one fixed order, and their own
pattern holds of each.
-/

namespace Sdaqf

open Guard

def maxTasks : Nat := 4096
def maxReferences : Nat := 4096
def maxDecisions : Nat := 16384
def maxBlockers : Nat := 256
def maxEffects : Nat := 256
def maxCount : Nat := 2147483647

/-! ## Identifiers -/

/-- The value of an artifact type. -/
def WorkflowArtifactType.value : WorkflowArtifactType → String
  | .integratedPlan => "integrated-plan"
  | .workflowEvent => "workflow-event"
  | .workflowState => "workflow-state"
  | .workflowOutcome => "workflow-outcome"

/-- The mark of the identities of an artifact type. -/
def WorkflowArtifactType.mark : WorkflowArtifactType → String
  | .integratedPlan => "M8-INTEGRATED-PLAN-"
  | .workflowEvent => "M8-WORKFLOW-EVENT-"
  | .workflowState => "M8-WORKFLOW-STATE-"
  | .workflowOutcome => "M8-WORKFLOW-OUTCOME-"

def isNativeCharacter (c : Char) : Bool :=
  isUpper c || isDigit c || c = '.' || c = '_' || c = ':' || c = '@' || c = '-'

def isNativeId (text : String) : Bool := isRun isUpper isNativeCharacter 1 191 text.toList

/-- An M8 mark, upper-case words, and the digits of a digest. -/
def isWorkflowId (text : String) : Bool :=
  let body := text.toList.drop 3
  let words := body.take (body.length - 65)
  "M8-".toList.isPrefixOf text.toList && 66 ≤ body.length &&
    words.all (fun c => isUpper c || c = '-') && body[body.length - 65]? = some '-' &&
    (body.drop (body.length - 64)).all isUpperHex

def isStableId (text : String) : Bool := isNativeId text || isWorkflowId text

def isCodeCharacter (c : Char) : Bool := isLower c || isDigit c || c = '-'

def isCode (text : String) : Bool := isRun isLower isCodeCharacter 0 95 text.toList

def isNativeType (text : String) : Bool := isRun isLower isCodeCharacter 0 63 text.toList

def isTaskId (text : String) : Bool :=
  marked "TSK-" (isRun (fun c => isUpper c || isDigit c)
    (fun c => isUpper c || isDigit c || c = '-') 0 63) text

def isRequirementId (text : String) : Bool :=
  isRun isUpper (fun c => isUpper c || isDigit c || c = '-') 0 127 text.toList

def isBaselineId (text : String) : Bool :=
  marked "RB-" (fun cs => cs.length = 16 && cs.all isUpperHex) text

def isGateId (text : String) : Bool := ["G1", "G2", "G3", "G4"].contains text

def isCurrency (text : String) : Bool := text.toList.length = 3 && text.toList.all isUpper

def nativeId (field text : String) : Except String Unit :=
  patternText field 192 isNativeId " is not a stable native identity." text

def stableId (field text : String) : Except String Unit :=
  patternText field 192 isStableId " is not a stable identity." text

def codeText (field text : String) : Except String Unit :=
  patternText field 96 isCode " must be a stable lowercase code." text

def taskIdText (field text : String) : Except String Unit :=
  patternText field 68 isTaskId " must be a stable Task ID." text

def baselineIdText (field text : String) : Except String Unit :=
  patternText field 19 isBaselineId " must be a stable Requirement Baseline ID." text

def gateIdText (field text : String) : Except String Unit :=
  patternText field 2 isGateId " must be one of G1 through G4." text

/-- Require a full workflow identity of one type. -/
def workflowId (field : String) (artifactType : WorkflowArtifactType) (text : String) :
    Except String Unit := do
  patternText field 160 isWorkflowId " must be a full M8 identity." text
  require (artifactType.mark.toList.isPrefixOf text.toList)
    (field ++ " has an unexpected M8 identity type.")

/-- Require sorted unique texts of one pattern. -/
def sortedTexts (field : String) (minimum maximum : Nat) (pattern : String → Bool)
    (message : String) (items : List String) : Except String Unit := do
  stringTuple field minimum maximum items
  require (items.Pairwise (· ≤ ·) ∧ items.all pattern) (field ++ message)

def sortedCodes (field : String) (minimum maximum : Nat) (items : List String) :
    Except String Unit :=
  sortedTexts field minimum maximum isCode " must contain sorted stable codes." items

def sortedNativeIds (field : String) (items : List String) : Except String Unit :=
  sortedTexts field 0 maxReferences isNativeId " must contain sorted native IDs." items

def sortedStableIds (field : String) (items : List String) : Except String Unit :=
  sortedTexts field 0 maxReferences isStableId " must contain sorted stable IDs." items

def sortedPatternIds (field : String) (items : List String) : Except String Unit :=
  sortedTexts field 0 maxReferences isRequirementId " must contain sorted stable IDs." items

def sortedTaskIds (field : String) (items : List String) : Except String Unit :=
  sortedTexts field 0 maxTasks isTaskId " must contain sorted Task IDs." items

/-- A path with the case of its letters forgotten. -/
def foldedPath (path : String) : List Char := path.toList.map Char.toLower

/-- Require sorted unique paths that stay apart when case is forgotten. -/
def sortedPaths (field : String) (items : List String) : Except String Unit := do
  arrayValue field maxReferences items
  forEachIndexed field safeRelativePath items
  require (items.Pairwise (· < ·) ∧ (items.map foldedPath).Nodup)
    (field ++ " must be sorted, unique, and free of portable case collisions.")

/-! ## Bindings -/

def bindingContract (field : String) (item : NativeArtifactBinding) : Except String Unit := do
  patternText (field ++ ".artifact_type") 64 isNativeType " is invalid." item.artifactType
  stableId (field ++ ".artifact_id") item.artifactId
  referenceContract (field ++ ".reference") item.reference

def requiredBinding (field : String) (item : NativeArtifactBinding) : Except String Unit := do
  bindingContract field item
  require (item.required = true) (field ++ " must be an exact required binding.")

/-- A bounded array of required bindings. -/
def bindingItems (field : String) (minimum : Nat) (items : List NativeArtifactBinding) :
    Except String Unit := do
  arrayValue field maxReferences items
  require (minimum ≤ items.length) (field ++ " has too few required bindings.")
  forEachIndexed field requiredBinding items

/-- Required bindings with distinct identities, in the order of these. -/
def requiredBindings (field : String) (items : List NativeArtifactBinding) :
    Except String Unit := do
  bindingItems field 0 items
  require ((items.map (·.artifactId)).Pairwise (· ≤ ·))
    (field ++ " must use artifact identity order.")
  require ((items.map (·.artifactId)).Nodup)
    (field ++ " contains duplicate artifact identities.")

/-- Required bindings with distinct identities, in the order they are given. -/
def orderedRequiredBindings (field : String) (minimum : Nat)
    (items : List NativeArtifactBinding) : Except String Unit := do
  bindingItems field minimum items
  require ((items.map (·.artifactId)).Nodup)
    (field ++ " contains duplicate artifact identities.")

/-! ## Parts of a plan -/

def planTaskContract (field : String) (item : IntegratedPlanTask) : Except String Unit := do
  patternText (field ++ ".task_kind") 32 isCode " is invalid." item.taskKind
  taskIdText (field ++ ".task_id") item.taskId
  integerValue (field ++ ".phase") 0 64 item.phase
  integerValue (field ++ ".topological_rank") 0 maxTasks item.topologicalRank
  integerValue (field ++ ".wave") 0 maxTasks item.wave
  sortedTaskIds (field ++ ".dependencies") item.dependencies
  codeText (field ++ ".role_id") item.roleId
  nativeId (field ++ ".context_snapshot_id") item.contextSnapshotId
  sortedPatternIds (field ++ ".requirement_ids") item.requirementIds
  sortedPatternIds (field ++ ".acceptance_ids") item.acceptanceIds
  sortedNativeIds (field ++ ".context_node_ids") item.contextNodeIds
  sortedNativeIds (field ++ ".solver_request_ids") item.solverRequestIds
  sortedCodes (field ++ ".approval_stops") 0 2 item.approvalStops
  sortedCodes (field ++ ".evidence_predicates") 0 256 item.evidencePredicates
  sortedCodes (field ++ ".terminal_predicates") 1 256 item.terminalPredicates

/-- The place of a task in the deterministic order of a plan. -/
def planTaskKey (item : IntegratedPlanTask) : ℕ ×ₗ ℕ ×ₗ ℕ ×ₗ String ×ₗ String :=
  toLex (item.phase, toLex (item.topologicalRank, toLex (item.wave,
    toLex (item.taskKind, item.taskId))))

def planTasksContract (field : String) (tasks : List IntegratedPlanTask) :
    Except String Unit := do
  arrayValue field maxTasks tasks
  forEachIndexed field planTaskContract tasks
  require (tasks.Pairwise fun a b => planTaskKey a ≤ planTaskKey b)
    (field ++ " is not in deterministic Plan order.")
  require ((tasks.map (·.taskId)).Nodup ∧
      ∀ task ∈ tasks, ∀ dependency ∈ task.dependencies, dependency ∈ tasks.map (·.taskId))
    (field ++ " has duplicate or unknown Task references.")

def protectedEffectContract (field : String) (item : ProtectedEffect) : Except String Unit := do
  nativeId (field ++ ".effect_id") item.effectId
  sha256Text (field ++ ".effect_digest") item.effectDigest
  require (item.effectId = "M8-EFFECT-" ++ item.effectDigest)
    "Protected effect ID must bind its exact digest."
  stringTuple (field ++ ".network_destinations") 0 64 item.networkDestinations
  require (item.networkDestinations.Pairwise (· < ·) ∧
      ∀ destination ∈ item.networkDestinations, destination.toList.length ≤ 256)
    "Protected effect destinations are not canonical."
  taskIdText (field ++ ".task_id") item.taskId
  sortedPaths (field ++ ".target_paths") item.targetPaths
  sortedCodes (field ++ ".approval_types") 0 2 item.approvalTypes
  codeText (field ++ ".idempotency_scope") item.idempotencyScope

def protectedEffectsContract (field : String) (effects : List ProtectedEffect) :
    Except String Unit := do
  arrayValue field maxEffects effects
  forEachIndexed field protectedEffectContract effects
  require ((effects.map (·.effectId)).Pairwise (· ≤ ·)) (field ++ " must use effect identity order.")
  require ((effects.map (·.effectId)).Nodup) (field ++ " contains duplicate effect IDs.")

def decisionContract (field : String) (item : WorkflowDecision) : Except String Unit := do
  codeText (field ++ ".reason_code") item.reasonCode
  require (item.reasonCode ∈ item.kind.reasonCodes)
    (field ++ ".reason_code is invalid for its kind.")
  require (item.blocking = true → item.kind = .uncertainty)
    "Only uncertainty decisions may block a Plan."
  codeText (field ++ ".subject_kind") item.subjectKind
  stableId (field ++ ".subject_id") item.subjectId
  sortedStableIds (field ++ ".references") item.references

/-- The place of a decision in the deterministic order of reasons. -/
def decisionKey (item : WorkflowDecision) :
    String ×ₗ String ×ₗ String ×ₗ String ×ₗ List String :=
  toLex (item.subjectKind, toLex (item.subjectId, toLex (item.kind.value,
    toLex (item.reasonCode, item.references))))

def decisionsContract (field : String) (decisions : List WorkflowDecision) :
    Except String Unit := do
  arrayValue field maxDecisions decisions
  forEachIndexed field decisionContract decisions
  require (decisions.Pairwise fun a b => decisionKey a ≤ decisionKey b)
    (field ++ " must use deterministic reason order.")
  require decisions.Nodup (field ++ " contains duplicate decisions.")

def budgetContract (field : String) (b : SchedulerBudget) : Except String Unit := do
  integerValue (field ++ ".max_agents") 1 16 b.maxAgents
  integerValue (field ++ ".max_concurrency") 1 16 b.maxConcurrency
  require (b.maxConcurrency ≤ b.maxAgents) (field ++ ".max_concurrency exceeds max_agents.")
  require (b.maxReasoningEffort ∈ ["low", "medium", "high"])
    (field ++ ".max_reasoning_effort is unsupported.")
  forEach (fun cost : String × Nat => do
    patternText (field ++ ".cost.currency") 3 isCurrency " is invalid." cost.1
    integerValue (field ++ ".cost.max_microunits") 0 1000000000000000 cost.2) b.cost.toList
  integerValue (field ++ ".max_dispatches") 1 4096 b.maxDispatches
  integerValue (field ++ ".max_retries") 0 1024 b.maxRetries
  integerValue (field ++ ".max_wall_time_seconds") 1 604800 b.maxWallTimeSeconds
  integerValue (field ++ ".max_tool_calls") 0 100000 b.maxToolCalls
  integerValue (field ++ ".max_context_bytes_per_dispatch") 1024 8388608
    b.maxContextBytesPerDispatch
  integerValue (field ++ ".max_context_bytes_total") 1024 34359738368 b.maxContextBytesTotal
  integerValue (field ++ ".max_solver_calls") 0 1024 b.maxSolverCalls
  integerValue (field ++ ".max_solver_steps") 0 maxCount b.maxSolverSteps

/-- The contract of the predecessor of a plan. -/
def planPredecessorContract (p : PlanPredecessor) : Except String Unit := do
  workflowId "content.predecessor_plan_id" .integratedPlan p.planId
  workflowId "content.predecessor_outcome_id" .workflowOutcome p.outcomeId
  workflowId "content.predecessor_state_id" .workflowState p.stateId
  requiredBinding "content.predecessor_plan" p.plan
  requiredBinding "content.predecessor_state" p.state
  requiredBinding "content.predecessor_outcome" p.outcome
  require (p.plan.artifactType = "integrated-plan" ∧ p.plan.artifactId = p.planId ∧
      p.state.artifactType = "workflow-state" ∧ p.state.artifactId = p.stateId ∧
      p.outcome.artifactType = "workflow-outcome" ∧ p.outcome.artifactId = p.outcomeId)
    "Plan predecessor binding types or identities are inconsistent."

/-- The gates of a plan are those of its profile, and only the last profile has a user interface. -/
def planProfileContract (plan : IntegratedPlan) : Except String Unit := do
  require (plan.requiredGateIds = plan.completionProfile.requiredGates)
    "Plan Gate set does not match its completion profile."
  require (plan.uiRequired = true → plan.completionProfile = .releaseCandidateReady)
    "UI-required Plan must use release-candidate-ready profile."

/-- The contract of an Integrated Plan. -/
def planContract (plan : IntegratedPlan) : Except String Unit := do
  patternText "content.project_id" 64 (fun text => isRun isLower isCodeCharacter 0 63 text.toList)
    " is invalid." plan.projectId
  planTasksContract "content.tasks" plan.tasks
  protectedEffectsContract "content.protected_effects" plan.protectedEffects
  decisionsContract "content.decisions" plan.decisions
  forEach (requiredBinding "content.solver_registry") plan.solverRegistry.toList
  requiredBindings "content.solver_requests" plan.solverRequests
  require (plan.solverRegistry = none → plan.solverRequests = [])
    "Plan Solver Requests require a Solver Registry."
  forEach planPredecessorContract plan.predecessor.toList
  require (∀ effect ∈ plan.protectedEffects, effect.taskId ∈ plan.tasks.map (·.taskId))
    "Protected effect references an unknown Plan task."
  requiredBinding "content.intent" plan.intent
  candidateIdentity "content.candidate" plan.candidate
  referenceContract "content.specification" plan.specification
  baselineIdText "content.requirement_baseline_id" plan.requirementBaselineId
  referenceContract "content.requirement_baseline" plan.requirementBaseline
  requiredBinding "content.context_graph" plan.contextGraph
  requiredBinding "content.context_query" plan.contextQuery
  requiredBinding "content.context_selection" plan.contextSelection
  requiredBinding "content.context_snapshot" plan.contextSnapshot
  requiredBinding "content.task_graph" plan.taskGraph
  budgetContract "content.budget" plan.budget
  sortedTexts "content.required_gate_ids" 1 4 isGateId " must contain sorted unique G1-G4 IDs."
    plan.requiredGateIds
  sortedCodes "content.observation_slots" 0 256 plan.observationSlots
  require (plan.intent.artifactType = "development-intent")
    "Plan intent binding must reference Development Intent."
  planProfileContract plan
  require (plan.sensitivity ≠ .secretOrProhibited)
    "Secret-or-prohibited native content cannot be embedded in an Integrated Plan."

/-! ## Parts of a state -/

def workflowTaskContract (field : String) (item : WorkflowTaskProjection) :
    Except String Unit := do
  taskIdText (field ++ ".task_id") item.taskId
  integerValue (field ++ ".attempt") 0 1024 item.attempt
  integerValue (field ++ ".fence") 0 maxCount item.fence
  sortedCodes (field ++ ".blocker_codes") 0 256 item.blockerCodes

def workflowTasksContract (field : String) (tasks : List WorkflowTaskProjection) :
    Except String Unit := do
  arrayValue field maxTasks tasks
  forEachIndexed field workflowTaskContract tasks
  require ((tasks.map (·.taskId)).Pairwise (· ≤ ·)) (field ++ " must use Task ID order.")
  require ((tasks.map (·.taskId)).Nodup) (field ++ " contains duplicate Task IDs.")

def gateContract (field : String) (gate : GateObservation) : Except String Unit := do
  gateIdText (field ++ ".gate_id") gate.gateId
  sortedNativeIds (field ++ ".evidence_ids") gate.evidenceIds
  sortedCodes (field ++ ".blocker_codes") 0 256 gate.blockerCodes
  require (gate.status = .pass → gate.evidenceIds ≠ [] ∧ gate.blockerCodes = [])
    "Passing Gate requires exact evidence and no blocker."
  require (gate.status ≠ .pass → gate.blockerCodes ≠ [])
    "Non-passing Gate requires a blocker code."

def gatesContract (field : String) (gates : List GateObservation) : Except String Unit := do
  arrayValue field 4 gates
  forEachIndexed field gateContract gates
  require ((gates.map (·.gateId)).Pairwise (· ≤ ·)) (field ++ " must use Gate ID order.")
  require ((gates.map (·.gateId)).Nodup) (field ++ " contains duplicate Gates.")

/-- The place of a blocker in the deterministic order. -/
def blockerKey (item : WorkflowBlocker) : String ×ₗ List String := toLex (item.code, item.references)

def blockersContract (field : String) (blockers : List WorkflowBlocker) :
    Except String Unit := do
  arrayValue field maxBlockers blockers
  forEachIndexed field (fun field item => do
    codeText (field ++ ".code") item.code
    sortedStableIds (field ++ ".references") item.references) blockers
  require ((blockers.Pairwise fun a b => blockerKey a ≤ blockerKey b) ∧ blockers.Nodup)
    (field ++ " must be unique and deterministically ordered.")

/-- The contract of the text of a measurement; a number needs none. -/
def measuredValueContract (field : String) : MeasuredValue → Except String Unit
  | .number _ => .ok ()
  | .text value => pathFreeText field 128 value

def measurementContract (field : String) (item : WorkflowMeasurement) : Except String Unit := do
  forEach (measuredValueContract (field ++ ".value")) item.value.toList
  forEach (codeText (field ++ ".unit")) item.unit.toList
  require (item.status = .notAvailable → item.value = none ∧ item.unit = none)
    "Unavailable measurement cannot claim a value or unit."
  require (item.status = .observed → item.value ≠ none)
    "Observed measurement requires an exact value."
  sortedStableIds (field ++ ".source_ids") item.sourceIds

/-- The measurements of each group, in their canonical order. -/
def workflowMeasurementGroups : List (String × List String) :=
  [("requirements", ["required_requirement_count", "covered_requirement_count",
      "uncovered_requirement_ids", "scope_addition_count", "blocking_diagnostic_count"]),
    ("context", ["required_reference_count", "selected_required_reference_count",
      "stale_required_count", "provenance_missing_count", "sensitivity_violation_count",
      "selected_context_bytes", "context_budget_bytes", "unresolved_contradiction_count"]),
    ("scheduling", ["task_count", "completed_task_count", "blocked_task_count",
      "retry_used_count", "duplicate_rejection_count", "late_result_rejection_count",
      "deadlock_count"]),
    ("solver", ["solver_task_count", "status_counts", "verified_result_count",
      "adoptable_result_count", "solver_calls_used", "solver_steps_used"]),
    ("evidence", ["claim_count", "verified_claim_count", "unverified_claim_count",
      "known_problem_count", "missing_evidence_count"]),
    ("handoff", ["handoff_created_count", "handoff_resume_failure_count",
      "incomplete_item_count", "open_decision_count", "known_problem_count"]),
    ("recovery", ["resume_attempt_count", "successful_resume_count", "recovery_attempt_count",
      "successful_recovery_count", "ambiguous_effect_count"]),
    ("approval", ["required_approval_count", "consumed_approval_count",
      "refused_approval_count", "expired_approval_count", "pending_approval_count",
      "approval_revalidation_failure_count"]),
    ("available_cost", ["status", "currency", "budget_microunits", "used_microunits",
      "remaining_microunits"])]

def workflowMeasurementNames : List String :=
  workflowMeasurementGroups.flatMap fun group => group.2.map fun name => group.1 ++ "." ++ name

def measurementsContract (field : String) (items : List WorkflowMeasurement) :
    Except String Unit := do
  arrayValue field 512 items
  forEachIndexed field measurementContract items
  require (items.map (·.name) = workflowMeasurementNames)
    (field ++ " must contain the exact 52 measurements in canonical group order.")

/-- The contract of a Workflow State. -/
def workflowStateContract (state : WorkflowState) : Except String Unit := do
  forEach (nativeId "content.handoff_id") state.handoffId.toList
  forEach (codeText "content.handoff_status") state.handoffStatus.toList
  require (state.handoffId = none ↔ state.handoffStatus = none)
    "Workflow State handoff identity and status must be paired."
  workflowId "content.plan_id" .integratedPlan state.planId
  candidateIdentity "content.candidate" state.candidate
  nativeId "content.scheduler_graph_id" state.schedulerGraphId
  nativeId "content.scheduler_state_id" state.schedulerStateId
  integerValue "content.scheduler_event_sequence" 0 maxCount state.schedulerEventSequence
  sha256Text "content.scheduler_event_head_sha256" state.schedulerEventHeadSha256
  workflowTasksContract "content.tasks" state.tasks
  sortedNativeIds "content.solver_verification_ids" state.solverVerificationIds
  sortedNativeIds "content.evidence_ids" state.evidenceIds
  sortedNativeIds "content.review_ids" state.reviewIds
  sortedNativeIds "content.approval_ids" state.approvalIds
  gatesContract "content.gates" state.gates
  blockersContract "content.blockers" state.blockers
  sortedCodes "content.ambiguities" 0 256 state.ambiguities
  measurementsContract "content.measurements" state.measurements
  requiredBindings "content.observation_artifacts" state.observationArtifacts
  orderedRequiredBindings "content.event_chain" 1 state.eventChain
  requiredBinding "content.latest_event" state.latestEvent
  integerValue "content.transition_count" 1 maxCount state.transitionCount
  require (state.latestEvent.artifactType = "workflow-event")
    "Workflow State latest_event has the wrong type."
  workflowId "content.latest_event.artifact_id" .workflowEvent state.latestEvent.artifactId
  require (state.eventChain.length = state.transitionCount ∧
      state.eventChain.getLast? = some state.latestEvent ∧
      ∀ item ∈ state.eventChain, item.artifactType = "workflow-event")
    "Workflow State Event chain is incomplete or inconsistent."

end Sdaqf
