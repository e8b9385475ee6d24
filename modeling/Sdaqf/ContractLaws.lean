import Sdaqf.AcceptedTexts
import Sdaqf.Sorting

/-!
# What the workflow contracts accept

The contracts of bindings, tasks, gates, blockers and measurements as conditions on the value, and
what the contract of a plan promises of the parts that a state is derived from.
-/

namespace Sdaqf

open Guard

variable {field : String} {u : Unit}

/-! ## Bindings -/

/-- A reference that is accepted in every field. -/
def LawfulReference (reference : ArtifactReference) : Prop :=
  ∀ field, referenceContract field reference = .ok ()

theorem referenceContract_eq_ok {reference : ArtifactReference} :
    referenceContract field reference = .ok u ↔ LawfulReference reference := by
  constructor
  · intro h field'
    simpa only [referenceContract, safeRelativePath, stringValue, sha256Text_eq_ok, bind_eq_ok,
      exists_unit, require_eq_ok] using h
  · exact fun h => h field

/-- What the contract of a required binding asks. -/
structure LawfulBinding (item : NativeArtifactBinding) : Prop where
  artifactType : AcceptedText 64 isNativeType item.artifactType
  artifactId : IsNative item.artifactId
  reference : LawfulReference item.reference
  required : item.required = true

@[simp] theorem requiredBinding_eq_ok {item : NativeArtifactBinding} :
    requiredBinding field item = .ok u ↔ LawfulBinding item := by
  simp only [requiredBinding, bindingContract, bind_eq_ok, exists_unit, require_eq_ok,
    patternText_eq_ok, stableId_eq_ok, referenceContract_eq_ok]
  constructor
  · rintro ⟨⟨h₁, h₂, h₃⟩, h₄⟩
    exact ⟨h₁, h₂, h₃, h₄⟩
  · intro h
    exact ⟨⟨h.1, h.2, h.3⟩, h.4⟩

@[simp] theorem bindingItems_eq_ok {minimum : Nat} {items : List NativeArtifactBinding} :
    bindingItems field minimum items = .ok u ↔ items.length ≤ maxReferences ∧
      minimum ≤ items.length ∧ ∀ item ∈ items, LawfulBinding item := by
  simp only [bindingItems, bind_eq_ok, exists_unit, require_eq_ok, arrayValue_eq_ok,
    forEachIndexed_eq_ok (p := LawfulBinding) fun _ _ => requiredBinding_eq_ok]

@[simp] theorem requiredBindings_eq_ok {items : List NativeArtifactBinding} :
    requiredBindings field items = .ok u ↔ items.length ≤ maxReferences ∧
      (∀ item ∈ items, LawfulBinding item) ∧ (items.map (·.artifactId)).Pairwise (· < ·) := by
  simp only [requiredBindings, bind_eq_ok, exists_unit, require_eq_ok, bindingItems_eq_ok,
    pairwise_lt_iff]
  constructor
  · rintro ⟨⟨hmaximum, -, hitems⟩, hsorted, hnodup⟩
    exact ⟨hmaximum, hitems, hnodup, hsorted⟩
  · rintro ⟨hmaximum, hitems, hnodup, hsorted⟩
    exact ⟨⟨hmaximum, Nat.zero_le _, hitems⟩, hsorted, hnodup⟩

@[simp] theorem orderedRequiredBindings_eq_ok {minimum : Nat}
    {items : List NativeArtifactBinding} :
    orderedRequiredBindings field minimum items = .ok u ↔ items.length ≤ maxReferences ∧
      minimum ≤ items.length ∧ (∀ item ∈ items, LawfulBinding item) ∧
      (items.map (·.artifactId)).Nodup := by
  simp only [orderedRequiredBindings, bind_eq_ok, exists_unit, require_eq_ok, bindingItems_eq_ok,
    and_assoc]

/-! ## Plans -/

/-- A path that is accepted in every field. -/
def LawfulPath (path : String) : Prop := ∀ field, safeRelativePath field path = .ok ()

theorem safeRelativePath_iff {path : String} :
    safeRelativePath field path = .ok u ↔ LawfulPath path := by
  constructor
  · intro h other
    simpa only [safeRelativePath_eq_ok, stringValue, bind_eq_ok, exists_unit, require_eq_ok] using h
  · exact fun h => h field

/-- Sorted repository paths that stay apart when case is forgotten. -/
structure LawfulPaths (items : List String) : Prop where
  bounded : items.length ≤ maxReferences
  paths : ∀ item ∈ items, LawfulPath item
  sorted : items.Pairwise (· < ·)
  apart : (items.map foldedPath).Nodup

theorem sortedPaths_iff {items : List String} :
    sortedPaths field items = .ok u ↔ LawfulPaths items := by
  have hpaths : forEachIndexed field safeRelativePath items = .ok () ↔
      ∀ item ∈ items, LawfulPath item :=
    @forEachIndexed_eq_ok _ _ _ safeRelativePath LawfulPath (fun _ _ => safeRelativePath_iff) _
  simp only [sortedPaths, bind_eq_ok, exists_unit, require_eq_ok, arrayValue_eq_ok, hpaths]
  constructor
  · rintro ⟨h₁, h₂, h₃, h₄⟩
    exact ⟨h₁, h₂, h₃, h₄⟩
  · intro h
    exact ⟨h.1, h.2, h.3, h.4⟩

/-- What the contract of a task of a plan asks. -/
structure LawfulPlanTask (item : IntegratedPlanTask) : Prop where
  taskKind : AcceptedText 32 isCode item.taskKind
  taskId : AcceptedText 68 isTaskId item.taskId
  phase : item.phase ≤ 64
  topologicalRank : item.topologicalRank ≤ maxTasks
  wave : item.wave ≤ maxTasks
  dependencies : LawfulTexts 0 maxTasks isTaskId item.dependencies
  roleId : isCode item.roleId = true
  contextSnapshotId : IsNative item.contextSnapshotId
  requirementIds : LawfulTexts 0 maxReferences isRequirementId item.requirementIds
  acceptanceIds : LawfulTexts 0 maxReferences isRequirementId item.acceptanceIds
  contextNodeIds : LawfulTexts 0 maxReferences isNativeId item.contextNodeIds
  solverRequestIds : LawfulTexts 0 maxReferences isNativeId item.solverRequestIds
  approvalStops : LawfulTexts 0 2 isCode item.approvalStops
  evidencePredicates : LawfulTexts 0 256 isCode item.evidencePredicates
  terminalPredicates : LawfulTexts 1 256 isCode item.terminalPredicates

theorem planTaskContract_eq_ok {item : IntegratedPlanTask} :
    planTaskContract field item = .ok u ↔ LawfulPlanTask item := by
  simp only [planTaskContract, bind_eq_ok, exists_unit, patternText_eq_ok, taskIdText,
    integerValue_eq_ok, sortedTaskIds, codeText_eq_ok, nativeId_eq_ok, sortedPatternIds,
    sortedNativeIds, sortedCodes, sortedTexts_iff]
  constructor
  · rintro ⟨h₁, h₂, h₃, h₄, h₅, h₆, h₇, h₈, h₉, h₁₀, h₁₁, h₁₂, h₁₃, h₁₄, h₁₅⟩
    exact ⟨h₁, h₂, by omega, by omega, by omega, h₆, h₇, h₈, h₉, h₁₀, h₁₁, h₁₂, h₁₃, h₁₄, h₁₅⟩
  · intro h
    have hphase := h.phase
    have hrank := h.topologicalRank
    have hwave := h.wave
    exact ⟨h.1, h.2, by omega, by omega, by omega, h.6, h.7, h.8, h.9, h.10, h.11, h.12, h.13,
      h.14, h.15⟩

/-- What the contract of the tasks of a plan asks. -/
structure LawfulPlanTasks (tasks : List IntegratedPlanTask) : Prop where
  bounded : tasks.length ≤ maxTasks
  items : ∀ task ∈ tasks, LawfulPlanTask task
  sorted : tasks.Pairwise fun a b => planTaskKey a ≤ planTaskKey b
  distinct : (tasks.map (·.taskId)).Nodup
  known : ∀ task ∈ tasks, ∀ dependency ∈ task.dependencies, dependency ∈ tasks.map (·.taskId)

theorem planTasksContract_eq_ok {tasks : List IntegratedPlanTask} :
    planTasksContract field tasks = .ok u ↔ LawfulPlanTasks tasks := by
  simp only [planTasksContract, bind_eq_ok, exists_unit, require_eq_ok, arrayValue_eq_ok,
    forEachIndexed_eq_ok (p := LawfulPlanTask) fun _ _ => planTaskContract_eq_ok]
  constructor
  · rintro ⟨h₁, h₂, h₃, h₄, h₅⟩
    exact ⟨h₁, h₂, h₃, h₄, h₅⟩
  · intro h
    exact ⟨h.1, h.2, h.3, h.4, h.5⟩

/-- Unique texts, each of a bounded length. -/
def LawfulTuple (minimum maximum : Nat) (items : List String) : Prop :=
  ∀ field, stringTuple field minimum maximum items = .ok ()

theorem stringTuple_iff {minimum maximum : Nat} {items : List String} :
    stringTuple field minimum maximum items = .ok u ↔ LawfulTuple minimum maximum items := by
  have hvalues : ∀ field, forEachIndexed field (fun field item => stringValue field 500 item)
      items = .ok () ↔ ∀ item ∈ items, stringValue "" 500 item = .ok () := fun field =>
    forEachIndexed_eq_ok fun _ _ => by simp only [stringValue, bind_eq_ok, exists_unit, require_eq_ok]
  simp only [LawfulTuple, stringTuple, bind_eq_ok, exists_unit, require_eq_ok, arrayValue_eq_ok,
    hvalues, forall_const]

/-- What the contract of a protected effect asks. -/
structure LawfulEffect (item : ProtectedEffect) : Prop where
  effectId : IsNative item.effectId
  effectDigest : isDigest item.effectDigest.toList = true
  bound : item.effectId = "M8-EFFECT-" ++ item.effectDigest
  destinations : LawfulTuple 0 64 item.networkDestinations
  destinationsSorted : item.networkDestinations.Pairwise (· < ·)
  destinationsBounded : ∀ destination ∈ item.networkDestinations, destination.toList.length ≤ 256
  taskId : AcceptedText 68 isTaskId item.taskId
  targetPaths : LawfulPaths item.targetPaths
  approvalTypes : LawfulTexts 0 2 isCode item.approvalTypes
  idempotencyScope : isCode item.idempotencyScope = true

theorem protectedEffectContract_eq_ok {item : ProtectedEffect} :
    protectedEffectContract field item = .ok u ↔ LawfulEffect item := by
  simp only [protectedEffectContract, bind_eq_ok, exists_unit, require_eq_ok, nativeId_eq_ok,
    sha256Text_eq_ok, stringTuple_iff, taskIdText, patternText_eq_ok, sortedPaths_iff, sortedCodes,
    sortedTexts_iff, codeText_eq_ok]
  constructor
  · rintro ⟨h₁, h₂, h₃, h₄, ⟨h₅, h₆⟩, h₇, h₈, h₉, h₁₀⟩
    exact ⟨h₁, h₂, h₃, h₄, h₅, h₆, h₇, h₈, h₉, h₁₀⟩
  · intro h
    exact ⟨h.1, h.2, h.3, h.4, ⟨h.5, h.6⟩, h.7, h.8, h.9, h.10⟩

/-- What the contract of the protected effects of a plan asks. -/
structure LawfulEffects (effects : List ProtectedEffect) : Prop where
  bounded : effects.length ≤ maxEffects
  items : ∀ effect ∈ effects, LawfulEffect effect
  sorted : (effects.map (·.effectId)).Pairwise (· < ·)

theorem protectedEffectsContract_eq_ok {effects : List ProtectedEffect} :
    protectedEffectsContract field effects = .ok u ↔ LawfulEffects effects := by
  simp only [protectedEffectsContract, bind_eq_ok, exists_unit, require_eq_ok, arrayValue_eq_ok,
    forEachIndexed_eq_ok (p := LawfulEffect) fun _ _ => protectedEffectContract_eq_ok]
  constructor
  · rintro ⟨h₁, h₂, h₃, h₄⟩
    exact ⟨h₁, h₂, pairwise_lt_iff.mpr ⟨h₄, h₃⟩⟩
  · intro h
    exact ⟨h.1, h.2, (pairwise_lt_iff.mp h.3).2, (pairwise_lt_iff.mp h.3).1⟩

/-- What the contract of a decision asks. -/
structure LawfulDecision (item : WorkflowDecision) : Prop where
  reasonCode : isCode item.reasonCode = true
  reasonOfKind : item.reasonCode ∈ item.kind.reasonCodes
  blockingKind : item.blocking = true → item.kind = .uncertainty
  subjectKind : isCode item.subjectKind = true
  subjectId : IsNative item.subjectId
  references : LawfulTexts 0 maxReferences isStableId item.references

theorem decisionContract_eq_ok {item : WorkflowDecision} :
    decisionContract field item = .ok u ↔ LawfulDecision item := by
  simp only [decisionContract, bind_eq_ok, exists_unit, require_eq_ok, codeText_eq_ok,
    stableId_eq_ok, sortedStableIds, sortedTexts_iff]
  constructor
  · rintro ⟨h₁, h₂, h₃, h₄, h₅, h₆⟩
    exact ⟨h₁, h₂, h₃, h₄, h₅, h₆⟩
  · intro h
    exact ⟨h.1, h.2, h.3, h.4, h.5, h.6⟩

/-- What the contract of the decisions of a plan asks. -/
structure LawfulDecisions (decisions : List WorkflowDecision) : Prop where
  bounded : decisions.length ≤ maxDecisions
  items : ∀ decision ∈ decisions, LawfulDecision decision
  sorted : decisions.Pairwise fun a b => decisionKey a ≤ decisionKey b
  distinct : decisions.Nodup

theorem decisionsContract_eq_ok {decisions : List WorkflowDecision} :
    decisionsContract field decisions = .ok u ↔ LawfulDecisions decisions := by
  simp only [decisionsContract, bind_eq_ok, exists_unit, require_eq_ok, arrayValue_eq_ok,
    forEachIndexed_eq_ok (p := LawfulDecision) fun _ _ => decisionContract_eq_ok]
  constructor
  · rintro ⟨h₁, h₂, h₃, h₄⟩
    exact ⟨h₁, h₂, h₃, h₄⟩
  · intro h
    exact ⟨h.1, h.2, h.3, h.4⟩

/-- What the contract of the identity of a candidate asks. -/
structure LawfulCandidate (candidate : CandidateIdentity) : Prop where
  gitHead : AcceptedText 40 isCommit candidate.gitHead
  sourceSpec : isDigest candidate.sourceSpecSha256.toList = true
  repository : isDigest candidate.repositoryDigest.toList = true

theorem candidateIdentity_eq_ok {candidate : CandidateIdentity} :
    candidateIdentity field candidate = .ok u ↔ LawfulCandidate candidate := by
  simp only [candidateIdentity, bind_eq_ok, exists_unit, commitText, patternText_eq_ok,
    sha256Text_eq_ok]
  constructor
  · rintro ⟨h₁, h₂, h₃⟩
    exact ⟨h₁, h₂, h₃⟩
  · intro h
    exact ⟨h.1, h.2, h.3⟩

/-- A budget that is accepted in every field. -/
def LawfulBudget (budget : SchedulerBudget) : Prop := ∀ field, budgetContract field budget = .ok ()

theorem budgetContract_iff {budget : SchedulerBudget} :
    budgetContract field budget = .ok u ↔ LawfulBudget budget := by
  constructor
  · intro h other
    simpa only [budgetContract, bind_eq_ok, exists_unit, require_eq_ok, forEach_eq_ok,
      patternText_eq_ok, integerValue_eq_ok] using h
  · exact fun h => h field

theorem LawfulBudget.currency {budget : SchedulerBudget} (h : LawfulBudget budget)
    {cost : String × Nat} (hcost : budget.cost = some cost) : isCurrency cost.1 = true := by
  have hbudget := h ""
  simp only [budgetContract, bind_eq_ok, exists_unit, forEach_eq_ok, patternText_eq_ok] at hbudget
  exact (hbudget.2.2.2.2.1 cost (by simp [hcost])).1.matched

/-- The binding of an artifact of one type with a full identity. -/
def LawfulSuccession (artifactType : WorkflowArtifactType) (artifactId : String)
    (item : NativeArtifactBinding) : Prop :=
  (AcceptedText 160 isWorkflowId artifactId ∧ artifactType.mark.toList <+: artifactId.toList) ∧
    LawfulBinding item ∧ item.artifactType = artifactType.value ∧ item.artifactId = artifactId

theorem planPredecessorContract_eq_ok {p : PlanPredecessor} :
    planPredecessorContract p = .ok u ↔ LawfulSuccession .integratedPlan p.planId p.plan ∧
      LawfulSuccession .workflowState p.stateId p.state ∧
      LawfulSuccession .workflowOutcome p.outcomeId p.outcome := by
  simp only [planPredecessorContract, bind_eq_ok, exists_unit, require_eq_ok, workflowId_eq_ok,
    requiredBinding_eq_ok, LawfulSuccession, WorkflowArtifactType.value]
  constructor
  · rintro ⟨hplan, houtcome, hstate, hplan', hstate', houtcome', htypes⟩
    obtain ⟨hplanType, hplanId, hstateType, hstateId, houtcomeType, houtcomeId⟩ := htypes
    exact ⟨⟨hplan, hplan', hplanType, hplanId⟩, ⟨hstate, hstate', hstateType, hstateId⟩,
      ⟨houtcome, houtcome', houtcomeType, houtcomeId⟩⟩
  · rintro ⟨⟨hplan, hplan', hplanType, hplanId⟩, ⟨hstate, hstate', hstateType, hstateId⟩,
      ⟨houtcome, houtcome', houtcomeType, houtcomeId⟩⟩
    exact ⟨hplan, houtcome, hstate, hplan', hstate', houtcome', hplanType, hplanId, hstateType,
      hstateId, houtcomeType, houtcomeId⟩

/-- What the contract of a plan asks. -/
structure LawfulPlan (plan : IntegratedPlan) : Prop where
  projectId : AcceptedText 64 (fun text => isRun isLower isCodeCharacter 0 63 text.toList)
    plan.projectId
  tasks : LawfulPlanTasks plan.tasks
  effects : LawfulEffects plan.protectedEffects
  decisions : LawfulDecisions plan.decisions
  solverRegistry : ∀ item ∈ plan.solverRegistry, LawfulBinding item
  solverRequests : ∀ item ∈ plan.solverRequests, LawfulBinding item
  solverBounded : plan.solverRequests.length ≤ maxReferences
  solverSorted : (plan.solverRequests.map (·.artifactId)).Pairwise (· < ·)
  solverPaired : plan.solverRegistry = none → plan.solverRequests = []
  predecessor : ∀ p ∈ plan.predecessor, LawfulSuccession .integratedPlan p.planId p.plan ∧
    LawfulSuccession .workflowState p.stateId p.state ∧
    LawfulSuccession .workflowOutcome p.outcomeId p.outcome
  effectTasks : ∀ effect ∈ plan.protectedEffects, effect.taskId ∈ plan.tasks.map (·.taskId)
  intent : LawfulBinding plan.intent
  candidate : LawfulCandidate plan.candidate
  specification : LawfulReference plan.specification
  baselineId : AcceptedText 19 isBaselineId plan.requirementBaselineId
  baseline : LawfulReference plan.requirementBaseline
  contextGraph : LawfulBinding plan.contextGraph
  contextQuery : LawfulBinding plan.contextQuery
  contextSelection : LawfulBinding plan.contextSelection
  contextSnapshot : LawfulBinding plan.contextSnapshot
  taskGraph : LawfulBinding plan.taskGraph
  budget : LawfulBudget plan.budget
  gateIds : LawfulTexts 1 4 isGateId plan.requiredGateIds
  observationSlots : LawfulTexts 0 256 isCode plan.observationSlots
  intentType : plan.intent.artifactType = "development-intent"
  profile : plan.requiredGateIds = plan.completionProfile.requiredGates
  userInterface : plan.uiRequired = true → plan.completionProfile = .releaseCandidateReady
  sensitivity : plan.sensitivity ≠ .secretOrProhibited

instance : LegiblePattern fun text => isRun isLower isCodeCharacter 0 63 text.toList where
  legible _ h :=
    let chars := isRun_chars (fun _ => isCodeCharacter_of_isLower) (fun _ => id) h
    ⟨chars.1, fun c hc => visible_of_isCodeCharacter (chars.2.1 c hc)⟩

theorem planContract_eq_ok {plan : IntegratedPlan} :
    planContract plan = .ok u ↔ LawfulPlan plan := by
  simp only [planContract, planProfileContract, bind_eq_ok, exists_unit, require_eq_ok,
    forEach_eq_ok, Option.mem_toList, patternText_eq_ok, planTasksContract_eq_ok,
    protectedEffectsContract_eq_ok, decisionsContract_eq_ok, requiredBinding_eq_ok,
    requiredBindings_eq_ok, planPredecessorContract_eq_ok, candidateIdentity_eq_ok,
    referenceContract_eq_ok, baselineIdText, budgetContract_iff, sortedTexts_iff, sortedCodes]
  constructor
  · rintro ⟨h₁, h₂, h₃, h₄, h₅, ⟨h₆, h₇, h₈⟩, h₉, h₁₀, h₁₁, h₁₂, h₁₃, h₁₄, h₁₅, h₁₆, h₁₇, h₁₈,
      h₁₉, h₂₀, h₂₁, h₂₂, h₂₃, h₂₄, h₂₅, ⟨h₂₆, h₂₇⟩, h₂₈⟩
    exact ⟨h₁, h₂, h₃, h₄, h₅, h₇, h₆, h₈, h₉, h₁₀, h₁₁, h₁₂, h₁₃, h₁₄, h₁₅, h₁₆, h₁₇, h₁₈, h₁₉,
      h₂₀, h₂₁, h₂₂, h₂₃, h₂₄, h₂₅, h₂₆, h₂₇, h₂₈⟩
  · intro h
    exact ⟨h.1, h.2, h.3, h.4, h.5, ⟨h.7, h.6, h.8⟩, h.9, h.10, h.11, h.12, h.13, h.14, h.15, h.16,
      h.17, h.18, h.19, h.20, h.21, h.22, h.23, h.24, h.25, ⟨h.26, h.27⟩, h.28⟩

/-! ## Tasks -/

/-- What the contract of the projection of a task asks. -/
structure LawfulTask (item : WorkflowTaskProjection) : Prop where
  taskId : AcceptedText 68 isTaskId item.taskId
  attempt : item.attempt ≤ 1024
  fence : item.fence ≤ maxCount
  bounded : item.blockerCodes.length ≤ 256
  sorted : item.blockerCodes.Pairwise (· < ·)
  codes : ∀ code ∈ item.blockerCodes, isCode code = true

theorem workflowTaskContract_eq_ok {item : WorkflowTaskProjection} :
    workflowTaskContract field item = .ok u ↔ LawfulTask item := by
  have hattempt : integerValue (field ++ ".attempt") 0 1024 item.attempt = .ok () ↔
      item.attempt ≤ 1024 := by
    rw [integerValue_eq_ok]
    omega
  have hfence : integerValue (field ++ ".fence") 0 maxCount item.fence = .ok () ↔
      item.fence ≤ maxCount := by
    rw [integerValue_eq_ok]
    omega
  simp only [workflowTaskContract, bind_eq_ok, exists_unit, taskIdText, patternText_eq_ok, hattempt,
    hfence, sortedCodes_eq_ok]
  constructor
  · rintro ⟨htaskId, hattempt, hfence, hbounded, -, hsorted, hcodes⟩
    exact ⟨htaskId, hattempt, hfence, hbounded, hsorted, hcodes⟩
  · intro h
    exact ⟨h.taskId, h.attempt, h.fence, h.bounded, Nat.zero_le _, h.sorted, h.codes⟩

@[simp] theorem workflowTasksContract_eq_ok {tasks : List WorkflowTaskProjection} :
    workflowTasksContract field tasks = .ok u ↔ tasks.length ≤ maxTasks ∧
      (∀ task ∈ tasks, LawfulTask task) ∧ (tasks.map (·.taskId)).Pairwise (· < ·) := by
  simp only [workflowTasksContract, bind_eq_ok, exists_unit, require_eq_ok, arrayValue_eq_ok,
    forEachIndexed_eq_ok (p := LawfulTask) fun _ _ => workflowTaskContract_eq_ok, pairwise_lt_iff]
  constructor
  · rintro ⟨h₁, h₂, h₃, h₄⟩
    exact ⟨h₁, h₂, h₄, h₃⟩
  · rintro ⟨h₁, h₂, h₃, h₄⟩
    exact ⟨h₁, h₂, h₄, h₃⟩

/-! ## Gates -/

/-- What the contract of the observation of a gate asks. -/
structure LawfulGate (gate : GateObservation) : Prop where
  gateId : isGateId gate.gateId = true
  evidenceBounded : gate.evidenceIds.length ≤ maxReferences
  evidenceSorted : gate.evidenceIds.Pairwise (· < ·)
  evidence : ∀ id ∈ gate.evidenceIds, IsNative id
  codesBounded : gate.blockerCodes.length ≤ 256
  codesSorted : gate.blockerCodes.Pairwise (· < ·)
  codes : ∀ code ∈ gate.blockerCodes, isCode code = true
  passing : gate.status = .pass → gate.evidenceIds ≠ [] ∧ gate.blockerCodes = []
  failing : gate.status ≠ .pass → gate.blockerCodes ≠ []

theorem gateContract_eq_ok {gate : GateObservation} :
    gateContract field gate = .ok u ↔ LawfulGate gate := by
  simp only [gateContract, bind_eq_ok, exists_unit, require_eq_ok, gateIdText_eq_ok,
    sortedNativeIds_eq_ok, sortedCodes_eq_ok]
  constructor
  · rintro ⟨hid, ⟨hbounded, hsorted, hevidence⟩, ⟨hcount, -, hordered, hcodes⟩, hpass, hfail⟩
    exact ⟨hid, hbounded, hsorted, hevidence, hcount, hordered, hcodes, hpass, hfail⟩
  · intro h
    exact ⟨h.gateId, ⟨h.evidenceBounded, h.evidenceSorted, h.evidence⟩,
      ⟨h.codesBounded, Nat.zero_le _, h.codesSorted, h.codes⟩, h.passing, h.failing⟩

@[simp] theorem gatesContract_eq_ok {gates : List GateObservation} :
    gatesContract field gates = .ok u ↔ gates.length ≤ 4 ∧ (∀ gate ∈ gates, LawfulGate gate) ∧
      (gates.map (·.gateId)).Pairwise (· < ·) := by
  simp only [gatesContract, bind_eq_ok, exists_unit, require_eq_ok, arrayValue_eq_ok,
    forEachIndexed_eq_ok (p := LawfulGate) fun _ _ => gateContract_eq_ok, pairwise_lt_iff]
  constructor
  · rintro ⟨h₁, h₂, h₃, h₄⟩
    exact ⟨h₁, h₂, h₄, h₃⟩
  · rintro ⟨h₁, h₂, h₃, h₄⟩
    exact ⟨h₁, h₂, h₄, h₃⟩

/-! ## Blockers -/

/-- Blockers that each refer to one native identity, as every derivation makes them. -/
theorem blockersContract_eq_ok {blockers : List WorkflowBlocker}
    (h : ∀ item ∈ blockers, ∃ reference, item.references = [reference] ∧ IsNative reference) :
    blockersContract field blockers = .ok u ↔ blockers.length ≤ maxBlockers ∧
      (∀ item ∈ blockers, isCode item.code = true) ∧
      (blockers.Pairwise fun a b => blockerKey a ≤ blockerKey b) ∧ blockers.Nodup := by
  have hitems : forEachIndexed field (fun field (item : WorkflowBlocker) => do
      codeText (field ++ ".code") item.code
      sortedStableIds (field ++ ".references") item.references) blockers = .ok () ↔
      ∀ item ∈ blockers, isCode item.code = true := by
    rw [forEachIndexed_eq_ok (p := fun item => isCode item.code = true ∧
      sortedStableIds "" item.references = .ok ())]
    · refine forall₂_congr fun item hitem => and_iff_left ?_
      obtain ⟨reference, hreferences, hnative⟩ := h item hitem
      rw [hreferences, sortedStableIds_eq_ok (by simpa using hnative)]
      simp [maxReferences]
    · intro field item
      simp only [bind_eq_ok, exists_unit, codeText_eq_ok, sortedStableIds, sortedTexts_eq_ok]
  simp only [blockersContract, bind_eq_ok, exists_unit, require_eq_ok, arrayValue_eq_ok, hitems]

/-! ## Measurements -/

/-- What the contract of an observed text asks. -/
def LawfulValue (value : MeasuredValue) : Prop :=
  ∀ field, measuredValueContract field value = .ok ()

theorem measuredValueContract_eq_ok {value : MeasuredValue} :
    measuredValueContract field value = .ok u ↔ LawfulValue value := by
  constructor
  · intro h field'
    cases value with
    | number _ => rfl
    | text value =>
      simpa only [measuredValueContract, pathFreeText, stringValue, bind_eq_ok, exists_unit,
        require_eq_ok] using h
  · exact fun h => h field

theorem lawfulValue_number {n : Nat} : LawfulValue (.number n) := fun _ => rfl

/-- What the contract of a measurement with native sources asks. -/
structure LawfulMeasurement (item : WorkflowMeasurement) : Prop where
  value : ∀ value ∈ item.value, LawfulValue value
  unit : ∀ unit ∈ item.unit, isCode unit = true
  unavailable : item.status = .notAvailable → item.value = none ∧ item.unit = none
  observed : item.status = .observed → item.value ≠ none
  sourcesBounded : item.sourceIds.length ≤ maxReferences
  sourcesSorted : item.sourceIds.Pairwise (· < ·)

theorem measurementsContract_eq_ok {items : List WorkflowMeasurement}
    (h : ∀ item ∈ items, ∀ id ∈ item.sourceIds, IsNative id) :
    measurementsContract field items = .ok u ↔ items.length ≤ 512 ∧
      (∀ item ∈ items, LawfulMeasurement item) ∧
      items.map (·.name) = workflowMeasurementNames := by
  have hitems : forEachIndexed field measurementContract items = .ok () ↔
      ∀ item ∈ items, LawfulMeasurement item := by
    rw [forEachIndexed_eq_ok (p := fun item => measurementContract "" item = .ok ())]
    · refine forall₂_congr fun item hitem => ?_
      simp only [measurementContract, bind_eq_ok, exists_unit, require_eq_ok, forEach_eq_ok,
        Option.mem_toList, measuredValueContract_eq_ok, codeText_eq_ok,
        sortedStableIds_eq_ok (h item hitem)]
      constructor
      · rintro ⟨h₁, h₂, h₃, h₄, h₅, h₆⟩
        exact ⟨h₁, h₂, h₃, h₄, h₅, h₆⟩
      · intro h
        exact ⟨h.1, h.2, h.3, h.4, h.5, h.6⟩
    · intro field item
      simp only [measurementContract, bind_eq_ok, exists_unit, require_eq_ok, forEach_eq_ok,
        measuredValueContract_eq_ok, codeText_eq_ok, sortedStableIds, sortedTexts_eq_ok]
  simp only [measurementsContract, bind_eq_ok, exists_unit, require_eq_ok, arrayValue_eq_ok, hitems]

end Sdaqf
