import Sdaqf.Completion
import Sdaqf.ObservationLaws

/-!
# Soundness of completion

The adopted verifications are counted, and not matched with the solver requests of the plan. So a
completed Outcome is sound about the tasks, the gates, the decisions, the blockers and the handoff,
and about the solver requests exactly when the count cannot be reached by verifications that repeat
a request or belong to none of the plan.
-/

namespace Sdaqf

open Guard

/-- What a completed disposition promises of a plan and its State. -/
structure SoundCompletion (plan : IntegratedPlan) (state : WorkflowState)
    (o : NativeWorkflowObservations) : Prop where
  tasks : ∀ task ∈ plan.tasks, ∃ projected ∈ state.tasks, projected.taskId = task.taskId ∧
    projected.state = .completed ∧ projected.outcome = .succeeded
  gates : ∀ gateId ∈ plan.completionProfile.requiredGates,
    ∃ gate ∈ state.gates, gate.gateId = gateId ∧ gate.status = .pass
  decisions : ∀ decision ∈ plan.decisions, decision.blocking = false
  blockers : state.blockers = []
  ambiguities : state.ambiguities = []
  handoff : state.handoffId ≠ none ∧ state.handoffStatus = some "completed"
  solver : ∀ request ∈ plan.solverRequests, ∃ verificationId ∈ state.solverVerificationIds,
    ∃ value, o.solverVerifications[verificationId]? = some value ∧
      value.adoptionAllowed = true ∧ value.requestId = request.artifactId

section Derived

variable {plan : IntegratedPlan} {evidence : NativeEvidence} {o : NativeWorkflowObservations}
  {planId : String} {priorEvents : List NativeArtifactBinding} {latestEvent : NativeArtifactBinding}
  {recordedAt : Timestamp}

/-! ## Solver evidence -/

/-- The solver requests of a plan. -/
def IntegratedPlan.requestIds (plan : IntegratedPlan) : List String :=
  plan.solverRequests.map (·.artifactId)

/-- The adopted verifications that are spent on a request of the plan as the first ones. -/
def firstVerifications (plan : IntegratedPlan) (o : NativeWorkflowObservations) :
    List (String × SolverVerification) :=
  let planned := o.solverVerifications.toList.filter fun item =>
    decide (item.2.requestId ∈ plan.requestIds)
  planned.filter fun item =>
    decide (∀ other ∈ planned, other.1 < item.1 → other.2.requestId ≠ item.2.requestId)

/-- How many adopted verifications repeat a request or verify a request that the plan does not
bind. -/
def redundantVerifications (plan : IntegratedPlan) (o : NativeWorkflowObservations) : Nat :=
  o.solverVerifications.size - (firstVerifications plan o).length

theorem redundantVerifications_add :
    redundantVerifications plan o + (firstVerifications plan o).length =
      o.solverVerifications.size := by
  have hle : (firstVerifications plan o).length ≤ o.solverVerifications.size := by
    rw [← Std.ExtTreeMap.length_toList]
    exact (List.length_filter_le _ _).trans (List.length_filter_le _ _)
  rw [redundantVerifications]
  omega

/-- The requests of the plan that some adopted verification names. -/
theorem length_firstVerifications :
    (firstVerifications plan o).length = (plan.requestIds.toFinset.filter fun requestId =>
      ∃ item ∈ o.solverVerifications.toList, item.2.requestId = requestId).card := by
  have hkeys : (o.solverVerifications.toList.filter fun item =>
      decide (item.2.requestId ∈ plan.requestIds)).Pairwise fun a b => a.1 < b.1 := by
    refine List.Pairwise.filter _ ?_
    exact (Std.ExtTreeMap.ordered_keys_toList (t := o.solverVerifications)).imp
      compare_lt_iff_lt.mp
  rw [firstVerifications, Sorting.length_filter_first hkeys fun item => item.2.requestId]
  congr 1
  ext requestId
  simp only [List.mem_toFinset, List.mem_map, List.mem_filter, decide_eq_true_eq,
    Finset.mem_filter]
  constructor
  · rintro ⟨item, ⟨hitem, hplanned⟩, rfl⟩
    exact ⟨hplanned, item, hitem, rfl⟩
  · rintro ⟨hplanned, item, hitem, rfl⟩
    exact ⟨item, ⟨hitem, hplanned⟩, rfl⟩

/-- Every request has its own verification exactly when the first verifications are as many as the
requests. -/
theorem covered_iff (hids : plan.requestIds.Nodup) :
    (∀ request ∈ plan.solverRequests, ∃ item ∈ o.solverVerifications.toList,
        item.2.requestId = request.artifactId) ↔
      plan.solverRequests.length ≤ (firstVerifications plan o).length := by
  have hcard : plan.requestIds.toFinset.card = plan.solverRequests.length := by
    rw [List.toFinset_card_of_nodup hids, IntegratedPlan.requestIds, List.length_map]
  rw [length_firstVerifications, ← hcard]
  constructor
  · intro h
    refine Finset.card_le_card fun requestId hrequest => Finset.mem_filter.mpr ⟨hrequest, ?_⟩
    obtain ⟨request, hmem, rfl⟩ := List.mem_map.mp (List.mem_toFinset.mp hrequest)
    exact h request hmem
  · intro h request hrequest
    have hall := Finset.eq_of_subset_of_card_le (Finset.filter_subset _ _) h
    have hmem : request.artifactId ∈ plan.requestIds.toFinset :=
      List.mem_toFinset.mpr (List.mem_map_of_mem hrequest)
    rw [← hall] at hmem
    exact (Finset.mem_filter.mp hmem).2

/-! ## Soundness -/

variable {S : ObservationSurroundings} {graph : TaskGraph}
  {accepted : List (String × MailboxMessage)}

/-- Of a completed State everything is sound, except that the solver requests need not have their
own verifications. -/
theorem NativelyComplete.sound_iff (h : NativelyComplete plan evidence o)
    (hgates : planProfileContract plan = .ok ()) (hprofile : plan.completionProfile ≠ .planOnly)
    (ho : deriveNativeObservations S plan graph evidence.native accepted = .ok o)
    (htasks : ∀ task ∈ plan.tasks, ∃ item ∈ evidence.native.tasks, item.taskId = task.taskId) :
    SoundCompletion plan (deriveState planId plan evidence o priorEvents latestEvent recordedAt) o ↔
      ∀ request ∈ plan.solverRequests, ∃ item ∈ o.solverVerifications.toList,
        item.2.requestId = request.artifactId := by
  have hrequired : plan.requiredGateIds = plan.completionProfile.requiredGates := by
    simp only [planProfileContract, bind_eq_ok, exists_unit, require_eq_ok] at hgates
    exact hgates.1
  constructor
  · intro hsound request hrequest
    obtain ⟨verificationId, -, value, hvalue, -, hid⟩ := hsound.solver request hrequest
    exact ⟨(verificationId, value), Table.mem_toList.mpr hvalue, hid⟩
  · intro hcovered
    refine ⟨?_, ?_, h.decided, (h.derived hgates hprofile).1, ?_, ⟨?_, h.handedOff⟩, ?_⟩
    · intro task htask
      obtain ⟨item, hitem, hid⟩ := htasks task htask
      obtain ⟨hstate, houtcome, -⟩ := h.succeeded item hitem
      exact ⟨projectTask item, mem_taskProjections.mpr ⟨item, hitem, rfl⟩, hid, hstate, houtcome⟩
    · intro gateId hgateId
      have hmem : gateId ∈ plan.requiredGateIds := hrequired ▸ hgateId
      exact ⟨gateObservation plan _ _ gateId, List.mem_map_of_mem hmem, rfl,
        gateObservation_pass_iff.mpr (h.gateMet hmem (mem_requiredGates hgateId))⟩
    · exact (stateAmbiguities_eq_nil fun task htask => (h.succeeded task htask).2).mpr
        h.unambiguous
    · intro hnone
      have hmissing := (deriveNativeObservations_handoff ho).mp hnone
      rw [h.handedOff] at hmissing
      cases hmissing
    · intro request hrequest
      obtain ⟨⟨verificationId, value⟩, hitem, hid⟩ := hcovered request hrequest
      have hvalue := Table.mem_toList.mp hitem
      exact ⟨verificationId, Table.mem_keys.mpr (by rw [hvalue]; rfl), value, hvalue,
        (deriveNativeObservations_adoptable ho hvalue).allowed, hid⟩

end Derived

/-! ## A request without a verification -/

namespace CompletionSample

def candidate : CandidateIdentity := ⟨"snapshot", "head", "root"⟩

/-- A file whose digest is its path. -/
def file (path : String) : ArtifactReference := ⟨path, path⟩

def binding (artifactType artifactId : String) : NativeArtifactBinding :=
  ⟨artifactType, artifactId, file artifactId, true⟩

def budget : SchedulerBudget where
  maxAgents := 1
  maxConcurrency := 1
  maxReasoningEffort := "low"
  maxDispatches := 8
  maxRetries := 0
  maxWallTimeSeconds := 3600
  maxToolCalls := 0
  maxContextBytesPerDispatch := 1024
  maxContextBytesTotal := 8192
  maxSolverCalls := 2
  maxSolverSteps := 100
  cost := none

def nativeTask (taskId : String) (kind : TaskKind) : SchedulerTask where
  taskId := taskId
  kind := kind
  dependencies := []
  roleId := "worker"
  contextSnapshotId := "CTX"
  requiredTools := []
  requiredCapabilities := []
  ownedPaths := []
  worktreeAssignment := none
  effectKind := .readOnly
  approvalStops := []
  evidencePredicate := ["evidence-reference-present"]
  reviewTargets := []
  terminalPredicate := ["agent-result-valid"]
  wave := 0
  maxAttempts := 1

def graph : TaskGraph where
  candidate := candidate
  agentRegistry := file "agents"
  toolRegistry := file "tools"
  orchestrationRequest := file "request"
  worktreePlan := none
  contexts := []
  budget := budget
  tasks := [nativeTask "TSK-A" .solver, nativeTask "TSK-B" .solver,
    nativeTask "TSK-C" .implementation, nativeTask "TSK-D" .handoff]

def planTask (task : SchedulerTask) : IntegratedPlanTask where
  taskId := task.taskId
  phase := 0
  topologicalRank := 0
  wave := task.wave
  taskKind := "solver"
  dependencies := []
  roleId := task.roleId
  contextSnapshotId := task.contextSnapshotId
  requirementIds := []
  acceptanceIds := []
  contextNodeIds := []
  solverRequestIds := []
  effectKind := task.effectKind
  approvalStops := []
  evidencePredicates := task.evidencePredicate
  terminalPredicates := task.terminalPredicate

/-- An implementation plan that binds the given solver requests. -/
def plan (requests : List String) : IntegratedPlan where
  intent := binding "development-intent" "INTENT"
  projectId := "project"
  candidate := candidate
  sensitivity := .isPublic
  completionProfile := .implementationVerified
  specification := file "specification"
  requirementBaselineId := "RB"
  requirementBaseline := file "baseline"
  contextGraph := binding "context-graph" "CG"
  contextQuery := binding "context-query" "CQ"
  contextSelection := binding "context-selection" "CS"
  contextSnapshot := binding "context-snapshot" "CTX"
  taskGraph := binding "task-graph" "GRAPH"
  solverRegistry := some (binding "solver-registry" "REGISTRY")
  solverRequests := requests.map (binding "solver-request")
  tasks := graph.tasks.map planTask
  protectedEffects := []
  decisions := []
  budget := budget
  requiredGateIds := ["G1", "G2"]
  observationSlots := []
  uiRequired := false
  predecessor := none

/-- An adoptable verification of a request that belongs to a task. -/
def verification (requestId taskId : String) : SolverVerification where
  sensitivity := .isPublic
  request := file requestId
  requestId := requestId
  result := file "result"
  resultId := "RESULT"
  contractId := "CONTRACT"
  candidate := candidate
  graphId := "GRAPH"
  taskId := taskId
  contextSnapshotId := "CTX"
  lease := ⟨"GRAPH", taskId, "HST-A", 1, "LEASE", 1, "IDEM", "MESSAGE", 0, 1, 2⟩
  outcome := .verified
  adoptionAllowed := true
  checks := []
  reasons := []
  verificationSteps := 1

/-- The completed result of a task, with the evidence it references. -/
def completedResult (taskId : String) (evidence : List String) : String × MailboxMessage :=
  (taskId, {
    sender := "HST-A"
    recipient := "scheduler"
    graphId := "GRAPH"
    candidate := candidate
    sensitivity := .isPublic
    provenance := []
    causalParentMessageIds := []
    recordedAt := 0
    body := .task ⟨taskId, "CTX", 1, "LEASE", 1, "IDEM"⟩
      (.taskResult ⟨file taskId, .succeeded, .none, evidence.map file, ⟨0, 0, 0, 0⟩⟩) })

def accepted : List (String × MailboxMessage) :=
  [completedResult "TSK-A" ["ra", "va"], completedResult "TSK-B" ["rb", "vb"],
    completedResult "TSK-C" ["ledger"], completedResult "TSK-D" ["handoff"]]

/-- The files of the sample: each solver task has a result and a verification, the first one of
request `Q1` and the second one of request `Q3`. -/
def surroundings : ObservationSurroundings where
  baselineUnchanged := true
  loads _ := true
  taskAgentResult message := message.result?.map fun payload => (⟨"AGT", []⟩, payload.agentResult)
  skillCapabilities _ := some []
  solverArtifact reference :=
    if reference.path = "ra" then some (.result "RA")
    else if reference.path = "rb" then some (.result "RB")
    else if reference.path = "va" then some (.verification "VA" (verification "Q1" "TSK-A"))
    else some (.verification "VB" (verification "Q3" "TSK-B"))
  independentReview _ := none
  automatedHandoff _ := some ⟨"RB", "snapshot", "head", "root", .completed, [], [], []⟩
  integrationRecord _ := none
  evidenceLedger _ := some ⟨"RB", "snapshot", "head", "root", [], [⟨"EV-A", true, []⟩]⟩
  implementationGate _ := true
  reviewGate _ := false
  releaseGate _ _ _ _ := (false, "")

def completedTask (taskId : String) : TaskProjection :=
  ⟨taskId, .completed, .notDispatched, .succeeded, 1, 1, []⟩

def evidence : NativeEvidence where
  native :=
    { graphId := "GRAPH"
      candidate := candidate
      tasks := graph.tasks.map fun task => completedTask task.taskId
      readyOrder := []
      leaseIds := []
      messageIds := []
      budgetLedgerId := "LEDGER"
      worktreeLeaseIds := []
      eventSequence := 1
      eventHeadSha256 := "HEAD" }
  stateId := "STATE"
  approvalIds := ∅
  worktrees := []
  measured :=
    { schedulerEvents := []
      usedBudget := fun _ => 0
      requiredContext := ∅
      snapshotNodes := ∅
      contextQuality := ⟨0, 0, 0, 0, 0, 0⟩
      openDiagnosticCount := 0
      workflowCauses := [] }

/-- What the soundness of completion reads of some observations. -/
def summary (requests : List String) (o : NativeWorkflowObservations) :
    Bool × Bool × Option String × Nat × Nat :=
  (o.g2Passed, decide (o.evidenceIds ≠ []), o.handoffStatus, o.solverVerifications.size,
    (firstVerifications (plan requests) o).length)

/-- Both plans of two requests observe the same two verifications. Of the requests `Q1` and `Q3` each
has its own; of `Q1` and `Q2` only the first one has. -/
theorem summary_observed : ∀ item ∈ [(["Q1", "Q2"], 1), (["Q1", "Q3"], 2)],
    (deriveNativeObservations surroundings (plan item.1) graph evidence.native accepted).map
      (summary item.1) = .ok (true, true, some "completed", 2, item.2) := by
  decide +kernel

theorem observed (requests : List String) (first : Nat)
    (h : (requests, first) ∈ [(["Q1", "Q2"], 1), (["Q1", "Q3"], 2)]) :
    ∃ o, deriveNativeObservations surroundings (plan requests) graph evidence.native accepted =
        .ok o ∧ NativelyComplete (plan requests) evidence o ∧ o.solverVerifications.size = 2 ∧
        (firstVerifications (plan requests) o).length = first := by
  obtain ⟨o, ho, hsummary⟩ := map_eq_ok.mp (summary_observed _ h)
  simp only [summary, Prod.mk.injEq, decide_eq_true_eq] at hsummary
  obtain ⟨hpassed, hevidence, hhandoff, hsize, hfirst⟩ := hsummary
  refine ⟨o, ho, ⟨by decide, by decide, ?_, ?_, ⟨hpassed, hevidence⟩, hhandoff, ?_, ?_⟩, hsize,
    hfirst⟩
  · exact fun decision hdecision => absurd hdecision List.not_mem_nil
  · exact fun item hitem => absurd hitem List.not_mem_nil
  · exact fun hmem => absurd hmem (show "G3" ∉ ["G1", "G2"] by decide)
  · exact fun hmem => absurd hmem (show "G4" ∉ ["G1", "G2"] by decide)

/-- The State derived from the sample. -/
def state (requests : List String) (o : NativeWorkflowObservations) : WorkflowState :=
  deriveState "PLAN" (plan requests) evidence o [] (binding "workflow-event" "EVENT") 0

end CompletionSample

end Sdaqf
