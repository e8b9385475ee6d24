import Sdaqf.StateDerivation
import Sdaqf.WorkflowContracts

/-!
# Completion

An Outcome is completed when the State shows no blocker, the gates of the profile passed, every task
succeeded, the handoff is completed and at least as many solver verifications as solver requests
were adopted. For a State that was derived from the scheduler and the observations this says exactly
which native evidence was in place.
-/

namespace Sdaqf

open Guard

/-! ## The disposition -/

/-- What a State lacks for completion, in no order. -/
def missingForCompletion (plan : IntegratedPlan) (state : WorkflowState) :
    List (String × List String) :=
  let graph := [plan.taskGraph.artifactId]
  let native := [state.schedulerStateId]
  (plan.completionProfile.requiredGates.filter fun gateId =>
      gateStatus? state.gates gateId ≠ some .pass).map
    (fun gateId => (gateId.toLower ++ "-not-passed", [gateId])) ++
  (if plan.completionProfile ≠ .planOnly then
    (if state.tasks = [] ∨ ∃ task ∈ state.tasks, task.state ≠ .completed ∨
        task.outcome ≠ .succeeded then [("scheduler-not-completed", native)] else []) ++
    (if state.solverVerificationIds.length < plan.solverRequests.length then
      [("solver-evidence-unavailable", graph)] else []) ++
    (if state.handoffId = none ∨ state.handoffStatus ≠ some "completed" then
      [("handoff-not-completed", graph)] else [])
  else []) ++
  (if (plan.completionProfile = .independentReviewAccepted ∨
      plan.completionProfile = .releaseCandidateReady) ∧ state.reviewIds = [] then
    [("review-evidence-unavailable", graph)] else []) ++
  (if plan.completionProfile = .releaseCandidateReady ∧ plan.uiRequired ∧
      gateStatus? state.gates "G4" ≠ some .pass then
    [("ui-evidence-unavailable", ["G4"])] else []) ++
  (if state.ambiguities ≠ [] then [("external-effect-ambiguous", native)] else []) ++
  (if state.status ≠ .completed then [("workflow-state-not-completed", native)] else [])

/-- Apply closed completion profiles without strengthening native status. -/
def completionDisposition (plan : IntegratedPlan) (state : WorkflowState) :
    WorkflowDisposition × List (String × List String) :=
  if state.status = .rejected then (.rejected, [])
  else if state.status = .superseded then (.superseded, [])
  else if state.blockers ≠ [] then
    (.blocked, state.blockers.map fun item => (item.code, item.references))
  else
    let missing := Sorting.listed ((missingForCompletion plan state).map toLex).toFinset
    if missing = [] then (.completed, []) else (.blocked, missing.map ofLex)

/-! ## What completion takes -/

/-- Everything but the solver evidence is in place: every task succeeded, no decision blocks the
plan, no worktree is ambiguous, and each gate of the plan has the evidence it reads. -/
structure NativelyComplete (plan : IntegratedPlan) (evidence : NativeEvidence)
    (o : NativeWorkflowObservations) : Prop where
  started : evidence.native.tasks ≠ []
  succeeded : ∀ task ∈ evidence.native.tasks,
    task.state = .completed ∧ task.outcome = .succeeded ∧ task.blockers = []
  decided : ∀ decision ∈ plan.decisions, decision.blocking = false
  unambiguous : ∀ item ∈ evidence.worktrees,
    item.1 ∈ evidence.native.worktreeLeaseIds → item.2.ambiguous = false
  implemented : o.g2Passed ∧ o.evidenceIds ≠ []
  handedOff : o.handoffStatus = some "completed"
  reviewed : "G3" ∈ plan.requiredGateIds → o.g3Passed ∧ o.reviewIds ≠ []
  released : "G4" ∈ plan.requiredGateIds → o.g4Passed ∧ o.g4ResultIds ≠ []

section Derived

variable {plan : IntegratedPlan} {evidence : NativeEvidence} {o : NativeWorkflowObservations}
  {planId : String} {priorEvents : List NativeArtifactBinding} {latestEvent : NativeArtifactBinding}
  {recordedAt : Timestamp}

/-! ## Gates -/

/-- What the gate of a name needs to pass. -/
def GateMet (plan : IntegratedPlan) (tasks : List WorkflowTaskProjection) (e : GateEvidence)
    (gateId : String) : Prop :=
  (gateId = "G1" ∧ plan.blockingDecisions = []) ∨
  (gateId = "G2" ∧ allCompleted tasks ∧ e.evidenceIds ≠ [] ∧ e.handoffStatus = some "completed") ∨
  (gateId = "G3" ∧ allCompleted tasks ∧ e.reviewIds ≠ []) ∨
  (gateId = "G4" ∧ allCompleted tasks ∧ e.g4Passed = true ∧ e.g4ResultIds ≠ [])

theorem gateObservation_pass_iff {tasks : List WorkflowTaskProjection} {e : GateEvidence}
    {gateId : String} : (gateObservation plan tasks e gateId).status = .pass ↔
      GateMet plan tasks e gateId := by
  have hnames : "G2" ≠ "G1" ∧ "G3" ≠ "G1" ∧ "G4" ≠ "G1" ∧ "G3" ≠ "G2" ∧ "G4" ≠ "G2" ∧
      "G4" ≠ "G3" := by decide
  unfold gateObservation gateVerdict GateMet
  split_ifs with h1 h2 h3 h4 h5 <;> simp_all

theorem gateStatus?_deriveGates {tasks : List WorkflowTaskProjection} {e : GateEvidence}
    {gateId : String} (h : gateId ∈ plan.requiredGateIds) :
    gateStatus? (deriveGates plan tasks e) gateId =
      some (gateObservation plan tasks e gateId).status := by
  have hname : ∀ g, (gateObservation plan tasks e g).gateId = g := fun _ => rfl
  rw [gateStatus?, Option.map_eq_some_iff]
  cases hfind : (deriveGates plan tasks e).reverse.find? (·.gateId = gateId) with
  | none =>
    rw [List.find?_eq_none] at hfind
    have hmem : gateObservation plan tasks e gateId ∈ (deriveGates plan tasks e).reverse :=
      List.mem_reverse.mpr (List.mem_map_of_mem h)
    exact absurd (by simp [hname]) (hfind _ hmem)
  | some gate =>
    refine ⟨gate, rfl, ?_⟩
    have hgate : gate.gateId = gateId := by simpa using List.find?_some hfind
    obtain ⟨g, -, rfl⟩ := List.mem_map.mp (List.mem_reverse.mp (List.mem_of_find?_eq_some hfind))
    rw [hname] at hgate
    rw [hgate]

/-! ## Blockers -/

theorem deriveBlockers_eq_nil {tasks : List WorkflowTaskProjection} {gates : List GateObservation}
    {ambiguities : List String} :
    deriveBlockers plan tasks gates ambiguities = [] ↔
      rawBlockers plan tasks gates ambiguities = [] := by
  rw [deriveBlockers, List.map_eq_nil_iff, ← List.length_eq_zero_iff, Sorting.length_listed,
    Finset.card_eq_zero, List.toFinset_eq_empty_iff, List.map_eq_nil_iff]

theorem rawBlockers_eq_nil {tasks : List WorkflowTaskProjection} {gates : List GateObservation}
    {ambiguities : List String} :
    rawBlockers plan tasks gates ambiguities = [] ↔
      plan.blockingDecisions = [] ∧ (∀ task ∈ tasks, task.blockerCodes = []) ∧
        ambiguities = [] ∧ closingBlockers plan tasks gates = [] := by
  simp only [rawBlockers, List.append_eq_nil_iff, List.map_eq_nil_iff, List.flatMap_eq_nil_iff,
    and_assoc]

theorem blockingDecisions_eq_nil :
    plan.blockingDecisions = [] ↔ ∀ decision ∈ plan.decisions, decision.blocking = false := by
  simp [IntegratedPlan.blockingDecisions, List.filter_eq_nil_iff]

theorem missing_eq_nil {state : WorkflowState} :
    Sorting.listed ((missingForCompletion plan state).map toLex).toFinset = [] ↔
      missingForCompletion plan state = [] := by
  rw [← List.length_eq_zero_iff, Sorting.length_listed, Finset.card_eq_zero,
    List.toFinset_eq_empty_iff, List.map_eq_nil_iff]

theorem completed_iff_missing {state : WorkflowState} :
    (completionDisposition plan state).1 = .completed ↔
      state.status = .completed ∧ state.blockers = [] ∧ missingForCompletion plan state = [] := by
  unfold completionDisposition
  simp only [missing_eq_nil]
  by_cases hstatus : state.status = .completed
  · rw [hstatus]
    by_cases hblockers : state.blockers = []
    · by_cases hmissing : missingForCompletion plan state = [] <;> simp [hblockers, hmissing]
    · simp [hblockers]
  · have hmissing : missingForCompletion plan state ≠ [] := by
      simp [missingForCompletion, hstatus]
    simp only [hstatus, false_and, iff_false]
    split_ifs <;> simp

theorem missingForCompletion_eq_nil {state : WorkflowState}
    (hprofile : plan.completionProfile ≠ .planOnly) :
    missingForCompletion plan state = [] ↔
      (∀ gateId ∈ plan.completionProfile.requiredGates,
        gateStatus? state.gates gateId = some .pass) ∧
      (state.tasks ≠ [] ∧ ∀ task ∈ state.tasks,
        task.state = .completed ∧ task.outcome = .succeeded) ∧
      plan.solverRequests.length ≤ state.solverVerificationIds.length ∧
      (state.handoffId ≠ none ∧ state.handoffStatus = some "completed") ∧
      ((plan.completionProfile = .independentReviewAccepted ∨
        plan.completionProfile = .releaseCandidateReady) → state.reviewIds ≠ []) ∧
      (plan.completionProfile = .releaseCandidateReady ∧ plan.uiRequired = true →
        gateStatus? state.gates "G4" = some .pass) ∧
      state.ambiguities = [] ∧ state.status = .completed := by
  simp only [missingForCompletion, List.append_eq_nil_iff, List.map_eq_nil_iff,
    List.filter_eq_nil_iff, decide_eq_true_eq, ne_eq, Decidable.not_not, hprofile,
    not_false_eq_true, if_true, ite_eq_right_iff, List.cons_ne_nil, imp_false, not_or, not_exists,
    not_and, Nat.not_lt]
  grind

/-! ## Tasks and ambiguities -/

theorem mem_taskProjections {native : SchedulerState} {task : WorkflowTaskProjection} :
    task ∈ taskProjections native ↔ ∃ item ∈ native.tasks, projectTask item = task := by
  simp only [taskProjections, List.mem_map, List.mem_insertionSort]

theorem taskProjections_eq_nil {native : SchedulerState} :
    taskProjections native = [] ↔ native.tasks = [] := by
  rw [taskProjections, List.map_eq_nil_iff, ← List.length_eq_zero_iff,
    List.length_insertionSort, List.length_eq_zero_iff]

theorem projectTask_blockerCodes_eq_nil {item : TaskProjection} :
    (projectTask item).blockerCodes = [] ↔ item.blockers = [] := by
  rw [projectTask, ← List.length_eq_zero_iff, List.length_insertionSort, List.length_map,
    List.length_eq_zero_iff]

theorem forall_taskProjections {native : SchedulerState} {p : WorkflowTaskProjection → Prop} :
    (∀ task ∈ taskProjections native, p task) ↔ ∀ item ∈ native.tasks, p (projectTask item) := by
  simp only [mem_taskProjections, forall_exists_index, and_imp, forall_apply_eq_imp_iff₂]

theorem stateAmbiguities_eq_nil {native : SchedulerState}
    {worktrees : List (String × WorktreeLease)}
    (htasks : ∀ task ∈ native.tasks, task.outcome = .succeeded ∧ task.blockers = []) :
    stateAmbiguities native worktrees = [] ↔
      ∀ item ∈ worktrees, item.1 ∈ native.worktreeLeaseIds → item.2.ambiguous = false := by
  have hclear : ¬∃ task ∈ native.tasks, task.outcome = .unknown ∨ ∃ blocker ∈ task.blockers,
      containsText "ambiguous" blocker.code ∨ containsText "unknown" blocker.code := by
    rintro ⟨task, htask, houtcome | ⟨blocker, hblocker, -⟩⟩
    · rw [(htasks task htask).1] at houtcome
      cases houtcome
    · rw [(htasks task htask).2] at hblocker
      cases hblocker
  rw [stateAmbiguities]
  simp only [hclear, false_or, ite_eq_right_iff, List.cons_ne_nil, imp_false, not_exists, not_and,
    Bool.not_eq_true]

/-! ## Completion of a derived state -/

/-- The gate evidence that counts is the evidence that its service passed. -/
theorem evidenceIds_gateEvidence_ne_nil :
    o.gateEvidence.evidenceIds ≠ [] ↔ o.g2Passed = true ∧ o.evidenceIds ≠ [] := by
  rw [NativeWorkflowObservations.gateEvidence]
  by_cases h : o.g2Passed = true <;> simp [h]

theorem reviewIds_gateEvidence_ne_nil :
    o.gateEvidence.reviewIds ≠ [] ↔ o.g3Passed = true ∧ o.reviewIds ≠ [] := by
  rw [NativeWorkflowObservations.gateEvidence]
  by_cases h : o.g3Passed = true <;> simp [h]

theorem implementationGate_mem (hprofile : plan.completionProfile ≠ .planOnly) :
    "G2" ∈ plan.completionProfile.requiredGates := by
  cases h : plan.completionProfile <;> simp_all [CompletionProfile.requiredGates]

theorem reviewGate_mem (hprofile : plan.completionProfile = .independentReviewAccepted ∨
    plan.completionProfile = .releaseCandidateReady) :
    "G3" ∈ plan.completionProfile.requiredGates := by
  rcases hprofile with h | h <;> simp [h, CompletionProfile.requiredGates]

theorem mem_requiredGates {gateId : String} (h : gateId ∈ plan.completionProfile.requiredGates) :
    gateId = "G1" ∨ gateId = "G2" ∨ gateId = "G3" ∨ gateId = "G4" := by
  cases hp : plan.completionProfile <;> simp_all [CompletionProfile.requiredGates] <;> tauto

/-- In a complete projection every gate of the plan passes. -/
theorem NativelyComplete.gateMet (h : NativelyComplete plan evidence o) {gateId : String}
    (hmem : gateId ∈ plan.requiredGateIds)
    (hname : gateId = "G1" ∨ gateId = "G2" ∨ gateId = "G3" ∨ gateId = "G4") :
    GateMet plan (taskProjections evidence.native) o.gateEvidence gateId := by
  have hall : allCompleted (taskProjections evidence.native) :=
    ⟨mt taskProjections_eq_nil.mp h.started,
      forall_taskProjections.mpr fun item hitem => (h.succeeded item hitem).1⟩
  rcases hname with rfl | rfl | rfl | rfl
  · exact .inl ⟨rfl, blockingDecisions_eq_nil.mpr h.decided⟩
  · exact .inr (.inl ⟨rfl, hall, evidenceIds_gateEvidence_ne_nil.mpr h.implemented, h.handedOff⟩)
  · exact .inr (.inr (.inl ⟨rfl, hall, reviewIds_gateEvidence_ne_nil.mpr (h.reviewed hmem)⟩))
  · exact .inr (.inr (.inr ⟨rfl, hall, h.released hmem⟩))

/-- What is missing from a complete projection is at most solver evidence: it has no blocker and
its status is completed. -/
theorem NativelyComplete.derived (h : NativelyComplete plan evidence o)
    (hgates : planProfileContract plan = .ok ()) (hprofile : plan.completionProfile ≠ .planOnly) :
    (deriveState planId plan evidence o priorEvents latestEvent recordedAt).blockers = [] ∧
      (deriveState planId plan evidence o priorEvents latestEvent recordedAt).status =
        .completed := by
  simp only [planProfileContract, bind_eq_ok, exists_unit, require_eq_ok] at hgates
  obtain ⟨hrequired, hui⟩ := hgates
  have hambiguities : stateAmbiguities evidence.native evidence.worktrees = [] :=
    (stateAmbiguities_eq_nil fun task htask => (h.succeeded task htask).2).mpr h.unambiguous
  have hpass : ∀ gateId ∈ plan.requiredGateIds, (gateObservation plan
      (taskProjections evidence.native) o.gateEvidence gateId).status = .pass := fun gateId hmem =>
    gateObservation_pass_iff.mpr (h.gateMet hmem (mem_requiredGates (hrequired ▸ hmem)))
  have hclosing : closingBlockers plan (taskProjections evidence.native)
      (deriveGates plan (taskProjections evidence.native) o.gateEvidence) = [] := by
    have hnone : (deriveGates plan (taskProjections evidence.native) o.gateEvidence).filter
        (fun gate => gate.status ≠ .pass) = [] := by
      rw [List.filter_eq_nil_iff]
      intro gate hgate
      obtain ⟨gateId, hmem, rfl⟩ := List.mem_map.mp hgate
      simp [hpass gateId hmem]
    rw [closingBlockers, hnone]
    split_ifs with hall hmissing
    · obtain ⟨hrequires, hstatus⟩ := hmissing
      have hmem : "G4" ∈ plan.requiredGateIds := by
        rw [hrequired, hui hrequires]
        decide
      rw [gateStatus?_deriveGates hmem, hpass "G4" hmem] at hstatus
      exact absurd rfl hstatus
    · rfl
    · rfl
  have hraw : rawBlockers plan (taskProjections evidence.native)
      (deriveGates plan (taskProjections evidence.native) o.gateEvidence)
      (stateAmbiguities evidence.native evidence.worktrees) = [] := by
    refine rawBlockers_eq_nil.mpr
      ⟨blockingDecisions_eq_nil.mpr h.decided, ?_, hambiguities, hclosing⟩
    exact forall_taskProjections.mpr fun item hitem =>
      projectTask_blockerCodes_eq_nil.mpr (h.succeeded item hitem).2.2
  have hblockers := deriveBlockers_eq_nil.mpr hraw
  refine ⟨hblockers, ?_⟩
  have hstates : ∀ task ∈ taskProjections evidence.native, task.state = .completed :=
    forall_taskProjections.mpr fun item hitem => (h.succeeded item hitem).1
  have hall : allCompleted (taskProjections evidence.native) :=
    ⟨mt taskProjections_eq_nil.mp h.started, hstates⟩
  have hnone : ∀ state, state ≠ .completed →
      ((taskProjections evidence.native).any fun task => decide (task.state = state)) = false := by
    intro state hstate
    rw [List.any_eq_false]
    intro task htask heq
    exact hstate ((of_decide_eq_true heq).symm.trans (hstates task htask))
  rw [hambiguities] at hblockers
  simp only [deriveState, deriveStatus, hprofile, hambiguities, hblockers, hall, if_false, if_true,
    hnone .rejected (by decide), hnone .superseded (by decide), hnone .blocked (by decide),
    Bool.false_eq_true, ne_eq, not_true_eq_false, or_self]

/-- The disposition is completed exactly when everything but the solver evidence is in place and at
least as many verifications as solver requests were adopted. -/
theorem completed_iff (hgates : planProfileContract plan = .ok ())
    (hprofile : plan.completionProfile ≠ .planOnly)
    (hhandoff : o.handoffId = none ↔ o.handoffStatus = none) :
    (completionDisposition plan
        (deriveState planId plan evidence o priorEvents latestEvent recordedAt)).1 = .completed ↔
      NativelyComplete plan evidence o ∧
        plan.solverRequests.length ≤ o.solverVerifications.size := by
  have hrequired : plan.requiredGateIds = plan.completionProfile.requiredGates := by
    simp only [planProfileContract, bind_eq_ok, exists_unit, require_eq_ok] at hgates
    exact hgates.1
  have hsize : o.solverVerificationIds.length = o.solverVerifications.size :=
    Std.ExtTreeMap.length_keys
  rw [completed_iff_missing, missingForCompletion_eq_nil hprofile]
  constructor
  · rintro ⟨-, hblockers, hpassed, ⟨hne, htasks⟩, hcount, ⟨-, hstatus⟩, -, -, hambiguities, -⟩
    have hraw := deriveBlockers_eq_nil.mp hblockers
    obtain ⟨hdecisions, hcodes, -, -⟩ := rawBlockers_eq_nil.mp hraw
    have hsucceeded : ∀ task ∈ evidence.native.tasks,
        task.state = .completed ∧ task.outcome = .succeeded ∧ task.blockers = [] := by
      intro task htask
      obtain ⟨hstate, houtcome⟩ := forall_taskProjections.mp htasks task htask
      exact ⟨hstate, houtcome,
        projectTask_blockerCodes_eq_nil.mp (forall_taskProjections.mp hcodes task htask)⟩
    have hmet : ∀ gateId ∈ plan.requiredGateIds,
        GateMet plan (taskProjections evidence.native) o.gateEvidence gateId := by
      intro gateId hmem
      have hgate := hpassed gateId (hrequired ▸ hmem)
      rw [show (deriveState planId plan evidence o priorEvents latestEvent recordedAt).gates =
        deriveGates plan (taskProjections evidence.native) o.gateEvidence from rfl,
        gateStatus?_deriveGates hmem, Option.some.injEq] at hgate
      exact gateObservation_pass_iff.mp hgate
    have himplemented := hmet "G2" (hrequired ▸ implementationGate_mem hprofile)
    refine ⟨⟨mt taskProjections_eq_nil.mpr hne, hsucceeded,
      blockingDecisions_eq_nil.mp hdecisions, ?_, ?_, hstatus, ?_, ?_⟩, hsize ▸ hcount⟩
    · exact (stateAmbiguities_eq_nil fun task htask => (hsucceeded task htask).2).mp hambiguities
    · rcases himplemented with ⟨h, -⟩ | ⟨-, -, h, -⟩ | ⟨h, -⟩ | ⟨h, -⟩
      · exact absurd h (by decide)
      · exact evidenceIds_gateEvidence_ne_nil.mp h
      · exact absurd h (by decide)
      · exact absurd h (by decide)
    · intro hmem
      rcases hmet "G3" hmem with ⟨h, -⟩ | ⟨h, -⟩ | ⟨-, -, h⟩ | ⟨h, -⟩
      · exact absurd h (by decide)
      · exact absurd h (by decide)
      · exact reviewIds_gateEvidence_ne_nil.mp h
      · exact absurd h (by decide)
    · intro hmem
      rcases hmet "G4" hmem with ⟨h, -⟩ | ⟨h, -⟩ | ⟨h, -⟩ | ⟨-, -, h⟩
      · exact absurd h (by decide)
      · exact absurd h (by decide)
      · exact absurd h (by decide)
      · exact h
  · rintro ⟨h, hcount⟩
    have hderived : (deriveState planId plan evidence o priorEvents latestEvent
        recordedAt).blockers = [] ∧ (deriveState planId plan evidence o priorEvents latestEvent
        recordedAt).status = .completed := h.derived hgates hprofile
    obtain ⟨hblockers, hstatus⟩ := hderived
    have hpassed : ∀ gateId ∈ plan.completionProfile.requiredGates,
        gateStatus? (deriveGates plan (taskProjections evidence.native) o.gateEvidence) gateId =
          some .pass := by
      intro gateId hmem
      rw [gateStatus?_deriveGates (hrequired ▸ hmem), gateObservation_pass_iff.mpr
        (h.gateMet (hrequired ▸ hmem) (mem_requiredGates hmem))]
    refine ⟨hstatus, hblockers, hpassed, ⟨mt taskProjections_eq_nil.mp h.started, ?_⟩,
      hsize.symm ▸ hcount, ⟨?_, h.handedOff⟩, ?_, ?_, ?_, hstatus⟩
    · exact forall_taskProjections.mpr fun item hitem =>
        ⟨(h.succeeded item hitem).1, (h.succeeded item hitem).2.1⟩
    · intro hnone
      have hmissing := hhandoff.mp hnone
      rw [h.handedOff] at hmissing
      cases hmissing
    · intro hreview
      exact (h.reviewed (hrequired ▸ reviewGate_mem hreview)).2
    · rintro ⟨hrelease, -⟩
      refine hpassed "G4" ?_
      rw [hrelease]
      decide
    · exact (stateAmbiguities_eq_nil fun task htask => (h.succeeded task htask).2).mpr
        h.unambiguous

end Derived

end Sdaqf
