import Mathlib.Algebra.BigOperators.Group.Finset.Basic
import Mathlib.Data.Set.Card
import Sdaqf.CompletionSoundness
import Sdaqf.ObservationGrammar

/-!
# Totality of the projection

A derived state is checked by the contract of a state before it gets its identity. For a plan, a
scheduler state and observations that meet their own contracts the check passes exactly when the
reasons of the blocking decisions and the blocker codes of each task do not repeat, these codes are
stable ones, and the lists and the text of uncovered requirements stay inside their caps.
-/

namespace Sdaqf

open Guard

/-! ## What the inputs promise -/

/-- What the contract of a Scheduler State and its store promise of the native evidence. -/
structure LawfulEvidence (evidence : NativeEvidence) : Prop where
  graphId : IsNative evidence.native.graphId
  stateId : IsNative evidence.stateId
  eventSequence : evidence.native.eventSequence ≤ maxCount
  eventHead : isDigest evidence.native.eventHeadSha256.toList = true
  tasksBounded : evidence.native.tasks.length ≤ maxTasks
  tasksSorted : (evidence.native.tasks.map (·.taskId)).Pairwise (· < ·)
  taskId : ∀ task ∈ evidence.native.tasks, AcceptedText 68 isTaskId task.taskId
  attempt : ∀ task ∈ evidence.native.tasks, task.attempt ≤ 3
  fence : ∀ task ∈ evidence.native.tasks, task.fence ≤ maxCount
  blockers : ∀ task ∈ evidence.native.tasks, task.blockers.length ≤ 64
  approvals : ∀ id ∈ evidence.approvalIds, IsNative id

/-- What the chain of the workflow events of a plan promises. -/
structure LawfulChain (priorEvents : List NativeArtifactBinding)
    (latestEvent : NativeArtifactBinding) : Prop where
  bindings : ∀ item ∈ priorEvents ++ [latestEvent], LawfulBinding item
  events : ∀ item ∈ priorEvents ++ [latestEvent], item.artifactType = "workflow-event"
  distinct : ((priorEvents ++ [latestEvent]).map (·.artifactId)).Nodup
  latest : workflowId "content.latest_event.artifact_id" .workflowEvent latestEvent.artifactId =
    .ok ()

section Projection

variable {plan : IntegratedPlan} {evidence : NativeEvidence} {o : NativeWorkflowObservations}
  {planId field : String} {priorEvents : List NativeArtifactBinding}
  {latestEvent : NativeArtifactBinding} {recordedAt : Timestamp}

/-! ## Tasks -/

/-- The blocker codes of the tasks are stable codes, without a repetition in one task. -/
def CodesFit (native : SchedulerState) : Prop :=
  ∀ task ∈ native.tasks, (task.blockers.map (·.code)).Nodup ∧
    ∀ blocker ∈ task.blockers, isCode blocker.code = true

theorem pairwise_lt_insertionSort_iff {l : List String} :
    (l.insertionSort (· ≤ ·)).Pairwise (· < ·) ↔ l.Nodup :=
  ⟨fun h => (List.perm_insertionSort _ l).nodup_iff.mp (h.imp ne_of_lt),
    Sorting.pairwise_lt_insertionSort⟩

theorem LawfulEvidence.tasks_iff (h : LawfulEvidence evidence) :
    workflowTasksContract field (taskProjections evidence.native) = .ok () ↔
      CodesFit evidence.native := by
  have hle : evidence.native.tasks.Pairwise fun a b => a.taskId ≤ b.taskId :=
    (List.pairwise_map.mp h.tasksSorted).imp le_of_lt
  have hsame : evidence.native.tasks.insertionSort (fun a b => a.taskId ≤ b.taskId) =
      evidence.native.tasks := hle.insertionSort_eq
  have hids : (taskProjections evidence.native).map (·.taskId) =
      evidence.native.tasks.map (·.taskId) := by
    rw [taskProjections, hsame, List.map_map]
    rfl
  have hlength : (taskProjections evidence.native).length ≤ maxTasks := by
    rw [taskProjections, hsame, List.length_map]
    exact h.tasksBounded
  simp only [workflowTasksContract_eq_ok, hids, h.tasksSorted, hlength, true_and, and_true,
    forall_taskProjections, CodesFit]
  refine forall₂_congr fun task htask => ?_
  constructor
  · intro hlaw
    refine ⟨pairwise_lt_insertionSort_iff.mp hlaw.sorted, fun blocker hblocker => ?_⟩
    exact hlaw.codes _ ((List.mem_insertionSort _).mpr (List.mem_map_of_mem hblocker))
  · rintro ⟨hnodup, hcodes⟩
    refine ⟨h.taskId task htask, (h.attempt task htask).trans (by omega), h.fence task htask, ?_,
      pairwise_lt_insertionSort_iff.mpr hnodup, fun code hcode => ?_⟩
    · have hblockers := h.blockers task htask
      simp only [projectTask, List.length_insertionSort, List.length_map]
      omega
    · obtain ⟨blocker, hblocker, rfl⟩ :=
        List.mem_map.mp ((List.mem_insertionSort _).mp hcode)
      exact hcodes blocker hblocker

/-! ## Gates -/

/-- The codes that a gate gives while it is not met. -/
def unmetCodes (plan : IntegratedPlan) (tasks : List WorkflowTaskProjection) (gateId : String) :
    List String :=
  if gateId = "G1" then plan.blockingDecisions.map (·.reasonCode)
  else if gateId = "G2" ∧ allCompleted tasks then ["evidence-unavailable", "handoff-unavailable"]
  else [gateId.toLower ++ "-not-verified"]

theorem gateVerdict_of_not_met {tasks : List WorkflowTaskProjection} {e : GateEvidence}
    {gateId : String} (h : ¬GateMet plan tasks e gateId) :
    (gateVerdict plan tasks e gateId).1 ≠ .pass ∧
      (gateVerdict plan tasks e gateId).2.2 = unmetCodes plan tasks gateId := by
  have hstatus := mt gateObservation_pass_iff.mp h
  refine ⟨hstatus, ?_⟩
  unfold gateObservation at hstatus
  unfold gateVerdict at hstatus ⊢
  unfold unmetCodes
  split_ifs at hstatus ⊢ <;> simp_all

theorem unmetCodes_ne_nil {tasks : List WorkflowTaskProjection} {e : GateEvidence}
    {gateId : String} (h : ¬GateMet plan tasks e gateId) : unmetCodes plan tasks gateId ≠ [] := by
  unfold unmetCodes
  split_ifs with h1 h2
  · intro hnil
    exact h (.inl ⟨h1, List.map_eq_nil_iff.mp hnil⟩)
  · simp
  · simp

theorem mem_gateIds (h : LawfulPlan plan) {gateId : String} (hmem : gateId ∈ plan.requiredGateIds) :
    gateId = "G1" ∨ gateId = "G2" ∨ gateId = "G3" ∨ gateId = "G4" :=
  mem_requiredGates (h.profile ▸ hmem)

/-- The blocking decisions give each of their reasons once. -/
def ReasonsFit (plan : IntegratedPlan) : Prop :=
  (plan.blockingDecisions.map (·.reasonCode)).Nodup

theorem mem_blockingDecisions {decision : WorkflowDecision} :
    decision ∈ plan.blockingDecisions ↔ decision ∈ plan.decisions ∧ decision.blocking = true :=
  List.mem_filter

/-- Every reason of a blocking decision is one of the seven uncertainty codes. -/
theorem LawfulPlan.uncertainty (h : LawfulPlan plan) {code : String}
    (hcode : code ∈ plan.blockingDecisions.map (·.reasonCode)) :
    code ∈ uncertaintyReasonCodes := by
  obtain ⟨decision, hdecision, rfl⟩ := List.mem_map.mp hcode
  obtain ⟨hmem, hblocking⟩ := mem_blockingDecisions.mp hdecision
  have hlaw := h.decisions.items decision hmem
  have hreason := hlaw.reasonOfKind
  rwa [hlaw.blockingKind hblocking] at hreason

theorem isCode_notVerified {gateId : String}
    (h : gateId = "G1" ∨ gateId = "G2" ∨ gateId = "G3" ∨ gateId = "G4") :
    isCode (gateId.toLower ++ "-not-verified") = true := by
  have hlower : gateId.toLower.toList = gateId.toList.map Char.toLower := String.toList_map
  rw [isCode, String.toList_append, hlower]
  rcases h with rfl | rfl | rfl | rfl <;> decide

theorem unmetCodes_lawful (h : LawfulPlan plan) {tasks : List WorkflowTaskProjection}
    {gateId : String} (hmem : gateId ∈ plan.requiredGateIds) :
    ∀ code ∈ unmetCodes plan tasks gateId, isCode code = true := by
  unfold unmetCodes
  split_ifs with h1 h2
  · intro code hcode
    obtain ⟨decision, hdecision, rfl⟩ := List.mem_map.mp hcode
    exact (h.decisions.items decision (mem_blockingDecisions.mp hdecision).1).reasonCode
  · decide
  · intro code hcode
    rw [List.mem_singleton.mp hcode]
    exact isCode_notVerified (mem_gateIds h hmem)

theorem unmetCodes_nodup (hreasons : ReasonsFit plan) {tasks : List WorkflowTaskProjection}
    {gateId : String} : (unmetCodes plan tasks gateId).Nodup := by
  unfold unmetCodes
  split_ifs with h1 h2
  · exact hreasons
  · decide
  · exact List.nodup_singleton _

theorem unmetCodes_bounded (h : LawfulPlan plan) (hreasons : ReasonsFit plan)
    {tasks : List WorkflowTaskProjection} {gateId : String} :
    (unmetCodes plan tasks gateId).length ≤ 256 := by
  unfold unmetCodes
  split_ifs with h1 h2
  · have hsub : plan.blockingDecisions.map (·.reasonCode) ⊆ uncertaintyReasonCodes :=
      fun code hcode => h.uncertainty hcode
    have hle := (List.subperm_of_subset hreasons hsub).length_le
    exact hle.trans (by decide)
  · decide
  · simp

theorem gateVerdict_of_met {tasks : List WorkflowTaskProjection} {e : GateEvidence}
    {gateId : String} (h : GateMet plan tasks e gateId) :
    (gateVerdict plan tasks e gateId).2.2 = [] ∧
      (gateVerdict plan tasks e gateId).2.1 =
        if gateId = "G1" then [plan.requirementBaselineId] else if gateId = "G2" then e.evidenceIds
        else if gateId = "G3" then e.reviewIds else e.g4ResultIds := by
  have hnames : "G2" ≠ "G1" ∧ "G3" ≠ "G1" ∧ "G4" ≠ "G1" ∧ "G3" ≠ "G2" ∧ "G4" ≠ "G2" ∧
      "G4" ≠ "G3" := by decide
  unfold GateMet at h
  unfold gateVerdict
  rcases h with ⟨rfl, h⟩ | ⟨rfl, h⟩ | ⟨rfl, h⟩ | ⟨rfl, h⟩ <;> simp [h, hnames]

/-- The lists of evidence that a state and its gates repeat stay inside their cap. -/
structure EvidenceFits (evidence : NativeEvidence) (o : NativeWorkflowObservations) : Prop where
  verificationIds : o.solverVerificationIds.length ≤ maxReferences
  evidenceIds : o.evidenceIds.length ≤ maxReferences
  reviewIds : o.reviewIds.length ≤ maxReferences
  approvalIds : evidence.approvalIds.card ≤ maxReferences

/-- A list of native identities that a gate may give as its evidence. -/
def LawfulIds (ids : List String) : Prop :=
  ids.length ≤ maxReferences ∧ ids.Nodup ∧ ∀ id ∈ ids, IsNative id

theorem lawfulIds_nil : LawfulIds [] := ⟨Nat.zero_le _, .nil, by simp⟩

theorem gateEvidence_lawful (h : LawfulPlan plan) (ho : LawfulObservations o)
    (hfits : EvidenceFits evidence o) (tasks : List WorkflowTaskProjection) (gateId : String) :
    LawfulIds (gateVerdict plan tasks o.gateEvidence gateId).2.1 := by
  have hevidence : LawfulIds o.gateEvidence.evidenceIds := by
    simp only [NativeWorkflowObservations.gateEvidence]
    split_ifs
    · exact ⟨hfits.evidenceIds, ho.evidenceSorted.imp ne_of_lt, ho.evidence⟩
    · exact lawfulIds_nil
  have hreviews : LawfulIds o.gateEvidence.reviewIds := by
    simp only [NativeWorkflowObservations.gateEvidence]
    split_ifs
    · exact ⟨hfits.reviewIds, ho.reviewsSorted.imp ne_of_lt, ho.reviews⟩
    · exact lawfulIds_nil
  have hresults : LawfulIds o.gateEvidence.g4ResultIds := by
    refine ⟨ho.g4Bounded.trans (by decide), ?_, ho.g4Results⟩
    have hfew : o.gateEvidence.g4ResultIds.length ≤ 1 := ho.g4Bounded
    rcases hids : o.gateEvidence.g4ResultIds with _ | ⟨id, _ | ⟨id', ids⟩⟩
    · exact .nil
    · exact List.nodup_singleton id
    · simp [hids] at hfew
  unfold gateVerdict
  split_ifs <;> dsimp only
  · exact ⟨by simp [maxReferences], List.nodup_singleton _, by simpa using isNative_of_isBaselineId h.baselineId.matched⟩
  · exact hevidence
  · exact hreviews
  · exact hresults
  · exact lawfulIds_nil
  · exact lawfulIds_nil

theorem LawfulIds.insertionSort {ids : List String} (h : LawfulIds ids) :
    (ids.insertionSort (· ≤ ·)).length ≤ maxReferences ∧
      (ids.insertionSort (· ≤ ·)).Pairwise (· < ·) ∧
      ∀ id ∈ ids.insertionSort (· ≤ ·), IsNative id := by
  refine ⟨?_, pairwise_lt_insertionSort_iff.mpr h.2.1, fun id hid => ?_⟩
  · rw [List.length_insertionSort]
    exact h.1
  · exact h.2.2 id ((List.mem_insertionSort _).mp hid)

theorem gateObservation_lawful (h : LawfulPlan plan) (ho : LawfulObservations o)
    (hreasons : ReasonsFit plan) (hfits : EvidenceFits evidence o)
    {tasks : List WorkflowTaskProjection} {gateId : String} (hmem : gateId ∈ plan.requiredGateIds) :
    LawfulGate (gateObservation plan tasks o.gateEvidence gateId) := by
  obtain ⟨hbounded, hsorted, hnative⟩ :=
    (gateEvidence_lawful h ho hfits tasks gateId).insertionSort
  have hgate : isGateId gateId = true := by
    rcases mem_gateIds h hmem with rfl | rfl | rfl | rfl <;> decide
  by_cases hmet : GateMet plan tasks o.gateEvidence gateId
  · obtain ⟨hcodes, hevidence⟩ := gateVerdict_of_met hmet
    have hnone : (gateObservation plan tasks o.gateEvidence gateId).blockerCodes = [] := by
      simp only [gateObservation, hcodes, List.insertionSort_nil]
    have hsome : (gateObservation plan tasks o.gateEvidence gateId).evidenceIds ≠ [] := by
      simp only [gateObservation, hevidence]
      rw [Ne, ← List.length_eq_zero_iff, List.length_insertionSort, List.length_eq_zero_iff]
      unfold GateMet at hmet
      split_ifs with h1 h2 h3 <;> simp_all
    exact ⟨hgate, hbounded, hsorted, hnative, by simp [hnone], by simp [hnone], by simp [hnone],
      fun _ => ⟨hsome, hnone⟩, fun hfail => absurd (gateObservation_pass_iff.mpr hmet) hfail⟩
  · obtain ⟨hfail, hcodes⟩ := gateVerdict_of_not_met hmet
    have hblockers : (gateObservation plan tasks o.gateEvidence gateId).blockerCodes =
        (unmetCodes plan tasks gateId).insertionSort (· ≤ ·) := by
      simp only [gateObservation, hcodes]
    refine ⟨hgate, hbounded, hsorted, hnative, ?_, ?_, ?_, fun hpass => absurd hpass hfail, ?_⟩
    · rw [hblockers, List.length_insertionSort]
      exact unmetCodes_bounded h hreasons
    · rw [hblockers]
      exact Sorting.pairwise_lt_insertionSort (unmetCodes_nodup hreasons)
    · intro code hcode
      rw [hblockers, List.mem_insertionSort] at hcode
      exact unmetCodes_lawful h hmem code hcode
    · intro _ hnil
      rw [hblockers, ← List.length_eq_zero_iff, List.length_insertionSort,
        List.length_eq_zero_iff] at hnil
      exact unmetCodes_ne_nil hmet hnil

theorem gates_lawful (h : LawfulPlan plan) (ho : LawfulObservations o)
    (hreasons : ReasonsFit plan) (hfits : EvidenceFits evidence o)
    {tasks : List WorkflowTaskProjection} :
    gatesContract field (deriveGates plan tasks o.gateEvidence) = .ok () := by
  have hids : (deriveGates plan tasks o.gateEvidence).map (·.gateId) = plan.requiredGateIds := by
    rw [deriveGates, List.map_map]
    exact List.map_id _
  rw [gatesContract_eq_ok, hids, h.profile, deriveGates, List.length_map, h.profile]
  refine ⟨?_, fun gate hgate => ?_, ?_⟩
  · cases plan.completionProfile <;> decide
  · obtain ⟨gateId, hmem, rfl⟩ := List.mem_map.mp hgate
    exact gateObservation_lawful h ho hreasons hfits (h.profile ▸ hmem)
  · cases plan.completionProfile <;> decide

/-- The first gate repeats the reasons of the blocking decisions. -/
theorem reasonsFit_of_gates (h : LawfulPlan plan) {tasks : List WorkflowTaskProjection}
    {e : GateEvidence} (hgates : gatesContract field (deriveGates plan tasks e) = .ok ()) :
    ReasonsFit plan := by
  have hmem : "G1" ∈ plan.requiredGateIds := by
    rw [h.profile]
    cases plan.completionProfile <;> decide
  have hlaw := (gatesContract_eq_ok.mp hgates).2.1 _
    (List.mem_map_of_mem (f := gateObservation plan tasks e) hmem)
  have hcodes : (gateObservation plan tasks e "G1").blockerCodes =
      (plan.blockingDecisions.map (·.reasonCode)).insertionSort (· ≤ ·) := rfl
  have hsorted := hlaw.codesSorted
  rw [hcodes] at hsorted
  exact pairwise_lt_insertionSort_iff.mp hsorted

/-! ## Blockers -/

/-- What blocks a projection, with the identity it refers to: a decision of the plan, a blocker of a
task, an ambiguity, and once every task is completed a gate that is not met, or the evidence for a
user interface. -/
inductive Blocks (plan : IntegratedPlan) (evidence : NativeEvidence)
    (o : NativeWorkflowObservations) : String → String → Prop
  | decision {decision : WorkflowDecision} (blocking : decision ∈ plan.blockingDecisions) :
      Blocks plan evidence o decision.reasonCode decision.subjectId
  | task {task : TaskProjection} {blocker : Blocker} (projected : task ∈ evidence.native.tasks)
      (blocked : blocker ∈ task.blockers) : Blocks plan evidence o blocker.code task.taskId
  | ambiguity {code : String} (ambiguous : code ∈ stateAmbiguities evidence.native evidence.worktrees) :
      Blocks plan evidence o code plan.taskGraph.artifactId
  | gate {gateId code : String} (closing : ∀ task ∈ evidence.native.tasks, task.state = .completed)
      (required : gateId ∈ plan.requiredGateIds)
      (unmet : ¬GateMet plan (taskProjections evidence.native) o.gateEvidence gateId)
      (given : code ∈ unmetCodes plan (taskProjections evidence.native) gateId) :
      Blocks plan evidence o code gateId
  | userInterface (closing : ∀ task ∈ evidence.native.tasks, task.state = .completed)
      (required : plan.uiRequired = true)
      (unmet : "G4" ∈ plan.requiredGateIds →
        ¬GateMet plan (taskProjections evidence.native) o.gateEvidence "G4") :
      Blocks plan evidence o "ui-evidence-unavailable" "G4"

/-- At most 256 blockers. -/
def BlockersFit (plan : IntegratedPlan) (evidence : NativeEvidence)
    (o : NativeWorkflowObservations) : Prop :=
  {blocker : String × String | Blocks plan evidence o blocker.1 blocker.2}.encard ≤ 256

/-- The blockers of a derivation, in no order and with repetitions. -/
def derivedBlockers (plan : IntegratedPlan) (evidence : NativeEvidence)
    (o : NativeWorkflowObservations) : List (String × List String) :=
  rawBlockers plan (taskProjections evidence.native)
    (deriveGates plan (taskProjections evidence.native) o.gateEvidence)
    (stateAmbiguities evidence.native evidence.worktrees)

theorem gateStatus?_eq_none {tasks : List WorkflowTaskProjection} {e : GateEvidence}
    {gateId : String} (h : gateId ∉ plan.requiredGateIds) :
    gateStatus? (deriveGates plan tasks e) gateId = none := by
  rw [gateStatus?, Option.map_eq_none_iff, List.find?_eq_none]
  intro gate hgate
  obtain ⟨g, hg, rfl⟩ := List.mem_map.mp (List.mem_reverse.mp hgate)
  have hname : (gateObservation plan tasks e g).gateId = g := rfl
  rw [hname, decide_eq_true_eq]
  rintro rfl
  exact h hg

theorem gateStatus?_ne_pass {tasks : List WorkflowTaskProjection} {e : GateEvidence}
    {gateId : String} : gateStatus? (deriveGates plan tasks e) gateId ≠ some .pass ↔
      (gateId ∈ plan.requiredGateIds → ¬GateMet plan tasks e gateId) := by
  by_cases hmem : gateId ∈ plan.requiredGateIds
  · rw [gateStatus?_deriveGates hmem, Ne, Option.some.injEq, gateObservation_pass_iff]
    simp [hmem]
  · simp [gateStatus?_eq_none hmem, hmem]

theorem mem_gateBlockers {tasks : List WorkflowTaskProjection} {e : GateEvidence}
    {code : String} {references : List String} :
    (code, references) ∈ ((deriveGates plan tasks e).filter fun gate => gate.status ≠ .pass).flatMap
        (fun gate => gate.blockerCodes.map fun code => (code, [gate.gateId])) ↔
      ∃ gateId ∈ plan.requiredGateIds, ¬GateMet plan tasks e gateId ∧
        code ∈ unmetCodes plan tasks gateId ∧ references = [gateId] := by
  have hcodes : ∀ gateId, ¬GateMet plan tasks e gateId →
      (code ∈ (gateObservation plan tasks e gateId).blockerCodes ↔
        code ∈ unmetCodes plan tasks gateId) := by
    intro gateId hmet
    simp only [gateObservation, (gateVerdict_of_not_met hmet).2, List.mem_insertionSort]
  simp only [List.mem_flatMap, List.mem_filter, deriveGates, List.mem_map, decide_eq_true_eq,
    Prod.mk.injEq]
  constructor
  · rintro ⟨_, ⟨⟨gateId, hmem, rfl⟩, hstatus⟩, _, hcode, rfl, rfl⟩
    have hmet := mt gateObservation_pass_iff.mpr hstatus
    exact ⟨gateId, hmem, hmet, (hcodes gateId hmet).mp hcode, rfl⟩
  · rintro ⟨gateId, hmem, hmet, hcode, rfl⟩
    exact ⟨_, ⟨⟨gateId, hmem, rfl⟩, mt gateObservation_pass_iff.mp hmet⟩, code,
      (hcodes gateId hmet).mpr hcode, rfl, rfl⟩

theorem mem_closingBlockers {tasks : List WorkflowTaskProjection} {e : GateEvidence}
    {code : String} {references : List String} :
    (code, references) ∈ closingBlockers plan tasks (deriveGates plan tasks e) ↔
      (∀ task ∈ tasks, task.state = .completed) ∧
      ((∃ gateId ∈ plan.requiredGateIds, ¬GateMet plan tasks e gateId ∧
          code ∈ unmetCodes plan tasks gateId ∧ references = [gateId]) ∨
        (plan.uiRequired = true ∧ ("G4" ∈ plan.requiredGateIds → ¬GateMet plan tasks e "G4") ∧
          code = "ui-evidence-unavailable" ∧ references = ["G4"])) := by
  unfold closingBlockers
  by_cases hclosing : ∀ task ∈ tasks, task.state = .completed
  · rw [if_pos hclosing, List.mem_append, mem_gateBlockers]
    refine Iff.trans (or_congr_right ?_) (and_iff_right hclosing).symm
    rw [← and_assoc, ← gateStatus?_ne_pass]
    split_ifs with hui
    · simp [hui]
    · simp [hui]
  · rw [if_neg hclosing]
    simp [hclosing]

theorem mem_derivedBlockers {code : String} {references : List String} :
    (code, references) ∈ derivedBlockers plan evidence o ↔
      ∃ reference, references = [reference] ∧ Blocks plan evidence o code reference := by
  have hclosed : (∀ task ∈ taskProjections evidence.native, task.state = .completed) ↔
      ∀ task ∈ evidence.native.tasks, task.state = .completed := forall_taskProjections
  simp only [derivedBlockers, rawBlockers, List.mem_append, List.mem_map, List.mem_flatMap,
    Prod.mk.injEq, mem_closingBlockers, hclosed]
  simp only [mem_taskProjections]
  constructor
  · rintro (((⟨decision, hdecision, rfl, rfl⟩ | ⟨_, ⟨task, htask, rfl⟩, code, hcode, rfl, rfl⟩) |
      ⟨_, hambiguous, rfl, rfl⟩) | ⟨hclosing, ⟨gateId, hmem, hmet, hcode, rfl⟩ |
      ⟨hui, hmet, rfl, rfl⟩⟩)
    · exact ⟨_, rfl, .decision hdecision⟩
    · obtain ⟨blocker, hblocker, rfl⟩ :=
        List.mem_map.mp ((List.mem_insertionSort _).mp hcode)
      exact ⟨_, rfl, .task htask hblocker⟩
    · exact ⟨_, rfl, .ambiguity hambiguous⟩
    · exact ⟨_, rfl, .gate hclosing hmem hmet hcode⟩
    · exact ⟨_, rfl, .userInterface hclosing hui hmet⟩
  · rintro ⟨reference, rfl, hblocks⟩
    cases hblocks with
    | decision blocking => exact .inl (.inl (.inl ⟨_, blocking, rfl, rfl⟩))
    | task projected blocked =>
      exact .inl (.inl (.inr ⟨_, ⟨_, projected, rfl⟩, _,
        (List.mem_insertionSort _).mpr (List.mem_map_of_mem blocked), rfl, rfl⟩))
    | ambiguity ambiguous => exact .inl (.inr ⟨_, ambiguous, rfl, rfl⟩)
    | gate closing required unmet given =>
      exact .inr ⟨closing, .inl ⟨_, required, unmet, given, rfl⟩⟩
    | userInterface closing required unmet =>
      exact .inr ⟨closing, .inr ⟨required, unmet, rfl, rfl⟩⟩

/-- The number of blockers of a derivation is the number of pairs that block. -/
theorem encard_blocks :
    {blocker : String × String | Blocks plan evidence o blocker.1 blocker.2}.encard =
      ((derivedBlockers plan evidence o).map toLex).toFinset.card := by
  have hinjective : Function.Injective fun blocker : String × String =>
      toLex (blocker.1, [blocker.2]) := by
    rintro ⟨code, reference⟩ ⟨code', reference'⟩ h
    simpa using h
  rw [← hinjective.encard_image, ← Set.encard_coe_eq_coe_finsetCard]
  congr 1
  ext item
  simp only [Set.mem_image, Set.mem_ofPred_eq, Prod.exists, List.coe_toFinset, List.mem_map]
  constructor
  · rintro ⟨code, reference, hblocks, rfl⟩
    exact ⟨code, [reference], mem_derivedBlockers.mpr ⟨reference, rfl, hblocks⟩, rfl⟩
  · rintro ⟨code, references, hmem, rfl⟩
    obtain ⟨reference, rfl, hblocks⟩ := mem_derivedBlockers.mp hmem
    exact ⟨code, reference, hblocks, rfl⟩

theorem mem_stateAmbiguities {code : String} {native : SchedulerState}
    {worktrees : List (String × WorktreeLease)} (h : code ∈ stateAmbiguities native worktrees) :
    code = "external-effect-ambiguous" := by
  unfold stateAmbiguities at h
  split_ifs at h
  · exact List.mem_singleton.mp h
  · simp at h

theorem Blocks.native (h : LawfulPlan plan) (hevidence : LawfulEvidence evidence)
    {code reference : String} (hblocks : Blocks plan evidence o code reference) :
    IsNative reference := by
  cases hblocks with
  | decision blocking => exact (h.decisions.items _ (mem_blockingDecisions.mp blocking).1).subjectId
  | task projected _ => exact isNative_of_taskId (hevidence.taskId _ projected)
  | ambiguity _ => exact h.taskGraph.artifactId
  | gate _ required _ _ =>
    rcases mem_gateIds h required with rfl | rfl | rfl | rfl <;>
      exact isNative_of_isGateId (by decide)
  | userInterface _ _ _ => exact isNative_of_isGateId (by decide)

theorem Blocks.isCode (h : LawfulPlan plan) (hcodes : CodesFit evidence.native)
    {code reference : String} (hblocks : Blocks plan evidence o code reference) :
    isCode code = true := by
  cases hblocks with
  | decision blocking => exact (h.decisions.items _ (mem_blockingDecisions.mp blocking).1).reasonCode
  | task projected blocked => exact (hcodes _ projected).2 _ blocked
  | ambiguity ambiguous =>
    rw [mem_stateAmbiguities ambiguous]
    decide
  | gate _ required _ given => exact unmetCodes_lawful h required _ given
  | userInterface _ _ _ => decide

/-- The blockers of a derivation are in order, so only their codes and their number matter. -/
theorem blockers_iff (h : LawfulPlan plan) (hevidence : LawfulEvidence evidence)
    (hcodes : CodesFit evidence.native) :
    blockersContract field (deriveBlockers plan (taskProjections evidence.native)
        (deriveGates plan (taskProjections evidence.native) o.gateEvidence)
        (stateAmbiguities evidence.native evidence.worktrees)) = .ok () ↔
      BlockersFit plan evidence o := by
  have hshape : deriveBlockers plan (taskProjections evidence.native)
      (deriveGates plan (taskProjections evidence.native) o.gateEvidence)
      (stateAmbiguities evidence.native evidence.worktrees) =
      (Sorting.listed ((derivedBlockers plan evidence o).map toLex).toFinset).map
        fun blocker => ⟨(ofLex blocker).1, (ofLex blocker).2⟩ := rfl
  have hitems : ∀ item ∈ (Sorting.listed
      ((derivedBlockers plan evidence o).map toLex).toFinset).map
        (fun blocker => (⟨(ofLex blocker).1, (ofLex blocker).2⟩ : WorkflowBlocker)),
      ∃ reference, item.references = [reference] ∧ Blocks plan evidence o item.code reference := by
    intro item hitem
    simp only [List.mem_map, Sorting.mem_listed, List.mem_toFinset] at hitem
    obtain ⟨_, ⟨⟨code, references⟩, hmem, rfl⟩, rfl⟩ := hitem
    exact mem_derivedBlockers.mp hmem
  rw [hshape, blockersContract_eq_ok]
  · rw [List.length_map, Sorting.length_listed, BlockersFit, encard_blocks]
    have hcard : ((((derivedBlockers plan evidence o).map toLex).toFinset.card : ℕ) : ℕ∞) ≤ 256 ↔
        ((derivedBlockers plan evidence o).map toLex).toFinset.card ≤ 256 := by
      exact_mod_cast Iff.rfl
    rw [hcard]
    refine and_iff_left ⟨fun item hitem => ?_, ?_, ?_⟩
    · obtain ⟨reference, -, hblocks⟩ := hitems item hitem
      exact hblocks.isCode h hcodes
    · rw [List.pairwise_map, Sorting.listed_eq_sort]
      exact (Finset.pairwise_sort ((derivedBlockers plan evidence o).map toLex).toFinset
        (· ≤ ·)).imp fun hab => hab
    · refine Sorting.nodup_listed.map ?_
      rintro a b hab
      simp only [WorkflowBlocker.mk.injEq] at hab
      exact ofLex.injective (Prod.ext hab.1 hab.2)
  · intro item hitem
    obtain ⟨reference, hreferences, hblocks⟩ := hitems item hitem
    exact ⟨reference, hreferences, hblocks.native h hevidence⟩

/-! ## Measurements -/

/-- A named value that its contract accepts where it is available. -/
def LawfulNamed (item : NamedValue) : Prop :=
  ∀ value ∈ item.2, LawfulValue value.1 ∧ isCode value.2 = true

theorem lawfulNamed_unavailable {name : String} : LawfulNamed (unavailable name) := by
  simp [LawfulNamed, unavailable]

theorem lawfulNamed_number {name : String} (unit : String) {value : Nat} (h : isCode unit = true) :
    LawfulNamed (name, some (.number value, unit)) := by
  intro observed hobserved
  rw [← Option.mem_some_iff.mp hobserved]
  exact ⟨lawfulValue_number, h⟩

theorem lawfulNamed_count {name : String} {value : Nat} :
    LawfulNamed (observedCount name value) := lawfulNamed_number _ (by decide)

theorem lawfulNamed_text {name value : String} (unit : String) (h : isCode unit = true) :
    LawfulNamed (observedText name value unit) ↔ LawfulValue (.text value) := by
  simp [LawfulNamed, observedText, h]

theorem lawfulNamed_countsWhen {available : Prop} [Decidable available]
    {items : List (String × Nat)} : ∀ item ∈ countsWhen available items, LawfulNamed item := by
  intro item hitem
  obtain ⟨pair, -, rfl⟩ := List.mem_map.mp hitem
  split_ifs
  · exact lawfulNamed_count
  · exact lawfulNamed_unavailable

theorem lawfulValue_text_iff (field : String) {value : String} :
    LawfulValue (.text value) ↔ pathFreeText field 128 value = .ok () :=
  (@measuredValueContract_eq_ok field _ (.text value)).symm

theorem lawfulValue_code {value : String} (h : isCode value = true) :
    LawfulValue (.text value) := by
  obtain ⟨hne, hchars, hlength⟩ := isCode_chars h
  rw [lawfulValue_text_iff "", pathFreeText_eq_ok (LegiblePattern.legible value h)
    (secretFree_of_code hchars) (not_mem_of_rule hchars (by decide))
    (not_mem_of_rule hchars (by decide))]
  omega

theorem lawfulValue_currency {value : String} (h : isCurrency value = true) :
    LawfulValue (.text value) := by
  have hlegible : Legible value.toList := LegiblePattern.legible value h
  simp only [isCurrency, Bool.and_eq_true, decide_eq_true_eq, List.all_eq_true] at h
  obtain ⟨hlength, hchars⟩ := h
  have hsecret : SecretFree value.toList := by
    refine secretFree_of_keyFree (not_mem_of_rule hchars (by decide))
      (.inl (not_mem_of_rule hchars (by decide))) fun tail ht => ?_
    -- A key has four letters before its sixteen characters.
    rw [Bool.eq_false_iff]
    intro hkey
    simp only [startsKey, Bool.and_eq_true, decide_eq_true_eq,
      List.isPrefixOf_iff_prefix] at hkey
    have hlong := hkey.1.length_le
    have hshort := ht.length_le
    rw [hlength] at hshort
    exact absurd (hlong.trans hshort) (by decide)
  rw [lawfulValue_text_iff "", pathFreeText_eq_ok hlegible hsecret
    (not_mem_of_rule hchars (by decide)) (not_mem_of_rule hchars (by decide))]
  omega

/-- The characters of the statuses with their numbers. -/
def isCountCharacter (c : Char) : Bool := isLower c || isDigit c || c = ':' || c = ';'

theorem visible_of_isCountCharacter {c : Char} (h : isCountCharacter c = true) : Visible c := by
  simp only [isCountCharacter, Bool.or_eq_true, decide_eq_true_eq] at h
  rcases h with ((h | h) | rfl) | rfl
  · exact visible_of_isLower h
  · exact visible_of_isDigit h
  all_goals decide

theorem isCountCharacter_toString {n : Nat} : ∀ c ∈ (toString n).toList,
    isCountCharacter c = true := by
  intro c hc
  rw [Nat.toString_eq_repr, Nat.toList_repr] at hc
  have hdigit : c.isDigit = true :=
    Nat.isDigit_of_mem_toDigits (by decide) (by decide) hc
  have hsame : isDigit c = c.isDigit := rfl
  simp [isCountCharacter, hsame, hdigit]

theorem length_toString_le {n : Nat} (h : n ≤ maxReferences) : (toString n).toList.length ≤ 4 := by
  rw [String.length_toList, Nat.toString_eq_repr]
  exact (Nat.length_repr_le_iff (by omega)).mpr (by simp only [maxReferences] at h; omega)

/-- Three short names with their numbers are inside the cap of an observed text. -/
theorem lawfulValue_counts {counts : List (String × Nat)} (hne : counts ≠ [])
    (hfew : counts.length ≤ 3) (hitem : ∀ item ∈ counts, item.2 ≤ maxReferences ∧
      item.1.toList.length ≤ 12 ∧ ∀ c ∈ item.1.toList, isCountCharacter c = true) :
    LawfulValue (.text (";".intercalate (counts.map fun item =>
      item.1 ++ ":" ++ toString item.2))) := by
  have htext : (";".intercalate (counts.map fun item => item.1 ++ ":" ++ toString item.2)).toList =
      [';'].intercalate (counts.map fun item =>
        item.1.toList ++ ':' :: (toString item.2).toList) := by
    simp [String.toList_intercalate, Function.comp_def]
  have hlength := length_intercalate (d := ';')
    (counts.map fun item => item.1.toList ++ ':' :: (toString item.2).toList) (by simpa)
  have hchars : ∀ c ∈ [';'].intercalate (counts.map fun item =>
      item.1.toList ++ ':' :: (toString item.2).toList), isCountCharacter c = true := by
    refine forall_mem_intercalate (by decide) ?_
    intro part hpart c hc
    obtain ⟨item, hmem, rfl⟩ := List.mem_map.mp hpart
    rcases List.mem_append.mp hc with hc | hc
    · exact (hitem item hmem).2.2 c hc
    · rcases List.mem_cons.mp hc with rfl | hc
      · decide
      · exact isCountCharacter_toString c hc
  rw [← htext] at hlength hchars
  -- A name has at most twelve characters and a number at most four digits.
  have hbound : ((counts.map fun item => item.1.toList ++ ':' :: (toString item.2).toList).map
      fun part => part.length + 1).sum ≤ counts.length * 18 := by
    refine (List.sum_le_card_nsmul _ 18 fun n hn => ?_).trans (by simp)
    simp only [List.map_map, List.mem_map, Function.comp_apply] at hn
    obtain ⟨item, hmem, rfl⟩ := hn
    have hdigits := length_toString_le (hitem item hmem).1
    have hname := (hitem item hmem).2.1
    simp only [List.length_append, List.length_cons]
    omega
  have hpos : 2 ≤ ((counts.map fun item => item.1.toList ++ ':' :: (toString item.2).toList).map
      fun part => part.length + 1).sum := by
    rcases counts with _ | ⟨item, counts⟩
    · exact absurd rfl hne
    · simp only [List.map_cons, List.sum_cons, List.length_append, List.length_cons]
      omega
  have hlegible : Legible (";".intercalate (counts.map fun item =>
      item.1 ++ ":" ++ toString item.2)).toList :=
    ⟨List.ne_nil_of_length_pos (by omega), fun c hc => visible_of_isCountCharacter (hchars c hc)⟩
  have hsecret := secretFree_of_keyFree (not_mem_of_rule hchars (by decide))
    (.inr (not_mem_of_rule hchars (by decide))) (keyFree_of_absent fun hpart =>
      not_mem_of_rule hchars (d := 'A') (by decide) (hpart.subset (by simp)))
  rw [lawfulValue_text_iff "", pathFreeText_eq_ok hlegible hsecret
    (not_mem_of_rule hchars (by decide)) (not_mem_of_rule hchars (by decide))]
  omega

theorem lawfulValue_solverStatusText (h : o.solverVerificationIds.length ≤ maxReferences) :
    LawfulValue (.text (solverStatusText o)) := by
  have hcount : ∀ outcome, o.solverCount outcome ≤ maxReferences := by
    intro outcome
    refine List.countP_le_length.trans ?_
    rw [Table.length_rows, ← Std.ExtTreeMap.length_keys]
    exact h
  unfold solverStatusText
  split_ifs with hnone
  · exact lawfulValue_code (by decide)
  · refine lawfulValue_counts hnone (List.length_filter_le _ _) fun item hitem => ?_
    have hmem := (List.mem_filter.mp hitem).1
    simp only [List.mem_cons, List.not_mem_nil, or_false] at hmem
    rcases hmem with rfl | rfl | rfl <;>
      exact ⟨hcount _, by dsimp only; decide, List.all_eq_true.mp (by dsimp only; decide)⟩

/-- The required requirements that stay uncovered fit into the text of an observation, where the
coverage is known. -/
def UncoveredFit (plan : IntegratedPlan) (o : NativeWorkflowObservations) : Prop :=
  o.requirementCoverageAvailable = true →
    ∑ id ∈ uncoveredRequirements plan o, (id.toList.length + 1) ≤ 129

theorem isNative_uncovered (h : LawfulPlan plan) {id : String}
    (hid : id ∈ uncoveredRequirements plan o) : IsNative id := by
  have hrequired := (Finset.mem_sdiff.mp hid).1
  simp only [IntegratedPlan.requiredRequirements, List.mem_toFinset, List.mem_map,
    List.mem_filter] at hrequired
  obtain ⟨decision, ⟨hmem, -⟩, rfl⟩ := hrequired
  exact (h.decisions.items decision hmem).subjectId

theorem lawfulValue_uncovered_iff (h : LawfulPlan plan) :
    LawfulValue (.text (if uncoveredRequirements plan o = ∅ then "none"
      else ",".intercalate (Sorting.listed (uncoveredRequirements plan o)))) ↔
      ∑ id ∈ uncoveredRequirements plan o, (id.toList.length + 1) ≤ 129 := by
  split_ifs with hempty
  · simp [hempty, lawfulValue_code (show isCode "none" = true by decide)]
  · have hne : Sorting.listed (uncoveredRequirements plan o) ≠ [] := by
      rw [Ne, ← List.length_eq_zero_iff, Sorting.length_listed, Finset.card_eq_zero]
      exact hempty
    have hsum : ((Sorting.listed (uncoveredRequirements plan o)).map
        fun id => id.toList.length + 1).sum =
        ∑ id ∈ uncoveredRequirements plan o, (id.toList.length + 1) := by
      rw [← List.sum_toFinset _ Sorting.nodup_listed, Sorting.toFinset_listed]
    rw [lawfulValue_text_iff "", pathFreeText_intercalate hne
      fun id hid => isNative_uncovered h (Sorting.mem_listed.mp hid), hsum]

section Measured

variable {tasks : List WorkflowTaskProjection} {approvalIds ambiguities : List String}
  {measured : MeasurementEvidence}

theorem requirementValues_lawful_iff (h : LawfulPlan plan) :
    (∀ item ∈ requirementValues plan o measured, LawfulNamed item) ↔ UncoveredFit plan o := by
  unfold requirementValues UncoveredFit
  by_cases hcoverage : o.requirementCoverageAvailable = true
  · rw [if_pos hcoverage, ← lawfulValue_uncovered_iff h]
    simp [lawfulNamed_count, lawfulNamed_text "identifier-list" (by decide), hcoverage]
  · rw [if_neg hcoverage]
    simp [lawfulNamed_count, lawfulNamed_unavailable, hcoverage]

theorem contextValues_lawful : ∀ item ∈ contextValues measured, LawfulNamed item := by
  simp [contextValues, lawfulNamed_count, lawfulNamed_number "canonical-utf8-bytes"
    (by decide)]

theorem schedulingValues_lawful : ∀ item ∈ schedulingValues tasks measured, LawfulNamed item := by
  simp [schedulingValues, lawfulNamed_count]

theorem solverValues_lawful (h : o.solverVerificationIds.length ≤ maxReferences) :
    ∀ item ∈ solverValues plan o measured, LawfulNamed item := by
  simp [solverValues, lawfulNamed_count, lawfulNamed_text "status-counts" (by decide),
    lawfulValue_solverStatusText h]

theorem recoveryValues_lawful : ∀ item ∈ recoveryValues ambiguities measured, LawfulNamed item := by
  simp [recoveryValues, lawfulNamed_count, lawfulNamed_unavailable]

theorem approvalValues_lawful :
    ∀ item ∈ approvalValues plan tasks approvalIds measured, LawfulNamed item := by
  simp [approvalValues, lawfulNamed_count]

theorem costValues_lawful (h : LawfulPlan plan) :
    ∀ item ∈ costValues plan measured, LawfulNamed item := by
  have hnone : LawfulValue (.text "not_available") := by
    rw [lawfulValue_text_iff "", pathFreeText_eq_ok] <;> decide
  unfold costValues
  cases hbudget : plan.budget.cost with
  | none =>
    simp [lawfulNamed_unavailable, lawfulNamed_text "availability-status" (by decide),
      hnone]
  | some cost =>
    have hcurrency := lawfulValue_currency (h.budget.currency hbudget)
    simp [lawfulNamed_text "availability-status" (by decide),
      lawfulNamed_text "iso-4217" (by decide), hcurrency,
      lawfulValue_code (show isCode "available" = true by decide),
      lawfulNamed_number "microunits" (by decide)]

/-- Only the text of the uncovered requirements can be refused. -/
theorem measuredValues_lawful_iff (h : LawfulPlan plan)
    (hverifications : o.solverVerificationIds.length ≤ maxReferences)
    (tasks : List WorkflowTaskProjection) (approvalIds ambiguities : List String)
    (measured : MeasurementEvidence) :
    (∀ item ∈ measuredValues plan tasks approvalIds ambiguities o measured, LawfulNamed item) ↔
      UncoveredFit plan o := by
  simp only [measuredValues, List.forall_mem_append, requirementValues_lawful_iff h]
  constructor
  · exact fun hall => hall.1.1.1.1.1.1.1.1
  · intro huncovered
    exact ⟨⟨⟨⟨⟨⟨⟨⟨huncovered, contextValues_lawful⟩, schedulingValues_lawful⟩,
      solverValues_lawful hverifications⟩, lawfulNamed_countsWhen⟩, lawfulNamed_countsWhen⟩,
      recoveryValues_lawful⟩, approvalValues_lawful⟩, costValues_lawful h⟩

theorem map_countsWhen {available : Prop} [Decidable available] {items : List (String × Nat)} :
    (countsWhen available items).map (·.1) = items.map (·.1) := by
  rw [countsWhen, List.map_map]
  refine List.map_congr_left fun item _ => ?_
  simp only [Function.comp_apply]
  split_ifs <;> rfl

/-- The measurements stand in the order of their names. -/
theorem map_measuredValues (plan : IntegratedPlan) (tasks : List WorkflowTaskProjection)
    (approvalIds ambiguities : List String) (o : NativeWorkflowObservations)
    (measured : MeasurementEvidence) : (measuredValues plan tasks approvalIds ambiguities o measured).map
    (·.1) = workflowMeasurementNames := by
  have hcosts : (costValues plan measured).map (·.1) = ["available_cost.status",
      "available_cost.currency", "available_cost.budget_microunits",
      "available_cost.used_microunits", "available_cost.remaining_microunits"] := by
    unfold costValues
    cases plan.budget.cost <;> rfl
  have hrequirements : (requirementValues plan o measured).map (·.1) =
      ["requirements.required_requirement_count", "requirements.covered_requirement_count",
        "requirements.uncovered_requirement_ids", "requirements.scope_addition_count",
        "requirements.blocking_diagnostic_count"] := by
    unfold requirementValues
    split_ifs <;> rfl
  simp only [measuredValues, List.map_append, hcosts, hrequirements, evidenceValues, handoffValues,
    map_countsWhen]
  simp [contextValues, schedulingValues, solverValues, recoveryValues, approvalValues,
    workflowMeasurementNames, workflowMeasurementGroups, observedCount, observedText, unavailable]

theorem LawfulNamed.measurement {item : NamedValue} {sources : Finset String} :
    LawfulMeasurement
        { name := item.1
          status := if item.2.isSome then .observed else .notAvailable
          value := item.2.map (·.1)
          unit := item.2.map (·.2)
          sourceIds := Sorting.listed sources } ↔
      LawfulNamed item ∧ sources.card ≤ maxReferences := by
  obtain ⟨name, value⟩ := item
  constructor
  · intro h
    refine ⟨fun v hv => ⟨h.value _ ?_, h.unit _ ?_⟩, ?_⟩
    · simp only [Option.mem_def] at hv
      simp [hv]
    · simp only [Option.mem_def] at hv
      simp [hv]
    · simpa using h.sourcesBounded
  · rintro ⟨hnamed, hsources⟩
    refine ⟨?_, ?_, ?_, ?_, by simpa using hsources, pairwise_lt_listed⟩
    · intro v hv
      obtain ⟨pair, hpair, rfl⟩ := Option.map_eq_some_iff.mp hv
      exact (hnamed pair hpair).1
    · intro unit hunit
      obtain ⟨pair, hpair, rfl⟩ := Option.map_eq_some_iff.mp hunit
      exact (hnamed pair hpair).2
    · cases value <;> simp
    · cases value <;> simp

/-- The measurements of a derivation are accepted when their common sources and the text of the
uncovered requirements are inside their caps. -/
theorem measurements_iff (h : LawfulPlan plan)
    (hverifications : o.solverVerificationIds.length ≤ maxReferences) {sources : Finset String}
    (hsources : ∀ id ∈ sources, IsNative id) :
    measurementsContract field
        (deriveMeasurements plan tasks approvalIds ambiguities o measured sources) = .ok () ↔
      UncoveredFit plan o ∧ sources.card ≤ maxReferences := by
  have hnames : (deriveMeasurements plan tasks approvalIds ambiguities o measured sources).map
      (·.name) = workflowMeasurementNames := by
    rw [deriveMeasurements, List.map_map, ← map_measuredValues plan tasks approvalIds ambiguities o measured]
    rfl
  have hlength : (deriveMeasurements plan tasks approvalIds ambiguities o measured
      sources).length = 52 := by
    rw [← List.length_map (f := WorkflowMeasurement.name), hnames]
    rfl
  rw [measurementsContract_eq_ok]
  · simp only [hnames, hlength, and_true]
    rw [← measuredValues_lawful_iff h hverifications tasks approvalIds ambiguities measured]
    simp only [deriveMeasurements, List.forall_mem_map, LawfulNamed.measurement]
    constructor
    · rintro ⟨-, hall⟩
      obtain ⟨item, hitem⟩ : ∃ item,
          item ∈ measuredValues plan tasks approvalIds ambiguities o measured :=
        ⟨_, List.mem_append_left _ (List.mem_append_left _ (List.mem_append_left _
          (List.mem_append_left _ (List.mem_append_left _ (List.mem_append_left _
            (List.mem_append_left _ (List.mem_append_left _ (List.mem_append_left _
              (List.mem_append_left _ List.mem_cons_self)))))))))⟩
      exact ⟨fun item hitem => (hall item hitem).1, (hall item hitem).2⟩
    · rintro ⟨hall, hcard⟩
      exact ⟨by decide, fun item hitem => ⟨hall item hitem, hcard⟩⟩
  · intro item hitem
    obtain ⟨value, -, rfl⟩ := List.mem_map.mp hitem
    simpa using hsources

end Measured

/-! ## The projection -/

/-- Where a derived state meets its contract. -/
structure ProjectionFits (planId : String) (plan : IntegratedPlan) (evidence : NativeEvidence)
    (o : NativeWorkflowObservations) (eventChain : List NativeArtifactBinding) : Prop where
  reasons : ReasonsFit plan
  codes : CodesFit evidence.native
  blockers : BlockersFit plan evidence o
  uncovered : UncoveredFit plan o
  lists : EvidenceFits evidence o
  sources : (measurementSources planId plan evidence.native.graphId evidence.stateId o
    eventChain).card ≤ maxReferences

/-- Every source of a measurement is a native identity. -/
theorem isNative_source (h : LawfulPlan plan) (hid : IsNative planId)
    (hevidence : LawfulEvidence evidence) (ho : LawfulObservations o)
    {eventChain : List NativeArtifactBinding} (hchain : ∀ item ∈ eventChain, LawfulBinding item) :
    ∀ id ∈ measurementSources planId plan evidence.native.graphId evidence.stateId o eventChain,
      IsNative id := by
  intro id hmem
  simp only [measurementSources, List.mem_toFinset, List.mem_append, List.mem_cons,
    List.not_mem_nil, or_false, List.mem_map] at hmem
  rcases hmem with ((rfl | rfl | rfl | rfl | rfl | rfl | rfl | rfl) | ⟨item, hitem, rfl⟩) |
    ⟨item, hitem, rfl⟩
  · exact hid
  · exact hevidence.graphId
  · exact hevidence.stateId
  · exact isNative_of_isBaselineId h.baselineId.matched
  · exact h.contextGraph.artifactId
  · exact h.contextQuery.artifactId
  · exact h.contextSelection.artifactId
  · exact h.contextSnapshot.artifactId
  · exact (ho.bindings item hitem).artifactId
  · exact (hchain item hitem).artifactId

/-- Distinct identities among the sources are no more than these. -/
theorem length_le_sources (planId : String) (evidence : NativeEvidence)
    (o : NativeWorkflowObservations) {eventChain items : List NativeArtifactBinding}
    (hdistinct : (items.map (·.artifactId)).Nodup)
    (hsub : ∀ item ∈ items, item ∈ o.bindings ∨ item ∈ eventChain)
    (hsources : (measurementSources planId plan evidence.native.graphId evidence.stateId o
      eventChain).card ≤ maxReferences) : items.length ≤ maxReferences := by
  rw [← List.length_map (f := NativeArtifactBinding.artifactId),
    ← List.toFinset_card_of_nodup hdistinct]
  refine (Finset.card_le_card fun id hid => ?_).trans hsources
  obtain ⟨item, hitem, rfl⟩ := List.mem_map.mp (List.mem_toFinset.mp hid)
  simp only [measurementSources, List.mem_toFinset, List.mem_append, List.mem_map]
  rcases hsub item hitem with hmem | hmem
  · exact .inl (.inr ⟨item, hmem, rfl⟩)
  · exact .inr ⟨item, hmem, rfl⟩

theorem workflowStateContract_deriveState_iff (hplan : planContract plan = .ok ())
    (hid : workflowId "content.plan_id" .integratedPlan planId = .ok ())
    (hevidence : LawfulEvidence evidence) (ho : LawfulObservations o)
    (hchain : LawfulChain priorEvents latestEvent) :
    workflowStateContract
        (deriveState planId plan evidence o priorEvents latestEvent recordedAt) = .ok () ↔
      ProjectionFits planId plan evidence o (priorEvents ++ [latestEvent]) := by
  have h := planContract_eq_ok.mp hplan
  have hsource := isNative_source h (isNative_of_workflowId (workflowId_eq_ok.mp hid).1) hevidence
    ho hchain.bindings
  have hlists : EvidenceFits evidence o ↔
      o.solverVerificationIds.length ≤ maxReferences ∧ o.evidenceIds.length ≤ maxReferences ∧
      o.reviewIds.length ≤ maxReferences ∧ evidence.approvalIds.card ≤ maxReferences :=
    ⟨fun h => ⟨h.1, h.2, h.3, h.4⟩, fun ⟨h₁, h₂, h₃, h₄⟩ => ⟨h₁, h₂, h₃, h₄⟩⟩
  simp only [workflowStateContract, bind_eq_ok, exists_unit, require_eq_ok, forEach_eq_ok,
    Option.mem_toList, nativeId_eq_ok, codeText_eq_ok, sha256Text_eq_ok, sortedNativeIds_eq_ok,
    requiredBindings_eq_ok, orderedRequiredBindings_eq_ok, requiredBinding_eq_ok]
  simp only [deriveState, hid, candidateIdentity_eq_ok, hevidence.tasks_iff, hchain.latest, Sorting.length_listed]
  constructor
  · rintro ⟨-, -, -, -, -, -, -, -, -, hcodes, ⟨hverifications, -⟩, ⟨hevidenceIds, -⟩,
      ⟨hreviews, -⟩, ⟨happrovals, -⟩, hgates, hblockers, -, hmeasurements, -⟩
    obtain ⟨huncovered, hsources⟩ := (measurements_iff h hverifications hsource).mp hmeasurements
    exact ⟨reasonsFit_of_gates h hgates, hcodes, (blockers_iff h hevidence hcodes).mp hblockers,
      huncovered, hlists.mpr ⟨hverifications, hevidenceIds, hreviews, happrovals⟩, hsources⟩
  · intro hfits
    have hambiguities : sortedCodes "content.ambiguities" 0 256
        (stateAmbiguities evidence.native evidence.worktrees) = .ok () := by
      rw [sortedCodes_eq_ok]
      unfold stateAmbiguities
      split_ifs
      · simp only [List.length_singleton, List.pairwise_singleton]
        decide
      · simp
    have hsequence : integerValue "content.scheduler_event_sequence" 0 maxCount
        evidence.native.eventSequence = .ok () := by
      have hbound := hevidence.eventSequence
      rw [integerValue_eq_ok]
      omega
    have hlength := length_le_sources planId evidence o
      hchain.distinct (fun item hitem => .inr hitem) hfits.sources
    have hcount : integerValue "content.transition_count" 1 maxCount
        ((priorEvents.length + 1 : ℕ) : ℤ) = .ok () := by
      simp only [List.length_append, List.length_singleton, maxReferences] at hlength
      rw [integerValue_eq_ok, maxCount]
      omega
    have hbindings := length_le_sources planId evidence o
      (ho.bindingsSorted.imp ne_of_lt) (fun item hitem => .inl hitem) hfits.sources
    refine ⟨ho.handoffId, ho.handoffStatus, ho.handoffPaired, trivial, h.candidate, hevidence.graphId,
      hevidence.stateId, hsequence, hevidence.eventHead, hfits.codes,
      ⟨hfits.lists.verificationIds, Table.pairwise_keys, ho.verifications⟩,
      ⟨hfits.lists.evidenceIds, ho.evidenceSorted, ho.evidence⟩,
      ⟨hfits.lists.reviewIds, ho.reviewsSorted, ho.reviews⟩,
      ⟨hfits.lists.approvalIds, pairwise_lt_listed,
        fun id hid => hevidence.approvals id (Sorting.mem_listed.mp hid)⟩,
      gates_lawful h ho hfits.reasons hfits.lists, (blockers_iff h hevidence hfits.codes).mpr
        hfits.blockers, hambiguities, (measurements_iff h hfits.lists.verificationIds hsource).mpr
        ⟨hfits.uncovered, hfits.sources⟩, ⟨hbindings, ho.bindings, ho.bindingsSorted⟩,
      ⟨hlength, by simp, hchain.bindings, hchain.distinct⟩,
      hchain.bindings latestEvent (by simp), hcount, hchain.events latestEvent (by simp), trivial,
      by simp, by simp, hchain.events⟩

end Projection

/-! ## Two open diagnostics -/

namespace ProjectionSample

def digest : String := String.ofList (List.replicate 64 'A')

def file : ArtifactReference := ⟨"artifact.json", digest⟩

def binding (artifactType artifactId : String) : NativeArtifactBinding :=
  ⟨artifactType, artifactId, file, true⟩

def commit : String := String.ofList (List.replicate 40 'a')

/-- An open diagnostic of the baseline, as a decision of the plan. -/
def diagnostic (subjectId : String) : WorkflowDecision :=
  ⟨"diagnostic", subjectId, .uncertainty, "blocking-diagnostic", [], true⟩

def plan (subjects : List String) : IntegratedPlan where
  intent := binding "development-intent" "M8-INTENT"
  projectId := "sample"
  candidate := ⟨digest, commit, digest⟩
  sensitivity := .repositoryPrivate
  completionProfile := .planOnly
  specification := file
  requirementBaselineId := "RB-0000000000000000"
  requirementBaseline := file
  contextGraph := binding "context-graph" "CTX-GRAPH"
  contextQuery := binding "context-query" "CTX-QUERY"
  contextSelection := binding "context-selection" "CTX-SELECTION"
  contextSnapshot := binding "context-snapshot" "CTX-SNAPSHOT"
  taskGraph := binding "task-graph" "M6-TASK-GRAPH"
  solverRegistry := none
  solverRequests := []
  tasks := []
  protectedEffects := []
  decisions := subjects.map diagnostic
  budget := CompletionSample.budget
  requiredGateIds := ["G1"]
  observationSlots := []
  uiRequired := false
  predecessor := none

theorem toList_commit : commit.toList = List.replicate 40 'a' := String.toList_ofList

theorem isDigest_digest : isDigest digest.toList = true := isDigest_replicate (by decide)

theorem lawfulCandidate : LawfulCandidate ⟨digest, commit, digest⟩ := by
  have hchars : ∀ c ∈ commit.toList, c = 'a' := fun c hc =>
    List.eq_of_mem_replicate (toList_commit ▸ hc)
  have hlength : commit.toList.length = 40 := by rw [toList_commit, List.length_replicate]
  refine ⟨⟨?_, hlength.le, secretFree_of_code fun c hc => ?_⟩, isDigest_digest, isDigest_digest⟩
  · simp only [isCommit, hlength, decide_true, Bool.true_and, List.all_eq_true]
    intro c hc
    rw [hchars c hc]
    decide
  · rw [hchars c hc]
    decide

theorem lawfulReference : LawfulReference file := by
  intro field
  simp only [referenceContract, bind_eq_ok, exists_unit, sha256Text_eq_ok]
  refine ⟨?_, isDigest_digest⟩
  rw [safeRelativePath_eq_ok]
  refine ⟨(stringValue_of_legible ?_).mpr ⟨?_, ?_⟩, ?_, ?_, ?_⟩
  all_goals decide

theorem lawfulBinding {artifactType artifactId : String}
    (htype : AcceptedText 64 isNativeType artifactType) (hid : IsNative artifactId) :
    LawfulBinding (binding artifactType artifactId) :=
  ⟨htype, hid, lawfulReference, rfl⟩

theorem lawfulDecision {subjectId : String} (h : IsNative subjectId) :
    LawfulDecision (diagnostic subjectId) :=
  ⟨(by decide : isCode "blocking-diagnostic" = true),
    (by decide : "blocking-diagnostic" ∈ uncertaintyReasonCodes), fun _ => rfl,
    (by decide : isCode "diagnostic" = true), h, lawfulTexts_nil⟩

theorem lawfulBudget : LawfulBudget CompletionSample.budget := by
  intro field
  simp only [budgetContract, bind_eq_ok, exists_unit, require_eq_ok, forEach_eq_ok,
    integerValue_eq_ok]
  simp [CompletionSample.budget, maxCount]

theorem lawfulPlan {subjects : List String} (hsubjects : ∀ id ∈ subjects, IsNative id)
    (hfew : subjects.length ≤ maxDecisions)
    (hsorted : (subjects.map diagnostic).Pairwise fun a b => decisionKey a ≤ decisionKey b)
    (hdistinct : (subjects.map diagnostic).Nodup) : LawfulPlan (plan subjects) where
  projectId := (⟨by decide, by decide, by decide⟩ : AcceptedText 64
    (fun text => isRun isLower isCodeCharacter 0 63 text.toList) "sample")
  tasks := ⟨Nat.zero_le _, by simp [plan], by simp [plan], by simp [plan], by simp [plan]⟩
  effects := ⟨Nat.zero_le _, by simp [plan], by simp [plan]⟩
  decisions := ⟨by simpa [plan] using hfew,
    List.forall_mem_map.mpr fun id hid => lawfulDecision (hsubjects id hid), hsorted, hdistinct⟩
  solverRegistry := by simp [plan]
  solverRequests := by simp [plan]
  solverBounded := by simp [plan]
  solverSorted := by simp [plan]
  solverPaired := fun _ => rfl
  predecessor := by simp [plan]
  effectTasks := by simp [plan]
  intent := lawfulBinding ⟨by decide, by decide, by decide⟩ ⟨by decide, by decide, by decide⟩
  candidate := lawfulCandidate
  specification := lawfulReference
  baselineId := (⟨by decide, by decide, by decide⟩ :
    AcceptedText 19 isBaselineId "RB-0000000000000000")
  baseline := lawfulReference
  contextGraph := lawfulBinding ⟨by decide, by decide, by decide⟩ ⟨by decide, by decide, by decide⟩
  contextQuery := lawfulBinding ⟨by decide, by decide, by decide⟩ ⟨by decide, by decide, by decide⟩
  contextSelection :=
    lawfulBinding ⟨by decide, by decide, by decide⟩ ⟨by decide, by decide, by decide⟩
  contextSnapshot :=
    lawfulBinding ⟨by decide, by decide, by decide⟩ ⟨by decide, by decide, by decide⟩
  taskGraph := lawfulBinding ⟨by decide, by decide, by decide⟩ ⟨by decide, by decide, by decide⟩
  budget := lawfulBudget
  gateIds := ⟨by simp [plan], by simp [plan], by simp [plan], by
    simp only [plan, List.mem_singleton, forall_eq]
    exact ⟨by decide, by decide, by decide⟩⟩
  observationSlots := lawfulTexts_nil
  intentType := rfl
  profile := rfl
  userInterface := by simp [plan]
  sensitivity := by simp [plan]

def planId : String := WorkflowArtifactType.integratedPlan.mark ++ digest

def event : NativeArtifactBinding :=
  binding "workflow-event" (WorkflowArtifactType.workflowEvent.mark ++ digest)

theorem lawfulChain : LawfulChain [] event where
  bindings := by
    simp only [List.nil_append, List.mem_singleton, forall_eq]
    exact lawfulBinding ⟨by decide, by decide, by decide⟩
      (isNative_of_workflowId (workflowId_eq_ok.mp (workflowId_of_digest ""
        .workflowEvent isDigest_digest)).1)
  events := by simp [event, binding]
  distinct := by simp
  latest := workflowId_of_digest _ _ isDigest_digest

def evidence : NativeEvidence where
  native :=
    { graphId := "M6-TASK-GRAPH"
      candidate := ⟨digest, commit, digest⟩
      tasks := []
      readyOrder := []
      leaseIds := []
      messageIds := []
      budgetLedgerId := "M6-BUDGET-LEDGER"
      worktreeLeaseIds := []
      eventSequence := 1
      eventHeadSha256 := digest }
  stateId := "M6-SCHEDULER-STATE"
  approvalIds := ∅
  worktrees := []
  measured :=
    { schedulerEvents := []
      usedBudget := fun _ => 0
      requiredContext := ∅
      snapshotNodes := ∅
      contextQuality := ⟨0, 0, 0, 0, 1024, 0⟩
      openDiagnosticCount := 2
      workflowCauses := [.planAdopted] }

theorem lawfulEvidence : LawfulEvidence evidence where
  graphId := ⟨by decide, by decide, by decide⟩
  stateId := ⟨by decide, by decide, by decide⟩
  eventSequence := by decide
  eventHead := isDigest_digest
  tasksBounded := by decide
  tasksSorted := by simp [evidence]
  taskId := by simp [evidence]
  attempt := by simp [evidence]
  fence := by simp [evidence]
  blockers := by simp [evidence]
  approvals := by simp [evidence]

/-- The files of a plan that only plans: no result was accepted. -/
def surroundings : ObservationSurroundings where
  baselineUnchanged := true
  loads _ := false
  taskAgentResult _ := none
  skillCapabilities _ := none
  solverArtifact _ := none
  independentReview _ := none
  automatedHandoff _ := none
  integrationRecord _ := none
  evidenceLedger _ := none
  implementationGate _ := false
  reviewGate _ := false
  releaseGate _ _ _ _ := (false, digest)

theorem loaderGrammar : LoaderGrammar surroundings where
  agentResult h := by cases h
  skills h := by cases h
  solverResult h := by cases h
  solverVerification h := by cases h
  review h := by cases h
  evidence h := by cases h
  releaseGate _ _ _ _ := isDigest_digest

theorem observed {subjects : List String} : deriveNativeObservations surroundings (plan subjects)
    CompletionSample.graph evidence.native [] = .ok .none := rfl

end ProjectionSample

end Sdaqf
