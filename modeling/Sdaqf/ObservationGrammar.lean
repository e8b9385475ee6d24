import Sdaqf.ContractLaws
import Sdaqf.ObservationLaws

/-!
# The grammar of the observations

The loaders check what they read, so the references and the identities that the walk over the
results adopts meet the contracts of a state: every binding is lawful, and every listed identity is
a native one.
-/

namespace Sdaqf

open Guard

/-- What the validators of the loaders check of what they return. -/
structure LoaderGrammar (S : ObservationSurroundings) : Prop where
  agentResult {message : MailboxMessage} {result : AgentResult} {reference : ArtifactReference} :
    S.taskAgentResult message = some (result, reference) → LawfulReference reference
  skills {capabilities : List String} {skills : List ResolvedSkill} :
    S.skillCapabilities capabilities = some skills → ∀ skill ∈ skills,
      LawfulReference skill.reference ∧ isDigest skill.digest.toList = true
  solverResult {reference : ArtifactReference} {resultId : String} :
    S.solverArtifact reference = some (.result resultId) → IsNative resultId
  solverVerification {reference : ArtifactReference} {verificationId : String}
    {value : SolverVerification} :
    S.solverArtifact reference = some (.verification verificationId value) →
      IsNative verificationId
  review {reference : ArtifactReference} {value : IndependentReview} :
    S.independentReview reference = some value → IsNative value.reviewId
  evidence {reference : ArtifactReference} {ledger : EvidenceLedger} :
    S.evidenceLedger reference = some ledger → ∀ item ∈ ledger.evidence, IsNative item.evidenceId
  releaseGate (ledger : EvidenceLedger) (review : IndependentReview) (manifest : ProjectManifest)
    (uiValidation : UiValidation) :
    isDigest (S.releaseGate ledger review manifest uiValidation).2.toList = true

/-- The references of the accepted messages met the contract of a message. -/
def LawfulReferences (accepted : List (String × MailboxMessage)) : Prop :=
  ∀ message ∈ accepted.map (·.2), ∀ reference ∈ message.evidenceRefs, LawfulReference reference

/-- What the walk over the results keeps of the grammar. -/
structure LawfulProgress (progress : ObservationProgress) : Prop where
  bindings : ∀ (k : String) binding, progress.bindings[k]? = some binding →
    binding.artifactId = k ∧ LawfulBinding binding
  verifications : ∀ (k : String) value, progress.solverVerifications[k]? = some value → IsNative k
  evidence : ∀ ledger ∈ progress.ledgers, ∀ item ∈ ledger.evidence, IsNative item.evidenceId
  reviews : ∀ review ∈ progress.reviews, IsNative review.reviewId
  handoff : ∀ handoff ∈ progress.handoff, IsNative handoff.1

/-- What the observations of a plan promise to the contract of a state. -/
structure LawfulObservations (o : NativeWorkflowObservations) : Prop where
  bindings : ∀ item ∈ o.bindings, LawfulBinding item
  bindingsSorted : (o.bindings.map (·.artifactId)).Pairwise (· < ·)
  verifications : ∀ id ∈ o.solverVerificationIds, IsNative id
  evidence : ∀ id ∈ o.evidenceIds, IsNative id
  evidenceSorted : o.evidenceIds.Pairwise (· < ·)
  reviews : ∀ id ∈ o.reviewIds, IsNative id
  reviewsSorted : o.reviewIds.Pairwise (· < ·)
  handoffId : ∀ id ∈ o.handoffId, IsNative id
  handoffStatus : ∀ status ∈ o.handoffStatus, isCode status = true
  handoffPaired : o.handoffId = none ↔ o.handoffStatus = none
  g4Results : ∀ id ∈ o.g4ResultIds, IsNative id
  g4Bounded : o.g4ResultIds.length ≤ 1

variable {S : ObservationSurroundings} {plan : IntegratedPlan} {graph : TaskGraph}
  {native : SchedulerState} {accepted : List (String × MailboxMessage)}
  {o : NativeWorkflowObservations} {progress progress' : ObservationProgress}

/-! ## The steps of the walk -/

theorem LawfulProgress.start : LawfulProgress {} where
  bindings k _ h := by cases h.symm.trans (Table.getElem?_empty k)
  verifications k _ h := by cases h.symm.trans (Table.getElem?_empty k)
  evidence := by simp
  reviews := by simp
  handoff := by simp

theorem LawfulReference.digest {reference : ArtifactReference} (h : LawfulReference reference) :
    isDigest reference.sha256.toList = true := by
  have hreference := h ""
  simp only [referenceContract, bind_eq_ok, exists_unit, sha256Text_eq_ok] at hreference
  exact hreference.2

theorem isNative_of_reference {reference : ArtifactReference} (h : LawfulReference reference)
    (mark : String) (hmark : isNativeMark mark.toList = true) :
    IsNative (mark ++ reference.sha256) :=
  isNative_of_digest hmark h.digest

/-- A binding that is written under its own identity. -/
theorem LawfulProgress.bind (h : LawfulProgress progress) (binding : NativeArtifactBinding)
    (hbinding : LawfulBinding binding) :
    LawfulProgress
      { progress with bindings := progress.bindings.insert binding.artifactId binding } where
  bindings k other hk := by
    simp only [Table.getElem?_insert] at hk
    split_ifs at hk with heq
    · rw [Option.some.injEq] at hk
      exact ⟨hk ▸ heq, hk ▸ hbinding⟩
    · exact h.bindings k other hk
  verifications := h.verifications
  evidence := h.evidence
  reviews := h.reviews
  handoff := h.handoff

/-- The types of the artifacts that a walk binds. -/
def observedTypes : List String :=
  ["agent-result", "skill", "solver-result", "solver-verification", "independent-review",
    "automated-handoff", "release-candidate", "ui-validation", "project-manifest",
    "evidence-ledger"]

theorem lawfulBinding_of_observed {artifactType artifactId : String}
    {reference : ArtifactReference} (htype : artifactType ∈ observedTypes)
    (hid : IsNative artifactId) (hreference : LawfulReference reference) :
    LawfulBinding ⟨artifactType, artifactId, reference, true⟩ := by
  have haccepted : AcceptedText 64 isNativeType artifactType := by
    simp only [observedTypes, List.mem_cons, List.not_mem_nil, or_false] at htype
    rcases htype with rfl | rfl | rfl | rfl | rfl | rfl | rfl | rfl | rfl | rfl <;>
      exact ⟨by decide, by decide, secretFree_of_code (List.all_eq_true.mp (by decide))⟩
  exact ⟨haccepted, hid, hreference, rfl⟩

theorem LawfulProgress.agentResult (hS : LoaderGrammar S) {message : MailboxMessage}
    (hstep : adoptAgentResult S graph progress message = .ok progress')
    (h : LawfulProgress progress) : LawfulProgress progress' := by
  unfold adoptAgentResult at hstep
  simp only [bind_eq_ok, exists_unit, fromOption_eq_ok, require_eq_ok, pure_eq_ok] at hstep
  obtain ⟨task, -, ⟨result, reference⟩, hresult, -, -, skills, hskills, rfl⟩ := hstep
  have hlaw := hS.skills hskills
  have hreference := hS.agentResult hresult
  have hfirst := h.bind ⟨"agent-result", "M2-AGENT-RESULT-" ++ reference.sha256, reference, true⟩
    (lawfulBinding_of_observed (by decide) (isNative_of_reference hreference _ (by decide)) hreference)
  -- The Agent Result is bound first, and then every Skill of the task.
  have hall : ∀ (skills : List ResolvedSkill) (bindings : Table NativeArtifactBinding),
      (∀ skill ∈ skills, LawfulReference skill.reference ∧ isDigest skill.digest.toList = true) →
      LawfulProgress { progress with bindings := bindings } →
      LawfulProgress { progress with bindings := skills.foldl (fun bindings skill =>
        bindings.insert ("M2-SKILL-" ++ skill.digest)
          ⟨"skill", "M2-SKILL-" ++ skill.digest, skill.reference, true⟩) bindings } := by
    intro skills
    induction skills with
    | nil => exact fun _ _ hprogress => hprogress
    | cons skill skills ih =>
      intro bindings hskills hprogress
      obtain ⟨hskill, hdigest⟩ := hskills skill List.mem_cons_self
      exact ih _ (fun other hother => hskills other (List.mem_cons_of_mem _ hother))
        (hprogress.bind ⟨"skill", "M2-SKILL-" ++ skill.digest, skill.reference, true⟩
          (lawfulBinding_of_observed (by decide) (isNative_of_digest (by decide) hdigest) hskill))
  have hlast := hall skills _ hlaw hfirst
  exact ⟨hlast.bindings, hlast.verifications, hlast.evidence, hlast.reviews, hlast.handoff⟩

theorem LawfulProgress.adopted (hS : LoaderGrammar S) {task : SchedulerTask}
    {reference : ArtifactReference} {artifactType identifier : String}
    (hreference : LawfulReference reference)
    (hstep : Adopted S plan task reference progress progress' artifactType identifier)
    (h : LawfulProgress progress) : LawfulProgress progress' ∧
      LawfulBinding ⟨artifactType, identifier, reference, true⟩ := by
  cases hstep with
  | solverResult loaded =>
    exact ⟨h, lawfulBinding_of_observed (by decide) (hS.solverResult loaded) hreference⟩
  | solverVerification loaded adoptable =>
    refine ⟨⟨h.bindings, fun k value hk => ?_, h.evidence, h.reviews, h.handoff⟩,
      lawfulBinding_of_observed (by decide) (hS.solverVerification loaded) hreference⟩
    rw [Table.getElem?_insert] at hk
    split_ifs at hk with heq
    · exact heq ▸ hS.solverVerification loaded
    · exact h.verifications k value hk
  | review loaded =>
    refine ⟨⟨h.bindings, h.verifications, h.evidence, fun other hother => ?_, h.handoff⟩,
      lawfulBinding_of_observed (by decide) (hS.review loaded) hreference⟩
    rcases List.mem_append.mp hother with hother | hother
    · exact h.reviews other hother
    · exact List.mem_singleton.mp hother ▸ hS.review loaded
  | handoff loaded =>
    have hid := isNative_of_reference hreference "M3-HANDOFF-" (by decide)
    refine ⟨⟨h.bindings, h.verifications, h.evidence, h.reviews, fun other hother => ?_⟩,
      lawfulBinding_of_observed (by decide) hid hreference⟩
    rw [Option.mem_some_iff] at hother
    exact hother ▸ hid
  | releaseCandidate =>
    exact ⟨⟨h.bindings, h.verifications, h.evidence, h.reviews, h.handoff⟩,
      lawfulBinding_of_observed (by decide) (isNative_of_reference hreference _ (by decide))
        hreference⟩
  | uiValidation =>
    exact ⟨⟨h.bindings, h.verifications, h.evidence, h.reviews, h.handoff⟩,
      lawfulBinding_of_observed (by decide) (isNative_of_reference hreference _ (by decide))
        hreference⟩
  | projectManifest =>
    exact ⟨⟨h.bindings, h.verifications, h.evidence, h.reviews, h.handoff⟩,
      lawfulBinding_of_observed (by decide) (isNative_of_reference hreference _ (by decide))
        hreference⟩
  | ledger loaded =>
    refine ⟨⟨h.bindings, h.verifications, fun other hother => ?_, h.reviews, h.handoff⟩,
      lawfulBinding_of_observed (by decide) (isNative_of_reference hreference _ (by decide))
        hreference⟩
    rcases List.mem_append.mp hother with hother | hother
    · exact h.evidence other hother
    · exact List.mem_singleton.mp hother ▸ hS.evidence loaded

theorem LawfulProgress.evidenceStep (hS : LoaderGrammar S) {task : SchedulerTask}
    {review : Option ArtifactReference} {reference : ArtifactReference}
    (hreference : LawfulReference reference)
    (hstep : adoptEvidence S plan task review progress reference = .ok progress')
    (h : LawfulProgress progress) : LawfulProgress progress' := by
  rcases adoptEvidence_adopted hstep with rfl | ⟨adopted, artifactType, identifier, hadopted, -,
    rfl⟩
  · exact h
  · obtain ⟨hprogress, hbinding⟩ := h.adopted hS hreference hadopted
    exact hprogress.bind _ hbinding

/-! ## The observations -/

/-- A handoff status is a stable code. -/
theorem isCode_handoffStatus (status : HandoffStatus) : isCode status.value = true := by
  cases status <;> decide

theorem pairwise_lt_listed {s : Finset String} : (Sorting.listed s).Pairwise (· < ·) := by
  rw [Sorting.listed_eq_sort]
  exact (Finset.sortedLT_sort s).pairwise

theorem LawfulProgress.observations (hS : LoaderGrammar S) (h : LawfulProgress progress) :
    LawfulObservations (concludeObservations S progress) where
  bindings item hitem := by
    obtain ⟨k, hk⟩ := Table.mem_rows.mp hitem
    exact (h.bindings k item hk).2
  bindingsSorted := List.pairwise_map.mpr
    (Table.pairwise_rows fun k binding hk => (h.bindings k binding hk).1)
  verifications id hid := by
    obtain ⟨value, hvalue⟩ := Option.isSome_iff_exists.mp (Table.mem_keys.mp hid)
    exact h.verifications id value hvalue
  evidence id hid := by
    simp only [concludeObservations, Sorting.mem_listed, List.mem_toFinset, List.mem_flatMap,
      List.mem_map] at hid
    obtain ⟨ledger, hledger, item, hitem, rfl⟩ := hid
    exact h.evidence ledger hledger item hitem
  evidenceSorted := by
    simp only [concludeObservations]
    exact pairwise_lt_listed
  reviews id hid := by
    simp only [concludeObservations, Sorting.mem_listed, List.mem_toFinset, List.mem_map] at hid
    obtain ⟨review, hreview, rfl⟩ := hid
    exact h.reviews review hreview
  reviewsSorted := by
    simp only [concludeObservations]
    exact pairwise_lt_listed
  handoffId id hid := by
    obtain ⟨handoff, hhandoff, rfl⟩ := Option.map_eq_some_iff.mp hid
    exact h.handoff handoff hhandoff
  handoffStatus status hstatus := by
    obtain ⟨handoff, -, rfl⟩ := Option.map_eq_some_iff.mp hstatus
    exact isCode_handoffStatus _
  handoffPaired := by simp only [concludeObservations, Option.map_eq_none_iff]
  g4Results id hid := by
    simp only [concludeObservations, evaluateRelease] at hid
    split at hid
    · split_ifs at hid
      · rw [List.mem_singleton.mp hid]
        exact isNative_of_digest (by decide) (hS.releaseGate _ _ _ _)
      · simp at hid
    · simp at hid
  g4Bounded := by
    simp only [concludeObservations, evaluateRelease]
    split
    · split_ifs <;> simp
    · simp

/-- The observations of a plan that only plans are empty. -/
theorem LawfulObservations.none : LawfulObservations .none where
  bindings := by simp [NativeWorkflowObservations.none]
  bindingsSorted := .nil
  verifications := by
    simp [NativeWorkflowObservations.none, NativeWorkflowObservations.solverVerificationIds]
  evidence := by simp [NativeWorkflowObservations.none]
  evidenceSorted := .nil
  reviews := by simp [NativeWorkflowObservations.none]
  reviewsSorted := .nil
  handoffId := by simp [NativeWorkflowObservations.none]
  handoffStatus := by simp [NativeWorkflowObservations.none]
  handoffPaired := Iff.rfl
  g4Results := by simp [NativeWorkflowObservations.none]
  g4Bounded := Nat.zero_le _

/-- What the runtime observes meets the grammar of a state. -/
theorem deriveNativeObservations_lawful (hS : LoaderGrammar S) (haccepted : LawfulReferences accepted)
    (h : deriveNativeObservations S plan graph native accepted = .ok o) : LawfulObservations o := by
  rcases deriveNativeObservations_invariant LawfulProgress .start
    (fun _ _ _ _ hstep hprogress => hprogress.agentResult hS hstep)
    (fun message hmessage _ _ _ _ reference hreference hstep hprogress =>
      hprogress.evidenceStep hS (haccepted message hmessage reference hreference) hstep) h with
    rfl | ⟨progress, hprogress, rfl⟩
  · exact .none
  · exact hprogress.observations hS

end Sdaqf
