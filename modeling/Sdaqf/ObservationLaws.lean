import Sdaqf.Observations

/-!
# What the walk over the results keeps

The walk adopts one Agent Result or one evidence reference at a time. What each of these steps keeps
holds of every observation that was derived.
-/

namespace Sdaqf

open Guard

variable {S : ObservationSurroundings} {plan : IntegratedPlan} {graph : TaskGraph}
  {native : SchedulerState} {accepted : List (String × MailboxMessage)}
  {o : NativeWorkflowObservations}

/-! ## The walk -/

/-- The results that are walked over were accepted. -/
theorem mem_accepted {message : MailboxMessage}
    (h : message ∈ (completedResults native accepted).rows) :
    message ∈ accepted.map (·.2) := by
  obtain ⟨k, hk⟩ := Table.mem_rows.mp h
  have hfold : ∀ (items : List (String × MailboxMessage)) (table : Table MailboxMessage),
      (items.foldl (fun table item => table.insert item.1 item.2) table)[k]? = some message →
        message ∈ items.map (·.2) ∨ table[k]? = some message := by
    intro items
    induction items with
    | nil => exact fun table h => .inr h
    | cons item items ih =>
      intro table h
      rcases ih _ h with h | h
      · exact .inl (List.mem_cons_of_mem _ h)
      · rw [Table.getElem?_insert] at h
        split_ifs at h
        · rw [Option.some.injEq] at h
          exact .inl (h ▸ List.mem_cons_self)
        · exact .inr h
  rcases hfold _ _ hk with h | h
  · obtain ⟨item, hitem, rfl⟩ := List.mem_map.mp h
    exact List.mem_map_of_mem (List.mem_filter.mp hitem).1
  · cases h.symm.trans (Table.getElem?_empty k)

/-- What every step of the walk keeps holds of the progress that the observations conclude. -/
theorem deriveNativeObservations_invariant (inv : ObservationProgress → Prop) (hstart : inv {})
    (hagent : ∀ message ∈ accepted.map (·.2), ∀ progress progress',
      adoptAgentResult S graph progress message = .ok progress' → inv progress → inv progress')
    (hevidence : ∀ message ∈ accepted.map (·.2), ∀ task review progress progress',
      ∀ reference ∈ message.evidenceRefs,
      adoptEvidence S plan task review progress reference = .ok progress' →
        inv progress → inv progress')
    (h : deriveNativeObservations S plan graph native accepted = .ok o) :
    o = .none ∨ ∃ progress, inv progress ∧ o = concludeObservations S progress := by
  unfold deriveNativeObservations at h
  simp only [bind_eq_ok, exists_unit, require_eq_ok] at h
  obtain ⟨-, h⟩ := h
  split_ifs at h with honly
  · rw [pure_eq_ok] at h
    exact .inl h.symm
  · simp only [bind_eq_ok, pure_eq_ok] at h
    obtain ⟨wrapped, hwrapped, adopted, hadopted, rfl⟩ := h
    refine .inr ⟨adopted, ?_, rfl⟩
    have hfirst : inv wrapped := foldlM_invariant inv
      (fun progress message progress' hmem hinv hstep =>
        hagent message (mem_accepted hmem) progress progress' hstep hinv) hstart hwrapped
    refine foldlM_invariant inv (fun progress message progress' hmem hinv hstep => ?_) hfirst
      hadopted
    unfold adoptResult at hstep
    simp only [bind_eq_ok, fromOption_eq_ok, exists_unit, require_eq_ok, pure_eq_ok] at hstep
    obtain ⟨task, -, review, -, result, hresult, -, rfl⟩ := hstep
    exact foldlM_invariant inv (fun progress reference progress' href hinv hstep =>
      hevidence message (mem_accepted hmem) task review progress progress' reference href hstep
        hinv) hinv hresult

/-! ## One step -/

/-- What the adoption of one artifact can do: what was loaded, what it adds to the progress, and the
type and the identity it is bound under. -/
inductive Adopted (S : ObservationSurroundings) (plan : IntegratedPlan) (task : SchedulerTask)
    (reference : ArtifactReference) (progress : ObservationProgress) :
    ObservationProgress → String → String → Prop
  | solverResult {resultId : String}
      (loaded : S.solverArtifact reference = some (.result resultId)) :
      Adopted S plan task reference progress progress "solver-result" resultId
  | solverVerification {verificationId : String} {value : SolverVerification}
      (loaded : S.solverArtifact reference = some (.verification verificationId value))
      (adoptable : value.adoptionAllowed = true ∧ value.candidate = plan.candidate ∧
        value.graphId = plan.taskGraph.artifactId ∧ value.taskId = task.taskId) :
      Adopted S plan task reference progress
        { progress with solverVerifications :=
          progress.solverVerifications.insert verificationId value }
        "solver-verification" verificationId
  | review {value : IndependentReview} (loaded : S.independentReview reference = some value) :
      Adopted S plan task reference progress
        { progress with reviews := progress.reviews ++ [value] } "independent-review" value.reviewId
  | handoff {value : AutomatedHandoff} (loaded : S.automatedHandoff reference = some value) :
      Adopted S plan task reference progress
        { progress with handoff := some ("M3-HANDOFF-" ++ reference.sha256, value) }
        "automated-handoff" ("M3-HANDOFF-" ++ reference.sha256)
  | releaseCandidate :
      Adopted S plan task reference progress
        { progress with
          releaseCandidate := true
          releaseCandidateIds := insert ("M3-RELEASE-CANDIDATE-" ++ reference.sha256)
            progress.releaseCandidateIds }
        "release-candidate" ("M3-RELEASE-CANDIDATE-" ++ reference.sha256)
  | uiValidation {value : UiValidation} :
      Adopted S plan task reference progress
        { progress with
          uiValidation := some value
          uiObservationIds := insert ("M3-UI-VALIDATION-" ++ reference.sha256)
            progress.uiObservationIds }
        "ui-validation" ("M3-UI-VALIDATION-" ++ reference.sha256)
  | projectManifest {value : ProjectManifest} :
      Adopted S plan task reference progress
        { progress with
          manifest := some value
          uiObservationIds := insert ("M3-PROJECT-MANIFEST-" ++ reference.sha256)
            progress.uiObservationIds }
        "project-manifest" ("M3-PROJECT-MANIFEST-" ++ reference.sha256)
  | ledger {value : EvidenceLedger} (loaded : S.evidenceLedger reference = some value) :
      Adopted S plan task reference progress
        { progress with ledgers := progress.ledgers ++ [value] }
        "evidence-ledger" ("M3-EVIDENCE-LEDGER-" ++ reference.sha256)

variable {task : SchedulerTask} {reference : ArtifactReference}
  {progress progress' : ObservationProgress} {artifactType identifier : String}

theorem adoptSolver_adopted
    (h : adoptSolver S plan progress task reference = .ok (progress', artifactType, identifier)) :
    Adopted S plan task reference progress progress' artifactType identifier := by
  unfold adoptSolver at h
  simp only [bind_eq_ok, fromOption_eq_ok] at h
  obtain ⟨artifact, hartifact, h⟩ := h
  cases artifact with
  | result resultId =>
    simp only [pure_eq_ok, Prod.mk.injEq] at h
    obtain ⟨rfl, rfl, rfl⟩ := h
    exact .solverResult hartifact
  | verification verificationId value =>
    simp only [bind_eq_ok, exists_unit, require_eq_ok, pure_eq_ok, Prod.mk.injEq] at h
    obtain ⟨hadoptable, rfl, rfl, rfl⟩ := h
    exact .solverVerification hartifact hadoptable
  | other => cases h

theorem adoptReview_adopted
    (h : adoptReview S plan progress task reference = .ok (progress', artifactType, identifier)) :
    Adopted S plan task reference progress progress' artifactType identifier := by
  unfold adoptReview at h
  simp only [bind_eq_ok, exists_unit, fromOption_eq_ok, require_eq_ok, pure_eq_ok,
    Prod.mk.injEq] at h
  obtain ⟨review, hreview, -, targets, -, reviewer, -, -, rfl, rfl, rfl⟩ := h
  exact .review hreview

theorem adoptHandoff_adopted
    (h : adoptHandoff S plan progress reference = .ok (progress', artifactType, identifier)) :
    Adopted S plan task reference progress progress' artifactType identifier := by
  unfold adoptHandoff at h
  simp only [bind_eq_ok, exists_unit, fromOption_eq_ok, require_eq_ok, pure_eq_ok,
    Prod.mk.injEq] at h
  obtain ⟨handoff, hhandoff, -, -, rfl, rfl, rfl⟩ := h
  exact .handoff hhandoff

theorem adoptIntegration_adopted
    (h : adoptIntegration S plan progress reference = .ok (progress', artifactType, identifier)) :
    Adopted S plan task reference progress progress' artifactType identifier := by
  unfold adoptIntegration at h
  simp only [bind_eq_ok, fromOption_eq_ok] at h
  obtain ⟨record, -, h⟩ := h
  cases record with
  | releaseCandidate =>
    simp only [bind_eq_ok, exists_unit, require_eq_ok, pure_eq_ok, Prod.mk.injEq] at h
    obtain ⟨-, rfl, rfl, rfl⟩ := h
    exact .releaseCandidate
  | uiValidation value =>
    simp only [bind_eq_ok, exists_unit, require_eq_ok, pure_eq_ok, Prod.mk.injEq] at h
    obtain ⟨-, -, rfl, rfl, rfl⟩ := h
    exact .uiValidation
  | projectManifest value =>
    simp only [bind_eq_ok, exists_unit, require_eq_ok, pure_eq_ok, Prod.mk.injEq] at h
    obtain ⟨-, -, rfl, rfl, rfl⟩ := h
    exact .projectManifest
  | unsupported => cases h

theorem adoptLedger_adopted
    (h : adoptLedger S plan progress reference = .ok (progress', artifactType, identifier)) :
    Adopted S plan task reference progress progress' artifactType identifier := by
  unfold adoptLedger at h
  simp only [bind_eq_ok, exists_unit, fromOption_eq_ok, require_eq_ok, pure_eq_ok,
    Prod.mk.injEq] at h
  obtain ⟨ledger, hledger, -, rfl, rfl, rfl⟩ := h
  exact .ledger hledger

theorem adoptArtifact_adopted
    (h : adoptArtifact S plan task progress reference = .ok (progress', artifactType, identifier)) :
    Adopted S plan task reference progress progress' artifactType identifier := by
  unfold adoptArtifact at h
  split at h
  · exact adoptSolver_adopted h
  · exact adoptReview_adopted h
  · exact adoptHandoff_adopted h
  · exact adoptIntegration_adopted h
  · exact adoptLedger_adopted h

/-- An evidence reference leaves the progress as it is, or adopts one artifact under an identity
that is new and binds it. -/
theorem adoptEvidence_adopted {review : Option ArtifactReference}
    (h : adoptEvidence S plan task review progress reference = .ok progress') :
    progress' = progress ∨ ∃ adopted artifactType identifier,
      Adopted S plan task reference progress adopted artifactType identifier ∧
      identifier ∉ adopted.bindings ∧
      progress' =
        { adopted with
          bindings := adopted.bindings.insert identifier
            ⟨artifactType, identifier, reference, true⟩ } := by
  unfold adoptEvidence at h
  simp only [bind_eq_ok, exists_unit, require_eq_ok] at h
  obtain ⟨-, h⟩ := h
  split_ifs at h
  · rw [pure_eq_ok] at h
    exact .inl h.symm
  · simp only [bind_eq_ok, exists_unit, require_eq_ok, pure_eq_ok] at h
    obtain ⟨⟨adopted, artifactType, identifier⟩, hadopted, hnew, rfl⟩ := h
    exact .inr ⟨adopted, artifactType, identifier, adoptArtifact_adopted hadopted, hnew, rfl⟩

/-- An adoption leaves the bindings and the Agent Results alone. -/
theorem Adopted.bindings (h : Adopted S plan task reference progress progress' artifactType
    identifier) : progress'.bindings = progress.bindings := by
  cases h <;> rfl

/-! ## The solver verifications -/

/-- A verification that may be adopted for a plan. -/
structure AdoptableFor (plan : IntegratedPlan) (value : SolverVerification) : Prop where
  allowed : value.adoptionAllowed = true
  candidate : value.candidate = plan.candidate
  graphId : value.graphId = plan.taskGraph.artifactId

/-- Every adopted verification is adoptable for the plan. -/
theorem deriveNativeObservations_adoptable
    (h : deriveNativeObservations S plan graph native accepted = .ok o) {verificationId : String}
    {value : SolverVerification} (hv : o.solverVerifications[verificationId]? = some value) :
    AdoptableFor plan value := by
  have hwalk := deriveNativeObservations_invariant
    (fun progress => ∀ (k : String) v, progress.solverVerifications[k]? = some v →
      AdoptableFor plan v) ?_ ?_ ?_ h
  · rcases hwalk with rfl | ⟨progress, hinv, rfl⟩
    · cases hv.symm.trans (Table.getElem?_empty verificationId)
    · exact hinv verificationId value hv
  · intro k v hk
    cases hk.symm.trans (Table.getElem?_empty k)
  · intro message _ progress progress' hstep hinv
    unfold adoptAgentResult at hstep
    simp only [bind_eq_ok, exists_unit, fromOption_eq_ok, require_eq_ok, pure_eq_ok] at hstep
    obtain ⟨task, -, ⟨result, reference⟩, -, -, -, skills, -, rfl⟩ := hstep
    exact hinv
  · intro message _ task review progress progress' reference _ hstep hinv k v hk
    rcases adoptEvidence_adopted hstep with rfl | ⟨adopted, artifactType, identifier, hadopted,
      -, rfl⟩
    · exact hinv k v hk
    · cases hadopted with
      | solverVerification loaded adoptable =>
        rw [Table.getElem?_insert] at hk
        split_ifs at hk
        · rw [Option.some.injEq] at hk
          subst hk
          exact ⟨adoptable.1, adoptable.2.1, adoptable.2.2.1⟩
        · exact hinv k v hk
      | _ => exact hinv k v hk

/-- A handoff is observed with its status. -/
theorem deriveNativeObservations_handoff
    (h : deriveNativeObservations S plan graph native accepted = .ok o) :
    o.handoffId = none ↔ o.handoffStatus = none := by
  rcases deriveNativeObservations_invariant (fun _ => True) trivial (fun _ _ _ _ _ _ => trivial)
    (fun _ _ _ _ _ _ _ _ _ _ => trivial) h with rfl | ⟨progress, -, rfl⟩
  · exact Iff.rfl
  · simp only [concludeObservations, Option.map_eq_none_iff]

end Sdaqf
