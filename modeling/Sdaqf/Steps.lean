import Sdaqf.Lifecycle

/-!
# The steps of the replay

What the replay accepts, said once. `ValidEvidence` collects what validated evidence satisfies, and
`step_of_accepted` says that an accepted event either leaves every task alone or is one move of the
task it is about, with its lease and worktree rows.
-/

namespace Sdaqf

open Guard Store

/-! ## Validated evidence -/

/-- What the validator establishes about the immutable evidence of a store. -/
structure ValidEvidence (E : Environment) (ev : Evidence) (currentLeases : Table CurrentLease) :
    Prop where
  policy : validateLeasePolicy ev.leaseTtlSeconds ev.heartbeatIntervalSeconds = .ok ()
  nonempty : ev.log ≠ []
  accepted : History.Accepted
    (fun pre entry => validateEntry E ev currentLeases pre entry = .ok ()) ev.log
  ids_nodup : (ev.messages.map E.messageId).Nodup
  rows : ∀ entry ∈ ev.log, validateRows ev entry = .ok ()
  adoption : validateMessageAdoption E ev = .ok ()
  budget : ∃ b ledger, replayBudget E ev ev.log = .ok b ∧ b.latest = some ledger
  workflow : ∀ events, ev.workflowEvents = some events →
    validateWorkflowEpochEvidence E ev events = .ok ()

variable {E : Environment} {ev : Evidence} {currentLeases : Table CurrentLease} {tables : Tables}
variable {pre : List Entry} {entry : Entry} {taskId : String} {task : SchedulerTask}
variable {prior p : TaskProjection} {m : Option MailboxMessage}

theorem validEvidence_of_ok (h : validateEvidence E ev tables = .ok ()) :
    ValidEvidence E ev tables.currentLeases := by
  simp only [validateEvidence, validateEvents, validateImmutableRows, validateBudgetEvidence,
    bind_eq_ok, exists_unit, require_eq_ok, forEach_eq_ok, fromOption_eq_ok,
    History.check_eq_ok, Option.mem_toList] at h
  obtain ⟨policy, _, ⟨nonempty, accepted⟩, ⟨ids, rows⟩, adoption, ledger, ⟨b, hb, hl⟩,
    workflow⟩ := h
  exact ⟨policy, nonempty, accepted, ids, rows, adoption, ⟨b, ledger, hb, hl⟩,
    fun events he => workflow events he⟩

/-! ## Rows of an entry -/

theorem leaseRows_of_validateRows (h : validateRows ev entry = .ok ()) :
    ∀ row ∈ entry.leaseRows, validateAuthoritativeLease ev row.lease = .ok () ∧
      entry.event.taskId = some row.lease.taskId ∧
      entry.event.leaseId = some row.authorityLeaseId := by
  simp only [validateRows, bind_eq_ok, exists_unit, forEach_eq_ok, require_eq_ok] at h
  exact fun row hrow => h.1 row hrow

theorem worktreeRows_of_validateRows (h : validateRows ev entry = .ok ()) :
    ∀ row ∈ entry.worktreeRows, entry.event.taskId = some row.taskId ∧
      entry.event.cause.worktreeHistoryOutput = true := by
  simp only [validateRows, bind_eq_ok, exists_unit, forEach_eq_ok, require_eq_ok] at h
  exact fun row hrow => h.2.2 row hrow

/-- An event without a task has no rows. -/
theorem rows_of_no_task (h : validateRows ev entry = .ok ())
    (hp : entry.event.taskProjection = none) :
    entry.leaseRows = [] ∧ entry.worktreeRows = [] := by
  have htask := taskId_eq_none.mpr hp
  constructor
  · refine List.eq_nil_iff_forall_not_mem.mpr fun row hrow => ?_
    have := (leaseRows_of_validateRows h row hrow).2.1
    rw [htask] at this
    cases this
  · refine List.eq_nil_iff_forall_not_mem.mpr fun row hrow => ?_
    have := (worktreeRows_of_validateRows h row hrow).1
    rw [htask] at this
    cases this

/-- All lease rows of an event are about its task. -/
theorem ownLeaseRows_eq (h : validateRows ev entry = .ok ())
    (htask : entry.event.taskId = some taskId) :
    ownLeaseRows entry taskId = entry.leaseRows := by
  refine List.filter_eq_self.mpr fun row hrow => ?_
  have := (leaseRows_of_validateRows h row hrow).2.1
  rw [htask, Option.some.injEq] at this
  simp [this]

/-- All worktree rows of an event are about its task. -/
theorem ownWorktreeRows_eq (h : validateRows ev entry = .ok ())
    (htask : entry.event.taskId = some taskId) :
    ownWorktreeRows entry taskId = entry.worktreeRows := by
  refine List.filter_eq_self.mpr fun row hrow => ?_
  have := (worktreeRows_of_validateRows h row hrow).1
  rw [htask, Option.some.injEq] at this
  simp [this]

theorem worktreeRows_eq_nil (h : validateRows ev entry = .ok ())
    (hc : entry.event.cause.worktreeHistoryOutput = false) : entry.worktreeRows = [] := by
  refine List.eq_nil_iff_forall_not_mem.mpr fun row hrow => ?_
  have := (worktreeRows_of_validateRows h row hrow).2
  rw [hc] at this
  cases this

/-! ## The judgement of a task event -/

/-- What the replay checked about an event with a task. -/
structure Judged (E : Environment) (ev : Evidence) (currentLeases : Table CurrentLease)
    (pre : List Entry) (entry : Entry) (task : SchedulerTask) (prior p : TaskProjection)
    (m : Option MailboxMessage) : Prop where
  recorded : entry.event.taskProjection = some p
  known : ev.graph.task? p.taskId = some task
  before : projectionAt ev.graph pre p.taskId = some prior
  shape : validateEventShape ev entry.event = .ok ()
  scope : validateScope entry.event = .ok ()
  transition : validateTransition entry.event task prior p = .ok ()
  message : causalMessage E ev entry.event = .ok m
  evidence : validateMessageEvidence E ev pre entry (some task) m = .ok ()
  cause : validateCause E ev currentLeases pre task entry m prior p = .ok ()

/-- An accepted event about a task was judged. -/
theorem judged_of_validateEntry (h : validateEntry E ev currentLeases pre entry = .ok ())
    (hp : entry.event.taskProjection = some p) :
    ∃ task prior m, Judged E ev currentLeases pre entry task prior p m := by
  simp only [validateEntry, validateEventSemantics, bind_eq_ok, exists_unit] at h
  obtain ⟨_, hshape, h⟩ := h
  split at h
  · simp [validateInitialize, hp] at h
  · simp only [bind_eq_ok, exists_unit, taskContext, hp, forEach_eq_ok, fromOption_eq_ok,
      pure_eq_ok] at h
    obtain ⟨hscope, context, ⟨task, htask, prior, hprior, rfl⟩, htransition, m, hm, hevidence,
      hcause⟩ := h
    exact ⟨task, prior, m, hp, htask, hprior, hshape, hscope,
      htransition ⟨task, prior, p⟩ (by simp), hm, hevidence, hcause ⟨task, prior, p⟩ (by simp)⟩

namespace Judged

variable (h : Judged E ev currentLeases pre entry task prior p m)
include h

theorem taskId_eq : p.taskId = task.taskId := (TaskGraph.task?_taskId h.known).symm

theorem event_taskId : entry.event.taskId = some task.taskId := by
  rw [taskId_of_taskProjection h.recorded, h.taskId_eq]

theorem prior_taskId : prior.taskId = p.taskId := projectionAt_taskId h.before

theorem transition_iff : (entry.event.contextSnapshotId = some task.contextSnapshotId) ∧
    (entry.event.beforeState = none ∨ entry.event.beforeState = some prior.state) ∧
    entry.event.cause.allows entry.event.beforeState p.state = true ∧
    (∀ field ∈ projectionChanges prior p, field ∈ entry.event.cause.mutable) ∧
    (entry.event.beforeState = none → p = prior) ∧
    (entry.event.cause.takesLease = true →
      (p.attempt = prior.attempt ∧ p.fence = prior.fence) ∨
        (p.attempt = prior.attempt + 1 ∧ p.fence = prior.fence + 1)) ∧
    (entry.event.cause = .approvalProposalExpired →
      p.attempt + 1 = prior.attempt ∧ p.fence + 1 = prior.fence) := by
  have := h.transition
  simpa only [validateTransition, bind_eq_ok, exists_unit, require_eq_ok] using this

/-- The view before the event. -/
theorem view_before : taskView ev.graph pre task.taskId =
    some ⟨prior, latestLeaseRow pre task.taskId, latestWorktreeRow pre task.taskId⟩ := by
  rw [taskView, ← h.taskId_eq, h.before]
  rfl

/-- The recorded before-state, when there is one, is the state of the prior projection. -/
theorem before_state (hc : entry.event.cause.audits = false) :
    entry.event.beforeState = some prior.state ∧
      entry.event.cause.allows (some prior.state) p.state = true := by
  obtain ⟨_, hbefore, hallows, _⟩ := h.transition_iff
  rcases hbefore with hnone | hsome
  · rw [hnone, EventCause.allows, hc] at hallows
    cases hallows
  · exact ⟨hsome, hsome ▸ hallows⟩

end Judged

/-! ## Lease histories of an event -/

/-- The exact lease row of an event. -/
theorem validateExactLeaseHistory_eq_ok {expected : Lease}
    (hrows : validateRows ev entry = .ok ()) (htask : entry.event.taskId = some taskId)
    (h : validateExactLeaseHistory entry taskId expected = .ok ()) :
    ∃ row, entry.leaseRows = [row] ∧ row.lease = expected ∧
      entry.event.leaseId = some row.authorityLeaseId := by
  rw [validateExactLeaseHistory, ownLeaseRows_eq hrows htask] at h
  split at h
  · next row hrow =>
    rw [require_eq_ok] at h
    exact ⟨row, hrow, h⟩
  · cases h

theorem requireNoLeaseHistory_eq_ok (hrows : validateRows ev entry = .ok ())
    (htask : entry.event.taskId = some taskId)
    (h : requireNoLeaseHistory entry taskId = .ok ()) : entry.leaseRows = [] := by
  rwa [requireNoLeaseHistory, require_eq_ok, ownLeaseRows_eq hrows htask] at h

theorem priorLease_eq_ok {lease : Lease} (h : priorLease pre taskId entry.event = .ok lease) :
    ∃ row, latestLeaseRow pre taskId = some row ∧ row.lease.status = .current ∧
      entry.event.leaseId = some row.authorityLeaseId ∧ row.lease = lease := by
  simp only [priorLease, priorLeaseRow, bind_eq_ok, exists_unit, fromOption_eq_ok, require_eq_ok,
    pure_eq_ok] at h
  obtain ⟨row, ⟨row', hrow, hcurrent, rfl⟩, hid, hlease⟩ := h
  exact ⟨row', hrow, hcurrent, hid, hlease⟩

/-- What a release leaves in the histories. -/
theorem validateExactLeaseRelease_eq_ok {outcome : TaskOutcome} {expected : Bool}
    (hrows : validateRows ev entry = .ok ()) (htask : entry.event.taskId = some taskId)
    (h : validateExactLeaseRelease pre entry taskId outcome expected = .ok ()) :
    ∃ row, latestLeaseRow pre taskId = some row ∧ row.lease.status = .current ∧
      entry.event.leaseId = some row.authorityLeaseId ∧
      entry.leaseRows = [⟨row.authorityLeaseId, releasedLease row.lease outcome⟩] ∧
      (expected = true → entry.worktreeRows =
        ((latestWorktreeRow pre taskId).filter (·.status.active)).toList.map releasedWorktree) := by
  simp only [validateExactLeaseRelease, bind_eq_ok, exists_unit] at h
  obtain ⟨lease, hlease, hhistory, hworktree⟩ := h
  obtain ⟨row, hrow, hcurrent, hid, rfl⟩ := priorLease_eq_ok hlease
  obtain ⟨row', hrows', hlease', hid'⟩ := validateExactLeaseHistory_eq_ok hrows htask hhistory
  have hsame : row' = ⟨row.authorityLeaseId, releasedLease row.lease outcome⟩ := by
    rw [hid, Option.some.injEq] at hid'
    cases row'
    simp_all
  refine ⟨row, hrow, hcurrent, hid, by rw [hrows', hsame], ?_⟩
  rintro rfl
  split at hworktree
  · next w hw _ =>
    simp only [bind_eq_ok, exists_unit, require_eq_ok, validateExactWorktreeHistory] at hworktree
    obtain ⟨_, hworktree⟩ := hworktree
    split at hworktree
    · next w' hw' =>
      rw [require_eq_ok] at hworktree
      simp [hw, hw', hworktree.1]
    · cases hworktree
  · next hnone =>
    rw [require_eq_ok, ownWorktreeRows_eq hrows htask] at hworktree
    have : (latestWorktreeRow pre taskId).filter (·.status.active) = none := by
      cases hw : (latestWorktreeRow pre taskId).filter (·.status.active) with
      | none => rfl
      | some w => exact absurd rfl (hnone w hw)
    rw [this]
    simpa using hworktree

/-- The latest worktree row after a release. -/
theorem latestWorktreeRow_release
    (h : entry.worktreeRows =
      ((latestWorktreeRow pre taskId).filter (·.status.active)).toList.map releasedWorktree) :
    latestWorktreeRow (pre ++ [entry]) taskId =
      (latestWorktreeRow pre taskId).map fun w =>
        if w.status.active then releasedWorktree w else w := by
  cases hw : latestWorktreeRow pre taskId with
  | none =>
    rw [hw] at h
    rw [latestWorktreeRow_concat_nil h, hw]
    rfl
  | some w =>
    rw [hw] at h
    cases hactive : w.status.active with
    | false =>
      rw [latestWorktreeRow_concat_nil (by simpa [Option.filter, hactive] using h), hw]
      simp [hactive]
    | true =>
      have htask : w.taskId = taskId := latestWorktreeRow_taskId hw
      rw [latestWorktreeRow_concat_singleton (by simpa [Option.filter, hactive] using h),
        if_pos (by simpa [releasedWorktree] using htask)]
      simp [hactive]

/-! ## The moves of the causes -/

/-- The dependencies of a task are completed at the end of a log. -/
def DependenciesMet (graph : TaskGraph) (log : List Entry) (task : SchedulerTask) : Prop :=
  ∀ d ∈ task.dependencies, (projectionAt graph log d).map (·.state) = some .completed

/-- The review targets of a task are completed at the end of a log. -/
def ReviewsMet (graph : TaskGraph) (log : List Entry) (task : SchedulerTask) : Prop :=
  ∀ d ∈ task.reviewTargets, (projectionAt graph log d).map (·.state) = some .completed

/-- An accepted event about a task as a move of that task. -/
def StepMove (E : Environment) (ev : Evidence) (pre : List Entry) (entry : Entry)
    (task : SchedulerTask) : TaskView → TaskView → Prop :=
  Move E ev task entry.event (DependenciesMet ev.graph pre task) (ReviewsMet ev.graph pre task)
    (activatedBefore E ev pre entry.event = true)

/-- The view of a task at the end of a log, given its projection. -/
def viewAt (log : List Entry) (taskId : String) (p : TaskProjection) : TaskView :=
  ⟨p, latestLeaseRow log taskId, latestWorktreeRow log taskId⟩

/-- The only lease row of an event is the latest one of its task. -/
theorem latestLeaseRow_own {row : LeaseRow} (hrows : validateRows ev entry = .ok ())
    (htask : entry.event.taskId = some taskId) (h : entry.leaseRows = [row]) :
    latestLeaseRow (pre ++ [entry]) taskId = some row := by
  have hown := (leaseRows_of_validateRows hrows row (by simp [h])).2.1
  rw [htask, Option.some.injEq] at hown
  rw [latestLeaseRow_concat_singleton h, if_pos hown.symm]

/-- The only worktree row of an event is the latest one of its task. -/
theorem latestWorktreeRow_own {row : WorktreeLease} (hrows : validateRows ev entry = .ok ())
    (htask : entry.event.taskId = some taskId) (h : entry.worktreeRows = [row]) :
    latestWorktreeRow (pre ++ [entry]) taskId = some row := by
  have hown := (worktreeRows_of_validateRows hrows row (by simp [h])).1
  rw [htask, Option.some.injEq] at hown
  rw [latestWorktreeRow_concat_singleton h, if_pos hown.symm]

/-- An event without rows changes the projection only. -/
theorem viewAt_of_no_rows (q : TaskProjection) (hlease : entry.leaseRows = [])
    (hworktree : entry.worktreeRows = []) :
    viewAt (pre ++ [entry]) taskId p = { viewAt pre taskId q with projection := p } := by
  simp [viewAt, latestLeaseRow_concat_nil hlease, latestWorktreeRow_concat_nil hworktree]

/-- An event with one lease row changes the projection and the lease. -/
theorem viewAt_of_lease {row : LeaseRow} (q : TaskProjection)
    (hrows : validateRows ev entry = .ok ()) (htask : entry.event.taskId = some taskId)
    (hlease : entry.leaseRows = [row]) (hworktree : entry.worktreeRows = []) :
    viewAt (pre ++ [entry]) taskId p =
      { viewAt pre taskId q with projection := p, lease := some row } := by
  simp [viewAt, latestLeaseRow_own hrows htask hlease, latestWorktreeRow_concat_nil hworktree]

/-- The causes whose events are judged as results or verifications. -/
def EventCause.judgedAsResult : EventCause → Bool
  | .resultReceived | .resultTerminal | .verificationBlocked | .verificationCompleted => true
  | _ => false

/-- The worktree row of an event with an exact worktree history. -/
theorem worktreeRows_of_exact {expected : WorktreeLease}
    (h : validateExactWorktreeHistory entry expected = .ok ()) :
    entry.worktreeRows = [expected] := by
  unfold validateExactWorktreeHistory at h
  split at h
  · next row hrow =>
    rw [require_eq_ok] at h
    rw [hrow, h.1]
  · cases h

/-- What a derived worktree observation says about the task and its worktree. -/
theorem derived_worktree {graphId leaseId : String} {graph : TaskGraph} {lease : Lease}
    {priorWorktree : WorktreeLease} {m : MailboxMessage} {request : String × MailboxMessage}
    {t : Timestamp} {verdict : WorktreeVerdict}
    (h : deriveExactWorktreeObservation graphId graph task prior leaseId lease priorWorktree m
      request t = .ok verdict) :
    prior.state = .running ∧ prior.dispatchPhase = .notDispatched ∧
      verdict.worktree.taskId = task.taskId ∧
      verdict.worktree.worktree = priorWorktree.worktree ∧
      (verdict.terminal = true → verdict.worktree.status.active = false) ∧
      (verdict.terminal = false → verdict.worktree.status = .observed) := by
  unfold deriveExactWorktreeObservation at h
  split at h
  · simp only [bind_eq_ok, exists_unit, require_eq_ok, pure_eq_ok] at h
    obtain ⟨hauthority, hprior, rfl⟩ := h
    obtain ⟨_, _, _, _, _, hpath, _⟩ := hprior
    refine ⟨hauthority.1, hauthority.2.1, rfl, hpath.symm, ?_, ?_⟩
    · intro hterminal
      split
      · rfl
      · simp_all [WorktreeLeaseStatus.active]
    · intro hterminal
      simp_all
  · cases h

/-- What a task keeps from the lease row it continues at an event. -/
theorem taking_of_reuse (prior : TaskProjection)
    (hreused : reusesPriorLease pre task.taskId entry.event = true) :
    ∃ row, latestLeaseRow pre task.taskId = some row ∧
      Taking E ev task entry.event (viewAt pre task.taskId prior) row true := by
  simp only [reusesPriorLease, Option.any_eq_true, decide_eq_true_eq] at hreused
  obtain ⟨row, hrow, hcurrent, hid⟩ := hreused
  exact ⟨row, hrow, .reused ⟨hrow, hcurrent⟩ hid⟩

/-- A verification without a reason against it found every review target completed. -/
theorem reviewsMet_of_reason {evidence : List ArtifactReference}
    (h : verificationReason task evidence (incompleteReviewsBefore ev pre task) = none) :
    ReviewsMet ev.graph pre task := by
  unfold verificationReason at h
  split at h
  · cases h
  split at h
  · cases h
  split at h
  · cases h
  next hcomplete =>
    simp only [ne_eq, not_not, incompleteReviewsBefore, List.filter_eq_nil_iff,
      decide_eq_true_eq] at hcomplete
    exact hcomplete

namespace Judged

variable (h : Judged E ev currentLeases pre entry task prior p m)
include h

theorem nonResult (hc : entry.event.cause.judgedAsResult = false) :
    validateNonResultCause E ev pre task entry m prior p = .ok () ∧
      (entry.event.cause.leaseHistoryOutput = false →
        requireNoLeaseHistory entry task.taskId = .ok ()) := by
  have hcause := h.cause
  unfold validateCause at hcause
  split at hcause
  all_goals try (rename_i heq; rw [heq] at hc; cases hc)
  simp only [validateNonResultEvent, bind_eq_ok, exists_unit] at hcause
  refine ⟨hcause.1, fun hout => ?_⟩
  simpa [hout] using hcause.2

/-- An audit leaves its task as it is. -/
theorem audit_eq (hc : entry.event.cause.audits = true) : p = prior := by
  obtain ⟨_, _, hallows, _, hsame, _⟩ := h.transition_iff
  cases hb : entry.event.beforeState with
  | none => exact hsame hb
  | some s =>
    rw [hb] at hallows
    cases hcause : entry.event.cause <;>
      simp_all [EventCause.allows, EventCause.audits, EventCause.transitions]

/-- The parts of the judgement of the message of an event. -/
theorem evidence_parts :
    (∀ m' ∈ m, validateMessageIdentity entry.event m' = .ok ()) ∧
      validateCapabilityEvidence entry.event m = .ok () ∧
      validateApprovalEvidence E pre entry (some task) m = .ok () ∧
      validateEgressEvidence E ev pre entry (some task) m = .ok () ∧
      (∀ m' ∈ m, validateCausalParent E ev entry.event m' = .ok ()) ∧
      ∀ m' ∈ m, validateLeaseAuthority pre entry.event m' = .ok () := by
  simpa only [validateMessageEvidence, bind_eq_ok, exists_unit, forEach_eq_ok, Option.mem_toList,
    Option.mem_def] using h.evidence

/-- The judgement of a message to a host. -/
theorem egress (hc : entry.event.cause.egress = true) :
    ∃ m', m = some m' ∧ validateSchedulerEgressEvent E ev pre task entry m' = .ok () := by
  have hegress := h.evidence_parts.2.2.2.1
  simp only [validateEgressEvidence, hc, if_true, bind_eq_ok, fromOption_eq_ok,
    Option.some.injEq] at hegress
  obtain ⟨m', hm, _, rfl, hegress⟩ := hegress
  exact ⟨m', hm, hegress⟩

/-- The worktree row of an accepted worktree request. -/
theorem requested_worktree (hc : entry.event.cause = .worktreeRequest) :
    ∃ worktree, entry.worktreeRows = [worktree] ∧ worktree.status = .requested ∧
      some worktree.worktree = task.worktreeAssignment ∧ worktree.taskId = task.taskId := by
  obtain ⟨m', _, hegress⟩ := h.egress (by rw [hc]; rfl)
  simp only [validateSchedulerEgressEvent, hc, validateWorktreeRequest, bind_eq_ok, exists_unit,
    require_eq_ok, fromOption_eq_ok, reduceCtorEq, if_false, if_true] at hegress
  obtain ⟨_, _, _, _, _, _, _, _, _, _, _, _, plan, _, assignment, hassignment, hexact⟩ := hegress
  exact ⟨_, worktreeRows_of_exact hexact, rfl, hassignment.symm, rfl⟩

/-- Graph-wide causes have no task. -/
theorem task_cause : entry.event.cause ≠ .capabilityObserved ∧
    entry.event.cause ≠ .initialization ∧ entry.event.cause ≠ .wallTimeObserved := by
  have hscope := h.scope
  simp only [validateScope, bind_eq_ok, exists_unit, require_eq_ok] at hscope
  have hgraph : entry.event.cause.scope ≠ .graph := fun hs => by
    have := (hscope.1 hs).1
    rw [h.recorded] at this
    cases this
  refine ⟨?_, ?_, ?_⟩ <;> intro hc <;> rw [hc] at hgraph <;> exact hgraph rfl

/-- An attempt that the cause may not change. -/
theorem attempt_eq (hc : ProjectionField.attempt ∉ entry.event.cause.mutable) :
    p.attempt = prior.attempt := by
  obtain ⟨_, _, _, hchanges, _⟩ := h.transition_iff
  by_contra hne
  exact hc (hchanges _ (by simp [projectionChanges, changedField, Ne.symm hne]))

/-- A fence that the cause may not change. -/
theorem fence_eq (hc : ProjectionField.fence ∉ entry.event.cause.mutable) :
    p.fence = prior.fence := by
  obtain ⟨_, _, _, hchanges, _⟩ := h.transition_iff
  by_contra hne
  exact hc (hchanges _ (by simp [projectionChanges, changedField, Ne.symm hne]))

theorem resultEvent
    (hc : entry.event.cause = .resultReceived ∨ entry.event.cause = .resultTerminal) :
    ∃ m', m = some m' ∧
      validateResultEvent E ev currentLeases pre task entry m' prior p = .ok () := by
  have hcause := h.cause
  rcases hc with hc | hc <;>
  · simp only [validateCause, hc, withMessage, bind_eq_ok, fromOption_eq_ok] at hcause
    exact hcause

/-- The fields of a result event that its cause may not change. -/
theorem result_keeps
    (hc : entry.event.cause = .resultReceived ∨ entry.event.cause = .resultTerminal) :
    p.attempt = prior.attempt ∧ p.fence = prior.fence ∧ prior.state = .running := by
  have hallows := (h.before_state (by rcases hc with hc | hc <;> rw [hc] <;> rfl)).2
  refine ⟨h.attempt_eq ?_, h.fence_eq ?_, ?_⟩
  · rcases hc with hc | hc <;> rw [hc] <;> decide
  · rcases hc with hc | hc <;> rw [hc] <;> decide
  · rcases hc with hc | hc <;> rw [hc] at hallows <;>
      simp [EventCause.allows, EventCause.transitions, EventCause.runningTo] at hallows <;> tauto

theorem verificationEvent (hc : entry.event.cause = .verificationCompleted ∨
      entry.event.cause = .verificationBlocked) :
    validateVerificationEvent E ev pre task entry p = .ok () := by
  have hcause := h.cause
  rcases hc with hc | hc <;>
  · simp only [validateCause, hc] at hcause
    exact hcause

variable (hrows : validateRows ev entry = .ok ())
include hrows

/-- A cause without lease history writes no lease row. -/
theorem leaseRows_nil (hc : entry.event.cause.judgedAsResult = false)
    (hout : entry.event.cause.leaseHistoryOutput = false) : entry.leaseRows = [] :=
  requireNoLeaseHistory_eq_ok hrows h.event_taskId ((h.nonResult hc).2 hout)

/-- The view after an event that released the lease and closed the worktree. -/
theorem release {outcome : TaskOutcome}
    (hrelease : validateExactLeaseRelease pre entry task.taskId outcome true = .ok ()) :
    ∃ row, (viewAt pre task.taskId prior).Holds row ∧
      entry.event.leaseId = some row.authorityLeaseId ∧
      viewAt (pre ++ [entry]) task.taskId p =
        .afterRelease row outcome p (viewAt pre task.taskId prior).closedWorktree := by
  obtain ⟨row, hrow, hcurrent, hid, hlease, hworktree⟩ :=
    validateExactLeaseRelease_eq_ok hrows h.event_taskId hrelease
  refine ⟨row, ⟨hrow, hcurrent⟩, hid, ?_⟩
  simp only [viewAt, TaskView.afterRelease, TaskView.closedWorktree, TaskView.mk.injEq, true_and]
  exact ⟨latestLeaseRow_own hrows h.event_taskId hlease, latestWorktreeRow_release (hworktree rfl)⟩

theorem move_audit (hc : entry.event.cause.audits = true) :
    StepMove E ev pre entry task (viewAt pre task.taskId prior)
      (viewAt (pre ++ [entry]) task.taskId p) := by
  have hlease : entry.leaseRows = [] := by
    apply h.leaseRows_nil hrows <;> revert hc <;> cases entry.event.cause <;> decide
  have hworktree : entry.worktreeRows = [] := by
    apply worktreeRows_eq_nil hrows
    revert hc
    cases entry.event.cause <;> decide
  rw [viewAt_of_no_rows prior hlease hworktree, h.audit_eq hc]
  exact .audit hc

theorem move_heartbeat (hc : entry.event.cause = .heartbeat) :
    StepMove E ev pre entry task (viewAt pre task.taskId prior)
      (viewAt (pre ++ [entry]) task.taskId p) := by
  have hcause := (h.nonResult (by rw [hc]; rfl)).1
  simp only [validateNonResultCause, hc, withMessage, validateHeartbeat, requireProjection,
    bind_eq_ok, exists_unit, require_eq_ok, fromOption_eq_ok] at hcause
  obtain ⟨_, _, ⟨hrunning, _, _⟩, rfl, lease, hlease, hhistory⟩ := hcause
  obtain ⟨row, hrow, hcurrent, hid, rfl⟩ := priorLease_eq_ok hlease
  obtain ⟨row', hrows', hlease', hid'⟩ :=
    validateExactLeaseHistory_eq_ok hrows h.event_taskId hhistory
  have hsame : row' =
      ⟨row.authorityLeaseId, refreshedLease ev row.lease entry.event.recordedAt⟩ := by
    rw [hid, Option.some.injEq] at hid'
    cases row'
    simp_all [refreshedLease]
  rw [viewAt_of_lease p hrows h.event_taskId hrows' (worktreeRows_eq_nil hrows (by rw [hc]; rfl)),
    hsame]
  exact .heartbeat hc hrunning ⟨hrow, hcurrent⟩ hid

theorem move_approvalConsumed (hc : entry.event.cause = .approvalConsumed) :
    StepMove E ev pre entry task (viewAt pre task.taskId prior)
      (viewAt (pre ++ [entry]) task.taskId p) := by
  have hcause := (h.nonResult (by rw [hc]; rfl)).1
  simp only [validateNonResultCause, hc, withMessage, validateApprovalConsumed, requireProjection,
    bind_eq_ok, exists_unit, require_eq_ok, fromOption_eq_ok] at hcause
  obtain ⟨_, _, _, _, _, rfl⟩ := hcause
  have hallows := (h.before_state (by rw [hc]; rfl)).2
  rw [viewAt_of_no_rows p (h.leaseRows_nil hrows (by rw [hc]; rfl) (by rw [hc]; rfl))
    (worktreeRows_eq_nil hrows (by rw [hc]; rfl))]
  refine .approvalConsumed hc ?_
  rw [hc] at hallows
  simpa [EventCause.allows, EventCause.transitions, viewAt] using hallows

theorem move_cancelRequest (hc : entry.event.cause = .cancelRequest) :
    StepMove E ev pre entry task (viewAt pre task.taskId prior)
      (viewAt (pre ++ [entry]) task.taskId p) := by
  have hcause := (h.nonResult (by rw [hc]; rfl)).1
  simp only [validateNonResultCause, hc, validateCancelRequested, requireProjection,
    bind_eq_ok, exists_unit, require_eq_ok] at hcause
  rw [viewAt_of_no_rows prior (h.leaseRows_nil hrows (by rw [hc]; rfl) (by rw [hc]; rfl))
    (worktreeRows_eq_nil hrows (by rw [hc]; rfl)), hcause.2]
  exact .cancelRequested hc hcause.1.1

theorem move_dispatchAccepted (hc : entry.event.cause = .dispatchAccepted) :
    StepMove E ev pre entry task (viewAt pre task.taskId prior)
      (viewAt (pre ++ [entry]) task.taskId p) := by
  have hcause := (h.nonResult (by rw [hc]; rfl)).1
  simp only [validateNonResultCause, hc, withMessage, validateDispatchAccepted, requireProjection,
    bind_eq_ok, exists_unit, require_eq_ok, fromOption_eq_ok] at hcause
  obtain ⟨_, _, ⟨_, hrunning, hphase, _⟩, hp⟩ := hcause
  rw [viewAt_of_no_rows prior (h.leaseRows_nil hrows (by rw [hc]; rfl) (by rw [hc]; rfl))
    (worktreeRows_eq_nil hrows (by rw [hc]; rfl)), hp]
  exact .dispatchAccepted hc hrunning hphase

theorem move_dispatchRejected (hc : entry.event.cause = .dispatchRejected) :
    StepMove E ev pre entry task (viewAt pre task.taskId prior)
      (viewAt (pre ++ [entry]) task.taskId p) := by
  have hcause := (h.nonResult (by rw [hc]; rfl)).1
  simp only [validateNonResultCause, hc, withMessage, validateDispatchRejected, requireProjection,
    bind_eq_ok, exists_unit, require_eq_ok, fromOption_eq_ok] at hcause
  obtain ⟨_, _, _, _, ⟨hrunning, _⟩, hp, _, hrelease⟩ := hcause
  obtain ⟨row, hholds, hid, hview⟩ := h.release hrows hrelease
  rw [hview, hp]
  refine .ended (by rw [hc]; rfl) hrunning hholds hid ?_
  split
  · next hretry => exact .inl ⟨rfl, rfl, rfl, hretry.2.2.1⟩
  · exact .inr (.inl ⟨rfl, rfl⟩)

theorem move_cancelAcknowledgement (hc : entry.event.cause = .cancelAcknowledgement) :
    StepMove E ev pre entry task (viewAt pre task.taskId prior)
      (viewAt (pre ++ [entry]) task.taskId p) := by
  have hcause := (h.nonResult (by rw [hc]; rfl)).1
  simp only [validateNonResultCause, hc, withMessage, validateCancelAcknowledged,
    requireProjection, bind_eq_ok, exists_unit, require_eq_ok, fromOption_eq_ok] at hcause
  obtain ⟨_, _, ⟨hrunning, _⟩, hp, _, hrelease⟩ := hcause
  obtain ⟨row, hholds, hid, hview⟩ := h.release hrows hrelease
  rw [hview, hp]
  refine .ended (by rw [hc]; rfl) hrunning hholds hid ?_
  split
  · exact .inr (.inr (.inr ⟨rfl, rfl⟩))
  · exact .inr (.inl ⟨rfl, rfl⟩)

theorem move_leaseExpired (hc : entry.event.cause = .leaseExpired) :
    StepMove E ev pre entry task (viewAt pre task.taskId prior)
      (viewAt (pre ++ [entry]) task.taskId p) := by
  have hcause := (h.nonResult (by rw [hc]; rfl)).1
  have hrunning : prior.state = .running := by
    have hallows := (h.before_state (by rw [hc]; rfl)).2
    rw [hc] at hallows
    simp only [EventCause.allows, EventCause.transitions, EventCause.runningTo] at hallows
    simp at hallows
    tauto
  simp only [validateNonResultCause, hc, validateLeaseExpired,
    requireProjection, bind_eq_ok, exists_unit, require_eq_ok] at hcause
  obtain ⟨_, _, _, hp, hrelease⟩ := hcause
  obtain ⟨row, hholds, hid, hview⟩ := h.release hrows hrelease
  rw [hview, hp]
  refine .ended (by rw [hc]; rfl) hrunning hholds hid ?_
  split
  · next hretry => exact .inl ⟨rfl, rfl, rfl, hretry.2.1⟩
  · exact .inr (.inl ⟨rfl, rfl⟩)

theorem move_proposalExpired (hc : entry.event.cause = .approvalProposalExpired) :
    StepMove E ev pre entry task (viewAt pre task.taskId prior)
      (viewAt (pre ++ [entry]) task.taskId p) := by
  have hcause := (h.nonResult (by rw [hc]; rfl)).1
  have hallows := (h.before_state (by rw [hc]; rfl)).2
  obtain ⟨_, _, _, _, _, _, hroll⟩ := h.transition_iff
  simp only [validateNonResultCause, hc, validateProposalExpired,
    requireProjection, bind_eq_ok, exists_unit, require_eq_ok] at hcause
  obtain ⟨_, _, ⟨_, _, hproposal⟩, hp, hrelease⟩ := hcause
  obtain ⟨row, hholds, hid, hview⟩ := h.release hrows hrelease
  obtain ⟨hattempt, hfence⟩ := hroll hc
  rw [hview]
  have hstate : prior.state = .blocked ∨ prior.state = .running := by
    rw [hc] at hallows
    simp [EventCause.allows, EventCause.transitions] at hallows
    tauto
  rw [hp]
  exact .proposalExpired hc hstate hholds hid (by simp [hproposal])
    (by simp only [viewAt]; omega) (by simp only [viewAt]; omega)
theorem move_worktreeObserved (hc : entry.event.cause = .worktreeObserved) :
    StepMove E ev pre entry task (viewAt pre task.taskId prior)
      (viewAt (pre ++ [entry]) task.taskId p) := by
  have hcause := (h.nonResult (by rw [hc]; rfl)).1
  simp only [validateNonResultCause, hc, withMessage, validateWorktreeObserved,
    requireProjection, bind_eq_ok, exists_unit, require_eq_ok, fromOption_eq_ok] at hcause
  obtain ⟨_, _, _, hrow, hid, priorWorktree, hworktree, _, _, verdict, hverdict, hcause⟩ := hcause
  simp only [priorLeaseRow, bind_eq_ok, exists_unit, fromOption_eq_ok, require_eq_ok,
    pure_eq_ok] at hrow
  obtain ⟨row, hrow, hcurrent, rfl⟩ := hrow
  obtain ⟨hworktree, hactive⟩ := Option.filter_eq_some_iff.mp hworktree
  obtain ⟨hrunning, hphase, hown, hpath, hstatus⟩ := derived_worktree hverdict
  split at hcause
  · next hterminal =>
    simp only [bind_eq_ok, exists_unit, require_eq_ok] at hcause
    obtain ⟨hp, hrelease, _, hexact⟩ := hcause
    obtain ⟨_, hrow', _, hid', hlease, _⟩ :=
      validateExactLeaseRelease_eq_ok hrows h.event_taskId hrelease
    obtain rfl := Option.some.inj (hrow.symm.trans hrow')
    have hview : viewAt (pre ++ [entry]) task.taskId p =
        .afterRelease row .unknown p (some verdict.worktree) := by
      simp only [viewAt, TaskView.afterRelease, TaskView.mk.injEq, true_and]
      exact ⟨latestLeaseRow_own hrows h.event_taskId hlease,
        latestWorktreeRow_own hrows h.event_taskId (worktreeRows_of_exact hexact)⟩
    rw [hview, hp]
    exact .worktreeClosed hc hrunning hphase ⟨hrow, hcurrent⟩ hid (hstatus.1 hterminal) hown
  · next hterminal =>
    simp only [bind_eq_ok, exists_unit, require_eq_ok] at hcause
    obtain ⟨hp, hnone, _, hexact⟩ := hcause
    have hview : viewAt (pre ++ [entry]) task.taskId p =
        { viewAt pre task.taskId prior with worktree := some verdict.worktree } := by
      simp only [viewAt, TaskView.mk.injEq]
      exact ⟨hp, latestLeaseRow_concat_nil (requireNoLeaseHistory_eq_ok hrows h.event_taskId hnone),
        latestWorktreeRow_own hrows h.event_taskId (worktreeRows_of_exact hexact)⟩
    rw [hview]
    exact .worktreeObserved hc hrunning hphase ⟨hrow, hcurrent⟩ hid hworktree hactive
      (hstatus.2 (by simpa using hterminal)) hpath hown

/-- What a task takes from a lease row it acquires at an event. -/
theorem taking_of_acquisition {attempt fence : Nat} {owner : String}
    (hreused : reusesPriorLease pre task.taskId entry.event = false)
    (hhistory : validateExactLeaseHistory entry task.taskId
      (acquiredLease E ev task entry.event attempt fence owner) = .ok ()) :
    ∃ row, entry.leaseRows = [row] ∧
      Taking E ev task entry.event (viewAt pre task.taskId prior) row false := by
  obtain ⟨row, hlease, hexpected, hid⟩ :=
    validateExactLeaseHistory_eq_ok hrows h.event_taskId hhistory
  refine ⟨row, hlease, .fresh ?_ hid hexpected⟩
  rintro old ⟨hold, hcurrent⟩ hsame
  simp only [viewAt] at hold
  simp [reusesPriorLease, hold, hcurrent, hsame] at hreused

theorem move_dispatchIntent (hc : entry.event.cause = .dispatchIntent) :
    StepMove E ev pre entry task (viewAt pre task.taskId prior)
      (viewAt (pre ++ [entry]) task.taskId p) := by
  have hcause := (h.nonResult (by rw [hc]; rfl)).1
  have hworktree : entry.worktreeRows = [] := worktreeRows_eq_nil hrows (by rw [hc]; rfl)
  simp only [validateNonResultCause, hc, withMessage, validateDispatchIntent,
    requireProjection, bind_eq_ok, exists_unit, require_eq_ok, fromOption_eq_ok] at hcause
  obtain ⟨m, _, _, hcause⟩ := hcause
  split at hcause
  · next hready =>
    simp only [bind_eq_ok, exists_unit, require_eq_ok] at hcause
    obtain ⟨hp, hcause⟩ := hcause
    cases hreused : reusesPriorLease pre task.taskId entry.event with
    | true =>
      rw [hreused, if_pos rfl] at hcause
      obtain ⟨row, hrow, htaking⟩ := taking_of_reuse prior hreused
      have hlease := requireNoLeaseHistory_eq_ok hrows h.event_taskId hcause
      have hview : viewAt (pre ++ [entry]) task.taskId p =
          { viewAt pre task.taskId prior with projection := p, lease := some row } := by
        simp [viewAt, latestLeaseRow_concat_nil hlease, latestWorktreeRow_concat_nil hworktree,
          hrow]
      rw [hview, hp, hreused]
      exact .dispatched hc hready htaking
    | false =>
      rw [hreused] at hcause
      simp only [Bool.false_eq_true, if_false, validateExactLeaseAcquisition, bind_eq_ok,
        exists_unit, require_eq_ok, fromOption_eq_ok] at hcause
      obtain ⟨identity, _, _, hhistory⟩ := hcause
      obtain ⟨row, hlease, htaking⟩ := h.taking_of_acquisition hrows hreused hhistory
      rw [viewAt_of_lease prior hrows h.event_taskId hlease hworktree, hp, hreused]
      exact .dispatched hc hready htaking
  · next hrunning =>
    simp only [bind_eq_ok, exists_unit, require_eq_ok] at hcause
    rw [viewAt_of_no_rows prior (requireNoLeaseHistory_eq_ok hrows h.event_taskId hcause.2)
      hworktree, hcause.1]
    exact .dispatchedBehindWorktree hc hrunning
  · cases hcause

theorem move_worktreeRequest (hc : entry.event.cause = .worktreeRequest) :
    StepMove E ev pre entry task (viewAt pre task.taskId prior)
      (viewAt (pre ++ [entry]) task.taskId p) := by
  obtain ⟨worktree, hworktree, hstatus, hpath, hown⟩ := h.requested_worktree hc
  have hcause := (h.nonResult (by rw [hc]; rfl)).1
  simp only [validateNonResultCause, hc, withMessage, validateWorktreeRequested,
    requireProjection, bind_eq_ok, exists_unit, require_eq_ok, fromOption_eq_ok] at hcause
  obtain ⟨m, _, ⟨hready, _⟩, hp, hcause⟩ := hcause
  have hlatest : latestWorktreeRow (pre ++ [entry]) task.taskId = some worktree :=
    latestWorktreeRow_own hrows h.event_taskId hworktree
  cases hreused : reusesPriorLease pre task.taskId entry.event with
  | true =>
    rw [hreused, if_pos rfl] at hcause
    obtain ⟨row, hrow, htaking⟩ := taking_of_reuse prior hreused
    have hlease := requireNoLeaseHistory_eq_ok hrows h.event_taskId hcause
    have hview : viewAt (pre ++ [entry]) task.taskId p = ⟨p, some row, some worktree⟩ := by
      simp [viewAt, latestLeaseRow_concat_nil hlease, hlatest, hrow]
    rw [hview, hp, hreused]
    exact .worktreeRequested hc hready htaking hstatus hpath hown
  | false =>
    rw [hreused] at hcause
    simp only [Bool.false_eq_true, if_false, validateExactLeaseAcquisition, bind_eq_ok,
      exists_unit, require_eq_ok, fromOption_eq_ok] at hcause
    obtain ⟨identity, _, _, hhistory⟩ := hcause
    obtain ⟨row, hlease, htaking⟩ := h.taking_of_acquisition hrows hreused hhistory
    have hview : viewAt (pre ++ [entry]) task.taskId p = ⟨p, some row, some worktree⟩ := by
      simp [viewAt, latestLeaseRow_own hrows h.event_taskId hlease, hlatest]
    rw [hview, hp, hreused]
    exact .worktreeRequested hc hready htaking hstatus hpath hown

theorem move_dispatchApprovalBlocked (hc : entry.event.cause = .dispatchApprovalBlocked) :
    StepMove E ev pre entry task (viewAt pre task.taskId prior)
      (viewAt (pre ++ [entry]) task.taskId p) := by
  have hcause := (h.nonResult (by rw [hc]; rfl)).1
  have hworktree : entry.worktreeRows = [] := worktreeRows_eq_nil hrows (by rw [hc]; rfl)
  simp only [validateNonResultCause, hc, validateApprovalBlocked,
    validateProvisionalLeaseAcquisition,
    requireProjection, bind_eq_ok, exists_unit, require_eq_ok] at hcause
  obtain ⟨_, hcause⟩ := hcause
  split at hcause
  · next hready =>
    simp only [bind_eq_ok, exists_unit, require_eq_ok] at hcause
    obtain ⟨_, hp, hcause⟩ := hcause
    cases hreused : reusesPriorLease pre task.taskId entry.event with
    | true =>
      rw [hreused, if_pos rfl] at hcause
      simp only [bind_eq_ok, exists_unit, require_eq_ok] at hcause
      obtain ⟨_, _, _, hnone, _⟩ := hcause
      obtain ⟨row, hrow, htaking⟩ := taking_of_reuse prior hreused
      have hlease := requireNoLeaseHistory_eq_ok hrows h.event_taskId hnone
      have hview : viewAt (pre ++ [entry]) task.taskId p =
          { viewAt pre task.taskId prior with projection := p, lease := some row } := by
        simp [viewAt, latestLeaseRow_concat_nil hlease, latestWorktreeRow_concat_nil hworktree,
          hrow]
      rw [hview, hp, hreused]
      exact .approvalBlocked hc hready htaking
    | false =>
      rw [hreused] at hcause
      simp only [Bool.false_eq_true, if_false, bind_eq_ok, exists_unit] at hcause
      obtain ⟨hhistory, _⟩ := hcause
      obtain ⟨row, hlease, htaking⟩ := h.taking_of_acquisition hrows hreused hhistory
      rw [viewAt_of_lease prior hrows h.event_taskId hlease hworktree, hp, hreused]
      exact .approvalBlocked hc hready htaking
  · next hrunning =>
    simp only [bind_eq_ok, exists_unit, require_eq_ok] at hcause
    obtain ⟨_, hp, hnone, _⟩ := hcause
    rw [viewAt_of_no_rows prior (requireNoLeaseHistory_eq_ok hrows h.event_taskId hnone)
      hworktree, hp]
    exact .approvalBlockedBehindWorktree hc hrunning
  · simp at hcause

theorem move_dispatchBudgetBlocked (hc : entry.event.cause = .dispatchBudgetBlocked) :
    StepMove E ev pre entry task (viewAt pre task.taskId prior)
      (viewAt (pre ++ [entry]) task.taskId p) := by
  have hcause := (h.nonResult (by rw [hc]; rfl)).1
  simp only [validateNonResultCause, hc, validateBudgetBlocked,
    requireProjection, bind_eq_ok, exists_unit, require_eq_ok] at hcause
  obtain ⟨_, hcause⟩ := hcause
  rw [viewAt_of_no_rows prior (h.leaseRows_nil hrows (by rw [hc]; rfl) (by rw [hc]; rfl))
    (worktreeRows_eq_nil hrows (by rw [hc]; rfl))]
  split at hcause
  · next hready =>
    rw [require_eq_ok] at hcause
    rw [hcause]
    exact .budgetBlocked hc hready
  · next hrunning =>
    rw [require_eq_ok] at hcause
    have hp : p = { prior with
        dispatchPhase := .notDispatched
        outcome := .none
        blockers := Store.blockers "budget-exhausted" [] } := by
      rw [hcause, ← hrunning]
    rw [hp]
    exact .budgetBlockedBehindWorktree hc hrunning
  · cases hcause

theorem move_readinessRefreshed (hc : entry.event.cause = .readinessRefreshed) :
    StepMove E ev pre entry task (viewAt pre task.taskId prior)
      (viewAt (pre ++ [entry]) task.taskId p) := by
  have hcause := (h.nonResult (by rw [hc]; rfl)).1
  simp only [validateNonResultCause, hc, validateExactReadiness, bind_eq_ok, exists_unit,
    require_eq_ok] at hcause
  obtain ⟨hrefreshable, hknown, _, expected, hexpected, rfl⟩ := hcause
  rw [viewAt_of_no_rows prior (h.leaseRows_nil hrows (by rw [hc]; rfl) (by rw [hc]; rfl))
    (worktreeRows_eq_nil hrows (by rw [hc]; rfl))]
  unfold replayedReadiness at hexpected
  dsimp only at hexpected
  split at hexpected
  · next hblocked =>
    cases hexpected
    exact .refreshed hc hrefreshable hknown rfl (by simp) (by simp)
  · next hopen =>
    split at hexpected
    · next hunmet =>
      cases hexpected
      refine .refreshed hc hrefreshable hknown rfl (by simp) fun hmet => absurd ?_ hunmet
      simpa [DependenciesMet] using hmet
    · next hmet =>
      simp only [bind_eq_ok, pure_eq_ok] at hexpected
      obtain ⟨blockers, _, rfl⟩ := hexpected
      refine .refreshed hc hrefreshable hknown ?_ (fun _ => ?_) fun _ => ?_
      · split <;> rfl
      · simpa [DependenciesMet] using hmet
      · split <;> simp

theorem move_resultReceived (hc : entry.event.cause = .resultReceived) :
    StepMove E ev pre entry task (viewAt pre task.taskId prior)
      (viewAt (pre ++ [entry]) task.taskId p) := by
  obtain ⟨m', rfl, hcause⟩ := h.resultEvent (.inl hc)
  obtain ⟨hattempt, hfence, hrunning⟩ := h.result_keeps (.inl hc)
  simp only [validateResultEvent, hc, if_true, bind_eq_ok, exists_unit, require_eq_ok,
    fromOption_eq_ok] at hcause
  obtain ⟨_, _, _, payload, _, ⟨_, hstate, hphase, houtcome, hblockers⟩, hrelease⟩ := hcause
  obtain ⟨row, hholds, hid, hview⟩ := h.release hrows hrelease
  have hp : p = { prior with
      state := .verification
      dispatchPhase := .accepted
      outcome := .succeeded
      blockers := [] } := by
    have := h.prior_taskId
    cases p
    simp_all
  rw [hview, hp]
  exact .resultReceived hc hrunning hholds hid

theorem move_resultTerminal (hc : entry.event.cause = .resultTerminal) :
    StepMove E ev pre entry task (viewAt pre task.taskId prior)
      (viewAt (pre ++ [entry]) task.taskId p) := by
  obtain ⟨m', rfl, hcause⟩ := h.resultEvent (.inr hc)
  obtain ⟨hattempt, hfence, hrunning⟩ := h.result_keeps (.inr hc)
  simp only [validateResultEvent, hc, bind_eq_ok, exists_unit, require_eq_ok,
    fromOption_eq_ok] at hcause
  obtain ⟨_, _, _, payload, _, hcause⟩ := hcause
  rw [if_neg (by decide)] at hcause
  simp only [bind_eq_ok, exists_unit, require_eq_ok] at hcause
  obtain ⟨_, ⟨_, hstate, hphase, houtcome, hblockers⟩, hrelease⟩ := hcause
  obtain ⟨row, hholds, hid, hview⟩ := h.release hrows hrelease
  generalize hending : terminalEnding ev pre task prior payload = ending at *
  have hp : p = endedProjection prior ending := by
    have := h.prior_taskId
    cases p
    simp_all [endedProjection]
  rw [hview, hp]
  refine .ended (by rw [hc]; rfl) hrunning hholds hid ?_
  subst hending
  unfold terminalEnding
  split
  · split
    · next hretry => exact .inl ⟨rfl, rfl, rfl, hretry.2.1⟩
    · exact .inr (.inr (.inl ⟨rfl, rfl⟩))
  · exact .inr (.inl ⟨rfl, rfl⟩)

theorem move_verificationCompleted (hc : entry.event.cause = .verificationCompleted) :
    StepMove E ev pre entry task (viewAt pre task.taskId prior)
      (viewAt (pre ++ [entry]) task.taskId p) := by
  have hcause := h.verificationEvent (.inl hc)
  have hallows := (h.before_state (by rw [hc]; rfl)).2
  have hattempt := h.attempt_eq (by rw [hc]; decide)
  have hfence := h.fence_eq (by rw [hc]; decide)
  have hstate : prior.state = .verification := by
    rw [hc] at hallows
    simp [EventCause.allows, EventCause.transitions] at hallows
    exact hallows.1
  simp only [validateVerificationEvent, hc, bind_eq_ok, exists_unit, require_eq_ok,
    fromOption_eq_ok] at hcause
  obtain ⟨_, _, _, _, _, payload, _, _, hcause⟩ := hcause
  split at hcause
  · next hreason _ =>
    simp only [bind_eq_ok, exists_unit, require_eq_ok] at hcause
    obtain ⟨⟨hcompleted, hphase, houtcome, hblockers⟩, hnone⟩ := hcause
    have hp : p = { prior with
        state := .completed
        dispatchPhase := .accepted
        outcome := .succeeded
        blockers := [] } := by
      have := h.prior_taskId
      cases p
      simp_all
    have hlease : entry.leaseRows = [] := by rwa [ownLeaseRows_eq hrows h.event_taskId] at hnone
    rw [viewAt_of_no_rows prior hlease (worktreeRows_eq_nil hrows (by rw [hc]; rfl)), hp]
    exact .verified hc hstate (reviewsMet_of_reason hreason)
  · simp at hcause
  · simp_all
  · simp_all

theorem move_verificationBlocked (hc : entry.event.cause = .verificationBlocked) :
    StepMove E ev pre entry task (viewAt pre task.taskId prior)
      (viewAt (pre ++ [entry]) task.taskId p) := by
  have hcause := h.verificationEvent (.inr hc)
  have hallows := (h.before_state (by rw [hc]; rfl)).2
  have hattempt := h.attempt_eq (by rw [hc]; decide)
  have hfence := h.fence_eq (by rw [hc]; decide)
  have hstate : prior.state = .verification := by
    rw [hc] at hallows
    simp [EventCause.allows, EventCause.transitions] at hallows
    exact hallows.1
  simp only [validateVerificationEvent, hc, bind_eq_ok, exists_unit, require_eq_ok,
    fromOption_eq_ok] at hcause
  obtain ⟨_, _, _, _, _, payload, _, _, hcause⟩ := hcause
  split at hcause
  · next hne => cases hne
  · next hne => cases hne
  · next reason _ _ _ =>
    simp only [bind_eq_ok, exists_unit, require_eq_ok] at hcause
    obtain ⟨⟨_, hblocked, hphase, houtcome, hblockers⟩, hnone⟩ := hcause
    have hp : p = { prior with
        state := .blocked
        dispatchPhase := .accepted
        outcome := .unknown
        blockers := p.blockers } := by
      have := h.prior_taskId
      cases p
      simp_all
    have hlease : entry.leaseRows = [] := by rwa [ownLeaseRows_eq hrows h.event_taskId] at hnone
    rw [viewAt_of_no_rows prior hlease (worktreeRows_eq_nil hrows (by rw [hc]; rfl)), hp]
    exact .verificationBlocked hc hstate
  · simp at hcause

/-- Every judged event is one move of its task. -/
theorem move : StepMove E ev pre entry task (viewAt pre task.taskId prior)
    (viewAt (pre ++ [entry]) task.taskId p) := by
  cases hc : entry.event.cause with
  | approvalConsumed => exact h.move_approvalConsumed hrows hc
  | approvalProposalExpired => exact h.move_proposalExpired hrows hc
  | approvalReceived => exact h.move_audit hrows (by rw [hc]; rfl)
  | cancelAcknowledgement => exact h.move_cancelAcknowledgement hrows hc
  | cancelRequest => exact h.move_cancelRequest hrows hc
  | capabilityObserved => exact absurd hc h.task_cause.1
  | dispatchAccepted => exact h.move_dispatchAccepted hrows hc
  | dispatchApprovalBlocked => exact h.move_dispatchApprovalBlocked hrows hc
  | dispatchBudgetBlocked => exact h.move_dispatchBudgetBlocked hrows hc
  | dispatchIntent => exact h.move_dispatchIntent hrows hc
  | dispatchRejected => exact h.move_dispatchRejected hrows hc
  | duplicateMessage => exact h.move_audit hrows (by rw [hc]; rfl)
  | heartbeat => exact h.move_heartbeat hrows hc
  | initialization => exact absurd hc h.task_cause.2.1
  | leaseExpired => exact h.move_leaseExpired hrows hc
  | messageRejected => exact h.move_audit hrows (by rw [hc]; rfl)
  | readinessRefreshed => exact h.move_readinessRefreshed hrows hc
  | resultReceived => exact h.move_resultReceived hrows hc
  | resultTerminal => exact h.move_resultTerminal hrows hc
  | verificationBlocked => exact h.move_verificationBlocked hrows hc
  | verificationCompleted => exact h.move_verificationCompleted hrows hc
  | wallTimeObserved => exact absurd hc h.task_cause.2.2
  | worktreeObserved => exact h.move_worktreeObserved hrows hc
  | worktreeRequest => exact h.move_worktreeRequest hrows hc

end Judged
/-! ## The whole log -/

/-- The rows of an event about another task leave the rows of a task. -/
theorem latestLeaseRow_of_ne (hrows : validateRows ev entry = .ok ())
    (hne : entry.event.taskId ≠ some taskId) :
    latestLeaseRow (pre ++ [entry]) taskId = latestLeaseRow pre taskId := by
  rw [latestLeaseRow_concat, History.lastWhere_eq_none.mpr, Option.none_or]
  intro row hrow
  have := (leaseRows_of_validateRows hrows row hrow).2.1
  simpa using fun heq : row.lease.taskId = taskId => hne (heq ▸ this)

theorem latestWorktreeRow_of_ne (hrows : validateRows ev entry = .ok ())
    (hne : entry.event.taskId ≠ some taskId) :
    latestWorktreeRow (pre ++ [entry]) taskId = latestWorktreeRow pre taskId := by
  rw [latestWorktreeRow_concat, History.lastWhere_eq_none.mpr, Option.none_or]
  intro row hrow
  have := (worktreeRows_of_validateRows hrows row hrow).1
  simpa using fun heq : row.taskId = taskId => hne (heq ▸ this)

/-- An event about another task leaves the view of a task. -/
theorem taskView_of_ne (hrows : validateRows ev entry = .ok ())
    (hne : entry.event.taskId ≠ some taskId) :
    taskView ev.graph (pre ++ [entry]) taskId = taskView ev.graph pre taskId := by
  rw [taskView, taskView, projectionAt_concat_of_ne hne, latestLeaseRow_of_ne hrows hne,
    latestWorktreeRow_of_ne hrows hne]

theorem taskView_eq_some {log : List Entry} {graph : TaskGraph} {v : TaskView} :
    taskView graph log taskId = some v ↔
      ∃ p, projectionAt graph log taskId = some p ∧ v = viewAt log taskId p := by
  simp only [taskView, Option.map_eq_some_iff, viewAt]
  exact ⟨fun ⟨p, hp, hv⟩ => ⟨p, hp, hv.symm⟩, fun ⟨p, hp, hv⟩ => ⟨p, hp, hv.symm⟩⟩

/-- An entry the validator accepted after a prefix. -/
structure AcceptedEntry (E : Environment) (ev : Evidence) (currentLeases : Table CurrentLease)
    (pre : List Entry) (entry : Entry) : Prop where
  validated : validateEntry E ev currentLeases pre entry = .ok ()
  rows : validateRows ev entry = .ok ()

theorem ValidEvidence.acceptedEntries (hv : ValidEvidence E ev currentLeases) :
    History.Accepted (AcceptedEntry E ev currentLeases) ev.log := by
  intro pre entry post hlog
  exact ⟨hv.accepted pre entry post hlog, hv.rows entry (by simp [hlog])⟩

/-- The task of an event of validated evidence is a task of the graph. -/
theorem ValidEvidence.task?_of_event (hv : ValidEvidence E ev currentLeases)
    (hentry : entry ∈ ev.log) (htask : entry.event.taskId = some taskId) :
    (ev.graph.task? taskId).isSome := by
  obtain ⟨pre, post, hlog⟩ := List.append_of_mem hentry
  obtain ⟨p, hp, rfl⟩ := taskId_eq_some.mp htask
  obtain ⟨task, prior, m, hjudged⟩ := judged_of_validateEntry (hv.accepted pre entry post hlog) hp
  simp [hjudged.known]

/-- An accepted entry either is about no task and writes no rows, or is one move of its task. -/
theorem AcceptedEntry.cases (h : AcceptedEntry E ev currentLeases pre entry) :
    (entry.event.taskProjection = none ∧ entry.leaseRows = [] ∧ entry.worktreeRows = []) ∨
    ∃ task prior p m, Judged E ev currentLeases pre entry task prior p m ∧
      StepMove E ev pre entry task (viewAt pre task.taskId prior)
        (viewAt (pre ++ [entry]) task.taskId p) := by
  cases hp : entry.event.taskProjection with
  | none => exact .inl ⟨rfl, rows_of_no_task h.rows hp⟩
  | some p =>
    obtain ⟨task, prior, m, hjudged⟩ := judged_of_validateEntry h.validated hp
    exact .inr ⟨task, prior, p, m, hjudged, hjudged.move h.rows⟩

/-- An accepted entry about a task moves the view of the task. -/
theorem AcceptedEntry.move_of_task (h : AcceptedEntry E ev currentLeases pre entry)
    (htask : entry.event.taskId = some taskId) :
    ∃ task v w, task.taskId = taskId ∧ ev.graph.task? taskId = some task ∧
      taskView ev.graph pre taskId = some v ∧
      taskView ev.graph (pre ++ [entry]) taskId = some w ∧ StepMove E ev pre entry task v w := by
  rcases h.cases with ⟨hp, _⟩ | ⟨task, prior, p, m, hjudged, hmove⟩
  · rw [taskId_eq_none.mpr hp] at htask
    cases htask
  · have heq : task.taskId = taskId := by
      rw [hjudged.event_taskId, Option.some.injEq] at htask
      exact htask
    subst heq
    refine ⟨task, _, _, rfl, ?_, ?_, ?_, hmove⟩
    · rw [← hjudged.taskId_eq]
      exact hjudged.known
    · exact taskView_eq_some.mpr ⟨prior, by rw [← hjudged.taskId_eq]; exact hjudged.before, rfl⟩
    · refine taskView_eq_some.mpr ⟨p, ?_, rfl⟩
      rw [← hjudged.taskId_eq]
      exact projectionAt_concat_of_task hjudged.recorded

/-- What an accepted entry does to the view of one task. -/
theorem AcceptedEntry.view_cases (h : AcceptedEntry E ev currentLeases pre entry)
    (taskId : String) :
    taskView ev.graph (pre ++ [entry]) taskId = taskView ev.graph pre taskId ∨
    ∃ task v w, task.taskId = taskId ∧ ev.graph.task? taskId = some task ∧
      entry.event.taskId = some taskId ∧ taskView ev.graph pre taskId = some v ∧
      taskView ev.graph (pre ++ [entry]) taskId = some w ∧ StepMove E ev pre entry task v w := by
  by_cases htask : entry.event.taskId = some taskId
  · obtain ⟨task, v, w, hid, hknown, hv, hw, hmove⟩ := h.move_of_task htask
    exact .inr ⟨task, v, w, hid, hknown, htask, hv, hw, hmove⟩
  · exact .inl (taskView_of_ne h.rows htask)

/-- Every task is sound at the end of every accepted log. -/
theorem sound_of_accepted {log : List Entry}
    (h : History.Accepted (AcceptedEntry E ev currentLeases) log) {v : TaskView}
    (hv : taskView ev.graph log taskId = some v) : v.Sound := by
  have hall : ∀ v, taskView ev.graph log taskId = some v → v.Sound := by
    refine History.Accepted.invariant
      (fun log => ∀ v, taskView ev.graph log taskId = some v → v.Sound) ?_ ?_ h
    · intro v hv
      obtain ⟨p, hp, rfl⟩ := taskView_eq_some.mp hv
      simp only [projectionAt, recordedProjection, History.lastWhere_nil, Option.bind_none,
        Option.none_or, Option.map_eq_some_iff] at hp
      obtain ⟨task, _, rfl⟩ := hp
      exact task.initial_sound
    · intro pre entry _ ih hentry v hv
      rcases hentry.view_cases taskId with hsame | ⟨task, v', w, _, _, _, hbefore, hafter, hmove⟩
      · exact ih v (hsame ▸ hv)
      · obtain rfl := Option.some.inj (hv.symm.trans hafter)
        exact hmove.sound (ih v' hbefore)
  exact hall v hv

end Sdaqf
