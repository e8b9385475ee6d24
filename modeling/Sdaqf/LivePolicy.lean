import Sdaqf.LiveWrites

/-!
# The live policy writes

Every pass of a tick and every transaction of a cancellation is a sequence of writes. One lemma for
each function of the live policy, from the functions that append one event up to a whole tick.
-/

namespace Sdaqf

open Guard Store

variable {E : Environment} {t : Timestamp} {st st' st₁ st₂ : Store} {task : SchedulerTask}
variable {current : CurrentLease} {m : MailboxMessage}

/-! ## Appending with no change of a lease -/

/-- An event appended after a quiet change, without lease rows. -/
theorem writes_of_appendEvent {draft : EventDraft} (h : st₁.appendEvent E t draft = .ok st₂)
    (quiet : Quiet st st₁) (rows : draft.leaseRows = [])
    (takes : draft.cause.takesLease = true → draft.beforeState ≠ some .ready) :
    Writes E t st st₂ := by
  obtain ⟨projection, _, _, rfl⟩ := appendEvent_eq_ok h
  refine .of_recorded (recorded_of_appendEvent h quiet.evidence rfl quiet.heads quiet.keyed rfl ?_
    fun _ _ hc hready => absurd hready (takes hc))
  rw [rows]
  exact .kept quiet.leases

theorem writes_appendRejection {reason : String}
    (h : st.appendRejection E m t reason = .ok st') : Writes E t st st' :=
  writes_of_appendEvent h (Quiet.refl st) rfl (by simp [EventCause.takesLease])

theorem writes_refuse {reason : String} {result : Ingested}
    (h : st.refuse E m t reason = .ok result) : Writes E t st result.store := by
  simp only [refuse, bind_eq_ok, pure_eq_ok] at h
  obtain ⟨st₁, hst₁, rfl⟩ := h
  exact writes_appendRejection hst₁

theorem writes_ingestCapabilities {hostId : String} {capabilities : List String}
    {result : Ingested} (h : st.ingestCapabilities E hostId m capabilities t = .ok result) :
    Writes E t st result.store := by
  unfold ingestCapabilities at h
  split at h
  · exact writes_refuse h
  · simp only [bind_eq_ok, pure_eq_ok] at h
    obtain ⟨st₁, hst₁, rfl⟩ := h
    have hquiet : Quiet st ((st.insertMessage m).withTables fun t =>
        { t with hostCapabilities := t.hostCapabilities.insert m.sender capabilities }) :=
      ⟨⟨[m], rfl⟩, rfl, rfl, id⟩
    exact writes_of_appendEvent hst₁ hquiet rfl (by simp [EventCause.takesLease])

/-! ## Approvals and dispatch behind a worktree -/

theorem writes_consumeApproval {state : TaskState} {leaseId : String}
    {selection : String × MailboxMessage}
    (h : consumeApproval E task state leaseId t st selection = .ok st') : Writes E t st st' := by
  simp only [consumeApproval, bind_eq_ok, exists_unit, require_eq_ok, fromOption_eq_ok] at h
  obtain ⟨payload, _, _, _, h⟩ := h
  refine writes_of_appendEvent h ⟨⟨[], by simp⟩, rfl, rfl, id⟩ rfl ?_
  simp [EventCause.takesLease]

theorem writes_consumeApprovals {leaseId key : String} {attempt fence : Nat} {consume : Bool}
    {approved : Bool}
    (h : st.consumeApprovals E task leaseId attempt fence key t consume = .ok (st', approved)) :
    Writes E t st st' := by
  unfold consumeApprovals at h
  split at h
  · cases h
    exact .refl
  · split at h
    · simp only [bind_eq_ok, fromOption_eq_ok, pure_eq_ok, Prod.mk.injEq] at h
      obtain ⟨p, _, st₁, hst₁, rfl, _⟩ := h
      exact writes_foldE (fun _ _ _ hstep => writes_consumeApproval hstep) hst₁
    · cases h
      exact .refl

theorem insertSchedulerMessage_eq_ok (h : st.insertSchedulerMessage E m = .ok st') :
    st' = st.insertMessage m := by
  simp only [insertSchedulerMessage, bind_eq_ok, exists_unit, require_eq_ok, pure_eq_ok] at h
  exact h.2.symm

theorem writes_activateDispatch {parent : String} {dispatch : Option MailboxMessage}
    (h : st.activateDispatchAfterWorktree E task current parent t = .ok (st', dispatch)) :
    Writes E t st st' := by
  unfold activateDispatchAfterWorktree at h
  simp only [bind_eq_ok, fromOption_eq_ok] at h
  obtain ⟨binding, _, h⟩ := h
  split at h
  · simp only [bind_eq_ok, fromOption_eq_ok] at h
    obtain ⟨prior, _, h⟩ := h
    split at h
    · cases h
      exact .of_quiet (quiet_updateProjection st fun _ => rfl)
    · simp only [bind_eq_ok, pure_eq_ok, Prod.mk.injEq] at h
      obtain ⟨st₁, hst₁, rfl, _⟩ := h
      exact writes_of_appendEvent hst₁ (quiet_updateProjection st fun _ => rfl) rfl
        (by simp [EventCause.takesLease])
  · simp only [bind_eq_ok, Prod.exists] at h
    obtain ⟨st₁, approved, hst₁, h⟩ := h
    refine (writes_consumeApprovals hst₁).trans ?_
    split at h
    · simp only [bind_eq_ok, pure_eq_ok, Prod.mk.injEq] at h
      obtain ⟨st₂, hst₂, rfl, _⟩ := h
      exact writes_of_appendEvent hst₂ (quiet_updateProjection st₁ fun _ => rfl) rfl (by simp)
    · simp only [bind_eq_ok, pure_eq_ok, Prod.mk.injEq] at h
      obtain ⟨st₂, hst₂, st₃, hst₃, st₄, hst₄, st₅, hst₅, rfl, _⟩ := h
      rw [insertSchedulerMessage_eq_ok hst₂] at hst₃
      have htotals := (onlyTotals_changeBudget hst₃).trans (onlyTotals_reserveAll hst₄)
      exact writes_of_appendEvent hst₅
        ((quiet_insertMessage st₁ _).trans (htotals.quiet.updateProjection fun _ => rfl)) rfl
        (by simp)

/-! ## Releasing a lease -/

/-- The store after a release, before its event. -/
theorem releaseCurrentLease_eq {k : String} {outcome : TaskOutcome} {releaseWorktree : Bool}
    {leaseRows : List LeaseRow} {worktreeRows : List WorktreeLease}
    (h : st.releaseCurrentLease current k outcome releaseWorktree =
      (st', leaseRows, worktreeRows)) :
    st'.evidence = st.evidence ∧ st'.tables.workflowHeads = st.tables.workflowHeads ∧
      st'.tables.tasks = st.tables.tasks ∧
      st'.tables.currentLeases = st.tables.currentLeases.erase k ∧
      leaseRows = [⟨current.authorityLeaseId, releasedLease current.lease outcome⟩] := by
  unfold releaseCurrentLease releaseCurrentWorktree at h
  cases releaseWorktree with
  | false =>
    simp only [Bool.false_eq_true, if_false, Prod.mk.injEq] at h
    obtain ⟨rfl, rfl, rfl⟩ := h
    exact ⟨rfl, rfl, rfl, rfl, rfl⟩
  | true =>
    simp only [if_true] at h
    split at h <;> (simp only [Prod.mk.injEq] at h; obtain ⟨rfl, rfl, rfl⟩ := h) <;>
      exact ⟨rfl, rfl, rfl, rfl, rfl⟩

/-- A release and its event, with the changes of totals and of the task row between them. -/
theorem writes_of_release {k : String} {outcome : TaskOutcome} {releaseWorktree : Bool}
    {leaseRows : List LeaseRow} {worktreeRows : List WorktreeLease} {draft : EventDraft}
    {st₃ : Store} (held : st.tables.currentLeases[k]? = some current)
    (release : st.releaseCurrentLease current k outcome releaseWorktree =
      (st₁, leaseRows, worktreeRows))
    (quiet : Quiet st₁ st₂) (h : st₂.appendEvent E t draft = .ok st₃)
    (rows : draft.leaseRows = leaseRows) (takes : draft.cause.takesLease = false) :
    Writes E t st st₃ ∧ st₃.tables.currentLeases = st.tables.currentLeases.erase k := by
  obtain ⟨hevidence, hheads, htasks, hleases, rfl⟩ := releaseCurrentLease_eq release
  obtain ⟨projection, _, _, rfl⟩ := appendEvent_eq_ok h
  obtain ⟨messages, hmessages⟩ := quiet.evidence
  have herased : st₂.tables.currentLeases = st.tables.currentLeases.erase k :=
    quiet.leases.trans hleases
  refine ⟨.of_recorded (recorded_of_appendEvent h ⟨messages, ?_⟩ rfl ?_ (fun hkeyed => ?_) rfl ?_
    fun _ _ hc => ?_), herased⟩
  · rw [hmessages, hevidence]
  · exact quiet.heads.trans hheads
  · refine quiet.keyed fun k' p hp => hkeyed k' p ?_
    rwa [projection?, htasks] at hp
  · rw [rows]
    refine .written (.released held rfl) ?_
    rw [if_neg (by simp [releasedLease])]
    exact herased
  · rw [takes] at hc
    cases hc

theorem writes_endAttempt {cause : EventCause} {actor : String} {messageId resultId : Option String}
    {deltas : BudgetDeltas} {retried : Bool} {ending : Ending}
    (held : st.tables.currentLeases[task.taskId]? = some current)
    (takes : cause.takesLease = false)
    (h : st.endAttempt E task current cause actor messageId resultId deltas retried ending t =
      .ok st') :
    Writes E t st st' ∧ st'.tables.currentLeases = st.tables.currentLeases.erase task.taskId := by
  unfold endAttempt at h
  obtain ⟨⟨st₁, leaseRows, worktreeRows⟩, hrelease⟩ :
      ∃ r, st.releaseCurrentLease current task.taskId ending.outcome true = r := ⟨_, rfl⟩
  rw [hrelease] at h
  simp only [bind_eq_ok] at h
  obtain ⟨st₂, hst₂, h⟩ := h
  exact writes_of_release held hrelease
    ((onlyTotals_changeBudget hst₂).quiet.updateProjection fun _ => rfl) h rfl takes

/-- The leases of a store whose totals changed. -/
theorem OnlyTotals.leases (h : OnlyTotals st st') :
    st'.tables.currentLeases = st.tables.currentLeases := h.quiet.leases

theorem writes_applyDispatchAck {accepted : Bool} {observed : DispatchEffect}
    (held : st.tables.currentLeases[task.taskId]? = some current)
    (h : st.applyDispatchAck E task current m accepted observed t = .ok st') :
    Writes E t st st' := by
  unfold applyDispatchAck at h
  split at h
  · simp only [bind_eq_ok, Prod.exists] at h
    obtain ⟨st₁, amount, hst₁, h⟩ := h
    exact writes_of_appendEvent h ((onlyTotals_settleContext hst₁).quiet.trans
      (quiet_updateProjection st₁ fun _ => rfl)) rfl (by simp [EventCause.takesLease])
  · simp only [bind_eq_ok, Prod.exists] at h
    obtain ⟨st₁, retried, hst₁, st₂, deltas, hst₂, h⟩ := h
    have htotals := (onlyTotals_reserveRetryIf hst₁).trans (onlyTotals_closeAttempt hst₂)
    exact (Writes.of_quiet htotals.quiet).trans
      (writes_endAttempt (by rw [htotals.leases, held]) rfl h).1

theorem writes_applyHeartbeat (held : st.tables.currentLeases[task.taskId]? = some current)
    (h : st.applyHeartbeat E task current m t = .ok st') : Writes E t st st' := by
  unfold applyHeartbeat at h
  obtain ⟨projection, _, _, rfl⟩ := appendEvent_eq_ok h
  refine .of_recorded (recorded_of_appendEvent h ⟨[], by simp [putCurrentLease]⟩ rfl rfl id rfl ?_
    fun _ _ hc => by cases hc)
  refine .written (.refreshed held rfl ⟨_, _, rfl⟩) ?_
  rw [if_pos rfl]
  rfl

theorem writes_verifyResult {resultId : String} {evidence : List ArtifactReference}
    (h : st.verifyResult E task resultId evidence t = .ok st') : Writes E t st st' := by
  unfold verifyResult at h
  dsimp only at h
  split at h
  · exact writes_of_appendEvent h (quiet_updateProjection st fun _ => rfl) rfl
      (by simp [EventCause.takesLease])
  · exact writes_of_appendEvent h (quiet_updateProjection st fun _ => rfl) rfl
      (by simp [EventCause.takesLease])

theorem writes_applyResult {payload : TaskResultPayload}
    (held : st.tables.currentLeases[task.taskId]? = some current)
    (h : st.applyResult E task current m payload t = .ok st') : Writes E t st st' := by
  unfold applyResult at h
  simp only [bind_eq_ok, Prod.exists] at h
  obtain ⟨st₁, deltas, hst₁, h⟩ := h
  have htotals := onlyTotals_settleResult hst₁
  have held₁ : st₁.tables.currentLeases[task.taskId]? = some current := by
    rw [htotals.leases, held]
  refine (Writes.of_quiet htotals.quiet).trans ?_
  split at h
  · obtain ⟨⟨st₂, leaseRows, worktreeRows⟩, hrelease⟩ :
        ∃ r, st₁.releaseCurrentLease current task.taskId .succeeded true = r := ⟨_, rfl⟩
    rw [hrelease] at h
    simp only [bind_eq_ok] at h
    obtain ⟨st₃, hst₃, st₄, hst₄, h⟩ := h
    have hreleased := writes_of_release held₁ hrelease
      ((onlyTotals_changeBudget hst₃).quiet.updateProjection fun _ => rfl) hst₄ rfl rfl
    exact hreleased.1.trans (writes_verifyResult h)
  · simp only [bind_eq_ok, Prod.exists] at h
    obtain ⟨st₂, retried, hst₂, h⟩ := h
    have hretry := onlyTotals_reserveRetryIf hst₂
    exact (Writes.of_quiet hretry.quiet).trans
      (writes_endAttempt (by rw [hretry.leases, held₁]) rfl h).1

theorem writes_applyCancelAck {cancelled : Bool} {observed : ObservedEffect}
    (held : st.tables.currentLeases[task.taskId]? = some current)
    (h : st.applyCancelAck E task current m cancelled observed t = .ok st') :
    Writes E t st st' := by
  simp only [applyCancelAck, bind_eq_ok, Prod.exists] at h
  obtain ⟨st₁, deltas, hst₁, h⟩ := h
  have htotals := onlyTotals_closeAttempt hst₁
  exact (Writes.of_quiet htotals.quiet).trans
    (writes_endAttempt (by rw [htotals.leases, held]) rfl h).1

theorem writes_applyWorktreeObservation {verdict : WorktreeVerdict}
    {dispatch : Option MailboxMessage}
    (held : st.tables.currentLeases[task.taskId]? = some current)
    (h : st.applyWorktreeObservation E task current m verdict t = .ok (st', dispatch)) :
    Writes E t st st' := by
  unfold applyWorktreeObservation at h
  split at h
  · obtain ⟨⟨st₁, leaseRows, worktreeRows⟩, hrelease⟩ :
        ∃ r, st.releaseCurrentLease current task.taskId .unknown false = r := ⟨_, rfl⟩
    rw [hrelease] at h
    simp only [bind_eq_ok, pure_eq_ok, Prod.mk.injEq] at h
    obtain ⟨st₂, hst₂, st₃, hst₃, rfl, _⟩ := h
    have hquiet : Quiet st₁ (st₁.deleteCurrentWorktree task.taskId) :=
      ⟨⟨[], by simp [deleteCurrentWorktree]⟩, rfl, rfl, id⟩
    exact (writes_of_release held hrelease (hquiet.trans
      ((onlyTotals_changeBudget hst₂).quiet.updateProjection fun _ => rfl)) hst₃ rfl rfl).1
  · simp only [bind_eq_ok] at h
    obtain ⟨st₁, hst₁, h⟩ := h
    have hquiet : Quiet st₁ (st₁.putCurrentWorktree task.taskId verdict.worktree) :=
      ⟨⟨[], by simp [putCurrentWorktree]⟩, rfl, rfl, id⟩
    exact ((writes_of_appendEvent hst₁ (Quiet.refl st) rfl
      (by simp [EventCause.takesLease])).quiet hquiet).trans (writes_activateDispatch h)

/-! ## Expiry and wall time -/

theorem writes_expireProposal (held : st.tables.currentLeases[task.taskId]? = some current)
    (h : st.expireProposal E task current t = .ok st') :
    Writes E t st st' ∧ st'.tables.currentLeases = st.tables.currentLeases.erase task.taskId := by
  simp only [expireProposal, bind_eq_ok, fromOption_eq_ok] at h
  obtain ⟨prior, _, h⟩ := h
  obtain ⟨⟨st₁, leaseRows, worktreeRows⟩, hrelease⟩ :
      ∃ r, st.releaseCurrentLease current task.taskId .none true = r := ⟨_, rfl⟩
  rw [hrelease] at h
  refine writes_of_release held hrelease ?_ h rfl rfl
  exact quiet_updateProjection st₁ fun _ => rfl

theorem writes_expireAttempt (held : st.tables.currentLeases[task.taskId]? = some current)
    (h : st.expireAttempt E task current t = .ok st') :
    Writes E t st st' ∧ st'.tables.currentLeases = st.tables.currentLeases.erase task.taskId := by
  simp only [expireAttempt, bind_eq_ok, Prod.exists] at h
  obtain ⟨st₁, retried, hst₁, st₂, deltas, hst₂, h⟩ := h
  have htotals := (onlyTotals_reserveRetryIf hst₁).trans (onlyTotals_closeAttempt hst₂)
  obtain ⟨hwrites, herased⟩ := writes_endAttempt (by rw [htotals.leases, held]) rfl h
  exact ⟨(Writes.of_quiet htotals.quiet).trans hwrites, by rw [herased, htotals.leases]⟩

/-- The expiry of one lease leaves the leases of the other tasks alone. -/
theorem writes_expireLease {row : String × CurrentLease}
    (held : st.tables.currentLeases[row.1]? = some row.2)
    (h : expireLease E t st row = .ok st') :
    Writes E t st st' ∧ ∀ k, k ≠ row.1 →
      st'.tables.currentLeases[k]? = st.tables.currentLeases[k]? := by
  unfold expireLease at h
  split at h
  · cases h
    exact ⟨.refl, fun _ _ => rfl⟩
  · simp only [bind_eq_ok, fromOption_eq_ok] at h
    obtain ⟨task, htask, h⟩ := h
    have hid := TaskGraph.task?_taskId htask
    rw [← hid] at held ⊢
    have herase : ∀ {st' : Store},
        st'.tables.currentLeases = st.tables.currentLeases.erase task.taskId →
        ∀ k, k ≠ task.taskId → st'.tables.currentLeases[k]? = st.tables.currentLeases[k]? := by
      intro st' herased k hk
      rw [herased, Table.getElem?_erase, if_neg (Ne.symm hk)]
    split at h
    · exact (writes_expireAttempt held h).imp_right herase
    · exact (writes_expireProposal held h).imp_right herase

/-- The leases that expire are still held when their turn comes. -/
theorem writes_foldE_expireLease {rows : List (String × CurrentLease)}
    (keys : (rows.map (·.1)).Nodup)
    (held : ∀ row ∈ rows, st.tables.currentLeases[row.1]? = some row.2)
    (h : foldE (expireLease E t) st rows = .ok st') : Writes E t st st' := by
  induction rows generalizing st with
  | nil =>
    cases h
    exact .refl
  | cons row rows ih =>
    simp only [foldE_cons, bind_eq_ok] at h
    obtain ⟨st₁, hst₁, h⟩ := h
    rw [List.map_cons, List.nodup_cons] at keys
    obtain ⟨hwrites, hother⟩ := writes_expireLease (held row List.mem_cons_self) hst₁
    refine hwrites.trans (ih keys.2 (fun next hnext => ?_) h)
    have hne : next.1 ≠ row.1 := fun heq => keys.1 (heq ▸ List.mem_map_of_mem hnext)
    rw [hother _ hne]
    exact held next (List.mem_cons_of_mem _ hnext)

theorem Table.keys_nodup {α : Type} (table : Table α) : (table.toList.map (·.1)).Nodup := by
  rw [List.Nodup, List.pairwise_map]
  exact Std.ExtTreeMap.distinct_keys_toList.imp fun hne heq => hne (by simp [heq])

theorem writes_expireLeases (h : st.expireLeases E t = .ok st') : Writes E t st st' :=
  writes_foldE_expireLease (Table.keys_nodup _) (fun _ hrow => Table.mem_toList.mp hrow) h

theorem writes_observeWallTime (h : st.observeWallTime E t = .ok st') : Writes E t st st' := by
  unfold observeWallTime at h
  split at h
  · cases h
  · dsimp only at h
    split at h
    · cases h
      exact .refl
    · simp only [bind_eq_ok] at h
      obtain ⟨st₁, hst₁, h⟩ := h
      exact writes_of_appendEvent h (onlyTotals_changeBudget hst₁).quiet rfl
        (by simp [EventCause.takesLease])

/-! ## Messages -/

theorem writes_ingestApproval {identity : TaskIdentity} {payload : ApprovalPayload}
    {result : Ingested} (h : st.ingestApproval E task m identity payload t = .ok result) :
    Writes E t st result.store := by
  unfold ingestApproval at h
  split at h
  · exact writes_refuse h
  · split at h
    · exact writes_refuse h
    · next current _ =>
      split at h
      · exact writes_refuse h
      · split at h
        · exact writes_refuse h
        · simp only [bind_eq_ok] at h
          obtain ⟨st₁, hst₁, h⟩ := h
          refine (writes_of_appendEvent hst₁ (quiet_insertMessage st m) rfl
            (by simp [EventCause.takesLease])).trans ?_
          split at h
          · simp only [bind_eq_ok, pure_eq_ok, Prod.exists] at h
            obtain ⟨st₂, dispatch, hst₂, rfl⟩ := h
            exact writes_activateDispatch hst₂
          · cases h
            exact .refl

theorem writes_adoptHostMessage {payload : TaskPayload} {verdict : Option WorktreeVerdict}
    {result : Ingested} (held : st.tables.currentLeases[task.taskId]? = some current)
    (h : st.adoptHostMessage E task current m payload verdict t = .ok result) :
    Writes E t st result.store := by
  refine (Writes.of_quiet (quiet_insertMessage st m)).trans ?_
  unfold adoptHostMessage at h
  cases payload with
  | dispatchAcknowledgement accepted observed note =>
    simp only [bind_eq_ok, pure_eq_ok] at h
    obtain ⟨st₁, hst₁, rfl⟩ := h
    exact writes_applyDispatchAck held hst₁
  | heartbeat progress =>
    simp only [bind_eq_ok, pure_eq_ok] at h
    obtain ⟨st₁, hst₁, rfl⟩ := h
    exact writes_applyHeartbeat held hst₁
  | taskResult payload =>
    simp only [bind_eq_ok, pure_eq_ok, exists_unit] at h
    obtain ⟨_, st₁, hst₁, rfl⟩ := h
    exact writes_applyResult held hst₁
  | cancelAcknowledgement cancelled observed =>
    simp only [bind_eq_ok, pure_eq_ok] at h
    obtain ⟨st₁, hst₁, rfl⟩ := h
    exact writes_applyCancelAck held hst₁
  | worktreeObservation worktree digest state =>
    simp only [bind_eq_ok, pure_eq_ok, Prod.exists, fromOption_eq_ok] at h
    obtain ⟨verdict, _, st₁, dispatch, hst₁, rfl⟩ := h
    exact writes_applyWorktreeObservation held hst₁
  | dispatchIntent => exact writes_refuse h
  | cancelRequest => exact writes_refuse h
  | worktreeRequest => exact writes_refuse h
  | approvalDecision => exact writes_refuse h

theorem writes_ingestHostMessage {hostId : String} {identity : TaskIdentity}
    {payload : TaskPayload} {result : Ingested}
    (h : st.ingestHostMessage E hostId task m identity payload t = .ok result) :
    Writes E t st result.store := by
  unfold ingestHostMessage at h
  split at h
  · exact writes_refuse h
  · next current hcurrent =>
    split at h
    · exact writes_refuse h
    · split at h
      · exact writes_refuse h
      · dsimp only at h
        split at h
        · exact writes_refuse h
        · split at h
          · split at h
            · exact writes_refuse h
            · split at h
              · exact writes_refuse h
              · exact writes_adoptHostMessage hcurrent h
          · split at h
            · exact writes_refuse h
            · exact writes_adoptHostMessage hcurrent h
          · exact writes_adoptHostMessage hcurrent h

theorem writes_ingestTaskMessage {hostId : String} {identity : TaskIdentity}
    {payload : TaskPayload} {result : Ingested}
    (h : st.ingestTaskMessage E hostId m identity payload t = .ok result) :
    Writes E t st result.store := by
  unfold ingestTaskMessage at h
  split at h
  · exact writes_refuse h
  · simp only [bind_eq_ok, fromOption_eq_ok] at h
    obtain ⟨binding, _, h⟩ := h
    split at h
    · exact writes_refuse h
    · split at h
      · exact writes_ingestApproval h
      · exact writes_ingestHostMessage h

theorem writes_ingestMessage {hostId : String} {result : Ingested}
    (h : st.ingestMessage E hostId m t = .ok result) : Writes E t st result.store := by
  unfold ingestMessage at h
  split at h
  · simp only [bind_eq_ok, pure_eq_ok] at h
    obtain ⟨st₁, hst₁, rfl⟩ := h
    exact writes_of_appendEvent hst₁ (Quiet.refl st) rfl (by simp [EventCause.takesLease])
  · split at h
    · exact writes_refuse h
    · split at h
      · exact writes_refuse h
      · split at h
        · exact writes_refuse h
        · split at h
          · exact writes_ingestCapabilities h
          · exact writes_ingestTaskMessage h

theorem writes_ingestNext {hostId : String} {acc acc' : Ingestion}
    (h : ingestNext E hostId t acc m = .ok acc') : Writes E t acc.store acc'.store := by
  simp only [ingestNext, bind_eq_ok, pure_eq_ok] at h
  obtain ⟨result, hresult, rfl⟩ := h
  exact writes_ingestMessage hresult

/-! ## Readiness -/

theorem writes_writeReadiness {p : TaskProjection} {target : TaskState} {blockers : List Blocker}
    (h : st.writeReadiness E task p target blockers t = .ok st') : Writes E t st st' := by
  unfold writeReadiness at h
  split at h
  · cases h
    exact .refl
  · exact writes_of_appendEvent h (quiet_updateProjection st fun _ => rfl) rfl
      (by simp [EventCause.takesLease])

theorem writes_refreshTask {hostId : String} (h : refreshTask E hostId t st task = .ok st') :
    Writes E t st st' := by
  unfold refreshTask at h
  split at h
  · cases h
    exact .refl
  · split at h
    · cases h
      exact .refl
    · dsimp only at h
      split at h
      · exact writes_writeReadiness h
      · exact writes_writeReadiness h

theorem writes_refreshReady {hostId : String} (h : st.refreshReady E hostId t = .ok st') :
    Writes E t st st' :=
  writes_foldE (fun _ _ _ hstep => writes_refreshTask hstep) h

/-! ## Taking a lease -/

/-- The lease a ready task takes: its current lease, or a new one when it has none. -/
structure Proposed (E : Environment) (st : Store) (k : String) (row : LeaseRow) (fresh : Bool) :
    Prop where
  held : fresh = false → st.tables.currentLeases[k]? = some row
  acquired : fresh = true → LeaseWrite E st k row
  status : fresh = true → row.lease.status = .current

theorem proposed_proposedLease (st : Store) (hostId : String) (task : SchedulerTask)
    (p : TaskProjection) :
    Proposed E st task.taskId (st.proposedLease E hostId task p t)
      (st.tables.currentLeases[task.taskId]?).isNone := by
  unfold proposedLease
  cases hcurrent : st.tables.currentLeases[task.taskId]? with
  | some current => exact ⟨fun _ => hcurrent, by simp, by simp⟩
  | none => exact ⟨by simp, fun _ => .acquired hcurrent rfl rfl rfl, fun _ => rfl⟩

theorem Proposed.congr {k : String} {row : LeaseRow} {fresh : Bool}
    (h : Proposed E st k row fresh)
    (leases : st'.tables.currentLeases = st.tables.currentLeases) :
    Proposed E st' k row fresh := by
  refine ⟨fun hf => leases ▸ h.held hf, fun hf => ?_, h.status⟩
  cases h.acquired hf with
  | acquired free own identity status => exact .acquired (leases ▸ free) own identity status
  | refreshed held authority lease => exact .refreshed (leases ▸ held) authority lease
  | released held row => exact .released (leases ▸ held) row

theorem projection?_updateProjection (st : Store) (k : String)
    (f : TaskProjection → TaskProjection) :
    (st.updateProjection k f).projection? k = (st.projection? k).map f := by
  simp only [updateProjection, projection?, withTables_tables, Table.getElem?_modify, if_true,
    Option.map_map]
  rfl

theorem OnlyTotals.projection? (h : OnlyTotals st st') (k : String) :
    st'.projection? k = st.projection? k := by
  obtain ⟨totals, rfl⟩ := h
  rfl

/-- The event with which a task takes a lease, and the write of that lease. -/
theorem writes_of_take {k : String} {row : LeaseRow} {fresh : Bool} {draft : EventDraft}
    {st₃ : Store} (proposed : Proposed E st k row fresh) (quiet : Quiet st st₁)
    (h : st₁.appendEvent E t draft = .ok st₂)
    (rows : draft.leaseRows = if fresh then [row] else [])
    (after : st₃.evidence = st₂.evidence)
    (heads : st₃.tables.workflowHeads = st₁.tables.workflowHeads)
    (tasks : st₃.tables.tasks = st₁.tables.tasks)
    (leases : st₃.tables.currentLeases =
      if fresh then st₁.tables.currentLeases.insert k row else st₁.tables.currentLeases)
    (identity : draft.leaseId = some row.authorityLeaseId) (about : draft.taskId = some k)
    (attempts : ∀ p, st₁.projection? k = some p →
      p.attempt = row.lease.attempt ∧ p.fence = row.lease.fence) :
    Writes E t st st₃ := by
  have hleases : st₃.tables.currentLeases[k]? = some row := by
    rw [leases, quiet.leases]
    cases hf : fresh with
    | false => simpa [hf] using proposed.held hf
    | true => simp
  refine .of_recorded (recorded_of_appendEvent h quiet.evidence after (heads.trans quiet.heads)
    quiet.keyed tasks ?_ fun projection hprojection _ _ => ?_)
  · rw [rows]
    cases hf : fresh with
    | false =>
      refine .kept ?_
      rw [leases, quiet.leases]
      simp [hf]
    | true =>
      refine .written (proposed.acquired hf) ?_
      rw [leases, quiet.leases, if_pos (proposed.status hf)]
      simp [hf]
  · cases projection with
    | none =>
      unfold draftProjection at hprojection
      rw [about] at hprojection
      dsimp only at hprojection
      split at hprojection
      · cases hprojection
      · split at hprojection <;> cases hprojection
    | some p =>
      obtain ⟨k', hk', hp⟩ := draftProjection_some hprojection
      rw [about, Option.some.injEq] at hk'
      subst hk'
      obtain ⟨hattempt, hfence⟩ := attempts p hp
      exact ⟨k, row, p, about, rfl, hleases, identity, hattempt, hfence⟩

/-! ## Dispatching -/

theorem leases_consumeApproval {state : TaskState} {leaseId : String}
    {selection : String × MailboxMessage}
    (h : consumeApproval E task state leaseId t st selection = .ok st') :
    st'.tables.currentLeases = st.tables.currentLeases := by
  simp only [consumeApproval, bind_eq_ok, exists_unit, require_eq_ok, fromOption_eq_ok] at h
  obtain ⟨payload, _, _, _, h⟩ := h
  obtain ⟨projection, _, _, rfl⟩ := appendEvent_eq_ok h
  rfl

theorem leases_consumeApprovals {leaseId key : String} {attempt fence : Nat} {consume : Bool}
    {approved : Bool}
    (h : st.consumeApprovals E task leaseId attempt fence key t consume = .ok (st', approved)) :
    st'.tables.currentLeases = st.tables.currentLeases := by
  unfold consumeApprovals at h
  split at h
  · cases h
    rfl
  · split at h
    · simp only [bind_eq_ok, fromOption_eq_ok, pure_eq_ok, Prod.mk.injEq] at h
      obtain ⟨p, _, st₁, hst₁, rfl, _⟩ := h
      exact foldE_invariant (fun b => b.tables.currentLeases = st.tables.currentLeases)
        (fun _ _ _ _ hb hstep => (leases_consumeApproval hstep).trans hb) rfl hst₁
    · cases h
      rfl

theorem writes_blockOnBudget (h : st.blockOnBudget E task t = .ok st') : Writes E t st st' :=
  writes_of_appendEvent h (quiet_updateProjection st fun _ => rfl) rfl
    (by simp [EventCause.takesLease])

theorem writes_blockOnWorktree {row : LeaseRow} {fresh : Bool} {holder : String}
    (h : st.blockOnWorktree E task row fresh holder t = .ok st') : Writes E t st st' :=
  writes_of_appendEvent h (quiet_updateProjection st fun _ => rfl) rfl
    (by simp [EventCause.takesLease])

theorem writes_blockOnApproval {row : LeaseRow} {fresh : Bool}
    (proposed : Proposed E st task.taskId row fresh)
    (h : st.blockOnApproval E task row fresh t = .ok st') : Writes E t st st' := by
  simp only [blockOnApproval, bind_eq_ok, pure_eq_ok] at h
  obtain ⟨st₁, hst₁, rfl⟩ := h
  obtain ⟨projection, _, _, rfl⟩ := appendEvent_eq_ok hst₁
  refine writes_of_take proposed ?_ hst₁ rfl ?_ ?_ ?_ ?_ rfl rfl fun p hp => ?_
  · exact quiet_updateProjection st fun _ => rfl
  all_goals try (cases fresh <;> rfl)
  rw [projection?_updateProjection, Option.map_eq_some_iff] at hp
  obtain ⟨q, _, rfl⟩ := hp
  exact ⟨rfl, rfl⟩

theorem writes_requestWorktree {binding : ContextBinding} {row : LeaseRow} {fresh : Bool}
    {assignment : String} {request : MailboxMessage}
    (proposed : Proposed E st task.taskId row fresh)
    (h : st.requestWorktree E task binding row fresh assignment t = .ok (st', request)) :
    Writes E t st st' := by
  simp only [requestWorktree, bind_eq_ok, pure_eq_ok, fromOption_eq_ok, Prod.mk.injEq] at h
  obtain ⟨st₁, hst₁, st₂, hst₂, plan, _, st₃, hst₃, rfl, _⟩ := h
  rw [insertSchedulerMessage_eq_ok hst₁] at hst₂
  have htotals := onlyTotals_changeBudget hst₂
  obtain ⟨projection, _, _, rfl⟩ := appendEvent_eq_ok hst₃
  refine writes_of_take proposed ?_ hst₃ rfl ?_ ?_ ?_ ?_ rfl rfl fun p hp => ?_
  · exact (quiet_insertMessage st _).trans (htotals.quiet.updateProjection fun _ => rfl)
  all_goals try (cases fresh <;> rfl)
  rw [htotals.projection?, projection?_updateProjection, Option.map_eq_some_iff] at hp
  obtain ⟨q, _, rfl⟩ := hp
  exact ⟨rfl, rfl⟩

theorem writes_dispatchTask {binding : ContextBinding} {row : LeaseRow} {fresh : Bool}
    {contextBytes : Nat} {reservation : BudgetReservation} {dispatch : MailboxMessage}
    (proposed : Proposed E st task.taskId row fresh)
    (h : st.dispatchTask E task binding row fresh contextBytes reservation t =
      .ok (st', dispatch)) : Writes E t st st' := by
  simp only [dispatchTask, bind_eq_ok, pure_eq_ok, Prod.mk.injEq] at h
  obtain ⟨st₁, hst₁, st₂, hst₂, st₃, hst₃, st₄, hst₄, st₅, hst₅, rfl, _⟩ := h
  rw [insertSchedulerMessage_eq_ok hst₁] at hst₂
  have htotals := ((onlyTotals_changeBudget hst₂).trans (onlyTotals_changeBudget hst₃)).trans
    (onlyTotals_reserveAll hst₄)
  obtain ⟨projection, _, _, rfl⟩ := appendEvent_eq_ok hst₅
  refine writes_of_take proposed ?_ hst₅ rfl ?_ ?_ ?_ ?_ rfl rfl fun p hp => ?_
  · exact (quiet_insertMessage st _).trans (htotals.quiet.updateProjection fun _ => rfl)
  all_goals try (cases fresh <;> rfl)
  rw [htotals.projection?, projection?_updateProjection, Option.map_eq_some_iff] at hp
  obtain ⟨q, _, rfl⟩ := hp
  exact ⟨rfl, rfl⟩

theorem writes_dispatchRow {hostId : String} {acc acc' : Dispatching} {row : TaskRow}
    (h : dispatchRow E hostId t acc row = .ok acc') : Writes E t acc.store acc'.store := by
  unfold dispatchRow at h
  split at h
  · cases h
    exact .refl
  · simp only [bind_eq_ok, fromOption_eq_ok] at h
    obtain ⟨task, _, binding, _, h⟩ := h
    split at h
    · simp only [bind_eq_ok, pure_eq_ok] at h
      obtain ⟨st₁, hst₁, rfl⟩ := h
      exact writes_blockOnBudget hst₁
    · simp only [bind_eq_ok, Prod.exists] at h
      obtain ⟨st₁, approved, hst₁, h⟩ := h
      have hproposed := (proposed_proposedLease (E := E) (t := t) acc.store hostId task
        row.projection).congr (leases_consumeApprovals hst₁)
      refine (writes_consumeApprovals hst₁).trans ?_
      split at h
      · simp only [bind_eq_ok, pure_eq_ok] at h
        obtain ⟨st₂, hst₂, rfl⟩ := h
        exact writes_blockOnApproval hproposed hst₂
      · split at h
        · split at h
          · simp only [bind_eq_ok, pure_eq_ok] at h
            obtain ⟨st₂, hst₂, rfl⟩ := h
            exact writes_blockOnWorktree hst₂
          · simp only [bind_eq_ok, pure_eq_ok, Prod.exists] at h
            obtain ⟨st₂, request, hst₂, rfl⟩ := h
            exact writes_requestWorktree hproposed hst₂
        · simp only [bind_eq_ok, pure_eq_ok, Prod.exists] at h
          obtain ⟨st₂, dispatch, hst₂, rfl⟩ := h
          exact writes_dispatchTask hproposed hst₂

theorem writes_retryWorktree {acc acc' : Store × List MailboxMessage} {row : TaskRow}
    (h : retryWorktree E t acc row current = .ok acc') : Writes E t acc.1 acc'.1 := by
  simp only [retryWorktree, bind_eq_ok, pure_eq_ok, fromOption_eq_ok, Prod.exists] at h
  obtain ⟨parent, _, task, _, st₁, dispatch, hst₁, rfl⟩ := h
  exact writes_activateDispatch hst₁

/-! ## Transactions -/

/-- Passes that carry a store through a list. -/
theorem writes_foldE_by {α β : Type} (store : β → Store) {f : β → α → Except String β}
    {l : List α} {b b' : β}
    (step : ∀ b a b', f b a = .ok b' → Writes E t (store b) (store b'))
    (h : foldE f b l = .ok b') : Writes E t (store b) (store b') :=
  foldE_invariant (fun c => Writes E t (store b) (store c))
    (fun _ a _ _ hb hstep => hb.trans (step _ a _ hstep)) .refl h

theorem writes_tickBody {hostId : String} {messages : List MailboxMessage} {now : Timestamp}
    {result : TickResult} (h : st.tickBody E hostId messages now = .ok result) :
    Writes E (formatUtc now) st result.store := by
  simp only [tickBody, tickPasses, bind_eq_ok, pure_eq_ok, exists_unit, Prod.exists] at h
  obtain ⟨_, _, st₁, hwall, st₂, hexpire, ingestion, hingest, st₃, hready, st₄, retried, hretry,
    dispatching, hdispatch, state, _, rfl⟩ := h
  refine (writes_observeWallTime hwall).trans ((writes_expireLeases hexpire).trans ?_)
  have hmessages : Writes E (formatUtc now) st₂ ingestion.store :=
    writes_foldE_by Ingestion.store (fun _ _ _ hstep => writes_ingestNext hstep) hingest
  have hretried : Writes E (formatUtc now) st₃ st₄ :=
    writes_foldE_by Prod.fst (fun _ _ _ hstep => writes_retryWorktree hstep) hretry
  have hdispatched : Writes E (formatUtc now) st₄ dispatching.store :=
    writes_foldE_by Dispatching.store (fun _ _ _ hstep => writes_dispatchRow hstep)
      hdispatch
  exact ((hmessages.trans (writes_refreshReady hready)).trans hretried).trans hdispatched

theorem writes_cancelPrelude {hostId taskId : String} {expired : Bool}
    (h : st.cancelPrelude E hostId taskId t = .ok (st', expired)) : Writes E t st st' := by
  simp only [cancelPrelude, bind_eq_ok] at h
  obtain ⟨st₁, hwall, h⟩ := h
  refine (writes_observeWallTime hwall).trans ?_
  split at h
  · simp only [bind_eq_ok, pure_eq_ok, Prod.mk.injEq] at h
    obtain ⟨st₂, hexpire, rfl, _⟩ := h
    exact writes_expireLeases hexpire
  · cases h
    exact .refl

theorem writes_insertCancel {hostId reason : String} {request : MailboxMessage}
    (h : st.insertCancel E hostId task current reason t = .ok (st', request)) :
    Writes E t st st' := by
  simp only [insertCancel, bind_eq_ok, pure_eq_ok, fromOption_eq_ok, exists_unit, require_eq_ok,
    Prod.mk.injEq] at h
  obtain ⟨prior, _, _, parent, _, binding, _, st₁, hst₁, st₂, hst₂, rfl, _⟩ := h
  rw [insertSchedulerMessage_eq_ok hst₁] at hst₂
  exact writes_of_appendEvent hst₂
    ((quiet_insertMessage st _).trans (quiet_updateProjection _ fun _ => rfl)) rfl
    (by simp [EventCause.takesLease])

theorem writes_cancelBody {hostId taskId reason : String} {request : MailboxMessage}
    (h : st.cancelBody E hostId taskId reason t = .ok (st', request)) : Writes E t st st' := by
  simp only [cancelBody, bind_eq_ok, exists_unit] at h
  obtain ⟨_, st₁, hwall, st₂, hexpire, h⟩ := h
  refine (writes_observeWallTime hwall).trans ((writes_expireLeases hexpire).trans ?_)
  split at h
  · split at h
    · cases h
    · split at h
      · cases h
        exact .refl
      · exact writes_insertCancel h
  · cases h

end Sdaqf
