import Sdaqf.BudgetAccounts

/-!
# Conservation of the budget

Along a live log every dispatch stands under a lease whose attempt was never closed, and a task
counts as running from the event that activates its lease to the event that ends the attempt. So the
totals of every reachable store are those of its open attempts.
-/

namespace Sdaqf

open Guard Store KeyedSums

variable {E : Environment} {ev : Evidence} {currentLeases : Table CurrentLease}
variable {pre log : List Entry} {entry : Entry} {taskId leaseId : String} {v w : TaskView}
variable {task : SchedulerTask} {dependenciesMet reviewsMet activated : Prop}

/-! ## One event of a task -/

/-- A live event about a task, with everything known of the task before it. -/
structure LiveStep (E : Environment) (ev : Evidence) (currentLeases : Table CurrentLease)
    (pre : List Entry) (entry : Entry) (task : SchedulerTask) (v w : TaskView) : Prop where
  known : ev.graph.task? task.taskId = some task
  before : taskView ev.graph pre task.taskId = some v
  after : taskView ev.graph (pre ++ [entry]) task.taskId = some w
  step : TaskStep E ev currentLeases pre entry task.taskId v w
  sound : v.Sound
  fenced : Fenced pre task.taskId v
  move : StepMove E ev pre entry task v w
  activated : ∀ leaseId ∈ activatedLeases pre task.taskId, entry.event.leaseId = some leaseId →
    activatedBefore E ev pre entry.event = true
  named : entry.event.cause = .dispatchIntent → ∀ row, w.Holds row →
    entry.event.leaseId = some row.authorityLeaseId

/-- Every event of a live log about a task is such a step. -/
theorem liveStep_of_accepted (hE : E.CollisionFree)
    (hpre : History.Accepted (LiveAccepted E ev currentLeases) pre)
    (hentry : LiveAccepted E ev currentLeases pre entry)
    (htask : entry.event.taskId = some taskId) :
    ∃ task v w, task.taskId = taskId ∧ LiveStep E ev currentLeases pre entry task v w := by
  have hlive : History.Accepted (LiveAccepted E ev currentLeases) (pre ++ [entry]) :=
    History.accepted_concat.mpr ⟨hpre, hentry⟩
  have haccepted : History.Accepted (AcceptedEntry E ev currentLeases) pre :=
    hpre.mono fun _ _ _ _ h => h.accepted
  rcases hentry.accepted.cases with ⟨hnone, _⟩ | ⟨task, prior, p, m, hjudged, hmove⟩
  · rw [taskId_eq_none.mpr hnone] at htask
    cases htask
  obtain rfl : task.taskId = taskId := Option.some.inj (hjudged.event_taskId.symm.trans htask)
  have hafter : taskView ev.graph (pre ++ [entry]) task.taskId =
      some (viewAt (pre ++ [entry]) task.taskId p) := by
    refine taskView_eq_some.mpr ⟨p, ?_, rfl⟩
    rw [← hjudged.taskId_eq, projectionAt_concat_of_task hjudged.recorded]
  refine ⟨task, _, _, rfl,
    { known := hjudged.taskId_eq ▸ hjudged.known
      before := hjudged.view_before
      after := hafter
      step :=
        { live := hlive.mono fun _ _ _ _ h => h.live
          step := hentry
          task := htask
          projection := ⟨hjudged.recorded, hjudged.taskId_eq⟩
          before := rfl
          after := rfl
          state := fun haudits => (hjudged.before_state haudits).1 }
      sound := sound_of_accepted haccepted hjudged.view_before
      fenced := fenced_of_live hE hpre hjudged.view_before
      move := hmove
      activated := fun leaseId hmem hid => activatedBefore_of_mem haccepted hmem hid
      named := ?_ }⟩
  rintro hcause row hholds
  obtain ⟨leaseId, hid, hopen⟩ := hjudged.egress_open (by rw [hcause]; rfl)
  obtain ⟨row', hrow', _, rfl⟩ := openIsLatest_of_live hlive _ _ hopen
  obtain rfl := Option.some.inj (hholds.1.symm.trans hrow')
  exact hid

/-- The number by which a task counts as running. -/
def TaskView.count (v : TaskView) : Int := if v.projection.state = .running then 1 else 0

namespace LiveStep

variable (h : LiveStep E ev currentLeases pre entry task v w)
include h

theorem after_state : entry.event.afterState = some w.projection.state := by
  rw [SchedulerEvent.afterState, h.step.projection.1]
  rfl

/-- A running task does not lose its lease as a proposal. -/
theorem not_proposal {row : LeaseRow} (hrunning : v.projection.state = .running)
    (hholds : v.Holds row) (named : entry.event.leaseId = some row.authorityLeaseId)
    (proposal : ¬ activatedBefore E ev pre entry.event = true) : False :=
  proposal (h.activated _ (h.fenced.running hholds hrunning).1 named)

/-- An event counts its task as running or not as the budget does. -/
theorem count : w.count = v.count + concurrencyChange entry.event := by
  have hstate := h.step.state
  have hafter := h.after_state
  cases h.move with
  | audit cause =>
    cases hc : entry.event.cause <;>
      simp_all [concurrencyChange, EventCause.audits, EventCause.settlesAttempt]
  | approvalConsumed cause => simp [cause, concurrencyChange, EventCause.settlesAttempt]
  | cancelRequested cause =>
    simp [cause, concurrencyChange, EventCause.settlesAttempt, TaskView.count]
  | dispatchAccepted cause =>
    simp [cause, concurrencyChange, EventCause.settlesAttempt, TaskView.count]
  | heartbeat cause => simp [cause, concurrencyChange, EventCause.settlesAttempt, TaskView.count]
  | ended cause running _ _ allowed =>
    have hchange : concurrencyChange entry.event = -1 := by
      cases hc : entry.event.cause <;>
        simp_all [concurrencyChange, EventCause.endsAttempt, EventCause.settlesAttempt]
    rw [hchange, TaskView.count, TaskView.count, running]
    rcases allowed with h | h | h | h <;> simp [endedProjection, h]
  | worktreeClosed cause running =>
    have hblocked : entry.event.afterState = some .blocked := hafter
    simp [concurrencyChange, cause, hblocked, TaskView.count, running, endedProjection]
  | worktreeObserved cause running =>
    have hrunning : entry.event.afterState = some .running := by rw [hafter, running]
    simp [concurrencyChange, cause, hrunning, TaskView.count]
  | proposalExpired cause state holds named proposal =>
    have hidle : v.projection.state ≠ .running := fun hrunning =>
      h.not_proposal hrunning holds named proposal
    simp [concurrencyChange, cause, EventCause.settlesAttempt, TaskView.count, hidle]
  | resultReceived cause running =>
    simp [concurrencyChange, cause, EventCause.settlesAttempt, TaskView.count, running]
  | verified cause state =>
    simp [concurrencyChange, cause, EventCause.settlesAttempt, TaskView.count, state]
  | verificationBlocked cause state =>
    simp [concurrencyChange, cause, EventCause.settlesAttempt, TaskView.count, state]
  | dispatched cause ready =>
    have hbefore := hstate (by rw [cause]; rfl)
    simp [concurrencyChange, cause, hbefore, TaskView.count, ready, takenProjection]
  | dispatchedBehindWorktree cause running =>
    have hbefore := hstate (by rw [cause]; rfl)
    simp [concurrencyChange, cause, hbefore, TaskView.count, running]
  | worktreeRequested cause ready =>
    simp [concurrencyChange, cause, TaskView.count, ready, takenProjection]
  | approvalBlocked cause ready =>
    simp [concurrencyChange, cause, EventCause.settlesAttempt, TaskView.count, ready,
      takenProjection]
  | approvalBlockedBehindWorktree cause =>
    simp [concurrencyChange, cause, EventCause.settlesAttempt, TaskView.count]
  | budgetBlocked cause ready =>
    simp [concurrencyChange, cause, EventCause.settlesAttempt, TaskView.count, ready]
  | budgetBlockedBehindWorktree cause =>
    simp [concurrencyChange, cause, EventCause.settlesAttempt, TaskView.count]
  | refreshed cause refreshable _ target_state =>
    have hidle (s : TaskState) (hs : EventCause.readinessState s = true) : s ≠ .running := by
      rintro rfl
      cases hs
    simp [concurrencyChange, cause, EventCause.settlesAttempt, TaskView.count,
      hidle _ refreshable, hidle _ target_state]

/-- After an event a task holds what it held before, or a lease that was never activated. -/
theorem held_cases (hE : E.CollisionFree) {row : LeaseRow} (hholds : w.Holds row) :
    (∃ old, v.Holds old ∧ old.authorityLeaseId = row.authorityLeaseId) ∨
      row.authorityLeaseId ∉ activatedLeases pre task.taskId := by
  have hkept (hlease : w.lease = v.lease) :
      ∃ old, v.Holds old ∧ old.authorityLeaseId = row.authorityLeaseId :=
    ⟨row, ⟨hlease ▸ hholds.1, hholds.2⟩, rfl⟩
  have hfree (hw : w.Free) : False := hw row hholds
  have hnext {reused : Bool} {taken : LeaseRow} (hlease : w.lease = some taken)
      (hcause : entry.event.cause.takesLease = true) (hready : v.projection.state = .ready)
      (hattempt : w.projection.attempt = v.projection.attempt + (if reused then 0 else 1))
      (hfence : w.projection.fence = v.projection.fence + (if reused then 0 else 1))
      (taking : Taking E ev task entry.event v taken reused) :
      row.authorityLeaseId ∉ activatedLeases pre task.taskId := by
    obtain rfl := Option.some.inj (hlease.symm.trans hholds.1)
    exact (h.step.nextAttempt hE h.sound h.fenced hholds hcause hready hattempt hfence taking).new
  cases h.move with
  | heartbeat _ _ holds =>
    obtain rfl := Option.some.inj hholds.1
    exact .inl ⟨_, holds, rfl⟩
  | ended => exact absurd (TaskView.afterRelease_free) hfree
  | worktreeClosed => exact absurd (TaskView.afterRelease_free) hfree
  | proposalExpired => exact absurd (TaskView.afterRelease_free) hfree
  | resultReceived => exact absurd (TaskView.afterRelease_free) hfree
  | dispatched cause ready taking =>
    exact .inr (hnext rfl (by rw [cause]; rfl) ready rfl rfl taking)
  | worktreeRequested cause ready taking =>
    exact .inr (hnext rfl (by rw [cause]; rfl) ready rfl rfl taking)
  | approvalBlocked cause ready taking =>
    exact .inr (hnext rfl (by rw [cause]; rfl) ready rfl rfl taking)
  | _ => exact .inl (hkept rfl)

/-- An event that ends an attempt releases the activated lease it names. -/
theorem closes (hc : entry.event.cause.settlesAttempt = true) :
    w.Free ∧ ∃ row, v.Holds row ∧ entry.event.leaseId = some row.authorityLeaseId ∧
      row.authorityLeaseId ∈ activatedLeases pre task.taskId := by
  cases h.move with
  | ended _ running holds named =>
    exact ⟨TaskView.afterRelease_free, _, holds, named, (h.fenced.running holds running).1⟩
  | resultReceived _ running holds named =>
    exact ⟨TaskView.afterRelease_free, _, holds, named, (h.fenced.running holds running).1⟩
  | audit cause =>
    cases hcause : entry.event.cause <;> simp_all [EventCause.audits, EventCause.settlesAttempt]
  | _ => simp_all [EventCause.settlesAttempt]

end LiveStep

/-! ## Leases of closed attempts -/

/-- An accepted event about no task opens, accepts and ends no attempt. -/
theorem AcceptedEntry.scope (h : AcceptedEntry E ev currentLeases pre entry)
    (hnone : entry.event.taskProjection = none) : entry.event.cause.scope ≠ .task := by
  have hvalid := h.validated
  simp only [validateEntry, validateEventSemantics, bind_eq_ok, exists_unit] at hvalid
  obtain ⟨_, _, hvalid⟩ := hvalid
  split at hvalid
  · next hc =>
    rw [hc]
    decide
  · simp only [validateScope, bind_eq_ok, exists_unit, require_eq_ok] at hvalid
    exact fun hscope => hvalid.1.2 hscope hnone

theorem AcceptedEntry.task_of_scope (h : AcceptedEntry E ev currentLeases pre entry)
    (hscope : entry.event.cause.scope = .task) : ∃ taskId, entry.event.taskId = some taskId := by
  cases hp : entry.event.taskProjection with
  | none => exact absurd hscope (h.scope hp)
  | some p => exact ⟨p.taskId, taskId_of_taskProjection hp⟩

/-- A lease of a task whose attempt is over: it was activated and the task does not hold it. -/
structure Retired (graph : TaskGraph) (log : List Entry) (taskId leaseId : String) : Prop where
  activated : leaseId ∈ activatedLeases log taskId
  written : ∃ row ∈ leaseHistory log, row.authorityLeaseId = leaseId ∧ row.lease.taskId = taskId
  free : ∀ v, taskView graph log taskId = some v → ∀ row, v.Holds row →
    row.authorityLeaseId ≠ leaseId

theorem activatedLeases_mono (h : leaseId ∈ activatedLeases pre taskId) (entry : Entry) :
    leaseId ∈ activatedLeases (pre ++ [entry]) taskId := by
  obtain ⟨e, he, hactivates⟩ := exists_activates h
  exact mem_activatedLeases hactivates (List.mem_append_left _ he)

theorem Retired.step (hE : E.CollisionFree)
    (hpre : History.Accepted (LiveAccepted E ev currentLeases) pre)
    (hentry : LiveAccepted E ev currentLeases pre entry) (h : Retired ev.graph pre taskId leaseId) :
    Retired ev.graph (pre ++ [entry]) taskId leaseId := by
  obtain ⟨row, hrow, hrow'⟩ := h.written
  refine ⟨activatedLeases_mono h.activated entry,
    ⟨row, by rw [leaseHistory_append]; exact List.mem_append_left _ hrow, hrow'⟩,
    fun w hw row hholds => ?_⟩
  by_cases htask : entry.event.taskId = some taskId
  · obtain ⟨task, v, w', rfl, hstep⟩ := liveStep_of_accepted hE hpre hentry htask
    obtain rfl := Option.some.inj (hw.symm.trans hstep.after)
    rcases hstep.held_cases hE hholds with ⟨old, hold, hsame⟩ | hnew
    · exact hsame ▸ h.free v hstep.before old hold
    · rintro rfl
      exact hnew h.activated
  · rw [taskView_of_ne hentry.accepted.rows htask] at hw
    exact h.free w hw row hholds

/-- An event that ends an attempt retires the lease it names. -/
theorem retired_of_closing (hE : E.CollisionFree)
    (hpre : History.Accepted (LiveAccepted E ev currentLeases) pre)
    (hentry : LiveAccepted E ev currentLeases pre entry)
    (hc : entry.event.cause.settlesAttempt = true) (hlease : entry.event.leaseId = some leaseId) :
    ∃ taskId, Retired ev.graph (pre ++ [entry]) taskId leaseId := by
  obtain ⟨taskId, htask⟩ := hentry.accepted.task_of_scope (by
    revert hc
    cases entry.event.cause <;> decide)
  obtain ⟨task, v, w, rfl, hstep⟩ := liveStep_of_accepted hE hpre hentry htask
  obtain ⟨hfree, row, hholds, hnamed, hactivated⟩ := hstep.closes hc
  obtain rfl := Option.some.inj (hlease.symm.trans hnamed)
  have hlatest := hstep.step.before.symm.trans hholds.1
  refine ⟨task.taskId, activatedLeases_mono hactivated entry, ⟨row, ?_, rfl,
    latestLeaseRow_taskId hlatest⟩, fun w' hw' row' hrow' => ?_⟩
  · rw [leaseHistory_append]
    exact List.mem_append_left _ (latestLeaseRow_mem hlatest)
  · obtain rfl := Option.some.inj (hstep.after.symm.trans hw')
    exact absurd hrow' (hfree row')

/-- Every lease whose attempt was closed is retired. -/
theorem retired_of_closed (hE : E.CollisionFree)
    (h : History.Accepted (LiveAccepted E ev currentLeases) log)
    (hclosed : attemptClosed log leaseId = true) :
    ∃ taskId, Retired ev.graph log taskId leaseId := by
  induction log using List.reverseRecOn with
  | nil => cases hclosed
  | append_singleton pre entry ih =>
    obtain ⟨hpre, hentry⟩ := History.accepted_concat.mp h
    rw [attemptClosed_concat, Bool.or_eq_true, Bool.and_eq_true, decide_eq_true_eq] at hclosed
    rcases hclosed with hclosed | ⟨hlease, hc⟩
    · obtain ⟨taskId, hretired⟩ := ih hpre hclosed
      exact ⟨taskId, hretired.step hE hpre hentry⟩
    · exact retired_of_closing hE hpre hentry hc hlease

/-- A dispatch of a task stands under the lease the task holds after it. -/
theorem LiveStep.dispatch_holds (h : LiveStep E ev currentLeases pre entry task v w)
    (hc : entry.event.cause = .dispatchIntent) :
    ∃ row, w.Holds row ∧ entry.event.leaseId = some row.authorityLeaseId := by
  have hholds : ∃ row, w.Holds row := by
    cases h.move with
    | dispatched _ _ taking => exact ⟨_, taking.holds rfl⟩
    | dispatchedBehindWorktree _ running => exact h.sound.running running
    | audit cause => simp [hc, EventCause.audits] at cause
    | ended cause => simp [hc, EventCause.endsAttempt] at cause
    | _ => simp_all
  obtain ⟨row, hrow⟩ := hholds
  exact ⟨row, hrow, h.named hc row hrow⟩

/-- A dispatch never stands under the lease of a closed attempt. -/
theorem dispatch_open (hE : E.CollisionFree)
    (hpre : History.Accepted (LiveAccepted E ev currentLeases) pre)
    (hentry : LiveAccepted E ev currentLeases pre entry)
    (hc : entry.event.cause = .dispatchIntent) (hlease : entry.event.leaseId = some leaseId) :
    attemptClosed pre leaseId = false := by
  by_contra hclosed
  obtain ⟨closedTask, hretired⟩ := retired_of_closed hE hpre (by simpa using hclosed)
  obtain ⟨taskId, htask⟩ := hentry.accepted.task_of_scope (by rw [hc]; rfl)
  obtain ⟨task, v, w, rfl, hstep⟩ := liveStep_of_accepted hE hpre hentry htask
  obtain ⟨row, hholds, hnamed⟩ := hstep.dispatch_holds hc
  obtain rfl := Option.some.inj (hlease.symm.trans hnamed)
  -- both tasks held the lease, so they are one task
  obtain ⟨old, hold, hauthority, htask_old⟩ := hretired.written
  obtain ⟨hrow, htask_row⟩ := hstep.step.held_after hholds
  have hrenews := renews_of_authority hE hstep.step.live
    (by rw [leaseHistory_append]; exact List.mem_append_left _ hold) hrow hauthority
  rw [Lease.Renews] at hrenews
  obtain rfl : closedTask = task.taskId := by rw [← htask_old, hrenews, ← htask_row]
  rcases hstep.held_cases hE hholds with ⟨held, hheld, hsame⟩ | hnew
  · exact hretired.free v hstep.before held hheld hsame
  · exact hnew hretired.activated

/-! ## The accounts of a log -/

variable {b b' : BudgetReplay}

/-- The number of running tasks at the end of a log. -/
def runningTotal (graph : TaskGraph) (log : List Entry) : Int :=
  total (fun task => (taskView graph log task.taskId).elim 0 TaskView.count) graph.tasks

/-- An event changes the number of running tasks as it changes the reserved concurrency. -/
theorem runningTotal_concat (hE : E.CollisionFree) (hids : ev.graph.UniqueTasks)
    (hpre : History.Accepted (LiveAccepted E ev currentLeases) pre)
    (hentry : LiveAccepted E ev currentLeases pre entry) :
    runningTotal ev.graph (pre ++ [entry]) =
      runningTotal ev.graph pre + concurrencyChange entry.event := by
  by_cases hnone : entry.event.taskId = none
  · have hchange : concurrencyChange entry.event = 0 := by
      have hscope := hentry.accepted.scope (taskId_eq_none.mp hnone)
      revert hscope
      cases hc : entry.event.cause <;>
        simp [concurrencyChange, hc, EventCause.scope, EventCause.settlesAttempt]
    rw [hchange, Int.add_zero]
    refine total_congr fun task _ => ?_
    rw [taskView_of_ne hentry.accepted.rows (by simp [hnone])]
  · obtain ⟨taskId, htask⟩ := Option.ne_none_iff_exists'.mp hnone
    obtain ⟨task, v, w, rfl, hstep⟩ := liveStep_of_accepted hE hpre hentry htask
    have hposting := total_posting
      (f := fun task => (taskView ev.graph pre task.taskId).elim 0 TaskView.count)
      (g := fun task => (taskView ev.graph (pre ++ [entry]) task.taskId).elim 0 TaskView.count)
      (hids : (ev.graph.tasks.map (·.taskId)).Nodup) (TaskGraph.task?_mem hstep.known)
      fun other _ hne => by
        rw [taskView_of_ne hentry.accepted.rows (by simpa [htask] using Ne.symm hne)]
    rw [hstep.before, hstep.after, Option.elim_some, Option.elim_some, hstep.count] at hposting
    rw [runningTotal, hposting, runningTotal]
    omega

/-- What the replay of the budget says at the end of a live log. -/
structure BudgetAccounts (E : Environment) (ev : Evidence) (log : List Entry) (b : BudgetReplay) :
    Prop where
  books : Books E ev log b
  running : b.reserved .concurrency = runningTotal ev.graph log
  limits : ∀ r, r ≠ .wallTimeSeconds → b.reserved r + b.used r ≤ budgetLimits ev.graph r
  latest : ∀ ledger, b.latest = some ledger → ledger.reserved = b.reserved ∧ ledger.used = b.used

theorem accounts_nil : BudgetAccounts E ev [] .initial where
  books := books_nil
  running := by
    have hinitial (task : SchedulerTask) :
        (taskView ev.graph [] task.taskId).elim 0 TaskView.count = 0 := by
      cases hknown : ev.graph.task? task.taskId with
      | none => simp [taskView, projectionAt, recordedProjection, hknown]
      | some known =>
        simp only [taskView, projectionAt, recordedProjection, History.lastWhere_nil,
          Option.bind_none, Option.none_or, hknown, Option.map_some, Option.elim_some,
          TaskView.count, SchedulerTask.initialProjection]
        split <;> simp_all
    rw [runningTotal, total_congr (f := fun _ => 0) fun task _ => hinitial task]
    simp [BudgetReplay.initial, total]
  limits r _ := by cases r <;> simp [BudgetReplay.initial, budgetLimits]
  latest := by simp [BudgetReplay.initial]

/-- The snapshot a replay carries is not part of its books. -/
theorem Books.withLatest (h : Books E ev log b) (latest : Option BudgetLedger) :
    Books E ev log { b with latest := latest } :=
  ⟨h.distinct, h.outstanding, h.held, h.acknowledged, h.reserved, h.unreserved, h.dispatches,
    h.retries⟩

/-- Every accepted entry keeps the accounts. -/
theorem BudgetAccounts.step (hE : E.CollisionFree) (hids : ev.graph.UniqueTasks)
    (hpre : History.Accepted (LiveAccepted E ev currentLeases) pre)
    (hentry : LiveAccepted E ev currentLeases pre entry) (h : BudgetAccounts E ev pre b)
    (hb : validateBudgetEntry E ev b entry = .ok b') : BudgetAccounts E ev (pre ++ [entry]) b' := by
  obtain ⟨effect, heffect, _, hlimits, hledger, rfl⟩ := validateBudgetEntry_eq_ok hb
  have hpost := posting_of_effect heffect
  have hbooks := h.books.post hpost fun leaseId hc hlease =>
    dispatch_open hE hpre hentry hc hlease
  refine ⟨hbooks.withLatest _, ?_, fun r hr => ?_, fun ledger hlatest => ?_⟩
  · exact (hpost.concurrency.trans (by rw [h.running])).trans
      (runningTotal_concat hE hids hpre hentry).symm
  · by_cases hc : entry.event.cause = .initialization
    · simp only [budgetEffect, hc, if_true, Except.ok.injEq] at heffect
      subst heffect
      exact h.limits r hr
    · have hvalid := hlimits hc
      simp only [validateLimits, bind_eq_ok, exists_unit, require_eq_ok] at hvalid
      exact hvalid.1 r hr
  · rw [hledger] at hlatest
    cases hchanged : effect.changed with
    | true =>
      simp only [hchanged, if_true, Option.some_or, Option.some.injEq] at hlatest
      subst hlatest
      exact ⟨rfl, rfl⟩
    | false =>
      have hsame := budgetEffect_unchanged heffect hchanged
      simp only [hchanged, Bool.false_eq_true, if_false, Option.none_or, hsame] at hlatest ⊢
      exact h.latest ledger hlatest

theorem accounts_of_live (hE : E.CollisionFree) (hids : ev.graph.UniqueTasks)
    (h : History.Accepted (LiveAccepted E ev currentLeases) log)
    (hb : replayBudget E ev log = .ok b) : BudgetAccounts E ev log b := by
  induction log using List.reverseRecOn generalizing b with
  | nil =>
    cases hb
    exact accounts_nil
  | append_singleton pre entry ih =>
    obtain ⟨hpre, hentry⟩ := History.accepted_concat.mp h
    rw [replayBudget, foldE_append, bind_eq_ok] at hb
    obtain ⟨c, hc, hb⟩ := hb
    simp only [foldE_cons, foldE_nil, bind_eq_ok, Except.ok.injEq, exists_eq_right] at hb
    exact (ih hpre hc).step hE hids hpre hentry hb

/-! ## Messages of activating events -/

/-- An accepted event that activates a lease adopted a message about its task and its lease. -/
theorem AcceptedEntry.activating_message (h : AcceptedEntry E ev currentLeases pre entry)
    (hc : entry.event.cause.activates = true) :
    ∃ taskId id m, entry.event.taskId = some taskId ∧ entry.event.messageId = some id ∧
      ev.message? E id = some m ∧ m.messageType.primaryCauses = [entry.event.cause] ∧
      m.taskId? = some taskId ∧ m.leaseId? = entry.event.leaseId := by
  rcases h.cases with ⟨hnone, _⟩ | ⟨task, prior, p, m, hjudged, _⟩
  · refine absurd ?_ (h.scope hnone)
    revert hc
    cases entry.event.cause <;> decide
  have hmessage := hjudged.message
  have hidentity := hjudged.evidence_parts.1
  obtain ⟨id, m', hid, hm', rfl, htype⟩ : ∃ id m', entry.event.messageId = some id ∧
      ev.message? E id = some m' ∧ m = some m' ∧
      m'.messageType.primaryCauses = [entry.event.cause] := by
    rw [EventCause.activates, Bool.or_eq_true, decide_eq_true_eq, decide_eq_true_eq] at hc
    rcases hc with hc | hc <;>
    · simp only [causalMessage, hc, EventCause.messageType, bind_eq_ok, exists_unit,
        fromOption_eq_ok, require_eq_ok, pure_eq_ok] at hmessage
      obtain ⟨id, hid, m', hm', htype, _, rfl⟩ := hmessage
      exact ⟨id, m', hid, hm', rfl, by rw [htype, hc]; rfl⟩
  have hagrees := hidentity m' rfl
  simp only [validateMessageIdentity, bind_eq_ok, exists_unit, require_eq_ok] at hagrees
  obtain ⟨⟨_, _, htask, _⟩, hlease, _⟩ := hagrees
  refine ⟨task.taskId, id, m', hjudged.event_taskId, hid, hm', htype,
    htask.trans hjudged.event_taskId, (hlease ?_).symm⟩
  revert hc
  cases entry.event.cause <;> decide

theorem mem_adoptions {a : Adoption} : a ∈ ev.adoptions E log ↔
    ∃ entry ∈ log, entry.event = a.event ∧ a.event.cause.isPrimary = true ∧
      a.event.messageId = some a.messageId ∧ ev.message? E a.messageId = some a.message := by
  simp only [Evidence.adoptions, List.mem_filterMap, List.mem_map, adoptionOf]
  constructor
  · rintro ⟨e, ⟨entry, hentry, rfl⟩, ha⟩
    split at ha
    · next hprimary =>
      simp only [Option.bind_eq_some_iff, Option.map_eq_some_iff] at ha
      obtain ⟨id, hid, m, hm, rfl⟩ := ha
      exact ⟨entry, hentry, rfl, hprimary, hid, hm⟩
    · cases ha
  · rintro ⟨entry, hentry, he, hprimary, hid, hm⟩
    exact ⟨a.event, ⟨entry, hentry, he⟩, by simp [hprimary, hid, hm]⟩

theorem accepted_of_mem (h : History.Accepted (AcceptedEntry E ev currentLeases) log)
    (hentry : entry ∈ log) : ∃ pre, AcceptedEntry E ev currentLeases pre entry := by
  obtain ⟨pre, post, rfl⟩ := List.append_of_mem hentry
  exact ⟨pre, h.of_append_cons⟩

variable {st : Store}

/-- The program finds an activation in the mailbox exactly where the log has one. -/
theorem ValidStore.leaseWasActivated (h : ValidStore E st) :
    st.leaseWasActivated E taskId leaseId = true ↔ leaseId ∈ activatedLeases st.log taskId := by
  rw [Store.leaseWasActivated, List.any_eq_true]
  have hlog := h.evidence.acceptedEntries
  constructor
  · rintro ⟨a, ha, hmatch⟩
    rw [decide_eq_true_eq] at hmatch
    obtain ⟨hcause, htask, hlease⟩ := hmatch
    obtain ⟨entry, hentry, he, _, hid, hm⟩ := mem_adoptions.mp ha
    have hactivates : entry.event.cause.activates = true := by
      rw [he]
      rcases hcause with hc | hc <;> simp [hc, EventCause.activates]
    obtain ⟨pre, haccepted⟩ := accepted_of_mem hlog hentry
    obtain ⟨k, id, m, hk, hid', hm', _, htask', hlease'⟩ :=
      haccepted.activating_message hactivates
    rw [he, hid, Option.some.injEq] at hid'
    subst hid'
    obtain rfl := Option.some.inj (hm.symm.trans hm')
    obtain rfl := Option.some.inj (htask.symm.trans htask')
    exact mem_activatedLeases ⟨hactivates, hk, hlease'.symm.trans hlease⟩ hentry
  · intro hmem
    obtain ⟨entry, hentry, hactivates, htask, hlease⟩ := exists_activates hmem
    obtain ⟨pre, haccepted⟩ := accepted_of_mem hlog hentry
    obtain ⟨k, id, m, hk, hid, hm, _, htask', hlease'⟩ := haccepted.activating_message hactivates
    obtain rfl := Option.some.inj (htask.symm.trans hk)
    refine ⟨⟨entry.event, id, m⟩, mem_adoptions.mpr ⟨entry, hentry, rfl, ?_, hid, hm⟩, ?_⟩
    · revert hactivates
      cases entry.event.cause <;> decide
    · rw [decide_eq_true_eq]
      refine ⟨?_, htask', hlease'.trans hlease⟩
      simpa [EventCause.activates] using hactivates

/-! ## What a lease has outstanding -/

/-- The task and the lease a dispatch intent names. -/
def dispatchLease (e : SchedulerEvent) : Option (String × String) :=
  if e.cause = .dispatchIntent then
    e.taskId.bind fun taskId => e.leaseId.map fun leaseId => (taskId, leaseId)
  else none

/-- The tasks and the leases of the dispatch intents of a log, in their order. -/
def dispatchedLeases (log : List Entry) : List (String × String) :=
  log.filterMap fun entry => dispatchLease entry.event

/-- What the program finds outstanding of a resource under a lease. -/
def Store.outstandingOf (E : Environment) (st : Store) (r : Resource) (d : String × String) : Int :=
  (st.outstandingForLease E d.1 d.2).elim 0 fun outstanding => (outstanding r : Int)

/-- A dispatch intent makes its reservation under the lease it names. -/
theorem AcceptedEntry.reservation (h : AcceptedEntry E ev currentLeases pre entry)
    (hc : entry.event.cause = .dispatchIntent) :
    ∃ taskId leaseId id m payload, entry.event.taskId = some taskId ∧
      entry.event.leaseId = some leaseId ∧ entry.event.messageId = some id ∧
      ev.message? E id = some m ∧ m.dispatch? = some payload ∧ m.taskId? = some taskId ∧
      m.leaseId? = some leaseId ∧
      reservationOf E ev entry.event = some (leaseId, payload.budgetReservation) := by
  obtain ⟨taskId, id, m, htask, hid, hm, htype, hmtask, hmlease⟩ :=
    h.activating_message (by rw [hc]; rfl)
  obtain ⟨payload, hpayload⟩ : ∃ payload, m.dispatch? = some payload := by
    rw [hc] at htype
    cases hbody : m.body with
    | capabilityObservation =>
      simp [MailboxMessage.messageType, hbody, MessageType.primaryCauses] at htype
    | task identity payload =>
      cases payload <;>
        simp_all [MailboxMessage.messageType, TaskPayload.messageType, MessageType.primaryCauses,
          MailboxMessage.dispatch?]
  obtain ⟨leaseId, hlease⟩ : ∃ leaseId, m.leaseId? = some leaseId := by
    cases hbody : m.body with
    | capabilityObservation => simp [MailboxMessage.dispatch?, hbody] at hpayload
    | task identity =>
      exact ⟨identity.leaseId, by simp [MailboxMessage.leaseId?, MailboxMessage.identity?, hbody]⟩
  have hevent := hmlease.symm.trans hlease
  exact ⟨taskId, leaseId, id, m, payload, htask, hevent, hid, hm, hpayload, hmtask, hlease,
    by simp [reservationOf, hc, hevent, hid, hm, hpayload]⟩

theorem dispatchedLeases_eq (h : History.Accepted (AcceptedEntry E ev currentLeases) log) :
    (dispatchedLeases log).map (·.2) = (reservations E ev log).map (·.1) := by
  rw [dispatchedLeases, reservations, List.map_filterMap, List.map_filterMap]
  refine List.filterMap_congr fun entry hentry => ?_
  by_cases hc : entry.event.cause = .dispatchIntent
  · obtain ⟨pre, haccepted⟩ := accepted_of_mem h hentry
    obtain ⟨taskId, leaseId, _, _, _, htask, hlease, _, _, _, _, _, hmade⟩ :=
      haccepted.reservation hc
    simp [dispatchLease, hc, htask, hlease, hmade]
  · simp [dispatchLease, reservationOf, hc]

/-- The reservation the program reads for a dispatched lease is the one of its only dispatch. -/
theorem Books.reservationForLease {b : BudgetReplay} (h : ValidStore E st)
    (hbooks : Books E st.evidence st.log b) (hentry : entry ∈ st.log)
    (hc : entry.event.cause = .dispatchIntent) (htask : entry.event.taskId = some taskId)
    {reservation : BudgetReservation}
    (hmade : reservationOf E st.evidence entry.event = some (leaseId, reservation)) :
    st.dispatchReservationForLease E taskId leaseId = some reservation := by
  have hlog := h.evidence.acceptedEntries
  have hlease := (leaseId_of_reservation hmade).2
  rw [dispatchReservationForLease, Evidence.dispatchForLease]
  cases hlast : History.lastWhere
      (fun a : Adoption => decide (a.message.taskId? = some taskId ∧
        a.message.leaseId? = some leaseId))
      (st.evidence.adoptionsOf E st.evidence.log .dispatchIntent) with
  | none =>
    obtain ⟨pre, haccepted⟩ := accepted_of_mem hlog hentry
    obtain ⟨k, id, m, hk, hid, hm, htype, hmtask, hmlease⟩ :=
      haccepted.activating_message (by rw [hc]; rfl)
    obtain rfl := Option.some.inj (htask.symm.trans hk)
    have hadopted : (⟨entry.event, id, m⟩ : Adoption) ∈
        st.evidence.adoptionsOf E st.evidence.log .dispatchIntent := by
      refine List.mem_filter.mpr
        ⟨mem_adoptions.mpr ⟨entry, hentry, rfl, by rw [hc]; rfl, hid, hm⟩, ?_⟩
      have : m.messageType = .dispatchIntent := by
        rw [hc] at htype
        revert htype
        cases m.messageType <;> simp [MessageType.primaryCauses]
      simp [hc, this, EventCause.messageType]
    have := History.lastWhere_eq_none.mp hlast _ hadopted
    simp [hmtask, hmlease, hlease] at this
  | some a =>
    obtain ⟨hadopted, hmatch⟩ := History.of_lastWhere_eq_some hlast
    obtain ⟨hadoption, hcause⟩ := List.mem_filter.mp hadopted
    rw [decide_eq_true_eq] at hmatch hcause
    obtain ⟨other, hother, he, _, hid, hm⟩ := mem_adoptions.mp hadoption
    obtain ⟨pre, haccepted⟩ := accepted_of_mem hlog hother
    obtain ⟨_, otherLease, id, m, payload, _, _, hid', hm', hpayload, _, hmlease, hmade'⟩ :=
      haccepted.reservation (by rw [he, hcause.1])
    rw [he, hid, Option.some.injEq] at hid'
    subst hid'
    obtain rfl := Option.some.inj (hm.symm.trans hm')
    obtain rfl := Option.some.inj (hmlease.symm.trans hmatch.2)
    have hsame := List.inj_on_of_nodup_map hbooks.distinct
      (List.mem_filterMap.mpr ⟨other, hother, hmade'⟩)
      (List.mem_filterMap.mpr ⟨entry, hentry, hmade⟩) rfl
    simp only [Prod.mk.injEq, true_and] at hsame
    simp [hpayload, hsame]

/-- The program finds outstanding under a dispatched lease what the replay has booked. -/
theorem Books.outstandingOf {b : BudgetReplay} (h : ValidStore E st)
    (hbooks : Books E st.evidence st.log b) {d : String × String} (hd : d ∈ dispatchedLeases st.log)
    {r : Resource} (hr : r ∈ reservable) : st.outstandingOf E r d = b.held d.2 r := by
  obtain ⟨entry, hentry, hlease⟩ := List.mem_filterMap.mp hd
  have hc : entry.event.cause = .dispatchIntent := by
    by_contra hc
    simp [dispatchLease, hc] at hlease
  obtain ⟨pre, haccepted⟩ := accepted_of_mem h.evidence.acceptedEntries hentry
  obtain ⟨taskId, leaseId, _, _, payload, htask, hevent, _, _, _, _, _, hmade⟩ :=
    haccepted.reservation hc
  obtain rfl : (taskId, leaseId) = d := by simpa [dispatchLease, hc, htask, hevent] using hlease
  rw [Store.outstandingOf, outstandingForLease, hbooks.reservationForLease h hentry hc htask hmade,
    Option.map_some, Option.elim_some,
    hbooks.held _ (List.mem_filterMap.mpr ⟨entry, hentry, hmade⟩) r hr]
  by_cases hsettled : settled st.log leaseId r = true <;> simp [hsettled]

/-! ## Reachable stores -/

/-- The number of running tasks in the task table. -/
def Store.runningTasks (st : Store) : Nat :=
  st.graph.tasks.countP fun task =>
    (st.projection? task.taskId).any fun p => decide (p.state = .running)

/-- The budget replay of a valid store gives its totals. -/
theorem ValidStore.totals (h : ValidStore E st) :
    ∃ b, replayBudget E st.evidence st.log = .ok b ∧
      ((∀ ledger, b.latest = some ledger → ledger.reserved = b.reserved ∧ ledger.used = b.used) →
        st.reserved = b.reserved ∧ st.used = b.used) := by
  obtain ⟨b, _, hb, _⟩ := h.evidence.budget
  refine ⟨b, hb, fun hlatest => ?_⟩
  obtain ⟨ledger, hledger, htotals⟩ := h.projected.budgetTotals
  obtain ⟨hreserved, hused⟩ := hlatest ledger ((replayBudget_latest hb).trans hledger)
  constructor <;> funext r
  · rw [Store.reserved, htotals, hreserved]
  · rw [Store.used, htotals, hused]

/-- The accounts of a reachable store are those of its log. -/
theorem Reachable.accounts (hE : E.CollisionFree) (h : Reachable E st) :
    ∃ b, BudgetAccounts E st.evidence st.log b ∧ st.reserved = b.reserved ∧ st.used = b.used := by
  obtain ⟨b, hb, htotals⟩ := h.validStore.totals
  have haccounts :=
    accounts_of_live hE h.validStore.projected.tasks_sorted.nodup h.liveAccepted hb
  exact ⟨b, haccounts, htotals haccounts.latest⟩

/-- No total of a reachable store is negative. -/
theorem Reachable.totals_nonneg (h : Reachable E st) (r : Resource) :
    0 ≤ st.reserved r ∧ 0 ≤ st.used r := by
  have hvalid := h.validate
  simp only [Store.validate, validateProjections, bind_eq_ok, exists_unit, require_eq_ok] at hvalid
  obtain ⟨_, ⟨_, _, _, _, _, hnonneg, _⟩, _⟩ := hvalid
  exact hnonneg r

theorem ValidStore.projection? (h : ValidStore E st) (hknown : task ∈ st.graph.tasks) :
    st.projection? task.taskId = projectionAt st.graph st.log task.taskId := by
  have htask := TaskGraph.task?_of_mem h.projected.tasks_sorted.nodup hknown
  rw [Store.projection?, h.projected.tasks, htask, Option.bind_some, Option.map_map]
  exact Option.map_id'

theorem ValidStore.runningTotal (h : ValidStore E st) :
    runningTotal st.graph st.log = st.runningTasks := by
  rw [Store.runningTasks, ← total_indicator, Sdaqf.runningTotal]
  refine total_congr fun task htask => ?_
  rw [h.projection? htask, taskView]
  cases projectionAt st.graph st.log task.taskId <;> simp [TaskView.count]

/-- The view of a task with a projection in the table. -/
theorem ValidStore.view_of_projection (h : ValidStore E st) {p : TaskProjection}
    (hp : st.projection? taskId = some p) :
    taskId ∈ st.graph.tasks.map (·.taskId) ∧
      taskView st.graph st.log taskId = some (viewAt st.log taskId p) := by
  rw [Store.projection?, h.projected.tasks] at hp
  obtain ⟨row, hrow, rfl⟩ := Option.map_eq_some_iff.mp hp
  obtain ⟨task, htask, hview⟩ := Option.bind_eq_some_iff.mp hrow
  obtain ⟨q, hq, rfl⟩ := Option.map_eq_some_iff.mp hview
  exact ⟨TaskGraph.task?_isSome.mp (by rw [Store.graph, htask]; rfl),
    taskView_eq_some.mpr ⟨q, hq, rfl⟩⟩

/-- A running task holds a lease, so the program counts the running tasks by their leases. -/
theorem Reachable.runningLeases (h : Reachable E st) : st.runningLeases = st.runningTasks := by
  have hvalid := h.validStore
  have hsound {k : String} {v : TaskView} (hv : taskView st.graph st.log k = some v) : v.Sound :=
    sound_of_accepted hvalid.evidence.acceptedEntries hv
  have hids : (st.graph.tasks.map (·.taskId)).Nodup := hvalid.projected.tasks_sorted.nodup
  have hkeys : st.tables.currentLeases.keys.Nodup := Table.pairwise_keys.imp fun hlt => hlt.ne
  have htasks : st.runningTasks = (st.graph.tasks.map (·.taskId)).countP fun k =>
      (st.projection? k).any fun p => decide (p.state = .running) := by
    rw [List.countP_map]
    rfl
  rw [htasks, Store.runningLeases, List.countP_eq_length_filter, List.countP_eq_length_filter]
  refine List.Perm.length_eq ?_
  rw [List.perm_ext_iff_of_nodup (hkeys.filter _) (hids.filter _)]
  intro k
  simp only [List.mem_filter, and_congr_left_iff, Option.any_eq_true, decide_eq_true_eq]
  rintro ⟨p, hp, hrunning⟩
  obtain ⟨hknown, hview⟩ := hvalid.view_of_projection hp
  obtain ⟨row, hrow, hcurrent⟩ := (hsound hview).running hrunning
  have hlease : currentLeaseOf st.log k = some row := currentLeaseOf_eq_some.mpr ⟨hrow, hcurrent⟩
  rw [Table.mem_keys, hvalid.projected.currentLeases]
  exact iff_of_true (by rw [← Store.log, hlease]; rfl) hknown

/-- A current lease is the one of a running task exactly when it was activated. -/
theorem Reachable.activated_iff_running (hE : E.CollisionFree) (h : Reachable E st)
    {row : CurrentLease} (hrow : st.tables.currentLeases[taskId]? = some row) :
    st.leaseWasActivated E taskId row.authorityLeaseId = true ↔
      (st.projection? taskId).map (·.state) = some .running := by
  have hvalid := h.validStore
  rw [hvalid.leaseWasActivated]
  rw [hvalid.projected.currentLeases, currentLeaseOf_eq_some] at hrow
  obtain ⟨task, htask⟩ := Option.isSome_iff_exists.mp
    (task?_of_latestLeaseRow hvalid.evidence (Option.isSome_iff_exists.mpr ⟨row, hrow.1⟩))
  obtain rfl := TaskGraph.task?_taskId htask
  have hrecorded : (projectionAt st.graph st.log task.taskId).isSome :=
    projectionAt_isSome (Option.isSome_iff_exists.mpr ⟨task, htask⟩)
  obtain ⟨p, hp⟩ := Option.isSome_iff_exists.mp hrecorded
  have hprojection : st.projection? task.taskId = some p :=
    (hvalid.projection? (TaskGraph.task?_mem htask)).trans hp
  rw [hprojection]
  have hfenced := fenced_of_live hE h.liveAccepted (taskView_eq_some.mpr ⟨p, hp, rfl⟩)
  rcases (hfenced.held row hrow).2.2 with ⟨hmem, hrunning, _⟩ | ⟨hnew, hidle, _⟩
  · exact iff_of_true hmem (congrArg some hrunning)
  · exact iff_of_false hnew fun heq => hidle (Option.some.inj heq)

/-- Conservation of the budget: in a reachable store no total is negative and none but the wall time
exceeds its limit. The reserved concurrency counts the running tasks, which are those with an
activated lease. A lease is dispatched at most once, and what is reserved of every other resource is
the sum of what the program finds outstanding under the dispatched leases. The dispatches and the
retries are counted by their events. -/
theorem budget_conservation (hE : E.CollisionFree) (h : Reachable E st) :
    (∀ r, 0 ≤ st.reserved r ∧ 0 ≤ st.used r ∧
      (r ≠ .wallTimeSeconds → st.reserved r + st.used r ≤ budgetLimits st.graph r)) ∧
    (st.reserved .concurrency = st.runningTasks ∧ st.runningLeases = st.runningTasks ∧
      ∀ (taskId : String) (row : CurrentLease), st.tables.currentLeases[taskId]? = some row →
        (st.leaseWasActivated E taskId row.authorityLeaseId = true ↔
          (st.projection? taskId).map (·.state) = some .running)) ∧
    ((dispatchedLeases st.log).map (·.2)).Nodup ∧
    (∀ r, r ≠ .concurrency → st.reserved r =
      if r ∈ reservable then total (st.outstandingOf E r) (dispatchedLeases st.log) else 0) ∧
    st.used .dispatches = (dispatchedLeases st.log).length ∧
    st.used .retries = st.log.countP fun entry => entry.event.spendsRetry := by
  obtain ⟨b, haccounts, hreserved, hused⟩ := h.accounts hE
  have hvalid := h.validStore
  have hleases : (dispatchedLeases st.log).map (·.2) =
      (reservations E st.evidence st.log).map (·.1) :=
    dispatchedLeases_eq hvalid.evidence.acceptedEntries
  have hdistinct : ((dispatchedLeases st.log).map (·.2)).Nodup :=
    hleases ▸ haccounts.books.distinct
  refine ⟨fun r => ?_,
    ⟨?_, h.runningLeases, fun taskId row hrow => h.activated_iff_running hE hrow⟩,
    hdistinct, fun r hne => ?_, ?_, ?_⟩
  · obtain ⟨hr, hu⟩ := h.totals_nonneg r
    exact ⟨hr, hu, fun hne => by rw [hreserved, hused]; exact haccounts.limits r hne⟩
  · rw [hreserved, haccounts.running]
    exact hvalid.runningTotal
  · split
    · next hr =>
      rw [hreserved, haccounts.books.reserved r hr]
      calc total (fun d => b.held d.1 r) (reservations E st.evidence st.log)
          = total (b.held · r) ((reservations E st.evidence st.log).map (·.1)) :=
            (total_map (f := fun leaseId => b.held leaseId r)).symm
        _ = total (b.held · r) ((dispatchedLeases st.log).map (·.2)) := by rw [hleases]
        _ = total (fun d => b.held d.2 r) (dispatchedLeases st.log) :=
          total_map (f := fun leaseId => b.held leaseId r)
        _ = total (st.outstandingOf E r) (dispatchedLeases st.log) :=
          total_congr fun d hd => (haccounts.books.outstandingOf hvalid hd hr).symm
    · next hr => rw [hreserved, haccounts.books.unreserved r hr hne]
  · have hlength := congrArg List.length hleases
    rw [List.length_map, List.length_map] at hlength
    rw [hused, haccounts.books.dispatches, hlength]
  · rw [hused, haccounts.books.retries]

/-- The budget of the run that dispatches one task: one running task, with its reservation. -/
theorem budget_conservation_oneTask :
    Sample.oneTaskTick.store.reserved .concurrency = 1 ∧
      Sample.oneTaskTick.store.used .dispatches = 1 ∧
      ∀ r, r ≠ .concurrency → Sample.oneTaskTick.store.reserved r =
        if r ∈ reservable then
          total (Sample.oneTaskTick.store.outstandingOf Sample.oneDispatch r)
            (dispatchedLeases Sample.oneTaskTick.store.log)
        else 0 := by
  obtain ⟨_, ⟨hconcurrency, _⟩, _, hreserved, hdispatches, _⟩ :=
    budget_conservation (Sample.environment_collisionFree _ _) Sample.oneTaskTick_reachable
  have hrunning : Sample.oneTaskTick.store.runningTasks = 1 := by decide +kernel
  have hlength : (dispatchedLeases Sample.oneTaskTick.store.log).length = 1 := by decide +kernel
  exact ⟨hconcurrency.trans (by rw [hrunning]; rfl), hdispatches.trans (by rw [hlength]; rfl),
    hreserved⟩

end Sdaqf
