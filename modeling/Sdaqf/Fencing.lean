import Sdaqf.LiveLog

/-!
# Fencing

A lease is activated by the first dispatch intent or worktree request under it. A proposal that expires
gives its attempt and its fence back, so the fences of all leases may repeat, but those of the
activated leases of a task count from one without a gap. A message under anything but the current
lease of its task leaves every table as it is.
-/

namespace Sdaqf

open Guard Store

variable {E : Environment} {ev : Evidence} {currentLeases : Table CurrentLease}
variable {pre log : List Entry} {entry : Entry} {taskId leaseId : String} {v w : TaskView}

/-! ## Activated leases -/

/-- An event activates its lease for a task. -/
def Activates (entry : Entry) (taskId leaseId : String) : Prop :=
  entry.event.cause.activates = true ∧ entry.event.taskId = some taskId ∧
    entry.event.leaseId = some leaseId

/-- The activated leases of a task after an event, given those before it. -/
def activate (taskId : String) (ids : List String) (entry : Entry) : List String :=
  match entry.event.leaseId with
  | some leaseId =>
    if entry.event.cause.activates = true ∧ entry.event.taskId = some taskId ∧ leaseId ∉ ids then
      ids ++ [leaseId]
    else ids
  | none => ids

/-- The leases of a task that a dispatch intent or a worktree request activated, in that order. -/
def activatedLeases (log : List Entry) (taskId : String) : List String :=
  log.foldl (activate taskId) []

@[simp] theorem activatedLeases_nil : activatedLeases [] taskId = [] := rfl

theorem activatedLeases_concat : activatedLeases (pre ++ [entry]) taskId =
    activate taskId (activatedLeases pre taskId) entry := by
  simp [activatedLeases]

/-- An event that activates no new lease leaves the activated leases. -/
theorem activatedLeases_kept
    (h : ∀ leaseId, Activates entry taskId leaseId → leaseId ∈ activatedLeases pre taskId) :
    activatedLeases (pre ++ [entry]) taskId = activatedLeases pre taskId := by
  rw [activatedLeases_concat, activate]
  split
  · next leaseId hid =>
    rw [if_neg]
    rintro ⟨hcause, htask, hnew⟩
    exact hnew (h leaseId ⟨hcause, htask, hid⟩)
  · rfl

/-- An event that activates a new lease appends it. -/
theorem activatedLeases_new (h : Activates entry taskId leaseId)
    (hnew : leaseId ∉ activatedLeases pre taskId) :
    activatedLeases (pre ++ [entry]) taskId = activatedLeases pre taskId ++ [leaseId] := by
  obtain ⟨hcause, htask, hid⟩ := h
  rw [activatedLeases_concat, activate, hid]
  exact if_pos ⟨hcause, htask, hnew⟩

theorem activatedLeases_of_cause (h : entry.event.cause.activates = false) :
    activatedLeases (pre ++ [entry]) taskId = activatedLeases pre taskId :=
  activatedLeases_kept fun _ hactivates => by rw [hactivates.1] at h; cases h

theorem activatedLeases_of_ne (h : entry.event.taskId ≠ some taskId) :
    activatedLeases (pre ++ [entry]) taskId = activatedLeases pre taskId :=
  activatedLeases_kept fun _ hactivates => absurd hactivates.2.1 h

/-- An activated lease was activated by an event. -/
theorem exists_activates (h : leaseId ∈ activatedLeases log taskId) :
    ∃ entry ∈ log, Activates entry taskId leaseId := by
  induction log using List.reverseRecOn with
  | nil => cases h
  | append_singleton pre entry ih =>
    by_cases hold : leaseId ∈ activatedLeases pre taskId
    · obtain ⟨e, he, hactivates⟩ := ih hold
      exact ⟨e, List.mem_append_left _ he, hactivates⟩
    · by_cases hnew : Activates entry taskId leaseId
      · exact ⟨entry, by simp, hnew⟩
      · rw [activatedLeases_concat, activate] at h
        split at h
        · next id hid =>
          split at h
          · next hcond =>
            rcases List.mem_append.mp h with h | h
            · exact absurd h hold
            · rw [List.mem_singleton.mp h]
              exact ⟨entry, by simp, hcond.1, hcond.2.1, hid⟩
          · exact absurd h hold
        · exact absurd h hold

theorem mem_activatedLeases (h : Activates entry taskId leaseId) (hentry : entry ∈ log) :
    leaseId ∈ activatedLeases log taskId := by
  induction log using List.reverseRecOn with
  | nil => cases hentry
  | append_singleton pre e ih =>
    have hsubset : activatedLeases pre taskId ⊆ activatedLeases (pre ++ [e]) taskId := by
      rw [activatedLeases_concat, activate]
      split
      · split
        · exact List.subset_append_left _ _
        · exact List.Subset.refl _
      · exact List.Subset.refl _
    rcases List.mem_append.mp hentry with hentry | hentry
    · exact hsubset (ih hentry)
    · obtain rfl := List.mem_singleton.mp hentry
      by_cases hnew : leaseId ∈ activatedLeases pre taskId
      · exact hsubset hnew
      · rw [activatedLeases_new h hnew]
        simp

/-! ## The identity of a lease row -/

/-- Every row of a live log is a lease that was acquired under its authority, at a later time. -/
theorem identity_of_live (h : History.Accepted (LiveEntry E) log) :
    ∀ row ∈ leaseHistory log, ∃ lease, row.authorityLeaseId = E.leaseId lease ∧
      row.lease.Renews lease := by
  refine h.invariant (fun log => ∀ row ∈ leaseHistory log, ∃ lease,
    row.authorityLeaseId = E.leaseId lease ∧ row.lease.Renews lease) (by simp) ?_
  intro pre entry _ ih hentry row hrow
  rw [leaseHistory_append, leaseHistory_singleton] at hrow
  rcases List.mem_append.mp hrow with hrow | hrow
  · exact ih row hrow
  rcases hentry.rows with hnil | ⟨own, hrows, hlive⟩
  · simp [hnil] at hrow
  obtain rfl : row = own := by simpa [hrows] using hrow
  cases hlive with
  | acquired _ identity => exact ⟨row.lease, identity, rfl⟩
  | @continued c held authority lease =>
    obtain ⟨first, hid, hrenews⟩ := ih c (latestLeaseRow_mem (currentLeaseOf_eq_some.mp held).1)
    refine ⟨first, authority.trans hid, ?_⟩
    rw [Lease.Renews] at lease hrenews ⊢
    rw [lease, hrenews]

/-- Two rows of one authority are the same lease at two times. -/
theorem renews_of_authority (hE : E.CollisionFree) (h : History.Accepted (LiveEntry E) log)
    {a b : LeaseRow} (ha : a ∈ leaseHistory log) (hb : b ∈ leaseHistory log)
    (hsame : a.authorityLeaseId = b.authorityLeaseId) : a.lease.Renews b.lease := by
  obtain ⟨first, hid, hrenews⟩ := identity_of_live h a ha
  obtain ⟨first', hid', hrenews'⟩ := identity_of_live h b hb
  obtain rfl : first = first' := hE.leaseId_injective (hid.symm.trans (hsame.trans hid'))
  rw [Lease.Renews] at hrenews hrenews' ⊢
  rw [hrenews, hrenews']

/-! ## The invariant of one task -/

/-- The activated leases of a task have the fences one, two, and so on. The lease the task holds has
its attempt and its fence: it is the last activated one of a running task, or a proposal that comes
after them. -/
structure Fenced (log : List Entry) (taskId : String) (v : TaskView) : Prop where
  numbered : ∀ i leaseId, (activatedLeases log taskId)[i]? = some leaseId →
    ∃ row ∈ leaseHistory log, row.authorityLeaseId = leaseId ∧ row.lease.taskId = taskId ∧
      row.lease.fence = i + 1 ∧ row.lease.attempt = i + 1
  free : v.Free → (activatedLeases log taskId).length = v.projection.fence
  held : ∀ row, v.Holds row → row.lease.fence = v.projection.fence ∧
    row.lease.attempt = v.projection.fence ∧
    ((row.authorityLeaseId ∈ activatedLeases log taskId ∧ v.projection.state = .running ∧
        (activatedLeases log taskId).length = v.projection.fence) ∨
      (row.authorityLeaseId ∉ activatedLeases log taskId ∧ v.projection.state ≠ .running ∧
        (activatedLeases log taskId).length + 1 = v.projection.fence))

namespace Fenced

/-- A running task holds its last activated lease. -/
theorem running (h : Fenced log taskId v) {row : LeaseRow} (hholds : v.Holds row)
    (hrunning : v.projection.state = .running) :
    row.authorityLeaseId ∈ activatedLeases log taskId ∧
      (activatedLeases log taskId).length = v.projection.fence := by
  rcases (h.held row hholds).2.2 with ⟨hmem, _, hlength⟩ | ⟨_, hidle, _⟩
  · exact ⟨hmem, hlength⟩
  · exact absurd hrunning hidle

/-- A task that is not running holds a proposal only. -/
theorem proposal (h : Fenced log taskId v) {row : LeaseRow} (hholds : v.Holds row)
    (hidle : v.projection.state ≠ .running) :
    row.authorityLeaseId ∉ activatedLeases log taskId ∧
      (activatedLeases log taskId).length + 1 = v.projection.fence := by
  rcases (h.held row hholds).2.2 with ⟨_, hrunning, _⟩ | ⟨hnew, _, hlength⟩
  · exact absurd hrunning hidle
  · exact ⟨hnew, hlength⟩

end Fenced

/-! ## One step -/

section Step

variable {w : TaskView}

/-- The activated leases keep their fences in a longer history. -/
theorem numbered_mono (entry : Entry) (h : Fenced pre taskId v) {i : Nat} {leaseId : String}
    (hi : (activatedLeases pre taskId)[i]? = some leaseId) :
    ∃ row ∈ leaseHistory (pre ++ [entry]), row.authorityLeaseId = leaseId ∧
      row.lease.taskId = taskId ∧ row.lease.fence = i + 1 ∧ row.lease.attempt = i + 1 := by
  obtain ⟨row, hrow, hrest⟩ := h.numbered i leaseId hi
  exact ⟨row, by rw [leaseHistory_append]; exact List.mem_append_left _ hrow, hrest⟩

/-- An event that activates nothing new, keeps the fence and continues the lease. -/
theorem Fenced.kept (h : Fenced pre taskId v)
    (hids : activatedLeases (pre ++ [entry]) taskId = activatedLeases pre taskId)
    (hfence : w.projection.fence = v.projection.fence)
    (hfree : w.Free → v.Free)
    (hlease : ∀ row, w.Holds row → ∃ old, v.Holds old ∧
      row.authorityLeaseId = old.authorityLeaseId ∧ row.lease.Renews old.lease)
    (hstate : ∀ row, v.Holds row →
      (w.projection.state = .running ↔ v.projection.state = .running)) :
    Fenced (pre ++ [entry]) taskId w := by
  refine ⟨fun i leaseId hi => numbered_mono entry h (hids ▸ hi), fun hw => ?_, fun row hrow => ?_⟩
  · rw [hids, hfence, h.free (hfree hw)]
  · obtain ⟨old, hold, hauthority, hrenews⟩ := hlease row hrow
    rw [Lease.Renews] at hrenews
    rw [hids, hfence, hauthority, hrenews, Ne, hstate old hold]
    exact h.held old hold

/-- A move that takes no lease and keeps the task running or idle. -/
theorem Fenced.kept_of_cause (hfenced : Fenced pre taskId v)
    (hcause : entry.event.cause.activates = false)
    (hfence : w.projection.fence = v.projection.fence) (hlease : w.lease = v.lease)
    (hstate : ∀ row, v.Holds row →
      (w.projection.state = .running ↔ v.projection.state = .running)) :
    Fenced (pre ++ [entry]) taskId w := by
  refine hfenced.kept (activatedLeases_of_cause hcause) hfence (fun hw => hw.of_lease hlease.symm)
    (fun row hrow => ⟨row, ⟨hlease ▸ hrow.1, hrow.2⟩, rfl, rfl⟩) hstate

/-- An event that ends the attempt of a running task. -/
theorem Fenced.ended (h : Fenced pre taskId v)
    (hids : activatedLeases (pre ++ [entry]) taskId = activatedLeases pre taskId)
    (hfence : w.projection.fence = v.projection.fence) (hfree : w.Free) {row : LeaseRow}
    (hholds : v.Holds row) (hrunning : v.projection.state = .running) :
    Fenced (pre ++ [entry]) taskId w := by
  refine ⟨fun i leaseId hi => numbered_mono entry h (hids ▸ hi), fun _ => ?_, fun row hrow => ?_⟩
  · rw [hids, hfence, (h.running hholds hrunning).2]
  · exact absurd hrow (hfree row)

/-- An event that withdraws a proposal. -/
theorem Fenced.withdrawn (h : Fenced pre taskId v)
    (hids : activatedLeases (pre ++ [entry]) taskId = activatedLeases pre taskId)
    (hfence : w.projection.fence + 1 = v.projection.fence) (hfree : w.Free) {row : LeaseRow}
    (hholds : v.Holds row) (hnew : row.authorityLeaseId ∉ activatedLeases pre taskId) :
    Fenced (pre ++ [entry]) taskId w := by
  refine ⟨fun i leaseId hi => numbered_mono entry h (hids ▸ hi), fun _ => ?_, fun row hrow => ?_⟩
  · rcases (h.held row hholds).2.2 with ⟨hmem, _⟩ | ⟨_, _, hlength⟩
    · exact absurd hmem hnew
    · rw [hids]
      omega
  · exact absurd hrow (hfree row)

/-- What a task has that took a lease row for its next attempt. -/
structure NextAttempt (pre log : List Entry) (taskId : String) (w : TaskView) (row : LeaseRow) :
    Prop where
  holds : w.Holds row
  written : row ∈ leaseHistory log ∧ row.lease.taskId = taskId
  new : row.authorityLeaseId ∉ activatedLeases pre taskId
  length : (activatedLeases pre taskId).length + 1 = w.projection.fence
  fence : row.lease.fence = w.projection.fence
  attempt : row.lease.attempt = w.projection.fence

/-- An event that activates the lease of the next attempt. -/
theorem Fenced.activated (h : Fenced pre taskId v) {row : LeaseRow}
    (hnext : NextAttempt pre (pre ++ [entry]) taskId w row)
    (hactivates : Activates entry taskId row.authorityLeaseId)
    (hrunning : w.projection.state = .running) : Fenced (pre ++ [entry]) taskId w := by
  have hids := activatedLeases_new hactivates hnext.new
  have hlength : (activatedLeases (pre ++ [entry]) taskId).length = w.projection.fence := by
    rw [hids, List.length_append, List.length_singleton, hnext.length]
  refine ⟨fun i leaseId hi => ?_, fun hfree => absurd hnext.holds (hfree row), fun row' hrow' => ?_⟩
  · rw [hids] at hi
    rcases Nat.lt_or_ge i (activatedLeases pre taskId).length with hlt | hge
    · rw [List.getElem?_append_left hlt] at hi
      exact numbered_mono entry h hi
    · rw [List.getElem?_append_right hge, List.getElem?_singleton] at hi
      split at hi
      · next hzero =>
        have hi_eq : i + 1 = w.projection.fence := by
          rw [← hnext.length]
          omega
        rw [hi_eq]
        exact ⟨row, hnext.written.1, Option.some.inj hi, hnext.written.2, hnext.fence,
          hnext.attempt⟩
      · cases hi
  · obtain rfl := hnext.holds.unique hrow'
    refine ⟨hnext.fence, hnext.attempt, .inl ⟨?_, hrunning, hlength⟩⟩
    rw [hids]
    simp

/-- An event that proposes the next attempt. -/
theorem Fenced.proposed (h : Fenced pre taskId v) {row : LeaseRow}
    (hnext : NextAttempt pre (pre ++ [entry]) taskId w row)
    (hids : activatedLeases (pre ++ [entry]) taskId = activatedLeases pre taskId)
    (hidle : w.projection.state ≠ .running) : Fenced (pre ++ [entry]) taskId w := by
  refine ⟨fun i leaseId hi => numbered_mono entry h (hids ▸ hi),
    fun hfree => absurd hnext.holds (hfree row), fun row' hrow' => ?_⟩
  obtain rfl := hnext.holds.unique hrow'
  exact ⟨hnext.fence, hnext.attempt, .inr ⟨hids ▸ hnext.new, hidle, hids ▸ hnext.length⟩⟩

/-- What holds at an event of a task that moves its view: the views are those of the log, the task of
the event is the task, and the log is live. -/
structure TaskStep (E : Environment) (ev : Evidence) (currentLeases : Table CurrentLease)
    (pre : List Entry) (entry : Entry) (taskId : String) (v w : TaskView) : Prop where
  live : History.Accepted (LiveEntry E) (pre ++ [entry])
  step : LiveAccepted E ev currentLeases pre entry
  task : entry.event.taskId = some taskId
  projection : entry.event.taskProjection = some w.projection ∧ w.projection.taskId = taskId
  before : v.lease = latestLeaseRow pre taskId
  after : w.lease = latestLeaseRow (pre ++ [entry]) taskId
  state : entry.event.cause.audits = false → entry.event.beforeState = some v.projection.state

namespace TaskStep

variable {task : SchedulerTask} {row : LeaseRow} {reused : Bool}
variable (h : TaskStep E ev currentLeases pre entry taskId v w)
include h

theorem held_after (hholds : w.Holds row) :
    row ∈ leaseHistory (pre ++ [entry]) ∧ row.lease.taskId = taskId := by
  have hlatest := h.after.symm.trans hholds.1
  exact ⟨latestLeaseRow_mem hlatest, latestLeaseRow_taskId hlatest⟩

/-- A lease that is newly taken was free before, and it is the lease of the attempt it opens. -/
theorem fresh (hholds : w.Holds row) (hcause : entry.event.cause.takesLease = true)
    (hready : v.projection.state = .ready)
    (other : ∀ old, v.Holds old → entry.event.leaseId ≠ some old.authorityLeaseId)
    (named : entry.event.leaseId = some row.authorityLeaseId) :
    v.Free ∧ row.lease.fence = w.projection.fence ∧ row.lease.attempt = w.projection.attempt := by
  have hlatest := h.after.symm.trans hholds.1
  have haudits : entry.event.cause.audits = false := by
    revert hcause
    cases entry.event.cause <;> decide
  obtain ⟨row', p, hp, hrow', _, hattempt, hfence⟩ :=
    h.step.live.takes hcause (by rw [h.state haudits, hready])
  obtain rfl : w.projection = p := Option.some.inj (h.projection.1.symm.trans hp)
  rw [h.projection.2, currentLeaseOf_eq_some] at hrow'
  obtain rfl : row = row' := Option.some.inj (hlatest.symm.trans hrow'.1)
  refine ⟨?_, hfence.symm, hattempt.symm⟩
  rintro old hold
  rcases h.step.live.rows with hnil | ⟨own, hrows, hlive⟩
  · rw [latestLeaseRow_concat_nil hnil, ← h.before, hold.1, Option.some.injEq] at hlatest
    exact other old hold (hlatest ▸ named)
  · rw [latestLeaseRow_own h.step.accepted.rows h.task hrows, Option.some.injEq] at hlatest
    subst hlatest
    have hheld : currentLeaseOf pre own.lease.taskId = some old := by
      rw [(h.held_after hholds).2]
      exact currentLeaseOf_eq_some.mpr ⟨h.before.symm.trans hold.1, hold.2⟩
    cases hlive with
    | acquired free => rw [free] at hheld; cases hheld
    | continued held authority =>
      obtain rfl := Option.some.inj (held.symm.trans hheld)
      exact other _ hold (authority ▸ named)

/-- The lease a ready task takes is the lease of its next attempt. -/
theorem nextAttempt (hE : E.CollisionFree) (hv : v.Sound) (hfenced : Fenced pre taskId v)
    (hholds : w.Holds row) (hcause : entry.event.cause.takesLease = true)
    (hready : v.projection.state = .ready)
    (hattempt : w.projection.attempt = v.projection.attempt + (if reused then 0 else 1))
    (hfence : w.projection.fence = v.projection.fence + (if reused then 0 else 1))
    (taking : Taking E ev task entry.event v row reused) :
    NextAttempt pre (pre ++ [entry]) taskId w row := by
  have hwritten := h.held_after hholds
  cases taking with
  | reused held named =>
    obtain ⟨hnew, hlength⟩ := hfenced.proposal held (by rw [hready]; decide)
    obtain ⟨hrow_fence, hrow_attempt, _⟩ := hfenced.held row held
    simp only [if_true, Nat.add_zero] at hfence
    rw [← hfence] at hlength hrow_fence hrow_attempt
    exact ⟨hholds, hwritten, hnew, hlength, hrow_fence, hrow_attempt⟩
  | fresh other named =>
    obtain ⟨hfree, hrow_fence, hrow_attempt⟩ := h.fresh hholds hcause hready other named
    simp only [Bool.false_eq_true, if_false] at hattempt hfence
    have hlength := hfenced.free hfree
    have hsame := hv.attempt_eq_fence
    refine ⟨hholds, hwritten, fun hmem => ?_, by omega, hrow_fence, by omega⟩
    -- an activated lease of the same identity would have an earlier fence
    obtain ⟨i, hi⟩ := List.mem_iff_getElem?.mp hmem
    obtain ⟨old, hold, hauthority, _, hold_fence, _⟩ := numbered_mono entry hfenced hi
    have hrenews := renews_of_authority hE h.live hold hwritten.1 hauthority
    have hlt := (List.getElem?_eq_some_iff.mp hi).1
    rw [Lease.Renews] at hrenews
    have : old.lease.fence = row.lease.fence := by rw [hrenews]
    omega

variable {dependenciesMet reviewsMet activated : Prop}

/-- A move of a task keeps its fencing. -/
theorem fenced (hE : E.CollisionFree) (hv : v.Sound) (hfenced : Fenced pre taskId v)
    (hmove : Move E ev task entry.event dependenciesMet reviewsMet activated v w)
    (hproposal : ∀ leaseId ∈ activatedLeases pre taskId,
      entry.event.leaseId = some leaseId → activated)
    (hegress : entry.event.cause = .dispatchIntent → ∀ row, w.Holds row →
      entry.event.leaseId = some row.authorityLeaseId) :
    Fenced (pre ++ [entry]) taskId w := by
  cases hmove with
  | audit cause =>
    exact hfenced.kept_of_cause (by revert cause; cases entry.event.cause <;> decide) rfl rfl
      fun _ _ => Iff.rfl
  | approvalConsumed cause =>
    exact hfenced.kept_of_cause (by rw [cause]; rfl) rfl rfl fun _ _ => Iff.rfl
  | cancelRequested cause =>
    exact hfenced.kept_of_cause (by rw [cause]; rfl) rfl rfl fun _ _ => Iff.rfl
  | dispatchAccepted cause =>
    exact hfenced.kept_of_cause (by rw [cause]; rfl) rfl rfl fun _ _ => Iff.rfl
  | @heartbeat row cause _ holds =>
    refine hfenced.kept (activatedLeases_of_cause (by rw [cause]; rfl)) rfl ?_ ?_
      fun _ _ => Iff.rfl
    · exact fun hw => absurd ⟨rfl, rfl⟩ (hw ⟨row.authorityLeaseId, _⟩)
    · rintro row' ⟨hrow', _⟩
      obtain rfl := Option.some.inj hrow'
      exact ⟨row, holds, rfl, rfl⟩
  | ended cause running holds =>
    exact hfenced.ended (activatedLeases_of_cause
      (by revert cause; cases entry.event.cause <;> decide)) rfl TaskView.afterRelease_free holds
      running
  | worktreeClosed cause running _ holds =>
    exact hfenced.ended (activatedLeases_of_cause (by rw [cause]; rfl)) rfl
      TaskView.afterRelease_free holds running
  | worktreeObserved cause =>
    exact hfenced.kept_of_cause (by rw [cause]; rfl) rfl rfl fun _ _ => Iff.rfl
  | proposalExpired cause _ holds named proposal _ fence =>
    refine hfenced.withdrawn (activatedLeases_of_cause (by rw [cause]; rfl)) ?_
      TaskView.afterRelease_free holds fun hmem => proposal (hproposal _ hmem named)
    simp only [TaskView.afterRelease_projection]
    omega
  | resultReceived cause running holds =>
    exact hfenced.ended (activatedLeases_of_cause (by rw [cause]; rfl)) rfl
      TaskView.afterRelease_free holds running
  | verified cause state =>
    exact hfenced.kept_of_cause (by rw [cause]; rfl) rfl rfl
      fun row hrow => absurd hrow (hv.finished (.inl state) row)
  | verificationBlocked cause state =>
    exact hfenced.kept_of_cause (by rw [cause]; rfl) rfl rfl
      fun row hrow => absurd hrow (hv.finished (.inl state) row)
  | dispatched cause ready taking =>
    refine hfenced.activated (h.nextAttempt hE hv hfenced (taking.holds rfl) (by rw [cause]; rfl)
      ready rfl rfl taking) ⟨by rw [cause]; rfl, h.task, ?_⟩ rfl
    exact hegress cause _ (taking.holds rfl)
  | dispatchedBehindWorktree cause running =>
    refine hfenced.kept (activatedLeases_kept fun leaseId hactivates => ?_) rfl
      (fun hw => hw.of_lease rfl) (fun row hrow => ⟨row, hrow, rfl, rfl⟩) fun _ _ => Iff.rfl
    obtain ⟨row, hrow⟩ := hv.running running
    obtain rfl := Option.some.inj (hactivates.2.2.symm.trans (hegress cause row hrow))
    exact (hfenced.running hrow running).1
  | worktreeRequested cause ready taking =>
    refine hfenced.activated (h.nextAttempt hE hv hfenced (taking.holds rfl) (by rw [cause]; rfl)
      ready rfl rfl taking) ⟨by rw [cause]; rfl, h.task, ?_⟩ rfl
    cases taking with
    | reused _ named => exact named
    | fresh _ named => exact named
  | approvalBlocked cause ready taking =>
    exact hfenced.proposed (h.nextAttempt hE hv hfenced (taking.holds rfl) (by rw [cause]; rfl)
      ready rfl rfl taking) (activatedLeases_of_cause (by rw [cause]; rfl))
      (by simp [takenProjection])
  | approvalBlockedBehindWorktree cause =>
    exact hfenced.kept_of_cause (by rw [cause]; rfl) rfl rfl fun _ _ => Iff.rfl
  | budgetBlocked cause ready =>
    exact hfenced.kept_of_cause (by rw [cause]; rfl) rfl rfl fun _ _ => by simp [ready]
  | budgetBlockedBehindWorktree cause =>
    exact hfenced.kept_of_cause (by rw [cause]; rfl) rfl rfl fun _ _ => Iff.rfl
  | @refreshed target _ cause refreshable _ target_state =>
    refine hfenced.kept_of_cause (by rw [cause]; rfl) rfl rfl fun _ _ => ?_
    constructor
    · intro hrunning
      have htarget : target = .running := hrunning
      rw [htarget] at target_state
      cases target_state
    · intro hrunning
      rw [hrunning] at refreshable
      cases refreshable

end TaskStep

end Step

/-! ## The whole log -/

/-- The intent of an event to a host stands under an open lease of its task. -/
theorem Judged.egress_open {task : SchedulerTask} {prior p : TaskProjection}
    {m : Option MailboxMessage} (h : Judged E ev currentLeases pre entry task prior p m)
    (hc : entry.event.cause.egress = true) :
    ∃ leaseId, entry.event.leaseId = some leaseId ∧
      LeaseOpen (pre ++ [entry]) leaseId task.taskId := by
  obtain ⟨m', _, hegress⟩ := h.egress hc
  simp only [validateSchedulerEgressEvent, bind_eq_ok, exists_unit, fromOption_eq_ok,
    require_eq_ok] at hegress
  obtain ⟨leaseId, hid, row, hrow, hagrees, _⟩ := hegress
  exact ⟨leaseId, hid, row, hrow, hagrees.1⟩

/-- An activated lease has an adopted intent or request. -/
theorem activatedBefore_of_mem (h : History.Accepted (AcceptedEntry E ev currentLeases) pre)
    (hmem : leaseId ∈ activatedLeases pre taskId) (hid : entry.event.leaseId = some leaseId) :
    activatedBefore E ev pre entry.event = true := by
  obtain ⟨e, he, hcause, htask, hlease⟩ := exists_activates hmem
  obtain ⟨before, after, rfl⟩ := List.append_of_mem he
  rcases (h.of_append_cons).cases with ⟨hnone, _⟩ | ⟨task, prior, p, m, hjudged, _⟩
  · rw [taskId_eq_none.mpr hnone] at htask
    cases htask
  obtain ⟨id, message, hmessage, hstored⟩ : ∃ id message, e.event.messageId = some id ∧
      ev.message? E id = some message := by
    have hm := hjudged.message
    rw [EventCause.activates, Bool.or_eq_true, decide_eq_true_eq, decide_eq_true_eq] at hcause
    rcases hcause with hcause | hcause <;>
    · simp only [causalMessage, hcause, EventCause.messageType, bind_eq_ok, exists_unit,
        fromOption_eq_ok] at hm
      obtain ⟨id, hid, message, hmessage, _⟩ := hm
      exact ⟨id, message, hid, hmessage⟩
  have hprimary : e.event.cause.isPrimary = true := by
    revert hcause
    cases e.event.cause <;> decide
  rw [activatedBefore, List.any_eq_true]
  refine ⟨⟨e.event, id, message⟩, ?_, by simp [hlease, hid, hcause]⟩
  rw [Evidence.adoptions, List.mem_filterMap]
  exact ⟨e.event, by simp, by simp [adoptionOf, hprimary, hmessage, hstored]⟩

/-- Every task of a live log is fenced. -/
theorem fenced_of_live (hE : E.CollisionFree)
    (h : History.Accepted (LiveAccepted E ev currentLeases) log)
    (hv : taskView ev.graph log taskId = some v) : Fenced log taskId v := by
  have hall : ∀ v, taskView ev.graph log taskId = some v → Fenced log taskId v := by
    refine History.Accepted.invariant
      (fun log => ∀ v, taskView ev.graph log taskId = some v → Fenced log taskId v) ?_ ?_ h
    · intro v hv
      obtain ⟨p, hp, rfl⟩ := taskView_eq_some.mp hv
      simp only [projectionAt, recordedProjection, History.lastWhere_nil, Option.bind_none,
        Option.none_or, Option.map_eq_some_iff] at hp
      obtain ⟨task, _, rfl⟩ := hp
      refine ⟨?_, fun _ => rfl, ?_⟩
      · rintro i leaseId hi
        cases hi
      · rintro row ⟨hrow, _⟩
        cases hrow
    · intro pre entry hpre ih hentry w hw
      have hlive : History.Accepted (LiveAccepted E ev currentLeases) (pre ++ [entry]) :=
        History.accepted_concat.mpr ⟨hpre, hentry⟩
      by_cases htask : entry.event.taskId = some taskId
      · rcases hentry.accepted.cases with ⟨hnone, _⟩ | ⟨task, prior, p, m, hjudged, hmove⟩
        · rw [taskId_eq_none.mpr hnone] at htask
          cases htask
        obtain rfl : task.taskId = taskId :=
          Option.some.inj (hjudged.event_taskId.symm.trans htask)
        have haccepted : History.Accepted (AcceptedEntry E ev currentLeases) pre :=
          hpre.mono fun _ _ _ _ h => h.accepted
        obtain rfl : w = viewAt (pre ++ [entry]) task.taskId p := by
          obtain ⟨q, hq, rfl⟩ := taskView_eq_some.mp hw
          rw [← hjudged.taskId_eq, projectionAt_concat_of_task hjudged.recorded] at hq
          rw [Option.some.inj hq]
        have hstep : TaskStep E ev currentLeases pre entry task.taskId
            (viewAt pre task.taskId prior) (viewAt (pre ++ [entry]) task.taskId p) :=
          { live := hlive.mono fun _ _ _ _ h => h.live
            step := hentry
            task := htask
            projection := ⟨hjudged.recorded, hjudged.taskId_eq⟩
            before := rfl
            after := rfl
            state := fun haudits => (hjudged.before_state haudits).1 }
        refine hstep.fenced hE (sound_of_accepted haccepted hjudged.view_before)
          (ih _ hjudged.view_before) hmove
          (fun leaseId hmem hid => activatedBefore_of_mem haccepted hmem hid) ?_
        rintro hcause row hholds
        obtain ⟨leaseId, hid, hopen⟩ := hjudged.egress_open (by rw [hcause]; rfl)
        obtain ⟨row', hrow', _, rfl⟩ := openIsLatest_of_live hlive _ _ hopen
        obtain rfl := Option.some.inj (hholds.1.symm.trans hrow')
        exact hid
      · rw [taskView_of_ne hentry.accepted.rows htask] at hw
        exact (ih w hw).kept (activatedLeases_of_ne htask) rfl id
          (fun row hrow => ⟨row, hrow, rfl, rfl⟩) fun _ _ => Iff.rfl
  exact hall v hv

/-! ## Stale messages -/

section Stale

variable {st : Store} {m : MailboxMessage} {hostId : String} {t : Timestamp}
variable {identity : TaskIdentity} {payload : TaskPayload} {result : Ingested}

/-- A message does not name the current lease of its task, or it is no approval decision and its
sender is not both the owner of that lease and the invoking host. -/
def Store.Stale (st : Store) (hostId : String) (m : MailboxMessage) (identity : TaskIdentity) :
    Prop :=
  ∀ current : CurrentLease, st.tables.currentLeases[identity.taskId]? = some current →
    namesLease identity current → m.messageType ≠ .approvalDecision ∧
      (m.sender ≠ current.lease.ownerId ∨ m.sender ≠ hostId)

/-- A store that recorded a message in its log and changed nothing else. -/
structure OnlyAudited (st st' : Store) : Prop where
  tables : st'.tables = st.tables
  evidence : ∃ entry, st'.evidence = { st.evidence with log := st.log ++ [entry] } ∧
    entry.leaseRows = [] ∧ entry.worktreeRows = [] ∧ entry.event.budgetDeltas = BudgetDeltas.none

theorem onlyAudited_of_appendEvent {draft : EventDraft} {st' : Store}
    (h : st.appendEvent E t draft = .ok st') (hlease : draft.leaseRows = [])
    (hworktree : draft.worktreeRows = []) (hbudget : draft.budgetDeltas = BudgetDeltas.none) :
    OnlyAudited st st' := by
  obtain ⟨projection, _, _, rfl⟩ := appendEvent_eq_ok h
  exact ⟨rfl, _, rfl, hlease, hworktree, hbudget⟩

theorem onlyAudited_refuse {reason : String} (h : st.refuse E m t reason = .ok result) :
    OnlyAudited st result.store := by
  simp only [refuse, appendRejection, bind_eq_ok, pure_eq_ok] at h
  obtain ⟨st', hst', rfl⟩ := h
  exact onlyAudited_of_appendEvent hst' rfl rfl rfl

theorem onlyAudited_ingestApproval {task : SchedulerTask} {approval : ApprovalPayload}
    (hstale : ∀ current : CurrentLease, st.tables.currentLeases[task.taskId]? = some current →
      ¬ namesLease identity current)
    (h : st.ingestApproval E task m identity approval t = .ok result) :
    OnlyAudited st result.store := by
  unfold ingestApproval at h
  split at h
  · exact onlyAudited_refuse h
  split at h
  · exact onlyAudited_refuse h
  · next current hcurrent =>
    rw [if_pos (hstale current hcurrent)] at h
    exact onlyAudited_refuse h

theorem onlyAudited_ingestHostMessage {task : SchedulerTask}
    (hstale : ∀ current : CurrentLease, st.tables.currentLeases[task.taskId]? = some current →
      namesLease identity current → m.sender ≠ current.lease.ownerId ∨ m.sender ≠ hostId)
    (h : st.ingestHostMessage E hostId task m identity payload t = .ok result) :
    OnlyAudited st result.store := by
  unfold ingestHostMessage at h
  split at h
  · exact onlyAudited_refuse h
  · next current hcurrent =>
    rw [if_pos] at h
    · exact onlyAudited_refuse h
    · by_cases hnames : namesLease identity current
      · rcases hstale current hcurrent hnames with hsender | hsender
        · exact .inl hsender
        · exact .inr (.inl hsender)
      · exact .inr (.inr (.inr hnames))

/-- A stale message leaves every table and both histories as they are. -/
theorem onlyAudited_of_stale (hbody : m.body = .task identity payload)
    (hstale : st.Stale hostId m identity)
    (h : st.ingestMessage E hostId m t = .ok result) : OnlyAudited st result.store := by
  unfold ingestMessage at h
  split at h
  · simp only [bind_eq_ok, pure_eq_ok] at h
    obtain ⟨st', hst', rfl⟩ := h
    exact onlyAudited_of_appendEvent hst' rfl rfl rfl
  split at h
  · exact onlyAudited_refuse h
  split at h
  · exact onlyAudited_refuse h
  split at h
  · exact onlyAudited_refuse h
  rw [hbody] at h
  simp only [ingestTaskMessage] at h
  split at h
  · exact onlyAudited_refuse h
  · next task htask =>
    rw [Store.Stale, ← TaskGraph.task?_taskId htask] at hstale
    simp only [bind_eq_ok, fromOption_eq_ok] at h
    obtain ⟨binding, _, h⟩ := h
    split at h
    · exact onlyAudited_refuse h
    split at h
    · refine onlyAudited_ingestApproval (fun current hcurrent hnames => ?_) h
      refine (hstale current hcurrent hnames).1 ?_
      rw [MailboxMessage.messageType, hbody]
      rfl
    · exact onlyAudited_ingestHostMessage
        (fun current hcurrent hnames => (hstale current hcurrent hnames).2) h

end Stale

/-! ## Reachable stores -/

variable {st : Store}

/-- What the idempotency key of a lease is derived from. -/
def idempotencyInputs (E : Environment) (graph : TaskGraph) (lease : Lease) :
    String × String × Nat × Nat × CandidateIdentity × String × Option String :=
  (lease.graphId, lease.taskId, lease.attempt, lease.fence, lease.candidate,
    lease.contextSnapshotId, (graph.task? lease.taskId).map E.effectDigest)

/-- The activated leases of a task are numbered by their fences, and no fence exceeds the attempts
the task has. -/
theorem Reachable.numbered (hE : E.CollisionFree) (h : Reachable E st) {task : SchedulerTask}
    (htask : task ∈ st.graph.tasks) {i : Nat}
    (hi : (activatedLeases st.log task.taskId)[i]? = some leaseId) :
    i + 1 ≤ task.maxAttempts ∧
      (∃ row ∈ leaseHistory st.log, row.authorityLeaseId = leaseId) ∧
      ∀ row ∈ leaseHistory st.log, row.authorityLeaseId = leaseId →
        row.lease.taskId = task.taskId ∧ row.lease.fence = i + 1 ∧ row.lease.attempt = i + 1 := by
  have hprojected := h.validStore.projected
  have hknown : (st.graph.task? task.taskId).isSome :=
    TaskGraph.task?_isSome.mpr (List.mem_map_of_mem htask)
  have hrecorded : (projectionAt st.graph st.log task.taskId).isSome := projectionAt_isSome hknown
  obtain ⟨p, hp⟩ := Option.isSome_iff_exists.mp hrecorded
  have hview := taskView_eq_some.mpr ⟨p, hp, rfl⟩
  have hfenced := fenced_of_live hE h.liveAccepted hview
  obtain ⟨row, hrow, hauthority, hrow_task, hfence, hattempt⟩ := hfenced.numbered i leaseId hi
  refine ⟨?_, ⟨row, hrow, hauthority⟩, fun other hother hsame => ?_⟩
  · obtain ⟨hsame, hmax⟩ := hprojected.attempts task htask p hp
    have hlt := (List.getElem?_eq_some_iff.mp hi).1
    have hlength : (activatedLeases st.log task.taskId).length ≤ p.fence := by
      by_cases hfree : (viewAt st.log task.taskId p).Free
      · exact (hfenced.free hfree).le
      · simp only [TaskView.Free, not_forall, not_not] at hfree
        obtain ⟨held, hheld⟩ := hfree
        rcases (hfenced.held held hheld).2.2 with ⟨_, _, hlength⟩ | ⟨_, _, hlength⟩
        · exact hlength.le
        · simp only [viewAt] at hlength
          omega
    omega
  · have hrenews := renews_of_authority hE h.liveLog hother hrow (hsame.trans hauthority.symm)
    rw [Lease.Renews] at hrenews
    rw [hrenews]
    exact ⟨hrow_task, hfence, hattempt⟩

/-- Different activated leases have different inputs of their idempotency keys. -/
theorem Reachable.activated_of_inputs (hE : E.CollisionFree) (h : Reachable E st)
    {a b : LeaseRow} (ha : a ∈ leaseHistory st.log) (hb : b ∈ leaseHistory st.log)
    (ha_active : a.authorityLeaseId ∈ activatedLeases st.log a.lease.taskId)
    (hb_active : b.authorityLeaseId ∈ activatedLeases st.log b.lease.taskId)
    (hinputs : idempotencyInputs E st.graph a.lease = idempotencyInputs E st.graph b.lease) :
    a.authorityLeaseId = b.authorityLeaseId := by
  simp only [idempotencyInputs, Prod.mk.injEq] at hinputs
  obtain ⟨_, htask, _, hfence, _⟩ := hinputs
  obtain ⟨entry, hentry, _, hevent, _⟩ := exists_activates ha_active
  obtain ⟨task, hknown⟩ :=
    Option.isSome_iff_exists.mp (h.validStore.evidence.task?_of_event hentry hevent)
  have hid := TaskGraph.task?_taskId hknown
  rw [← htask] at hb_active
  rw [← hid] at ha_active hb_active
  obtain ⟨i, hi⟩ := List.mem_iff_getElem?.mp ha_active
  obtain ⟨j, hj⟩ := List.mem_iff_getElem?.mp hb_active
  have ha_fence := ((h.numbered hE (TaskGraph.task?_mem hknown) hi).2.2 a ha rfl).2.1
  have hb_fence := ((h.numbered hE (TaskGraph.task?_mem hknown) hj).2.2 b hb rfl).2.1
  obtain rfl : i = j := by omega
  exact Option.some.inj (hi.symm.trans hj)

/-- Fencing: in a reachable store the current lease of a task is its only open one; the activated
leases of a task have the fences and attempts one, two, and so on within its attempts, so different
activated leases have different inputs of their idempotency keys; and a message under anything but the
current lease, or from a host that does not own it, changes no table and no history. -/
theorem fencing (hE : E.CollisionFree) :
    (∀ st, Reachable E st →
      (∀ taskId leaseId, LeaseOpen st.log leaseId taskId ↔
        ∃ current : CurrentLease, st.tables.currentLeases[taskId]? = some current ∧
          current.authorityLeaseId = leaseId) ∧
      (∀ task ∈ st.graph.tasks, ∀ i leaseId,
        (activatedLeases st.log task.taskId)[i]? = some leaseId →
        i + 1 ≤ task.maxAttempts ∧
          (∃ row ∈ leaseHistory st.log, row.authorityLeaseId = leaseId) ∧
          ∀ row ∈ leaseHistory st.log, row.authorityLeaseId = leaseId →
            row.lease.taskId = task.taskId ∧ row.lease.fence = i + 1 ∧
              row.lease.attempt = i + 1) ∧
      ∀ a ∈ leaseHistory st.log, ∀ b ∈ leaseHistory st.log,
        a.authorityLeaseId ∈ activatedLeases st.log a.lease.taskId →
        b.authorityLeaseId ∈ activatedLeases st.log b.lease.taskId →
        a.authorityLeaseId ≠ b.authorityLeaseId →
        idempotencyInputs E st.graph a.lease ≠ idempotencyInputs E st.graph b.lease) ∧
    ∀ (st : Store) hostId m t identity payload result, m.body = .task identity payload →
      st.Stale hostId m identity → st.ingestMessage E hostId m t = .ok result →
      OnlyAudited st result.store := by
  refine ⟨fun st h => ⟨fun taskId leaseId => ?_, fun task htask i leaseId hi =>
    h.numbered hE htask hi, fun a ha b hb ha_active hb_active hne hinputs =>
    hne (h.activated_of_inputs hE ha hb ha_active hb_active hinputs)⟩,
    fun st hostId m t identity payload result hbody hstale hingest =>
      onlyAudited_of_stale hbody hstale hingest⟩
  · simp only [h.validStore.projected.currentLeases, currentLeaseOf_eq_some, and_assoc]
    constructor
    · exact fun hopen => openIsLatest_of_live h.liveAccepted _ _ hopen
    · rintro ⟨row, hrow, hcurrent, rfl⟩
      exact leaseOpen_of_latest hrow hcurrent

/-- The fencing of the run that dispatches one task: its lease is open and activated. -/
theorem fencing_oneTask :
    (∃ leaseId, activatedLeases Sample.oneTaskTick.store.log "A" = [leaseId] ∧
      LeaseOpen Sample.oneTaskTick.store.log leaseId "A") ∧
    ∀ taskId leaseId, LeaseOpen Sample.oneTaskTick.store.log leaseId taskId ↔
      ∃ current : CurrentLease,
        Sample.oneTaskTick.store.tables.currentLeases[taskId]? = some current ∧
          current.authorityLeaseId = leaseId := by
  have h := ((fencing (Sample.environment_collisionFree _ _)).1 _ Sample.oneTaskTick_reachable).1
  have hactive : activatedLeases Sample.oneTaskTick.store.log "A" = [Naming.label 'L' 0] := by
    decide +kernel
  have hcurrent : (Sample.oneTaskTick.store.tables.currentLeases["A"]?).map
      (·.authorityLeaseId) = some (Naming.label 'L' 0) := by
    decide +kernel
  obtain ⟨current, hrow, hid⟩ := Option.map_eq_some_iff.mp hcurrent
  exact ⟨⟨_, hactive, (h "A" _).mpr ⟨current, hrow, hid⟩⟩, h⟩

end Sdaqf
