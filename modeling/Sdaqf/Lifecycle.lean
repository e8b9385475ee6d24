import Sdaqf.Readings

/-!
# The life of a task

An abstract machine for one task. Its state is what the evidence says about the task: the recorded
projection, the latest row of its lease history and the latest row of its worktree history. `Move`
lists everything one event can do to a task, with the condition under which it can; the file on the
steps of the replay shows that every accepted event is such a move. The invariants of one task are
proved here, on the machine alone.
-/

namespace Sdaqf

/-- What the evidence says about one task. -/
structure TaskView where
  projection : TaskProjection
  lease : Option LeaseRow
  worktree : Option WorktreeLease

/-- The view of a task at the end of a log. -/
def taskView (graph : TaskGraph) (log : List Entry) (taskId : String) : Option TaskView :=
  (projectionAt graph log taskId).map fun p =>
    ⟨p, latestLeaseRow log taskId, latestWorktreeRow log taskId⟩

namespace TaskView

/-- The task holds a lease. -/
def Holds (v : TaskView) (row : LeaseRow) : Prop :=
  v.lease = some row ∧ row.lease.status = .current

/-- The task holds no lease. -/
def Free (v : TaskView) : Prop := ∀ row, ¬ v.Holds row

theorem Holds.unique {v : TaskView} {row row' : LeaseRow} (h : v.Holds row) (h' : v.Holds row') :
    row = row' :=
  Option.some.inj (h.1.symm.trans h'.1)

/-- The worktree of a task after the end of an attempt. -/
def closedWorktree (v : TaskView) : Option WorktreeLease :=
  v.worktree.map fun w => if w.status.active then Store.releasedWorktree w else w

/-- The view after the lease of a task was released. -/
def afterRelease (row : LeaseRow) (outcome : TaskOutcome) (p : TaskProjection)
    (worktree : Option WorktreeLease) : TaskView where
  projection := p
  lease := some ⟨row.authorityLeaseId, Store.releasedLease row.lease outcome⟩
  worktree := worktree

end TaskView

/-- The ways in which an attempt ends without a received result. -/
def Store.Ending.Allowed (task : SchedulerTask) (prior : TaskProjection) (ending : Store.Ending) :
    Prop :=
  (ending.state = .ready ∧ ending.phase = .notDispatched ∧ ending.outcome = .failed ∧
      prior.attempt < task.maxAttempts) ∨
    (ending.state = .blocked ∧ ending.outcome = .unknown) ∨
    (ending.state = .rejected ∧ ending.outcome = .failed) ∨
    (ending.state = .superseded ∧ ending.outcome = .cancelled)

/-- The causes that end an attempt without a received result or a worktree observation. -/
def EventCause.endsAttempt : EventCause → Bool
  | .cancelAcknowledgement | .dispatchRejected | .leaseExpired | .resultTerminal => true
  | _ => false

/-- The heartbeat of a lease. -/
def refreshedLease (ev : Evidence) (lease : Lease) (t : Timestamp) : Lease :=
  { lease with
    heartbeatAt := t
    expiresAt := formatUtc (addSeconds t ev.leaseTtlSeconds)
    status := .current
    releaseOutcome := .none }

/-- The lease a task takes at an event: the one it holds, or a new one of the given attempt and
fence. -/
inductive Taking (E : Environment) (ev : Evidence) (task : SchedulerTask) (e : SchedulerEvent)
    (v : TaskView) : LeaseRow → Bool → Prop
  | reused {row : LeaseRow} (holds : v.Holds row) (named : e.leaseId = some row.authorityLeaseId) :
      Taking E ev task e v row true
  | fresh {row : LeaseRow} {attempt fence : Nat} {owner : String}
      (other : ∀ old, v.Holds old → e.leaseId ≠ some old.authorityLeaseId)
      (named : e.leaseId = some row.authorityLeaseId)
      (lease : row.lease = acquiredLease E ev task e attempt fence owner) :
      Taking E ev task e v row false

section Moves

variable (E : Environment) (ev : Evidence) (task : SchedulerTask) (e : SchedulerEvent)
variable (dependenciesMet reviewsMet activated : Prop)

/-- Everything one event can do to the task it is about. -/
inductive Move : TaskView → TaskView → Prop
  | audit {v : TaskView} (cause : e.cause.audits = true) : Move v v
  | approvalConsumed {v : TaskView} (cause : e.cause = .approvalConsumed)
      (state : v.projection.state = .ready ∨ v.projection.state = .running) : Move v v
  | cancelRequested {v : TaskView} (cause : e.cause = .cancelRequest)
      (running : v.projection.state = .running) :
      Move v { v with projection :=
        { v.projection with dispatchPhase := .cancellationRequested } }
  | dispatchAccepted {v : TaskView} (cause : e.cause = .dispatchAccepted)
      (running : v.projection.state = .running)
      (phase : v.projection.dispatchPhase = .intentPending) :
      Move v { v with projection := { v.projection with dispatchPhase := .accepted } }
  | heartbeat {v : TaskView} {row : LeaseRow} (cause : e.cause = .heartbeat)
      (running : v.projection.state = .running) (holds : v.Holds row)
      (named : e.leaseId = some row.authorityLeaseId) :
      Move v { v with
        lease := some ⟨row.authorityLeaseId, refreshedLease ev row.lease e.recordedAt⟩ }
  | ended {v : TaskView} {row : LeaseRow} {ending : Store.Ending}
      (cause : e.cause.endsAttempt = true) (running : v.projection.state = .running)
      (holds : v.Holds row) (named : e.leaseId = some row.authorityLeaseId)
      (allowed : ending.Allowed task v.projection) :
      Move v (.afterRelease row ending.outcome (endedProjection v.projection ending)
        v.closedWorktree)
  | worktreeClosed {v : TaskView} {row : LeaseRow} {worktree : WorktreeLease} {reason : String}
      (cause : e.cause = .worktreeObserved) (running : v.projection.state = .running)
      (phase : v.projection.dispatchPhase = .notDispatched) (holds : v.Holds row)
      (named : e.leaseId = some row.authorityLeaseId) (inactive : worktree.status.active = false)
      (own : worktree.taskId = task.taskId) :
      Move v (.afterRelease row .unknown
        (endedProjection v.projection ⟨.blocked, .notDispatched, .unknown, reason⟩)
        (some worktree))
  | worktreeObserved {v : TaskView} {row : LeaseRow} {prior worktree : WorktreeLease}
      (cause : e.cause = .worktreeObserved) (running : v.projection.state = .running)
      (phase : v.projection.dispatchPhase = .notDispatched) (holds : v.Holds row)
      (named : e.leaseId = some row.authorityLeaseId) (observed : v.worktree = some prior)
      (active : prior.status.active = true) (status : worktree.status = .observed)
      (path : worktree.worktree = prior.worktree) (own : worktree.taskId = task.taskId) :
      Move v { v with worktree := some worktree }
  | proposalExpired {v : TaskView} {row : LeaseRow} (cause : e.cause = .approvalProposalExpired)
      (state : v.projection.state = .blocked ∨ v.projection.state = .running)
      (holds : v.Holds row) (named : e.leaseId = some row.authorityLeaseId)
      (proposal : ¬ activated) (attempt : 0 < v.projection.attempt)
      (fence : 0 < v.projection.fence) :
      Move v (.afterRelease row .none
        { v.projection with
          state := .ready
          dispatchPhase := .notDispatched
          attempt := v.projection.attempt - 1
          fence := v.projection.fence - 1
          blockers := [] }
        v.closedWorktree)
  | resultReceived {v : TaskView} {row : LeaseRow} (cause : e.cause = .resultReceived)
      (running : v.projection.state = .running) (holds : v.Holds row)
      (named : e.leaseId = some row.authorityLeaseId) :
      Move v (.afterRelease row .succeeded
        { v.projection with
          state := .verification
          dispatchPhase := .accepted
          outcome := .succeeded
          blockers := [] }
        v.closedWorktree)
  | verified {v : TaskView} (cause : e.cause = .verificationCompleted)
      (state : v.projection.state = .verification) (reviews : reviewsMet) :
      Move v { v with projection :=
        { v.projection with
          state := .completed
          dispatchPhase := .accepted
          outcome := .succeeded
          blockers := [] } }
  | verificationBlocked {v : TaskView} {blockers : List Blocker}
      (cause : e.cause = .verificationBlocked) (state : v.projection.state = .verification) :
      Move v { v with projection :=
        { v.projection with
          state := .blocked
          dispatchPhase := .accepted
          outcome := .unknown
          blockers := blockers } }
  | dispatched {v : TaskView} {row : LeaseRow} {reused : Bool} (cause : e.cause = .dispatchIntent)
      (ready : v.projection.state = .ready) (taking : Taking E ev task e v row reused) :
      Move v { v with
        projection := takenProjection v.projection reused .running .intentPending .none []
        lease := some row }
  | dispatchedBehindWorktree {v : TaskView} (cause : e.cause = .dispatchIntent)
      (running : v.projection.state = .running) :
      Move v { v with projection :=
        { v.projection with dispatchPhase := .intentPending, outcome := .none, blockers := [] } }
  | worktreeRequested {v : TaskView} {row : LeaseRow} {reused : Bool} {worktree : WorktreeLease}
      (cause : e.cause = .worktreeRequest) (ready : v.projection.state = .ready)
      (taking : Taking E ev task e v row reused) (status : worktree.status = .requested)
      (path : some worktree.worktree = task.worktreeAssignment)
      (own : worktree.taskId = task.taskId) :
      Move v { v with
        projection := takenProjection v.projection reused .running .notDispatched .none []
        lease := some row
        worktree := some worktree }
  | approvalBlocked {v : TaskView} {row : LeaseRow} {reused : Bool}
      (cause : e.cause = .dispatchApprovalBlocked) (ready : v.projection.state = .ready)
      (taking : Taking E ev task e v row reused) :
      Move v { v with
        projection := takenProjection v.projection reused .blocked v.projection.dispatchPhase
          v.projection.outcome (Store.blockers "approval-required" [])
        lease := some row }
  | approvalBlockedBehindWorktree {v : TaskView} (cause : e.cause = .dispatchApprovalBlocked)
      (running : v.projection.state = .running) :
      Move v { v with projection :=
        { v.projection with blockers := Store.blockers "approval-required" [] } }
  | budgetBlocked {v : TaskView} (cause : e.cause = .dispatchBudgetBlocked)
      (ready : v.projection.state = .ready) :
      Move v { v with projection :=
        { v.projection with
          state := .blocked
          blockers := Store.blockers "budget-exhausted" [] } }
  | budgetBlockedBehindWorktree {v : TaskView} (cause : e.cause = .dispatchBudgetBlocked)
      (running : v.projection.state = .running) :
      Move v { v with projection :=
        { v.projection with
          dispatchPhase := .notDispatched
          outcome := .none
          blockers := Store.blockers "budget-exhausted" [] } }
  | refreshed {v : TaskView} {target : TaskState} {blockers : List Blocker}
      (cause : e.cause = .readinessRefreshed)
      (refreshable : EventCause.readinessState v.projection.state = true)
      (known : ¬ (v.projection.state = .blocked ∧ v.projection.outcome = .unknown))
      (target_state : EventCause.readinessState target = true)
      (gate : target = .ready → dependenciesMet)
      (settled : dependenciesMet → target ≠ .planned) :
      Move v { v with projection := { v.projection with state := target, blockers := blockers } }

end Moves

/-! ## Invariants of one task -/

/-- What holds of a task in every accepted history. -/
structure TaskView.Sound (v : TaskView) : Prop where
  /-- The attempt and the fence advance together. -/
  attempt_eq_fence : v.projection.attempt = v.projection.fence
  /-- A running task holds a lease. -/
  running : v.projection.state = .running → ∃ row, v.Holds row
  /-- A task whose attempt is over holds none. -/
  finished : v.projection.state = .verification ∨ v.projection.state = .completed ∨
    v.projection.state = .rejected ∨ v.projection.state = .superseded → v.Free
  /-- An unknown outcome is blocked for good, without a lease. -/
  unknown : v.projection.outcome = .unknown → v.projection.state = .blocked ∧ v.Free
  /-- Only a running task holds a worktree. -/
  worktree : ∀ w, v.worktree = some w → w.status.active = true → v.projection.state = .running

namespace TaskView

variable {v : TaskView} {row : LeaseRow} {outcome : TaskOutcome} {p : TaskProjection}
variable {worktree : Option WorktreeLease}

@[simp] theorem afterRelease_projection :
    (afterRelease row outcome p worktree).projection = p := rfl

@[simp] theorem afterRelease_worktree :
    (afterRelease row outcome p worktree).worktree = worktree := rfl

@[simp] theorem afterRelease_free : (afterRelease row outcome p worktree).Free := by
  rintro row' ⟨hrow, hcurrent⟩
  simp only [afterRelease, Option.some.injEq] at hrow
  subst hrow
  simp [Store.releasedLease] at hcurrent

/-- No worktree is active after the end of an attempt. -/
theorem closedWorktree_inactive {w : WorktreeLease} (h : v.closedWorktree = some w) :
    w.status.active = false := by
  simp only [closedWorktree, Option.map_eq_some_iff] at h
  obtain ⟨w', _, rfl⟩ := h
  cases hw : w'.status.active with
  | false => simp [hw]
  | true => simp [Store.releasedWorktree, WorktreeLeaseStatus.active]

end TaskView

theorem TaskView.Free.of_lease {v w : TaskView} (h : v.Free) (hl : w.lease = v.lease) : w.Free :=
  fun row hrow => h row ⟨hl ▸ hrow.1, hrow.2⟩

section Preservation

variable {E : Environment} {ev : Evidence} {task : SchedulerTask} {e : SchedulerEvent}
variable {dependenciesMet reviewsMet activated : Prop} {v w : TaskView}

/-- The lease a task takes is held afterwards. -/
theorem Taking.holds {row : LeaseRow} {reused : Bool} (h : Taking E ev task e v row reused)
    (hw : w.lease = some row) : w.Holds row := by
  cases h with
  | reused holds _ => exact ⟨hw, holds.2⟩
  | fresh _ _ lease => exact ⟨hw, by rw [lease]; rfl⟩

theorem Move.attempt_eq_fence (hv : v.Sound)
    (h : Move E ev task e dependenciesMet reviewsMet activated v w) :
    w.projection.attempt = w.projection.fence := by
  have := hv.attempt_eq_fence
  cases h <;> simp_all [takenProjection, endedProjection]

theorem Move.running (hv : v.Sound)
    (h : Move E ev task e dependenciesMet reviewsMet activated v w)
    (hw : w.projection.state = .running) : ∃ row, w.Holds row := by
  cases h with
  | dispatched _ _ taking => exact ⟨_, taking.holds rfl⟩
  | worktreeRequested _ _ taking => exact ⟨_, taking.holds rfl⟩
  | heartbeat => exact ⟨_, rfl, rfl⟩
  | ended _ _ _ _ allowed =>
    rcases allowed with h | h | h | h <;> simp_all [endedProjection]
  | refreshed _ _ _ target => simp_all [EventCause.readinessState]
  | _ => first
    | exact hv.running ‹_›
    | exact hv.running hw
    | simp_all [endedProjection, takenProjection]

theorem Move.finished (hv : v.Sound)
    (h : Move E ev task e dependenciesMet reviewsMet activated v w)
    (hw : w.projection.state = .verification ∨ w.projection.state = .completed ∨
      w.projection.state = .rejected ∨ w.projection.state = .superseded) : w.Free := by
  cases h with
  | ended | worktreeClosed | proposalExpired | resultReceived =>
    exact TaskView.afterRelease_free
  | heartbeat _ running => simp [running] at hw
  | verified _ state => exact (hv.finished (.inl state)).of_lease rfl
  | refreshed _ _ _ target =>
    rcases hw with hw | hw | hw | hw <;> simp_all [EventCause.readinessState]
  | _ => first
    | exact hv.finished hw
    | simp_all [takenProjection]

theorem Move.unknown (hv : v.Sound)
    (h : Move E ev task e dependenciesMet reviewsMet activated v w)
    (hw : w.projection.outcome = .unknown) : w.projection.state = .blocked ∧ w.Free := by
  cases h with
  | ended _ _ _ _ allowed =>
    refine ⟨?_, TaskView.afterRelease_free⟩
    rcases allowed with h | h | h | h <;> simp_all [endedProjection]
  | worktreeClosed => exact ⟨rfl, TaskView.afterRelease_free⟩
  | proposalExpired _ _ holds => exact absurd holds ((hv.unknown hw).2 _)
  | verificationBlocked _ state => exact ⟨rfl, (hv.finished (.inl state)).of_lease rfl⟩
  | refreshed _ _ known => exact absurd ⟨(hv.unknown hw).1, hw⟩ known
  | heartbeat _ running => simp [(hv.unknown hw).1] at running
  | approvalBlocked _ ready => simp [(hv.unknown hw).1] at ready
  | budgetBlocked _ ready => simp [(hv.unknown hw).1] at ready
  | _ => first
    | exact hv.unknown hw
    | simp_all [takenProjection]

theorem Move.worktree (hv : v.Sound)
    (h : Move E ev task e dependenciesMet reviewsMet activated v w) {x : WorktreeLease}
    (hw : w.worktree = some x) (hx : x.status.active = true) :
    w.projection.state = .running := by
  cases h with
  | ended | proposalExpired | resultReceived =>
    rw [TaskView.closedWorktree_inactive hw] at hx
    cases hx
  | worktreeClosed _ _ _ _ _ inactive =>
    cases hw
    rw [inactive] at hx
    cases hx
  | worktreeRequested | dispatched => rfl
  | worktreeObserved _ running => exact running
  | verified _ state => simp [hv.worktree x hw hx] at state
  | verificationBlocked _ state => simp [hv.worktree x hw hx] at state
  | approvalBlocked _ ready => simp [hv.worktree x hw hx] at ready
  | budgetBlocked _ ready => simp [hv.worktree x hw hx] at ready
  | refreshed _ refreshable =>
    rw [hv.worktree x hw hx] at refreshable
    cases refreshable
  | _ => exact hv.worktree x hw hx

/-- Every move keeps the invariants of its task. -/
theorem Move.sound (hv : v.Sound)
    (h : Move E ev task e dependenciesMet reviewsMet activated v w) : w.Sound where
  attempt_eq_fence := h.attempt_eq_fence hv
  running := h.running hv
  finished := h.finished hv
  unknown := h.unknown hv
  worktree := fun _ => h.worktree hv

end Preservation

/-- A task starts sound. -/
theorem SchedulerTask.initial_sound (task : SchedulerTask) :
    TaskView.Sound ⟨task.initialProjection, none, none⟩ where
  attempt_eq_fence := rfl
  running := by
    unfold SchedulerTask.initialProjection
    split <;> simp
  finished := by
    rintro _ row ⟨hrow, _⟩
    cases hrow
  unknown := by
    unfold SchedulerTask.initialProjection
    simp
  worktree := by simp

end Sdaqf
