import Sdaqf.Recovery

/-!
# Mutual exclusion of a replayed history

An authority lease is open while its latest row is current, and a task holds a worktree while its
latest worktree row is requested or observed. The replay ties a new lease to the identity its event
names, but it does not ask whether the task still holds a lease under another identity, and it does
not ask whether another task holds the requested worktree. A history excludes exactly when none of
its events starts from such a state.
-/

namespace Sdaqf

open Guard Store

variable {E : Environment} {ev : Evidence} {currentLeases : Table CurrentLease} {tables : Tables}
variable {pre log : List Entry} {entry : Entry} {taskId leaseId path : String}

/-! ## Open leases and held worktrees -/

/-- An authority lease of a task was acquired and is neither released nor expired. -/
def LeaseOpen (log : List Entry) (leaseId taskId : String) : Prop :=
  ∃ row, latestAuthorityRow log leaseId taskId = some row ∧ row.lease.status = .current

/-- The latest worktree row of a task requests or observes a worktree. -/
def HoldsWorktree (log : List Entry) (taskId path : String) : Prop :=
  ∃ w, latestWorktreeRow log taskId = some w ∧ w.status.active = true ∧ w.worktree = path

/-- No task has two open leases, and no worktree is held by two tasks. -/
structure Exclusive (log : List Entry) : Prop where
  lease : ∀ taskId leaseId leaseId', LeaseOpen log leaseId taskId →
    LeaseOpen log leaseId' taskId → leaseId = leaseId'
  worktree : ∀ path taskId taskId', HoldsWorktree log taskId path →
    HoldsWorktree log taskId' path → taskId = taskId'

/-- An event that takes a lease writes no row beside a current lease of its task under another
identity, and requests no worktree that another task holds. -/
structure Uncontended (pre : List Entry) (entry : Entry) : Prop where
  lease : entry.event.cause.takesLease = true → ∀ row ∈ entry.leaseRows,
    ∀ prior, latestLeaseRow pre row.lease.taskId = some prior → prior.lease.status = .current →
      prior.authorityLeaseId = row.authorityLeaseId
  worktree : entry.event.cause = .worktreeRequest → ∀ row ∈ entry.worktreeRows,
    ∀ taskId, HoldsWorktree pre taskId row.worktree → taskId = row.taskId

/-- Every open lease of a task is its latest one. -/
def OpenIsLatest (log : List Entry) : Prop :=
  ∀ leaseId taskId, LeaseOpen log leaseId taskId →
    ∃ row, latestLeaseRow log taskId = some row ∧ row.lease.status = .current ∧
      row.authorityLeaseId = leaseId

theorem OpenIsLatest.unique {leaseId' : String} (h : OpenIsLatest log)
    (hopen : LeaseOpen log leaseId taskId) (hopen' : LeaseOpen log leaseId' taskId) :
    leaseId = leaseId' := by
  obtain ⟨row, hrow, _, rfl⟩ := h _ _ hopen
  obtain ⟨row', hrow', _, rfl⟩ := h _ _ hopen'
  rw [Option.some.inj (hrow.symm.trans hrow')]

/-! ## The latest rows -/

/-- The last element with a property is the last one with every stronger property it has. -/
theorem History.lastWhere_of_imp {α : Type} {p q : α → Bool} {l : List α} {a : α}
    (h : History.lastWhere p l = some a) (himp : ∀ b, q b = true → p b = true)
    (ha : q a = true) : History.lastWhere q l = some a := by
  induction l with
  | nil => cases h
  | cons b l ih =>
    rw [History.lastWhere_cons] at h ⊢
    cases hl : History.lastWhere p l with
    | some c =>
      rw [hl, Option.some_or] at h
      rw [ih (hl.trans h), Option.some_or]
    | none =>
      have hnone : History.lastWhere q l = none := by
        rw [History.lastWhere_eq_none] at hl ⊢
        intro c hc
        cases hq : q c with
        | false => rfl
        | true => exact absurd (hl c hc) (by simp [himp c hq])
      rw [hl, Option.none_or] at h
      rw [hnone, Option.none_or]
      split at h
      · cases h
        rw [if_pos ha]
      · cases h

/-- A current latest row of a task opens its authority. -/
theorem leaseOpen_of_latest {row : LeaseRow} (h : latestLeaseRow log taskId = some row)
    (hcurrent : row.lease.status = .current) : LeaseOpen log row.authorityLeaseId taskId := by
  refine ⟨row, History.lastWhere_of_imp h (fun b hb => ?_) ?_, hcurrent⟩
  · simpa using (of_decide_eq_true hb).2
  · simpa using latestLeaseRow_taskId h

/-- The rows of an event are about one authority of one task, and the last of them is the latest. -/
theorem last_leaseRow (pre : List Entry) (hrows : validateRows ev entry = .ok ())
    (hne : entry.leaseRows ≠ []) :
    ∃ last, entry.event.taskId = some last.lease.taskId ∧
      entry.event.leaseId = some last.authorityLeaseId ∧
      (∀ row ∈ entry.leaseRows, row.authorityLeaseId = last.authorityLeaseId ∧
        row.lease.taskId = last.lease.taskId) ∧
      latestLeaseRow (pre ++ [entry]) last.lease.taskId = some last ∧
      latestAuthorityRow (pre ++ [entry]) last.authorityLeaseId last.lease.taskId = some last := by
  obtain ⟨init, last, heq⟩ := List.eq_nil_or_concat entry.leaseRows |>.resolve_left hne
  have hall := leaseRows_of_validateRows hrows
  obtain ⟨_, htask, hid⟩ := hall last (by simp [heq])
  refine ⟨last, htask, hid, fun row hrow => ?_, ?_, ?_⟩
  · obtain ⟨_, htask', hid'⟩ := hall row hrow
    rw [hid, Option.some.injEq] at hid'
    rw [htask, Option.some.injEq] at htask'
    exact ⟨hid'.symm, htask'.symm⟩
  · simp [latestLeaseRow_concat, heq, History.lastWhere_singleton]
  · simp [latestAuthorityRow_concat, heq, History.lastWhere_singleton]

/-- The rows of an event leave the other authorities. -/
theorem latestAuthorityRow_of_ne (hrows : validateRows ev entry = .ok ())
    (hne : ¬ (entry.event.leaseId = some leaseId ∧ entry.event.taskId = some taskId)) :
    latestAuthorityRow (pre ++ [entry]) leaseId taskId = latestAuthorityRow pre leaseId taskId := by
  rw [latestAuthorityRow_concat, History.lastWhere_eq_none.mpr, Option.none_or]
  intro row hrow
  obtain ⟨_, htask, hid⟩ := leaseRows_of_validateRows hrows row hrow
  rw [decide_eq_false_iff_not]
  rintro ⟨rfl, rfl⟩
  exact hne ⟨hid, htask⟩

/-! ## Moves -/

section Moves

variable {task : SchedulerTask} {e : SchedulerEvent} {dependenciesMet reviewsMet activated : Prop}
variable {v w : TaskView}

/-- A move keeps the lease of its task, names the one it holds, or takes one. -/
theorem Move.lease_cases (h : Move E ev task e dependenciesMet reviewsMet activated v w) :
    w.lease = v.lease ∨ (∃ row, v.Holds row ∧ e.leaseId = some row.authorityLeaseId) ∨
      (e.cause.takesLease = true ∧ ∃ row, w.Holds row) := by
  cases h with
  | heartbeat _ _ holds named => exact .inr (.inl ⟨_, holds, named⟩)
  | ended _ _ holds named => exact .inr (.inl ⟨_, holds, named⟩)
  | worktreeClosed _ _ _ holds named => exact .inr (.inl ⟨_, holds, named⟩)
  | proposalExpired _ _ holds named => exact .inr (.inl ⟨_, holds, named⟩)
  | resultReceived _ _ holds named => exact .inr (.inl ⟨_, holds, named⟩)
  | dispatched cause _ taking => exact .inr (.inr ⟨by rw [cause]; rfl, _, taking.holds rfl⟩)
  | worktreeRequested cause _ taking => exact .inr (.inr ⟨by rw [cause]; rfl, _, taking.holds rfl⟩)
  | approvalBlocked cause _ taking => exact .inr (.inr ⟨by rw [cause]; rfl, _, taking.holds rfl⟩)
  | _ => exact .inl rfl

/-- An active worktree was active under the same path before, or was requested by the move. -/
theorem Move.worktree_cases (h : Move E ev task e dependenciesMet reviewsMet activated v w)
    {worktree : WorktreeLease} (hw : w.worktree = some worktree)
    (hactive : worktree.status.active = true) :
    (∃ prior, v.worktree = some prior ∧ prior.status.active = true ∧
      prior.worktree = worktree.worktree) ∨ e.cause = .worktreeRequest := by
  cases h with
  | ended | proposalExpired | resultReceived =>
    rw [TaskView.closedWorktree_inactive hw] at hactive
    cases hactive
  | worktreeClosed _ _ _ _ _ inactive =>
    obtain rfl := Option.some.inj hw
    rw [inactive] at hactive
    cases hactive
  | worktreeObserved _ _ _ _ _ observed active _ same =>
    obtain rfl := Option.some.inj hw
    exact .inl ⟨_, observed, active, same.symm⟩
  | worktreeRequested cause => exact .inr cause
  | _ => exact .inl ⟨worktree, hw, hactive, rfl⟩

end Moves

/-! ## One entry -/

theorem taskView_lease {graph : TaskGraph} {v : TaskView}
    (h : taskView graph log taskId = some v) : v.lease = latestLeaseRow log taskId := by
  obtain ⟨p, _, rfl⟩ := taskView_eq_some.mp h
  rfl

theorem taskView_worktree {graph : TaskGraph} {v : TaskView}
    (h : taskView graph log taskId = some v) : v.worktree = latestWorktreeRow log taskId := by
  obtain ⟨p, _, rfl⟩ := taskView_eq_some.mp h
  rfl

namespace AcceptedEntry

variable (h : AcceptedEntry E ev currentLeases pre entry)
include h

/-- A lease row of an event continues the current lease of its task, or the event takes a lease. -/
theorem row_cases {prior last : LeaseRow} (htask : entry.event.taskId = some last.lease.taskId)
    (hid : entry.event.leaseId = some last.authorityLeaseId)
    (hlast : latestLeaseRow (pre ++ [entry]) last.lease.taskId = some last)
    (hprior : latestLeaseRow pre last.lease.taskId = some prior)
    (hcurrent : prior.lease.status = .current) :
    prior.authorityLeaseId = last.authorityLeaseId ∨
      (entry.event.cause.takesLease = true ∧ last.lease.status = .current) := by
  obtain ⟨_, v, w, _, _, hv, hw, hmove⟩ := h.move_of_task htask
  have hbefore : v.lease = some prior := (taskView_lease hv).trans hprior
  have hafter : w.lease = some last := (taskView_lease hw).trans hlast
  rcases hmove.lease_cases with hsame | ⟨row, hholds, hnamed⟩ | ⟨hcause, row, hholds⟩
  · rw [hbefore, hafter, Option.some.injEq] at hsame
    exact .inl (by rw [hsame])
  · obtain rfl := hholds.unique ⟨hbefore, hcurrent⟩
    exact .inl (Option.some.inj (hnamed.symm.trans hid))
  · obtain rfl := Option.some.inj (hafter.symm.trans hholds.1)
    exact .inr ⟨hcause, hholds.2⟩

/-- Where an event takes no lease beside a current one, every open lease stays the latest of its
task. -/
theorem openIsLatest (hfree : entry.event.cause.takesLease = true → ∀ row ∈ entry.leaseRows,
      ∀ prior, latestLeaseRow pre row.lease.taskId = some prior → prior.lease.status = .current →
        prior.authorityLeaseId = row.authorityLeaseId)
    (hpre : OpenIsLatest pre) : OpenIsLatest (pre ++ [entry]) := by
  rintro leaseId taskId ⟨row, hrow, hcurrent⟩
  by_cases hnil : entry.leaseRows = []
  · rw [latestAuthorityRow_concat, hnil, History.lastWhere_nil, Option.none_or] at hrow
    rw [latestLeaseRow_concat_nil hnil]
    exact hpre _ _ ⟨row, hrow, hcurrent⟩
  obtain ⟨last, htask, hid, hall, hlatest, hauthority⟩ := last_leaseRow pre h.rows hnil
  by_cases hown : entry.event.leaseId = some leaseId ∧ entry.event.taskId = some taskId
  · obtain ⟨hleaseId, htaskId⟩ := hown
    obtain rfl := Option.some.inj (hid.symm.trans hleaseId)
    obtain rfl := Option.some.inj (htask.symm.trans htaskId)
    obtain rfl := Option.some.inj (hauthority.symm.trans hrow)
    exact ⟨_, hlatest, hcurrent, rfl⟩
  rw [latestAuthorityRow_of_ne h.rows hown] at hrow
  obtain ⟨prior, hprior, hprior_current, rfl⟩ := hpre _ _ ⟨row, hrow, hcurrent⟩
  by_cases htaskId : entry.event.taskId = some taskId
  · -- the task held `prior`, so the rows of the event are about the same authority
    obtain rfl := Option.some.inj (htask.symm.trans htaskId)
    have hsame : prior.authorityLeaseId = last.authorityLeaseId := by
      rcases h.row_cases htask hid hlatest hprior hprior_current with hsame | ⟨hcause, _⟩
      · exact hsame
      · obtain ⟨row', hrow'⟩ := List.exists_mem_of_ne_nil _ hnil
        obtain ⟨hid', htask'⟩ := hall row' hrow'
        rw [← hid']
        exact hfree hcause row' hrow' prior (htask' ▸ hprior) hprior_current
    exact absurd ⟨hsame ▸ hid, htask⟩ hown
  · exact ⟨prior, by rwa [latestLeaseRow_of_ne h.rows htaskId], hprior_current, rfl⟩

/-- A worktree is held as before, or the event requested it. -/
theorem holdsWorktree_cases (hholds : HoldsWorktree (pre ++ [entry]) taskId path) :
    HoldsWorktree pre taskId path ∨ (entry.event.cause = .worktreeRequest ∧
      ∃ row ∈ entry.worktreeRows, row.taskId = taskId ∧ row.worktree = path) := by
  obtain ⟨worktree, hlatest, hactive, rfl⟩ := hholds
  by_cases htask : entry.event.taskId = some taskId
  · obtain ⟨_, v, w, _, _, hv, hw, hmove⟩ := h.move_of_task htask
    rcases hmove.worktree_cases ((taskView_worktree hw).trans hlatest) hactive with
      ⟨prior, hprior, hprior_active, hpath⟩ | hcause
    · exact .inl ⟨prior, (taskView_worktree hv).symm.trans hprior, hprior_active, hpath⟩
    · refine .inr ⟨hcause, worktree, ?_, latestWorktreeRow_taskId hlatest, rfl⟩
      rcases h.cases with ⟨hnone, _⟩ | ⟨task, _, _, _, hjudged, _⟩
      · rw [taskId_eq_none.mpr hnone] at htask
        cases htask
      · obtain ⟨requested, hrows, _, _, hown⟩ := hjudged.requested_worktree hcause
        have hrequested : latestWorktreeRow (pre ++ [entry]) task.taskId = some requested :=
          latestWorktreeRow_own h.rows hjudged.event_taskId hrows
        obtain rfl := Option.some.inj (hjudged.event_taskId.symm.trans htask)
        obtain rfl := Option.some.inj (hrequested.symm.trans hlatest)
        simp [hrows]
  · rw [latestWorktreeRow_of_ne h.rows htask] at hlatest
    exact .inl ⟨worktree, hlatest, hactive, rfl⟩

/-- An uncontended event keeps exclusion. -/
theorem exclusive (hfree : Uncontended pre entry)
    (hpre : OpenIsLatest pre ∧ Exclusive pre) :
    OpenIsLatest (pre ++ [entry]) ∧ Exclusive (pre ++ [entry]) := by
  have hopen := h.openIsLatest hfree.lease hpre.1
  refine ⟨hopen, fun _ _ _ h₁ h₂ => hopen.unique h₁ h₂, fun path taskId taskId' h₁ h₂ => ?_⟩
  rcases h.holdsWorktree_cases h₁ with hold | ⟨hcause, row, hrow, rfl, rfl⟩
  · rcases h.holdsWorktree_cases h₂ with hold' | ⟨hcause, row, hrow, rfl, rfl⟩
    · exact hpre.2.worktree path taskId taskId' hold hold'
    · exact hfree.worktree hcause row hrow taskId hold
  · rcases h.holdsWorktree_cases h₂ with hold' | ⟨_, row', hrow', rfl, _⟩
    · exact (hfree.worktree hcause row hrow taskId' hold').symm
    · have := (worktreeRows_of_validateRows h.rows row hrow).1
      rw [(worktreeRows_of_validateRows h.rows row' hrow').1, Option.some.injEq] at this
      exact this.symm

/-- An event that starts from a contended state ends exclusion. -/
theorem uncontended (hpost : Exclusive (pre ++ [entry])) : Uncontended pre entry := by
  refine ⟨fun _ row hrow prior hprior hcurrent => ?_, fun hcause row hrow taskId hholds => ?_⟩
  · obtain ⟨last, htask, hid, hall, hlatest, hauthority⟩ :=
      last_leaseRow pre h.rows (List.ne_nil_of_mem hrow)
    obtain ⟨hsame, htaskId⟩ := hall row hrow
    rw [htaskId] at hprior
    rw [hsame]
    rcases h.row_cases htask hid hlatest hprior hcurrent with heq | ⟨_, hlast⟩
    · exact heq
    by_contra hne
    obtain ⟨row', hrow', hcurrent'⟩ := leaseOpen_of_latest hprior hcurrent
    refine hne (hpost.lease last.lease.taskId _ _ ⟨row', ?_, hcurrent'⟩ ⟨last, hauthority, hlast⟩)
    rwa [latestAuthorityRow_of_ne h.rows]
    rintro ⟨hid', _⟩
    exact hne (Option.some.inj (hid'.symm.trans hid))
  · have hown := (worktreeRows_of_validateRows h.rows row hrow).1
    rcases h.cases with ⟨_, _, hnil⟩ | ⟨task, _, _, _, hjudged, _⟩
    · simp [hnil] at hrow
    obtain ⟨requested, hrows, hstatus, _, _⟩ := hjudged.requested_worktree hcause
    obtain rfl : row = requested := by simpa [hrows] using hrow
    by_contra hne
    obtain ⟨worktree, hlatest, hactive, hpath⟩ := hholds
    refine hne (hpost.worktree row.worktree taskId row.taskId ⟨worktree, ?_, hactive, hpath⟩
      ⟨row, latestWorktreeRow_own h.rows hown hrows, by rw [hstatus]; rfl, rfl⟩)
    rwa [latestWorktreeRow_of_ne h.rows]
    rw [hown]
    exact fun heq => hne (Option.some.inj heq).symm

end AcceptedEntry

/-! ## Whole histories -/

theorem exclusive_nil : OpenIsLatest [] ∧ Exclusive [] := by
  refine ⟨?_, ?_, ?_⟩
  · rintro _ _ ⟨_, hrow, _⟩
    cases hrow
  · rintro _ _ _ ⟨_, hrow, _⟩
    cases hrow
  · rintro _ _ _ ⟨_, hrow, _⟩
    cases hrow

/-- Every prefix of an accepted history excludes exactly when every event of it is uncontended. -/
theorem exclusive_iff_uncontended (h : validateEvidence E ev tables = .ok ()) :
    (∀ log, log <+: ev.log → Exclusive log) ↔
      ∀ pre entry post, ev.log = pre ++ entry :: post → Uncontended pre entry := by
  have haccepted := (validEvidence_of_ok h).acceptedEntries
  constructor
  · intro hall pre entry post hlog
    refine (haccepted pre entry post hlog).uncontended (hall _ ⟨post, ?_⟩)
    simp [hlog]
  · rintro hall log ⟨rest, hlog⟩
    have hboth : History.Accepted
        (fun pre entry => AcceptedEntry E ev tables.currentLeases pre entry ∧ Uncontended pre entry)
        (log ++ rest) := by
      rw [hlog]
      exact fun pre entry post heq => ⟨haccepted pre entry post heq, hall pre entry post heq⟩
    exact (hboth.of_append.invariant (fun log => OpenIsLatest log ∧ Exclusive log) exclusive_nil
      fun pre entry _ ih hentry => hentry.1.exclusive hentry.2 ih).2

/-- Every prefix of the history of one dispatched task excludes exactly as its events say. -/
theorem exclusive_iff_uncontended_oneTask :
    (∀ log, log <+: Sample.oneTaskTick.store.log → Exclusive log) ↔
      ∀ pre entry post, Sample.oneTaskTick.store.log = pre ++ entry :: post →
        Uncontended pre entry := by
  have h : validateEvidence Sample.oneDispatch Sample.oneTaskTick.store.evidence
      Sample.oneTaskTick.store.tables = .ok () := by
    decide +kernel
  exact exclusive_iff_uncontended h

namespace Sample

/-- Short names for two leases of one task. -/
noncomputable def twoLeases : Environment := environment [lease "A" 1 1, lease "A" 2 1] []

/-- A task that stops for the approval of the owner. -/
def stopped : SchedulerTask := { task "A" with approvalStops := [.owner] }

/-- Two ticks block the task on its approval under the same lease. -/
noncomputable def stoppedTwice : Store :=
  result (do
    let created ← initializeStore twoLeases (graph [stopped]) 0 60 15 true
    let first ← tick twoLeases created host [] second
    let again ← tick twoLeases first.store host [] second
    return again.store) (by decide +kernel)

/-- The event as it reads when it takes a second lease instead of the one the task holds. -/
def reacquired (entry : Entry) : Entry :=
  { entry with
    event := { entry.event with
      leaseId := some (Naming.label 'L' 1)
      taskProjection :=
        entry.event.taskProjection.map fun p => { p with attempt := 2, fence := 2 } }
    leaseRows := [⟨Naming.label 'L' 1, lease "A" 2 1⟩] }

/-- The same history, but its last event takes a second lease. -/
noncomputable def reacquiredEvidence : Evidence :=
  { stoppedTwice.evidence with
    log := stoppedTwice.log.take 4 ++ (stoppedTwice.log.drop 4).map reacquired }

end Sample

/-- The replay accepts a history in which one task holds two leases. -/
theorem validateEvidence_two_leases :
    Sample.twoLeases.CollisionFree ∧
      validateEvidence Sample.twoLeases Sample.reacquiredEvidence Sample.stoppedTwice.tables =
        .ok () ∧
      ¬ Exclusive Sample.reacquiredEvidence.log := by
  refine ⟨Sample.environment_collisionFree _ _, by decide +kernel, fun hexclusive => ?_⟩
  have hopen : ∀ n ∈ [0, 1], (latestAuthorityRow Sample.reacquiredEvidence.log
      (Naming.label 'L' n) "A").any (fun row => row.lease.status = .current) = true := by
    decide +kernel
  have holds : ∀ n ∈ [0, 1],
      LeaseOpen Sample.reacquiredEvidence.log (Naming.label 'L' n) "A" := fun n hn => by
    obtain ⟨row, hrow, hcurrent⟩ := (Option.any_eq_true _ _).mp (hopen n hn)
    exact ⟨row, hrow, of_decide_eq_true hcurrent⟩
  exact absurd (hexclusive.lease "A" _ _ (holds 0 (by simp)) (holds 1 (by simp))) (by decide)

end Sdaqf
