import Sdaqf.Runs

/-!
# Readings of a growing log

How every query of the store changes when one entry joins the log. Each lemma says what the reading
of `pre ++ [entry]` is in terms of the reading of `pre` and of the entry alone.
-/

namespace Sdaqf

open Guard

variable {E : Environment} {ev : Evidence} {graph : TaskGraph} {pre : List Entry} {entry : Entry}
variable {taskId : String}

/-! ## Projections -/

theorem recordedProjection_concat :
    recordedProjection (pre ++ [entry]) taskId =
      if entry.event.taskId = some taskId then entry.event.taskProjection
      else recordedProjection pre taskId := by
  unfold recordedProjection
  rw [History.lastWhere_append, History.lastWhere_singleton]
  by_cases h : entry.event.taskId = some taskId <;> simp [h]

/-- The projection an event records is a projection of the task of the event. -/
theorem taskId_of_taskProjection {e : SchedulerEvent} {p : TaskProjection}
    (h : e.taskProjection = some p) : e.taskId = some p.taskId := by
  simp [SchedulerEvent.taskId, h]

theorem taskId_eq_some {e : SchedulerEvent} :
    e.taskId = some taskId ↔ ∃ p, e.taskProjection = some p ∧ p.taskId = taskId := by
  simp [SchedulerEvent.taskId]

theorem taskId_eq_none {e : SchedulerEvent} : e.taskId = none ↔ e.taskProjection = none := by
  simp [SchedulerEvent.taskId]

theorem projectionAt_concat_of_task {p : TaskProjection} (h : entry.event.taskProjection = some p) :
    projectionAt graph (pre ++ [entry]) p.taskId = some p := by
  simp [projectionAt, recordedProjection_concat, taskId_of_taskProjection h, h]

theorem projectionAt_concat_of_ne (h : entry.event.taskId ≠ some taskId) :
    projectionAt graph (pre ++ [entry]) taskId = projectionAt graph pre taskId := by
  simp [projectionAt, recordedProjection_concat, h]

/-- A recorded projection is one of its task. -/
theorem recordedProjection_taskId {log : List Entry} {p : TaskProjection}
    (h : recordedProjection log taskId = some p) : p.taskId = taskId := by
  unfold recordedProjection at h
  obtain ⟨entry, hentry, hp⟩ := Option.bind_eq_some_iff.mp h
  have htask := (History.of_lastWhere_eq_some hentry).2
  simp only [decide_eq_true_eq, taskId_of_taskProjection hp, Option.some.injEq] at htask
  exact htask

theorem TaskGraph.task?_taskId {task : SchedulerTask} (h : graph.task? taskId = some task) :
    task.taskId = taskId := by
  simpa using List.find?_some h

theorem TaskGraph.task?_mem {task : SchedulerTask} (h : graph.task? taskId = some task) :
    task ∈ graph.tasks :=
  List.mem_of_find?_eq_some h

theorem projectionAt_taskId {log : List Entry} {p : TaskProjection}
    (h : projectionAt graph log taskId = some p) : p.taskId = taskId := by
  unfold projectionAt at h
  cases hr : recordedProjection log taskId with
  | some q =>
    rw [hr, Option.some_or, Option.some.injEq] at h
    exact h ▸ recordedProjection_taskId hr
  | none =>
    rw [hr, Option.none_or, Option.map_eq_some_iff] at h
    obtain ⟨task, htask, rfl⟩ := h
    exact TaskGraph.task?_taskId htask

/-! ## Lease and worktree rows -/

theorem latestLeaseRow_concat :
    latestLeaseRow (pre ++ [entry]) taskId =
      (History.lastWhere (fun row => decide (row.lease.taskId = taskId)) entry.leaseRows).or
        (latestLeaseRow pre taskId) := by
  simp [latestLeaseRow]

theorem latestLeaseRow_concat_nil (h : entry.leaseRows = []) :
    latestLeaseRow (pre ++ [entry]) taskId = latestLeaseRow pre taskId := by
  simp [latestLeaseRow_concat, h]

theorem latestLeaseRow_concat_singleton {row : LeaseRow} (h : entry.leaseRows = [row]) :
    latestLeaseRow (pre ++ [entry]) taskId =
      if row.lease.taskId = taskId then some row else latestLeaseRow pre taskId := by
  rw [latestLeaseRow_concat, h, History.lastWhere_singleton]
  by_cases ht : row.lease.taskId = taskId <;> simp [ht]

theorem latestLeaseRow_taskId {log : List Entry} {row : LeaseRow}
    (h : latestLeaseRow log taskId = some row) : row.lease.taskId = taskId := by
  simpa using (History.of_lastWhere_eq_some h).2

theorem latestLeaseRow_mem {log : List Entry} {row : LeaseRow}
    (h : latestLeaseRow log taskId = some row) : row ∈ leaseHistory log :=
  (History.of_lastWhere_eq_some h).1

theorem latestAuthorityRow_concat {authority : String} :
    latestAuthorityRow (pre ++ [entry]) authority taskId =
      (History.lastWhere
        (fun row => decide (row.authorityLeaseId = authority ∧ row.lease.taskId = taskId))
        entry.leaseRows).or (latestAuthorityRow pre authority taskId) := by
  simp [latestAuthorityRow]

theorem latestWorktreeRow_concat :
    latestWorktreeRow (pre ++ [entry]) taskId =
      (History.lastWhere (fun row => decide (row.taskId = taskId)) entry.worktreeRows).or
        (latestWorktreeRow pre taskId) := by
  simp [latestWorktreeRow]

theorem latestWorktreeRow_concat_nil (h : entry.worktreeRows = []) :
    latestWorktreeRow (pre ++ [entry]) taskId = latestWorktreeRow pre taskId := by
  simp [latestWorktreeRow_concat, h]

theorem latestWorktreeRow_concat_singleton {row : WorktreeLease} (h : entry.worktreeRows = [row]) :
    latestWorktreeRow (pre ++ [entry]) taskId =
      if row.taskId = taskId then some row else latestWorktreeRow pre taskId := by
  rw [latestWorktreeRow_concat, h, History.lastWhere_singleton]
  by_cases ht : row.taskId = taskId <;> simp [ht]

theorem latestWorktreeRow_taskId {log : List Entry} {row : WorktreeLease}
    (h : latestWorktreeRow log taskId = some row) : row.taskId = taskId := by
  simpa using (History.of_lastWhere_eq_some h).2

theorem latestWorktreeRow_mem {log : List Entry} {row : WorktreeLease}
    (h : latestWorktreeRow log taskId = some row) : row ∈ worktreeHistory log :=
  (History.of_lastWhere_eq_some h).1

/-- A task has a row in the lease history exactly when it has a latest one. -/
theorem latestLeaseRow_isSome {log : List Entry} :
    (latestLeaseRow log taskId).isSome ↔ taskId ∈ (leaseHistory log).map (·.lease.taskId) := by
  rw [← not_iff_not, Bool.not_eq_true, Option.isSome_eq_false_iff, Option.isNone_iff_eq_none,
    latestLeaseRow, History.lastWhere_eq_none]
  simp

theorem latestWorktreeRow_isSome {log : List Entry} :
    (latestWorktreeRow log taskId).isSome ↔ taskId ∈ (worktreeHistory log).map (·.taskId) := by
  rw [← not_iff_not, Bool.not_eq_true, Option.isSome_eq_false_iff, Option.isNone_iff_eq_none,
    latestWorktreeRow, History.lastWhere_eq_none]
  simp

/-! ## Adoptions, ledgers and consumptions -/

theorem adoptions_concat :
    ev.adoptions E (pre ++ [entry]) =
      ev.adoptions E pre ++ (adoptionOf E ev entry.event).toList := by
  cases h : adoptionOf E ev entry.event <;> simp [Evidence.adoptions, h]

theorem latestLedger_concat :
    latestLedger (pre ++ [entry]) = entry.ledger.or (latestLedger pre) := by
  cases h : entry.ledger <;> simp [latestLedger, h]

theorem eventsOf_concat {cause : EventCause} :
    eventsOf (pre ++ [entry]) cause =
      eventsOf pre cause ++ (if entry.event.cause = cause then [entry.event] else []) := by
  by_cases h : entry.event.cause = cause <;> simp [eventsOf, h]

end Sdaqf
