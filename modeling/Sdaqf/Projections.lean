import Sdaqf.BudgetSteps

/-!
# The tables of a valid store

The mutable tables of a valid store are functions of its evidence. `Projected` says which: a task
row is the last projection recorded for its task, a current lease is the latest lease row when that
is current, a total is the last snapshot, and so on.
-/

namespace Sdaqf

open Guard Store

variable {E : Environment} {ev : Evidence} {tables : Tables} {taskId : String}
variable {currentLeases : Table CurrentLease}

/-- The keys of a table are sorted and unique. -/
theorem Table.sorted_keys {α : Type} (t : Table α) : sortedUnique t.keys :=
  t.ordered_keys.imp fun h => compare_lt_iff_lt.mp h

theorem sortedUnique.nodup {l : List String} (h : sortedUnique l) : l.Nodup :=
  h.imp fun hlt => ne_of_lt hlt

/-! ## The projections of valid evidence -/

/-- The graph tells its tasks apart. -/
def TaskGraph.UniqueTasks (graph : TaskGraph) : Prop := (graph.tasks.map (·.taskId)).Nodup

theorem TaskGraph.task?_of_mem {graph : TaskGraph} {task : SchedulerTask}
    (hids : graph.UniqueTasks) (h : task ∈ graph.tasks) :
    graph.task? task.taskId = some task :=
  History.find?_key hids h

theorem TaskGraph.task?_isSome {graph : TaskGraph} :
    (graph.task? taskId).isSome ↔ taskId ∈ graph.tasks.map (·.taskId) := by
  simp [TaskGraph.task?]

theorem projectionAt_isSome {graph : TaskGraph} {log : List Entry}
    (h : (graph.task? taskId).isSome) : (projectionAt graph log taskId).isSome := by
  obtain ⟨task, htask⟩ := Option.isSome_iff_exists.mp h
  simp [projectionAt, htask]

/-- What the validator establishes about the mutable tables of a store. -/
structure Projected (E : Environment) (ev : Evidence) (tables : Tables) : Prop where
  tasks_sorted : sortedUnique (ev.graph.tasks.map (·.taskId))
  tasks : ∀ t : String, tables.tasks[t]? = (ev.graph.task? t).bind fun task =>
    (projectionAt ev.graph ev.log t).map fun p =>
      ⟨task, task.wave, ev.graph.topologicalRank task.taskId, p⟩
  attempts : ∀ task ∈ ev.graph.tasks, ∀ p, projectionAt ev.graph ev.log task.taskId = some p →
    p.attempt = p.fence ∧ p.attempt ≤ task.maxAttempts
  dependencies : tables.dependencies = dependencyPairs ev.graph
  currentLeases : ∀ t : String, tables.currentLeases[t]? = currentLeaseOf ev.log t
  budgetTotals : ∃ ledger, latestLedger ev.log = some ledger ∧ ∀ r : Resource,
    tables.budgetTotals r = ⟨ledger.reserved r, ledger.used r, ledger.availability r⟩
  currentWorktrees : ∀ t : String, tables.currentWorktrees[t]? = currentWorktreeOf ev.log t
  approvalConsumptions : ∀ row : String × Consumption,
    tables.approvalConsumptions[row.1]? = some row.2 ↔ row ∈ recordedConsumptions ev.log
  hostCapabilities : tables.hostCapabilities = capabilitiesBefore E ev ev.log

/-- A table that agrees with a reading on its own keys and on the keys of a history agrees with it
everywhere. -/
theorem table_eq_reading {α : Type} {t : Table α} {reading : String → Option α}
    {history : List String} (hnone : ∀ k, k ∉ history → reading k = none)
    (hset : ∀ k ∈ t.keys ++ history, k ∈ t.keys ↔ (reading k).isSome)
    (hrows : ∀ k v, t[k]? = some v → reading k = some v) (k : String) : t[k]? = reading k := by
  cases hk : t[k]? with
  | some v => exact (hrows k v hk).symm
  | none =>
    have hkeys : k ∉ t.keys := by rw [Table.mem_keys, hk]; simp
    by_cases hhistory : k ∈ history
    · have := (hset k (List.mem_append_right _ hhistory)).not.mp hkeys
      rw [Bool.not_eq_true, Option.isSome_eq_false_iff, Option.isNone_iff_eq_none] at this
      exact this.symm
    · exact (hnone k hhistory).symm

theorem projected_of_ok (h : validateProjections E ev tables = .ok ()) : Projected E ev tables := by
  simp only [validateProjections, validateBudgetEvidence, expectedRow, bind_eq_ok, exists_unit,
    require_eq_ok, forEach_eq_ok, fromOption_eq_ok, Prod.forall, Table.mem_toList] at h
  obtain ⟨hkeys, hrows, hdependencies, hleaseSet, hleases, _, ledger, ⟨b, hb, hlatest⟩, htotals,
    hworktreeSet, hworktrees, hconsumed, hrecorded, hcapabilities⟩ := h
  have hsorted : sortedUnique (ev.graph.tasks.map (·.taskId)) :=
    hkeys ▸ tables.tasks.sorted_keys
  refine ⟨hsorted, ?_, ?_, hdependencies, ?_, ⟨ledger, ?_, htotals⟩, ?_, ?_, hcapabilities⟩
  · intro t
    cases htask : ev.graph.task? t with
    | none =>
      have : t ∉ tables.tasks.keys := by
        rw [hkeys, ← TaskGraph.task?_isSome, htask]
        simp
      rw [Table.mem_keys] at this
      simpa using this
    | some task =>
      obtain ⟨row, hrow, hdefinition, ⟨hwave, hrank⟩, _, hprojection⟩ :=
        hrows task (TaskGraph.task?_mem htask)
      rw [TaskGraph.task?_taskId htask] at hrow hrank hprojection
      rw [hrow, ← hprojection]
      have htaskId := TaskGraph.task?_taskId htask
      cases row
      simp_all
  · intro task htask p hp
    obtain ⟨row, _, _, _, ⟨hfence, hmax⟩, hprojection⟩ := hrows task htask
    rw [hp, Option.some.injEq] at hprojection
    rw [← hprojection]
    exact ⟨hfence, hmax⟩
  · refine table_eq_reading (fun k hk => ?_) hleaseSet fun k v hkv => (hleases k v hkv).2.2
    rw [← latestLeaseRow_isSome, Bool.not_eq_true, Option.isSome_eq_false_iff,
      Option.isNone_iff_eq_none] at hk
    simp [currentLeaseOf, hk]
  · rw [← replayBudget_latest hb, hlatest]
  · refine table_eq_reading (fun k hk => ?_) hworktreeSet fun k v hkv => (hworktrees k v hkv).2
    rw [← latestWorktreeRow_isSome, Bool.not_eq_true, Option.isSome_eq_false_iff,
      Option.isNone_iff_eq_none] at hk
    simp [currentWorktreeOf, hk]
  · rintro ⟨k, c⟩
    exact ⟨fun hk => hconsumed k c hk, fun hk => hrecorded k c hk⟩

end Sdaqf
