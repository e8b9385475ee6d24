import Mathlib.Data.Prod.Lex
import Sdaqf.EpochCalls
import Sdaqf.Sorting

/-!
# The public state of a reachable store

The public state is checked by its own contract before it is returned. The contract wants the ready
tasks sorted by identity, while the scheduler orders them by wave and rank first; it also bounds the
number of leases and worktrees that can be named. Everything else it asks for holds of every
reachable store.
-/

namespace Sdaqf

open Guard Store

variable {E : Environment} {st st' : Store} {t : Timestamp}

/-! ## Two orders of task rows -/

/-- The sort key of a task row. -/
def rowKey (row : TaskRow) : ℕ ×ₗ ℕ ×ₗ String :=
  toLex (row.wave, toLex (row.topologicalRank, row.projection.taskId))

theorem rowLe_iff_rowKey {a b : TaskRow} : rowLe a b ↔ rowKey a ≤ rowKey b := by
  simp only [rowLe, rowKey, Prod.Lex.toLex_le_toLex]

instance : Std.Total rowLe where
  total a b := by
    rw [rowLe_iff_rowKey, rowLe_iff_rowKey]
    exact le_total _ _

instance : IsTrans TaskRow rowLe where
  trans a b c hab hbc := by
    rw [rowLe_iff_rowKey] at *
    exact hab.trans hbc

/-- What a task row of a valid store says about its task. -/
structure RowLaw (st : Store) (k : String) (row : TaskRow) : Prop where
  task : row.definition ∈ st.graph.tasks
  taskId : row.definition.taskId = k
  wave : row.wave = row.definition.wave
  rank : row.topologicalRank = st.graph.topologicalRank k
  key : row.projection.taskId = k
  projection : projectionAt st.graph st.log k = some row.projection

theorem ValidStore.rowLaw (hv : ValidStore E st) {k : String} {row : TaskRow}
    (h : st.tables.tasks[k]? = some row) : RowLaw st k row := by
  rw [hv.projected.tasks] at h
  obtain ⟨task, htask, h⟩ := Option.bind_eq_some_iff.mp h
  obtain ⟨p, hp, rfl⟩ := Option.map_eq_some_iff.mp h
  have hid : task.taskId = k := TaskGraph.task?_taskId htask
  exact ⟨TaskGraph.task?_mem htask, hid, rfl, congrArg _ hid, projectionAt_taskId hp, hp⟩

/-- The rows of a valid store in scheduling order are its tasks in scheduling order. -/
theorem RowLaw.rowLe_iff {k k' : String} {a b : TaskRow} (ha : RowLaw st k a)
    (hb : RowLaw st k' b) : rowLe a b ↔ taskLe st.graph a.definition b.definition := by
  rw [rowLe, taskLe, ha.wave, hb.wave, ha.rank, hb.rank, ha.key, hb.key, ha.taskId, hb.taskId]

/-! ## Ready tasks -/

/-- A task of the graph that is ready. -/
def Store.Ready (st : Store) (task : SchedulerTask) : Prop :=
  task ∈ st.graph.tasks ∧ (st.projection? task.taskId).map (·.state) = some .ready

/-- A list names exactly the ready tasks, in scheduling order. -/
def ListsReady (st : Store) (ids : List String) : Prop :=
  ∃ tasks : List SchedulerTask, ids = tasks.map (·.taskId) ∧ tasks.Nodup ∧
    (∀ task, task ∈ tasks ↔ st.Ready task) ∧ tasks.Pairwise (taskLe st.graph)

/-- The rows of the ready tasks, in the order of their identities. -/
def Store.readyRows (st : Store) : List TaskRow :=
  st.tables.tasks.rows.filter fun row => decide (row.projection.state = .ready)

theorem mem_readyRows {row : TaskRow} : row ∈ st.readyRows ↔
    (∃ k : String, st.tables.tasks[k]? = some row) ∧ row.projection.state = .ready := by
  simp only [readyRows, List.mem_filter, Table.mem_rows, decide_eq_true_eq]

theorem ValidStore.pairwise_readyRows (hv : ValidStore E st) :
    st.readyRows.Pairwise fun a b => a.projection.taskId < b.projection.taskId :=
  (Table.pairwise_rows fun _ _ h => (hv.rowLaw h).key).filter _

/-- The ready rows carry the definitions of the ready tasks. -/
theorem ValidStore.ready_iff (hv : ValidStore E st) {task : SchedulerTask} :
    st.Ready task ↔ ∃ row ∈ st.readyRows, row.definition = task := by
  constructor
  · rintro ⟨hmem, hready⟩
    rw [projection?, Option.map_map, Option.map_eq_some_iff] at hready
    obtain ⟨row, hrow, hstate⟩ := hready
    refine ⟨row, mem_readyRows.mpr ⟨⟨_, hrow⟩, hstate⟩, ?_⟩
    have hlaw := hv.rowLaw hrow
    have hids : st.graph.UniqueTasks := hv.projected.tasks_sorted.nodup
    have hself := TaskGraph.task?_of_mem hids hlaw.task
    rw [hlaw.taskId, TaskGraph.task?_of_mem hids hmem, Option.some.injEq] at hself
    exact hself.symm
  · rintro ⟨row, hrow, rfl⟩
    obtain ⟨⟨k, hk⟩, hstate⟩ := mem_readyRows.mp hrow
    have hlaw := hv.rowLaw hk
    refine ⟨hlaw.task, ?_⟩
    rw [hlaw.taskId, projection?, hk, Option.map_some, Option.map_some, hstate]

/-- The ready order lists the ready tasks in scheduling order. -/
theorem ValidStore.listsReady (hv : ValidStore E st) :
    ListsReady st (st.publicState E).readyOrder := by
  have hlaw : ∀ row ∈ st.readyRows.insertionSort rowLe, ∃ k, RowLaw st k row := by
    intro row hrow
    obtain ⟨⟨k, hk⟩, _⟩ := mem_readyRows.mp ((List.perm_insertionSort _ _).mem_iff.mp hrow)
    exact ⟨k, hv.rowLaw hk⟩
  refine ⟨(st.readyRows.insertionSort rowLe).map (·.definition), ?_, ?_, fun task => ?_, ?_⟩
  · rw [publicState, orderedRows, List.map_map]
    refine List.map_congr_left fun row hrow => ?_
    obtain ⟨k, hk⟩ := hlaw row hrow
    rw [Function.comp_apply, hk.key, hk.taskId]
  · have hperm := (List.perm_insertionSort rowLe st.readyRows).map (·.definition)
    rw [hperm.nodup_iff, List.Nodup, List.pairwise_map]
    refine hv.pairwise_readyRows.imp_of_mem ?_
    intro a b ha hb hlt heq
    obtain ⟨⟨k, hk⟩, _⟩ := mem_readyRows.mp ha
    obtain ⟨⟨k', hk'⟩, _⟩ := mem_readyRows.mp hb
    have hkeys : k = k' := by
      rw [← (hv.rowLaw hk).taskId, ← (hv.rowLaw hk').taskId, heq]
    rw [(hv.rowLaw hk).key, (hv.rowLaw hk').key, hkeys] at hlt
    exact lt_irrefl _ hlt
  · rw [hv.ready_iff, List.mem_map]
    exact exists_congr fun row => and_congr_left' (List.perm_insertionSort _ _).mem_iff
  · rw [List.pairwise_map]
    refine (List.pairwise_insertionSort rowLe st.readyRows).imp_of_mem ?_
    intro a b ha hb hab
    obtain ⟨k, hk⟩ := hlaw a ha
    obtain ⟨k', hk'⟩ := hlaw b hb
    exact (hk.rowLe_iff hk').mp hab

/-- The scheduling order of the ready tasks is the order of their identities. -/
def ReadyInOrder (st : Store) : Prop :=
  ∀ a b, st.Ready a → st.Ready b → a.taskId < b.taskId → taskLe st.graph a b

/-- The ready order is sorted by identity exactly when the two orders agree on the ready tasks. -/
theorem ValidStore.sorted_readyOrder_iff (hv : ValidStore E st) :
    sortedUnique (st.publicState E).readyOrder ↔ ReadyInOrder st := by
  have hincreasing := hv.pairwise_readyRows
  rw [sortedUnique, publicState, List.pairwise_map]
  refine (Sorting.increasing_insertionSort_iff hincreasing rowLe).trans ?_
  rw [Sorting.pairwise_iff_of_increasing hincreasing]
  constructor
  · intro h a b ha hb hlt
    obtain ⟨row, hrow, rfl⟩ := hv.ready_iff.mp ha
    obtain ⟨row', hrow', rfl⟩ := hv.ready_iff.mp hb
    obtain ⟨⟨k, hk⟩, _⟩ := mem_readyRows.mp hrow
    obtain ⟨⟨k', hk'⟩, _⟩ := mem_readyRows.mp hrow'
    have hl := hv.rowLaw hk
    have hl' := hv.rowLaw hk'
    rw [← hl.rowLe_iff hl']
    refine h row hrow row' hrow' ?_
    rwa [hl.key, hl'.key, ← hl.taskId, ← hl'.taskId]
  · intro h row hrow row' hrow' hlt
    obtain ⟨⟨k, hk⟩, _⟩ := mem_readyRows.mp hrow
    obtain ⟨⟨k', hk'⟩, _⟩ := mem_readyRows.mp hrow'
    have hl := hv.rowLaw hk
    have hl' := hv.rowLaw hk'
    rw [hl.rowLe_iff hl']
    refine h _ _ (hv.ready_iff.mpr ⟨row, hrow, rfl⟩) (hv.ready_iff.mpr ⟨row', hrow', rfl⟩) ?_
    rwa [hl.taskId, hl'.taskId, ← hl.key, ← hl'.key]

/-! ## The rest of the contract -/

/-- The contract of a projection does not depend on the field it stands in. -/
theorem projectionContract_field {field field' : String} {p : TaskProjection}
    (h : projectionContract E field p = .ok ()) : projectionContract E field' p = .ok () := by
  simpa only [projectionContract, blockerContract, bind_eq_ok, exists_unit, require_eq_ok,
    forEach_eq_ok] using h

theorem projectionContract_initialProjection {field : String} (task : SchedulerTask) :
    projectionContract E field task.initialProjection = .ok () := by
  simp [projectionContract, SchedulerTask.initialProjection]

/-- Every recorded projection met its contract when it was appended. -/
theorem Reachable.contracts (h : Reachable E st) : ∀ entry ∈ st.log, ∀ p,
    entry.event.taskProjection = some p → projectionContract E "task_projection" p = .ok () := by
  refine h.write_induction (fun st => ∀ entry ∈ st.log, ∀ p, entry.event.taskProjection = some p →
    projectionContract E "task_projection" p = .ok ()) ?_ ?_ fun _ _ _ ih => ih
  · intro graph t ttlSeconds heartbeat workflowAuthority _ entry hentry p hp
    rw [List.mem_singleton.mp hentry] at hp
    cases hp
  · intro st st' t _ hwrites ih entry hentry p hp
    obtain ⟨entries, messages, hevidence, hentries⟩ := hwrites.grows.evidence
    rw [Store.log, hevidence] at hentry
    rcases List.mem_append.mp hentry with hold | hnew
    · exact ih entry hold p hp
    · exact (hentries entry hnew).2 p hp

theorem Reachable.contract_row (h : Reachable E st) {field : String} {k : String} {row : TaskRow}
    (hrow : st.tables.tasks[k]? = some row) :
    projectionContract E field row.projection = .ok () := by
  have hlaw := h.validStore.rowLaw hrow
  have hprojection := hlaw.projection
  unfold projectionAt at hprojection
  cases hrecorded : recordedProjection st.log k with
  | some p =>
    rw [hrecorded, Option.some_or, Option.some.injEq] at hprojection
    obtain ⟨entry, hentry, hp⟩ := Option.bind_eq_some_iff.mp hrecorded
    rw [← hprojection]
    exact projectionContract_field
      (h.contracts entry (History.of_lastWhere_eq_some hentry).1 p hp)
  | none =>
    rw [hrecorded, Option.none_or, Option.map_eq_some_iff] at hprojection
    obtain ⟨task, _, hinitial⟩ := hprojection
    rw [← hinitial]
    exact projectionContract_initialProjection task

/-- Every current lease stands under the identity of some lease of its task. -/
def Store.Authorized (E : Environment) (st : Store) : Prop :=
  ∀ (k : String) row, st.tables.currentLeases[k]? = some row →
    ∃ lease, row.authorityLeaseId = E.leaseId lease ∧ lease.taskId = k

theorem LeaseRule.authorized {rows : List LeaseRow} (h : LeaseRule E st st' rows)
    (ih : st.Authorized E) : st'.Authorized E := by
  intro k row hrow
  cases h with
  | kept leases => exact ih k row (leases ▸ hrow)
  | @written k' row' write leases =>
    rw [leases] at hrow
    split at hrow
    · rw [Table.getElem?_insert] at hrow
      split at hrow
      · next hk =>
        cases hrow
        subst hk
        cases write with
        | acquired _ own identity _ => exact ⟨_, identity, own⟩
        | @refreshed c held authority _ => exact authority ▸ ih k' c held
        | @released c _ held hrelease => exact hrelease ▸ ih k' c held
      · exact ih k row hrow
    · rw [Table.getElem?_erase] at hrow
      split at hrow
      · cases hrow
      · exact ih k row hrow

theorem Writes.authorized (h : Writes E t st st') (ih : st.Authorized E) : st'.Authorized E := by
  induction h with
  | refl => exact ih
  | quiet _ hquiet ih => exact fun k row hrow => ih k row (hquiet.leases ▸ hrow)
  | recorded _ hrecorded ih => exact hrecorded.leases.authorized ih

theorem Reachable.authorized (h : Reachable E st) : st.Authorized E := by
  refine h.write_induction (Store.Authorized E) ?_ ?_ fun _ _ _ ih => ih
  · intro graph t ttlSeconds heartbeat workflowAuthority _ k row hrow
    rw [seed, initialTables, Table.getElem?_empty] at hrow
    cases hrow
  · intro st st' t _ hwrites ih
    exact hwrites.authorized ih

/-- The identities of the current leases are different. -/
theorem Reachable.nodup_leaseIds (h : Reachable E st) (hE : E.CollisionFree) :
    (st.tables.currentLeases.rows.map (·.authorityLeaseId)).Nodup := by
  have hkeys : ∀ (k : String) row, st.tables.currentLeases[k]? = some row →
      row.lease.taskId = k := by
    intro k row hrow
    rw [h.validStore.projected.currentLeases] at hrow
    have hlatest := (Option.filter_eq_some_iff.mp hrow).1
    simpa using (History.of_lastWhere_eq_some hlatest).2
  rw [List.Nodup, List.pairwise_map]
  have hordered : st.tables.currentLeases.rows.Pairwise
      fun a b => a.lease.taskId < b.lease.taskId :=
    Table.pairwise_rows hkeys
  refine hordered.imp_of_mem ?_
  intro a b ha hb hlt hsame
  obtain ⟨k, hk⟩ := Table.mem_rows.mp ha
  obtain ⟨k', hk'⟩ := Table.mem_rows.mp hb
  obtain ⟨lease, hid, htask⟩ := h.authorized k a hk
  obtain ⟨lease', hid', htask'⟩ := h.authorized k' b hk'
  have hlease : lease = lease' := hE.leaseId_injective (hid.symm.trans (hsame.trans hid'))
  have hk_eq : k = k' := by rw [← htask, ← htask', hlease]
  rw [hkeys k a hk, hkeys k' b hk', hk_eq] at hlt
  exact lt_irrefl _ hlt

/-- Worktree leases of different tasks have different identities. -/
def Environment.WorktreesApart (E : Environment) : Prop :=
  ∀ a b, E.worktreeLeaseId a = E.worktreeLeaseId b → a.taskId = b.taskId

/-- The identities of the current worktree leases are different. -/
theorem ValidStore.nodup_worktreeIds (hv : ValidStore E st) (hE : E.WorktreesApart) :
    (st.tables.currentWorktrees.rows.map E.worktreeLeaseId).Nodup := by
  have hkeys : ∀ (k : String) row, st.tables.currentWorktrees[k]? = some row →
      row.taskId = k := by
    intro k row hrow
    rw [hv.projected.currentWorktrees] at hrow
    have hlatest := (Option.filter_eq_some_iff.mp hrow).1
    simpa using (History.of_lastWhere_eq_some hlatest).2
  rw [List.Nodup, List.pairwise_map]
  refine (Table.pairwise_rows hkeys).imp ?_
  intro a b hlt hsame
  exact hlt.ne (hE a b hsame)

theorem identityListContract_insertionSort {field : String} {ids : List String} (h : ids.Nodup) :
    identityListContract field (ids.insertionSort (· ≤ ·)) = .ok () ↔ ids.length ≤ 1000 := by
  simp only [identityListContract, bind_eq_ok, exists_unit, require_eq_ok,
    List.length_insertionSort]
  exact and_iff_left (Sorting.pairwise_lt_insertionSort h)

theorem ValidStore.messageIds_contract (hv : ValidStore E st) :
    identityListContract "message_ids" (st.messageIds E) = .ok () := by
  simp only [identityListContract, bind_eq_ok, exists_unit, require_eq_ok]
  refine ⟨List.length_take_le _ _, ?_⟩
  exact (Sorting.pairwise_lt_insertionSort hv.evidence.ids_nodup).sublist (List.take_sublist _ _)

/-- The public state of a reachable store meets its contract exactly when the two orders of its
ready tasks agree and its leases and worktrees can be named. -/
theorem Reachable.stateContract_iff (h : Reachable E st) (hE : E.CollisionFree)
    (hW : E.WorktreesApart) : stateContract E (st.publicState E) = .ok () ↔
      ReadyInOrder st ∧ st.tables.currentLeases.size ≤ 1000 ∧
        st.tables.currentWorktrees.size ≤ 1000 := by
  have hv := h.validStore
  have htasks : ∀ p ∈ (st.publicState E).tasks, projectionContract E "tasks" p = .ok () := by
    intro p hp
    obtain ⟨row, hrow, rfl⟩ := List.mem_map.mp hp
    obtain ⟨k, hk⟩ := Table.mem_rows.mp hrow
    exact h.contract_row hk
  have hsorted : sortedUnique ((st.publicState E).tasks.map (·.taskId)) := by
    rw [publicState, List.map_map, sortedUnique, List.pairwise_map]
    exact Table.pairwise_rows fun _ _ hk => (hv.rowLaw hk).key
  have hknown : ∀ taskId ∈ (st.publicState E).readyOrder,
      taskId ∈ (st.publicState E).tasks.map (·.taskId) := by
    intro taskId hid
    obtain ⟨row, hrow, rfl⟩ := List.mem_map.mp hid
    have hready := (List.perm_insertionSort rowLe _).mem_iff.mp hrow
    rw [publicState, List.map_map]
    exact List.mem_map_of_mem (List.mem_of_mem_filter hready)
  simp only [stateContract, bind_eq_ok, exists_unit, require_eq_ok, forEach_eq_ok,
    hv.sorted_readyOrder_iff]
  rw [publicState, identityListContract_insertionSort (h.nodup_leaseIds hE),
    identityListContract_insertionSort (hv.nodup_worktreeIds hW), List.length_map, List.length_map,
    Table.length_rows, Table.length_rows]
  constructor
  · rintro ⟨_, _, horder, _, hleases, _, hworktrees⟩
    exact ⟨horder, hleases, hworktrees⟩
  · rintro ⟨horder, hleases, hworktrees⟩
    exact ⟨htasks, hsorted, horder, hknown, hleases, hv.messageIds_contract, hworktrees⟩

theorem status_eq_ok {state : SchedulerState} : st.status E = .ok state ↔
    stateContract E (st.publicState E) = .ok () ∧ state = st.publicState E := by
  simp only [status, bind_eq_ok, exists_unit, pure_eq_ok]
  exact and_congr_right' eq_comm

/-! ## When the status is total -/

/-- The tasks of a graph stand in scheduling order. -/
def TaskGraph.InOrder (graph : TaskGraph) : Prop :=
  ∀ a ∈ graph.tasks, ∀ b ∈ graph.tasks, a.taskId < b.taskId → taskLe graph a b

/-- A table whose keys are tasks has at most as many rows as there are tasks. -/
theorem Table.size_le_of_task? {α : Type} {graph : TaskGraph} {table : Table α}
    (h : ∀ k : String, (table[k]?).isSome → (graph.task? k).isSome) :
    table.size ≤ graph.tasks.length := by
  have hsubset : table.keys ⊆ graph.tasks.map (·.taskId) := by
    intro k hk
    exact TaskGraph.task?_isSome.mp (h k (Table.mem_keys.mp hk))
  have hle := ((Table.sorted_keys table).nodup.subperm hsubset).length_le
  rwa [Std.ExtTreeMap.length_keys, List.length_map] at hle

theorem ValidStore.size_currentLeases (hv : ValidStore E st) :
    st.tables.currentLeases.size ≤ st.graph.tasks.length := by
  refine Table.size_le_of_task? fun k hk => task?_of_latestLeaseRow hv.evidence ?_
  rw [hv.projected.currentLeases, currentLeaseOf] at hk
  exact Option.isSome_of_isSome_filter _ _ hk

theorem ValidStore.size_currentWorktrees (hv : ValidStore E st) :
    st.tables.currentWorktrees.size ≤ st.graph.tasks.length := by
  refine Table.size_le_of_task? fun k hk => task?_of_latestWorktreeRow hv.evidence ?_
  rw [hv.projected.currentWorktrees, currentWorktreeOf] at hk
  exact Option.isSome_of_isSome_filter _ _ hk

/-- The status of a reachable store lists its ready tasks in scheduling order exactly when that is
the order of their identities and at most a thousand leases and worktrees are current. So it is
total in every run of a graph of at most a thousand tasks that stand in scheduling order. -/
theorem status_total_iff (hE : E.CollisionFree) (hW : E.WorktreesApart) :
    (∀ st, Reachable E st →
      ((∃ state, st.status E = .ok state ∧ ListsReady st state.readyOrder) ↔
        ReadyInOrder st ∧ st.tables.currentLeases.size ≤ 1000 ∧
          st.tables.currentWorktrees.size ≤ 1000)) ∧
    ∀ st, Reachable E st → st.graph.InOrder → st.graph.tasks.length ≤ 1000 →
      ∃ state, st.status E = .ok state ∧ ListsReady st state.readyOrder := by
  have hiff : ∀ st, Reachable E st →
      ((∃ state, st.status E = .ok state ∧ ListsReady st state.readyOrder) ↔
        ReadyInOrder st ∧ st.tables.currentLeases.size ≤ 1000 ∧
          st.tables.currentWorktrees.size ≤ 1000) := by
    intro st h
    rw [← h.stateContract_iff hE hW]
    constructor
    · rintro ⟨state, hstate, _⟩
      exact (status_eq_ok.mp hstate).1
    · intro hcontract
      exact ⟨_, status_eq_ok.mpr ⟨hcontract, rfl⟩, h.validStore.listsReady⟩
  refine ⟨hiff, fun st h horder hsize => (hiff st h).mpr ⟨?_, ?_, ?_⟩⟩
  · intro a b ha hb hlt
    exact horder a ha.1 b hb.1 hlt
  · exact h.validStore.size_currentLeases.trans hsize
  · exact h.validStore.size_currentWorktrees.trans hsize

namespace Sample

theorem worktreesApart (leases : List Lease) (messages : List MailboxMessage) :
    (environment leases messages).WorktreesApart := by
  intro a b h
  have hlist := congrArg String.toList h
  simpa only [environment, String.toList_append, List.append_cancel_left_eq,
    String.toList_inj] using hlist

/-- The new store of two ready tasks whose waves run against their identities. -/
noncomputable def twoWaves : Store :=
  result (initializeStore oneDispatch (graph [{ task "A" with wave := 1 }, task "B"]) 0 60 15 true)
    (by decide +kernel)

theorem twoWaves_reachable : Reachable oneDispatch twoWaves :=
  .initial ⟨by decide, by decide, by decide, by decide, by decide, by decide, by decide, by decide⟩
    (eq_ok_result _)

end Sample

/-- The new store of one task has a status. -/
theorem status_total_oneTask : ∃ state,
    Sample.oneTask.status Sample.oneDispatch = .ok state ∧
      ListsReady Sample.oneTask state.readyOrder :=
  (status_total_iff (Sample.environment_collisionFree _ _) (Sample.worktreesApart _ _)).2
    Sample.oneTask Sample.oneTask_reachable
    (by unfold TaskGraph.InOrder; decide +kernel) (by decide +kernel)

/-- A new store is reachable and has no status when an earlier wave has the later identity. -/
theorem status_twoWaves : Reachable Sample.oneDispatch Sample.twoWaves ∧
    ¬ ∃ state, Sample.twoWaves.status Sample.oneDispatch = .ok state ∧
      ListsReady Sample.twoWaves state.readyOrder := by
  refine ⟨Sample.twoWaves_reachable, ?_⟩
  rintro ⟨state, hstate, _⟩
  have herror : (Sample.twoWaves.status Sample.oneDispatch).isOk = false := by decide +kernel
  rw [hstate] at herror
  cases herror

end Sdaqf
