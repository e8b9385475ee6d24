import Sdaqf.Projections
import Sdaqf.Sample

/-!
# Recovery

Recovery forgets the mutable tables and rebuilds them from the immutable evidence. For a valid store
it gives back exactly the tables that were there, whatever happened to them since.
-/

namespace Sdaqf

open Guard Store

variable {E : Environment} {ev : Evidence} {tables : Tables} {currentLeases : Table CurrentLease}

/-! ## Tables built by insertion -/

section Insertion

variable {α β : Type}

/-- Inserting rows with different keys one after another. -/
theorem getElem?_foldl_insert {l : List β} {key : β → String} {value : β → α} (t : Table α)
    (hl : (l.map key).Nodup) (k : String) :
    (l.foldl (fun (t : Table α) b => t.insert (key b) (value b)) t)[k]? =
      ((l.find? fun b => decide (key b = k)).map value).or t[k]? := by
  induction l generalizing t with
  | nil => simp
  | cons b l ih =>
    rw [List.map_cons, List.nodup_cons] at hl
    rw [List.foldl_cons, ih _ hl.2, Table.getElem?_insert, List.find?_cons]
    by_cases hk : key b = k
    · have hnone : (l.find? fun b => decide (key b = k)) = none := by
        rw [List.find?_eq_none]
        intro c hc
        simpa using fun heq : key c = k => hl.1 (hk ▸ heq ▸ List.mem_map_of_mem hc)
      simp [hk, hnone]
    · simp [hk]

/-- A table with a row for every key of a list that has one. -/
theorem getElem?_foldl_insertRow (keys : List String) (row : String → Option α) (t : Table α)
    (k : String) : (keys.foldl (insertRow row) t)[k]? =
      if k ∈ keys then (row k).or t[k]? else t[k]? := by
  induction keys generalizing t with
  | nil => simp
  | cons key keys ih =>
    rw [List.foldl_cons, ih, insertRow]
    cases hrow : row key with
    | none =>
      by_cases hk : k = key
      · subst hk
        simp [hrow]
      · simp [hk]
    | some a =>
      rw [Table.getElem?_insert]
      by_cases hk : key = k
      · subst hk
        simp [hrow]
      · simp [hk, Ne.symm hk]

theorem getElem?_tableOf (keys : List String) (row : String → Option α) (k : String) :
    (tableOf keys row)[k]? = if k ∈ keys then row k else none := by
  rw [tableOf, getElem?_foldl_insertRow, Table.getElem?_empty, Option.or_none]

end Insertion

/-! ## Task rows -/

theorem getElem?_initialTasks {graph : TaskGraph} (hids : graph.UniqueTasks) (t : String) :
    (initialTasks graph)[t]? = (graph.task? t).map fun task =>
      ⟨task, task.wave, graph.topologicalRank task.taskId, task.initialProjection⟩ := by
  have hkeys : (graph.tasks.map fun task => task.taskId).Nodup := hids
  rw [initialTasks, getElem?_foldl_insert (∅ : Table TaskRow) hkeys t, Table.getElem?_empty,
    Option.or_none]
  rfl

/-- Recovery writes the last recorded projection into every task row. -/
theorem getElem?_foldl_writeRecorded (table : Table TaskRow) (log : List Entry) (t : String) :
    (log.foldl writeRecorded table)[t]? = (table[t]?).map fun row =>
      { row with projection := (recordedProjection log t).getD row.projection } := by
  induction log using List.reverseRecOn with
  | nil => simp [recordedProjection]
  | append_singleton pre entry ih =>
    rw [List.foldl_append, List.foldl_cons, List.foldl_nil, recordedProjection_concat,
      writeRecorded]
    cases hp : entry.event.taskProjection with
    | none => simp [taskId_eq_none.mpr hp, ih]
    | some p =>
      rw [Table.getElem?_modify, ih, taskId_of_taskProjection hp]
      by_cases ht : p.taskId = t
      · simp [ht, Function.comp_def]
      · simp [ht]

theorem rebuiltTasks_eq (h : Projected E ev tables) : rebuiltTasks ev = tables.tasks := by
  refine Table.ext fun t => ?_
  rw [rebuiltTasks, getElem?_foldl_writeRecorded, getElem?_initialTasks h.tasks_sorted.nodup,
    h.tasks]
  cases htask : ev.graph.task? t with
  | none => rfl
  | some task => cases hr : recordedProjection ev.log t <;> simp [projectionAt, hr, htask]

/-! ## Leases and worktrees -/

/-- The tasks of the lease history are tasks of the graph. -/
theorem task?_of_latestLeaseRow (hv : ValidEvidence E ev currentLeases) {t : String}
    (h : (latestLeaseRow ev.log t).isSome) : (ev.graph.task? t).isSome := by
  obtain ⟨row, hrow, htask⟩ := List.mem_map.mp (latestLeaseRow_isSome.mp h)
  obtain ⟨entry, hentry, hrow⟩ := List.mem_flatMap.mp hrow
  exact htask ▸ hv.task?_of_event hentry
    (leaseRows_of_validateRows (hv.rows entry hentry) row hrow).2.1

theorem task?_of_latestWorktreeRow (hv : ValidEvidence E ev currentLeases) {t : String}
    (h : (latestWorktreeRow ev.log t).isSome) : (ev.graph.task? t).isSome := by
  obtain ⟨row, hrow, htask⟩ := List.mem_map.mp (latestWorktreeRow_isSome.mp h)
  obtain ⟨entry, hentry, hrow⟩ := List.mem_flatMap.mp hrow
  exact htask ▸ hv.task?_of_event hentry
    (worktreeRows_of_validateRows (hv.rows entry hentry) row hrow).1

/-- A reading that only tasks of the graph have is rebuilt from the tasks of the graph. -/
theorem tableOf_eq {α : Type} {graph : TaskGraph} {reading : String → Option α} {table : Table α}
    (hgraph : ∀ t, (reading t).isSome → (graph.task? t).isSome)
    (htable : ∀ t : String, table[t]? = reading t) :
    tableOf (graph.tasks.map (·.taskId)) reading = table := by
  refine Table.ext fun t => ?_
  rw [getElem?_tableOf, htable]
  split
  · rfl
  · next hnone =>
    cases hr : reading t with
    | none => rfl
    | some a => exact absurd (TaskGraph.task?_isSome.mp (hgraph t (by simp [hr]))) hnone

theorem rebuiltLeases_eq (hv : ValidEvidence E ev currentLeases) (h : Projected E ev tables) :
    tableOf (ev.graph.tasks.map (·.taskId)) (currentLeaseOf ev.log) = tables.currentLeases := by
  refine tableOf_eq (fun t ht => task?_of_latestLeaseRow hv ?_) h.currentLeases
  obtain ⟨row, hrow⟩ := Option.isSome_iff_exists.mp ht
  simp [(Option.filter_eq_some_iff.mp hrow).1]

theorem rebuiltWorktrees_eq (hv : ValidEvidence E ev currentLeases) (h : Projected E ev tables) :
    tableOf (ev.graph.tasks.map (·.taskId)) (currentWorktreeOf ev.log) =
      tables.currentWorktrees := by
  refine tableOf_eq (fun t ht => task?_of_latestWorktreeRow hv ?_) h.currentWorktrees
  obtain ⟨row, hrow⟩ := Option.isSome_iff_exists.mp ht
  simp [(Option.filter_eq_some_iff.mp hrow).1]

/-! ## Approval consumptions -/

/-- The events of validated evidence are numbered from one. -/
theorem ValidEvidence.sequence (hv : ValidEvidence E ev currentLeases) {pre post : List Entry}
    {entry : Entry} (hlog : ev.log = pre ++ entry :: post) :
    entry.event.sequence = pre.length + 1 := by
  have h := hv.accepted pre entry post hlog
  simp only [validateEntry, validateChain, bind_eq_ok, exists_unit, require_eq_ok] at h
  exact h.1.1.1

/-- The sequences of validated evidence increase. -/
theorem ValidEvidence.sequences_sorted (hv : ValidEvidence E ev currentLeases) :
    ev.log.Pairwise fun a b => a.event.sequence < b.event.sequence := by
  rw [List.pairwise_iff_getElem]
  intro i j hi hj hij
  have hget : ∀ k (hk : k < ev.log.length), (ev.log[k]).event.sequence = k + 1 := fun k hk => by
    have hlog : ev.log = ev.log.take k ++ ev.log[k] :: ev.log.drop (k + 1) := by simp
    rw [hv.sequence hlog, List.length_take]
    omega
  rw [hget i hi, hget j hj]
  omega

theorem consumptionOf_eq_some {e : SchedulerEvent} {row : String × Consumption} :
    consumptionOf e = some row ↔ e.approvalId = some row.1 ∧ e.messageId = some row.2.messageId ∧
      e.taskId = some row.2.taskId ∧ e.sequence = row.2.eventSequence := by
  obtain ⟨approvalId, messageId, taskId, sequence⟩ := row
  unfold consumptionOf
  split
  · next h1 h2 h3 => simp [h1, h2, h3]
  · next hnone =>
    simp only [reduceCtorEq, false_iff]
    rintro ⟨h1, h2, h3, _⟩
    exact hnone _ _ _ h1 h2 h3

/-- The recorded consumptions are in the order of their events. -/
theorem recordedConsumptions_sorted (hv : ValidEvidence E ev currentLeases) :
    (recordedConsumptions ev.log).Pairwise fun a b => a.2.eventSequence < b.2.eventSequence := by
  have hevents : (ev.log.map (·.event)).Pairwise fun a b => a.sequence < b.sequence :=
    List.pairwise_map.mpr hv.sequences_sorted
  refine List.Pairwise.filterMap _ (fun e e' hlt row hrow row' hrow' => ?_) (hevents.filter _)
  rw [← (consumptionOf_eq_some.mp hrow).2.2.2, ← (consumptionOf_eq_some.mp hrow').2.2.2]
  exact hlt

/-- No approval is consumed twice: the table keeps one consumption of each. -/
theorem recordedConsumptions_keys_nodup (hv : ValidEvidence E ev currentLeases)
    (h : Projected E ev tables) : ((recordedConsumptions ev.log).map (·.1)).Nodup := by
  rw [List.Nodup, List.pairwise_map]
  refine (recordedConsumptions_sorted hv).imp_of_mem fun {a b} ha hb hlt heq => ?_
  have hb' := (h.approvalConsumptions b).mpr hb
  rw [← heq, (h.approvalConsumptions a).mpr ha, Option.some.injEq] at hb'
  rw [hb'] at hlt
  exact lt_irrefl _ hlt

/-- The consumptions of validated evidence were judged in order. -/
theorem ValidEvidence.consumptions (hv : ValidEvidence E ev currentLeases) :
    History.Accepted (fun pre e => validateConsumption E ev pre e = .ok ())
      (eventsOf ev.log .approvalConsumed) := by
  have h := hv.adoption
  simp only [validateMessageAdoption, bind_eq_ok, exists_unit] at h
  exact History.check_eq_ok.mp h.2.2.2

/-- The approval of a recorded consumption is the one its message decides. -/
theorem approvalId_of_recorded (hv : ValidEvidence E ev currentLeases)
    {row : String × Consumption} (h : row ∈ recordedConsumptions ev.log) :
    ((ev.message? E row.2.messageId).bind (·.approval?)).map (·.approvalId) = some row.1 := by
  obtain ⟨e, he, hrow⟩ := List.mem_filterMap.mp h
  obtain ⟨happroval, hmessage, _⟩ := consumptionOf_eq_some.mp hrow
  obtain ⟨pre, post, hevents⟩ := List.append_of_mem he
  have hjudged := hv.consumptions pre e post hevents
  simp only [validateConsumption, bind_eq_ok, fromOption_eq_ok, require_eq_ok, happroval, hmessage,
    Option.some.injEq] at hjudged
  obtain ⟨_, rfl, _, rfl, m, hm, adopter, _, _, _, _, hid, _⟩ := hjudged
  simpa [hm] using hid

/-- No decision is consumed twice. -/
theorem recordedConsumptions_messages_nodup (hv : ValidEvidence E ev currentLeases)
    (h : Projected E ev tables) :
    ((recordedConsumptions ev.log).map (·.2.messageId)).Nodup := by
  have hkeys := recordedConsumptions_keys_nodup hv h
  rw [List.Nodup, List.pairwise_map] at hkeys ⊢
  refine hkeys.imp_of_mem fun {a b} ha hb hne heq => hne ?_
  have hb' := approvalId_of_recorded hv hb
  rw [← heq, approvalId_of_recorded hv ha, Option.some.injEq] at hb'
  exact hb'

/-- Consumptions of different approvals by different decisions are all inserted. -/
theorem foldE_insertConsumption {rows : List (String × Consumption)} {t : Table Consumption}
    (hkeys : (rows.map (·.1)).Nodup) (hmessages : (rows.map (·.2.messageId)).Nodup)
    (hnew : ∀ row ∈ rows, t[row.1]? = none)
    (hfresh : ∀ row ∈ rows, ∀ c ∈ t.rows, c.messageId ≠ row.2.messageId) :
    foldE insertConsumption t rows =
      .ok (rows.foldl (fun (t : Table Consumption) row => t.insert row.1 row.2) t) := by
  induction rows generalizing t with
  | nil => rfl
  | cons row rows ih =>
    rw [List.map_cons, List.nodup_cons] at hkeys hmessages
    have hinsert : insertConsumption t row = .ok (t.insert row.1 row.2) := by
      simp only [insertConsumption, bind_eq_ok, exists_unit, require_eq_ok, pure_eq_ok, and_true,
        hnew row List.mem_cons_self, Option.isNone_none, true_and]
      exact hfresh row List.mem_cons_self
    rw [foldE_cons, hinsert, List.foldl_cons]
    refine ih hkeys.2 hmessages.2 (fun next hnext => ?_) fun next hnext c hc => ?_
    · have hne : row.1 ≠ next.1 := fun heq => hkeys.1 (heq ▸ List.mem_map_of_mem hnext)
      rw [Table.getElem?_insert, if_neg hne, hnew next (List.mem_cons_of_mem _ hnext)]
    · obtain ⟨k, hk⟩ := Table.mem_rows.mp hc
      rw [Table.getElem?_insert] at hk
      split at hk
      · cases hk
        exact fun heq => hmessages.1 (heq ▸ List.mem_map_of_mem hnext)
      · exact hfresh next (List.mem_cons_of_mem _ hnext) c (Table.mem_rows.mpr ⟨k, hk⟩)

theorem rebuiltConsumptions_eq (hv : ValidEvidence E ev currentLeases)
    (h : Projected E ev tables) :
    foldE insertConsumption ∅ (recordedConsumptions ev.log) = .ok tables.approvalConsumptions := by
  have hkeys := recordedConsumptions_keys_nodup hv h
  rw [foldE_insertConsumption hkeys (recordedConsumptions_messages_nodup hv h)
    (fun _ _ => Table.getElem?_empty _) (fun _ _ c hc => ?_)]
  · refine congrArg Except.ok (Table.ext fun k => ?_)
    rw [getElem?_foldl_insert _ hkeys, Table.getElem?_empty, Option.or_none]
    cases hfind : (recordedConsumptions ev.log).find? fun row => decide (row.1 = k) with
    | some row =>
      have hk : row.1 = k := by simpa using List.find?_some hfind
      rw [Option.map_some, ← hk,
        (h.approvalConsumptions row).mpr (List.mem_of_find?_eq_some hfind)]
    | none =>
      rw [Option.map_none, eq_comm, Option.eq_none_iff_forall_ne_some]
      intro c hc
      have hmem := (h.approvalConsumptions (k, c)).mp hc
      simpa using List.find?_eq_none.mp hfind (k, c) hmem
  · obtain ⟨k, hk⟩ := Table.mem_rows.mp hc
    rw [Table.getElem?_empty] at hk
    cases hk

/-! ## Recovery of a valid store -/

/-- What the validator establishes about a store. -/
structure ValidStore (E : Environment) (st : Store) : Prop where
  evidence : ValidEvidence E st.evidence st.tables.currentLeases
  projected : Projected E st.evidence st.tables
  heads : rebuiltHeads E st.evidence = .ok st.tables.workflowHeads

theorem validStore_of_ok {st : Store} (h : st.validate E = .ok ()) : ValidStore E st := by
  simp only [Store.validate, bind_eq_ok, exists_unit] at h
  obtain ⟨hevidence, hprojections, hheads⟩ := h
  refine ⟨validEvidence_of_ok hevidence, projected_of_ok hprojections, ?_⟩
  cases hworkflow : st.evidence.workflowEvents with
  | none =>
    rw [hworkflow] at hheads
    simp only [require_eq_ok] at hheads
    simp [rebuiltHeads, hworkflow, hheads]
  | some events =>
    rw [hworkflow] at hheads
    simp only [validateWorkflowEpochProjection, bind_eq_ok, require_eq_ok] at hheads
    obtain ⟨heads, hreplay, rfl⟩ := hheads
    simp [rebuiltHeads, hworkflow, hreplay]

/-- Recovery gives back the tables of a valid store. -/
theorem ValidStore.rebuild {st : Store} (h : ValidStore E st) :
    rebuildFromEvidence E st.evidence = .ok st.tables := by
  obtain ⟨ledger, hledger, htotals⟩ := h.projected.budgetTotals
  simp only [rebuildFromEvidence, bind_eq_ok, fromOption_eq_ok, pure_eq_ok]
  refine ⟨ledger, hledger, _, rebuiltConsumptions_eq h.evidence h.projected, _, h.heads, ?_⟩
  rw [rebuiltTasks_eq h.projected, rebuiltLeases_eq h.evidence h.projected,
    rebuiltWorktrees_eq h.evidence h.projected, ← h.projected.dependencies,
    ← h.projected.hostCapabilities, ← funext htotals]

/-- What a workflow transaction checks around its body. -/
structure Transacted (E : Environment) (st : Store) (allowPending : Bool)
    (body : Except String (Store × WorkflowEpochHead)) (result : Store × WorkflowEpochHead) :
    Prop where
  version : st.evidence.workflowEvents.isSome = true
  valid : st.validate E = .ok ()
  pending : allowPending = true ∨ pendingTerminals st.tables.workflowHeads = []
  body : body = .ok result
  validated : result.1.validate E = .ok ()

theorem workflowTransaction_eq_ok {st : Store} {allowPending : Bool}
    {body : Except String (Store × WorkflowEpochHead)} {result : Store × WorkflowEpochHead}
    (h : st.workflowTransaction E allowPending body = .ok result) :
    Transacted E st allowPending body result := by
  simp only [workflowTransaction, bind_eq_ok, exists_unit, require_eq_ok, pure_eq_ok] at h
  obtain ⟨hversion, hvalid, hpending, r, hbody, hvalidated, rfl⟩ := h
  exact ⟨hversion, hvalid, hpending, hbody, hvalidated⟩

/-- Every committed operation leaves a valid store: each transaction validates what it commits. -/
theorem Step.validate {st st' : Store} (h : Step E st st') : st'.validate E = .ok () := by
  cases h with
  | tick _ _ h =>
    simp only [Sdaqf.tick, commit, bind_eq_ok, exists_unit, pure_eq_ok] at h
    obtain ⟨_, result, _, _, ⟨h, _⟩, rfl⟩ := h
    exact h
  | cancelFirst _ h =>
    simp only [Sdaqf.cancelFirst, commit, bind_eq_ok, exists_unit, pure_eq_ok] at h
    obtain ⟨_, _, _, result, _, _, ⟨h, _⟩, rfl⟩ := h
    exact h
  | cancelSecond _ h =>
    simp only [Sdaqf.cancelSecond, commit, bind_eq_ok, exists_unit, pure_eq_ok] at h
    obtain ⟨_, result, _, _, ⟨h, _⟩, rfl⟩ := h
    exact h
  | @workflow call result h =>
    cases call <;>
      simp only [WorkflowCall.run, openWorkflowEpoch, reserveWorkflowTransition,
        reserveWorkflowTerminal, reserveWorkflowChange, confirmWorkflowArtifact,
        confirmWorkflowTerminal] at h <;>
      exact (workflowTransaction_eq_ok h).validated

theorem Reachable.validate {st : Store} (h : Reachable E st) : st.validate E = .ok () := by
  cases h with
  | initial _ h =>
    simp only [initializeStore, bind_eq_ok, exists_unit, pure_eq_ok] at h
    obtain ⟨_, h, rfl⟩ := h
    exact h
  | step _ h => exact h.validate

theorem Reachable.validStore {st : Store} (h : Reachable E st) : ValidStore E st :=
  validStore_of_ok h.validate

/-- Recovery undoes every change to the mutable tables of a reachable store. -/
theorem rebuildFromEvidence_of_reachable {D D' : Store} (hD : Reachable E D)
    (same : D'.evidence = D.evidence) :
    ∃ tables, rebuildFromEvidence E D'.evidence = .ok tables ∧ tables = D.tables ∧
      (Store.mk D'.evidence tables).validate E = .ok () := by
  refine ⟨D.tables, ?_, rfl, ?_⟩
  · rw [same]
    exact hD.validStore.rebuild
  · rw [same]
    exact hD.validate

namespace Sample

/-- One task without dependencies is dispatched by the first tick. -/
noncomputable def oneDispatch : Environment :=
  environment [lease "A" 1 1] [dispatchIntent "A" 1 0 1]

/-- The new store of the one-task graph. -/
noncomputable def oneTask : Store :=
  result (initializeStore oneDispatch (graph [task "A"]) 0 60 15 true) (by decide +kernel)

/-- What the first tick returns. -/
noncomputable def oneTaskTick : TickResult :=
  result (tick oneDispatch oneTask host [] second) (by decide +kernel)

theorem oneTask_reachable : Reachable oneDispatch oneTask :=
  .initial ⟨by decide, by decide, by decide, by decide, by decide, by decide, by decide, by decide⟩
    (eq_ok_result _)

theorem oneTaskTick_reachable : Reachable oneDispatch oneTaskTick.store :=
  .step oneTask_reachable (.tick (by decide +kernel) (by simp) (eq_ok_result _))

end Sample

/-- Recovery restores the lease of a dispatched task after every current lease was deleted. -/
theorem rebuildFromEvidence_oneTask :
    (∃ tables,
      rebuildFromEvidence Sample.oneDispatch Sample.oneTaskTick.store.evidence = .ok tables ∧
      tables = Sample.oneTaskTick.store.tables ∧
      (Store.mk Sample.oneTaskTick.store.evidence tables).validate Sample.oneDispatch = .ok ()) ∧
    (Sample.oneTaskTick.store.tables.currentLeases["A"]?).isSome = true :=
  ⟨@rebuildFromEvidence_of_reachable _ _
    (Sample.oneTaskTick.store.withTables fun t => { t with currentLeases := ∅ })
    Sample.oneTaskTick_reachable rfl, by decide +kernel⟩

end Sdaqf
