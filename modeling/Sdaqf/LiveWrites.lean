import Sdaqf.Recovery

/-!
# The writes of the live policy

Everything a tick or a cancellation does to a store is a sequence of two kinds of write. A quiet
write changes totals, blockers or the mailbox, and leaves the log and the leases alone. A recorded
write appends one entry and changes the current lease of one task by the lease row of that entry.
`Writes` is the closure of both; the files on the live policy show that every pass of a tick is one.
-/

namespace Sdaqf

open Guard Store

variable {E : Environment} {t : Timestamp} {st st' st₁ st₂ : Store}

/-! ## Quiet writes -/

/-- Every task row stands under the identity of its task. -/
def Store.Keyed (st : Store) : Prop :=
  ∀ k p, st.projection? k = some p → p.taskId = k

/-- A write without an event. -/
structure Quiet (st st' : Store) : Prop where
  evidence : ∃ messages, st'.evidence =
    { st.evidence with messages := st.evidence.messages ++ messages }
  heads : st'.tables.workflowHeads = st.tables.workflowHeads
  leases : st'.tables.currentLeases = st.tables.currentLeases
  keyed : st.Keyed → st'.Keyed

theorem Quiet.refl (st : Store) : Quiet st st :=
  ⟨⟨[], by simp⟩, rfl, rfl, id⟩

theorem Quiet.trans (h₁ : Quiet st st₁) (h₂ : Quiet st₁ st₂) : Quiet st st₂ := by
  obtain ⟨m₁, hm₁⟩ := h₁.evidence
  obtain ⟨m₂, hm₂⟩ := h₂.evidence
  refine ⟨⟨m₁ ++ m₂, ?_⟩, h₂.heads.trans h₁.heads, h₂.leases.trans h₁.leases,
    h₂.keyed ∘ h₁.keyed⟩
  rw [hm₂, hm₁, ← List.append_assoc]

theorem Store.Keyed.updateProjection (h : st.Keyed) {k : String}
    {f : TaskProjection → TaskProjection} (hf : ∀ p, (f p).taskId = p.taskId) :
    (st.updateProjection k f).Keyed := by
  intro k' p hp
  simp only [Store.updateProjection, projection?, withTables_tables, Table.getElem?_modify] at hp
  split at hp
  · rw [Option.map_map, Option.map_eq_some_iff] at hp
    obtain ⟨row, hrow, rfl⟩ := hp
    rw [Function.comp_apply, hf]
    exact h k' row.projection (by rw [projection?, hrow, Option.map_some])
  · exact h k' p hp

theorem quiet_updateProjection (st : Store) {k : String} {f : TaskProjection → TaskProjection}
    (hf : ∀ p, (f p).taskId = p.taskId) : Quiet st (st.updateProjection k f) :=
  ⟨⟨[], by simp [updateProjection]⟩, rfl, rfl, fun h => h.updateProjection hf⟩

/-- A quiet write after a change of one task row. -/
theorem Quiet.updateProjection {k : String} {f : TaskProjection → TaskProjection}
    (h : Quiet (st.updateProjection k f) st') (hf : ∀ p, (f p).taskId = p.taskId) :
    Quiet st st' :=
  (quiet_updateProjection st hf).trans h

theorem quiet_insertMessage (st : Store) (m : MailboxMessage) : Quiet st (st.insertMessage m) :=
  ⟨⟨[m], rfl⟩, rfl, rfl, id⟩

/-! ## Totals -/

/-- Only the budget totals changed. -/
def OnlyTotals (st st' : Store) : Prop :=
  ∃ totals, st' = st.withTables fun tables => { tables with budgetTotals := totals }

theorem OnlyTotals.refl (st : Store) : OnlyTotals st st := ⟨st.tables.budgetTotals, rfl⟩

theorem OnlyTotals.trans (h₁ : OnlyTotals st st₁) (h₂ : OnlyTotals st₁ st₂) :
    OnlyTotals st st₂ := by
  obtain ⟨totals₁, rfl⟩ := h₁
  obtain ⟨totals₂, rfl⟩ := h₂
  exact ⟨totals₂, rfl⟩

theorem OnlyTotals.quiet (h : OnlyTotals st st') : Quiet st st' := by
  obtain ⟨totals, rfl⟩ := h
  exact ⟨⟨[], by simp⟩, rfl, rfl, id⟩

theorem onlyTotals_foldE {α : Type} {f : Store → α → Except String Store} {l : List α}
    (step : ∀ st a st', f st a = .ok st' → OnlyTotals st st') (h : foldE f st l = .ok st') :
    OnlyTotals st st' :=
  foldE_invariant (OnlyTotals st) (fun _ a _ _ hb hstep => hb.trans (step _ a _ hstep))
    (OnlyTotals.refl st) h

theorem onlyTotals_changeBudget {r : Resource} {reservedDelta usedDelta : Int}
    (h : st.changeBudget r reservedDelta usedDelta = .ok st') : OnlyTotals st st' := by
  unfold changeBudget at h
  dsimp only at h
  split at h
  · cases h
  · cases h
    exact ⟨_, rfl⟩

theorem onlyTotals_changeBudgetIf {c : Prop} [Decidable c] {r : Resource}
    {reservedDelta usedDelta : Int} (h : st.changeBudgetIf c r reservedDelta usedDelta = .ok st') :
    OnlyTotals st st' := by
  unfold changeBudgetIf at h
  split at h
  · exact onlyTotals_changeBudget h
  · cases h
    exact OnlyTotals.refl st

theorem onlyTotals_reserveAll {reservation : BudgetReservation}
    (h : st.reserveAll reservation = .ok st') : OnlyTotals st st' :=
  onlyTotals_foldE (fun _ _ _ hstep => onlyTotals_changeBudget hstep) h

theorem onlyTotals_settleContext {taskId leaseId : String} {amount : Int}
    (h : st.settleContextReservation E taskId leaseId = .ok (st', amount)) :
    OnlyTotals st st' := by
  unfold settleContextReservation at h
  split at h
  · cases h
    exact OnlyTotals.refl st
  · simp only [bind_eq_ok, exists_unit, require_eq_ok, pure_eq_ok, Prod.mk.injEq] at h
    obtain ⟨_, st₁, hst₁, rfl, _⟩ := h
    exact onlyTotals_changeBudgetIf hst₁

theorem onlyTotals_settleReported {outstanding : Resource → Nat} {reservation : BudgetReservation}
    {usage : BudgetUsage} {r : Resource}
    (h : settleReported outstanding reservation usage st r = .ok st') : OnlyTotals st st' := by
  simp only [settleReported, bind_eq_ok, exists_unit, require_eq_ok] at h
  obtain ⟨_, _, _, _, st₁, hst₁, hst'⟩ := h
  exact (onlyTotals_changeBudgetIf hst₁).trans (onlyTotals_changeBudgetIf hst')

theorem onlyTotals_settleResult {taskId leaseId : String} {usage : BudgetUsage}
    {deltas : BudgetDeltas} (h : st.settleResultBudget E taskId leaseId usage = .ok (st', deltas)) :
    OnlyTotals st st' := by
  simp only [settleResultBudget, bind_eq_ok, fromOption_eq_ok, pure_eq_ok, Prod.mk.injEq,
    Prod.exists] at h
  obtain ⟨_, _, _, _, st₁, _, hst₁, st₂, hst₂, rfl, _⟩ := h
  exact (onlyTotals_settleContext hst₁).trans
    (onlyTotals_foldE (fun _ _ _ hstep => onlyTotals_settleReported hstep) hst₂)

theorem onlyTotals_closeResource {outstanding : Resource → Nat} {conservative : Bool}
    {r : Resource} (h : closeResource outstanding conservative st r = .ok st') :
    OnlyTotals st st' := by
  simp only [closeResource, bind_eq_ok, exists_unit, require_eq_ok] at h
  obtain ⟨_, st₁, hst₁, hst'⟩ := h
  exact (onlyTotals_changeBudgetIf hst₁).trans (onlyTotals_changeBudgetIf hst')

theorem onlyTotals_closeAttempt {taskId leaseId : String} {conservative : Bool}
    {deltas : BudgetDeltas}
    (h : st.closeAttemptBudget E taskId leaseId conservative = .ok (st', deltas)) :
    OnlyTotals st st' := by
  unfold closeAttemptBudget at h
  split at h
  · cases h
    exact OnlyTotals.refl st
  · simp only [bind_eq_ok, pure_eq_ok, Prod.mk.injEq] at h
    obtain ⟨st₁, hst₁, rfl, _⟩ := h
    exact onlyTotals_foldE (fun _ _ _ hstep => onlyTotals_closeResource hstep) hst₁

theorem onlyTotals_reserveRetryIf {safe : Prop} [Decidable safe] {retried : Bool}
    (h : st.reserveRetryIf safe = .ok (st', retried)) : OnlyTotals st st' := by
  unfold reserveRetryIf reserveRetry at h
  split at h
  · split at h
    · cases h
      exact OnlyTotals.refl st
    · simp only [bind_eq_ok, pure_eq_ok, Prod.mk.injEq] at h
      obtain ⟨st₁, hst₁, rfl, _⟩ := h
      exact onlyTotals_changeBudget hst₁
  · cases h
    exact OnlyTotals.refl st

/-! ## Recorded writes -/

/-- The lease row an entry writes for a task: a new lease under its own identity, the current lease
refreshed, or the current lease released. -/
inductive LeaseWrite (E : Environment) (st : Store) (k : String) (row : LeaseRow) : Prop
  | acquired (free : st.tables.currentLeases[k]? = none) (own : row.lease.taskId = k)
      (identity : row.authorityLeaseId = E.leaseId row.lease)
      (status : row.lease.status = .current)
  | refreshed {c : CurrentLease} (held : st.tables.currentLeases[k]? = some c)
      (authority : row.authorityLeaseId = c.authorityLeaseId)
      (lease : ∃ heartbeatAt expiresAt, row.lease =
        { c.lease with
          heartbeatAt := heartbeatAt
          expiresAt := expiresAt
          status := .current
          releaseOutcome := .none })
  | released {c : CurrentLease} {outcome : TaskOutcome}
      (held : st.tables.currentLeases[k]? = some c)
      (row : row = ⟨c.authorityLeaseId, releasedLease c.lease outcome⟩)

/-- How the lease rows of an entry change the current leases. -/
inductive LeaseRule (E : Environment) (st st' : Store) : List LeaseRow → Prop
  | kept (leases : st'.tables.currentLeases = st.tables.currentLeases) : LeaseRule E st st' []
  | written {k : String} {row : LeaseRow} (write : LeaseWrite E st k row)
      (leases : st'.tables.currentLeases =
        if row.lease.status = .current then st.tables.currentLeases.insert k row
        else st.tables.currentLeases.erase k) : LeaseRule E st st' [row]

/-- The attempt a ready task enters is the one of the lease it takes. -/
def TakesLease (st' : Store) (draft : EventDraft) (projection : Option TaskProjection) : Prop :=
  draft.cause.takesLease = true → draft.beforeState = some .ready →
    ∃ k row p, draft.taskId = some k ∧ projection = some p ∧
      st'.tables.currentLeases[k]? = some row ∧ draft.leaseId = some row.authorityLeaseId ∧
      p.attempt = row.lease.attempt ∧ p.fence = row.lease.fence

/-- A write that appends one entry. -/
structure Recorded (E : Environment) (t : Timestamp) (st st' : Store) (entry : Entry) : Prop where
  evidence : ∃ messages, st'.evidence =
    { st.evidence with
      log := st.evidence.log ++ [entry]
      messages := st.evidence.messages ++ messages }
  heads : st'.tables.workflowHeads = st.tables.workflowHeads
  keyed : st.Keyed → st'.Keyed
  time : entry.event.recordedAt = t
  contract : ∀ p, entry.event.taskProjection = some p →
    projectionContract E "task_projection" p = .ok ()
  leases : LeaseRule E st st' entry.leaseRows
  takes : st.Keyed → entry.event.cause.takesLease = true →
    entry.event.beforeState = some .ready → ∃ row p, entry.event.taskProjection = some p ∧
      st'.tables.currentLeases[p.taskId]? = some row ∧
      entry.event.leaseId = some row.authorityLeaseId ∧
      p.attempt = row.lease.attempt ∧ p.fence = row.lease.fence

theorem appendEvent_eq_ok {draft : EventDraft} (h : st.appendEvent E t draft = .ok st') :
    ∃ projection, st.draftProjection draft = .ok projection ∧
      (∀ p, projection = some p → projectionContract E "task_projection" p = .ok ()) ∧
      st' = st.appendEntry (st.draftEntry E t draft projection) := by
  simp only [appendEvent, bind_eq_ok] at h
  obtain ⟨projection, hprojection, h⟩ := h
  refine ⟨projection, hprojection, ?_⟩
  cases projection with
  | none =>
    simp only [pure_eq_ok] at h
    exact ⟨by simp, h.symm⟩
  | some p =>
    simp only [bind_eq_ok, pure_eq_ok, exists_unit] at h
    exact ⟨by simpa using h.1, h.2.symm⟩

theorem draftProjection_some {draft : EventDraft} {p : TaskProjection}
    (h : st.draftProjection draft = .ok (some p)) :
    ∃ k, draft.taskId = some k ∧ st.projection? k = some p := by
  unfold draftProjection at h
  split at h
  · cases h
  · next k hk =>
    split at h
    · cases h
    · next q hq =>
      split at h
      · cases h
        exact ⟨k, hk, hq⟩
      · cases h

/-- An event appended between quiet changes and the write of its lease row. -/
theorem recorded_of_appendEvent {draft : EventDraft} {st₃ : Store}
    (h : st₁.appendEvent E t draft = .ok st₂)
    (before : ∃ messages, st₁.evidence =
      { st.evidence with messages := st.evidence.messages ++ messages })
    (after : st₃.evidence = st₂.evidence)
    (heads : st₃.tables.workflowHeads = st.tables.workflowHeads)
    (keyed₁ : st.Keyed → st₁.Keyed) (tasks : st₃.tables.tasks = st₁.tables.tasks)
    (leases : LeaseRule E st st₃ draft.leaseRows)
    (takes : ∀ projection, st₁.draftProjection draft = .ok projection →
      TakesLease st₃ draft projection) :
    ∃ entry, Recorded E t st st₃ entry := by
  obtain ⟨projection, hprojection, hcontract, rfl⟩ := appendEvent_eq_ok h
  obtain ⟨messages, hmessages⟩ := before
  refine ⟨st₁.draftEntry E t draft projection, ⟨messages, ?_⟩, heads, fun hkeyed => ?_, rfl,
    hcontract, leases, fun hkeyed hc hready => ?_⟩
  · rw [after, appendEntry, hmessages]
  · intro k p hp
    refine keyed₁ hkeyed k p ?_
    rwa [projection?, tasks] at hp
  · obtain ⟨k, row, p, hk, rfl, hrow, hid, hattempt, hfence⟩ :=
      takes projection hprojection hc hready
    obtain ⟨k', hk', hp⟩ := draftProjection_some hprojection
    rw [hk, Option.some.injEq] at hk'
    refine ⟨row, p, rfl, ?_, hid, hattempt, hfence⟩
    rw [keyed₁ hkeyed k' p hp, ← hk']
    exact hrow

/-! ## Sequences of writes -/

/-- What the live policy does to a store at an instant. -/
inductive Writes (E : Environment) (t : Timestamp) (st : Store) : Store → Prop
  | refl : Writes E t st st
  | quiet {st₁ st₂ : Store} (writes : Writes E t st st₁) (h : Quiet st₁ st₂) : Writes E t st st₂
  | recorded {st₁ st₂ : Store} {entry : Entry} (writes : Writes E t st st₁)
      (h : Recorded E t st₁ st₂ entry) : Writes E t st st₂

theorem Writes.of_quiet (h : Quiet st st') : Writes E t st st' := .quiet .refl h

theorem Writes.of_recorded (h : ∃ entry, Recorded E t st st' entry) : Writes E t st st' := by
  obtain ⟨entry, h⟩ := h
  exact .recorded .refl h

theorem Writes.trans (h₁ : Writes E t st st₁) (h₂ : Writes E t st₁ st₂) : Writes E t st st₂ := by
  induction h₂ with
  | refl => exact h₁
  | quiet _ h ih => exact .quiet ih h
  | recorded _ h ih => exact .recorded ih h

theorem writes_foldE {α : Type} {f : Store → α → Except String Store} {l : List α}
    (step : ∀ st a st', f st a = .ok st' → Writes E t st st') (h : foldE f st l = .ok st') :
    Writes E t st st' :=
  foldE_invariant (Writes E t st) (fun _ a _ _ hb hstep => hb.trans (step _ a _ hstep)) .refl h

/-- What the writes of the live policy leave alone, and what they append. -/
structure Grows (E : Environment) (t : Timestamp) (st st' : Store) : Prop where
  evidence : ∃ entries messages, st'.evidence =
      { st.evidence with
        log := st.evidence.log ++ entries
        messages := st.evidence.messages ++ messages } ∧
    ∀ entry ∈ entries, entry.event.recordedAt = t ∧ ∀ p, entry.event.taskProjection = some p →
      projectionContract E "task_projection" p = .ok ()
  heads : st'.tables.workflowHeads = st.tables.workflowHeads

theorem Writes.grows (h : Writes E t st st') : Grows E t st st' := by
  induction h with
  | refl => exact ⟨⟨[], [], by simp⟩, rfl⟩
  | @quiet st₁ st₂ _ hquiet ih =>
    obtain ⟨entries, messages, hevidence, hentries⟩ := ih.evidence
    obtain ⟨more, hmore⟩ := hquiet.evidence
    refine ⟨⟨entries, messages ++ more, ?_, hentries⟩, hquiet.heads.trans ih.heads⟩
    rw [hmore, hevidence, ← List.append_assoc]
  | @recorded st₁ st₂ entry _ hrecorded ih =>
    obtain ⟨entries, messages, hevidence, hentries⟩ := ih.evidence
    obtain ⟨more, hmore⟩ := hrecorded.evidence
    refine ⟨⟨entries ++ [entry], messages ++ more, ?_, ?_⟩, hrecorded.heads.trans ih.heads⟩
    · rw [hmore, hevidence, ← List.append_assoc, ← List.append_assoc]
    · intro e he
      rcases List.mem_append.mp he with he | he
      · exact hentries e he
      · rw [List.mem_singleton.mp he]
        exact ⟨hrecorded.time, hrecorded.contract⟩

end Sdaqf
