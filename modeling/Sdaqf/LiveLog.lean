import Sdaqf.Exclusion
import Sdaqf.PublicState

/-!
# The log of a live store

The replay judges an entry by the evidence alone and lets through more than the live policy does. What
the live policy keeps to is said here as a second judgement of an entry by the entries before it: a
lease row continues the current lease of its task, or acquires a lease for a task without one, under
its own identity. Every entry of a reachable store meets it, so the log of a reachable store excludes.
-/

namespace Sdaqf

open Guard Store

variable {E : Environment} {ev : Evidence} {currentLeases : Table CurrentLease} {t : Timestamp}
variable {st st' : Store} {pre log : List Entry} {entry : Entry} {taskId leaseId : String}

/-! ## Current leases of a log -/

theorem currentLeaseOf_eq_some {row : LeaseRow} : currentLeaseOf log taskId = some row ↔
    latestLeaseRow log taskId = some row ∧ row.lease.status = .current := by
  simp [currentLeaseOf, Option.filter_eq_some_iff]

theorem currentLeaseOf_taskId {row : LeaseRow} (h : currentLeaseOf log taskId = some row) :
    row.lease.taskId = taskId :=
  latestLeaseRow_taskId (currentLeaseOf_eq_some.mp h).1

theorem currentLeaseOf_concat_nil (h : entry.leaseRows = []) :
    currentLeaseOf (pre ++ [entry]) taskId = currentLeaseOf pre taskId := by
  rw [currentLeaseOf, latestLeaseRow_concat_nil h, currentLeaseOf]

theorem currentLeaseOf_concat_singleton {row : LeaseRow} (h : entry.leaseRows = [row]) :
    currentLeaseOf (pre ++ [entry]) taskId =
      if row.lease.taskId = taskId then
        if row.lease.status = .current then some row else none
      else currentLeaseOf pre taskId := by
  rw [currentLeaseOf, latestLeaseRow_concat_singleton h]
  split
  · simp [Option.filter_some]
  · rfl

/-! ## The judgement -/

/-- A lease is another one at a later time: only its times and its status differ. -/
def Lease.Renews (a b : Lease) : Prop :=
  a = { b with
    heartbeatAt := a.heartbeatAt
    expiresAt := a.expiresAt
    status := a.status
    releaseOutcome := a.releaseOutcome }

/-- A lease row of the live policy: the task has no lease and acquires this one under its identity, or
the row continues the lease it has. -/
inductive LiveRow (E : Environment) (pre : List Entry) (row : LeaseRow) : Prop
  | acquired (free : currentLeaseOf pre row.lease.taskId = none)
      (identity : row.authorityLeaseId = E.leaseId row.lease) (status : row.lease.status = .current)
  | continued {c : CurrentLease} (held : currentLeaseOf pre row.lease.taskId = some c)
      (authority : row.authorityLeaseId = c.authorityLeaseId) (lease : row.lease.Renews c.lease)

/-- What the live policy keeps to when it appends an entry. -/
structure LiveEntry (E : Environment) (pre : List Entry) (entry : Entry) : Prop where
  rows : entry.leaseRows = [] ∨ ∃ row, entry.leaseRows = [row] ∧ LiveRow E pre row
  takes : entry.event.cause.takesLease = true → entry.event.beforeState = some .ready →
    ∃ row p, entry.event.taskProjection = some p ∧
      currentLeaseOf (pre ++ [entry]) p.taskId = some row ∧
      entry.event.leaseId = some row.authorityLeaseId ∧
      p.attempt = row.lease.attempt ∧ p.fence = row.lease.fence

/-- The table of current leases agrees with the log, and every entry of the log is live. -/
structure LiveStore (E : Environment) (st : Store) : Prop where
  keyed : st.Keyed
  leases : ∀ k : String, st.tables.currentLeases[k]? = currentLeaseOf st.log k
  live : History.Accepted (LiveEntry E) st.log

/-! ## The writes of the live policy -/

/-- A written lease row is a live row about the task it is written for. -/
theorem LeaseWrite.liveRow {k : String} {row : LeaseRow} (h : LeaseWrite E st k row)
    (leases : ∀ k : String, st.tables.currentLeases[k]? = currentLeaseOf st.log k) :
    row.lease.taskId = k ∧ LiveRow E st.log row := by
  cases h with
  | acquired free own identity status =>
    exact ⟨own, .acquired (by rw [own, ← leases, free]) identity status⟩
  | @refreshed c held authority lease =>
    rw [leases] at held
    obtain ⟨_, _, hlease⟩ := lease
    have htask : row.lease.taskId = k := by rw [hlease]; exact currentLeaseOf_taskId held
    exact ⟨htask, .continued (htask ▸ held) authority (by rw [hlease, Lease.Renews])⟩
  | @released c outcome held hrow =>
    rw [leases] at held
    have htask : row.lease.taskId = k :=
      (congrArg (·.lease.taskId) hrow).trans (currentLeaseOf_taskId held)
    exact ⟨htask, .continued (htask ▸ held) (by rw [hrow]) (by rw [hrow]; rfl)⟩

theorem LeaseRule.live (h : LeaseRule E st st' entry.leaseRows)
    (leases : ∀ k : String, st.tables.currentLeases[k]? = currentLeaseOf st.log k) :
    (entry.leaseRows = [] ∨ ∃ row, entry.leaseRows = [row] ∧ LiveRow E st.log row) ∧
      ∀ k : String, st'.tables.currentLeases[k]? = currentLeaseOf (st.log ++ [entry]) k := by
  generalize hrows : entry.leaseRows = rows at h
  cases h with
  | kept same =>
    refine ⟨.inl rfl, fun k => ?_⟩
    rw [same, leases, currentLeaseOf_concat_nil hrows]
  | @written k row write changed =>
    obtain ⟨htask, hlive⟩ := write.liveRow leases
    refine ⟨.inr ⟨row, rfl, hlive⟩, fun k' => ?_⟩
    rw [currentLeaseOf_concat_singleton hrows, changed, htask]
    split
    · rw [Table.getElem?_insert, leases]
    · rw [Table.getElem?_erase, leases]

theorem LiveStore.recorded (h : LiveStore E st) (hrecorded : Recorded E t st st' entry) :
    LiveStore E st' := by
  obtain ⟨messages, hevidence⟩ := hrecorded.evidence
  have hlog : st'.log = st.log ++ [entry] := by rw [Store.log, hevidence]; rfl
  obtain ⟨hrows, hleases⟩ := hrecorded.leases.live h.leases
  refine ⟨hrecorded.keyed h.keyed, by rwa [hlog], ?_⟩
  rw [hlog, History.accepted_concat]
  refine ⟨h.live, hrows, fun hcause hready => ?_⟩
  obtain ⟨row, p, hp, hrow, hrest⟩ := hrecorded.takes h.keyed hcause hready
  exact ⟨row, p, hp, by rw [← hleases, hrow], hrest⟩

theorem LiveStore.quiet (h : LiveStore E st) (hquiet : Quiet st st') : LiveStore E st' := by
  obtain ⟨messages, hevidence⟩ := hquiet.evidence
  have hlog : st'.log = st.log := by rw [Store.log, hevidence]; rfl
  exact ⟨hquiet.keyed h.keyed, by rw [hquiet.leases, hlog]; exact h.leases, hlog ▸ h.live⟩

theorem LiveStore.writes (h : LiveStore E st) (hwrites : Writes E t st st') : LiveStore E st' := by
  induction hwrites with
  | refl => exact h
  | quiet _ hquiet ih => exact ih.quiet hquiet
  | recorded _ hrecorded ih => exact ih.recorded hrecorded

theorem ValidStore.liveStore (h : ValidStore E st) (hlive : History.Accepted (LiveEntry E) st.log) :
    LiveStore E st where
  keyed k p hp := by
    obtain ⟨row, hrow, rfl⟩ := Option.map_eq_some_iff.mp hp
    exact (h.rowLaw hrow).key
  leases := h.projected.currentLeases
  live := hlive

/-- Every entry of a reachable store is live. -/
theorem Reachable.liveLog (h : Reachable E st) : History.Accepted (LiveEntry E) st.log := by
  refine h.write_induction (fun st => History.Accepted (LiveEntry E) st.log) ?_ ?_
    fun _ _ _ ih => ih
  · intro graph now ttlSeconds heartbeat workflowAuthority _
    rw [seed, Store.log, ← List.nil_append [_], History.accepted_concat]
    exact ⟨History.accepted_nil, .inl rfl, fun hcause _ => by cases hcause⟩
  · intro st st' t hst hwrites ih
    exact ((hst.validStore.liveStore ih).writes hwrites).live

/-! ## Exclusion -/

/-- A live entry takes no lease beside a current one. -/
theorem LiveEntry.lease_uncontended (h : LiveEntry E pre entry) :
    ∀ row ∈ entry.leaseRows, ∀ prior, latestLeaseRow pre row.lease.taskId = some prior →
      prior.lease.status = .current → prior.authorityLeaseId = row.authorityLeaseId := by
  intro row hrow prior hprior hcurrent
  have hheld := currentLeaseOf_eq_some.mpr ⟨hprior, hcurrent⟩
  rcases h.rows with hnil | ⟨own, hrows, hlive⟩
  · simp [hnil] at hrow
  · obtain rfl : row = own := by simpa [hrows] using hrow
    cases hlive with
    | acquired free => rw [free] at hheld; cases hheld
    | continued held authority =>
      rw [held, Option.some.injEq] at hheld
      rw [authority, hheld]

/-- An entry that the replay accepts and the live policy wrote. -/
structure LiveAccepted (E : Environment) (ev : Evidence) (currentLeases : Table CurrentLease)
    (pre : List Entry) (entry : Entry) : Prop where
  accepted : AcceptedEntry E ev currentLeases pre entry
  live : LiveEntry E pre entry

theorem Reachable.liveAccepted (h : Reachable E st) :
    History.Accepted (LiveAccepted E st.evidence st.tables.currentLeases) st.log :=
  fun pre entry post hlog => ⟨h.validStore.evidence.acceptedEntries pre entry post hlog,
    h.liveLog pre entry post hlog⟩

/-- Every open lease of a live log is the latest one of its task. -/
theorem openIsLatest_of_live
    (h : History.Accepted (LiveAccepted E ev currentLeases) log) : OpenIsLatest log :=
  h.invariant OpenIsLatest exclusive_nil.1 fun _ _ _ ih hentry =>
    hentry.accepted.openIsLatest (fun _ => hentry.live.lease_uncontended) ih

end Sdaqf
