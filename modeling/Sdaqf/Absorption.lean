import Sdaqf.Linearization

/-!
# Dependency gating and terminal absorption

A task leaves its planned state only behind its completed dependencies, and a completed task stays as it
is. So the dependencies of every task that ever got further are completed for good. A move of a task
that is finished or blocked with an unknown outcome is an audit, so no later operation changes it.
-/

namespace Sdaqf

open Guard Store

variable {E : Environment} {ev : Evidence} {task : SchedulerTask} {e : SchedulerEvent}
variable {dependenciesMet reviewsMet activated : Prop} {v w : TaskView}

/-! ## Moves -/

/-- A task that stays as it is: it is finished, or blocked with an unknown outcome. -/
def TaskProjection.Absorbed (p : TaskProjection) : Prop :=
  p.state = .completed ∨ p.state = .rejected ∨ p.state = .superseded ∨
    (p.state = .blocked ∧ p.outcome = .unknown)

/-- The states of a task behind its dependencies. -/
def TaskState.gated (s : TaskState) : Bool :=
  s = .ready || s = .running || s = .verification || s = .completed

/-- A move of an absorbed task leaves its projection. -/
theorem Move.absorbed (hv : v.Sound)
    (h : Move E ev task e dependenciesMet reviewsMet activated v w)
    (habsorbed : v.projection.Absorbed) : w.projection = v.projection := by
  unfold TaskProjection.Absorbed at habsorbed
  cases h with
  | audit => rfl
  | approvalConsumed => rfl
  | proposalExpired _ state holds =>
    rcases habsorbed with h | h | h | ⟨_, hunknown⟩
    · simp [h] at state
    · simp [h] at state
    · simp [h] at state
    · exact absurd holds ((hv.unknown hunknown).2 _)
  | refreshed _ refreshable known =>
    rcases habsorbed with h | h | h | h
    · simp [h, EventCause.readinessState] at refreshable
    · simp [h, EventCause.readinessState] at refreshable
    · simp [h, EventCause.readinessState] at refreshable
    · exact absurd h known
  | heartbeat => rfl
  | worktreeObserved => rfl
  | _ => simp_all

/-- A move takes a task behind its dependencies only where they are completed. -/
theorem Move.gate (h : Move E ev task e dependenciesMet reviewsMet activated v w)
    (hgated : w.projection.state.gated = true ∨ (∃ row, w.Holds row) ∨ e.cause.activates = true) :
    (v.projection.state.gated = true ∨ ∃ row, v.Holds row) ∨ dependenciesMet := by
  cases h with
  | audit cause =>
    rcases hgated with h | h | h
    · exact .inl (.inl h)
    · exact .inl (.inr h)
    · cases hcause : e.cause <;> simp [hcause, EventCause.audits, EventCause.activates] at cause h
  | refreshed cause _ _ target gate =>
    rcases hgated with h | ⟨row, h⟩ | h
    · refine .inr (gate ?_)
      simp only [TaskState.gated, EventCause.readinessState, Bool.or_eq_true,
        decide_eq_true_eq] at h target
      rcases h with ((h | h) | h) | h
      · exact h
      all_goals simp [h] at target
    · exact .inl (.inr ⟨row, h⟩)
    · simp [cause, EventCause.activates] at h
  | approvalConsumed _ state =>
    rcases state with h | h <;> exact .inl (.inl (by simp [h, TaskState.gated]))
  | proposalExpired _ _ holds => exact .inl (.inr ⟨_, holds⟩)
  | _ => exact .inl (.inl (by simp_all [TaskState.gated]))

/-- A move completes a task only where its review targets are completed. -/
theorem Move.completes (h : Move E ev task e dependenciesMet reviewsMet activated v w)
    (hcompleted : w.projection.state = .completed) :
    v.projection.state = .completed ∨ reviewsMet := by
  cases h with
  | verified _ _ reviews => exact .inr reviews
  | ended _ _ _ _ allowed =>
    rcases allowed with h | h | h | h <;> simp_all [endedProjection]
  | refreshed _ _ _ target => simp_all [EventCause.readinessState]
  | _ => simp_all [takenProjection, endedProjection]

/-! ## Logs -/

section Log

variable {currentLeases : Table CurrentLease} {pre log entries : List Entry} {entry : Entry}
variable {taskId : String} {p : TaskProjection} {graph : TaskGraph}

/-- A dispatch or a worktree request of a task is in a log. -/
def Dispatched (log : List Entry) (taskId : String) : Prop :=
  ∃ entry ∈ log, entry.event.taskId = some taskId ∧ entry.event.cause.activates = true

theorem taskView_projection : (taskView graph log taskId).map (·.projection) =
    projectionAt graph log taskId := by
  rw [taskView, Option.map_map]
  exact Option.map_id'

/-- An accepted entry leaves the projection of an absorbed task. -/
theorem AcceptedEntry.absorbed (h : AcceptedEntry E ev currentLeases pre entry)
    (hpre : History.Accepted (AcceptedEntry E ev currentLeases) pre)
    (hp : projectionAt ev.graph pre taskId = some p) (habsorbed : p.Absorbed) :
    projectionAt ev.graph (pre ++ [entry]) taskId = some p := by
  rcases h.view_cases taskId with hsame | ⟨task, v, w, _, _, _, hv, hw, hmove⟩
  · rw [← taskView_projection, hsame, taskView_projection, hp]
  · have hvp : v.projection = p := by
      rw [← taskView_projection, hv] at hp
      exact Option.some.inj hp
    rw [← taskView_projection, hw, Option.map_some,
      hmove.absorbed (sound_of_accepted hpre hv) (hvp ▸ habsorbed), hvp]

/-- However an accepted log goes on, an absorbed task stays as it is. -/
theorem absorbed_append (h : History.Accepted (AcceptedEntry E ev currentLeases) (pre ++ entries))
    (hp : projectionAt ev.graph pre taskId = some p) (habsorbed : p.Absorbed) :
    projectionAt ev.graph (pre ++ entries) taskId = some p := by
  induction entries using List.reverseRecOn with
  | nil => rwa [List.append_nil]
  | append_singleton entries entry ih =>
    rw [← List.append_assoc] at h ⊢
    obtain ⟨hlog, hentry⟩ := History.accepted_concat.mp h
    exact hentry.absorbed hlog (ih hlog) habsorbed

theorem AcceptedEntry.completed (h : AcceptedEntry E ev currentLeases pre entry)
    (hpre : History.Accepted (AcceptedEntry E ev currentLeases) pre)
    (hcompleted : (projectionAt ev.graph pre taskId).map (·.state) = some .completed) :
    (projectionAt ev.graph (pre ++ [entry]) taskId).map (·.state) = some .completed := by
  obtain ⟨p, hp, hstate⟩ := Option.map_eq_some_iff.mp hcompleted
  rw [h.absorbed hpre hp (.inl hstate), Option.map_some, hstate]

/-- A task that got behind its dependencies, and one that is completed, at the end of a log. -/
structure Gated (graph : TaskGraph) (log : List Entry) (task : SchedulerTask) (v : TaskView) :
    Prop where
  dependencies : v.projection.state.gated = true ∨ (∃ row, v.Holds row) ∨
    Dispatched log task.taskId → DependenciesMet graph log task
  reviews : v.projection.state = .completed → ReviewsMet graph log task

theorem dispatched_concat : Dispatched (pre ++ [entry]) taskId ↔ Dispatched pre taskId ∨
    (entry.event.taskId = some taskId ∧ entry.event.cause.activates = true) := by
  simp only [Dispatched, List.mem_append, List.mem_singleton]
  constructor
  · rintro ⟨other, hother | rfl, h⟩
    · exact .inl ⟨other, hother, h⟩
    · exact .inr h
  · rintro (⟨other, hother, h⟩ | h)
    · exact ⟨other, .inl hother, h⟩
    · exact ⟨entry, .inr rfl, h⟩

/-- An accepted entry keeps every task gated. -/
theorem AcceptedEntry.gated (h : AcceptedEntry E ev currentLeases pre entry)
    (hpre : History.Accepted (AcceptedEntry E ev currentLeases) pre)
    (htask : ev.graph.task? taskId = some task)
    (ih : ∀ v, taskView ev.graph pre taskId = some v → Gated ev.graph pre task v)
    (hw : taskView ev.graph (pre ++ [entry]) taskId = some w) :
    Gated ev.graph (pre ++ [entry]) task w := by
  have hid := TaskGraph.task?_taskId htask
  have hkeep (hmet : DependenciesMet ev.graph pre task) :
      DependenciesMet ev.graph (pre ++ [entry]) task := fun d hd => h.completed hpre (hmet d hd)
  have hreviews (hmet : ReviewsMet ev.graph pre task) :
      ReviewsMet ev.graph (pre ++ [entry]) task := fun d hd => h.completed hpre (hmet d hd)
  by_cases hown : entry.event.taskId = some taskId
  · obtain ⟨task', v, w', _, htask', hv, hw', hmove⟩ := h.move_of_task hown
    obtain rfl := Option.some.inj (htask.symm.trans htask')
    obtain rfl := Option.some.inj (hw.symm.trans hw')
    have hbefore := ih v hv
    have hmoved (hgate : (v.projection.state.gated = true ∨ ∃ row, v.Holds row) ∨
        DependenciesMet ev.graph pre task) :
        DependenciesMet ev.graph (pre ++ [entry]) task := by
      rcases hgate with (hgated | hholds) | hmet
      · exact hkeep (hbefore.dependencies (.inl hgated))
      · exact hkeep (hbefore.dependencies (.inr (.inl hholds)))
      · exact hkeep hmet
    refine ⟨fun hgated => ?_, fun hcompleted => ?_⟩
    · rw [dispatched_concat, hid] at hgated
      rcases hgated with hgated | hholds | hdispatched | ⟨_, hactivates⟩
      · exact hmoved (hmove.gate (.inl hgated))
      · exact hmoved (hmove.gate (.inr (.inl hholds)))
      · exact hkeep (hbefore.dependencies (.inr (.inr (hid ▸ hdispatched))))
      · exact hmoved (hmove.gate (.inr (.inr hactivates)))
    · rcases hmove.completes hcompleted with hcompleted | hmet
      · exact hreviews (hbefore.reviews hcompleted)
      · exact hreviews hmet
  · rw [taskView_of_ne h.rows hown] at hw
    have hbefore := ih w hw
    refine ⟨fun hgated => hkeep (hbefore.dependencies ?_), fun hcompleted =>
      hreviews (hbefore.reviews hcompleted)⟩
    rw [dispatched_concat, hid] at hgated
    rcases hgated with hgated | hholds | hdispatched | ⟨heq, _⟩
    · exact .inl hgated
    · exact .inr (.inl hholds)
    · exact .inr (.inr (hid ▸ hdispatched))
    · exact absurd heq hown

/-- Every task is gated at the end of every accepted log. -/
theorem gated_of_accepted (h : History.Accepted (AcceptedEntry E ev currentLeases) log)
    (htask : ev.graph.task? taskId = some task) (hv : taskView ev.graph log taskId = some v) :
    Gated ev.graph log task v := by
  have hall : ∀ v, taskView ev.graph log taskId = some v → Gated ev.graph log task v := by
    refine History.Accepted.invariant
      (fun log => ∀ v, taskView ev.graph log taskId = some v → Gated ev.graph log task v) ?_ ?_ h
    · intro v hv
      obtain ⟨p, hp, rfl⟩ := taskView_eq_some.mp hv
      simp only [projectionAt, recordedProjection, History.lastWhere_nil, Option.bind_none,
        Option.none_or, htask, Option.map_some, Option.some.injEq] at hp
      subst hp
      refine ⟨fun hgated => ?_, fun hcompleted => ?_⟩
      · rcases hgated with hgated | ⟨row, hrow, _⟩ | ⟨_, hentry, _⟩
        · -- A new task is ready only without dependencies.
          have hnone : task.dependencies = [] := by
            by_contra hsome
            simp [viewAt, SchedulerTask.initialProjection, hsome, TaskState.gated] at hgated
          simp [DependenciesMet, hnone]
        · simp [viewAt, latestLeaseRow] at hrow
        · simp at hentry
      · simp only [viewAt, SchedulerTask.initialProjection] at hcompleted
        split at hcompleted <;> cases hcompleted
    · exact fun pre entry hpre ih hentry w hw => hentry.gated hpre htask ih hw
  exact hall v hv

end Log

/-! ## Stores -/

variable {st s : Store} {taskId : String} {row : TaskRow}

/-- The task row of a store is the view of its log. -/
theorem ValidStore.taskRow (hv : ValidStore E st) (h : st.tables.tasks[taskId]? = some row) :
    ∃ task, st.evidence.graph.task? taskId = some task ∧ row.definition = task ∧
      projectionAt st.evidence.graph st.log taskId = some row.projection := by
  rw [hv.projected.tasks, Option.bind_eq_some_iff] at h
  obtain ⟨task, htask, hview⟩ := h
  obtain ⟨p, hp, rfl⟩ := Option.map_eq_some_iff.mp hview
  exact ⟨task, htask, rfl, hp⟩

/-- A task of a store that is completed. -/
def Store.Completed (st : Store) (taskId : String) : Prop :=
  ∃ row, st.tables.tasks[taskId]? = some row ∧ row.projection.state = .completed

theorem ValidStore.completed (hv : ValidStore E st)
    (h : (projectionAt st.evidence.graph st.log taskId).map (·.state) = some .completed)
    (hknown : (st.evidence.graph.task? taskId).isSome) : st.Completed taskId := by
  obtain ⟨task, htask⟩ := Option.isSome_iff_exists.mp hknown
  obtain ⟨p, hp, hstate⟩ := Option.map_eq_some_iff.mp h
  refine ⟨⟨task, task.wave, st.evidence.graph.topologicalRank task.taskId, p⟩, ?_, hstate⟩
  rw [hv.projected.tasks, htask, Option.bind_some]
  exact Option.map_eq_some_iff.mpr ⟨p, hp, rfl⟩

/-- A task with a projection is a task of the graph. -/
theorem ValidEvidence.known_of_projection {currentLeases : Table CurrentLease}
    {p : TaskProjection} (hv : ValidEvidence E ev currentLeases)
    (hp : projectionAt ev.graph ev.log taskId = some p) : (ev.graph.task? taskId).isSome := by
  rw [projectionAt, Option.or_eq_some_iff] at hp
  rcases hp with hp | ⟨-, hp⟩
  · obtain ⟨entry, hentry, -⟩ := Option.bind_eq_some_iff.mp hp
    obtain ⟨hmem, htask⟩ := History.of_lastWhere_eq_some hentry
    exact hv.task?_of_event hmem (of_decide_eq_true htask)
  · obtain ⟨task, htask, -⟩ := Option.map_eq_some_iff.mp hp
    rw [htask, Option.isSome_some]

/-- One task waits for another one to complete. -/
def Store.DependsOn (st : Store) (taskId d : String) : Prop :=
  ∃ row, st.tables.tasks[taskId]? = some row ∧ d ∈ row.definition.dependencies

theorem ValidStore.met (hv : ValidStore E st) {ds : List String}
    (h : ∀ d ∈ ds, (projectionAt st.evidence.graph st.log d).map (·.state) = some .completed) :
    ∀ d ∈ ds, st.Completed d := by
  intro d hd
  obtain ⟨p, hp, _⟩ := Option.map_eq_some_iff.mp (h d hd)
  exact hv.completed (h d hd) (hv.evidence.known_of_projection hp)

/-- A task of a valid store that is gated or was dispatched has its dependencies completed. -/
theorem ValidStore.dependencies_completed (hv : ValidStore E st)
    (hrow : st.tables.tasks[taskId]? = some row)
    (hgated : row.projection.state.gated = true ∨ Dispatched st.log taskId) :
    ∀ d ∈ row.definition.dependencies, st.Completed d := by
  obtain ⟨task, htask, rfl, hp⟩ := hv.taskRow hrow
  have hgate := gated_of_accepted hv.evidence.acceptedEntries htask
    (taskView_eq_some.mpr ⟨_, hp, rfl⟩)
  refine hv.met (hgate.dependencies ?_)
  rw [TaskGraph.task?_taskId htask]
  exact hgated.imp id .inr

theorem ValidStore.reviews_completed (hv : ValidStore E st)
    (hrow : st.tables.tasks[taskId]? = some row) (hcompleted : row.projection.state = .completed) :
    ∀ d ∈ row.definition.reviewTargets, st.Completed d := by
  obtain ⟨task, htask, rfl, hp⟩ := hv.taskRow hrow
  have hgate := gated_of_accepted hv.evidence.acceptedEntries htask
    (taskView_eq_some.mpr ⟨_, hp, rfl⟩)
  exact hv.met (hgate.reviews hcompleted)

/-- What is completed stays completed along all dependencies. -/
theorem ValidStore.transitive_completed (hv : ValidStore E st)
    (hrow : st.tables.tasks[taskId]? = some row)
    (hgated : row.projection.state.gated = true ∨ Dispatched st.log taskId) {d : String}
    (hd : Relation.TransGen st.DependsOn taskId d) : st.Completed d := by
  induction hd with
  | single h =>
    obtain ⟨row', hrow', hd⟩ := h
    obtain rfl := Option.some.inj (hrow.symm.trans hrow')
    exact hv.dependencies_completed hrow hgated _ hd
  | tail _ h ih =>
    obtain ⟨row', hrow', hstate⟩ := ih
    obtain ⟨row'', hrow'', hd⟩ := h
    obtain rfl := Option.some.inj (hrow'.symm.trans hrow'')
    exact hv.dependencies_completed hrow' (.inl (by rw [hstate]; rfl)) _ hd

/-- A committed operation goes on with the log of the store. -/
theorem Step.log_append (h : Step E st s) : s.evidence.graph = st.evidence.graph ∧
    ∃ entries, s.log = st.log ++ entries := by
  rcases h.grows_or_call with ⟨t, hgrows, _⟩ | ⟨call, result, hcall, rfl⟩
  · obtain ⟨entries, messages, hevidence, _⟩ := hgrows.evidence
    exact ⟨by rw [hevidence], entries, congrArg Evidence.log hevidence⟩
  · rcases callWrite_of_call hcall with hsame | ⟨e, hwrite⟩
    · exact ⟨by rw [hsame], [], by rw [hsame, List.append_nil]⟩
    · obtain ⟨events, _, _, hstore⟩ := hwrite.write.store
      rw [hstore]
      exact ⟨rfl, [], by simp⟩

theorem Step.absorbed (reach : Reachable E st) (h : Step E st s)
    (hrow : st.tables.tasks[taskId]? = some row) (habsorbed : row.projection.Absorbed) :
    ∃ row' : TaskRow, s.tables.tasks[taskId]? = some row' ∧ row'.projection = row.projection := by
  have hafter := (reach.step h).validStore
  obtain ⟨hgraph, entries, hlog⟩ := h.log_append
  obtain ⟨task, htask, -, hp⟩ := reach.validStore.taskRow hrow
  have haccepted : History.Accepted (AcceptedEntry E s.evidence s.tables.currentLeases)
      (st.log ++ entries) := hlog ▸ hafter.evidence.acceptedEntries
  have hkept := absorbed_append haccepted (hgraph ▸ hp) habsorbed
  refine ⟨⟨task, task.wave, s.evidence.graph.topologicalRank task.taskId, row.projection⟩, ?_, rfl⟩
  rw [hafter.projected.tasks, hgraph, htask, Option.bind_some, Option.map_eq_some_iff]
  exact ⟨row.projection, by rw [← hkept, hgraph, ← hlog]; rfl, rfl⟩

end Sdaqf
