import Mathlib.Logic.Relation
import Sdaqf.EpochCalls

/-!
# Terminal linearization

The reservation of a terminal is a point of linearization. Until the terminal is confirmed the
scheduler stands still and only the epoch of that plan goes on; after it is confirmed the epoch of
the plan never goes on. The carrying invariant is that a written event is bound to the authority the
store stands at, and that nothing moves this authority while a terminal is pending.
-/

namespace Sdaqf

open Guard Store

variable {E : Environment} {st st' s s' : Store} {P : String} {head : WorkflowEpochHead}
variable {e : WorkflowEpochEvent} {call : WorkflowCall} {result : Store × WorkflowEpochHead}

/-- A run of committed operations. -/
abbrev Steps (E : Environment) : Store → Store → Prop := Relation.ReflTransGen (Step E)

theorem Reachable.steps (reach : Reachable E st) (h : Steps E st s) : Reachable E s := by
  induction h with
  | refl => exact reach
  | tail _ hstep ih => exact .step ih hstep

/-- The workflow events of a store; a store of the first version has none. -/
def Store.epochEvents (st : Store) : List WorkflowEpochEvent :=
  st.evidence.workflowEvents.getD []

/-! ## Written events -/

namespace EpochWrite

variable (h : EpochWrite E st e head st')
include h

theorem epochEvents : st'.epochEvents = st.epochEvents ++ [e] := by
  obtain ⟨events, hevents, _, rfl⟩ := h.store
  simp [Store.epochEvents, Store.withWorkflow, hevents]

theorem getElem?_heads (k : String) : st'.tables.workflowHeads[k]? =
    if e.content.planId = k then some head else st.tables.workflowHeads[k]? := by
  obtain ⟨events, _, _, rfl⟩ := h.store
  rw [← Table.getElem?_insert]
  rfl

theorem log : st'.log = st.log := by
  obtain ⟨events, _, _, rfl⟩ := h.store
  rfl

theorem schedulerTriple : st'.schedulerTriple E = st.schedulerTriple E := by
  obtain ⟨events, _, _, rfl⟩ := h.store
  rfl

theorem content : head.content = e.content := by
  obtain ⟨move, _, _, rfl⟩ := reduceWorkflowEvent_eq_ok h.reduced
  rfl

/-- A later event of a plan is a step of its epoch. -/
theorem step {prior : WorkflowEpochHead}
    (held : st.tables.workflowHeads[e.content.planId]? = some prior) :
    ∃ move, EpochStep prior e move ∧ head.phase = move.phase ∧
      head.terminalAt = move.terminalAt ∧ prior.content.recordedAt ≤ e.content.recordedAt := by
  obtain ⟨move, hmove, _, rfl⟩ := reduceWorkflowEvent_eq_ok h.reduced
  rw [held] at hmove
  obtain ⟨hcontinues, _, hstep⟩ := epochStep_of_move hmove
  exact ⟨move, hstep, rfl, rfl, hcontinues.2.2.2.2.2.2⟩

end EpochWrite

/-- A written event is bound to the authority the store stands at. -/
theorem EpochGuard.authority (h : EpochGuard E st e) :
    st.schedulerTriple E = .ok e.content.scheduler := by
  cases h with
  | opened _ _ _ authority => exact authority
  | reserved _ _ _ _ authority => exact authority
  | confirmed _ _ _ _ authority => exact authority

/-! ## Induction over the epochs of a run -/

theorem Grows.epochEvents {t : Timestamp} (h : Grows E t st st') :
    st'.epochEvents = st.epochEvents := by
  obtain ⟨_, _, hevidence, _⟩ := h.evidence
  rw [Store.epochEvents, hevidence]
  rfl

/-- A property of reachable stores that holds without epochs, and that scheduler operations and
written events keep. -/
theorem Reachable.epoch_induction (inv : Store → Prop)
    (none : ∀ st, st.epochEvents = [] → st.tables.workflowHeads = ∅ → inv st)
    (scheduler : ∀ st st' t, Reachable E st → Reachable E st' → Grows E t st st' →
      pendingTerminals st.tables.workflowHeads = [] → inv st → inv st')
    (write : ∀ st call e result, Reachable E st → CallWrite E st call e result → inv st →
      inv result.1)
    (h : Reachable E st) : inv st := by
  induction h with
  | @initial graph now ttlSeconds heartbeat workflowAuthority st _ h =>
    simp only [initializeStore, bind_eq_ok, exists_unit, pure_eq_ok] at h
    obtain ⟨_, _, rfl⟩ := h
    refine none _ ?_ rfl
    cases workflowAuthority <;> rfl
  | @step st st' reach hstep ih =>
    rcases hstep.grows_or_call with ⟨t, hgrows, hpending⟩ | ⟨call, result, hcall, rfl⟩
    · exact scheduler st st' t reach (.step reach hstep) hgrows hpending ih
    · rcases callWrite_of_call hcall with hsame | ⟨e, hwrite⟩
      · rwa [hsame]
      · exact write st call e result reach hwrite ih

theorem Reachable.headLaw (h : Reachable E st) (held : st.tables.workflowHeads[P]? = some head) :
    HeadLaw st.epochEvents P head := by
  cases hversion : st.evidence.workflowEvents with
  | some events =>
    rw [Store.epochEvents, hversion]
    exact h.validStore.headLaw hversion held
  | none =>
    have hheads := h.validStore.heads
    rw [rebuiltHeads, hversion, Except.ok.injEq] at hheads
    rw [← hheads, Table.getElem?_empty] at held
    cases held

/-! ## Pending terminals -/

/-- At most one terminal is pending: the validator refuses more. -/
theorem pendingTerminals_length (h : ValidStore E st) :
    (pendingTerminals st.tables.workflowHeads).length ≤ 1 := by
  cases hversion : st.evidence.workflowEvents with
  | none =>
    have hheads := h.heads
    rw [rebuiltHeads, hversion, Except.ok.injEq] at hheads
    rw [← hheads]
    decide
  | some events =>
    have hvalid := h.evidence.workflow events hversion
    simp only [validateWorkflowEpochEvidence, bind_eq_ok, exists_unit, require_eq_ok] at hvalid
    obtain ⟨heads, hheads, _, _, hpending⟩ := hvalid
    rw [h.replay hversion, Except.ok.injEq] at hheads
    rw [hheads]
    unfold validatePending at hpending
    split at hpending
    · next hnil => simp [hnil]
    · next hone => simp [hone]
    · cases hpending

/-- A pending terminal pins the authority the scheduler stands at. -/
theorem Reachable.pinned (h : Reachable E st) (held : st.tables.workflowHeads[P]? = some head)
    (reserved : head.phase = .terminalReserved) :
    st.schedulerTriple E = .ok head.content.scheduler := by
  refine h.epoch_induction (fun st => ∀ P head, st.tables.workflowHeads[P]? = some head →
    head.phase = .terminalReserved → st.schedulerTriple E = .ok head.content.scheduler)
    ?_ ?_ ?_ P head held reserved
  · intro st _ hheads P head held
    rw [hheads, Table.getElem?_empty] at held
    cases held
  · intro st st' t _ _ hgrows hpending _ P head held reserved
    rw [hgrows.heads] at held
    have hmem := mem_pendingTerminals.mpr ⟨⟨P, held⟩, reserved⟩
    simp [hpending] at hmem
  · intro st call e result _ hwrite ih P head held reserved
    rw [hwrite.write.schedulerTriple]
    rw [hwrite.write.getElem?_heads] at held
    split at held
    · cases held
      rw [hwrite.write.content]
      exact hwrite.guards.authority
    · exact ih P head held reserved

/-! ## While a terminal is pending -/

/-- Nothing but the epoch of one plan went on, and the scheduler stands where the plan pinned it. -/
structure Frozen (E : Environment) (P : String) (pinned : SchedulerTriple) (st s : Store) : Prop
    where
  log : s.log = st.log
  events : ∃ new, s.epochEvents = st.epochEvents ++ new ∧ ∀ e ∈ new, e.content.planId = P
  authority : s.schedulerTriple E = .ok pinned

theorem Frozen.trans {pinned : SchedulerTriple} (h₁ : Frozen E P pinned st s)
    (h₂ : Frozen E P pinned s s') : Frozen E P pinned st s' := by
  obtain ⟨new₁, hnew₁, hplan₁⟩ := h₁.events
  obtain ⟨new₂, hnew₂, hplan₂⟩ := h₂.events
  refine ⟨h₂.log.trans h₁.log, ⟨new₁ ++ new₂, ?_, ?_⟩, h₂.authority⟩
  · rw [hnew₂, hnew₁, List.append_assoc]
  · intro e he
    rcases List.mem_append.mp he with he | he
    · exact hplan₁ e he
    · exact hplan₂ e he

/-- What one operation does while the terminal of a plan is pending. -/
theorem Step.frozen (reach : Reachable E s) (held : s.tables.workflowHeads[P]? = some head)
    (reserved : head.phase = .terminalReserved) (h : Step E s s') :
    Frozen E P head.content.scheduler s s' ∧ ∃ head', s'.tables.workflowHeads[P]? = some head' ∧
      (head'.phase = .terminalReserved ∨ head'.phase = .terminalConfirmed) ∧
      head'.content.scheduler = head.content.scheduler := by
  have hpinned := reach.pinned held reserved
  have hmem := mem_pendingTerminals.mpr ⟨⟨P, held⟩, reserved⟩
  rcases h.grows_or_call with ⟨t, _, hpending⟩ | ⟨call, result, hcall, rfl⟩
  · simp [hpending] at hmem
  · rcases callWrite_of_call hcall with hsame | ⟨e, hwrite⟩
    · rw [hsame]
      exact ⟨⟨rfl, ⟨[], by simp⟩, hpinned⟩, head, held, .inl reserved, rfl⟩
    · cases hwrite.guards with
      | opened _ _ free => simp [free] at hmem
      | reserved _ _ _ free => simp [free] at hmem
      | @confirmed prior cause heldPrior scope kept authority =>
        have hplan : e.content.planId = P :=
          (scope head hmem).symm.trans (reach.headLaw held).plan
        rw [hplan, held, Option.some.injEq] at heldPrior
        subst heldPrior
        obtain ⟨move, hstep, hphase, _, _⟩ := hwrite.write.step (hplan ▸ held)
        refine ⟨⟨hwrite.write.log, ⟨[e], hwrite.write.epochEvents, by simpa using hplan⟩, ?_⟩,
          result.2, ?_, ?_, ?_⟩
        · rw [hwrite.write.schedulerTriple]
          exact hpinned
        · rw [hwrite.write.getElem?_heads, if_pos hplan]
        · rw [hphase]
          cases hstep with
          | transition _ phase => simp [reserved] at phase
          | terminal _ phase => simp [reserved] at phase
          | closed _ _ _ _ _ closes => exact .inr closes
          | confirmed _ _ _ _ phase => exact .inl (by simp [phase, reserved])
        · rw [hwrite.write.content, kept]

/-! ## After a terminal is confirmed -/

/-- What one operation does after the terminal of a plan is confirmed. -/
theorem Step.closed (reach : Reachable E s) (held : s.tables.workflowHeads[P]? = some head)
    (confirmed : head.phase = .terminalConfirmed) (h : Step E s s') :
    s'.tables.workflowHeads[P]? = some head ∧
      ∃ new, s'.epochEvents = s.epochEvents ++ new ∧ ∀ e ∈ new, e.content.planId ≠ P := by
  rcases h.grows_or_call with ⟨t, hgrows, _⟩ | ⟨call, result, hcall, rfl⟩
  · exact ⟨by rw [hgrows.heads, held], [], by simp [hgrows.epochEvents], by simp⟩
  · rcases callWrite_of_call hcall with hsame | ⟨e, hwrite⟩
    · rw [hsame]
      exact ⟨held, [], by simp, by simp⟩
    · have hplan : e.content.planId ≠ P := by
        intro hplan
        obtain ⟨move, hstep, _⟩ := hwrite.write.step (hplan ▸ held)
        exact hstep.open_phase (reach.headLaw held).closed confirmed
      refine ⟨?_, [e], hwrite.write.epochEvents, by simpa using hplan⟩
      rw [hwrite.write.getElem?_heads, if_neg hplan, held]

theorem Steps.closed (reach : Reachable E st) (held : st.tables.workflowHeads[P]? = some head)
    (confirmed : head.phase = .terminalConfirmed) (h : Steps E st s) :
    s.tables.workflowHeads[P]? = some head ∧
      ∃ new, s.epochEvents = st.epochEvents ++ new ∧ ∀ e ∈ new, e.content.planId ≠ P := by
  induction h with
  | refl => exact ⟨held, [], by simp, by simp⟩
  | tail hsteps hstep ih =>
    obtain ⟨hheld, new, hnew, hplans⟩ := ih
    obtain ⟨hheld', new', hnew', hplans'⟩ := hstep.closed (reach.steps hsteps) hheld confirmed
    refine ⟨hheld', new ++ new', by rw [hnew', hnew, List.append_assoc], fun e he => ?_⟩
    rcases List.mem_append.mp he with he | he
    · exact hplans e he
    · exact hplans' e he

/-! ## The events of a terminal -/

/-- What the terminal events of a plan say about its head. -/
structure TerminalLaw (st : Store) : Prop where
  reserved : ∀ e ∈ st.epochEvents, e.cause = .terminalReserved →
    ∃ head, st.tables.workflowHeads[e.content.planId]? = some head ∧
      (head.phase = .terminalReserved ∨ head.phase = .terminalConfirmed) ∧
      head.content.scheduler = e.content.scheduler
  confirmed : ∀ e ∈ st.epochEvents, e.cause = .terminalConfirmed →
    ∃ head, st.tables.workflowHeads[e.content.planId]? = some head ∧
      head.phase = .terminalConfirmed
  closed : ∀ (P : String) head, st.tables.workflowHeads[P]? = some head →
    head.phase = .terminalConfirmed →
      ∃ e ∈ st.epochEvents, e.content.planId = P ∧ e.cause = .terminalConfirmed

/-- The cause of a written event that leads to a confirmed terminal. -/
theorem EpochWrite.cause_of_closed (h : EpochWrite E st e head st') {prior : WorkflowEpochHead}
    (held : st.tables.workflowHeads[e.content.planId]? = some prior)
    (law : HeadLaw st.epochEvents e.content.planId prior)
    (confirmed : head.phase = .terminalConfirmed) : e.cause = .terminalConfirmed := by
  obtain ⟨move, hstep, hphase, _⟩ := h.step held
  have hopen := hstep.open_phase law.closed
  rw [hphase] at confirmed
  cases hstep with
  | transition _ _ _ reserved => simp [reserved] at confirmed
  | terminal _ _ _ reserved => simp [reserved] at confirmed
  | closed cause => exact cause
  | confirmed _ _ _ _ phase =>
    rw [phase] at confirmed
    split at confirmed
    · cases confirmed
    · exact absurd confirmed hopen

theorem Reachable.terminalLaw (h : Reachable E st) : TerminalLaw st := by
  refine h.epoch_induction TerminalLaw ?_ ?_ ?_
  · intro st hevents hheads
    refine ⟨by simp [hevents], by simp [hevents], fun P head held => ?_⟩
    rw [hheads, Table.getElem?_empty] at held
    cases held
  · intro st st' t _ _ hgrows _ ih
    refine ⟨?_, ?_, ?_⟩ <;> rw [hgrows.epochEvents, hgrows.heads]
    · exact ih.reserved
    · exact ih.confirmed
    · exact ih.closed
  · intro st call e result reach hwrite ih
    have hw := hwrite.write
    refine ⟨?_, ?_, ?_⟩ <;> rw [hw.epochEvents]
    · intro e' he' hcause
      rw [hw.getElem?_heads]
      rcases List.mem_append.mp he' with he' | he'
      · obtain ⟨head, hheld, hphase, hscheduler⟩ := ih.reserved e' he' hcause
        split
        · next hplan =>
          rw [← hplan] at hheld
          refine ⟨result.2, rfl, ?_⟩
          obtain ⟨move, hstep, hmove, _⟩ := hw.step hheld
          have hopen := hstep.open_phase (reach.headLaw hheld).closed
          have hpending := hphase.resolve_right hopen
          rw [hmove, hw.content]
          cases hstep with
          | transition _ phase => simp [hpending] at phase
          | terminal _ phase => simp [hpending] at phase
          | confirmed _ keeps _ _ phase =>
            exact ⟨.inl (by simp [phase, hpending]), keeps.2.2.2.1.trans hscheduler⟩
          | closed _ _ _ keeps _ closes =>
            exact ⟨.inr closes, keeps.2.2.2.1.trans hscheduler⟩
        · exact ⟨head, hheld, hphase, hscheduler⟩
      · obtain rfl := List.mem_singleton.mp he'
        rw [if_pos rfl]
        refine ⟨result.2, rfl, .inl ?_, by rw [hw.content]⟩
        cases hwrite.guards with
        | opened cause => simp [hcause] at cause
        | confirmed cause => simp [hcause] at cause
        | reserved _ held =>
          obtain ⟨move, hstep, hmove, _⟩ := hw.step held
          rw [hmove]
          cases hstep with
          | transition cause => simp [hcause] at cause
          | confirmed cause => simp [hcause] at cause
          | closed cause => simp [hcause] at cause
          | terminal _ _ _ reserved => exact reserved
    · intro e' he' hcause
      rw [hw.getElem?_heads]
      rcases List.mem_append.mp he' with he' | he'
      · obtain ⟨head, hheld, hphase⟩ := ih.confirmed e' he' hcause
        split
        · next hplan =>
          rw [← hplan] at hheld
          obtain ⟨move, hstep, _⟩ := hw.step hheld
          exact absurd hphase (hstep.open_phase (reach.headLaw hheld).closed)
        · exact ⟨head, hheld, hphase⟩
      · obtain rfl := List.mem_singleton.mp he'
        rw [if_pos rfl]
        refine ⟨result.2, rfl, ?_⟩
        cases hwrite.guards with
        | opened cause => simp [hcause] at cause
        | reserved cause => simp [hcause] at cause
        | confirmed _ held =>
          obtain ⟨move, hstep, hmove, _⟩ := hw.step held
          rw [hmove]
          cases hstep with
          | transition cause => simp [hcause] at cause
          | confirmed cause => simp [hcause] at cause
          | terminal cause => simp [hcause] at cause
          | closed _ _ _ _ _ closes => exact closes
    · intro P head held hphase
      rw [hw.getElem?_heads] at held
      split at held
      · next hplan =>
        cases held
        refine ⟨e, by simp, hplan, ?_⟩
        cases hprior : st.tables.workflowHeads[e.content.planId]? with
        | some prior => exact hw.cause_of_closed hprior (reach.headLaw hprior) hphase
        | none =>
          obtain ⟨move, hmove, _, hhead⟩ := reduceWorkflowEvent_eq_ok hw.reduced
          rw [hprior] at hmove
          rw [hhead, (openEpoch_eq_ok hmove).1] at hphase
          cases hphase
      · obtain ⟨e', he', hplan, hcause⟩ := ih.closed P head held hphase
        exact ⟨e', List.mem_append_left _ he', hplan, hcause⟩

/-- While the terminal of a plan is not confirmed, a run from its reservation is frozen. -/
theorem Steps.frozen (reach : Reachable E st) (he : e ∈ st.epochEvents)
    (cause : e.cause = .terminalReserved) (h : Steps E st s)
    (unconfirmed : ∀ c ∈ s.epochEvents, c.content.planId = e.content.planId →
      c.cause ≠ .terminalConfirmed) :
    Frozen E e.content.planId e.content.scheduler st s ∧
      ∃ head, s.tables.workflowHeads[e.content.planId]? = some head ∧
        head.phase = .terminalReserved ∧ head.content.scheduler = e.content.scheduler := by
  have hpending : ∀ {s : Store}, Reachable E s → e ∈ s.epochEvents →
      (∀ c ∈ s.epochEvents, c.content.planId = e.content.planId → c.cause ≠ .terminalConfirmed) →
      ∃ head, s.tables.workflowHeads[e.content.planId]? = some head ∧
        head.phase = .terminalReserved ∧ head.content.scheduler = e.content.scheduler := by
    intro s hs he hnone
    obtain ⟨head, hheld, hphase, hscheduler⟩ := hs.terminalLaw.reserved e he cause
    refine ⟨head, hheld, hphase.resolve_right fun hclosed => ?_, hscheduler⟩
    obtain ⟨c, hc, hplan, hcause⟩ := hs.terminalLaw.closed _ head hheld hclosed
    exact hnone c hc hplan hcause
  induction h with
  | refl =>
    obtain ⟨head, hheld, hphase, hscheduler⟩ := hpending reach he unconfirmed
    refine ⟨⟨rfl, ⟨[], by simp⟩, ?_⟩, head, hheld, hphase, hscheduler⟩
    rw [← hscheduler]
    exact reach.pinned hheld hphase
  | @tail s s' hsteps hstep ih =>
    have hkept : ∀ c ∈ s.epochEvents, c ∈ s'.epochEvents := by
      intro c hc
      rcases hstep.grows_or_call with ⟨t, hgrows, _⟩ | ⟨call, result, hcall, rfl⟩
      · rwa [hgrows.epochEvents]
      · rcases callWrite_of_call hcall with hsame | ⟨e, hwrite⟩
        · rwa [hsame]
        · rw [hwrite.write.epochEvents]
          exact List.mem_append_left _ hc
    obtain ⟨hfrozen, head, hheld, hphase, hscheduler⟩ :=
      ih fun c hc => unconfirmed c (hkept c hc)
    have hnext := (hstep.frozen (reach.steps hsteps) hheld hphase).1
    rw [hscheduler] at hnext
    have hevent : e ∈ s'.epochEvents := by
      obtain ⟨new, hnew, _⟩ := (hfrozen.trans hnext).events
      rw [hnew]
      exact List.mem_append_left _ he
    exact ⟨hfrozen.trans hnext, hpending (.step (reach.steps hsteps) hstep) hevent unconfirmed⟩

/-- From the reservation of a terminal to its confirmation no scheduler event and no event of
another plan is appended and the scheduler stands at the pinned authority; after the confirmation
the epoch is over; and at most one terminal is pending. -/
theorem terminal_linearization (reach : Reachable E st) :
    (pendingTerminals st.tables.workflowHeads).length ≤ 1 ∧
    (∀ e ∈ st.epochEvents, e.cause = .terminalReserved → ∀ s, Steps E st s →
      (∀ c ∈ s.epochEvents, c.content.planId = e.content.planId → c.cause ≠ .terminalConfirmed) →
      Frozen E e.content.planId e.content.scheduler st s ∧
        ∀ s', Step E s s' → Frozen E e.content.planId e.content.scheduler st s') ∧
    (∀ e ∈ st.epochEvents, e.cause = .terminalConfirmed → ∀ s, Steps E st s →
      ∃ new, s.epochEvents = st.epochEvents ++ new ∧
        ∀ e' ∈ new, e'.content.planId ≠ e.content.planId) := by
  refine ⟨pendingTerminals_length reach.validStore, ?_, ?_⟩
  · intro e he cause s hsteps hunconfirmed
    obtain ⟨hfrozen, head, hheld, hphase, hscheduler⟩ :=
      Steps.frozen reach he cause hsteps hunconfirmed
    refine ⟨hfrozen, fun s' hstep => hfrozen.trans ?_⟩
    have hnext := (hstep.frozen (reach.steps hsteps) hheld hphase).1
    rwa [hscheduler] at hnext
  · intro e he cause s hsteps
    obtain ⟨head, hheld, hphase⟩ := reach.terminalLaw.confirmed e he cause
    exact (Steps.closed reach hheld hphase hsteps).2

/-! ## Sequences of calls -/

/-- Make one call after another. -/
def runCalls (E : Environment) (st : Store) (calls : List WorkflowCall) : Except String Store :=
  foldE (fun st call => Prod.fst <$> call.run E st) st calls

theorem steps_of_runCalls {calls : List WorkflowCall} (h : runCalls E st calls = .ok s) :
    Steps E st s :=
  foldE_invariant (Steps E st)
    (fun _ _ _ _ hsteps hcall => by
      obtain ⟨result, hresult, rfl⟩ := map_eq_ok.mp hcall
      exact hsteps.tail (.workflow hresult))
    .refl h

namespace Sample

/-- The scheduler authority of the new one-task store. -/
def newTriple : SchedulerTriple := ⟨Naming.label 'S' 1, 1, Naming.label 'E' 1⟩

/-- The calls that open an epoch, publish its plan and one transition, and reserve its terminal. -/
def terminalCalls : List WorkflowCall :=
  [.openEpoch "plan" candidate "graph" newTriple "key-1" .plan .integratedPlan ⟨"plan", "a.json"⟩ 0
      none,
    .confirmArtifact "plan" (Naming.label 'F' 1) ⟨"plan", "a.json"⟩ "key-1" 0 none none,
    .reserveTransition "plan" (Naming.label 'F' 2) newTriple none ⟨"event-1", "b.json"⟩
      ⟨"state-1", "c.json"⟩ "key-2" .run 0,
    .confirmArtifact "plan" (Naming.label 'F' 3) ⟨"event-1", "b.json"⟩ "key-2" 0 none none,
    .confirmArtifact "plan" (Naming.label 'F' 4) ⟨"state-1", "c.json"⟩ "key-2" 0 none none,
    .reserveTerminal "plan" (Naming.label 'F' 5) newTriple "state-1" ⟨"event-2", "d.json"⟩
      ⟨"state-2", "e.json"⟩ ⟨"outcome", "f.json"⟩ "key-3" .outcome 0]

/-- A store with a pending terminal. -/
noncomputable def pendingStore : Store :=
  Guard.result (runCalls oneDispatch oneTask terminalCalls) (by decide +kernel)

theorem pendingStore_reachable : Reachable oneDispatch pendingStore :=
  oneTask_reachable.steps (steps_of_runCalls (eq_ok_result _))

end Sample

/-- Every operation on the store with a pending terminal leaves the scheduler where it is. -/
theorem terminal_linearization_pending :
    ∃ e ∈ Sample.pendingStore.epochEvents, e.cause = .terminalReserved ∧
      ∀ s', Step Sample.oneDispatch Sample.pendingStore s' →
        Frozen Sample.oneDispatch e.content.planId e.content.scheduler Sample.pendingStore s' := by
  have hreserved : ∃ e ∈ Sample.pendingStore.epochEvents, e.cause = .terminalReserved := by
    decide +kernel
  have hopen : ∀ c ∈ Sample.pendingStore.epochEvents, c.cause ≠ .terminalConfirmed := by
    decide +kernel
  obtain ⟨e, he, hcause⟩ := hreserved
  refine ⟨e, he, hcause, ?_⟩
  exact ((terminal_linearization Sample.pendingStore_reachable).2.1 e he hcause _ .refl
    fun c hc _ => hopen c hc).2

end Sdaqf
