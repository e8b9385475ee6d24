import Sdaqf.EpochChains
import Sdaqf.LivePolicy

/-!
# What the workflow calls write

A workflow call answers an exact retry and leaves the store as it is, or appends one event to the
epoch of its plan. This file says what such a write looks like and which guards it passed, and what
a scheduler operation does to the workflow rows: nothing.
-/

namespace Sdaqf

open Guard Store

variable {E : Environment} {st st' : Store} {head : WorkflowEpochHead} {e : WorkflowEpochEvent}

/-! ## The scheduler authority of a store -/

namespace Store

variable (E : Environment) (st : Store)

/-- The store with other workflow rows. -/
def withWorkflow (events : Option (List WorkflowEpochEvent)) (heads : Table WorkflowEpochHead) :
    Store where
  evidence := { st.evidence with workflowEvents := events }
  tables := { st.tables with workflowHeads := heads }

/-- The scheduler authority a store stands at. -/
def schedulerTriple : Except String SchedulerTriple := do
  let state ← st.status E
  let last ← fromOption st.log.getLast? "Scheduler database has no event."
  return ⟨E.stateId state, state.eventSequence, E.eventId last.event⟩

@[simp] theorem schedulerTriple_withWorkflow (events : Option (List WorkflowEpochEvent))
    (heads : Table WorkflowEpochHead) :
    (st.withWorkflow events heads).schedulerTriple E = st.schedulerTriple E := rfl

@[simp] theorem log_withWorkflow (events : Option (List WorkflowEpochEvent))
    (heads : Table WorkflowEpochHead) : (st.withWorkflow events heads).log = st.log := rfl

end Store

theorem schedulerTriple_eq_ok {t : SchedulerTriple} : st.schedulerTriple E = .ok t ↔
    ∃ state last, st.status E = .ok state ∧ st.log.getLast? = some last ∧
      t = ⟨E.stateId state, state.eventSequence, E.eventId last.event⟩ := by
  simp only [schedulerTriple, bind_eq_ok, fromOption_eq_ok, pure_eq_ok]
  constructor
  · rintro ⟨state, hstate, last, hlast, rfl⟩
    exact ⟨state, last, hstate, hlast, rfl⟩
  · rintro ⟨state, last, hstate, hlast, rfl⟩
    exact ⟨state, hstate, last, hlast, rfl⟩

/-- The sequence of the authority is the length of the log. -/
theorem eventSequence_of_schedulerTriple {t : SchedulerTriple}
    (h : st.schedulerTriple E = .ok t) : t.eventSequence = st.log.length := by
  obtain ⟨state, last, hstate, _, rfl⟩ := schedulerTriple_eq_ok.mp h
  simp only [status, bind_eq_ok, exists_unit, pure_eq_ok] at hstate
  rw [← hstate.2]
  rfl

/-- A request is bound to the authority the store stands at. -/
theorem requireSchedulerHead_eq_ok {candidate : CandidateIdentity} {graphId : String}
    {t : SchedulerTriple} : requireSchedulerHead E st candidate graphId t = .ok () ↔
      E.graphId st.graph = graphId ∧ st.graph.candidate = candidate ∧
        st.schedulerTriple E = .ok t := by
  simp only [requireSchedulerHead, bind_eq_ok, require_eq_ok, schedulerTriple_eq_ok,
    Option.map_eq_some_iff]
  constructor
  · rintro ⟨state, hstate, hgraph, hcandidate, hid, hsequence, last, hlast, hevent⟩
    exact ⟨hgraph, hcandidate, state, last, hstate, hlast, by rw [hid, hsequence, hevent]⟩
  · rintro ⟨hgraph, hcandidate, state, last, hstate, hlast, rfl⟩
    exact ⟨state, hstate, hgraph, hcandidate, rfl, rfl, last, hlast, rfl⟩

theorem requireUnchangedSchedulerHead_eq_ok :
    st.requireUnchangedSchedulerHead E head = .ok () ↔
      st.schedulerTriple E = .ok head.content.scheduler := by
  simp only [requireUnchangedSchedulerHead, bind_eq_ok, exists_unit, require_eq_ok,
    schedulerTriple_eq_ok, Option.map_eq_some_iff]
  constructor
  · rintro ⟨⟨last, hlast, hevent⟩, state, hstate, hid, hsequence⟩
    exact ⟨state, last, hstate, hlast, by rw [hid, hsequence, hevent]⟩
  · rintro ⟨state, last, hstate, hlast, heq⟩
    rw [heq]
    exact ⟨⟨last, hlast, rfl⟩, state, hstate, rfl, rfl⟩

/-! ## Reading the heads of a valid store -/

theorem ValidStore.replay (hv : ValidStore E st) {events : List WorkflowEpochEvent}
    (h : st.evidence.workflowEvents = some events) :
    replayWorkflowEpochs E events = .ok st.tables.workflowHeads := by
  have hheads := hv.heads
  rw [rebuiltHeads, h] at hheads
  exact hheads

theorem ValidStore.workflowHead_eq_ok (hv : ValidStore E st) {P : String}
    {found : Option WorkflowEpochHead} (h : st.workflowHead E P = .ok found) :
    st.tables.workflowHeads[P]? = found := by
  simp only [workflowHead, bind_eq_ok, fromOption_eq_ok, pure_eq_ok] at h
  obtain ⟨events, hevents, heads, hheads, rfl⟩ := h
  rw [hv.replay hevents, Except.ok.injEq] at hheads
  rw [hheads]

theorem ValidStore.requiredWorkflowHead_eq_ok (hv : ValidStore E st) {P : String}
    (h : st.requiredWorkflowHead E P = .ok head) : st.tables.workflowHeads[P]? = some head := by
  simp only [requiredWorkflowHead, bind_eq_ok, fromOption_eq_ok] at h
  obtain ⟨found, hfound, rfl⟩ := h
  exact hv.workflowHead_eq_ok hfound

theorem ValidStore.pendingHeads_eq_ok (hv : ValidStore E st) {pending : List WorkflowEpochHead}
    (h : st.pendingHeads E = .ok pending) : pendingTerminals st.tables.workflowHeads = pending := by
  simp only [pendingHeads, bind_eq_ok, fromOption_eq_ok, pure_eq_ok] at h
  obtain ⟨events, hevents, heads, hheads, rfl⟩ := h
  rw [hv.replay hevents, Except.ok.injEq] at hheads
  rw [hheads]

theorem mem_pendingTerminals {heads : Table WorkflowEpochHead} :
    head ∈ pendingTerminals heads ↔
      (∃ P : String, heads[P]? = some head) ∧ head.phase = .terminalReserved := by
  simp only [pendingTerminals, List.mem_filter, Table.mem_rows, decide_eq_true_eq]

/-! ## Heads that the reducer leads to -/

/-- What holds of the head of a plan after any accepted chain. -/
structure HeadLaw (events : List WorkflowEpochEvent) (P : String) (head : WorkflowEpochHead) :
    Prop where
  plan : head.content.planId = P
  closed : head.phase = .terminalConfirmed →
    ∀ item ∈ head.content.receipts, item.status = .confirmed
  recorded : ∃ e ∈ events, e.content = head.content

/-- An accepted chain ends with the confirmation of its terminal. -/
theorem EpochStep.open_phase {prior : WorkflowEpochHead} {move : EpochMove}
    (h : EpochStep prior e move) (closed : prior.phase = .terminalConfirmed →
      ∀ item ∈ prior.content.receipts, item.status = .confirmed) :
    prior.phase ≠ .terminalConfirmed := by
  intro hphase
  cases h with
  | transition _ phase => simp [hphase] at phase
  | terminal _ phase => simp [hphase] at phase
  | closed _ phase => simp [hphase] at phase
  | @confirmed item _ _ changed status =>
    have hitem : item ∈ changedReceipts prior.content.receipts e.content.receipts := by
      rw [changed]
      exact List.mem_singleton_self item
    obtain ⟨_, old, hold, hne⟩ := mem_changedReceipts.mp hitem
    have hconfirmed := closed hphase _ (mem_of_statusOf hold)
    exact hne (hconfirmed.trans status.symm)

/-- The first event of an epoch opens it. -/
theorem openEpoch_eq_ok {move : EpochMove} (h : openEpoch e = .ok move) :
    move.phase = .opened ∧ move.terminalAt = none := by
  simp only [openEpoch, bind_eq_ok, exists_unit] at h
  obtain ⟨_, h⟩ := h
  split at h
  · simp only [bind_eq_ok, exists_unit, pure_eq_ok] at h
    obtain ⟨_, rfl⟩ := h
    exact ⟨rfl, rfl⟩
  · simp at h

theorem headLaw_of_reduced {events : List WorkflowEpochEvent} {prior : Option WorkflowEpochHead}
    (hmem : e ∈ events) (hprior : ∀ p, prior = some p → HeadLaw events e.content.planId p)
    (h : reduceWorkflowEvent E.workflowEventId prior e = .ok head) :
    HeadLaw events e.content.planId head := by
  obtain ⟨move, hmove, _, rfl⟩ := reduceWorkflowEvent_eq_ok h
  refine ⟨rfl, fun hphase => ?_, e, hmem, rfl⟩
  cases prior with
  | none =>
    rw [(openEpoch_eq_ok hmove).1] at hphase
    cases hphase
  | some p =>
    obtain ⟨_, _, hstep⟩ := epochStep_of_move hmove
    have hopen := hstep.open_phase (hprior p rfl).closed
    cases hstep with
    | transition _ _ _ reserved => simp [reserved] at hphase
    | terminal _ _ _ reserved => simp [reserved] at hphase
    | closed _ _ _ _ confirmed => exact confirmed
    | confirmed _ _ _ _ phase =>
      rw [phase] at hphase
      split at hphase
      · cases hphase
      · exact absurd hphase hopen

/-- Every head of a replay keeps the law of heads. -/
theorem headLaw_of_replay {events : List WorkflowEpochEvent} {heads : Table WorkflowEpochHead}
    (h : replayWorkflowEpochs E events = .ok heads) {P : String} (hP : heads[P]? = some head) :
    HeadLaw events P head := by
  refine foldE_invariant
    (fun heads : Table WorkflowEpochHead => ∀ (P : String) head, heads[P]? = some head →
      HeadLaw events P head)
    (fun heads indexed heads' hmem hinv hstep => ?_) ?_ h P head hP
  · simp only [replayWorkflowEvent, bind_eq_ok, exists_unit, pure_eq_ok] at hstep
    obtain ⟨_, head', hhead', rfl⟩ := hstep
    have hevent : indexed.1 ∈ events := List.fst_mem_of_mem_zipIdx hmem
    intro P head hP
    rw [Table.getElem?_insert] at hP
    split at hP
    · next hplan =>
      cases hP
      exact hplan ▸ headLaw_of_reduced hevent (fun p hp => hinv _ p hp) hhead'
    · exact hinv P head hP
  · intro P head hP
    rw [Table.getElem?_empty] at hP
    cases hP

theorem ValidStore.headLaw (hv : ValidStore E st) {events : List WorkflowEpochEvent}
    (h : st.evidence.workflowEvents = some events) {P : String}
    (hP : st.tables.workflowHeads[P]? = some head) : HeadLaw events P head :=
  headLaw_of_replay (hv.replay h) hP

/-! ## One written event -/

/-- The event a request appends to the epoch of its plan. -/
def requestedEvent (prior : Option WorkflowEpochHead) (position : Nat) (cause : WorkflowEpochCause)
    (planId : String) (predecessor : Option WorkflowPredecessor) (candidate : CandidateIdentity)
    (graphId : String) (request : WorkflowRequest) (receipts : List WorkflowArtifactReceipt)
    (recordedAt : Timestamp) : WorkflowEpochEvent where
  previousEventId := prior.map (·.currentEventHeadId)
  cause := cause
  content :=
    { sequence := position + 1
      epochSequence := (prior.map (·.content.epochSequence)).getD 0 + 1
      planId := planId
      predecessor :=
        match prior with
        | none => predecessor
        | some prior => prior.content.predecessor
      candidate := candidate
      graphId := graphId
      scheduler := request.scheduler
      idempotencyKey := request.idempotencyKey
      producer := request.producer
      sourceStateId := request.sourceStateId
      heads := workflowArtifactHeads prior request.receipts
      receipts := receipts
      recordedAt := recordedAt }

/-- One event appended to the epoch of its plan, with the head it leads to. -/
structure EpochWrite (E : Environment) (st : Store) (e : WorkflowEpochEvent)
    (head : WorkflowEpochHead) (st' : Store) : Prop where
  store : ∃ events, st.evidence.workflowEvents = some events ∧
    e.content.sequence = events.length + 1 ∧ st' = st.withWorkflow (some (events ++ [e]))
      (st.tables.workflowHeads.insert e.content.planId head)
  contract : epochEventContract E e = .ok ()
  reduced : reduceWorkflowEvent E.workflowEventId st.tables.workflowHeads[e.content.planId]? e =
    .ok head

theorem appendWorkflowEvent_eq_ok (hv : ValidStore E st) {cause : WorkflowEpochCause}
    {planId graphId : String} {predecessor : Option WorkflowPredecessor}
    {candidate : CandidateIdentity} {request : WorkflowRequest} {recordedAt : Timestamp}
    {result : Store × WorkflowEpochHead}
    (h : st.appendWorkflowEvent E cause planId predecessor candidate graphId request recordedAt =
      .ok result) :
    ∃ position, EpochWrite E st
      (requestedEvent st.tables.workflowHeads[planId]? position cause planId predecessor candidate
        graphId request (orderedWorkflowReceipts E request.receipts) recordedAt)
      result.2 result.1 := by
  simp only [appendWorkflowEvent, bind_eq_ok, exists_unit, fromOption_eq_ok, pure_eq_ok] at h
  obtain ⟨events, hevents, prior, hprior, hcontract, head, hhead, rfl⟩ := h
  obtain rfl := hv.workflowHead_eq_ok hprior
  exact ⟨events.length, ⟨events, hevents, rfl, rfl⟩, hcontract, hhead⟩

/-- The guards that a written event passed. -/
inductive EpochGuard (E : Environment) (st : Store) (e : WorkflowEpochEvent) : Prop
  | opened (cause : e.cause = .epochOpened)
      (fresh : st.tables.workflowHeads[e.content.planId]? = none)
      (free : pendingTerminals st.tables.workflowHeads = [])
      (authority : st.schedulerTriple E = .ok e.content.scheduler)
  | reserved {prior : WorkflowEpochHead}
      (cause : e.cause = .transitionReserved ∨ e.cause = .terminalReserved)
      (held : st.tables.workflowHeads[e.content.planId]? = some prior)
      (phase : prior.phase = .opened ∨ prior.phase = .active)
      (free : pendingTerminals st.tables.workflowHeads = [])
      (authority : st.schedulerTriple E = .ok e.content.scheduler)
  | confirmed {prior : WorkflowEpochHead}
      (cause : e.cause = .artifactPublicationConfirmed ∨ e.cause = .terminalConfirmed)
      (held : st.tables.workflowHeads[e.content.planId]? = some prior)
      (scope : ∀ head ∈ pendingTerminals st.tables.workflowHeads,
        head.content.planId = e.content.planId)
      (kept : e.content.scheduler = prior.content.scheduler)
      (authority : st.schedulerTriple E = .ok e.content.scheduler)

/-- The instant a call records. -/
def WorkflowCall.recordedAt : WorkflowCall → Timestamp
  | .openEpoch _ _ _ _ _ _ _ _ recordedAt _ => recordedAt
  | .reserveTransition _ _ _ _ _ _ _ _ recordedAt => recordedAt
  | .reserveTerminal _ _ _ _ _ _ _ _ _ recordedAt => recordedAt
  | .confirmArtifact _ _ _ _ recordedAt _ _ => recordedAt
  | .confirmTerminal _ _ _ recordedAt _ => recordedAt

/-- The cause of the event a call writes. -/
def WorkflowCall.cause : WorkflowCall → WorkflowEpochCause
  | .openEpoch .. => .epochOpened
  | .reserveTransition .. => .transitionReserved
  | .reserveTerminal .. => .terminalReserved
  | .confirmArtifact .. => .artifactPublicationConfirmed
  | .confirmTerminal .. => .terminalConfirmed

/-- A call wrote one event, behind its guards. -/
structure CallWrite (E : Environment) (st : Store) (call : WorkflowCall) (e : WorkflowEpochEvent)
    (result : Store × WorkflowEpochHead) : Prop where
  write : EpochWrite E st e result.2 result.1
  guards : EpochGuard E st e
  plan : e.content.planId = call.planId
  cause : e.cause = call.cause
  time : e.content.recordedAt = formatUtc call.recordedAt

theorem callWrite_confirmed (hv : ValidStore E st) {call : WorkflowCall}
    {result : Store × WorkflowEpochHead} {cause : WorkflowEpochCause} {request : WorkflowRequest}
    {prior : WorkflowEpochHead} {events : List WorkflowEpochEvent}
    (version : st.evidence.workflowEvents = some events)
    (cause_eq : cause = .artifactPublicationConfirmed ∨ cause = .terminalConfirmed)
    (call_cause : cause = call.cause)
    (held : st.tables.workflowHeads[call.planId]? = some prior)
    (scope : st.requirePendingTerminalScope E call.planId = .ok ())
    (unchanged : st.requireUnchangedSchedulerHead E prior = .ok ())
    (same : request.scheduler = prior.content.scheduler)
    (h : st.appendWorkflowEvent E cause prior.content.planId none prior.content.candidate
      prior.content.graphId request (formatUtc call.recordedAt) = .ok result) :
    ∃ e, CallWrite E st call e result := by
  obtain ⟨position, hwrite⟩ := appendWorkflowEvent_eq_ok hv h
  have hplan := (hv.headLaw version held).plan
  refine ⟨_, hwrite, .confirmed cause_eq (hplan.symm ▸ held) ?_ same ?_, hplan, call_cause, rfl⟩
  · simp only [requirePendingTerminalScope, bind_eq_ok, require_eq_ok] at scope
    obtain ⟨pending, hpending, hscope⟩ := scope
    rw [hv.pendingHeads_eq_ok hpending]
    rcases hscope with rfl | ⟨_, hscope⟩
    · simp
    · exact fun head hhead => (hscope head hhead).trans hplan.symm
  · exact (requireUnchangedSchedulerHead_eq_ok.mp unchanged).trans (congrArg Except.ok same.symm)

theorem callWrite_reserved {call : WorkflowCall} {cause : WorkflowEpochCause}
    {expectedHeadId : String} {request : WorkflowRequest} {recordedAt : Timestamp}
    {result : Store × WorkflowEpochHead}
    (cause_eq : cause = .transitionReserved ∨ cause = .terminalReserved)
    (call_cause : cause = call.cause) (time : call.recordedAt = recordedAt)
    (h : reserveWorkflowChange E st cause call.planId expectedHeadId request recordedAt =
      .ok result) :
    result.1 = st ∨ ∃ e, CallWrite E st call e result := by
  subst time
  have htransacted := workflowTransaction_eq_ok h
  have hv := validStore_of_ok htransacted.valid
  obtain ⟨events, version⟩ := Option.isSome_iff_exists.mp htransacted.version
  have hbody := htransacted.body
  simp only [bind_eq_ok, exists_unit, require_eq_ok] at hbody
  obtain ⟨pending, hpending, hscope, prior, hprior, hbody⟩ := hbody
  have hpending := hv.pendingHeads_eq_ok hpending
  have held := hv.requiredWorkflowHead_eq_ok hprior
  split at hbody
  · cases hbody
    exact .inl rfl
  · simp only [bind_eq_ok, exists_unit, require_eq_ok, requireSchedulerHead_eq_ok] at hbody
    obtain ⟨hphase, _, ⟨_, _, hauthority⟩, merged, _, hbody⟩ := hbody
    obtain ⟨position, hwrite⟩ := appendWorkflowEvent_eq_ok hv hbody
    have hplan := (hv.headLaw version held).plan
    refine .inr ⟨_, hwrite, .reserved cause_eq (hplan.symm ▸ held) hphase ?_ hauthority, hplan,
      call_cause, rfl⟩
    rw [hpending]
    rcases hscope with rfl | ⟨hlength, _, hscope⟩
    · rfl
    · obtain ⟨only, honly⟩ := List.length_eq_one_iff.mp hlength
      rw [honly] at hpending hscope
      have hmem : only ∈ pendingTerminals st.tables.workflowHeads := by simp [hpending]
      obtain ⟨⟨P, hP⟩, hreserved⟩ := mem_pendingTerminals.mp hmem
      have hsame : P = call.planId :=
        (hv.headLaw version hP).plan.symm.trans (hscope only (by simp))
      rw [hsame, held, Option.some.injEq] at hP
      rw [← hP] at hreserved
      simp [hreserved] at hphase

/-- A call leaves the store as it is, or writes one event behind its guards. -/
theorem callWrite_of_call {call : WorkflowCall} {result : Store × WorkflowEpochHead}
    (h : call.run E st = .ok result) : result.1 = st ∨ ∃ e, CallWrite E st call e result := by
  cases call with
  | openEpoch planId candidate graphId scheduler key producer artifactType artifact recordedAt
      predecessor =>
    have htransacted := workflowTransaction_eq_ok h
    have hv := validStore_of_ok htransacted.valid
    have hbody := htransacted.body
    simp only [bind_eq_ok] at hbody
    obtain ⟨found, hfound, hbody⟩ := hbody
    cases found with
    | some head =>
      simp only [bind_eq_ok, exists_unit, pure_eq_ok] at hbody
      obtain ⟨_, rfl⟩ := hbody
      exact .inl rfl
    | none =>
      simp only [bind_eq_ok, exists_unit, requireSchedulerHead_eq_ok] at hbody
      obtain ⟨⟨_, _, hauthority⟩, hbody⟩ := hbody
      obtain ⟨position, hwrite⟩ := appendWorkflowEvent_eq_ok hv hbody
      have hpending := htransacted.pending.resolve_left (by simp)
      exact .inr ⟨_, hwrite, .opened rfl (hv.workflowHead_eq_ok hfound) hpending hauthority, rfl,
        rfl, rfl⟩
  | reserveTransition => exact callWrite_reserved (.inl rfl) rfl rfl h
  | reserveTerminal => exact callWrite_reserved (.inr rfl) rfl rfl h
  | confirmArtifact planId expectedHeadId artifact key recordedAt artifactType producer =>
    have htransacted := workflowTransaction_eq_ok h
    have hv := validStore_of_ok htransacted.valid
    obtain ⟨events, version⟩ := Option.isSome_iff_exists.mp htransacted.version
    have hbody := htransacted.body
    simp only [bind_eq_ok, exists_unit, require_eq_ok, fromOption_eq_ok] at hbody
    obtain ⟨prior, hprior, hscope, found, _, _, hbody⟩ := hbody
    split at hbody
    · cases hbody
      exact .inl rfl
    · simp only [bind_eq_ok, exists_unit, require_eq_ok] at hbody
      obtain ⟨_, hunchanged, hbody⟩ := hbody
      exact .inr (callWrite_confirmed hv version (.inl rfl) rfl (hv.requiredWorkflowHead_eq_ok
        hprior) hscope hunchanged rfl hbody)
  | confirmTerminal planId expectedHeadId key recordedAt producer =>
    have htransacted := workflowTransaction_eq_ok h
    have hv := validStore_of_ok htransacted.valid
    obtain ⟨events, version⟩ := Option.isSome_iff_exists.mp htransacted.version
    have hbody := htransacted.body
    simp only [bind_eq_ok, exists_unit] at hbody
    obtain ⟨prior, hprior, hscope, hbody⟩ := hbody
    split at hbody
    · simp only [bind_eq_ok, exists_unit, require_eq_ok, pure_eq_ok] at hbody
      obtain ⟨_, rfl⟩ := hbody
      exact .inl rfl
    · simp only [bind_eq_ok, exists_unit, require_eq_ok] at hbody
      obtain ⟨_, hunchanged, hbody⟩ := hbody
      exact .inr (callWrite_confirmed hv version (.inr rfl) rfl (hv.requiredWorkflowHead_eq_ok
        hprior) hscope hunchanged rfl hbody)

/-! ## Scheduler operations -/

/-- A committed operation is a scheduler operation, which finds no pending terminal and writes as
the live policy does, or a workflow call. -/
theorem Step.writes_or_call (h : Step E st st') :
    (∃ t, Writes E t st st' ∧ pendingTerminals st.tables.workflowHeads = []) ∨
      ∃ call result, WorkflowCall.run E st call = .ok result ∧ result.1 = st' := by
  cases h with
  | @tick hostId messages now result _ _ h =>
    simp only [Sdaqf.tick, commit, beginTransaction, bind_eq_ok, exists_unit, require_eq_ok,
      pure_eq_ok] at h
    obtain ⟨⟨_, hpending⟩, result, hbody, _, _, rfl⟩ := h
    exact .inl ⟨_, writes_tickBody hbody, hpending⟩
  | cancelFirst _ h =>
    simp only [Sdaqf.cancelFirst, commit, beginTransaction, bind_eq_ok, exists_unit, require_eq_ok,
      pure_eq_ok] at h
    obtain ⟨_, _, ⟨_, hpending⟩, result, hbody, _, _, rfl⟩ := h
    exact .inl ⟨_, writes_cancelPrelude hbody, hpending⟩
  | cancelSecond _ h =>
    simp only [Sdaqf.cancelSecond, commit, beginTransaction, bind_eq_ok, exists_unit, require_eq_ok,
      pure_eq_ok] at h
    obtain ⟨⟨_, hpending⟩, result, hbody, _, _, rfl⟩ := h
    exact .inl ⟨_, writes_cancelBody hbody, hpending⟩
  | @workflow call result h => exact .inr ⟨call, result, h, rfl⟩

theorem Step.grows_or_call (h : Step E st st') :
    (∃ t, Grows E t st st' ∧ pendingTerminals st.tables.workflowHeads = []) ∨
      ∃ call result, WorkflowCall.run E st call = .ok result ∧ result.1 = st' :=
  h.writes_or_call.imp (fun ⟨t, hwrites, hpending⟩ => ⟨t, hwrites.grows, hpending⟩) id

/-- A property of the store apart from its workflow rows that a new store has and that the writes of
the live policy keep holds of every reachable store. -/
theorem Reachable.write_induction (inv : Store → Prop)
    (new : ∀ (graph : TaskGraph) (t : Timestamp) (ttlSeconds heartbeat : Nat)
      (workflowAuthority : Bool), graph.Valid →
        inv (seed E graph t ttlSeconds heartbeat workflowAuthority))
    (writes : ∀ st st' t, Reachable E st → Writes E t st st' → inv st → inv st')
    (workflow : ∀ (st : Store) events heads, inv st → inv (st.withWorkflow events heads))
    (h : Reachable E st) : inv st := by
  induction h with
  | @initial graph now ttlSeconds heartbeat workflowAuthority st valid h =>
    simp only [initializeStore, bind_eq_ok, exists_unit, pure_eq_ok] at h
    obtain ⟨_, _, rfl⟩ := h
    exact new graph _ ttlSeconds heartbeat workflowAuthority valid
  | @step st st' reach hstep ih =>
    rcases hstep.writes_or_call with ⟨t, hwrites, _⟩ | ⟨call, result, hcall, rfl⟩
    · exact writes st st' t reach hwrites ih
    · rcases callWrite_of_call hcall with hsame | ⟨e, hwrite⟩
      · rwa [hsame]
      · obtain ⟨events, _, _, hstore⟩ := hwrite.write.store
        rw [hstore]
        exact workflow st _ _ ih

end Sdaqf
