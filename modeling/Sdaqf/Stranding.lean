import Sdaqf.Finalization

/-!
# Stranded transitions

The reservation of a transition does not stop the scheduler, and its confirmation demands the
authority it was reserved at. So a plan whose transition is reserved can be brought back to the
active phase by calls of its own exactly when no scheduler event was recorded since and no terminal
of another plan is pending. The log only grows: the first tick that records an event strands the
plan for good.
-/

namespace Sdaqf

open Guard Store

variable {E : Environment} {st st' s s' : Store} {P : String} {head : WorkflowEpochHead}
variable {e : WorkflowEpochEvent} {call : WorkflowCall} {result : Store × WorkflowEpochHead}
variable {t : Timestamp}

/-! ## Scheduler operations without an event -/

/-- Every stored message of a valid store is adopted by an event of its log. -/
theorem ValidStore.adopted (hv : ValidStore E st) {m : MailboxMessage}
    (hm : m ∈ st.evidence.messages) :
    ∃ entry ∈ st.log, entry.event.cause.isPrimary = true ∧
      entry.event.messageId = some (E.messageId m) := by
  have hadoption := hv.evidence.adoption
  simp only [validateMessageAdoption, bind_eq_ok, exists_unit, forEach_eq_ok] at hadoption
  obtain ⟨i, hi⟩ := List.mem_iff_getElem?.mp hm
  have hindexed : (m, i) ∈ st.evidence.messages.zipIdx :=
    List.mem_zipIdx_iff_getElem?.mpr hi
  have hjudged := hadoption.2.1 (m, i) hindexed
  simp only [validateAdopted, bind_eq_ok, fromOption_eq_ok] at hjudged
  obtain ⟨adopter, hadopter, _⟩ := hjudged
  have hmem : adopter ∈ primaryEvents st.log (E.messageId m) := by
    unfold primaryEvent? at hadopter
    split at hadopter
    · next only honly =>
      cases hadopter
      exact honly ▸ List.mem_singleton_self adopter
    · cases hadopter
  obtain ⟨hevent, hprimary⟩ := List.mem_filter.mp hmem
  obtain ⟨entry, hentry, rfl⟩ := List.mem_map.mp hevent
  simp only [Bool.and_eq_true, decide_eq_true_eq] at hprimary
  exact ⟨entry, hentry, hprimary.2, hprimary.1⟩

/-- Every event of a valid log that adopts a message finds it in the mailbox. -/
theorem ValidStore.stored (hv : ValidStore E st) {entry : Entry} (hentry : entry ∈ st.log)
    (primary : entry.event.cause.isPrimary = true) {id : String}
    (hid : entry.event.messageId = some id) : id ∈ st.evidence.messages.map E.messageId := by
  have hadoption := hv.evidence.adoption
  simp only [validateMessageAdoption, bind_eq_ok, exists_unit, forEach_eq_ok,
    require_eq_ok] at hadoption
  have hstored := hadoption.1 entry.event (List.mem_map_of_mem hentry) primary
  rw [hid, Option.bind_some] at hstored
  simpa [Evidence.message?] using hstored

/-- A scheduler operation that records no event leaves the store as it is: a message it added would
have no adoption, and the tables are a function of the evidence. -/
theorem Grows.eq_of_log (h : Grows E t st st') (hv : ValidStore E st) (hv' : ValidStore E st')
    (same : st'.log = st.log) : st' = st := by
  obtain ⟨entries, messages, hevidence, _⟩ := h.evidence
  have hnone : entries = [] := by
    have hlog : st'.log = st.log ++ entries := by
      rw [Store.log, hevidence]
      rfl
    rw [same] at hlog
    exact List.append_right_eq_self.mp hlog.symm
  have hmessages : messages = [] := by
    rw [List.eq_nil_iff_forall_not_mem]
    intro m hm
    have hstored : st'.evidence.messages = st.evidence.messages ++ messages := by
      rw [hevidence]
    have hmem : m ∈ st'.evidence.messages := by
      rw [hstored]
      exact List.mem_append_right _ hm
    obtain ⟨entry, hentry, hprimary, hid⟩ := hv'.adopted hmem
    have hold := hv.stored (same ▸ hentry) hprimary hid
    have hnodup := hv'.evidence.ids_nodup
    rw [hstored, List.map_append] at hnodup
    exact (List.nodup_append'.mp hnodup).2.2 hold (List.mem_map_of_mem hm)
  have hsame : st'.evidence = st.evidence := by
    rw [hevidence, hnone, hmessages, List.append_nil, List.append_nil]
  have htables : st'.tables = st.tables := by
    have hrebuild := hv'.rebuild
    rw [hsame, hv.rebuild, Except.ok.injEq] at hrebuild
    exact hrebuild.symm
  cases st
  cases st'
  simp_all

/-! ## The authority of a head -/

/-- No head is ahead of the log, and a head at the end of the log is at the authority the store
stands at. -/
theorem Reachable.authority (h : Reachable E st)
    (held : st.tables.workflowHeads[P]? = some head) :
    head.content.scheduler.eventSequence ≤ st.log.length ∧
      (head.content.scheduler.eventSequence = st.log.length →
        st.schedulerTriple E = .ok head.content.scheduler) := by
  refine h.epoch_induction (fun st => ∀ P head, st.tables.workflowHeads[P]? = some head →
    head.content.scheduler.eventSequence ≤ st.log.length ∧
      (head.content.scheduler.eventSequence = st.log.length →
        st.schedulerTriple E = .ok head.content.scheduler)) ?_ ?_ ?_ P head held
  · intro st _ hheads P head held
    rw [hheads, Table.getElem?_empty] at held
    cases held
  · intro st st' t reach reach' hgrows _ ih P head held
    rw [hgrows.heads] at held
    obtain ⟨hle, hauthority⟩ := ih P head held
    obtain ⟨entries, messages, hevidence, _⟩ := hgrows.evidence
    have hlog : st'.log = st.log ++ entries := by
      rw [Store.log, hevidence]
      rfl
    cases entries with
    | nil =>
      rw [hgrows.eq_of_log reach.validStore reach'.validStore (by simpa using hlog)]
      exact ⟨hle, hauthority⟩
    | cons entry entries =>
      rw [hlog, List.length_append, List.length_cons]
      exact ⟨by omega, fun heq => by omega⟩
  · intro st call e result _ hwrite ih P head held
    rw [hwrite.write.schedulerTriple, hwrite.write.log]
    rw [hwrite.write.getElem?_heads] at held
    split at held
    · cases held
      have hauthority := hwrite.guards.authority
      rw [hwrite.write.content]
      exact ⟨(eventSequence_of_schedulerTriple hauthority).le, fun _ => hauthority⟩
    · exact ih P head held

/-! ## Recovering the active phase -/

/-- Some calls of the plan lead to its active phase, with all its receipts confirmed. -/
def Recoverable (E : Environment) (P : String) (st : Store) : Prop :=
  ∃ calls s head, (∀ call ∈ calls, call.planId = P) ∧ runCalls E st calls = .ok s ∧
    s.tables.workflowHeads[P]? = some head ∧ head.phase = .active ∧
    ∀ item ∈ head.content.receipts, item.status = .confirmed

/-- A reserved transition at the end of the log is confirmed receipt by receipt. -/
theorem recoverable_of_unmoved (h : Reachable E st)
    (held : st.tables.workflowHeads[P]? = some head) (reserved : head.phase = .transitionReserved)
    (unmoved : head.content.scheduler.eventSequence = st.log.length)
    (free : pendingTerminals st.tables.workflowHeads = []) : Recoverable E P st := by
  have hconfirmable : Confirmable E P st head :=
    ⟨h, held, fun Q found hQ hphase => absurd hphase (pendingTerminals_eq_nil.mp free Q found hQ),
      (h.authority held).2 unmoved⟩
  have hcanonical : formatUtc head.content.recordedAt = head.content.recordedAt := by
    obtain ⟨e, he, hcontent⟩ := (h.headLaw held).recorded
    rw [← hcontent]
    exact h.epochLaw.canonical e he
  obtain ⟨s, head', hall, hnext, hconfirmed, _, _, _, hactive⟩ :=
    hconfirmable.confirmAll (List.Perm.refl _) hcanonical le_rfl
  obtain ⟨calls, hplans, hcalls⟩ := calls_of_confirmAll hall
  refine ⟨calls, s, head', hplans, hcalls, hnext.held, hactive (by simp [reserved]) ?_, hconfirmed⟩
  obtain ⟨item, hitem, hstatus⟩ := h.epochLaw.reserved P head held reserved
  exact List.ne_nil_of_mem (mem_reservedReceipts.mpr ⟨hitem, hstatus⟩)

/-- A call of a plan whose transition is reserved writes only at the end of the log, and only while
no terminal is pending. -/
theorem eq_of_call (h : Reachable E st) (held : st.tables.workflowHeads[P]? = some head)
    (reserved : head.phase = .transitionReserved) (plan : call.planId = P)
    (hcall : call.run E st = .ok result) (stranded :
      ¬ (head.content.scheduler.eventSequence = st.log.length ∧
        pendingTerminals st.tables.workflowHeads = [])) : result.1 = st := by
  rcases callWrite_of_call hcall with hsame | ⟨e, hwrite⟩
  · exact hsame
  · refine absurd ?_ stranded
    have hplan : e.content.planId = P := hwrite.plan.trans plan
    cases hwrite.guards with
    | opened _ fresh =>
      rw [hplan, held] at fresh
      cases fresh
    | reserved _ heldPrior phase =>
      rw [hplan, held, Option.some.injEq] at heldPrior
      simp [← heldPrior, reserved] at phase
    | confirmed _ heldPrior scope kept authority =>
      rw [hplan, held, Option.some.injEq] at heldPrior
      rw [kept, ← heldPrior] at authority
      refine ⟨eventSequence_of_schedulerTriple authority, ?_⟩
      rw [pendingTerminals_eq_nil]
      intro Q found hQ hphase
      have hsame := scope found (mem_pendingTerminals.mpr ⟨⟨Q, hQ⟩, hphase⟩)
      rw [(h.headLaw hQ).plan, hplan] at hsame
      rw [hsame, held, Option.some.injEq] at hQ
      simp [← hQ, reserved] at hphase

/-- The calls of a stranded plan change nothing. -/
theorem eq_of_calls {calls : List WorkflowCall} (h : Reachable E st)
    (held : st.tables.workflowHeads[P]? = some head) (reserved : head.phase = .transitionReserved)
    (plans : ∀ call ∈ calls, call.planId = P) (hcalls : runCalls E st calls = .ok s)
    (stranded : ¬ (head.content.scheduler.eventSequence = st.log.length ∧
      pendingTerminals st.tables.workflowHeads = [])) : s = st :=
  foldE_invariant (fun s => s = st)
    (fun b call b' hmem hb hcall => by
      subst hb
      obtain ⟨result, hresult, rfl⟩ := map_eq_ok.mp hcall
      exact eq_of_call h held reserved (plans call hmem) hresult stranded)
    rfl hcalls

theorem not_recoverable (h : Reachable E st) (held : st.tables.workflowHeads[P]? = some head)
    (reserved : head.phase = .transitionReserved)
    (stranded : ¬ (head.content.scheduler.eventSequence = st.log.length ∧
      pendingTerminals st.tables.workflowHeads = [])) : ¬ Recoverable E P st := by
  rintro ⟨calls, s, head', hplans, hcalls, hheld, hactive, _⟩
  rw [eq_of_calls h held reserved hplans hcalls stranded, held, Option.some.injEq] at hheld
  rw [← hheld, reserved] at hactive
  cases hactive

/-! ## Undisturbed runs -/

/-- Some plan waits for the publication of a transition. -/
def TransitionPending (st : Store) : Prop :=
  ∃ (P : String) (head : WorkflowEpochHead), st.tables.workflowHeads[P]? = some head ∧
    head.phase = .transitionReserved

/-- The stores of the runs in which, while a transition is reserved, no scheduler event is recorded
and no terminal is reserved. -/
inductive UndisturbedReachable (E : Environment) : Store → Prop
  | initial {graph : TaskGraph} {now : Timestamp} {ttlSeconds heartbeat : Nat}
      {workflowAuthority : Bool} {st : Store} (valid : graph.Valid)
      (h : initializeStore E graph now ttlSeconds heartbeat workflowAuthority = .ok st) :
      UndisturbedReachable E st
  | scheduler {st st' : Store} (reach : UndisturbedReachable E st) (h : Step E st st')
      (kept : st'.epochEvents = st.epochEvents) (idle : TransitionPending st → st'.log = st.log) :
      UndisturbedReachable E st'
  | workflow {st : Store} {call : WorkflowCall} {result : Store × WorkflowEpochHead}
      (reach : UndisturbedReachable E st) (h : call.run E st = .ok result)
      (calm : TransitionPending st → call.cause ≠ .terminalReserved) :
      UndisturbedReachable E result.1

theorem UndisturbedReachable.reachable (h : UndisturbedReachable E st) : Reachable E st := by
  induction h with
  | initial valid h => exact .initial valid h
  | scheduler _ h _ _ ih => exact .step ih h
  | workflow _ h _ ih => exact .step ih (.workflow h)

/-- In an undisturbed run every reserved transition stands at the end of the log, and no terminal is
pending beside it. -/
theorem UndisturbedReachable.unmoved (h : UndisturbedReachable E st)
    (held : st.tables.workflowHeads[P]? = some head) (reserved : head.phase = .transitionReserved) :
    head.content.scheduler.eventSequence = st.log.length ∧
      pendingTerminals st.tables.workflowHeads = [] := by
  induction h generalizing P head with
  | initial _ h =>
    simp only [initializeStore, bind_eq_ok, exists_unit, pure_eq_ok] at h
    obtain ⟨_, _, rfl⟩ := h
    simp only [seed, initialTables, Table.getElem?_empty] at held
    cases held
  | @scheduler st st' _ h kept idle ih =>
    rcases h.grows_or_call with ⟨t, hgrows, _⟩ | ⟨call, result, hcall, rfl⟩
    · rw [hgrows.heads] at held ⊢
      rw [idle ⟨P, head, held, reserved⟩]
      exact ih held reserved
    · rcases callWrite_of_call hcall with hsame | ⟨e, hwrite⟩
      · rw [hsame] at held ⊢
        exact ih held reserved
      · rw [hwrite.write.epochEvents] at kept
        simp at kept
  | @workflow st call result reach h calm ih =>
    rcases callWrite_of_call h with hsame | ⟨e, hwrite⟩
    · rw [hsame] at held ⊢
      exact ih held reserved
    · have hw := hwrite.write
      have hnext : ∀ found, result.1.tables.workflowHeads[e.content.planId]? = some found →
          found = result.2 := by
        intro found hfound
        rw [hw.getElem?_heads, if_pos rfl] at hfound
        exact (Option.some.inj hfound).symm
      -- Nothing but a terminal reservation makes a terminal pending.
      have hfree : pendingTerminals st.tables.workflowHeads = [] →
          result.2.phase ≠ .terminalReserved →
            pendingTerminals result.1.tables.workflowHeads = [] := by
        intro hpending hphase
        rw [pendingTerminals_eq_nil] at hpending ⊢
        intro Q found hQ
        rw [hw.getElem?_heads] at hQ
        split at hQ
        · cases hQ
          exact hphase
        · exact hpending Q found hQ
      rw [hw.log]
      by_cases hplan : e.content.planId = P
      · rw [hw.getElem?_heads, if_pos hplan] at held
        cases held
        have hsequence := eventSequence_of_schedulerTriple hwrite.guards.authority
        rw [hw.content]
        refine ⟨hsequence, hfree ?_ (by simp [reserved])⟩
        cases hwrite.guards with
        | opened _ _ free => exact free
        | reserved _ _ _ free => exact free
        | @confirmed prior cause heldPrior =>
          obtain ⟨move, hstep, hphase, _⟩ := hw.step heldPrior
          rw [hphase] at reserved
          cases hstep with
          | transition moves => rcases moves with moves | moves <;> simp [moves] at cause
          | terminal moves => simp [moves] at cause
          | closed _ _ _ _ _ moved => simp [moved] at reserved
          | confirmed _ _ _ _ moved =>
            rw [moved] at reserved
            split at reserved
            · cases reserved
            · exact (ih heldPrior reserved).2
      · rw [hw.getElem?_heads, if_neg hplan] at held
        obtain ⟨hsequence, hpending⟩ := ih held reserved
        refine ⟨hsequence, hfree hpending fun hphase => ?_⟩
        have hcause := calm ⟨P, head, held, reserved⟩
        rw [← hwrite.cause] at hcause
        cases hprior : st.tables.workflowHeads[e.content.planId]? with
        | none =>
          obtain ⟨move, hmove, _, hhead⟩ := reduceWorkflowEvent_eq_ok hw.reduced
          rw [hprior] at hmove
          rw [hhead, (openEpoch_eq_ok hmove).1] at hphase
          cases hphase
        | some prior =>
          obtain ⟨move, hstep, hmoved, _⟩ := hw.step hprior
          rw [hmoved] at hphase
          cases hstep with
          | transition _ _ _ moved => simp [moved] at hphase
          | terminal cause => exact hcause cause
          | closed _ _ _ _ _ moved => simp [moved] at hphase
          | confirmed _ _ _ _ moved =>
            rw [moved] at hphase
            split at hphase
            · cases hphase
            · exact pendingTerminals_eq_nil.mp hpending _ prior hprior hphase

/-- A reserved transition can be brought to the active phase exactly when no scheduler event was
recorded since its reservation and no terminal is pending; in an undisturbed run it always can. -/
theorem recoverable_iff :
    (∀ st, Reachable E st → ∀ (P : String) head, st.tables.workflowHeads[P]? = some head →
      head.phase = .transitionReserved →
        (Recoverable E P st ↔ head.content.scheduler.eventSequence = st.log.length ∧
          pendingTerminals st.tables.workflowHeads = [])) ∧
    (∀ st, UndisturbedReachable E st → ∀ (P : String) head,
      st.tables.workflowHeads[P]? = some head → head.phase = .transitionReserved →
        Recoverable E P st) := by
  refine ⟨fun st reach P head held reserved => ⟨fun h => ?_, fun h => ?_⟩, ?_⟩
  · by_contra stranded
    exact not_recoverable reach held reserved stranded h
  · exact recoverable_of_unmoved reach held reserved h.1 h.2
  · intro st reach P head held reserved
    obtain ⟨unmoved, free⟩ := reach.unmoved held reserved
    exact recoverable_of_unmoved reach.reachable held reserved unmoved free

namespace Sample

/-- The store in which the first transition is reserved. -/
noncomputable def reservedStore : Store :=
  Guard.result (runCalls oneDispatch oneTask (terminalCalls.take 3)) (by decide +kernel)

theorem reservedStore_reachable : Reachable oneDispatch reservedStore :=
  oneTask_reachable.steps (steps_of_runCalls (eq_ok_result _))

/-- A tick between the reservation and its confirmation: it dispatches the task. -/
noncomputable def strandingTick : TickResult :=
  Guard.result (tick oneDispatch reservedStore host [] second) (by decide +kernel)

theorem strandingTick_reachable : Reachable oneDispatch strandingTick.store :=
  .step reservedStore_reachable (.tick (by decide +kernel) (by simp) (eq_ok_result _))

end Sample

/-- A tick between the reservation of a transition and its confirmation strands the plan. -/
theorem strandingTick_not_recoverable :
    Reachable Sample.oneDispatch Sample.strandingTick.store ∧
      (∃ head, Sample.strandingTick.store.tables.workflowHeads["plan"]? = some head ∧
        head.phase = .transitionReserved) ∧
      ¬ Recoverable Sample.oneDispatch "plan" Sample.strandingTick.store := by
  have hmoved : ∃ head ∈ Sample.strandingTick.store.tables.workflowHeads["plan"]?,
      head.phase = .transitionReserved ∧
        head.content.scheduler.eventSequence ≠ Sample.strandingTick.store.log.length := by
    decide +kernel
  obtain ⟨head, held, reserved, moved⟩ := hmoved
  refine ⟨Sample.strandingTick_reachable, ⟨head, held, reserved⟩, ?_⟩
  exact not_recoverable Sample.strandingTick_reachable held reserved fun h => moved h.1

/-- Before the tick the plan could still be confirmed. -/
theorem recoverable_reservedStore : Recoverable Sample.oneDispatch "plan" Sample.reservedStore := by
  have hunmoved : ∃ head ∈ Sample.reservedStore.tables.workflowHeads["plan"]?,
      head.phase = .transitionReserved ∧
        head.content.scheduler.eventSequence = Sample.reservedStore.log.length := by
    decide +kernel
  obtain ⟨head, held, reserved, unmoved⟩ := hunmoved
  exact (recoverable_iff.1 _ Sample.reservedStore_reachable "plan" head held reserved).mpr
    ⟨unmoved, by decide +kernel⟩

end Sdaqf
