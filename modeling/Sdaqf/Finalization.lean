import Sdaqf.Confirmations

/-!
# Finishing a publication

A plan is confirmable when nothing moved the scheduler since its reservation and no other plan waits
for its terminal. Then its reserved receipts can be confirmed one by one, in any order. A pending
terminal is always confirmable, and it can be finished exactly when its epoch did not go past the
instant of its reservation. A reserved transition is confirmable exactly when no scheduler event was
recorded since its reservation and no terminal is pending.
-/

namespace Sdaqf

open Guard Store

variable {E : Environment} {st st' s s' : Store} {P : String} {head head' : WorkflowEpochHead}
variable {e : WorkflowEpochEvent} {call : WorkflowCall} {result : Store × WorkflowEpochHead}
variable {t : Timestamp}

/-! ## Confirmable plans -/

/-- The plan may go on confirming its receipts. -/
structure Confirmable (E : Environment) (P : String) (st : Store) (head : WorkflowEpochHead) :
    Prop where
  reach : Reachable E st
  held : st.tables.workflowHeads[P]? = some head
  scope : ∀ (Q : String) found, st.tables.workflowHeads[Q]? = some found →
    found.phase = .terminalReserved → Q = P
  authority : st.schedulerTriple E = .ok head.content.scheduler

namespace Confirmable

variable (h : Confirmable E P st head)
include h

theorem plan : head.content.planId = P := (h.reach.headLaw h.held).plan

theorem version : st.evidence.workflowEvents = some st.epochEvents := by
  obtain ⟨e, he, _⟩ := (h.reach.headLaw h.held).recorded
  cases hversion : st.evidence.workflowEvents with
  | none => simp [Store.epochEvents, hversion] at he
  | some events => simp [Store.epochEvents, hversion]

theorem receipts : head.content.receipts.Pairwise (receiptLe E) ∧
    UniquePaths head.content.receipts := by
  obtain ⟨e, he, hcontent⟩ := (h.reach.headLaw h.held).recorded
  rw [← hcontent]
  exact receipts_of_contract (h.reach.epochLaw.contract e he)

theorem workflowHead : st.workflowHead E P = .ok (some head) := by
  simp [Store.workflowHead, h.version, fromOption, h.reach.validStore.replay h.version, h.held]

theorem requiredWorkflowHead : st.requiredWorkflowHead E P = .ok head := by
  simp [Store.requiredWorkflowHead, h.workflowHead]

theorem pendingScope : st.requirePendingTerminalScope E P = .ok () := by
  have hpending : st.pendingHeads E = .ok (pendingTerminals st.tables.workflowHeads) := by
    simp [Store.pendingHeads, h.version, fromOption, h.reach.validStore.replay h.version]
  simp only [requirePendingTerminalScope, hpending, bind_eq_ok, Except.ok.injEq, exists_eq_left',
    require_eq_ok]
  have hlength := pendingTerminals_length h.reach.validStore
  cases hpendings : pendingTerminals st.tables.workflowHeads with
  | nil => exact .inl rfl
  | cons found rest =>
    rw [hpendings, List.length_cons] at hlength
    refine .inr ⟨by rw [List.length_cons]; omega, fun head' hmem => ?_⟩
    obtain ⟨⟨Q, hQ⟩, hphase⟩ := mem_pendingTerminals.mp (hpendings ▸ hmem)
    rw [(h.reach.headLaw hQ).plan]
    exact h.scope Q head' hQ hphase

theorem unchanged : st.requireUnchangedSchedulerHead E head = .ok () :=
  requireUnchangedSchedulerHead_eq_ok.mpr h.authority

/-- A transaction whose body leaves a valid store commits. -/
theorem transaction {body : Except String (Store × WorkflowEpochHead)} (hbody : body = .ok result)
    (valid : result.1.validate E = .ok ()) :
    st.workflowTransaction E true body = .ok result := by
  simp only [workflowTransaction, bind_eq_ok, exists_unit, require_eq_ok, pure_eq_ok, h.version,
    Option.isSome_some]
  exact ⟨trivial, h.reach.validate, .inl trivial, result, hbody, valid, rfl⟩

/-- What the validator says about the workflow events. -/
theorem workflow : (∀ found ∈ st.tables.workflowHeads.rows,
      found.content.graphId = E.graphId st.evidence.graph ∧
        found.content.candidate = st.evidence.graph.candidate) ∧
    (∀ e ∈ st.epochEvents, validateSchedulerTriple E st.evidence e.content.scheduler = .ok ()) ∧
    validatePending E st.evidence st.tables.workflowHeads = .ok () := by
  have hworkflow := h.reach.validStore.evidence.workflow st.epochEvents h.version
  simp only [validateWorkflowEpochEvidence, h.reach.validStore.replay h.version, bind_eq_ok,
    exists_unit, require_eq_ok, forEach_eq_ok, Except.ok.injEq, exists_eq_left'] at hworkflow
  exact hworkflow

/-- A new head of the plan at the same authority pins it as the head before it did. -/
theorem pending_next {next : WorkflowEpochHead}
    (same : next.content.scheduler = head.content.scheduler)
    (kept : next.phase = .terminalReserved → head.phase = .terminalReserved) :
    validatePending E st.evidence (st.tables.workflowHeads.insert head.content.planId next) =
      .ok () := by
  have hpending := h.workflow.2.2
  have hheads : ∀ Q : String, (st.tables.workflowHeads.insert head.content.planId next)[Q]? =
      if P = Q then some next else st.tables.workflowHeads[Q]? := by
    intro Q
    rw [Table.getElem?_insert, h.plan]
  have honly : ∀ (Q : String) found,
      (st.tables.workflowHeads.insert head.content.planId next)[Q]? = some found →
        found.phase = .terminalReserved → Q = P := by
    intro Q found hQ hphase
    rw [hheads] at hQ
    split at hQ
    · next heq => exact heq.symm
    · exact h.scope Q found hQ hphase
  have hheld : (st.tables.workflowHeads.insert head.content.planId next)[P]? = some next := by
    rw [hheads, if_pos rfl]
  by_cases hphase : next.phase = .terminalReserved
  · rw [validatePending, pendingTerminals_eq_singleton h.held (kept hphase) h.scope] at hpending
    rw [validatePending, pendingTerminals_eq_singleton hheld hphase honly]
    dsimp only at hpending ⊢
    rw [same]
    exact hpending
  · have hnone :
        pendingTerminals (st.tables.workflowHeads.insert head.content.planId next) = [] := by
      rw [pendingTerminals_eq_nil]
      intro Q found hQ hreserved
      rw [honly Q found hQ hreserved, hheld, Option.some.injEq] at hQ
      exact hphase (hQ ▸ hreserved)
    rw [validatePending, hnone]

/-- A confirmation that the reducer accepts is appended, and leaves a valid store. -/
theorem append {cause : WorkflowEpochCause} {receipts : List WorkflowArtifactReceipt}
    {move : EpochMove} (keys : receipts.map (·.key) = head.content.receipts.map (·.key))
    (ordered : orderedWorkflowReceipts E receipts = receipts)
    (accepted : epochMove (some head)
      (confirmationEvent head st.epochEvents.length cause receipts t) = .ok move)
    (heads : move.heads = head.content.heads)
    (kept : move.phase = .terminalReserved → head.phase = .terminalReserved) :
    ∃ result, st.appendWorkflowEvent E cause head.content.planId none head.content.candidate
        head.content.graphId (head.request receipts) t = .ok result ∧
      result.1.validate E = .ok () ∧
      EpochWrite E st (confirmationEvent head st.epochEvents.length cause receipts t) result.2
        result.1 ∧
      result.2.phase = move.phase ∧ result.2.terminalAt = move.terminalAt := by
  obtain ⟨e₀, he₀, hcontent⟩ := (h.reach.headLaw h.held).recorded
  have hcontract : epochEventContract E
      (confirmationEvent head st.epochEvents.length cause receipts t) = .ok () :=
    contract_confirmationEvent (h.reach.epochLaw.contract e₀ he₀) hcontent
      (h.reach.epochLaw.numbered P head h.held) keys
  have hreduced : reduceWorkflowEvent E.workflowEventId (some head)
      (confirmationEvent head st.epochEvents.length cause receipts t) =
        .ok ⟨E.workflowEventId (confirmationEvent head st.epochEvents.length cause receipts t),
          move.phase, (confirmationEvent head st.epochEvents.length cause receipts t).content,
          move.terminalAt⟩ := by
    simp only [reduceWorkflowEvent, accepted, bind_eq_ok, Except.ok.injEq, exists_eq_left',
      exists_unit, require_eq_ok, pure_eq_ok, and_true]
    rw [heads_confirmationEvent keys, heads]
  obtain ⟨next, hnext⟩ : ∃ next : WorkflowEpochHead, next =
      ⟨E.workflowEventId (confirmationEvent head st.epochEvents.length cause receipts t),
        move.phase, (confirmationEvent head st.epochEvents.length cause receipts t).content,
        move.terminalAt⟩ := ⟨_, rfl⟩
  rw [← hnext] at hreduced
  have hheld : st.tables.workflowHeads[(confirmationEvent head st.epochEvents.length cause receipts
      t).content.planId]? = some head := by
    have : (confirmationEvent head st.epochEvents.length cause receipts t).content.planId = P :=
      h.plan
    rw [this, h.held]
  have hwrite : EpochWrite E st (confirmationEvent head st.epochEvents.length cause receipts t) next
      (st.withWorkflow (some (st.epochEvents ++
          [confirmationEvent head st.epochEvents.length cause receipts t]))
        (st.tables.workflowHeads.insert head.content.planId next)) :=
    ⟨⟨st.epochEvents, h.version, rfl, rfl⟩, hcontract, by rw [hheld, hreduced]⟩
  refine ⟨(_, next), ?_, hwrite.validate h.reach.validate ?_ ?_ ?_, hwrite, by rw [hnext],
    by rw [hnext]⟩
  · simp only [appendWorkflowEvent, h.version, fromOption, bind_eq_ok, exists_unit,
      Except.ok.injEq, exists_eq_left', h.plan, h.workflowHead, pure_eq_ok]
    have hevent : confirmationEvent head st.epochEvents.length cause receipts t =
        requestedEvent (some head) st.epochEvents.length cause P none head.content.candidate
          head.content.graphId (head.request receipts)
          (orderedWorkflowReceipts E (head.request receipts).receipts) t := by
      rw [confirmationEvent, h.plan]
      exact congrArg (fun r => requestedEvent (some head) st.epochEvents.length cause P none
        head.content.candidate head.content.graphId (head.request receipts) r t) ordered.symm
    rw [hevent] at hcontract hreduced ⊢
    exact ⟨hcontract, next, hreduced, rfl⟩
  · exact h.workflow.1 head (Table.mem_rows.mpr ⟨P, h.held⟩)
  · have := h.workflow.2.1 e₀ he₀
    rw [hcontent] at this
    exact this
  · exact h.pending_next (by rw [hnext]; rfl) fun hphase => kept (by rw [← hphase, hnext])

/-- The plan is still confirmable after one of its confirmations. -/
theorem next (hstep : Step E st st') {cause : WorkflowEpochCause}
    {receipts : List WorkflowArtifactReceipt}
    (write : EpochWrite E st (confirmationEvent head st.epochEvents.length cause receipts t) head'
      st') : Confirmable E P st' head' := by
  have hplan : (confirmationEvent head st.epochEvents.length cause receipts t).content.planId = P :=
    h.plan
  refine ⟨.step h.reach hstep, ?_, fun Q found hQ hphase => ?_, ?_⟩
  · rw [write.getElem?_heads, if_pos hplan]
  · rw [write.getElem?_heads, hplan] at hQ
    split at hQ
    · next heq => exact heq.symm
    · exact h.scope Q found hQ hphase
  · rw [write.schedulerTriple, write.content]
    exact h.authority

/-- A reserved receipt of the plan can be confirmed. -/
theorem confirmArtifact {item : WorkflowArtifactReceipt} (hitem : item ∈ head.content.receipts)
    (reserved : item.status = .reserved) (later : head.content.recordedAt ≤ formatUtc t) :
    ∃ result, confirmWorkflowArtifact E st P head.currentEventHeadId item.artifact
        head.content.idempotencyKey t none none = .ok result ∧
      Confirmable E P result.1 result.2 ∧
      result.2.content.receipts = confirmReceipt item.artifact head.content.receipts ∧
      result.2.content.recordedAt = formatUtc t ∧ result.2.terminalAt = head.terminalAt ∧
      result.2.phase = if head.phase ≠ .terminalReserved ∧
        ∀ a ∈ confirmReceipt item.artifact head.content.receipts, a.status = .confirmed then .active
        else head.phase := by
  obtain ⟨hsorted, hpaths⟩ := h.receipts
  have hkeys : (confirmReceipt item.artifact head.content.receipts).map (·.key) =
      head.content.receipts.map (·.key) := map_key_confirmReceipt
  have hordered : orderedWorkflowReceipts E (confirmReceipt item.artifact head.content.receipts) =
      confirmReceipt item.artifact head.content.receipts :=
    orderedWorkflowReceipts_confirmReceipt hsorted
  have haccepted : epochMove (some head) (confirmationEvent head st.epochEvents.length
      .artifactPublicationConfirmed (confirmReceipt item.artifact head.content.receipts)
      (formatUtc t)) = .ok ⟨if head.phase ≠ .terminalReserved ∧
        ∀ a ∈ confirmReceipt item.artifact head.content.receipts, a.status = .confirmed then .active
        else head.phase, head.content.heads, head.terminalAt⟩ := by
    have hcontinues : continuesEpoch head (confirmationEvent head st.epochEvents.length
        .artifactPublicationConfirmed (confirmReceipt item.artifact head.content.receipts)
        (formatUtc t)) := ⟨rfl, rfl, rfl, rfl, rfl, rfl, later⟩
    have hchanged : changedReceipts head.content.receipts (confirmationEvent head
        st.epochEvents.length .artifactPublicationConfirmed
        (confirmReceipt item.artifact head.content.receipts) (formatUtc t)).content.receipts =
        [{ item with status := .confirmed }] :=
      changedReceipts_confirmReceipt hpaths hitem reserved
    simp only [epochMove, bind_eq_ok, exists_unit, require_eq_ok]
    refine ⟨hcontinues, keepsReceipts_of_keys hkeys, ?_⟩
    show Sdaqf.confirmArtifact head _ = _
    simp only [Sdaqf.confirmArtifact, hchanged, bind_eq_ok, exists_unit, require_eq_ok, pure_eq_ok,
      true_and]
    exact ⟨keepsReservation_confirmationEvent hkeys, rfl⟩
  obtain ⟨result, happend, hvalid, hwrite, hphase, hterminal⟩ :=
    h.append hkeys hordered haccepted rfl fun hphase => by
      dsimp only at hphase
      split at hphase
      · cases hphase
      · exact hphase
  have hfound : (head.content.receipts.find? fun a =>
      decide (a.key.artifactId = item.artifact.artifactId ∧ a.key.path = item.artifact.path)) =
      some item := by
    cases hfind : head.content.receipts.find? fun a =>
        decide (a.key.artifactId = item.artifact.artifactId ∧ a.key.path = item.artifact.path) with
    | none => simpa [WorkflowArtifactReceipt.artifact] using List.find?_eq_none.mp hfind item hitem
    | some found =>
      have hmatch := List.find?_some hfind
      simp only [decide_eq_true_eq] at hmatch
      rw [hpaths.eq_of_path (List.mem_of_find?_eq_some hfind) hitem hmatch.2]
  have hcall : confirmWorkflowArtifact E st P head.currentEventHeadId item.artifact
      head.content.idempotencyKey t none none = .ok result := by
    refine h.transaction ?_ hvalid
    simp only [h.requiredWorkflowHead, h.pendingScope, hfound, fromOption, bind_eq_ok, exists_unit,
      Except.ok.injEq, exists_eq_left', require_eq_ok, reserved]
    refine ⟨trivial, by simp, ?_⟩
    rw [if_neg (by simp)]
    simp only [bind_eq_ok, exists_unit, require_eq_ok, h.unchanged, hordered, true_and]
    exact happend
  have hstep : Step E st result.1 := @Step.workflow E st (.confirmArtifact P
    head.currentEventHeadId item.artifact head.content.idempotencyKey t none none) result hcall
  refine ⟨result, hcall, h.next hstep hwrite, ?_, ?_, hterminal, hphase⟩
  · rw [hwrite.content]
    rfl
  · rw [hwrite.content]
    rfl

/-- A pending terminal whose artifacts are all confirmed can be confirmed at its instant. -/
theorem confirmTerminal (reserved : head.phase = .terminalReserved)
    (terminal : head.terminalAt = some t) (canonical : formatUtc t = t)
    (later : head.content.recordedAt ≤ t)
    (confirmed : ∀ item ∈ head.content.receipts, item.status = .confirmed) :
    ∃ result, confirmWorkflowTerminal E st P head.currentEventHeadId head.content.idempotencyKey t
        none = .ok result ∧ result.1.tables.workflowHeads[P]? = some result.2 ∧
      result.2.phase = .terminalConfirmed := by
  have hordered : orderedWorkflowReceipts E head.content.receipts = head.content.receipts :=
    List.Pairwise.insertionSort_eq h.receipts.1
  have haccepted : epochMove (some head) (confirmationEvent head st.epochEvents.length
      .terminalConfirmed head.content.receipts t) =
      .ok ⟨.terminalConfirmed, head.content.heads, head.terminalAt⟩ := by
    have hcontinues : continuesEpoch head (confirmationEvent head st.epochEvents.length
        .terminalConfirmed head.content.receipts t) := ⟨rfl, rfl, rfl, rfl, rfl, rfl, later⟩
    simp only [epochMove, bind_eq_ok, exists_unit, require_eq_ok]
    refine ⟨hcontinues, keepsReceipts_of_keys rfl, ?_⟩
    show Sdaqf.confirmTerminal head _ = _
    simp only [Sdaqf.confirmTerminal, bind_eq_ok, exists_unit, require_eq_ok, pure_eq_ok, and_true]
    exact ⟨reserved, terminal.symm, keepsReservation_confirmationEvent rfl, confirmed⟩
  obtain ⟨result, happend, hvalid, hwrite, hphase, _⟩ :=
    h.append rfl hordered haccepted rfl fun hphase => by cases hphase
  have hcall : confirmWorkflowTerminal E st P head.currentEventHeadId head.content.idempotencyKey t
      none = .ok result := by
    refine h.transaction ?_ hvalid
    simp only [h.requiredWorkflowHead, h.pendingScope, bind_eq_ok, exists_unit, Except.ok.injEq,
      exists_eq_left', canonical, true_and]
    rw [if_neg (by simp [reserved])]
    simp only [bind_eq_ok, exists_unit, require_eq_ok, h.unchanged, true_and]
    exact ⟨⟨reserved, terminal, by simp, confirmed⟩, happend⟩
  have hstep : Step E st result.1 := @Step.workflow E st (.confirmTerminal P
    head.currentEventHeadId head.content.idempotencyKey t none) result hcall
  exact ⟨result, hcall, (h.next hstep hwrite).held, hphase⟩

end Confirmable

/-! ## Confirming one receipt after another -/

/-- Confirm artifacts one after another, each at its instant and against the head it finds. -/
def confirmAll (E : Environment) (P : String) :
    List (ArtifactHead × Timestamp) → Store → Except String Store
  | [], st => .ok st
  | (artifact, t) :: rest, st => do
    let head ← st.requiredWorkflowHead E P
    let result ← confirmWorkflowArtifact E st P head.currentEventHeadId artifact
      head.content.idempotencyKey t none none
    confirmAll E P rest result.1

/-- The reserved receipts of a confirmable plan can be confirmed at one instant in any order. -/
theorem Confirmable.confirmAll {order : List WorkflowArtifactReceipt}
    (h : Confirmable E P st head) (perm : order.Perm (reservedReceipts head.content.receipts))
    (canonical : formatUtc t = t) (later : head.content.recordedAt ≤ t) :
    ∃ s head', confirmAll E P (order.map fun item => (item.artifact, t)) st = .ok s ∧
      Confirmable E P s head' ∧ (∀ item ∈ head'.content.receipts, item.status = .confirmed) ∧
      head'.content.recordedAt ≤ t ∧ head'.terminalAt = head.terminalAt ∧
      (head.phase = .terminalReserved → head'.phase = .terminalReserved) ∧
      (head.phase ≠ .terminalReserved → order ≠ [] → head'.phase = .active) := by
  induction order generalizing st head with
  | nil =>
    refine ⟨st, head, rfl, h, fun item hitem => ?_, later, rfl, id, fun _ hne => absurd rfl hne⟩
    cases hstatus : item.status with
    | confirmed => rfl
    | reserved =>
      have := perm.symm.mem_iff.mp (mem_reservedReceipts.mpr ⟨hitem, hstatus⟩)
      simp at this
  | cons item rest ih =>
    obtain ⟨hitem, hreserved⟩ := mem_reservedReceipts.mp (perm.mem_iff.mp List.mem_cons_self)
    obtain ⟨result, hcall, hnext, hreceipts, htime, hterminal, hphase⟩ :=
      h.confirmArtifact hitem hreserved (t := t) (by rw [canonical]; exact later)
    rw [canonical] at htime
    have hrest : rest.Perm (reservedReceipts result.2.content.receipts) := by
      rw [hreceipts, reservedReceipts_confirmReceipt h.receipts.2 hitem]
      have herase := perm.erase item
      rwa [List.erase_cons_head] at herase
    obtain ⟨s, head', hall, hconfirmable, hconfirmed, hlater, hterminal', hkept, hactive⟩ :=
      ih hnext hrest (by rw [htime])
    refine ⟨s, head', ?_, hconfirmable, hconfirmed, hlater, hterminal'.trans hterminal,
      fun hp => hkept ?_, fun hp _ => ?_⟩
    · simp only [List.map_cons, Sdaqf.confirmAll, h.requiredWorkflowHead, bind_eq_ok,
        Except.ok.injEq, exists_eq_left']
      exact ⟨result, hcall, hall⟩
    · rw [hphase, if_neg (by simp [hp]), hp]
    · by_cases hnil : rest = []
      · subst hnil
        have hnone := List.nil_perm.mp hrest
        cases hall
        have hheads := hconfirmable.held.symm.trans hnext.held
        rw [Option.some.injEq] at hheads
        rw [hheads, hphase, if_pos]
        refine ⟨hp, fun a ha => ?_⟩
        rw [← hreceipts, ← hheads] at ha
        exact hconfirmed a ha
      · refine hactive ?_ hnil
        rw [hphase]
        split
        · simp
        · exact hp

/-! ## Finishing a terminal -/

/-- Confirm artifacts one after another and then the terminal, with the idempotency key and the
terminal instant of the head. -/
def finishTerminal (E : Environment) (P : String) (confirmations : List (ArtifactHead × Timestamp))
    (st : Store) : Except String (Store × WorkflowEpochHead) := do
  let st ← confirmAll E P confirmations st
  let head ← st.requiredWorkflowHead E P
  let terminalAt ← fromOption head.terminalAt "Terminal confirmation is not admissible."
  confirmWorkflowTerminal E st P head.currentEventHeadId head.content.idempotencyKey terminalAt none

/-- In whatever order the reserved receipts of a plan are confirmed, there are instants at which
they can be, and then the terminal is confirmed. -/
def Finishable (E : Environment) (P : String) (st : Store) (head : WorkflowEpochHead) : Prop :=
  ∀ order : List WorkflowArtifactReceipt, order.Perm (reservedReceipts head.content.receipts) →
    ∃ (instant : WorkflowArtifactReceipt → Timestamp) (result : Store × WorkflowEpochHead),
      finishTerminal E P (order.map fun item => (item.artifact, instant item)) st = .ok result ∧
      result.1.tables.workflowHeads[P]? = some result.2 ∧ result.2.phase = .terminalConfirmed

/-- A pending terminal makes its plan confirmable. -/
theorem Reachable.confirmable (h : Reachable E st)
    (held : st.tables.workflowHeads[P]? = some head) (reserved : head.phase = .terminalReserved) :
    Confirmable E P st head :=
  ⟨h, held, h.only_pending held reserved, h.pinned held reserved⟩

/-- A terminal whose epoch stands at the instant of its reservation can be finished. -/
theorem finishable_of_timely (h : Reachable E st)
    (held : st.tables.workflowHeads[P]? = some head) (reserved : head.phase = .terminalReserved)
    (timely : head.terminalAt = some head.content.recordedAt) : Finishable E P st head := by
  intro order perm
  have hconfirmable := h.confirmable held reserved
  obtain ⟨t, ht, hcanonical, _⟩ := h.epochLaw.terminal P head held reserved
  have htime : t = head.content.recordedAt := by
    rw [ht, Option.some.injEq] at timely
    exact timely
  obtain ⟨s, head', hall, hnext, hconfirmed, hlater, hterminal, hkept, _⟩ :=
    hconfirmable.confirmAll perm hcanonical htime.ge
  obtain ⟨result, hresult, hheld, hphase⟩ := hnext.confirmTerminal (hkept reserved)
    (hterminal.trans ht) hcanonical hlater hconfirmed
  refine ⟨fun _ => t, result, ?_, hheld, hphase⟩
  simp only [finishTerminal, hall, hnext.requiredWorkflowHead, hterminal.trans ht, fromOption,
    bind_eq_ok, Except.ok.injEq, exists_eq_left']
  exact hresult

/-- The epoch of a pending terminal went past the instant of its reservation. -/
def Overdue (P : String) (st : Store) : Prop :=
  ∃ head t, st.tables.workflowHeads[P]? = some head ∧ head.phase = .terminalReserved ∧
    head.terminalAt = some t ∧ t < head.content.recordedAt

/-- No operation frees an overdue terminal: its confirmation would have to go back in time. -/
theorem Overdue.step (overdue : Overdue P st) (h : Step E st st') : Overdue P st' := by
  obtain ⟨head, t, held, reserved, terminal, past⟩ := overdue
  have hmem := mem_pendingTerminals.mpr ⟨⟨P, held⟩, reserved⟩
  rcases h.grows_or_call with ⟨_, _, hpending⟩ | ⟨call, result, hcall, rfl⟩
  · simp [hpending] at hmem
  · rcases callWrite_of_call hcall with hsame | ⟨e, hwrite⟩
    · rw [hsame]
      exact ⟨head, t, held, reserved, terminal, past⟩
    · have hw := hwrite.write
      by_cases hplan : e.content.planId = P
      · refine ⟨result.2, t, by rw [hw.getElem?_heads, if_pos hplan], ?_⟩
        obtain ⟨move, hstep, hphase, hterminal, hlater⟩ := hw.step (hplan ▸ held)
        rw [hphase, hterminal, hw.content]
        cases hstep with
        | transition _ phase => simp [reserved] at phase
        | terminal _ phase => simp [reserved] at phase
        | confirmed _ _ _ _ phase time =>
          exact ⟨by simp [phase, reserved], time.trans terminal, past.trans_le hlater⟩
        | closed _ _ time =>
          rw [terminal, Option.some.injEq] at time
          exact absurd (hlater.trans_eq time) (not_le.mpr past)
      · exact ⟨head, t, by rw [hw.getElem?_heads, if_neg hplan, held], reserved, terminal, past⟩

theorem Overdue.steps (overdue : Overdue P st) (h : Steps E st s) : Overdue P s := by
  induction h with
  | refl => exact overdue
  | tail _ hstep ih => exact ih.step hstep

/-- Confirmations of a plan are a sequence of its calls. -/
theorem calls_of_confirmAll {confirmations : List (ArtifactHead × Timestamp)}
    (h : confirmAll E P confirmations st = .ok s) :
    ∃ calls, (∀ call ∈ calls, call.planId = P) ∧ runCalls E st calls = .ok s := by
  induction confirmations generalizing st with
  | nil => exact ⟨[], by simp, h⟩
  | cons pair rest ih =>
    obtain ⟨artifact, t⟩ := pair
    simp only [confirmAll, bind_eq_ok] at h
    obtain ⟨head, _, result, hcall, hrest⟩ := h
    obtain ⟨calls, hplans, hcalls⟩ := ih hrest
    refine ⟨.confirmArtifact P head.currentEventHeadId artifact head.content.idempotencyKey t none
      none :: calls, ?_, ?_⟩
    · intro call hmem
      rcases List.mem_cons.mp hmem with rfl | hmem
      · rfl
      · exact hplans call hmem
    · simp only [runCalls, foldE_cons, bind_eq_ok, map_eq_ok]
      exact ⟨result.1, ⟨result, hcall, rfl⟩, hcalls⟩

/-- An overdue terminal cannot be finished. -/
theorem Overdue.not_finishable (overdue : Overdue P st) : ¬ Finishable E P st head := by
  intro h
  obtain ⟨instant, result, hfinish, hheld, hphase⟩ := h _ (List.Perm.refl _)
  simp only [finishTerminal, bind_eq_ok, fromOption_eq_ok] at hfinish
  obtain ⟨s, hall, head', _, terminalAt, _, hcall⟩ := hfinish
  obtain ⟨calls, _, hcalls⟩ := calls_of_confirmAll hall
  have hclose : Step E s result.1 := @Step.workflow E s (.confirmTerminal P
    head'.currentEventHeadId head'.content.idempotencyKey terminalAt none) result hcall
  obtain ⟨found, _, hfound, hreserved, _⟩ :=
    overdue.steps ((steps_of_runCalls hcalls).tail hclose)
  rw [hheld, Option.some.injEq] at hfound
  simp [← hfound, hphase] at hreserved

/-- An artifact of a pending terminal is confirmed at the instant of its reservation. -/
def TimelyCall (st : Store) : WorkflowCall → Prop
  | .confirmArtifact P _ _ _ recordedAt _ _ => ∀ head, st.tables.workflowHeads[P]? = some head →
    head.phase = .terminalReserved → head.terminalAt = some (formatUtc recordedAt)
  | _ => True

/-- The stores of the runs in which every confirmation is timely. -/
inductive TimelyReachable (E : Environment) : Store → Prop
  | initial {graph : TaskGraph} {now : Timestamp} {ttlSeconds heartbeat : Nat}
      {workflowAuthority : Bool} {st : Store} (valid : graph.Valid)
      (h : initializeStore E graph now ttlSeconds heartbeat workflowAuthority = .ok st) :
      TimelyReachable E st
  | scheduler {st st' : Store} (reach : TimelyReachable E st) (h : Step E st st')
      (kept : st'.epochEvents = st.epochEvents) : TimelyReachable E st'
  | workflow {st : Store} {call : WorkflowCall} {result : Store × WorkflowEpochHead}
      (reach : TimelyReachable E st) (h : call.run E st = .ok result)
      (timely : TimelyCall st call) : TimelyReachable E result.1

theorem TimelyReachable.reachable (h : TimelyReachable E st) : Reachable E st := by
  induction h with
  | initial valid h => exact .initial valid h
  | scheduler _ h _ ih => exact .step ih h
  | workflow _ h _ ih => exact .step ih (.workflow h)

/-- A written event of a timely call leaves a pending terminal at its instant. -/
theorem CallWrite.timely (h : CallWrite E st call e result) (timely : TimelyCall st call)
    (reserved : result.2.phase = .terminalReserved) :
    result.2.terminalAt = some result.2.content.recordedAt := by
  have hw := h.write
  rw [hw.content]
  cases h.guards with
  | opened _ fresh =>
    obtain ⟨move, hmove, _, hhead⟩ := reduceWorkflowEvent_eq_ok hw.reduced
    rw [fresh] at hmove
    rw [hhead, (openEpoch_eq_ok hmove).1] at reserved
    cases reserved
  | reserved cause held =>
    obtain ⟨move, hstep, hphase, hterminal, _⟩ := hw.step held
    rw [hphase] at reserved
    cases hstep with
    | transition _ _ _ moved => simp [moved] at reserved
    | confirmed confirms => simp [confirms] at cause
    | closed closes => simp [closes] at cause
    | terminal _ _ _ _ time => rw [hterminal, time]
  | @confirmed prior cause held =>
    obtain ⟨move, hstep, hphase, hterminal, _⟩ := hw.step held
    rw [hphase] at reserved
    cases hstep with
    | transition moves => rcases moves with moves | moves <;> simp [moves] at cause
    | terminal moves => simp [moves] at cause
    | closed _ _ _ _ _ moved => simp [moved] at reserved
    | confirmed confirms _ _ _ moved time =>
      rw [moved] at reserved
      split at reserved
      · cases reserved
      · rw [hterminal, time, h.time]
        rw [h.plan] at held
        have hcause := h.cause
        rw [confirms] at hcause
        cases call with
        | confirmArtifact => exact timely prior held reserved
        | openEpoch => cases hcause
        | reserveTransition => cases hcause
        | reserveTerminal => cases hcause
        | confirmTerminal => cases hcause

/-- In a run whose confirmations are timely, every pending terminal stands at its instant. -/
theorem TimelyReachable.timely (h : TimelyReachable E st)
    (held : st.tables.workflowHeads[P]? = some head) (reserved : head.phase = .terminalReserved) :
    head.terminalAt = some head.content.recordedAt := by
  induction h generalizing P head with
  | initial _ h =>
    simp only [initializeStore, bind_eq_ok, exists_unit, pure_eq_ok] at h
    obtain ⟨_, _, rfl⟩ := h
    simp only [seed, initialTables, Table.getElem?_empty] at held
    cases held
  | scheduler _ h kept ih =>
    rcases h.grows_or_call with ⟨t, hgrows, _⟩ | ⟨call, result, hcall, rfl⟩
    · rw [hgrows.heads] at held
      exact ih held reserved
    · rcases callWrite_of_call hcall with hsame | ⟨e, hwrite⟩
      · rw [hsame] at held
        exact ih held reserved
      · rw [hwrite.write.epochEvents] at kept
        simp at kept
  | workflow _ h timely ih =>
    rcases callWrite_of_call h with hsame | ⟨e, hwrite⟩
    · rw [hsame] at held
      exact ih held reserved
    · rw [hwrite.write.getElem?_heads] at held
      split at held
      · cases held
        exact hwrite.timely timely reserved
      · exact ih held reserved

/-- A pending terminal can be finished exactly when its epoch stands at the instant of its
reservation; in a run whose confirmations are timely it always can. -/
theorem finishable_iff :
    (∀ st, Reachable E st → ∀ (P : String) head, st.tables.workflowHeads[P]? = some head →
      head.phase = .terminalReserved →
        (Finishable E P st head ↔ head.terminalAt = some head.content.recordedAt)) ∧
    (∀ st, TimelyReachable E st → ∀ (P : String) head, st.tables.workflowHeads[P]? = some head →
      head.phase = .terminalReserved → Finishable E P st head) := by
  refine ⟨fun st reach P head held reserved => ⟨fun h => ?_, ?_⟩, ?_⟩
  · obtain ⟨t, ht, _, hle⟩ := reach.epochLaw.terminal P head held reserved
    rcases hle.lt_or_eq with hpast | htime
    · exact absurd h (Overdue.not_finishable ⟨head, t, held, reserved, ht, hpast⟩)
    · rw [ht, htime]
  · exact finishable_of_timely reach held reserved
  · intro st reach P head held reserved
    exact finishable_of_timely reach.reachable held reserved (reach.timely held reserved)

namespace Sample

/-- The store in which an artifact of the pending terminal was confirmed one second late. -/
noncomputable def lateStore : Store :=
  Guard.result (runCalls oneDispatch pendingStore
    [.confirmArtifact "plan" (Naming.label 'F' 6) ⟨"event-2", "d.json"⟩ "key-3" second none none])
    (by decide +kernel)

theorem lateStore_reachable : Reachable oneDispatch lateStore :=
  pendingStore_reachable.steps (steps_of_runCalls (eq_ok_result _))

end Sample

/-- A terminal whose artifact was confirmed late stays pending: it cannot be finished. -/
theorem lateStore_not_finishable :
    Reachable Sample.oneDispatch Sample.lateStore ∧
      ∃ head, Sample.lateStore.tables.workflowHeads["plan"]? = some head ∧
        head.phase = .terminalReserved ∧
        ¬ Finishable Sample.oneDispatch "plan" Sample.lateStore head := by
  have hlate : ∃ head ∈ Sample.lateStore.tables.workflowHeads["plan"]?,
      head.phase = .terminalReserved ∧ head.terminalAt = some 0 ∧ 0 < head.content.recordedAt := by
    decide +kernel
  obtain ⟨head, held, hphase, hterminal, hpast⟩ := hlate
  refine ⟨Sample.lateStore_reachable, head, held, hphase, ?_⟩
  exact Overdue.not_finishable ⟨head, 0, held, hphase, hterminal, hpast⟩

/-- The terminal of the sample can be finished. -/
theorem finishable_pendingStore :
    ∃ head, Sample.pendingStore.tables.workflowHeads["plan"]? = some head ∧
      Finishable Sample.oneDispatch "plan" Sample.pendingStore head := by
  have hpending : ∃ head ∈ Sample.pendingStore.tables.workflowHeads["plan"]?,
      head.phase = .terminalReserved ∧ head.terminalAt = some head.content.recordedAt := by
    decide +kernel
  obtain ⟨head, held, hphase, htimely⟩ := hpending
  exact ⟨head, held, (finishable_iff.1 _ Sample.pendingStore_reachable "plan" head held hphase).mpr
    htimely⟩

end Sdaqf
