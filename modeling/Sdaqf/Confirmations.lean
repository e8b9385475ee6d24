import Sdaqf.Linearization

/-!
# Confirming a publication

When a confirmation succeeds: the head stands at the authority of the scheduler, no other plan waits
for its terminal, and the instant is not before the head. The event that is written meets its
contract because the event before it does, the reducer accepts it because one reserved receipt
changes, and the store it leaves is valid because neither the authority nor the pending terminal
changes.
-/

namespace Sdaqf

open Guard Store

variable {E : Environment} {st st' s s' : Store} {P : String} {head prior : WorkflowEpochHead}
variable {e : WorkflowEpochEvent} {call : WorkflowCall} {result : Store × WorkflowEpochHead}

/-! ## Validating a written event -/

section Validation

variable (events : Option (List WorkflowEpochEvent)) (heads : Table WorkflowEpochHead)

theorem validateEvents_withWorkflow (currentLeases : Table CurrentLease) :
    validateEvents E (st.withWorkflow events heads).evidence currentLeases =
      validateEvents E st.evidence currentLeases := rfl

theorem validateImmutableRows_withWorkflow :
    validateImmutableRows E (st.withWorkflow events heads).evidence =
      validateImmutableRows E st.evidence := rfl

theorem validateMessageAdoption_withWorkflow :
    validateMessageAdoption E (st.withWorkflow events heads).evidence =
      validateMessageAdoption E st.evidence := rfl

theorem validateBudgetEvidence_withWorkflow :
    validateBudgetEvidence E (st.withWorkflow events heads).evidence =
      validateBudgetEvidence E st.evidence := rfl

theorem validateProjections_withWorkflow :
    validateProjections E (st.withWorkflow events heads).evidence
        (st.withWorkflow events heads).tables =
      validateProjections E st.evidence st.tables := rfl

theorem validateSchedulerTriple_withWorkflow (t : SchedulerTriple) :
    validateSchedulerTriple E (st.withWorkflow events heads).evidence t =
      validateSchedulerTriple E st.evidence t := rfl

theorem validatePending_withWorkflow (pending : Table WorkflowEpochHead) :
    validatePending E (st.withWorkflow events heads).evidence pending =
      validatePending E st.evidence pending := rfl

end Validation

/-- Replay of one more event. -/
theorem replayWorkflowEpochs_concat {events : List WorkflowEpochEvent}
    {heads : Table WorkflowEpochHead} (h : replayWorkflowEpochs E events = .ok heads)
    (sequence : e.content.sequence = events.length + 1)
    (reduced : reduceWorkflowEvent E.workflowEventId heads[e.content.planId]? e = .ok head) :
    replayWorkflowEpochs E (events ++ [e]) = .ok (heads.insert e.content.planId head) := by
  rw [replayWorkflowEpochs] at h ⊢
  rw [List.zipIdx_append, foldE_append, h]
  simp only [List.zipIdx_singleton, foldE_cons, foldE_nil, bind_eq_ok, replayWorkflowEvent,
    exists_unit, require_eq_ok, pure_eq_ok]
  exact ⟨heads, rfl, _, ⟨by simpa [Nat.add_comm] using sequence, head, reduced, rfl⟩, rfl⟩

/-- A written event leaves a valid store when its authority is valid and the pending terminal is
still the one that is pinned. -/
theorem EpochWrite.validate (h : EpochWrite E st e head st') (valid : st.validate E = .ok ())
    (graph : e.content.graphId = E.graphId st.evidence.graph ∧
      e.content.candidate = st.evidence.graph.candidate)
    (triple : validateSchedulerTriple E st.evidence e.content.scheduler = .ok ())
    (pending : validatePending E st.evidence st'.tables.workflowHeads = .ok ()) :
    st'.validate E = .ok () := by
  have hcontent := h.content
  obtain ⟨events, hevents, hsequence, rfl⟩ := h.store
  have hreplay := (validStore_of_ok valid).replay hevents
  have hnext := replayWorkflowEpochs_concat hreplay hsequence h.reduced
  simp only [Store.validate, validateEvidence, hevents, bind_eq_ok, exists_unit, forEach_eq_ok,
    Option.toList_some, List.mem_singleton, forall_eq] at valid
  obtain ⟨⟨hpolicy, howners, hvalidEvents, hrows, hadoption, ledger, hbudget, hworkflow⟩,
    hprojections, _⟩ := valid
  simp only [validateWorkflowEpochEvidence, hreplay, bind_eq_ok, exists_unit, require_eq_ok,
    forEach_eq_ok, Except.ok.injEq, exists_eq_left'] at hworkflow
  obtain ⟨hgraph, htriples, _⟩ := hworkflow
  simp only [Store.validate, validateEvidence, validateEvents_withWorkflow,
    validateImmutableRows_withWorkflow, validateMessageAdoption_withWorkflow,
    validateBudgetEvidence_withWorkflow, validateProjections_withWorkflow, bind_eq_ok, exists_unit]
  refine ⟨⟨hpolicy, howners, hvalidEvents, hrows, hadoption, ledger, hbudget, ?_⟩, hprojections, ?_⟩
  · simp only [withWorkflow, Option.toList_some, forEach_eq_ok, List.mem_singleton, forall_eq,
      validateWorkflowEpochEvidence, hnext, bind_eq_ok, exists_unit, require_eq_ok,
      Except.ok.injEq, exists_eq_left']
    refine ⟨fun found hfound => ?_, fun e' he' => ?_, pending⟩
    · obtain ⟨k, hk⟩ := Table.mem_rows.mp hfound
      rw [Table.getElem?_insert] at hk
      split at hk
      · cases hk
        rw [hcontent]
        exact graph
      · exact hgraph found (Table.mem_rows.mpr ⟨k, hk⟩)
    · rcases List.mem_append.mp he' with he' | he'
      · exact htriples e' he'
      · rw [List.mem_singleton.mp he']
        exact triple
  · simp only [withWorkflow, validateWorkflowEpochProjection, hnext, bind_eq_ok, require_eq_ok,
      Except.ok.injEq, exists_eq_left']

/-! ## The pending terminal -/

theorem pendingTerminals_eq_nil {heads : Table WorkflowEpochHead} :
    pendingTerminals heads = [] ↔
      ∀ (Q : String) head, heads[Q]? = some head → head.phase ≠ .terminalReserved := by
  rw [List.eq_nil_iff_forall_not_mem]
  constructor
  · exact fun h Q head hQ hphase => h head (mem_pendingTerminals.mpr ⟨⟨Q, hQ⟩, hphase⟩)
  · intro h head hmem
    obtain ⟨⟨Q, hQ⟩, hphase⟩ := mem_pendingTerminals.mp hmem
    exact h Q head hQ hphase

/-- A list without repetition whose only element is `a`. -/
theorem eq_singleton_of_forall {α : Type} {l : List α} {a : α} (hnodup : l.Nodup) (ha : a ∈ l)
    (hall : ∀ b ∈ l, b = a) : l = [a] := by
  have hperm : l.Perm [a] :=
    (List.perm_ext_iff_of_nodup hnodup (List.nodup_singleton a)).mpr fun b =>
      ⟨fun hb => List.mem_singleton.mpr (hall b hb), fun hb => List.mem_singleton.mp hb ▸ ha⟩
  exact List.perm_singleton.mp hperm

theorem pendingTerminals_eq_singleton {heads : Table WorkflowEpochHead}
    (held : heads[P]? = some head) (reserved : head.phase = .terminalReserved)
    (only : ∀ (Q : String) found, heads[Q]? = some found → found.phase = .terminalReserved →
      Q = P) : pendingTerminals heads = [head] := by
  have hrows : heads.toList.filter (fun row => decide (row.2.phase = .terminalReserved)) =
      [(P, head)] := by
    refine eq_singleton_of_forall ((Table.keys_nodup heads).of_map.filter _) ?_ ?_
    · exact List.mem_filter.mpr ⟨Table.mem_toList.mpr held, by simpa using reserved⟩
    · rintro ⟨Q, found⟩ hrow
      obtain ⟨hrow, hphase⟩ := List.mem_filter.mp hrow
      have hQ := Table.mem_toList.mp hrow
      have hsame := only Q found hQ (by simpa using hphase)
      rw [hsame, held, Option.some.injEq] at hQ
      rw [hsame, hQ]
  rw [pendingTerminals, Table.rows, List.filter_map]
  exact congrArg (List.map Prod.snd) hrows

/-- All pending terminals are of one plan. -/
theorem Reachable.only_pending (h : Reachable E st)
    (held : st.tables.workflowHeads[P]? = some head) (reserved : head.phase = .terminalReserved)
    (Q : String) (found : WorkflowEpochHead) (hQ : st.tables.workflowHeads[Q]? = some found)
    (hphase : found.phase = .terminalReserved) : Q = P := by
  have hlength := pendingTerminals_length h.validStore
  have hP := mem_pendingTerminals.mpr ⟨⟨P, held⟩, reserved⟩
  have hmem := mem_pendingTerminals.mpr ⟨⟨Q, hQ⟩, hphase⟩
  obtain ⟨only, honly⟩ := List.length_eq_one_iff.mp
    (Nat.le_antisymm hlength (List.length_pos_of_mem hP))
  rw [honly, List.mem_singleton] at hP hmem
  rw [← (h.headLaw held).plan, ← (h.headLaw hQ).plan, hP, hmem]

/-! ## What the calls write -/

/-- What the calls guarantee about every workflow event, and the reducer about every head. -/
structure EpochLaw (E : Environment) (st : Store) : Prop where
  contract : ∀ e ∈ st.epochEvents, epochEventContract E e = .ok ()
  canonical : ∀ e ∈ st.epochEvents, formatUtc e.content.recordedAt = e.content.recordedAt
  numbered : ∀ (Q : String) found, st.tables.workflowHeads[Q]? = some found →
    found.content.epochSequence ≠ 0
  terminal : ∀ (Q : String) found, st.tables.workflowHeads[Q]? = some found →
    found.phase = .terminalReserved → ∃ t, found.terminalAt = some t ∧ formatUtc t = t ∧
      t ≤ found.content.recordedAt
  reserved : ∀ (Q : String) found, st.tables.workflowHeads[Q]? = some found →
    found.phase = .transitionReserved → ∃ item ∈ found.content.receipts, item.status = .reserved

theorem formatUtc_formatUtc (t : Timestamp) : formatUtc (formatUtc t) = formatUtc t := by
  simp [formatUtc, second]

/-- A reservation leaves a reserved receipt. -/
theorem reserved_of_binds {types : List WorkflowArtifactType} {t : WorkflowArtifactType}
    {before after : List WorkflowArtifactReceipt} (ht : t ∈ types)
    (h : bindsExactly (addedReceipts before after) types) :
    ∃ item ∈ after, item.status = .reserved := by
  obtain ⟨item, hitem, _⟩ := List.mem_map.mp (h.2 t ht)
  exact ⟨item, (mem_addedReceipts.mp hitem).1, (h.1 item hitem).1⟩

theorem EpochWrite.numbered (h : EpochWrite E st e head st') :
    head.content.epochSequence ≠ 0 := by
  rw [h.content]
  obtain ⟨move, hmove, _, _⟩ := reduceWorkflowEvent_eq_ok h.reduced
  cases hprior : st.tables.workflowHeads[e.content.planId]? with
  | none =>
    rw [hprior] at hmove
    simp only [epochMove, openEpoch, bind_eq_ok, exists_unit, require_eq_ok] at hmove
    omega
  | some prior =>
    rw [hprior] at hmove
    have hnumber := (epochStep_of_move hmove).1.2.2.2.2.1
    omega

/-- The terminal instant of a pending head, after one written event. -/
theorem EpochWrite.terminal (h : EpochWrite E st e head st')
    (canonical : formatUtc e.content.recordedAt = e.content.recordedAt)
    (before : ∀ prior, st.tables.workflowHeads[e.content.planId]? = some prior →
      prior.phase = .terminalReserved → ∃ t, prior.terminalAt = some t ∧ formatUtc t = t ∧
        t ≤ prior.content.recordedAt)
    (reserved : head.phase = .terminalReserved) :
    ∃ t, head.terminalAt = some t ∧ formatUtc t = t ∧ t ≤ head.content.recordedAt := by
  cases hprior : st.tables.workflowHeads[e.content.planId]? with
  | none =>
    obtain ⟨move, hmove, _, hhead⟩ := reduceWorkflowEvent_eq_ok h.reduced
    rw [hprior] at hmove
    rw [hhead, (openEpoch_eq_ok hmove).1] at reserved
    cases reserved
  | some prior =>
    obtain ⟨move, hstep, hphase, hterminal, hlater⟩ := h.step hprior
    rw [hphase] at reserved
    rw [hterminal, h.content]
    cases hstep with
    | transition _ _ _ phase => simp [phase] at reserved
    | closed _ _ _ _ _ phase => simp [phase] at reserved
    | terminal _ _ _ _ time => exact ⟨_, time, canonical, le_rfl⟩
    | confirmed _ _ _ _ phase time =>
      rw [phase] at reserved
      split at reserved
      · cases reserved
      · obtain ⟨t, ht, hcanonical, hle⟩ := before prior hprior reserved
        exact ⟨t, time.trans ht, hcanonical, hle.trans hlater⟩

/-- A plan whose transition is reserved still has a reserved receipt. -/
theorem EpochWrite.reserved (h : EpochWrite E st e head st')
    (reserved : head.phase = .transitionReserved) :
    ∃ item ∈ head.content.receipts, item.status = .reserved := by
  rw [h.content]
  cases hprior : st.tables.workflowHeads[e.content.planId]? with
  | none =>
    obtain ⟨move, hmove, _, hhead⟩ := reduceWorkflowEvent_eq_ok h.reduced
    rw [hprior] at hmove
    rw [hhead, (openEpoch_eq_ok hmove).1] at reserved
    cases reserved
  | some prior =>
    obtain ⟨move, hstep, hphase, _, _⟩ := h.step hprior
    rw [hphase] at reserved
    cases hstep with
    | transition _ _ binds => exact reserved_of_binds (t := .workflowEvent) (by simp) binds
    | terminal _ _ _ phase => simp [phase] at reserved
    | closed _ _ _ _ _ phase => simp [phase] at reserved
    | confirmed _ _ _ _ phase =>
      rw [phase] at reserved
      split at reserved
      · cases reserved
      · next hopen =>
        have hall : ¬ ∀ item ∈ e.content.receipts, item.status = .confirmed := by
          intro hall
          exact hopen ⟨by simp [reserved], hall⟩
        obtain ⟨item, hitem, hstatus⟩ : ∃ item ∈ e.content.receipts,
            ¬ item.status = .confirmed := by simpa using hall
        refine ⟨item, hitem, ?_⟩
        cases hs : item.status with
        | reserved => rfl
        | confirmed => exact absurd hs hstatus

theorem Reachable.epochLaw (h : Reachable E st) : EpochLaw E st := by
  refine h.epoch_induction (EpochLaw E) ?_ ?_ ?_
  · intro st hevents hheads
    refine ⟨by simp [hevents], by simp [hevents], ?_, ?_, ?_⟩ <;> intro Q found hQ <;>
      rw [hheads, Table.getElem?_empty] at hQ <;> cases hQ
  · intro st st' t _ _ hgrows _ ih
    have hevents := hgrows.epochEvents
    have hheads := hgrows.heads
    exact ⟨hevents ▸ ih.contract, hevents ▸ ih.canonical, hheads ▸ ih.numbered,
      hheads ▸ ih.terminal, hheads ▸ ih.reserved⟩
  · intro st call e result _ hwrite ih
    have hw := hwrite.write
    have hcanonical : formatUtc e.content.recordedAt = e.content.recordedAt := by
      rw [hwrite.time, formatUtc_formatUtc]
    refine ⟨?_, ?_, ?_, ?_, ?_⟩
    · intro e' he'
      rw [hw.epochEvents] at he'
      rcases List.mem_append.mp he' with he' | he'
      · exact ih.contract e' he'
      · exact List.mem_singleton.mp he' ▸ hw.contract
    · intro e' he'
      rw [hw.epochEvents] at he'
      rcases List.mem_append.mp he' with he' | he'
      · exact ih.canonical e' he'
      · exact List.mem_singleton.mp he' ▸ hcanonical
    all_goals
      intro Q found hQ
      rw [hw.getElem?_heads] at hQ
      split at hQ
    · cases hQ
      exact hw.numbered
    · exact ih.numbered Q found hQ
    · cases hQ
      exact hw.terminal hcanonical (ih.terminal _)
    · exact ih.terminal Q found hQ
    · cases hQ
      exact hw.reserved
    · exact ih.reserved Q found hQ

/-! ## Confirming one receipt -/

/-- The artifact of a receipt. -/
def WorkflowArtifactReceipt.artifact (item : WorkflowArtifactReceipt) : ArtifactHead :=
  ⟨item.key.artifactId, item.key.path⟩

section Receipts

variable {receipts : List WorkflowArtifactReceipt} {item : WorkflowArtifactReceipt}
variable {artifact : ArtifactHead}

/-- No two receipts have one path. -/
def UniquePaths (receipts : List WorkflowArtifactReceipt) : Prop :=
  (receipts.map (·.key.path)).Nodup

theorem UniquePaths.eq_of_path (h : UniquePaths receipts) {a b : WorkflowArtifactReceipt}
    (ha : a ∈ receipts) (hb : b ∈ receipts) (path : a.key.path = b.key.path) : a = b :=
  List.inj_on_of_nodup_map h ha hb path

theorem UniquePaths.nodup (h : UniquePaths receipts) : receipts.Nodup := List.Nodup.of_map _ h

theorem UniquePaths.keys (h : UniquePaths receipts) : UniqueKeys receipts := by
  refine List.Nodup.of_map ReceiptKey.path ?_
  rw [List.map_map]
  exact h

/-- What a confirmation does to one receipt. -/
theorem confirmReceipt_eq_map (h : UniquePaths receipts) (hitem : item ∈ receipts) :
    confirmReceipt item.artifact receipts = receipts.map fun a =>
      if a = item then { a with status := .confirmed } else a := by
  refine List.map_congr_left fun a ha => ?_
  by_cases heq : a = item
  · subst heq
    simp [WorkflowArtifactReceipt.artifact]
  · rw [if_neg heq, if_neg]
    rintro ⟨_, hpath⟩
    exact heq (h.eq_of_path ha hitem hpath)

@[simp] theorem map_key_confirmReceipt :
    (confirmReceipt artifact receipts).map (·.key) = receipts.map (·.key) := by
  rw [confirmReceipt, List.map_map]
  refine List.map_congr_left fun a _ => ?_
  rw [Function.comp_apply]
  split <;> rfl

theorem orderedWorkflowReceipts_confirmReceipt (h : receipts.Pairwise (receiptLe E)) :
    orderedWorkflowReceipts E (confirmReceipt artifact receipts) =
      confirmReceipt artifact receipts := by
  refine List.Pairwise.insertionSort_eq ?_
  rw [confirmReceipt, List.pairwise_map]
  refine h.imp fun {a b} hab => ?_
  split <;> split <;> exact hab

theorem addedReceipts_of_keys {after : List WorkflowArtifactReceipt}
    (keys : after.map (·.key) = receipts.map (·.key)) : addedReceipts receipts after = [] := by
  rw [List.eq_nil_iff_forall_not_mem]
  intro a ha
  obtain ⟨hmem, hnew⟩ := mem_addedReceipts.mp ha
  exact hnew (keys ▸ List.mem_map_of_mem hmem)

theorem changedReceipts_confirmReceipt (h : UniquePaths receipts) (hitem : item ∈ receipts)
    (reserved : item.status = .reserved) :
    changedReceipts receipts (confirmReceipt item.artifact receipts) =
      [{ item with status := .confirmed }] := by
  refine eq_singleton_of_forall ?_ ?_ ?_
  · refine List.Nodup.filter _ (List.Nodup.of_map (·.key) ?_)
    rw [map_key_confirmReceipt]
    exact h.keys
  · refine mem_changedReceipts.mpr ⟨?_, .reserved, ?_, by simp⟩
    · rw [confirmReceipt_eq_map h hitem]
      exact List.mem_map.mpr ⟨item, hitem, by simp⟩
    · exact reserved ▸ statusOf_of_mem h.keys hitem
  · intro b hb
    obtain ⟨hmem, old, hold, hne⟩ := mem_changedReceipts.mp hb
    rw [confirmReceipt_eq_map h hitem] at hmem
    obtain ⟨a, ha, rfl⟩ := List.mem_map.mp hmem
    by_cases heq : a = item
    · rw [if_pos heq, heq]
    · rw [if_neg heq] at hold hne
      rw [statusOf_of_mem h.keys ha, Option.some.injEq] at hold
      exact absurd hold.symm hne

/-- The receipts that wait for their confirmation. -/
def reservedReceipts (receipts : List WorkflowArtifactReceipt) : List WorkflowArtifactReceipt :=
  receipts.filter fun item => decide (item.status = .reserved)

theorem mem_reservedReceipts :
    item ∈ reservedReceipts receipts ↔ item ∈ receipts ∧ item.status = .reserved := by
  simp [reservedReceipts]

/-- A confirmation takes one receipt off those that wait. -/
theorem reservedReceipts_confirmReceipt (h : UniquePaths receipts) (hitem : item ∈ receipts) :
    reservedReceipts (confirmReceipt item.artifact receipts) =
      (reservedReceipts receipts).erase item := by
  have hnodup : (reservedReceipts receipts).Nodup := h.nodup.filter _
  rw [hnodup.erase_eq_filter, confirmReceipt_eq_map h hitem, reservedReceipts, reservedReceipts,
    List.filter_map, List.filter_filter]
  have hfilter : (receipts.filter ((fun item : WorkflowArtifactReceipt =>
      decide (item.status = .reserved)) ∘ fun a => if a = item then
        { a with status := .confirmed } else a)) =
      receipts.filter fun a => decide (a ≠ item) && decide (a.status = .reserved) := by
    refine List.filter_congr fun a _ => ?_
    by_cases heq : a = item <;> simp [heq]
  rw [hfilter]
  refine (List.map_congr_left fun a ha => ?_).trans (List.map_id _) |>.trans ?_
  · have hne : a ≠ item := by
      have := (List.mem_filter.mp ha).2
      simp only [Bool.and_eq_true, decide_eq_true_eq] at this
      exact this.1
    rw [if_neg hne]
    rfl
  · refine List.filter_congr fun a _ => ?_
    by_cases heq : a = item <;> simp [heq]

/-- What the contract of an event says about its receipts. -/
theorem receipts_of_contract (h : epochEventContract E e = .ok ()) :
    e.content.receipts.Pairwise (receiptLe E) ∧ UniquePaths e.content.receipts := by
  simp only [epochEventContract, bind_eq_ok, exists_unit, require_eq_ok] at h
  obtain ⟨_, _, _, _, _, _, ⟨hsorted, hpaths⟩, _⟩ := h
  refine ⟨hsorted, List.Nodup.of_map E.casefold ?_⟩
  rw [List.map_map]
  exact hpaths

end Receipts

/-! ## The event of a confirmation -/

/-- The event that a confirmation appends. -/
def confirmationEvent (head : WorkflowEpochHead) (position : Nat) (cause : WorkflowEpochCause)
    (receipts : List WorkflowArtifactReceipt) (t : Timestamp) : WorkflowEpochEvent :=
  requestedEvent (some head) position cause head.content.planId none head.content.candidate
    head.content.graphId (head.request receipts) receipts t

section Confirmation

variable {receipts : List WorkflowArtifactReceipt} {position : Nat} {cause : WorkflowEpochCause}
variable {t : Timestamp}

theorem heads_confirmationEvent (keys : receipts.map (·.key) = head.content.receipts.map (·.key)) :
    (confirmationEvent head position cause receipts t).content.heads = head.content.heads := by
  simp [confirmationEvent, requestedEvent, WorkflowEpochHead.request, workflowArtifactHeads,
    addedReceipts_of_keys keys, History.lastWhere]

theorem keepsReceipts_of_keys {before after : List WorkflowArtifactReceipt}
    (keys : after.map (·.key) = before.map (·.key)) : keepsReceipts before after := by
  intro item hitem
  rw [keys]
  exact List.mem_map_of_mem hitem

theorem keepsReservation_confirmationEvent
    (keys : receipts.map (·.key) = head.content.receipts.map (·.key)) :
    keepsReservation head (confirmationEvent head position cause receipts t) :=
  ⟨rfl, rfl, rfl, rfl, keepsReceipts_of_keys keys.symm⟩

/-- The contract of an event speaks about its receipts through their keys. -/
theorem contract_confirmationEvent (h : epochEventContract E e = .ok ())
    (content : e.content = head.content) (numbered : head.content.epochSequence ≠ 0)
    (keys : receipts.map (·.key) = head.content.receipts.map (·.key)) :
    epochEventContract E (confirmationEvent head position cause receipts t) = .ok () := by
  simp only [epochEventContract, bind_eq_ok, exists_unit, require_eq_ok, forEach_eq_ok,
    content] at h ⊢
  obtain ⟨_, hplan, hpredecessor, hlength, hreceipts, hnonempty, ⟨hsorted, hpaths⟩, hsource,
    hkey⟩ := h
  have hmem : ∀ item ∈ receipts, ∃ old ∈ head.content.receipts, old.key = item.key := by
    intro item hitem
    have : item.key ∈ head.content.receipts.map (·.key) := keys ▸ List.mem_map_of_mem hitem
    exact List.mem_map.mp this
  refine ⟨?_, hplan, hpredecessor, ?_, ?_, ?_, ⟨?_, ?_⟩, hsource, hkey⟩
  · simp [confirmationEvent, requestedEvent, numbered]
  · have hcount := congrArg List.length keys
    rw [List.length_map, List.length_map] at hcount
    exact hcount ▸ hlength
  · intro item hitem
    obtain ⟨old, hold, hsame⟩ := hmem item hitem
    have := hreceipts old hold
    rwa [receiptContract, hsame] at this
  · intro hnil
    have hcount := congrArg List.length keys
    rw [List.length_map, List.length_map] at hcount
    exact hnonempty (List.eq_nil_of_length_eq_zero (hcount ▸ congrArg List.length hnil))
  · have hpairs : (receipts.map (·.key)).Pairwise fun a b =>
        receiptLe E ⟨a, .reserved⟩ ⟨b, .reserved⟩ := by
      rw [keys, List.pairwise_map]
      exact hsorted
    rw [List.pairwise_map] at hpairs
    exact hpairs
  · have hfold := congrArg (List.map fun key : ReceiptKey => E.casefold key.path) keys
    rw [List.map_map, List.map_map] at hfold
    exact (hfold ▸ hpaths : (receipts.map
      ((fun key : ReceiptKey => E.casefold key.path) ∘ (·.key))).Nodup)

end Confirmation

end Sdaqf
