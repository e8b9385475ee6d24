import Sdaqf.Epochs
import Sdaqf.Sample

/-!
# Chains of epoch events

What the reducer accepts, said once: one lemma for every accepted event, and from it the law of
publication authority along a whole chain. The reducer compares the keys of receipts, so a chain of
arbitrary events may change the status of a receipt where no publication was confirmed, or add two
receipts of one type; `publicationMonotone_iff` says that these are the only ways to break the law.
-/

namespace Sdaqf

open Guard

variable {E : Environment} {prior : WorkflowEpochHead} {e : WorkflowEpochEvent}
variable {head : WorkflowEpochHead}

/-! ## Receipts with different keys -/

/-- The status of the receipt with a key. -/
def statusOf (receipts : List WorkflowArtifactReceipt) (key : ReceiptKey) :
    Option WorkflowReceiptStatus :=
  (receipts.find? fun item => decide (item.key = key)).map (·.status)

/-- No two receipts have one key. -/
def UniqueKeys (receipts : List WorkflowArtifactReceipt) : Prop :=
  (receipts.map (·.key)).Nodup

theorem statusOf_of_mem {receipts : List WorkflowArtifactReceipt} {item : WorkflowArtifactReceipt}
    (hkeys : UniqueKeys receipts) (h : item ∈ receipts) :
    statusOf receipts item.key = some item.status := by
  rw [statusOf, History.find?_key hkeys h, Option.map_some]

theorem mem_of_statusOf {receipts : List WorkflowArtifactReceipt} {key : ReceiptKey}
    {status : WorkflowReceiptStatus} (h : statusOf receipts key = some status) :
    ⟨key, status⟩ ∈ receipts := by
  obtain ⟨item, hitem, hstatus⟩ := Option.map_eq_some_iff.mp h
  have hkey : item.key = key := by simpa using List.find?_some hitem
  have hmem := List.mem_of_find?_eq_some hitem
  rw [← hkey, ← hstatus]
  exact hmem

theorem statusOf_isSome {receipts : List WorkflowArtifactReceipt} {key : ReceiptKey} :
    (statusOf receipts key).isSome ↔ key ∈ receipts.map (·.key) := by
  simp [statusOf]

/-- The contract of an event gives its receipts different keys. -/
theorem uniqueKeys_of_contract (h : epochEventContract E e = .ok ()) :
    UniqueKeys e.content.receipts := by
  simp only [epochEventContract, bind_eq_ok, exists_unit, require_eq_ok] at h
  obtain ⟨_, _, _, _, _, _, ⟨_, hpaths⟩, _⟩ := h
  rw [UniqueKeys, List.Nodup, List.pairwise_map]
  rw [List.Nodup, List.pairwise_map] at hpaths
  exact hpaths.imp fun hne heq => hne (by rw [heq])

theorem mem_addedReceipts {prior current : List WorkflowArtifactReceipt}
    {item : WorkflowArtifactReceipt} :
    item ∈ addedReceipts prior current ↔ item ∈ current ∧ item.key ∉ prior.map (·.key) := by
  simp [addedReceipts]

theorem mem_changedReceipts {prior current : List WorkflowArtifactReceipt}
    {item : WorkflowArtifactReceipt} :
    item ∈ changedReceipts prior current ↔ item ∈ current ∧
      ∃ status, statusOf prior item.key = some status ∧ status ≠ item.status := by
  simp only [changedReceipts, List.mem_filter, Option.any_eq_true, decide_eq_true_eq, statusOf,
    Option.map_eq_some_iff]
  constructor
  · rintro ⟨hmem, old, hold, hne⟩
    exact ⟨hmem, old.status, ⟨old, hold, rfl⟩, hne⟩
  · rintro ⟨hmem, _, ⟨old, hold, rfl⟩, hne⟩
    exact ⟨hmem, old, hold, hne⟩

/-! ## One accepted event -/

/-- The causes that reserve a publication, with the types of the artifacts they bind. -/
def WorkflowEpochCause.reserves : WorkflowEpochCause → Option (List WorkflowArtifactType)
  | .transitionReserved | .artifactPublicationReserved => some [.workflowEvent, .workflowState]
  | .terminalReserved => some [.workflowEvent, .workflowState, .workflowOutcome]
  | _ => none

/-- What an accepted later event does to the head of its plan. -/
inductive EpochStep (prior : WorkflowEpochHead) (e : WorkflowEpochEvent) : EpochMove → Prop
  | transition {move : EpochMove}
      (cause : e.cause = .transitionReserved ∨ e.cause = .artifactPublicationReserved)
      (phase : prior.phase = .opened ∨ prior.phase = .active)
      (binds : bindsExactly (addedReceipts prior.content.receipts e.content.receipts)
        [.workflowEvent, .workflowState])
      (reserved : move.phase = .transitionReserved) (terminal : move.terminalAt = prior.terminalAt) :
      EpochStep prior e move
  | confirmed {move : EpochMove} {item : WorkflowArtifactReceipt}
      (cause : e.cause = .artifactPublicationConfirmed) (keeps : keepsReservation prior e)
      (changed : changedReceipts prior.content.receipts e.content.receipts = [item])
      (status : item.status = .confirmed)
      (phase : move.phase = if prior.phase ≠ .terminalReserved ∧
        ∀ item ∈ e.content.receipts, item.status = .confirmed then .active else prior.phase)
      (terminal : move.terminalAt = prior.terminalAt) : EpochStep prior e move
  | terminal {move : EpochMove} (cause : e.cause = .terminalReserved)
      (phase : prior.phase = .opened ∨ prior.phase = .active)
      (binds : bindsExactly (addedReceipts prior.content.receipts e.content.receipts)
        [.workflowEvent, .workflowState, .workflowOutcome])
      (reserved : move.phase = .terminalReserved)
      (terminal : move.terminalAt = some e.content.recordedAt) : EpochStep prior e move
  | closed {move : EpochMove} (cause : e.cause = .terminalConfirmed)
      (phase : prior.phase = .terminalReserved)
      (time : some e.content.recordedAt = prior.terminalAt) (keeps : keepsReservation prior e)
      (confirmed : ∀ item ∈ e.content.receipts, item.status = .confirmed)
      (reserved : move.phase = .terminalConfirmed) (terminal : move.terminalAt = prior.terminalAt) :
      EpochStep prior e move

theorem epochStep_of_move {move : EpochMove} (h : epochMove (some prior) e = .ok move) :
    continuesEpoch prior e ∧ keepsReceipts prior.content.receipts e.content.receipts ∧
      EpochStep prior e move := by
  simp only [epochMove, bind_eq_ok, exists_unit, require_eq_ok] at h
  obtain ⟨hcontinues, hkeeps, h⟩ := h
  refine ⟨hcontinues, hkeeps, ?_⟩
  have htransition : ∀ {move : EpochMove}, reserveTransition prior e = .ok move →
      e.cause = .transitionReserved ∨ e.cause = .artifactPublicationReserved →
      EpochStep prior e move := by
    intro move h hc
    simp only [reserveTransition, bind_eq_ok, exists_unit, require_eq_ok, pure_eq_ok] at h
    obtain ⟨hphase, _, _, hbinds, rfl⟩ := h
    exact .transition hc hphase hbinds rfl rfl
  cases hc : e.cause with
  | epochOpened => simp [hc] at h
  | transitionReserved => exact htransition (by simpa [hc] using h) (.inl hc)
  | artifactPublicationReserved => exact htransition (by simpa [hc] using h) (.inr hc)
  | artifactPublicationConfirmed =>
    rw [hc] at h
    simp only [confirmArtifact, bind_eq_ok, exists_unit, require_eq_ok] at h
    obtain ⟨hreservation, h⟩ := h
    split at h
    · next item hitem =>
      simp only [bind_eq_ok, exists_unit, require_eq_ok, pure_eq_ok] at h
      obtain ⟨hstatus, rfl⟩ := h
      exact .confirmed hc hreservation hitem hstatus rfl rfl
    · simp at h
  | terminalReserved =>
    rw [hc] at h
    simp only [reserveTerminal, bind_eq_ok, exists_unit, require_eq_ok, pure_eq_ok] at h
    obtain ⟨hphase, _, hbinds, rfl⟩ := h
    exact .terminal hc hphase hbinds rfl rfl
  | terminalConfirmed =>
    rw [hc] at h
    simp only [confirmTerminal, bind_eq_ok, exists_unit, require_eq_ok, pure_eq_ok] at h
    obtain ⟨⟨hphase, htime, hkeeps, hall⟩, rfl⟩ := h
    exact .closed hc hphase htime hkeeps hall rfl rfl

/-- An accepted event is written into the head it leads to. -/
theorem reduceWorkflowEvent_eq_ok {prior : Option WorkflowEpochHead}
    (h : reduceWorkflowEvent E.workflowEventId prior e = .ok head) :
    ∃ move, epochMove prior e = .ok move ∧ e.content.heads = move.heads ∧
      head = ⟨E.workflowEventId e, move.phase, e.content, move.terminalAt⟩ := by
  simp only [reduceWorkflowEvent, bind_eq_ok, exists_unit, require_eq_ok, pure_eq_ok] at h
  obtain ⟨move, hmove, hheads, rfl⟩ := h
  exact ⟨move, hmove, hheads, rfl⟩

/-! ## A whole chain -/

/-- Reduce a chain of events, each of which meets its contract, and keep the head after each. -/
def epochRun (E : Environment) : Option WorkflowEpochHead → List WorkflowEpochEvent →
    Except String (List (WorkflowEpochEvent × WorkflowEpochHead))
  | _, [] => .ok []
  | prior, e :: events => do
    epochEventContract E e
    let head ← reduceWorkflowEvent E.workflowEventId prior e
    let run ← epochRun E (some head) events
    return (e, head) :: run

/-- The receipts of a head. -/
def WorkflowEpochHead.receipts (head : WorkflowEpochHead) : List WorkflowArtifactReceipt :=
  head.content.receipts

/-- The law of publication authority along a chain: receipts stay, confirmed receipts stay
confirmed, only a confirmation publishes and it changes one receipt, and a reservation adds exactly
one receipt of each type it binds. -/
structure PublicationMonotone (run : List (WorkflowEpochEvent × WorkflowEpochHead)) : Prop where
  kept : run.Pairwise fun a b => keepsReceipts a.2.receipts b.2.receipts
  published : run.Pairwise fun a b => ∀ key, statusOf a.2.receipts key = some .confirmed →
    statusOf b.2.receipts key = some .confirmed
  publishes : ∀ before a b after, run = before ++ a :: b :: after → ∀ key,
    statusOf a.2.receipts key = some .reserved → statusOf b.2.receipts key = some .confirmed →
      b.1.cause = .artifactPublicationConfirmed
  confirms : ∀ before a b after, run = before ++ a :: b :: after →
    b.1.cause = .artifactPublicationConfirmed →
      ∃! key, statusOf b.2.receipts key ≠ statusOf a.2.receipts key
  reserves : ∀ before a b after, run = before ++ a :: b :: after →
    ∀ types, b.1.cause.reserves = some types →
      ((addedReceipts a.2.receipts b.2.receipts).map (·.key.artifactType)).Perm types

/-- The events of a chain respect the receipts they find: except for a confirmation, an event
repeats each receipt of the head before it with its status, and a reservation adds no two receipts
of one type. -/
def RespectsReceipts (run : List (WorkflowEpochEvent × WorkflowEpochHead)) : Prop :=
  ∀ before a b after, run = before ++ a :: b :: after →
    (b.1.cause ≠ .artifactPublicationConfirmed →
      ∀ item ∈ a.2.receipts, item ∈ b.1.content.receipts) ∧
    (b.1.cause.reserves.isSome →
      ((addedReceipts a.2.receipts b.1.content.receipts).map (·.key.artifactType)).Nodup)

/-- Two consecutive heads of a chain. -/
structure Advance (E : Environment) (a b : WorkflowEpochEvent × WorkflowEpochHead) : Prop where
  content : b.2.content = b.1.content
  keys : UniqueKeys a.2.receipts
  keys' : UniqueKeys b.2.receipts
  kept : keepsReceipts a.2.receipts b.2.receipts
  step : ∃ move, EpochStep a.2 b.1 move

/-- Every event of an accepted chain is written into its head, and keeps its contract. -/
theorem head_of_epochRun {prior : Option WorkflowEpochHead} {events : List WorkflowEpochEvent}
    {run : List (WorkflowEpochEvent × WorkflowEpochHead)} (h : epochRun E prior events = .ok run) :
    ∀ a ∈ run, a.2.content = a.1.content ∧ UniqueKeys a.2.receipts := by
  induction events generalizing prior run with
  | nil =>
    obtain rfl : run = [] := by simpa [epochRun, eq_comm] using h
    simp
  | cons e events ih =>
    simp only [epochRun, bind_eq_ok, exists_unit, pure_eq_ok] at h
    obtain ⟨hcontract, head, hhead, rest, hrest, rfl⟩ := h
    obtain ⟨move, _, _, rfl⟩ := reduceWorkflowEvent_eq_ok hhead
    intro a ha
    rcases List.mem_cons.mp ha with rfl | ha
    · exact ⟨rfl, uniqueKeys_of_contract hcontract⟩
    · exact ih hrest a ha

theorem advance_of_epochRun {prior : Option WorkflowEpochHead} {events : List WorkflowEpochEvent}
    {run : List (WorkflowEpochEvent × WorkflowEpochHead)} (h : epochRun E prior events = .ok run)
    {before after : List (WorkflowEpochEvent × WorkflowEpochHead)}
    {a b : WorkflowEpochEvent × WorkflowEpochHead} (hrun : run = before ++ a :: b :: after) :
    Advance E a b := by
  have hheads := head_of_epochRun h
  have hreduced : reduceWorkflowEvent E.workflowEventId (some a.2) b.1 = .ok b.2 := by
    clear hheads
    induction events generalizing prior run before with
    | nil =>
      obtain rfl : run = [] := by simpa [epochRun, eq_comm] using h
      simp at hrun
    | cons e events ih =>
      simp only [epochRun, bind_eq_ok, exists_unit, pure_eq_ok] at h
      obtain ⟨_, head, _, rest, hrest, rfl⟩ := h
      cases before with
      | cons c before =>
        rw [List.cons_append, List.cons.injEq] at hrun
        exact ih hrest hrun.2
      | nil =>
        rw [List.nil_append, List.cons.injEq] at hrun
        obtain ⟨rfl, rfl⟩ := hrun
        cases events with
        | nil => simp [epochRun] at hrest
        | cons e' events =>
          simp only [epochRun, bind_eq_ok, exists_unit, pure_eq_ok, List.cons.injEq] at hrest
          obtain ⟨_, head', hhead', _, _, rfl, _⟩ := hrest
          exact hhead'
  obtain ⟨move, hmove, _, hb⟩ := reduceWorkflowEvent_eq_ok hreduced
  obtain ⟨_, hkeeps, hstep⟩ := epochStep_of_move hmove
  have hcontent := (hheads b (by simp [hrun])).1
  refine ⟨hcontent, (hheads a (by simp [hrun])).2, (hheads b (by simp [hrun])).2, ?_, move, hstep⟩
  rw [WorkflowEpochHead.receipts, WorkflowEpochHead.receipts, hcontent]
  exact hkeeps

namespace Advance

variable {a b : WorkflowEpochEvent × WorkflowEpochHead} (h : Advance E a b)
include h

/-- A reservation binds receipts of exactly the types of its cause. -/
theorem binds {types : List WorkflowArtifactType} (hc : b.1.cause.reserves = some types) :
    bindsExactly (addedReceipts a.2.receipts b.2.receipts) types := by
  obtain ⟨move, hstep⟩ := h.step
  rw [WorkflowEpochHead.receipts, WorkflowEpochHead.receipts, h.content]
  cases hstep with
  | transition cause _ binds =>
    rcases cause with hcause | hcause <;>
    · rw [hcause] at hc
      cases hc
      exact binds
  | confirmed cause => simp [cause, WorkflowEpochCause.reserves] at hc
  | terminal cause _ binds =>
    rw [cause] at hc
    cases hc
    exact binds
  | closed cause => simp [cause, WorkflowEpochCause.reserves] at hc

/-- A confirmation changes the status of exactly one receipt, from reserved to confirmed. -/
theorem confirms (hc : b.1.cause = .artifactPublicationConfirmed) :
    ∃ key, statusOf a.2.receipts key = some .reserved ∧
      statusOf b.2.receipts key = some .confirmed ∧
      ∀ other, statusOf b.2.receipts other ≠ statusOf a.2.receipts other → other = key := by
  obtain ⟨move, hstep⟩ := h.step
  cases hstep with
  | transition cause => simp [hc] at cause
  | terminal cause => simp [hc] at cause
  | closed cause => simp [hc] at cause
  | @confirmed item _ keeps changed status =>
    have hreceipts : b.1.content.receipts = b.2.receipts := by
      rw [WorkflowEpochHead.receipts, h.content]
    rw [hreceipts] at changed
    have hitem : item ∈ changedReceipts a.2.receipts b.2.receipts := by
      rw [WorkflowEpochHead.receipts, changed]
      exact List.mem_singleton_self item
    obtain ⟨hmem, old, hold, hne⟩ := mem_changedReceipts.mp hitem
    have hreserved : old = .reserved := by
      cases old with
      | reserved => rfl
      | confirmed => exact absurd status.symm hne
    refine ⟨item.key, hreserved ▸ hold, ?_, fun other hother => ?_⟩
    · rw [statusOf_of_mem h.keys' hmem, status]
    · have hback : keepsReceipts b.2.receipts a.2.receipts := by
        rw [← hreceipts]
        exact keeps.2.2.2.2
      cases hb : statusOf b.2.receipts other with
      | none =>
        have hnone : statusOf a.2.receipts other = none := by
          rw [← Option.not_isSome_iff_eq_none, statusOf_isSome]
          intro hkey
          obtain ⟨c, hc, rfl⟩ := List.mem_map.mp hkey
          have := statusOf_isSome.mpr (h.kept c hc)
          simp [hb] at this
        exact absurd (hb.trans hnone.symm) hother
      | some status' =>
        have hmem' := mem_of_statusOf hb
        obtain ⟨old', hold'⟩ :=
          Option.isSome_iff_exists.mp (statusOf_isSome.mpr (hback _ hmem'))
        have hchanged' : (⟨other, status'⟩ : WorkflowArtifactReceipt) ∈
            changedReceipts a.2.receipts b.2.receipts := by
          refine mem_changedReceipts.mpr ⟨hmem', old', hold', fun heq => hother ?_⟩
          rw [hb, hold', heq]
        rw [WorkflowEpochHead.receipts, changed, List.mem_singleton] at hchanged'
        exact congrArg WorkflowArtifactReceipt.key hchanged'

end Advance

/-- A chain keeps the law of publication authority exactly when its events respect the receipts
they find. -/
theorem publicationMonotone_iff {events : List WorkflowEpochEvent}
    {run : List (WorkflowEpochEvent × WorkflowEpochHead)} (h : epochRun E none events = .ok run) :
    PublicationMonotone run ↔ RespectsReceipts run := by
  constructor
  · intro hmono before a b after hrun
    have hadvance := advance_of_epochRun h hrun
    have hreceipts : b.1.content.receipts = b.2.receipts := by
      rw [WorkflowEpochHead.receipts, hadvance.content]
    have hpair : ∀ {R : WorkflowEpochEvent × WorkflowEpochHead →
        WorkflowEpochEvent × WorkflowEpochHead → Prop}, run.Pairwise R → R a b := by
      intro R hR
      rw [hrun, List.pairwise_append, List.pairwise_cons] at hR
      exact hR.2.1.1 b List.mem_cons_self
    rw [hreceipts]
    refine ⟨fun hc item hitem => ?_, fun hc => ?_⟩
    · have hstatus := statusOf_of_mem hadvance.keys hitem
      obtain ⟨status, hstatus'⟩ :=
        Option.isSome_iff_exists.mp (statusOf_isSome.mpr (hadvance.kept item hitem))
      have hsame : status = item.status := by
        cases hi : item.status with
        | confirmed =>
          have := hpair hmono.published item.key (by rw [hstatus, hi])
          simpa [hstatus'] using this
        | reserved =>
          cases status with
          | reserved => rfl
          | confirmed =>
            exact absurd (hmono.publishes before a b after hrun item.key (by rw [hstatus, hi])
              hstatus') hc
      have hmem := mem_of_statusOf hstatus'
      rwa [hsame] at hmem
    · obtain ⟨types, htypes⟩ := Option.isSome_iff_exists.mp hc
      refine (hmono.reserves before a b after hrun types htypes).nodup_iff.mpr ?_
      cases hcause : b.1.cause <;> simp [hcause, WorkflowEpochCause.reserves] at htypes <;>
        simp [← htypes]
  · intro hrespects
    have hkept : ∀ {before a b after}, run = before ++ a :: b :: after →
        keepsReceipts a.2.receipts b.2.receipts :=
      fun hrun => (advance_of_epochRun h hrun).kept
    have hconfirmed : ∀ {before a b after}, run = before ++ a :: b :: after → ∀ key,
        statusOf a.2.receipts key = some .confirmed →
          statusOf b.2.receipts key = some .confirmed := by
      intro before a b after hrun key hkey
      have hadvance := advance_of_epochRun h hrun
      have hreceipts : b.1.content.receipts = b.2.receipts := by
        rw [WorkflowEpochHead.receipts, hadvance.content]
      by_cases hc : b.1.cause = .artifactPublicationConfirmed
      · obtain ⟨changed, hreserved, _, hother⟩ := hadvance.confirms hc
        by_contra hne
        have hchanged := hother key (by rw [hkey]; exact hne)
        rw [hchanged, hreserved] at hkey
        cases hkey
      · have hmem := (hrespects before a b after hrun).1 hc _ (mem_of_statusOf hkey)
        rw [hreceipts] at hmem
        exact statusOf_of_mem hadvance.keys' hmem
    refine ⟨?_, ?_, ?_, ?_, ?_⟩
    · have htrans : IsTrans (WorkflowEpochEvent × WorkflowEpochHead)
          fun a b => keepsReceipts a.2.receipts b.2.receipts := by
        refine ⟨fun a b c hab hbc item hitem => ?_⟩
        obtain ⟨item', hitem', hkey⟩ := List.mem_map.mp (hab item hitem)
        exact hkey ▸ hbc item' hitem'
      exact List.isChain_iff_pairwise.mp
        (List.isChain_iff_forall_rel_of_append_cons_cons.mpr fun a b l₁ l₂ hrun => hkept hrun)
    · have htrans : IsTrans (WorkflowEpochEvent × WorkflowEpochHead) fun a b => ∀ key,
          statusOf a.2.receipts key = some .confirmed →
            statusOf b.2.receipts key = some .confirmed :=
        ⟨fun a b c hab hbc key hkey => hbc key (hab key hkey)⟩
      exact List.isChain_iff_pairwise.mp
        (List.isChain_iff_forall_rel_of_append_cons_cons.mpr
          fun a b l₁ l₂ hrun => hconfirmed hrun)
    · intro before a b after hrun key hreserved hkey
      have hadvance := advance_of_epochRun h hrun
      by_contra hc
      have hmem := (hrespects before a b after hrun).1 hc _ (mem_of_statusOf hreserved)
      rw [← hadvance.content] at hmem
      have hstatus : statusOf b.2.receipts key = some .reserved :=
        statusOf_of_mem hadvance.keys' hmem
      rw [hkey] at hstatus
      cases hstatus
    · intro before a b after hrun hc
      obtain ⟨key, hreserved, hkey, hother⟩ := (advance_of_epochRun h hrun).confirms hc
      exact ⟨key, by simp [hreserved, hkey], fun other hne => hother other hne⟩
    · intro before a b after hrun types htypes
      have hadvance := advance_of_epochRun h hrun
      have hbinds := hadvance.binds htypes
      have hnodup := (hrespects before a b after hrun).2 (by simp [htypes])
      rw [← hadvance.content] at hnodup
      have htypesNodup : types.Nodup := by
        cases hcause : b.1.cause <;> simp [hcause, WorkflowEpochCause.reserves] at htypes <;>
          simp [← htypes]
      refine (List.perm_ext_iff_of_nodup hnodup htypesNodup).mpr fun t => ?_
      constructor
      · intro ht
        obtain ⟨item, hitem, rfl⟩ := List.mem_map.mp ht
        exact (hbinds.1 item hitem).2
      · exact fun ht => hbinds.2 t ht

namespace Sample

/-- What the events of a short epoch have in common. -/
def epochContent (sequence : Nat) (sourceStateId : Option String) (heads : ArtifactHeads)
    (receipts : List WorkflowArtifactReceipt) : WorkflowEpochContent where
  sequence := sequence
  epochSequence := sequence
  planId := "plan"
  predecessor := none
  candidate := candidate
  graphId := "graph"
  scheduler := ⟨"state", 1, "event"⟩
  idempotencyKey := "key"
  producer := .run
  sourceStateId := sourceStateId
  heads := heads
  receipts := receipts
  recordedAt := 0

def planReceipt (status : WorkflowReceiptStatus) : WorkflowArtifactReceipt :=
  ⟨⟨.integratedPlan, "plan", "a.json", .run⟩, status⟩

/-- The epoch of a plan whose publication is confirmed, and then reserved again by the event that
reserves a transition. -/
def revertedEpoch : List WorkflowEpochEvent :=
  [⟨none, .epochOpened, epochContent 1 none ⟨none, none, none⟩ [planReceipt .reserved]⟩,
    ⟨some (Naming.label 'F' 1), .artifactPublicationConfirmed,
      epochContent 2 none ⟨none, none, none⟩ [planReceipt .confirmed]⟩,
    ⟨some (Naming.label 'F' 2), .transitionReserved,
      epochContent 3 none ⟨some ⟨"E", "b.json"⟩, some ⟨"S", "c.json"⟩, none⟩
        [planReceipt .reserved, reservedReceipt .workflowEvent .run ⟨"E", "b.json"⟩,
          reservedReceipt .workflowState .run ⟨"S", "c.json"⟩]⟩]

/-- The chain that reduces the reverted epoch. -/
noncomputable def revertedRun : List (WorkflowEpochEvent × WorkflowEpochHead) :=
  result (epochRun (environment [] []) none revertedEpoch) (by decide)

end Sample

/-- The reducer accepts a chain in which a confirmed receipt is reserved again. -/
theorem revertedEpoch_accepted :
    epochRun (Sample.environment [] []) none Sample.revertedEpoch = .ok Sample.revertedRun ∧
      ¬ PublicationMonotone Sample.revertedRun := by
  refine ⟨eq_ok_result _, fun h => ?_⟩
  have hpublished := List.pairwise_iff_getElem.mp h.published 1 2 (by decide)
    (by decide) (by decide) (Sample.planReceipt .confirmed).key (by decide)
  revert hpublished
  decide

/-- A chain whose events respect the receipts keeps the law. -/
theorem publicationMonotone_open :
    ∃ run, epochRun (Sample.environment [] []) none (Sample.revertedEpoch.take 2) = .ok run ∧
      (PublicationMonotone run ↔ RespectsReceipts run) :=
  ⟨_, eq_ok_result (by decide), publicationMonotone_iff (eq_ok_result (by decide))⟩

end Sdaqf
