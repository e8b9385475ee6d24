import Sdaqf.Fencing
import Sdaqf.KeyedSums

/-!
# The accounts of the budget

A dispatch reserves amounts under its lease. They stay reserved until the acknowledgement of the
host settles the context bytes and the event that ends the attempt settles the rest. Each event of
the log is one posting of the replay, and the postings keep the books: a lease is dispatched once,
and every reserved total is the sum of what the dispatched leases have outstanding.
-/

namespace Sdaqf

open Guard Store KeyedSums

variable {E : Environment} {ev : Evidence} {b b' : BudgetReplay} {e : SchedulerEvent}
variable {effect : BudgetEffect}

/-! ## Postings of one event -/

/-- The reservation a dispatch intent makes, under the lease it names. -/
def reservationOf (E : Environment) (ev : Evidence) (e : SchedulerEvent) :
    Option (String × BudgetReservation) :=
  if e.cause = .dispatchIntent then do
    let leaseId ← e.leaseId
    let id ← e.messageId
    let m ← ev.message? E id
    let payload ← m.dispatch?
    return (leaseId, payload.budgetReservation)
  else none

theorem leaseId_of_reservation {leaseId : String} {reservation : BudgetReservation}
    (h : reservationOf E ev e = some (leaseId, reservation)) :
    e.cause = .dispatchIntent ∧ e.leaseId = some leaseId := by
  unfold reservationOf at h
  split at h
  · next hc =>
    simp only [bind, pure, Option.bind_eq_some_iff, Option.some.injEq, Prod.mk.injEq] at h
    obtain ⟨_, hlease, _, _, _, _, _, _, rfl, _⟩ := h
    exact ⟨hc, hlease⟩
  · cases h

/-- An event counts one task more or less as running. -/
def concurrencyChange (e : SchedulerEvent) : Int :=
  match e.cause with
  | .worktreeRequest => 1
  | .dispatchIntent => if e.beforeState = some .ready then 1 else 0
  | .worktreeObserved => if e.afterState = some .blocked then -1 else 0
  | c => if c.settlesAttempt then -1 else 0

/-- An event that ends an attempt and spends a retry. -/
def SchedulerEvent.spendsRetry (e : SchedulerEvent) : Bool :=
  e.cause.settlesAttempt && retryReason e.reason

/-- What a replay has outstanding of a resource under a lease. -/
def BudgetReplay.held (b : BudgetReplay) (leaseId : String) (r : Resource) : Int :=
  (b.outstanding[leaseId]?).elim 0 fun reservation => (reservation.amount r : Int)

/-- The books of the leases after an event. -/
inductive Booking (E : Environment) (ev : Evidence) (e : SchedulerEvent) (b b' : BudgetReplay) :
    Prop
  | dispatched {leaseId : String} {reservation : BudgetReservation}
      (cause : e.cause = .dispatchIntent)
      (made : reservationOf E ev e = some (leaseId, reservation))
      (free : b.outstanding[leaseId]? = none)
      (books : b'.outstanding = b.outstanding.insert leaseId reservation)
  | accepted {leaseId : String} {reservation : BudgetReservation}
      (cause : e.cause = .dispatchAccepted) (named : e.leaseId = some leaseId)
      (open_ : b.outstanding[leaseId]? = some reservation)
      (books : b'.outstanding = b.outstanding.insert leaseId { reservation with contextBytes := 0 })
  | settled {leaseId : String} (cause : e.cause.settlesAttempt = true)
      (named : e.leaseId = some leaseId) (books : b'.outstanding = b.outstanding.erase leaseId)
  | quiet (dispatch : e.cause ≠ .dispatchIntent) (accept : e.cause ≠ .dispatchAccepted)
      (settle : e.cause.settlesAttempt = false) (books : b'.outstanding = b.outstanding)

/-- What one event does to the totals of the replay. -/
structure Posting (E : Environment) (ev : Evidence) (e : SchedulerEvent) (b b' : BudgetReplay) :
    Prop where
  booking : Booking E ev e b b'
  concurrency : b'.reserved .concurrency = b.reserved .concurrency + concurrencyChange e
  dispatches : b'.used .dispatches =
    b.used .dispatches + (if e.cause = .dispatchIntent then 1 else 0)
  retries : b'.used .retries = b.used .retries + (if e.spendsRetry then 1 else 0)
  reserved : ∀ r ∈ reservable, b'.reserved r =
    b.reserved r - e.leaseId.elim 0 (b.held · r) + e.leaseId.elim 0 (b'.held · r)
  unreserved : ∀ r, r ∉ reservable → r ≠ .concurrency → b'.reserved r = b.reserved r

/-- What a change of one total leaves. -/
theorem BudgetReplay.change_totals {r : Resource} {dr du : Int} (h : b.change r dr du = .ok b') :
    b'.outstanding = b.outstanding ∧
      (∀ s, b'.reserved s = b.reserved s + if s = r then dr else 0) ∧
      ∀ s, b'.used s = b.used s + if s = r then du else 0 := by
  obtain ⟨_, _, rfl⟩ := change_eq_ok h
  refine ⟨rfl, fun s => ?_, fun s => ?_⟩ <;>
  · by_cases hs : s = r
    · subst hs
      simp
    · simp [hs]

theorem BudgetReplay.changeIf_totals {c : Bool} {r : Resource} {dr du : Int}
    (h : b.changeIf c r dr du = .ok b') :
    b'.outstanding = b.outstanding ∧
      (∀ s, b'.reserved s = b.reserved s + if s = r ∧ c = true then dr else 0) ∧
      ∀ s, b'.used s = b.used s + if s = r ∧ c = true then du else 0 := by
  unfold changeIf at h
  split at h
  · next hc => simpa [hc] using change_totals h
  · next hc =>
    cases h
    simp [hc]

theorem BudgetReplay.changeAll_totals {amount : Resource → Int × Int}
    (h : b.changeAll amount = .ok b') :
    b'.outstanding = b.outstanding ∧
      (∀ s, b'.reserved s = b.reserved s + if s ∈ reservable then (amount s).1 else 0) ∧
      ∀ s, b'.used s = b.used s + if s ∈ reservable then (amount s).2 else 0 := by
  obtain ⟨_, rfl⟩ := changeAll_eq_ok h
  refine ⟨rfl, fun s => ?_, fun s => ?_⟩ <;>
  · simp only [changed]
    split <;> simp

theorem BudgetReplay.held_insert {books : Table BudgetReservation} {leaseId : String}
    {reservation : BudgetReservation} {r : Resource}
    (h : b.outstanding = books.insert leaseId reservation) :
    b.held leaseId r = reservation.amount r := by
  simp [held, h]

theorem BudgetReplay.held_erase {books : Table BudgetReservation} {leaseId : String} {r : Resource}
    (h : b.outstanding = books.erase leaseId) : b.held leaseId r = 0 := by
  simp [held, h]

@[simp] theorem BudgetEffect.none_budget : (BudgetEffect.none b).budget = b := rfl

/-- A resource that is reserved is neither counted nor timed. -/
theorem reservable_ne {r : Resource} (h : r ∈ reservable) :
    r ≠ .concurrency ∧ r ≠ .dispatches ∧ r ≠ .retries := by
  revert h
  cases r <;> decide

theorem posting_dispatch (hc : e.cause = .dispatchIntent)
    (h : replayDispatch E ev b e = .ok effect) : Posting E ev e b effect.budget := by
  simp only [replayDispatch, budgetMessage, bind_eq_ok, exists_unit, require_eq_ok, pure_eq_ok,
    fromOption_eq_ok] at h
  obtain ⟨m, ⟨id, hid, hm⟩, payload, hpayload, ⟨_, reservation, _⟩, _, ⟨_, hreservation, _⟩, b₁,
    hb₁, b₂, hb₂, b₃, hb₃, leaseId, hlease, hfree, rfl⟩ := h
  obtain ⟨hbooks₁, hreserved₁, hused₁⟩ := BudgetReplay.changeIf_totals hb₁
  obtain ⟨hbooks₂, hreserved₂, hused₂⟩ := BudgetReplay.change_totals hb₂
  obtain ⟨hbooks₃, hreserved₃, hused₃⟩ := BudgetReplay.changeAll_totals hb₃
  have hbooks : b₃.outstanding = b.outstanding := hbooks₃.trans (hbooks₂.trans hbooks₁)
  rw [Option.isNone_iff_eq_none, hbooks] at hfree
  have hmade : reservationOf E ev e = some (leaseId, reservation) := by
    simp [reservationOf, hc, hlease, hid, hm, hpayload, hreservation]
  refine ⟨.dispatched hc hmade hfree (by rw [hbooks]), ?_, ?_, ?_, fun r hr => ?_,
    fun r hr hne => ?_⟩
  · simp [hreserved₃, hreserved₂, hreserved₁, concurrencyChange, hc, reservable]
  · simp [hused₃, hused₂, hused₁, hc, reservable]
  · simp [hused₃, hused₂, hused₁, hc, reservable, SchedulerEvent.spendsRetry,
      EventCause.settlesAttempt]
  · simp [hlease, BudgetReplay.held, hbooks, hfree, hreserved₃, hreserved₂, hreserved₁, hr,
      reservable_ne hr]
  · simp [hreserved₃, hreserved₂, hreserved₁, hr, hne]

theorem posting_accepted (hc : e.cause = .dispatchAccepted)
    (h : replayAccepted b e = .ok effect) : Posting E ev e b effect.budget := by
  simp only [replayAccepted, bind_eq_ok, fromOption_eq_ok] at h
  obtain ⟨leaseId, hlease, reservation, hopen, h⟩ := h
  have hconcurrency : concurrencyChange e = 0 := by
    simp [concurrencyChange, hc, EventCause.settlesAttempt]
  have hretry : e.spendsRetry = false := by
    simp [SchedulerEvent.spendsRetry, hc, EventCause.settlesAttempt]
  split at h
  · next hzero =>
    cases h
    have hsame : b.outstanding =
        b.outstanding.insert leaseId { reservation with contextBytes := 0 } := by
      refine Table.ext fun k => ?_
      rw [Table.getElem?_insert]
      split
      · next hk =>
        rw [← hk, hopen]
        have : reservation.contextBytes = 0 := by simpa using hzero
        rw [← this]
      · rfl
    exact ⟨.accepted hc hlease hopen hsame, by simp [hconcurrency], by simp [hc], by simp [hretry],
      by simp [hlease], by simp⟩
  · simp only [bind_eq_ok, pure_eq_ok] at h
    obtain ⟨b₁, hb₁, rfl⟩ := h
    obtain ⟨hbooks, hreserved, hused⟩ := BudgetReplay.change_totals hb₁
    refine ⟨.accepted hc hlease hopen (by rw [hbooks]), ?_, ?_, ?_, fun r hr => ?_,
      fun r hr hne => ?_⟩
    · simp [hreserved, hconcurrency]
    · simp [hused, hc]
    · simp [hused, hretry]
    · cases r <;>
        simp_all [BudgetReplay.held, BudgetReservation.amount, reservable, Int.sub_eq_add_neg]
    · have : r ≠ .contextBytes := by
        rintro rfl
        exact hr (by decide)
      simp [hreserved, this]

theorem posting_terminal (hc : e.cause.settlesAttempt = true)
    (h : replayTerminal E ev b e = .ok effect) : Posting E ev e b effect.budget := by
  simp only [replayTerminal, bind_eq_ok, exists_unit, require_eq_ok, pure_eq_ok,
    fromOption_eq_ok] at h
  obtain ⟨leaseId, hlease, _, b₁, hb₁, actual, _, b₂, hb₂, b₃, hb₃, b₄, hb₄, rfl⟩ := h
  obtain ⟨hbooks₁, hreserved₁, hused₁⟩ := BudgetReplay.change_totals hb₁
  obtain ⟨hbooks₂, hreserved₂, hused₂⟩ := BudgetReplay.changeAll_totals hb₂
  obtain ⟨hbooks₃, hreserved₃, hused₃⟩ := BudgetReplay.changeAll_totals hb₃
  obtain ⟨hbooks₄, hreserved₄, hused₄⟩ := BudgetReplay.changeIf_totals hb₄
  have hbooks : b₄.outstanding = b.outstanding :=
    hbooks₄.trans (hbooks₃.trans (hbooks₂.trans hbooks₁))
  have hconcurrency : concurrencyChange e = -1 := by
    revert hc
    cases hcause : e.cause <;> simp [concurrencyChange, hcause, EventCause.settlesAttempt]
  have hdispatch : e.cause ≠ .dispatchIntent := by
    rintro heq
    rw [heq] at hc
    cases hc
  refine ⟨.settled hc hlease (by rw [hbooks]), ?_, ?_, ?_, fun r hr => ?_, fun r hr hne => ?_⟩
  · simp [hreserved₄, hreserved₃, hreserved₂, hreserved₁, hconcurrency, reservable]
  · simp [hused₄, hused₃, hused₂, hused₁, hdispatch, reservable]
  · simp [hused₄, hused₃, hused₂, hused₁, SchedulerEvent.spendsRetry, hc, reservable]
  · have hheld : b.held leaseId r =
        (((b.outstanding[leaseId]?).getD ⟨0, 0, 0, 0, 0⟩).amount r : Int) := by
      cases hopen : b.outstanding[leaseId]? <;> cases r <;>
        simp [BudgetReplay.held, hopen, BudgetReservation.amount]
    have herased : ({ b₄ with outstanding := b₄.outstanding.erase leaseId } : BudgetReplay).held
        leaseId r = 0 := BudgetReplay.held_erase rfl
    simp only [hlease, Option.elim_some, herased, hheld, hreserved₄, hreserved₃, hreserved₂,
      hreserved₁, hr, reservable_ne hr, if_true, if_false, false_and]
    omega
  · simp [hreserved₄, hreserved₃, hreserved₂, hreserved₁, hr, hne]

/-- An event that leaves the books of the leases and counts nothing but running tasks. -/
structure Idle (e : SchedulerEvent) : Prop where
  dispatch : e.cause ≠ .dispatchIntent
  accept : e.cause ≠ .dispatchAccepted
  settle : e.cause.settlesAttempt = false

theorem Idle.posting (h : Idle e) (hbooks : b'.outstanding = b.outstanding)
    (hreserved : ∀ r, b'.reserved r =
      b.reserved r + if r = .concurrency then concurrencyChange e else 0)
    (hused : ∀ r, r = .dispatches ∨ r = .retries → b'.used r = b.used r) : Posting E ev e b b' := by
  refine ⟨.quiet h.dispatch h.accept h.settle hbooks, by simp [hreserved],
    by simp [hused, h.dispatch], by simp [hused, SchedulerEvent.spendsRetry, h.settle],
    fun r hr => ?_, fun r _ hne => by simp [hreserved, hne]⟩
  have hheld : b'.held = b.held := by
    funext leaseId s
    simp [BudgetReplay.held, hbooks]
  simp [hreserved, reservable_ne hr, hheld]

theorem Idle.posting_same (h : Idle e) (hconcurrency : concurrencyChange e = 0) :
    Posting E ev e b b :=
  h.posting rfl (by simp [hconcurrency]) (by simp)

/-- Every event of the log is one posting. -/
theorem posting_of_effect (h : budgetEffect E ev b e = .ok effect) :
    Posting E ev e b effect.budget := by
  unfold budgetEffect at h
  split at h
  · next hc =>
    cases h
    exact Idle.posting_same ⟨by simp [hc], by simp [hc], by rw [hc]; rfl⟩
      (by simp [concurrencyChange, hc, EventCause.settlesAttempt])
  unfold replayBudgetEvent at h
  split at h
  · next hc =>
    simp only [bind_eq_ok, pure_eq_ok] at h
    obtain ⟨b₁, hb₁, rfl⟩ := h
    obtain ⟨hbooks, hreserved, hused⟩ := BudgetReplay.change_totals hb₁
    refine Idle.posting ⟨by simp [hc], by simp [hc], by rw [hc]; rfl⟩ hbooks ?_ ?_
    · simp [hreserved, concurrencyChange, hc]
    · rintro r (rfl | rfl) <;> simp [hused]
  · next hc => exact posting_dispatch hc h
  · next hc => exact posting_accepted hc h
  iterate 5
    · next hc => exact posting_terminal (by rw [hc]; rfl) h
  · next hc =>
    have hidle : Idle e := ⟨by simp [hc], by simp [hc], by rw [hc]; rfl⟩
    split at h
    · next hblocked =>
      simp only [bind_eq_ok, pure_eq_ok] at h
      obtain ⟨b₁, hb₁, rfl⟩ := h
      obtain ⟨hbooks, hreserved, hused⟩ := BudgetReplay.change_totals hb₁
      refine hidle.posting hbooks ?_ ?_
      · simp [hreserved, concurrencyChange, hc, hblocked]
      · rintro r (rfl | rfl) <;> simp [hused]
    · next hopen =>
      cases h
      exact hidle.posting_same (by simp [concurrencyChange, hc, hopen])
  · next hc =>
    simp only [replayWallTime, bind_eq_ok, exists_unit, require_eq_ok, pure_eq_ok] at h
    obtain ⟨_, b₁, hb₁, rfl⟩ := h
    obtain ⟨hbooks, hreserved, hused⟩ := BudgetReplay.change_totals hb₁
    refine Idle.posting ⟨by simp [hc], by simp [hc], by rw [hc]; rfl⟩ hbooks ?_ ?_
    · simp [hreserved, concurrencyChange, hc, EventCause.settlesAttempt]
    · rintro r (rfl | rfl) <;> simp [hused]
  · next hc =>
    simp only [bind_eq_ok, exists_unit, require_eq_ok, pure_eq_ok] at h
    obtain ⟨_, _, _, rfl⟩ := h
    exact Idle.posting_same ⟨by simp [hc], by simp [hc], by rw [hc]; rfl⟩
      (by simp [concurrencyChange, hc, EventCause.settlesAttempt])
  · next hother =>
    cases h
    have hidle : Idle e := by
      refine ⟨?_, ?_, ?_⟩ <;> cases hc : e.cause <;> simp_all [EventCause.settlesAttempt]
    refine hidle.posting_same ?_
    cases hc : e.cause <;> simp_all [concurrencyChange, EventCause.settlesAttempt]

/-- An event without a snapshot leaves the replay as it is. -/
theorem budgetEffect_unchanged (h : budgetEffect E ev b e = .ok effect)
    (hc : effect.changed = false) : effect.budget = b := by
  unfold budgetEffect at h
  split at h
  · cases h
    cases hc
  unfold replayBudgetEvent at h
  split at h
  · simp only [bind_eq_ok, pure_eq_ok] at h
    obtain ⟨_, _, rfl⟩ := h
    cases hc
  · simp only [replayDispatch, bind_eq_ok, exists_unit, pure_eq_ok] at h
    obtain ⟨_, _, _, _, _, _, _, _, _, _, _, _, _, _, _, _, rfl⟩ := h
    cases hc
  · simp only [replayAccepted, bind_eq_ok, fromOption_eq_ok] at h
    obtain ⟨_, _, _, _, h⟩ := h
    split at h
    · cases h
      rfl
    · simp only [bind_eq_ok, pure_eq_ok] at h
      obtain ⟨_, _, rfl⟩ := h
      cases hc
  iterate 5
    · simp only [replayTerminal, bind_eq_ok, exists_unit, pure_eq_ok] at h
      obtain ⟨_, _, _, _, _, _, _, _, _, _, _, _, _, rfl⟩ := h
      cases hc
  · split at h
    · simp only [bind_eq_ok, pure_eq_ok] at h
      obtain ⟨_, _, rfl⟩ := h
      cases hc
    · cases h
      rfl
  · simp only [replayWallTime, bind_eq_ok, exists_unit, pure_eq_ok] at h
    obtain ⟨_, _, _, rfl⟩ := h
    cases hc
  · simp only [bind_eq_ok, exists_unit, pure_eq_ok] at h
    obtain ⟨_, _, _, rfl⟩ := h
    rfl
  · cases h
    rfl

/-! ## The books of a log -/

variable {pre log : List Entry} {entry : Entry} {leaseId : String} {r : Resource}

/-- The reservations of the dispatch intents of a log, under their leases. -/
def reservations (E : Environment) (ev : Evidence) (log : List Entry) :
    List (String × BudgetReservation) :=
  log.filterMap fun entry => reservationOf E ev entry.event

theorem reservations_concat : reservations E ev (pre ++ [entry]) =
    reservations E ev pre ++ (reservationOf E ev entry.event).toList := by
  cases h : reservationOf E ev entry.event <;> simp [reservations, h]

/-- An event ended the attempt of a lease. -/
def attemptClosed (log : List Entry) (leaseId : String) : Bool :=
  log.any fun entry =>
    decide (entry.event.leaseId = some leaseId) && entry.event.cause.settlesAttempt

theorem attemptClosed_concat : attemptClosed (pre ++ [entry]) leaseId =
    (attemptClosed pre leaseId ||
      (decide (entry.event.leaseId = some leaseId) && entry.event.cause.settlesAttempt)) := by
  simp [attemptClosed]

theorem settled_concat : settled (pre ++ [entry]) leaseId r =
    (settled pre leaseId r || (decide (entry.event.leaseId = some leaseId) &&
      (entry.event.cause.settlesAttempt ||
        (decide (entry.event.cause = .dispatchAccepted) && decide (r = .contextBytes))))) := by
  simp [settled]

/-- What the replay has booked at the end of a log. -/
structure Books (E : Environment) (ev : Evidence) (log : List Entry) (b : BudgetReplay) : Prop where
  /-- A lease is dispatched once. -/
  distinct : ((reservations E ev log).map (·.1)).Nodup
  /-- The leases with an entry in the books are the dispatched ones whose attempt is open. -/
  outstanding : ∀ leaseId, (b.outstanding[leaseId]?).isSome ↔
    leaseId ∈ (reservations E ev log).map (·.1) ∧ attemptClosed log leaseId = false
  /-- What is booked is what was reserved and is not settled. -/
  held : ∀ d ∈ reservations E ev log, ∀ r ∈ reservable,
    b.held d.1 r = if settled log d.1 r then 0 else (d.2.amount r : Int)
  /-- Only a dispatched lease is acknowledged. -/
  acknowledged : ∀ leaseId r, settled log leaseId r = true → attemptClosed log leaseId = true ∨
    leaseId ∈ (reservations E ev log).map (·.1)
  reserved : ∀ r ∈ reservable, b.reserved r = total (fun d => b.held d.1 r) (reservations E ev log)
  unreserved : ∀ r, r ∉ reservable → r ≠ .concurrency → b.reserved r = 0
  dispatches : b.used .dispatches = (reservations E ev log).length
  retries : b.used .retries = log.countP fun entry => entry.event.spendsRetry

theorem books_nil : Books E ev [] .initial where
  distinct := by simp [reservations]
  outstanding := by simp [reservations, BudgetReplay.initial]
  held := by simp [reservations]
  acknowledged := by simp [settled]
  reserved := by simp [reservations, BudgetReplay.initial]
  unreserved := by simp [BudgetReplay.initial]
  dispatches := by simp [reservations, BudgetReplay.initial]
  retries := by simp [BudgetReplay.initial]

/-- The books of other leases stay as they are, so the total changes by the difference at one. -/
theorem total_held {ds : List (String × BudgetReservation)} (hds : (ds.map (·.1)).Nodup)
    (hothers : ∀ other, other ≠ leaseId → b'.held other r = b.held other r)
    (habsent : leaseId ∉ ds.map (·.1) → b'.held leaseId r = b.held leaseId r) :
    total (fun d => b'.held d.1 r) ds =
      total (fun d => b.held d.1 r) ds - b.held leaseId r + b'.held leaseId r := by
  by_cases hmem : leaseId ∈ ds.map (·.1)
  · obtain ⟨d, hd, rfl⟩ := List.mem_map.mp hmem
    exact total_posting hds hd fun other _ hne => hothers other.1 hne
  · have hsame : total (fun d => b'.held d.1 r) ds = total (fun d => b.held d.1 r) ds :=
      total_congr fun d hd => hothers d.1 fun heq => hmem (heq ▸ List.mem_map_of_mem hd)
    rw [hsame, habsent hmem]
    omega

/-- An event changes the books of no lease but the one it names. -/
theorem Booking.others (h : Booking E ev e b b') {other : String} (hne : e.leaseId ≠ some other) :
    b'.outstanding[other]? = b.outstanding[other]? := by
  cases h with
  | dispatched cause made free books =>
    have hlease := (leaseId_of_reservation made).2
    rw [books, Table.getElem?_insert, if_neg]
    rintro rfl
    exact hne hlease
  | accepted cause named open_ books =>
    rw [books, Table.getElem?_insert, if_neg]
    rintro rfl
    exact hne named
  | settled cause named books =>
    rw [books, Table.getElem?_erase, if_neg]
    rintro rfl
    exact hne named
  | quiet _ _ _ books => rw [books]

namespace Books

variable (h : Books E ev pre b)
include h

/-- A lease without a dispatch or with a closed attempt has nothing in the books. -/
theorem none_of_closed (hclosed : attemptClosed pre leaseId = true) :
    b.outstanding[leaseId]? = none := by
  rw [← Option.not_isSome_iff_eq_none, h.outstanding]
  simp [hclosed]

theorem none_of_not_mem (hmem : leaseId ∉ (reservations E ev pre).map (·.1)) :
    b.outstanding[leaseId]? = none := by
  rw [← Option.not_isSome_iff_eq_none, h.outstanding]
  exact fun hd => hmem hd.1

/-- A free lease whose attempt is open was never dispatched. -/
theorem fresh (hfree : b.outstanding[leaseId]? = none)
    (hopen : attemptClosed pre leaseId = false) :
    leaseId ∉ (reservations E ev pre).map (·.1) ∧ ∀ r, settled pre leaseId r = false := by
  have hnew : leaseId ∉ (reservations E ev pre).map (·.1) := fun hmem => by
    have := (h.outstanding leaseId).mpr ⟨hmem, hopen⟩
    simp [hfree] at this
  refine ⟨hnew, fun r => ?_⟩
  by_contra hsettled
  rcases h.acknowledged leaseId r (by simpa using hsettled) with hclosed | hmem
  · simp [hopen] at hclosed
  · exact hnew hmem

end Books

/-- The amounts under the leases an event does not name stay as they are. -/
theorem Booking.held_others (h : Booking E ev e b b') {other : String}
    (hne : e.leaseId ≠ some other) : b'.held other r = b.held other r := by
  rw [BudgetReplay.held, h.others hne, BudgetReplay.held]

theorem settled_of_ne (h : entry.event.leaseId ≠ some leaseId) :
    settled (pre ++ [entry]) leaseId r = settled pre leaseId r := by
  simp [settled_concat, h]

theorem attemptClosed_of_ne (h : entry.event.leaseId ≠ some leaseId) :
    attemptClosed (pre ++ [entry]) leaseId = attemptClosed pre leaseId := by
  simp [attemptClosed_concat, h]

/-- An event that dispatches nothing adds no reservation. -/
theorem reservations_of_cause (h : entry.event.cause ≠ .dispatchIntent) :
    reservations E ev (pre ++ [entry]) = reservations E ev pre := by
  simp [reservations_concat, reservationOf, h]

/-- The counters of an event, whatever it books. -/
theorem Books.counters (h : Books E ev pre b) (hpost : Posting E ev entry.event b b')
    (hlength : ((reservations E ev (pre ++ [entry])).length : Int) =
      (reservations E ev pre).length + if entry.event.cause = .dispatchIntent then 1 else 0) :
    (∀ r, r ∉ reservable → r ≠ .concurrency → b'.reserved r = 0) ∧
      b'.used .dispatches = (reservations E ev (pre ++ [entry])).length ∧
      b'.used .retries = (pre ++ [entry]).countP fun entry => entry.event.spendsRetry := by
  refine ⟨fun r hr hne => by rw [hpost.unreserved r hr hne, h.unreserved r hr hne], ?_, ?_⟩
  · rw [hpost.dispatches, h.dispatches, hlength]
  · rw [hpost.retries, h.retries, List.countP_append, List.countP_singleton]
    split <;> simp

theorem Books.post_dispatched (h : Books E ev pre b) (hpost : Posting E ev entry.event b b')
    {reservation : BudgetReservation} (cause : entry.event.cause = .dispatchIntent)
    (made : reservationOf E ev entry.event = some (leaseId, reservation))
    (free : b.outstanding[leaseId]? = none)
    (books : b'.outstanding = b.outstanding.insert leaseId reservation)
    (hopen : attemptClosed pre leaseId = false) : Books E ev (pre ++ [entry]) b' := by
  have hlease := (leaseId_of_reservation made).2
  have hlog : reservations E ev (pre ++ [entry]) =
      reservations E ev pre ++ [(leaseId, reservation)] := by
    rw [reservations_concat, made]
    rfl
  obtain ⟨hnew, hunsettled⟩ := h.fresh free hopen
  have hclosed (other : String) :
      attemptClosed (pre ++ [entry]) other = attemptClosed pre other := by
    simp [attemptClosed_concat, cause, EventCause.settlesAttempt]
  have hsettled (other : String) (r : Resource) :
      settled (pre ++ [entry]) other r = settled pre other r := by
    simp [settled_concat, cause, EventCause.settlesAttempt]
  have hbooked (r : Resource) : b'.held leaseId r = reservation.amount r :=
    BudgetReplay.held_insert books
  have hbefore (r : Resource) : b.held leaseId r = 0 := by simp [BudgetReplay.held, free]
  have hothers (other : String) (r : Resource) (hne : other ≠ leaseId) :
      b'.held other r = b.held other r :=
    hpost.booking.held_others (by simpa [hlease] using hne.symm)
  have hkept (r : Resource) (d : String × BudgetReservation) (hd : d ∈ reservations E ev pre) :
      b'.held d.1 r = b.held d.1 r :=
    hothers d.1 r fun heq => hnew (heq ▸ List.mem_map_of_mem hd)
  obtain ⟨hunreserved, hdispatches, hretries⟩ := h.counters hpost (by simp [hlog, cause])
  refine ⟨?_, fun other => ?_, ?_, ?_, fun r hr => ?_, hunreserved, hdispatches, hretries⟩
  · rw [hlog, List.map_append, List.map_singleton, List.nodup_append]
    refine ⟨h.distinct, List.nodup_singleton _, fun other hother same hsame => ?_⟩
    rw [List.mem_singleton.mp hsame]
    rintro rfl
    exact hnew hother
  · rw [hclosed, hlog, books, Table.getElem?_insert, List.map_append, List.mem_append]
    by_cases hsame : leaseId = other
    · subst hsame
      simp [hopen]
    · rw [if_neg hsame, h.outstanding]
      simp [Ne.symm hsame]
  · intro d hd r hr
    rw [hsettled]
    rw [hlog] at hd
    rcases List.mem_append.mp hd with hd | hd
    · rw [hkept r d hd, h.held d hd r hr]
    · rw [List.mem_singleton.mp hd, hbooked, hunsettled]
      rfl
  · intro other r hother
    rw [hsettled] at hother
    rw [hclosed, hlog, List.map_append, List.mem_append]
    exact (h.acknowledged other r hother).imp_right .inl
  · have hreserved := hpost.reserved r hr
    rw [hlease, Option.elim_some, Option.elim_some, hbefore, h.reserved r hr] at hreserved
    rw [hreserved, hlog, total_append, total_cons, total_nil, total_congr (hkept r)]
    dsimp only
    omega

/-- The books after an event that touches the books of one dispatched lease, or of none. -/
theorem Books.reserved_of_others (h : Books E ev pre b) (hpost : Posting E ev entry.event b b')
    (hr : r ∈ reservable)
    (habsent : ∀ leaseId, entry.event.leaseId = some leaseId →
      leaseId ∉ (reservations E ev pre).map (·.1) → b'.held leaseId r = b.held leaseId r) :
    b'.reserved r = total (fun d => b'.held d.1 r) (reservations E ev pre) := by
  rw [hpost.reserved r hr, h.reserved r hr]
  cases hlease : entry.event.leaseId with
  | none =>
    rw [total_congr fun d _ => hpost.booking.held_others (by simp [hlease])]
    simp
  | some leaseId =>
    rw [total_held h.distinct (fun other hne => hpost.booking.held_others
      (by simpa [hlease] using hne.symm)) (habsent leaseId hlease)]
    rfl

theorem Books.post_settled (h : Books E ev pre b) (hpost : Posting E ev entry.event b b')
    (cause : entry.event.cause.settlesAttempt = true) (named : entry.event.leaseId = some leaseId)
    (books : b'.outstanding = b.outstanding.erase leaseId) : Books E ev (pre ++ [entry]) b' := by
  have hdispatch : entry.event.cause ≠ .dispatchIntent := fun hc => by
    rw [hc] at cause
    cases cause
  have hlog : reservations E ev (pre ++ [entry]) = reservations E ev pre :=
    reservations_of_cause hdispatch
  have herased (r : Resource) : b'.held leaseId r = 0 := BudgetReplay.held_erase books
  obtain ⟨hunreserved, hdispatches, hretries⟩ := h.counters hpost (by simp [hlog, hdispatch])
  refine ⟨hlog ▸ h.distinct, fun other => ?_, fun d hd r hr => ?_, fun other r hother => ?_,
    fun r hr => ?_, hunreserved, hdispatches, hretries⟩
  · rw [books, Table.getElem?_erase]
    by_cases hsame : leaseId = other
    · simp [hsame, attemptClosed_concat, named, cause]
    · rw [if_neg hsame, hlog, attemptClosed_of_ne (by simpa [named] using hsame), h.outstanding]
  · rw [hlog] at hd
    by_cases hsame : d.1 = leaseId
    · rw [hsame, herased, settled_concat, named, cause]
      simp
    · have hne : entry.event.leaseId ≠ some d.1 := by simpa [named] using Ne.symm hsame
      rw [hpost.booking.held_others hne, settled_of_ne hne, h.held d hd r hr]
  · by_cases hsame : leaseId = other
    · exact .inl (by simp [attemptClosed_concat, named, cause, hsame])
    · have hne : entry.event.leaseId ≠ some other := by simpa [named] using hsame
      rw [settled_of_ne hne] at hother
      rw [attemptClosed_of_ne hne, hlog]
      exact h.acknowledged other r hother
  · rw [hlog]
    refine h.reserved_of_others hpost hr fun other hother hmem => ?_
    obtain rfl : leaseId = other := Option.some.inj (named.symm.trans hother)
    rw [herased, BudgetReplay.held, h.none_of_not_mem hmem]
    rfl

theorem Books.post_accepted (h : Books E ev pre b) (hpost : Posting E ev entry.event b b')
    {reservation : BudgetReservation} (cause : entry.event.cause = .dispatchAccepted)
    (named : entry.event.leaseId = some leaseId)
    (hfound : b.outstanding[leaseId]? = some reservation)
    (books : b'.outstanding = b.outstanding.insert leaseId { reservation with contextBytes := 0 }) :
    Books E ev (pre ++ [entry]) b' := by
  have hlog : reservations E ev (pre ++ [entry]) = reservations E ev pre :=
    reservations_of_cause (by simp [cause])
  have hclosed (other : String) :
      attemptClosed (pre ++ [entry]) other = attemptClosed pre other := by
    simp [attemptClosed_concat, cause, EventCause.settlesAttempt]
  obtain ⟨hmem, hopen⟩ := (h.outstanding leaseId).mp (by simp [hfound])
  obtain ⟨hunreserved, hdispatches, hretries⟩ := h.counters hpost (by simp [hlog, cause])
  refine ⟨hlog ▸ h.distinct, fun other => ?_, fun d hd r hr => ?_, fun other r hother => ?_,
    fun r hr => ?_, hunreserved, hdispatches, hretries⟩
  · rw [hlog, hclosed, books, Table.getElem?_insert]
    by_cases hsame : leaseId = other
    · subst hsame
      simp [hmem, hopen]
    · rw [if_neg hsame, h.outstanding]
  · rw [hlog] at hd
    by_cases hsame : d.1 = leaseId
    · have hbefore := h.held d hd r hr
      rw [BudgetReplay.held, hsame, hfound, Option.elim_some] at hbefore
      rw [hsame, BudgetReplay.held_insert books, settled_concat, named, cause]
      -- the acknowledgement settles the context bytes and nothing else
      by_cases hr' : r = .contextBytes
      · subst hr'
        simp [BudgetReservation.amount]
      · have hamount : ({ reservation with contextBytes := 0 } : BudgetReservation).amount r =
            reservation.amount r := by
          cases r <;> simp_all [BudgetReservation.amount]
        rw [hamount, hbefore]
        simp [hr', EventCause.settlesAttempt]
    · have hne : entry.event.leaseId ≠ some d.1 := by simpa [named] using Ne.symm hsame
      rw [hpost.booking.held_others hne, settled_of_ne hne, h.held d hd r hr]
  · rw [hclosed, hlog]
    by_cases hsame : leaseId = other
    · exact .inr (hsame ▸ hmem)
    · rw [settled_of_ne (by simpa [named] using hsame)] at hother
      exact h.acknowledged other r hother
  · rw [hlog]
    refine h.reserved_of_others hpost hr fun other hother hother_mem => ?_
    obtain rfl : leaseId = other := Option.some.inj (named.symm.trans hother)
    exact absurd hmem hother_mem

theorem Books.post_quiet (h : Books E ev pre b) (hpost : Posting E ev entry.event b b')
    (dispatch : entry.event.cause ≠ .dispatchIntent)
    (accept : entry.event.cause ≠ .dispatchAccepted)
    (settle : entry.event.cause.settlesAttempt = false) (books : b'.outstanding = b.outstanding) :
    Books E ev (pre ++ [entry]) b' := by
  have hlog : reservations E ev (pre ++ [entry]) = reservations E ev pre :=
    reservations_of_cause dispatch
  have hclosed (other : String) :
      attemptClosed (pre ++ [entry]) other = attemptClosed pre other := by
    simp [attemptClosed_concat, settle]
  have hsettled (other : String) (r : Resource) :
      settled (pre ++ [entry]) other r = settled pre other r := by
    simp [settled_concat, settle, accept]
  have hheld (other : String) (r : Resource) : b'.held other r = b.held other r := by
    rw [BudgetReplay.held, books, BudgetReplay.held]
  obtain ⟨hunreserved, hdispatches, hretries⟩ := h.counters hpost (by simp [hlog, dispatch])
  refine ⟨hlog ▸ h.distinct, fun other => ?_, fun d hd r hr => ?_, fun other r hother => ?_,
    fun r hr => ?_, hunreserved, hdispatches, hretries⟩
  · rw [hlog, hclosed, books, h.outstanding]
  · rw [hlog] at hd
    rw [hheld, hsettled, h.held d hd r hr]
  · rw [hsettled] at hother
    rw [hclosed, hlog]
    exact h.acknowledged other r hother
  · rw [hlog]
    exact h.reserved_of_others hpost hr fun other _ _ => hheld other r

/-- Every posting keeps the books, when a dispatch never reuses the lease of a closed attempt. -/
theorem Books.post (h : Books E ev pre b) (hpost : Posting E ev entry.event b b')
    (hopen : ∀ leaseId, entry.event.cause = .dispatchIntent → entry.event.leaseId = some leaseId →
      attemptClosed pre leaseId = false) : Books E ev (pre ++ [entry]) b' := by
  cases hpost.booking with
  | dispatched cause made free books =>
    exact h.post_dispatched hpost cause made free books
      (hopen _ cause (leaseId_of_reservation made).2)
  | accepted cause named open_ books => exact h.post_accepted hpost cause named open_ books
  | settled cause named books => exact h.post_settled hpost cause named books
  | quiet dispatch accept settle books => exact h.post_quiet hpost dispatch accept settle books

end Sdaqf
