import Mathlib.Data.List.Nodup
import Mathlib.Logic.Function.Basic

/-!
# Stores behind a lock file

Any number of calls change the content of one store. A call creates the lock file, reads the store,
computes the next content from what it read and an input of that moment, replaces the content at
once and removes the lock file. Every other step may fail, and a call that cannot remove the lock
file halts and keeps it. A call that crashes takes no further step.

Only one call at a time is between its lock and its end, so the content is what the calls that
replaced it computed one after the other, in the order in which they replaced it.
-/

namespace LockedStore

variable {ι κ σ ε : Type}

/-- How far a call has come. -/
inductive Phase (σ ε : Type)
  | waiting
  | locked
  | prepared (next : σ)
  | published (next : σ)
  | raising (error : ε)
  | returned (next : σ)
  | raised (error : ε)
  | halted (replaced : Bool)

/-- The call owns the lock file. -/
def Phase.holds : Phase σ ε → Bool
  | .locked | .prepared _ | .published _ | .raising _ | .halted _ => true
  | _ => false

/-- The call has replaced the content. -/
def Phase.replaced : Phase σ ε → Bool
  | .published _ | .returned _ | .halted true => true
  | _ => false

structure State (ι σ ε : Type) where
  content : σ
  lock : Option ι
  phase : ι → Phase σ ε

/-- No call has started. -/
def State.start (content : σ) : State ι σ ε where
  content
  lock := none
  phase _ := .waiting

/-- What a call does next. The input of a call is taken when it reads the store. -/
inductive Event (ι κ ε : Type)
  | refuse (i : ι) (error : ε)
  | acquire (i : ι)
  | read (i : ι) (input : κ)
  | fail (i : ι) (error : ε)
  | publish (i : ι)
  | release (i : ι)
  | halt (i : ι)

def State.setLock (s : State ι σ ε) (lock : Option ι) : State ι σ ε := ⟨s.content, lock, s.phase⟩

def State.setContent (s : State ι σ ε) (content : σ) : State ι σ ε := ⟨content, s.lock, s.phase⟩

section Steps

variable [DecidableEq ι]

def State.become (s : State ι σ ε) (i : ι) (phase : Phase σ ε) : State ι σ ε :=
  ⟨s.content, s.lock, Function.update s.phase i phase⟩

variable (change : ι → κ → σ → Except ε σ)

/-- One step of one call. -/
inductive Step (s : State ι σ ε) : Event ι κ ε → State ι σ ε → Prop
  | refuse {i error} (h : s.phase i = .waiting) :
      Step s (.refuse i error) (s.become i (.raised error))
  | acquire {i} (h : s.phase i = .waiting) (hlock : s.lock = none) :
      Step s (.acquire i) ((s.become i .locked).setLock (some i))
  | read {i input next} (h : s.phase i = .locked) (hnext : change i input s.content = .ok next) :
      Step s (.read i input) (s.become i (.prepared next))
  | reject {i input error} (h : s.phase i = .locked)
      (herror : change i input s.content = .error error) :
      Step s (.read i input) (s.become i (.raising error))
  | failLocked {i error} (h : s.phase i = .locked) :
      Step s (.fail i error) (s.become i (.raising error))
  | failPrepared {i error next} (h : s.phase i = .prepared next) :
      Step s (.fail i error) (s.become i (.raising error))
  | publish {i next} (h : s.phase i = .prepared next) :
      Step s (.publish i) ((s.become i (.published next)).setContent next)
  | finish {i next} (h : s.phase i = .published next) :
      Step s (.release i) ((s.become i (.returned next)).setLock none)
  | giveUp {i error} (h : s.phase i = .raising error) :
      Step s (.release i) ((s.become i (.raised error)).setLock none)
  | haltPublished {i next} (h : s.phase i = .published next) :
      Step s (.halt i) (s.become i (.halted true))
  | haltRaising {i error} (h : s.phase i = .raising error) :
      Step s (.halt i) (s.become i (.halted false))

variable (allowed : State ι σ ε → Event ι κ ε → Prop)

/-- The states that steps reach which are all allowed. -/
inductive Run (s : State ι σ ε) : List (Event ι κ ε) → State ι σ ε → Prop
  | start : Run s [] s
  | step {events t e u} (hrun : Run s events t) (hallowed : allowed t e) (hstep : Step change t e u) :
      Run s (events ++ [e]) u

end Steps

/-! ## What holds along a run -/

/-- The call that replaces the content in an event. -/
def Event.publisher : Event ι κ ε → Option ι
  | .publish i => some i
  | _ => none

/-- The calls that replaced the content, in their order. -/
def published (events : List (Event ι κ ε)) : List ι := events.filterMap Event.publisher

/-- What the state of a store is after some events. -/
structure Holds (change : ι → κ → σ → Except ε σ) (events : List (Event ι κ ε))
    (s : State ι σ ε) : Prop where
  owner : ∀ i, s.lock = some i ↔ (s.phase i).holds = true
  prepared : ∀ i next, s.phase i = .prepared next →
    ∃ input, change i input s.content = .ok next
  replaced : ∀ i, i ∈ published events ↔ (s.phase i).replaced = true
  nodup : (published events).Nodup

variable {change : ι → κ → σ → Except ε σ} {start : σ} {events : List (Event ι κ ε)}
  {s t u : State ι σ ε} {e : Event ι κ ε} {i j : ι}

theorem published_append (e : Event ι κ ε) :
    published (events ++ [e]) = published events ++ e.publisher.toList := by
  cases h : e.publisher <;> simp [published, h]

theorem holds_start : Holds change ([] : List (Event ι κ ε)) (.start start) where
  owner i := by simp [State.start, Phase.holds]
  prepared i next h := nomatch h
  replaced i := by simp [published, State.start, Phase.replaced]
  nodup := List.nodup_nil

theorem Holds.alone (h : Holds change events s) (hi : (s.phase i).holds = true)
    (hj : (s.phase j).holds = true) : i = j :=
  Option.some.inj (((h.owner i).mpr hi).symm.trans ((h.owner j).mpr hj))

@[simp] theorem setLock_phase (lock : Option ι) : (s.setLock lock).phase = s.phase := rfl

@[simp] theorem setLock_lock (lock : Option ι) : (s.setLock lock).lock = lock := rfl

@[simp] theorem setContent_phase (content : σ) : (s.setContent content).phase = s.phase := rfl

@[simp] theorem setContent_lock (content : σ) : (s.setContent content).lock = s.lock := rfl

@[simp] theorem setLock_content (lock : Option ι) : (s.setLock lock).content = s.content := rfl

@[simp] theorem setContent_content (content : σ) : (s.setContent content).content = content := rfl

variable [DecidableEq ι]

@[simp] theorem become_content (p : Phase σ ε) : (s.become i p).content = s.content := rfl

@[simp] theorem become_lock (p : Phase σ ε) : (s.become i p).lock = s.lock := rfl

@[simp] theorem become_self (p : Phase σ ε) : (s.become i p).phase i = p := Function.update_self ..

theorem become_of_ne (p : Phase σ ε) (h : j ≠ i) : (s.become i p).phase j = s.phase j :=
  Function.update_of_ne h ..

theorem become_phase (p : Phase σ ε) :
    (s.become i p).phase j = if j = i then p else s.phase j := by
  by_cases h : j = i
  · rw [if_pos h, h, become_self]
  · rw [if_neg h, become_of_ne p h]

/-- A step in which a call neither takes nor loses the lock and the content stays. -/
theorem Holds.become (h : Holds change events s) {p : Phase σ ε}
    (hevent : e.publisher = none) (hholds : p.holds = (s.phase i).holds)
    (hreplaced : p.replaced = (s.phase i).replaced)
    (hprepared : ∀ next, p = .prepared next → ∃ input, change i input s.content = .ok next) :
    Holds change (events ++ [e]) (s.become i p) := by
  have hsame : published (events ++ [e]) = published events := by
    rw [published_append, hevent, Option.toList_none, List.append_nil]
  refine ⟨fun j => ?_, fun j next hnext => ?_, fun j => ?_, hsame ▸ h.nodup⟩
  · rw [become_lock, h.owner, become_phase]
    split_ifs with hj
    · rw [hholds, hj]
    · rfl
  · rw [become_phase] at hnext
    split_ifs at hnext with hj
    · exact hj ▸ hprepared next hnext
    · exact h.prepared j next hnext
  · rw [hsame, h.replaced, become_phase]
    split_ifs with hj
    · rw [hreplaced, hj]
    · rfl

/-- A step in which the owner gives the lock back. -/
theorem Holds.leave (h : Holds change events s) {p : Phase σ ε}
    (hevent : e.publisher = none) (howner : (s.phase i).holds = true) (hholds : p.holds = false)
    (hreplaced : p.replaced = (s.phase i).replaced) :
    Holds change (events ++ [e]) ((s.become i p).setLock none) := by
  have hsame : published (events ++ [e]) = published events := by
    rw [published_append, hevent, Option.toList_none, List.append_nil]
  refine ⟨fun j => ?_, fun j next hnext => ?_, fun j => ?_, hsame ▸ h.nodup⟩
  · rw [setLock_phase, become_phase]
    split_ifs with hj
    · simp [hholds]
    · have hnot : (s.phase j).holds ≠ true := fun hheld => hj (h.alone hheld howner)
      simp [hnot]
  · simp only [setLock_phase, become_phase] at hnext
    split_ifs at hnext with hj
    · rw [hnext] at hholds
      cases hholds
    · exact h.prepared j next hnext
  · simp only [hsame, h.replaced, setLock_phase, become_phase]
    split_ifs with hj
    · rw [hreplaced, hj]
    · rfl

/-- A call takes the lock that nobody owns. -/
theorem Holds.acquire (h : Holds change events s) (hi : s.phase i = .waiting)
    (hlock : s.lock = none) :
    Holds change (events ++ [(.acquire i : Event ι κ ε)])
      ((s.become i .locked).setLock (some i)) := by
  have hsame : published (events ++ [(.acquire i : Event ι κ ε)]) = published events := by
    rw [published_append]
    simp [Event.publisher]
  refine ⟨fun j => ?_, fun j next hnext => ?_, fun j => ?_, hsame ▸ h.nodup⟩
  · rw [setLock_phase, become_phase]
    split_ifs with hj
    · simp [hj, Phase.holds]
    · have hnot : (s.phase j).holds ≠ true := fun hheld => by
        have howned := (h.owner j).mpr hheld
        rw [hlock] at howned
        cases howned
      simp [hnot, Ne.symm hj]
  · simp only [setLock_phase, become_phase] at hnext
    split_ifs at hnext
    exact h.prepared j next hnext
  · simp only [hsame, h.replaced, setLock_phase, become_phase]
    split_ifs with hj
    · rw [hj, hi]
      rfl
    · rfl

/-- The owner replaces the content by what it computed from it. -/
theorem Holds.publish (h : Holds change events s) {next : σ} (hi : s.phase i = .prepared next) :
    Holds change (events ++ [(.publish i : Event ι κ ε)])
      ((s.become i (.published next)).setContent next) := by
  have hmore : published (events ++ [(.publish i : Event ι κ ε)]) = published events ++ [i] := by
    rw [published_append, Event.publisher, Option.toList_some]
  have howner : (s.phase i).holds = true := by rw [hi, Phase.holds]
  have hnew : i ∉ published events := by
    rw [h.replaced, hi]
    exact Bool.false_ne_true
  refine ⟨fun j => ?_, fun j other hother => ?_, fun j => ?_, ?_⟩
  · rw [setContent_lock, become_lock, setContent_phase, become_phase, h.owner]
    split_ifs with hj
    · rw [hj, howner, Phase.holds]
    · rfl
  · rw [setContent_phase, become_phase] at hother
    split_ifs at hother with hj
    have hheld : (s.phase j).holds = true := by rw [hother, Phase.holds]
    exact absurd (h.alone hheld howner) hj
  · rw [hmore, List.mem_append, List.mem_singleton, h.replaced, setContent_phase,
      become_phase]
    split_ifs with hj
    · simp [hj, Phase.replaced]
    · simp [hj]
  · rw [hmore]
    exact h.nodup.append (List.nodup_singleton i)
      (List.disjoint_singleton.mpr hnew)

theorem Holds.step (h : Holds change events s) (hstep : Step change s e t) :
    Holds change (events ++ [e]) t := by
  cases hstep with
  | refuse hi => exact h.become rfl (by rw [hi]; rfl) (by rw [hi]; rfl) (by simp)
  | acquire hi hlock => exact h.acquire hi hlock
  | read hi hnext =>
    refine h.become rfl (by rw [hi]; rfl) (by rw [hi]; rfl) fun next hp => ?_
    rw [← Phase.prepared.inj hp]
    exact ⟨_, hnext⟩
  | reject hi => exact h.become rfl (by rw [hi]; rfl) (by rw [hi]; rfl) (by simp)
  | failLocked hi => exact h.become rfl (by rw [hi]; rfl) (by rw [hi]; rfl) (by simp)
  | failPrepared hi => exact h.become rfl (by rw [hi]; rfl) (by rw [hi]; rfl) (by simp)
  | publish hi => exact h.publish hi
  | finish hi => exact h.leave rfl (by rw [hi]; rfl) rfl (by rw [hi]; rfl)
  | giveUp hi => exact h.leave rfl (by rw [hi]; rfl) rfl (by rw [hi]; rfl)
  | haltPublished hi => exact h.become rfl (by rw [hi]; rfl) (by rw [hi]; rfl) (by simp)
  | haltRaising hi => exact h.become rfl (by rw [hi]; rfl) (by rw [hi]; rfl) (by simp)

variable {allowed : State ι σ ε → Event ι κ ε → Prop}

theorem Run.holds (h : Run change allowed (.start start) events s) :
    Holds change events s := by
  induction h with
  | start => exact holds_start
  | step _ _ hstep ih => exact ih.step hstep

/-- The induction over the calls that replace the content, each from what the store held then. -/
theorem Run.content {p : List ι → σ → Prop} (h : Run change allowed (.start start) events s)
    (hstart : p [] start)
    (hstep : ∀ calls t i input next, p calls t.content → allowed t (.publish i) →
      change i input t.content = .ok next → p (calls ++ [i]) next) :
    p (published events) s.content := by
  induction h with
  | start => exact hstart
  | @step events t e u hrun hallowed hone ih =>
    rw [published_append]
    cases hone
    case publish i next hi =>
      obtain ⟨input, hinput⟩ := hrun.holds.prepared i next hi
      exact hstep _ t i input next ih hallowed hinput
    all_goals simpa [Event.publisher] using ih

/-- Only the step that replaces the content changes it. -/
theorem Step.content (h : Step change s e t) (hnone : e.publisher = none) :
    t.content = s.content := by
  cases h
  case publish => cases hnone
  all_goals rfl

/-- Where no step halts a call, no call is halted. -/
theorem Run.not_halted (h : Run change allowed (.start start) events s)
    (hnever : ∀ t i, ¬allowed t (.halt i)) (i : ι) (b : Bool) : s.phase i ≠ .halted b := by
  induction h generalizing b with
  | start => exact nofun
  | step _ hallowed hstep ih =>
    cases hstep
    case haltPublished j _ _ => exact absurd hallowed (hnever _ j)
    case haltRaising j _ _ => exact absurd hallowed (hnever _ j)
    all_goals
      simp only [setLock_phase, setContent_phase, become_phase]
      split_ifs
      · exact nofun
      · exact ih b

end LockedStore
