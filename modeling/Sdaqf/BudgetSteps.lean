import Sdaqf.Steps

/-!
# The steps of the budget replay

What one entry does to the replayed budget. The snapshots of the log are the totals of the replay,
and the last one is what the replay carries along.
-/

namespace Sdaqf

open Guard Store

variable {E : Environment} {ev : Evidence} {b b' : BudgetReplay} {entry : Entry}
variable {log : List Entry}

namespace BudgetReplay

/-- Changing a total keeps the books of the leases and the last snapshot. -/
theorem change_eq_ok {r : Resource} {dr du : Int} (h : b.change r dr du = .ok b') :
    0 ≤ b.reserved r + dr ∧ 0 ≤ b.used r + du ∧
      b' = { b with
        reserved := Function.update b.reserved r (b.reserved r + dr)
        used := Function.update b.used r (b.used r + du) } := by
  simp only [change, bind_eq_ok, exists_unit, require_eq_ok, pure_eq_ok] at h
  exact ⟨h.1.1, h.1.2, h.2.symm⟩

/-- The totals of a list of resources after they all changed. -/
def changed (b : BudgetReplay) (rs : List Resource) (amount : Resource → Int × Int) :
    BudgetReplay :=
  { b with
    reserved := fun r => if r ∈ rs then b.reserved r + (amount r).1 else b.reserved r
    used := fun r => if r ∈ rs then b.used r + (amount r).2 else b.used r }

theorem changeList_eq_ok {rs : List Resource} {amount : Resource → Int × Int} (hrs : rs.Nodup)
    (h : foldE (fun b r => b.change r (amount r).1 (amount r).2) b rs = .ok b') :
    (∀ r ∈ rs, 0 ≤ b.reserved r + (amount r).1 ∧ 0 ≤ b.used r + (amount r).2) ∧
      b' = b.changed rs amount := by
  induction rs generalizing b with
  | nil =>
    simp only [foldE_nil, Except.ok.injEq] at h
    subst h
    simp [changed]
  | cons r rs ih =>
    simp only [foldE_cons, bind_eq_ok] at h
    obtain ⟨c, hc, h⟩ := h
    obtain ⟨hreserved, hused, rfl⟩ := change_eq_ok hc
    obtain ⟨hr, hrs⟩ := List.nodup_cons.mp hrs
    obtain ⟨hall, rfl⟩ := ih hrs h
    have hne : ∀ s ∈ rs, s ≠ r := fun s hs heq => hr (heq ▸ hs)
    constructor
    · intro s hs
      rcases List.mem_cons.mp hs with rfl | hs
      · exact ⟨hreserved, hused⟩
      · simpa [Function.update_of_ne (hne s hs)] using hall s hs
    · simp only [changed, mk.injEq, and_true]
      constructor <;> funext s <;> by_cases hsr : s = r
      · subst hsr
        simp [hr]
      · by_cases hs : s ∈ rs <;> simp [hsr, hs]
      · subst hsr
        simp [hr]
      · by_cases hs : s ∈ rs <;> simp [hsr, hs]

theorem changeAll_eq_ok {amount : Resource → Int × Int} (h : b.changeAll amount = .ok b') :
    (∀ r ∈ reservable, 0 ≤ b.reserved r + (amount r).1 ∧ 0 ≤ b.used r + (amount r).2) ∧
      b' = b.changed reservable amount :=
  changeList_eq_ok (by decide) h

end BudgetReplay

/-- The effect of an entry on the budget, the creation of the store included. -/
def budgetEffect (E : Environment) (ev : Evidence) (b : BudgetReplay) (e : SchedulerEvent) :
    Except String BudgetEffect :=
  if e.cause = .initialization then .ok ⟨b, e.budgetDeltas, true⟩ else replayBudgetEvent E ev b e

/-- An accepted entry writes the totals of its effect as its snapshot when they changed. -/
theorem validateBudgetEntry_eq_ok (h : validateBudgetEntry E ev b entry = .ok b') :
    ∃ effect, budgetEffect E ev b entry.event = .ok effect ∧
      entry.event.budgetDeltas = effect.deltas ∧
      (entry.event.cause ≠ .initialization → validateLimits ev effect.budget = .ok ()) ∧
      entry.ledger = (if effect.changed then some (effect.budget.ledger E ev entry.event.sequence)
        else none) ∧
      b' = { effect.budget with latest := entry.ledger.or effect.budget.latest } := by
  unfold validateBudgetEntry at h
  dsimp only at h
  split at h
  · next hc =>
    simp only [validateSnapshot, bind_eq_ok, exists_unit, require_eq_ok, pure_eq_ok] at h
    obtain ⟨⟨_, hledger⟩, rfl⟩ := h
    refine ⟨⟨b, _, true⟩, by simp only [budgetEffect, hc, if_true], rfl, fun hne => absurd hc hne,
      hledger, ?_⟩
    rw [hledger, Option.some_or]
  · next hc =>
    simp only [bind_eq_ok, exists_unit, require_eq_ok] at h
    obtain ⟨effect, heffect, hdeltas, hlimits, h⟩ := h
    refine ⟨effect, by simp only [budgetEffect, hc, if_false, heffect], hdeltas, fun _ => hlimits,
      ?_⟩
    split at h
    · next hchanged =>
      simp only [validateSnapshot, bind_eq_ok, exists_unit, require_eq_ok, pure_eq_ok] at h
      obtain ⟨⟨_, hledger⟩, rfl⟩ := h
      rw [hledger, Option.some_or, if_pos hchanged]
      exact ⟨rfl, rfl⟩
    · next hchanged =>
      simp only [validateSnapshot, bind_eq_ok, exists_unit, require_eq_ok, pure_eq_ok] at h
      obtain ⟨⟨_, hledger⟩, rfl⟩ := h
      rw [hledger, if_neg hchanged]
      exact ⟨rfl, rfl⟩

/-! ## The last snapshot -/

theorem BudgetReplay.change_latest {r : Resource} {dr du : Int} (h : b.change r dr du = .ok b') :
    b'.latest = b.latest := by
  obtain ⟨_, _, rfl⟩ := change_eq_ok h
  rfl

theorem BudgetReplay.changeAll_latest {amount : Resource → Int × Int}
    (h : b.changeAll amount = .ok b') : b'.latest = b.latest := by
  obtain ⟨_, rfl⟩ := changeAll_eq_ok h
  rfl

theorem BudgetReplay.changeIf_latest {c : Bool} {r : Resource} {dr du : Int}
    (h : b.changeIf c r dr du = .ok b') : b'.latest = b.latest := by
  unfold changeIf at h
  split at h
  · exact change_latest h
  · cases h
    rfl

theorem replayTerminal_latest {e : SchedulerEvent} {effect : BudgetEffect}
    (h : replayTerminal E ev b e = .ok effect) : effect.budget.latest = b.latest := by
  simp only [replayTerminal, bind_eq_ok, exists_unit, require_eq_ok, pure_eq_ok] at h
  obtain ⟨_, _, _, c, hc, _, _, d, hd, f, hf, g, hg, rfl⟩ := h
  calc g.latest = f.latest := BudgetReplay.changeIf_latest hg
    _ = d.latest := BudgetReplay.changeAll_latest hf
    _ = c.latest := BudgetReplay.changeAll_latest hd
    _ = b.latest := BudgetReplay.change_latest hc

theorem replayDispatch_latest {e : SchedulerEvent} {effect : BudgetEffect}
    (h : replayDispatch E ev b e = .ok effect) : effect.budget.latest = b.latest := by
  simp only [replayDispatch, bind_eq_ok, exists_unit, require_eq_ok, pure_eq_ok] at h
  obtain ⟨_, _, _, _, _, _, _, c, hc, d, hd, f, hf, _, _, _, rfl⟩ := h
  calc f.latest = d.latest := BudgetReplay.changeAll_latest hf
    _ = c.latest := BudgetReplay.change_latest hd
    _ = b.latest := BudgetReplay.changeIf_latest hc

theorem replayAccepted_latest {e : SchedulerEvent} {effect : BudgetEffect}
    (h : replayAccepted b e = .ok effect) : effect.budget.latest = b.latest := by
  simp only [replayAccepted, bind_eq_ok, fromOption_eq_ok] at h
  obtain ⟨_, _, _, _, h⟩ := h
  split at h
  · cases h
    rfl
  · simp only [bind_eq_ok, pure_eq_ok] at h
    obtain ⟨c, hc, rfl⟩ := h
    exact (BudgetReplay.change_latest hc : c.latest = b.latest)

/-- The effect of an event leaves the last snapshot to its entry. -/
theorem budgetEffect_latest {e : SchedulerEvent} {effect : BudgetEffect}
    (h : budgetEffect E ev b e = .ok effect) : effect.budget.latest = b.latest := by
  unfold budgetEffect at h
  split at h
  · cases h
    rfl
  unfold replayBudgetEvent at h
  split at h
  · simp only [bind_eq_ok, pure_eq_ok] at h
    obtain ⟨c, hc, rfl⟩ := h
    exact BudgetReplay.change_latest hc
  · exact replayDispatch_latest h
  · exact replayAccepted_latest h
  iterate 5 exact replayTerminal_latest h
  · split at h
    · simp only [bind_eq_ok, pure_eq_ok] at h
      obtain ⟨c, hc, rfl⟩ := h
      exact BudgetReplay.change_latest hc
    · cases h
      rfl
  · simp only [replayWallTime, bind_eq_ok, exists_unit, require_eq_ok, pure_eq_ok] at h
    obtain ⟨_, c, hc, rfl⟩ := h
    exact BudgetReplay.change_latest hc
  · simp only [bind_eq_ok, exists_unit, require_eq_ok, pure_eq_ok] at h
    obtain ⟨_, _, _, rfl⟩ := h
    rfl
  · cases h
    rfl

/-- The budget replay of a log carries its last snapshot. -/
theorem replayBudget_latest (h : replayBudget E ev log = .ok b) : b.latest = latestLedger log := by
  induction log using List.reverseRecOn generalizing b with
  | nil =>
    cases h
    rfl
  | append_singleton pre entry ih =>
    rw [replayBudget, foldE_append, bind_eq_ok] at h
    obtain ⟨c, hc, h⟩ := h
    simp only [foldE_cons, foldE_nil, bind_eq_ok, Except.ok.injEq, exists_eq_right] at h
    obtain ⟨effect, heffect, _, _, _, rfl⟩ := validateBudgetEntry_eq_ok h
    rw [latestLedger_concat, budgetEffect_latest heffect, ih hc]

end Sdaqf
