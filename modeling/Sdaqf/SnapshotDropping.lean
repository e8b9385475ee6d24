import Sdaqf.ContextCorrectness
import Sdaqf.ContextSnapshots

/-!
# What a snapshot leaves out

The builder stops exactly if a required node is linked by contradictions to a selected node whose
source failed. If it does not stop, it leaves out the nodes that are linked to a failed one and no
others.
-/

namespace Sdaqf

open Guard

variable {B : ContextBoundary} {casefold : String → String} {asOf : Timestamp}
  {requiredIds : Finset String} {nodes : List ContextNode} {pairs : List (String × String)}

/-! ## Failed nodes -/

section Failed

variable (B casefold asOf nodes)

/-- The source of a node with this identity failed. -/
def FailsIn (id : String) : Prop :=
  ∃ node ∈ nodes, node.nodeId = id ∧ B.problem casefold asOf node ≠ none

end Failed

/-- If no required node failed, the observation finds the failed ones, each with its problem. -/
theorem foldE_reobserve {failed : Table String}
    (h : ∀ id, FailsIn B casefold asOf nodes id → id ∉ requiredIds) :
    ∃ failed', foldE (B.reobserve casefold asOf requiredIds) failed nodes = .ok failed' ∧
      (∀ id, id ∈ failed' ↔ id ∈ failed ∨ FailsIn B casefold asOf nodes id) ∧
      ∀ (id : String) reason, failed'[id]? = some reason → failed[id]? = some reason ∨
        ∃ node ∈ nodes, B.problem casefold asOf node = some reason := by
  induction nodes generalizing failed with
  | nil => exact ⟨failed, rfl, by simp [FailsIn], by simp⟩
  | cons node nodes ih =>
    have htail : ∀ id, FailsIn B casefold asOf nodes id → id ∉ requiredIds := by
      rintro id ⟨other, hother, hid, hproblem⟩
      exact h id ⟨other, List.mem_cons_of_mem node hother, hid, hproblem⟩
    rw [foldE_cons, ContextBoundary.reobserve]
    cases hproblem : B.problem casefold asOf node with
    | none =>
      obtain ⟨failed', hfold, hmem, hreasons⟩ := @ih failed htail
      refine ⟨failed', hfold, fun id => ?_, fun id reason hreason => ?_⟩
      · simp only [hmem, FailsIn, List.mem_cons, exists_eq_or_imp, hproblem, ne_eq,
          not_true_eq_false, and_false, false_or]
      · rcases hreasons id reason hreason with hold | ⟨other, hother, hsome⟩
        · exact .inl hold
        · exact .inr ⟨other, List.mem_cons_of_mem node hother, hsome⟩
    | some problem =>
      have hoptional : node.nodeId ∉ requiredIds :=
        h node.nodeId ⟨node, List.mem_cons_self, rfl, by simp [hproblem]⟩
      obtain ⟨failed', hfold, hmem, hreasons⟩ :=
        @ih (failed.insert node.nodeId problem) htail
      refine ⟨failed', ?_, fun id => ?_, fun id reason hreason => ?_⟩
      · dsimp only
        rw [if_neg hoptional]
        exact hfold
      · simp only [hmem, FailsIn, Std.ExtTreeMap.mem_insert, compare_eq_iff_eq, List.mem_cons,
          exists_eq_or_imp, hproblem, ne_eq, reduceCtorEq, not_false_eq_true, and_true]
        tauto
      · rcases hreasons id reason hreason with hinsert | ⟨other, hother, hsome⟩
        · rw [Table.getElem?_insert] at hinsert
          split at hinsert
          · exact .inr ⟨node, List.mem_cons_self, hproblem.trans hinsert⟩
          · exact .inl hinsert
        · exact .inr ⟨other, List.mem_cons_of_mem node hother, hsome⟩

/-- If a required node failed, the observation stops. -/
theorem foldE_reobserve_error {failed : Table String} {id : String}
    (h : FailsIn B casefold asOf nodes id) (hid : id ∈ requiredIds) :
    foldE (B.reobserve casefold asOf requiredIds) failed nodes =
      .error "Required context failed snapshot re-observation." := by
  obtain ⟨node, hnode, rfl, hproblem⟩ := h
  induction nodes generalizing failed with
  | nil => cases hnode
  | cons other nodes ih =>
    rw [foldE_cons, ContextBoundary.reobserve]
    rcases List.mem_cons.mp hnode with rfl | hnode
    · cases hsome : B.problem casefold asOf node with
      | none => exact absurd hsome hproblem
      | some problem =>
        simp only [if_pos hid]
        rfl
    · split
      · exact ih hnode
      · split
        · rfl
        · exact ih hnode

/-! ## Dropped components -/

/-- If no component holds a required node, the components are dropped. -/
theorem foldE_dropComponent {ids : List String} {excludedIds : Finset String}
    (h : ∀ id ∈ ids, ∀ k, PairClosure.Linked pairs id k → k ∉ requiredIds) :
    ∃ excludedIds', foldE (dropComponent pairs requiredIds) excludedIds ids = .ok excludedIds' ∧
      ∀ k, k ∈ excludedIds' ↔ k ∈ excludedIds ∨ ∃ id ∈ ids, PairClosure.Linked pairs id k := by
  induction ids generalizing excludedIds with
  | nil => exact ⟨excludedIds, rfl, by simp⟩
  | cons id ids ih =>
    obtain ⟨hhead, htail⟩ := List.forall_mem_cons.mp h
    have hfree : ¬(PairClosure.closure pairs {id} ∩ requiredIds).Nonempty := by
      rintro ⟨k, hk⟩
      obtain ⟨hk, hrequired⟩ := Finset.mem_inter.mp hk
      obtain ⟨_, hid, hlinked⟩ := PairClosure.mem_closure_iff.mp hk
      rw [Finset.mem_singleton.mp hid] at hlinked
      exact hhead k hlinked hrequired
    obtain ⟨excludedIds', hfold, hmem⟩ :=
      @ih (excludedIds ∪ PairClosure.closure pairs {id}) htail
    refine ⟨excludedIds', ?_, fun k => ?_⟩
    · rw [foldE_cons, dropComponent, if_neg hfree]
      exact hfold
    · simp only [hmem, Finset.mem_union, PairClosure.mem_closure_iff, Finset.mem_singleton,
        exists_eq_left, List.mem_cons, exists_eq_or_imp, or_assoc]

/-- If a component holds a required node, the builder stops. -/
theorem foldE_dropComponent_error {ids : List String} {excludedIds : Finset String} {id k : String}
    (hid : id ∈ ids) (hlinked : PairClosure.Linked pairs id k) (hk : k ∈ requiredIds) :
    foldE (dropComponent pairs requiredIds) excludedIds ids =
      .error "Required contradiction closure failed re-observation." := by
  induction ids generalizing excludedIds with
  | nil => cases hid
  | cons other ids ih =>
    rw [foldE_cons, dropComponent]
    rcases List.mem_cons.mp hid with rfl | hid
    · have hclosure : k ∈ PairClosure.closure pairs {id} :=
        PairClosure.mem_closure_iff.mpr ⟨id, Finset.mem_singleton_self id, hlinked⟩
      rw [if_pos ⟨k, Finset.mem_inter.mpr ⟨hclosure, hk⟩⟩]
      rfl
    · split
      · rfl
      · exact ih hid

end Sdaqf
