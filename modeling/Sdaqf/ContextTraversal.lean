import Sdaqf.ContextAccounting
import Sdaqf.Walks

/-!
# The traversal finds the distances

The bounded breadth-first traversal of a Context Graph, against walks along the allowed edges. Where
it returns, it has found exactly the nodes that a walk from the starts reaches, each with the length
of a shortest walk. It raises exactly where a node is farther away than the bound on the depth, where
the walks lead to a further node and to more nodes than the bound on nodes, or where more edges leave
the nodes nearer than the bound on the depth than the bound on edges.
-/

namespace Sdaqf

open Guard Walks

namespace ContextGraph

/-- An allowed edge leads from a node to a node. A contradiction leads both ways. -/
def Passes (graph : ContextGraph) (query : ContextQuery) (a b edgeId : String) : Prop :=
  ∃ edge ∈ graph.edges, edge.edgeType ∈ query.allowedEdgeTypes ∧ edge.edgeId = edgeId ∧
    (edge.sourceNodeId = a ∧ edge.targetNodeId = b ∨
      edge.edgeType = .contradicts ∧ edge.targetNodeId = a ∧ edge.sourceNodeId = b)

def Follows (graph : ContextGraph) (query : ContextQuery) (a b : String) : Prop :=
  ∃ edgeId, graph.Passes query a b edgeId

/-- The length of a shortest walk along the allowed edges. -/
def Distance (graph : ContextGraph) (query : ContextQuery) (starts : Finset String) (n : Nat)
    (k : String) : Prop :=
  IsDistance (graph.Follows query) (· ∈ starts) n k

/-- What lies beyond the bounds of a query. -/
inductive Blocked (graph : ContextGraph) (query : ContextQuery) (starts : Finset String) : Prop
  | depth (k : String) (n : Nat) (hdistance : graph.Distance query starts n k)
      (hfar : query.budget.maxTraversalDepth < n)
  | nodes (s : Finset String) (k : String)
      (hreached : ∀ k ∈ s, ∃ n, graph.Distance query starts n k)
      (hmany : query.budget.maxNodes < s.card) (hk : k ∈ s) (hnew : k ∉ starts)
  | edges (s : Finset String)
      (hpassed : ∀ edgeId ∈ s, ∃ a b n, graph.Distance query starts n a ∧
        n < query.budget.maxTraversalDepth ∧ graph.Passes query a b edgeId)
      (hmany : query.budget.maxEdges < s.card)

variable {graph : ContextGraph} {query : ContextQuery} {starts : Finset String}
  {t t' : Traversal} {current : String} {distance : Nat}

/-- The node a step leads to. -/
def Neighbor.target (step : Neighbor) : String := (ofLex (ofLex step).2).1

/-- The edge of a step. -/
def Neighbor.edgeId (step : Neighbor) : String := (ofLex (ofLex step).2).2

theorem passes_of_mem_neighbors {step : Neighbor} (h : step ∈ graph.neighbors query current) :
    graph.Passes query current step.target step.edgeId := by
  simp only [neighbors, List.mem_insertionSort, List.mem_flatMap, List.mem_append,
    List.mem_filter, decide_eq_true_eq] at h
  obtain ⟨edge, ⟨hedge, hallowed⟩, h⟩ := h
  rcases h with h | h
  · split at h
    · rename_i hsource
      rw [List.mem_singleton.mp h]
      exact ⟨edge, hedge, hallowed, rfl, .inl ⟨hsource, rfl⟩⟩
    · cases h
  · split at h
    · rename_i htarget
      rw [List.mem_singleton.mp h]
      exact ⟨edge, hedge, hallowed, rfl, .inr ⟨htarget.1, htarget.2, rfl⟩⟩
    · cases h

theorem exists_neighbor {b edgeId : String} (h : graph.Passes query current b edgeId) :
    ∃ step ∈ graph.neighbors query current, step.target = b ∧ step.edgeId = edgeId := by
  obtain ⟨edge, hedge, hallowed, rfl, h⟩ := h
  simp only [neighbors, List.mem_insertionSort, List.mem_flatMap, List.mem_append,
    List.mem_filter, decide_eq_true_eq]
  rcases h with ⟨hsource, rfl⟩ | ⟨htype, htarget, rfl⟩
  · refine ⟨toLex (edge.edgeType.value, toLex (edge.targetNodeId, edge.edgeId)),
      ⟨edge, ⟨hedge, hallowed⟩, .inl ?_⟩, rfl, rfl⟩
    rw [if_pos hsource]
    exact List.mem_singleton_self _
  · refine ⟨toLex (edge.edgeType.value, toLex (edge.sourceNodeId, edge.edgeId)),
      ⟨edge, ⟨hedge, hallowed⟩, .inr ?_⟩, rfl, rfl⟩
    rw [if_pos ⟨htype, htarget⟩]
    exact List.mem_singleton_self _

/-! ## One visit -/

/-- What a traversal has found and passed, apart from the node that it visits. -/
structure Searching (graph : ContextGraph) (query : ContextQuery) (starts : Finset String)
    (t : Traversal) (current : Option String) (distance : Nat) : Prop where
  exploring : Exploring (graph.Follows query) (· ∈ starts) (fun k : String => t.distances[k]?) t.queue
    current distance
  shallow : ∀ (k : String) n, t.distances[k]? = some n → n ≤ query.budget.maxTraversalDepth
  few : t.distances.size ≤ query.budget.maxNodes ∨ ∀ k ∈ t.distances, k ∈ starts
  passed : ∀ edgeId ∈ t.traversedEdges, ∃ a b n, graph.Distance query starts n a ∧
    n < query.budget.maxTraversalDepth ∧ graph.Passes query a b edgeId
  sparse : t.traversedEdges.card ≤ query.budget.maxEdges
  complete : ∀ (k : String) n, t.distances[k]? = some n → k ∉ t.queue → current ≠ some k →
    n < query.budget.maxTraversalDepth → ∀ b edgeId, graph.Passes query k b edgeId →
    edgeId ∈ t.traversedEdges

theorem mem_distances {k : String} : k ∈ t.distances ↔ ∃ n, t.distances[k]? = some n := by
  rw [Std.ExtTreeMap.mem_iff_isSome_getElem?, Option.isSome_iff_exists]

/-- Every found node is at its distance. -/
theorem Searching.isDistance (h : graph.Searching query starts t none distance) {k : String} {n : Nat}
    (hk : t.distances[k]? = some n) : graph.Distance query starts n k := by
  refine ⟨h.exploring.sound k n hk, fun m hm => ?_⟩
  have hnear := h.exploring.near k n hk
  rcases h.exploring.walk hm with ⟨j, hj, hfound⟩ | ⟨c, hc, j, hj, hfound⟩
  · rw [hk, Option.some.injEq] at hfound
    omega
  · obtain ⟨i, hi, hle⟩ := h.exploring.queued c hc
    rw [hi, Option.some.injEq] at hfound
    omega

theorem reach_eq_ok {budget : ContextBudget} {step : Neighbor} :
    reach budget distance t step = .ok t' ↔
      (insert step.edgeId t.traversedEdges).card ≤ budget.maxEdges ∧
      (step.target ∈ t.distances ∧
          t' = ⟨t.distances, t.queue, insert step.edgeId t.traversedEdges⟩ ∨
        step.target ∉ t.distances ∧ t.distances.size < budget.maxNodes ∧
          t' = ⟨t.distances.insert step.target (distance + 1), t.queue ++ [step.target],
            insert step.edgeId t.traversedEdges⟩) := by
  unfold reach
  simp only [bind_eq_ok, require_eq_ok, exists_unit]
  refine and_congr_right fun _ => ?_
  split
  · rename_i hfound
    simp only [pure_eq_ok]
    exact ⟨fun h => .inl ⟨hfound, h.symm⟩, fun h => by
      rcases h with ⟨-, rfl⟩ | ⟨hnew, -⟩
      · rfl
      · exact absurd hfound hnew⟩
  · rename_i hnew
    simp only [bind_eq_ok, require_eq_ok, exists_unit, pure_eq_ok]
    exact ⟨fun h => .inr ⟨hnew, h.1, h.2.symm⟩, fun h => by
      rcases h with ⟨hfound, -⟩ | ⟨-, hroom, rfl⟩
      · exact absurd hfound hnew
      · exact ⟨hroom, rfl⟩⟩

theorem Searching.reach (h : graph.Searching query starts t (some current) distance)
    (hcurrent : t.distances[current]? = some distance)
    (hdistance : graph.Distance query starts distance current)
    (hlt : distance < query.budget.maxTraversalDepth) {step : Neighbor}
    (hstep : step ∈ graph.neighbors query current)
    (hreach : reach query.budget distance t step = .ok t') :
    graph.Searching query starts t' (some current) distance ∧
      t'.distances[current]? = some distance ∧ step.target ∈ t'.distances ∧
      step.edgeId ∈ t'.traversedEdges ∧ t.traversedEdges ⊆ t'.traversedEdges ∧
      ∀ k ∈ t.distances, k ∈ t'.distances := by
  have hpasses := passes_of_mem_neighbors hstep
  have hpassed : ∀ edgeId ∈ insert step.edgeId t.traversedEdges, ∃ a b n,
      graph.Distance query starts n a ∧ n < query.budget.maxTraversalDepth ∧
        graph.Passes query a b edgeId := by
    rw [Finset.forall_mem_insert]
    exact ⟨⟨current, step.target, distance, hdistance, hlt, hpasses⟩, h.passed⟩
  obtain ⟨hsparse, ⟨hfound, rfl⟩ | ⟨hnew, hroom, rfl⟩⟩ := reach_eq_ok.mp hreach
  · refine ⟨?_, hcurrent, hfound, Finset.mem_insert_self _ _, Finset.subset_insert _ _,
      fun k hk => hk⟩
    exact {
      exploring := h.exploring
      shallow := h.shallow
      few := h.few
      passed := hpassed
      sparse := hsparse
      complete := fun k n hk hqueue hne hn b edgeId hb =>
        Finset.mem_insert_of_mem (h.complete k n hk hqueue hne hn b edgeId hb) }
  · -- The step leads to a new node, which is put at the end of the queue.
    have hnone : t.distances[step.target]? = none := by
      rwa [Std.ExtTreeMap.mem_iff_isSome_getElem?, Bool.not_eq_true,
        Option.isSome_eq_false_iff, Option.isNone_iff_eq_none] at hnew
    have hget (k : String) : (t.distances.insert step.target (distance + 1))[k]? =
        if step.target = k then some (distance + 1) else t.distances[k]? :=
      Table.getElem?_insert ..
    have hsize : (t.distances.insert step.target (distance + 1)).size = t.distances.size + 1 := by
      rw [Std.ExtTreeMap.size_insert, if_neg (by rwa [Std.ExtTreeMap.contains_iff_mem])]
    have hold (k : String) (n : Nat) (hk : t.distances[k]? = some n) :
        (t.distances.insert step.target (distance + 1))[k]? = some n := by
      rw [hget, if_neg, hk]
      rintro rfl
      rw [hnone] at hk
      cases hk
    refine ⟨?_, hold current distance hcurrent, ?_, Finset.mem_insert_self _ _,
      Finset.subset_insert _ _, fun k hk => ?_⟩
    · exact {
        exploring := h.exploring.add hcurrent ⟨_, hpasses⟩ hnone
          (fun k hk => (hget k).trans (if_neg (Ne.symm hk))) ((hget _).trans (if_pos rfl))
        shallow := fun k n hk => by
          replace hk := (hget k).symm.trans hk
          split at hk
          · cases hk
            exact hlt
          · exact h.shallow k n hk
        few := .inl (hsize.trans_le hroom)
        passed := hpassed
        sparse := hsparse
        complete := fun k n hk hqueue hne hn b edgeId hb => by
          rw [List.mem_append, List.mem_singleton, not_or] at hqueue
          replace hk := ((hget k).trans (if_neg (Ne.symm hqueue.2))).symm.trans hk
          exact Finset.mem_insert_of_mem (h.complete k n hk hqueue.1 hne hn b edgeId hb) }
    · rw [mem_distances]
      exact ⟨distance + 1, by rw [hget, if_pos rfl]⟩
    · obtain ⟨n, hn⟩ := mem_distances.mp hk
      exact mem_distances.mpr ⟨n, hold k n hn⟩

/-- A step is refused only beyond a bound. -/
theorem Searching.blocked_of_reach (h : graph.Searching query starts t (some current) distance)
    (hdistance : graph.Distance query starts distance current)
    (hlt : distance < query.budget.maxTraversalDepth) {step : Neighbor}
    (hstep : step ∈ graph.neighbors query current) {e : String}
    (hreach : ContextGraph.reach query.budget distance t step = .error e) :
    graph.Blocked query starts := by
  have hpasses := passes_of_mem_neighbors hstep
  unfold ContextGraph.reach at hreach
  rcases bind_eq_error.mp hreach with hreach | ⟨-, hsparse, hreach⟩
  · obtain ⟨hmany, -⟩ := require_eq_error.mp hreach
    refine .edges (insert step.edgeId t.traversedEdges) ?_ (not_le.mp hmany)
    rw [Finset.forall_mem_insert]
    exact ⟨⟨current, step.target, distance, hdistance, hlt, hpasses⟩, h.passed⟩
  · split at hreach
    · cases hreach
    · rename_i hnew
      rcases bind_eq_error.mp hreach with hreach | ⟨-, -, hreach⟩
      · obtain ⟨hfull, -⟩ := require_eq_error.mp hreach
        have hwalk : Walk (graph.Follows query) (· ∈ starts) (distance + 1) step.target :=
          hdistance.1.step ⟨_, hpasses⟩
        have hnotin : step.target ∉ t.distances.keys.toFinset := by
          rw [List.mem_toFinset, Std.ExtTreeMap.mem_keys]
          exact hnew
        refine .nodes (insert step.target t.distances.keys.toFinset) step.target ?_ ?_
          (Finset.mem_insert_self _ _) fun hstart => hnew ?_
        · rw [Finset.forall_mem_insert]
          refine ⟨(hwalk.exists_distance).imp fun n hn => hn.2, fun k hk => ?_⟩
          rw [List.mem_toFinset, Std.ExtTreeMap.mem_keys, mem_distances] at hk
          obtain ⟨n, hn⟩ := hk
          exact (h.exploring.sound k n hn).exists_distance.imp fun n hn => hn.2
        · rw [Finset.card_insert_of_notMem hnotin,
            List.toFinset_card_of_nodup (Table.pairwise_keys.imp ne_of_lt),
            Std.ExtTreeMap.length_keys]
          omega
        · exact mem_distances.mpr ⟨0, h.exploring.zero _ hstart⟩
      · cases hreach

theorem Searching.foldlM (hdistance : graph.Distance query starts distance current)
    (hlt : distance < query.budget.maxTraversalDepth) {steps : List Neighbor}
    (hsteps : ∀ step ∈ steps, step ∈ graph.neighbors query current)
    (h : graph.Searching query starts t (some current) distance)
    (hcurrent : t.distances[current]? = some distance)
    (hfold : steps.foldlM (ContextGraph.reach query.budget distance) t = .ok t') :
    graph.Searching query starts t' (some current) distance ∧
      t'.distances[current]? = some distance ∧
      (∀ step ∈ steps, step.target ∈ t'.distances ∧ step.edgeId ∈ t'.traversedEdges) ∧
      t.traversedEdges ⊆ t'.traversedEdges ∧ ∀ k ∈ t.distances, k ∈ t'.distances := by
  induction steps generalizing t with
  | nil =>
    cases hfold
    exact ⟨h, hcurrent, List.forall_mem_nil _, Finset.Subset.refl _, fun k hk => hk⟩
  | cons step steps ih =>
    rw [List.foldlM_cons, bind_eq_ok] at hfold
    obtain ⟨between, hbetween, hfold⟩ := hfold
    obtain ⟨hstep, hsteps⟩ := List.forall_mem_cons.mp hsteps
    obtain ⟨hsearch, hkept, htarget, hedge, hpassed, hfound⟩ :=
      h.reach hcurrent hdistance hlt hstep hbetween
    obtain ⟨hsearch', hkept', hall, hpassed', hfound'⟩ := ih hsteps hsearch hkept hfold
    exact ⟨hsearch', hkept',
      List.forall_mem_cons.mpr ⟨⟨hfound' _ htarget, hpassed' hedge⟩, hall⟩,
      hpassed.trans hpassed', fun k hk => hfound' k (hfound k hk)⟩

theorem Searching.blocked_of_foldlM (hdistance : graph.Distance query starts distance current)
    (hlt : distance < query.budget.maxTraversalDepth) {steps : List Neighbor}
    (hsteps : ∀ step ∈ steps, step ∈ graph.neighbors query current)
    (h : graph.Searching query starts t (some current) distance)
    (hcurrent : t.distances[current]? = some distance) {e : String}
    (hfold : steps.foldlM (ContextGraph.reach query.budget distance) t = .error e) :
    graph.Blocked query starts := by
  induction steps generalizing t with
  | nil => cases hfold
  | cons step steps ih =>
    obtain ⟨hstep, hsteps⟩ := List.forall_mem_cons.mp hsteps
    rw [List.foldlM_cons] at hfold
    rcases bind_eq_error.mp hfold with hreach | ⟨between, hbetween, hfold⟩
    · exact h.blocked_of_reach hdistance hlt hstep hreach
    · obtain ⟨hsearch, hkept, -⟩ := h.reach hcurrent hdistance hlt hstep hbetween
      exact ih hsteps hsearch hkept hfold

/-! ## The run -/

/-- The node at the front of the queue is visited: its steps have all been followed, or lead to
found nodes only. -/
theorem Searching.visited {queue : List String} {m : Nat}
    (h : graph.Searching query starts t none distance) (hqueue : t.queue = current :: queue)
    (hcurrent : t.distances[current]? = some m) :
    graph.Searching query starts { t with queue } (some current) m where
  exploring := by
    have hexploring := h.exploring
    rw [hqueue] at hexploring
    exact hexploring.take hcurrent
  shallow := h.shallow
  few := h.few
  passed := h.passed
  sparse := h.sparse
  complete k n hk hnot hne hn := by
    refine h.complete k n hk ?_ (by simp) hn
    rw [hqueue, List.mem_cons, not_or]
    exact ⟨fun heq => hne (congrArg some heq.symm), hnot⟩

theorem Searching.finish {m : Nat} (h : graph.Searching query starts t (some current) m)
    (hcurrent : t.distances[current]? = some m)
    (hfound : ∀ step ∈ graph.neighbors query current, step.target ∈ t.distances)
    (hpassed : m < query.budget.maxTraversalDepth →
      ∀ step ∈ graph.neighbors query current, step.edgeId ∈ t.traversedEdges) :
    graph.Searching query starts t none m where
  exploring := by
    refine h.exploring.finish hcurrent ?_
    rintro b ⟨edgeId, hpasses⟩
    obtain ⟨step, hstep, rfl, -⟩ := exists_neighbor hpasses
    exact mem_distances.mp (hfound step hstep)
  shallow := h.shallow
  few := h.few
  passed := h.passed
  sparse := h.sparse
  complete k n hk hnot _ hn b edgeId hb := by
    by_cases heq : current = k
    · subst heq
      obtain rfl : m = n := Option.some.inj (hcurrent.symm.trans hk)
      obtain ⟨step, hstep, -, rfl⟩ := exists_neighbor hb
      exact hpassed hn step hstep
    · exact h.complete k n hk hnot (fun hsome => heq (Option.some.inj hsome)) hn b edgeId hb

/-- What a traversal finds in the end lies within the bounds. -/
theorem Searching.not_blocked (h : graph.Searching query starts t none distance)
    (hqueue : t.queue = []) : ¬graph.Blocked query starts := by
  have hexploring := h.exploring
  rw [hqueue] at hexploring
  have hfound {k : String} {n : Nat} (hk : graph.Distance query starts n k) :
      t.distances[k]? = some n := hexploring.found_iff.mpr hk
  rintro (⟨k, n, hk, hfar⟩ | ⟨s, k, hreached, hmany, hk, hnew⟩ | ⟨s, hpassed, hmany⟩)
  · exact absurd (h.shallow k n (hfound hk)) (not_le.mpr hfar)
  · have hsub : s ⊆ t.distances.keys.toFinset := by
      intro k hk
      obtain ⟨n, hn⟩ := hreached k hk
      rw [List.mem_toFinset, Std.ExtTreeMap.mem_keys, mem_distances]
      exact ⟨n, hfound hn⟩
    rcases h.few with hfew | hstarts
    · have hcard := Finset.card_le_card hsub
      rw [List.toFinset_card_of_nodup (Table.pairwise_keys.imp ne_of_lt),
        Std.ExtTreeMap.length_keys] at hcard
      omega
    · obtain ⟨n, hn⟩ := hreached k hk
      exact hnew (hstarts k (mem_distances.mpr ⟨n, hfound hn⟩))
  · have hsub : s ⊆ t.traversedEdges := by
      intro edgeId hedge
      obtain ⟨a, b, n, ha, hn, hpasses⟩ := hpassed edgeId hedge
      exact h.complete a n (hfound ha) (by rw [hqueue]; exact List.not_mem_nil) (by simp) hn b
        edgeId hpasses
    exact absurd ((Finset.card_le_card hsub).trans h.sparse) (not_le.mpr hmany)

/-- What the visits of a whole queue give. -/
theorem Searching.visit {fuel : Nat} (hfuel : graph.toVisit t ≤ fuel)
    (h : graph.Searching query starts t none distance) :
    (∀ t', graph.visit query fuel t = .ok t' →
      ∃ distance, graph.Searching query starts t' none distance ∧ t'.queue = []) ∧
    ((∃ e, graph.visit query fuel t = .error e) → graph.Blocked query starts) := by
  induction fuel generalizing t distance with
  | zero =>
    have hqueue : t.queue = [] := by
      unfold toVisit at hfuel
      exact List.length_eq_zero_iff.mp (by omega)
    refine ⟨fun t' ht => ?_, ?_⟩
    · cases ht
      exact ⟨distance, h, hqueue⟩
    · rintro ⟨e, he⟩
      cases he
  | succ fuel ih =>
    rw [ContextGraph.visit]
    split
    · rename_i hqueue
      refine ⟨fun t' ht => ?_, ?_⟩
      · cases ht
        exact ⟨distance, h, hqueue⟩
      · rintro ⟨e, he⟩
        cases he
    · rename_i current queue hqueue
      obtain ⟨m, hm, -⟩ := h.exploring.queued current (by rw [hqueue]; exact List.mem_cons_self)
      have hvisited := h.visited hqueue hm
      have hdistance := h.isDistance hm
      have hpop : graph.toVisit { t with queue } + 1 = graph.toVisit t := by
        simp only [toVisit, hqueue, List.length_cons]
        omega
      simp only [hm, Option.getD_some]
      split
      · rename_i hdeep
        by_cases hall : ∀ step ∈ graph.neighbors query current, step.target ∈ t.distances
        · have hfinished := hvisited.finish hm hall fun hlt => absurd hdeep (not_le.mpr hlt)
          obtain ⟨hok, herror⟩ := ih (by omega) hfinished
          refine ⟨fun t' ht => ?_, ?_⟩
          · rw [bind_eq_ok] at ht
            obtain ⟨_, -, ht⟩ := ht
            exact hok t' ht
          · rintro ⟨e, he⟩
            rcases bind_eq_error.mp he with hdepth | ⟨_, -, he⟩
            · exact absurd hall (require_eq_error.mp hdepth).1
            · exact herror ⟨e, he⟩
        · refine ⟨fun t' ht => ?_, fun _ => ?_⟩
          · rw [bind_eq_ok] at ht
            obtain ⟨_, hrequire, -⟩ := ht
            exact absurd (require_eq_ok.mp hrequire) hall
          · simp only [not_forall] at hall
            obtain ⟨step, hstep, hnew⟩ := hall
            have hpasses := passes_of_mem_neighbors hstep
            have hwalk := hdistance.1.step ⟨_, hpasses⟩
            obtain ⟨n, -, hn⟩ := hwalk.exists_distance
            have hexploring := h.exploring
            rw [hqueue] at hexploring
            have hnone : t.distances[step.target]? = none := by
              rwa [Std.ExtTreeMap.mem_iff_isSome_getElem?, Bool.not_eq_true,
                Option.isSome_eq_false_iff, Option.isNone_iff_eq_none] at hnew
            exact .depth step.target n hn
              (hdeep.trans_lt (hexploring.lt_of_not_found hm hnone hn.1))
      · rename_i hlt
        have hlt := not_le.mp hlt
        cases hfold : (graph.neighbors query current).foldlM
            (ContextGraph.reach query.budget m) { t with queue } with
        | error e =>
          refine ⟨fun t' ht => ?_, fun _ => ?_⟩
          · cases ht
          · exact Searching.blocked_of_foldlM hdistance hlt (fun _ hstep => hstep) hvisited hm
              hfold
        | ok next =>
          obtain ⟨hsearch, hkept, hall, -⟩ :=
            Searching.foldlM hdistance hlt (fun _ hstep => hstep) hvisited hm hfold
          have hfinished := hsearch.finish hkept (fun step hstep => (hall step hstep).1)
            fun _ step hstep => (hall step hstep).2
          have := toVisit_foldlM (fun step hstep => target_mem_edgeEnds hstep) hfold
          exact ih (by omega) hfinished

/-- The starts are found at once. -/
theorem getElem?_starts (starts : Finset String) (k : String) :
    ((Sorting.listed starts).foldl (fun distances nodeId => distances.insert nodeId 0)
      (∅ : Table Nat))[k]? = if k ∈ starts then some 0 else none := by
  have hlist (l : List String) (table : Table Nat) :
      (l.foldl (fun distances nodeId => distances.insert nodeId 0) table)[k]? =
        if k ∈ l then some 0 else table[k]? := by
    induction l generalizing table with
    | nil => simp
    | cons head l ih =>
      rw [List.foldl_cons, ih, Table.getElem?_insert]
      by_cases hk : k ∈ l
      · simp [hk]
      · by_cases heq : head = k
        · simp [heq]
        · simp [hk, heq, Ne.symm heq]
  rw [hlist, Table.getElem?_empty]
  simp only [Sorting.mem_listed]

theorem searching_start (starts : Finset String) : graph.Searching query starts
    ⟨(Sorting.listed starts).foldl (fun distances nodeId => distances.insert nodeId 0) ∅,
      Sorting.listed starts, ∅⟩ none 0 := by
  have hget := getElem?_starts starts
  have hsome {k : String} {n : Nat}
      (hk : ((Sorting.listed starts).foldl (fun distances nodeId => distances.insert nodeId 0)
        (∅ : Table Nat))[k]? = some n) : k ∈ starts ∧ n = 0 := by
    rw [hget] at hk
    split at hk
    · rename_i hmem
      exact ⟨hmem, (Option.some.inj hk).symm⟩
    · cases hk
  refine ⟨⟨?_, ?_, ?_, ?_, ?_, ?_⟩, ?_, .inr ?_, ?_, ?_, ?_⟩
  · exact fun k hk => (hget k).trans (if_pos hk)
  · intro k n hk
    obtain ⟨hmem, rfl⟩ := hsome hk
    exact .start hmem
  · intro k n b hk hnot
    exact absurd (Sorting.mem_listed.mpr (hsome hk).1) hnot
  · refine List.pairwise_of_forall fun k k' n m hk hk' => ?_
    rw [(hsome hk).2]
    exact Nat.zero_le _
  · intro k hk
    exact ⟨0, (hget k).trans (if_pos (Sorting.mem_listed.mp hk)), le_refl _⟩
  · intro k n hk
    rw [(hsome hk).2]
    exact Nat.zero_le _
  · intro k n hk
    rw [(hsome hk).2]
    exact Nat.zero_le _
  · intro k hk
    obtain ⟨n, hn⟩ := mem_distances.mp hk
    exact (hsome hn).1
  · simp
  · simp
  · intro k n hk hnot
    exact absurd (Sorting.mem_listed.mpr (hsome hk).1) hnot

/-- The traversal returns exactly the distances of the nodes that the allowed edges reach, raises
exactly beyond a bound, and does not depend on the order of the edges. -/
theorem traverse_exact (graph : ContextGraph) (query : ContextQuery) (starts : Finset String) :
    (∀ distances, graph.traverse query starts = .ok distances →
      ∀ (k : String) n, distances[k]? = some n ↔ graph.Distance query starts n k) ∧
    ((∃ e, graph.traverse query starts = .error e) ↔ graph.Blocked query starts) ∧
    ∀ graph' : ContextGraph, graph.edges.Perm graph'.edges →
      graph'.traverse query starts = graph.traverse query starts := by
  have hvisits : graph.toVisit ⟨(Sorting.listed starts).foldl
      (fun distances nodeId => distances.insert nodeId 0) ∅, Sorting.listed starts, ∅⟩ ≤
      starts.card + 2 * graph.edges.length := by
    refine Nat.add_le_add (le_of_eq Sorting.length_listed) ?_
    exact (Finset.card_filter_le _ _).trans card_edgeEnds_le
  obtain ⟨hok, herror⟩ := Searching.visit hvisits (@searching_start graph query starts)
  refine ⟨fun distances hdistances k n => ?_, ⟨?_, fun hblocked => ?_⟩, ?_⟩
  · simp only [traverse, bind_eq_ok, pure_eq_ok] at hdistances
    obtain ⟨t, ht, rfl⟩ := hdistances
    obtain ⟨distance, hsearch, hqueue⟩ := hok t ht
    have hexploring := hsearch.exploring
    rw [hqueue] at hexploring
    exact hexploring.found_iff
  · rintro ⟨e, he⟩
    rcases bind_eq_error.mp he with he | ⟨_, _, he⟩
    · exact herror ⟨e, he⟩
    · cases he
  · cases hvisit : graph.visit query (starts.card + 2 * graph.edges.length)
        ⟨(Sorting.listed starts).foldl (fun distances nodeId => distances.insert nodeId 0) ∅,
          Sorting.listed starts, ∅⟩ with
    | error e => exact ⟨e, bind_eq_error.mpr (.inl hvisit)⟩
    | ok t =>
      obtain ⟨distance, hsearch, hqueue⟩ := hok t hvisit
      exact absurd hblocked (hsearch.not_blocked hqueue)
  · intro graph' hedges
    have hneighbors (current : String) :
        graph'.neighbors query current = graph.neighbors query current :=
      Sorting.insertionSort_eq_of_perm ((hedges.symm.filter _).flatMap_right _)
    have hvisit (fuel : Nat) (t : Traversal) :
        graph'.visit query fuel t = graph.visit query fuel t := by
      induction fuel generalizing t with
      | zero => rfl
      | succ fuel ih => simp only [ContextGraph.visit, hneighbors, ih]
    simp only [traverse, hvisit, hedges.length_eq]

/-- A bound of one node. -/
def narrowQuery : ContextQuery :=
  { Sample.contextQuery.value with budget := ⟨8192, 1, 8, 2⟩ }

theorem narrow_traversal : (Sample.contextGraph.value.traverse narrowQuery
    {Sample.specNode.nodeId, Sample.privateNode.nodeId, Sample.findingNode.nodeId}).map (·.size) =
      .ok 3 := by
  decide +kernel

/-- The starts themselves may outnumber the bound on nodes. -/
theorem traverse_over_nodes : ∃ distances,
    Sample.contextGraph.value.traverse narrowQuery
      {Sample.specNode.nodeId, Sample.privateNode.nodeId, Sample.findingNode.nodeId} =
        .ok distances ∧
    narrowQuery.budget.maxNodes < distances.size := by
  obtain ⟨distances, hdistances, hsize⟩ := map_eq_ok.mp narrow_traversal
  exact ⟨distances, hdistances, by rw [hsize]; decide⟩

end ContextGraph

end Sdaqf
