import Sdaqf.Commuting
import Sdaqf.ContextSelection

/-!
# The selection of a query is correct

What a successful selection says: the selected and the excluded nodes part the graph, the required
nodes are selected, the selected ones are eligible and closed under contradiction, the selected
edges are the induced ones and the accounting is exact. None of it depends on the order in which the
graph lists its nodes and edges.
-/

namespace Sdaqf

open Guard

variable {graph graph' : ContextGraph} {query : ContextQuery} {S : ContextSurroundings}

/-! ## Well-shaped graphs -/

namespace ContextGraph

/-- The identities of the nodes. -/
def nodeIds (graph : ContextGraph) : Finset String := (graph.nodes.map (·.nodeId)).toFinset

theorem mem_nodeIds {k : String} : k ∈ graph.nodeIds ↔ ∃ node ∈ graph.nodes, node.nodeId = k := by
  simp [nodeIds]

/-- The identities of a graph are distinct, and its edges join its nodes. -/
structure WellShaped (graph : ContextGraph) : Prop where
  nodeIds : (graph.nodes.map (·.nodeId)).Nodup
  edgeIds : (graph.edges.map (·.edgeId)).Nodup
  ends : ∀ edge ∈ graph.edges,
    edge.sourceNodeId ∈ graph.nodeIds ∧ edge.targetNodeId ∈ graph.nodeIds

theorem wellShaped_of_contract (h : graph.contract = .ok ()) : graph.WellShaped := by
  simp only [contract, ContextEdge.contract, bind_eq_ok, require_eq_ok, forEach_eq_ok,
    exists_unit] at h
  obtain ⟨-, hnodes, -, hedges, hedgeIds⟩ := h
  refine ⟨hnodes.imp fun hlt => ne_of_lt hlt, hedgeIds.imp fun hlt => ne_of_lt hlt, ?_⟩
  intro edge hedge
  obtain ⟨i, hi, rfl⟩ := List.getElem_of_mem hedge
  obtain ⟨-, hends, -⟩ := hedges (graph.edges[i], i)
    (List.mem_zipIdx_iff_getElem?.mpr (List.getElem?_eq_getElem hi))
  simpa [nodeIds] using hends

/-- The nodes and the edges of one graph are those of the other, in some order. -/
structure Reordered (graph graph' : ContextGraph) : Prop where
  candidate : graph.candidate = graph'.candidate
  nodes : graph.nodes.Perm graph'.nodes
  edges : graph.edges.Perm graph'.edges

variable (hgraph : graph.WellShaped)

include hgraph

theorem WellShaped.getElem?_nodeTable {k : String} {node : ContextNode} :
    graph.nodeTable[k]? = some node ↔ node ∈ graph.nodes ∧ node.nodeId = k :=
  Table.getElem?_ofRows hgraph.nodeIds

theorem WellShaped.mem_nodeTable {k : String} : k ∈ graph.nodeTable ↔ k ∈ graph.nodeIds := by
  rw [← Std.ExtTreeMap.isSome_getElem?_iff_mem, Option.isSome_iff_exists, mem_nodeIds]
  exact exists_congr fun node => hgraph.getElem?_nodeTable

end ContextGraph

/-! ## Exclusions -/

/-- A table excludes exactly some nodes, each under its own identity. -/
structure Excludes (exclusions : Table ExclusionDecision) (ids : Finset String) : Prop where
  mem_iff : ∀ k, k ∈ exclusions ↔ k ∈ ids
  keyed : ∀ (k : String) (d : ExclusionDecision), exclusions[k]? = some d → d.nodeId = k

namespace Excludes

variable {exclusions : Table ExclusionDecision} {ids : Finset String}

theorem empty : Excludes ∅ ∅ := ⟨by simp, by simp⟩

variable (h : Excludes exclusions ids)

include h

theorem insert {nodeId reason : String} {details : List String} :
    Excludes (exclusions.insert nodeId ⟨nodeId, reason, details⟩) (insert nodeId ids) := by
  constructor
  · intro k
    rw [Std.ExtTreeMap.mem_insert, compare_eq_iff_eq, h.mem_iff, Finset.mem_insert, eq_comm]
  · intro k d hd
    rw [Table.getElem?_insert] at hd
    split at hd
    · rename_i hk
      cases hd
      exact hk
    · exact h.keyed k d hd

theorem insertIfNew {nodeId reason : String} {details : List String} :
    Excludes (exclusions.insertIfNew nodeId ⟨nodeId, reason, details⟩)
      (Insert.insert nodeId ids) := by
  constructor
  · intro k
    rw [Std.ExtTreeMap.mem_insertIfNew, compare_eq_iff_eq, h.mem_iff, Finset.mem_insert, eq_comm]
  · intro k d hd
    rw [Table.getElem?_insertIfNew] at hd
    split at hd
    · rename_i hk
      cases hd
      exact hk.1
    · exact h.keyed k d hd

theorem erase {nodeId : String} : Excludes (exclusions.erase nodeId) (ids.erase nodeId) := by
  constructor
  · intro k
    rw [Std.ExtTreeMap.mem_erase, Ne, compare_eq_iff_eq, h.mem_iff, Finset.mem_erase, ne_comm]
  · intro k d hd
    rw [Table.getElem?_erase] at hd
    split at hd
    · cases hd
    · exact h.keyed k d hd

theorem rows : exclusions.rows.map (·.nodeId) = exclusions.keys := by
  rw [Table.rows, List.map_map, ← Std.ExtTreeMap.map_fst_toList_eq_keys]
  refine List.map_congr_left fun pair hpair => ?_
  exact h.keyed pair.1 pair.2 (Std.ExtTreeMap.mem_toList_iff_getElem?_eq_some.mp hpair)

/-! Folds over a list of identities -/

theorem foldl_insert {reason : String} {l : List String} : Excludes
    (l.foldl (fun exclusions nodeId => exclusions.insert nodeId ⟨nodeId, reason, []⟩) exclusions)
    (ids ∪ l.toFinset) := by
  induction l generalizing exclusions ids with
  | nil => simpa using h
  | cons nodeId l ih =>
    rw [List.toFinset_cons, Finset.union_insert, ← Finset.insert_union]
    exact ih h.insert

theorem foldl_insertIfNew {reason : String} {l : List String} : Excludes
    (l.foldl (fun exclusions nodeId => exclusions.insertIfNew nodeId ⟨nodeId, reason, []⟩)
      exclusions) (ids ∪ l.toFinset) := by
  induction l generalizing exclusions ids with
  | nil => simpa using h
  | cons nodeId l ih =>
    rw [List.toFinset_cons, Finset.union_insert, ← Finset.insert_union]
    exact ih h.insertIfNew

theorem foldl_erase {l : List String} : Excludes
    (l.foldl (fun exclusions nodeId => exclusions.erase nodeId) exclusions) (ids \ l.toFinset) := by
  induction l generalizing exclusions ids with
  | nil => simpa using h
  | cons nodeId l ih =>
    rw [List.toFinset_cons, Finset.sdiff_insert, ← Finset.erase_sdiff_comm]
    exact ih h.erase

end Excludes

/-! ## Screening -/

/-- What screening has found in a list of nodes. -/
structure Screened (query : ContextQuery) (required : Finset String) (nodes : List ContextNode)
    (st : Screening) : Prop where
  eligible : ∀ k, k ∈ st.eligible ↔
    ∃ node ∈ nodes, node.nodeId = k ∧ eligibilityProblem node query = none
  excludes : Excludes st.exclusions
    ((nodes.filter fun node => (eligibilityProblem node query).isSome).map (·.nodeId)).toFinset
  required : ∀ node ∈ nodes, node.nodeId ∈ required → eligibilityProblem node query = none

theorem screened {required : Finset String} {nodes : List ContextNode} {st : Screening}
    (h : nodes.foldlM (screen query required) {} = .ok st) : Screened query required nodes st := by
  induction nodes using List.reverseRecOn generalizing st with
  | nil =>
    cases h
    exact ⟨by simp, by simpa using Excludes.empty, by simp⟩
  | append_singleton nodes node ih =>
    rw [List.foldlM_append, bind_eq_ok] at h
    obtain ⟨before, hbefore, hstep⟩ := h
    have hb := ih hbefore
    rw [List.foldlM_cons, bind_eq_ok] at hstep
    obtain ⟨after, hstep, hafter⟩ := hstep
    cases hafter
    unfold screen at hstep
    split at hstep
    · rename_i hnone
      cases hstep
      refine ⟨fun k => ?_, ?_, ?_⟩
      · rw [Finset.mem_insert, hb.eligible]
        constructor
        · rintro (rfl | ⟨other, hother, rfl, hok⟩)
          · exact ⟨node, by simp, rfl, hnone⟩
          · exact ⟨other, List.mem_append_left _ hother, rfl, hok⟩
        · rintro ⟨other, hother, rfl, hok⟩
          rcases List.mem_append.mp hother with hother | hother
          · exact .inr ⟨other, hother, rfl, hok⟩
          · exact .inl (by rw [List.mem_singleton.mp hother])
      · simpa [List.filter_append, hnone] using hb.excludes
      · intro other hother hrequired
        rcases List.mem_append.mp hother with hother | hother
        · exact hb.required other hother hrequired
        · rw [List.mem_singleton.mp hother]
          exact hnone
    · rename_i problem hsome
      split at hstep
      · cases hstep
      · rename_i hnot
        cases hstep
        refine ⟨fun k => ?_, ?_, ?_⟩
        · rw [hb.eligible]
          constructor
          · rintro ⟨other, hother, rfl, hok⟩
            exact ⟨other, List.mem_append_left _ hother, rfl, hok⟩
          · rintro ⟨other, hother, rfl, hok⟩
            rcases List.mem_append.mp hother with hother | hother
            · exact ⟨other, hother, rfl, hok⟩
            · rw [List.mem_singleton.mp hother, hsome] at hok
              cases hok
        · have hids : ((nodes ++ [node]).filter fun node =>
              (eligibilityProblem node query).isSome).map (·.nodeId) =
              (nodes.filter fun node => (eligibilityProblem node query).isSome).map (·.nodeId) ++
                [node.nodeId] := by
            simp [List.filter_append, hsome]
          rw [hids, List.toFinset_append, List.toFinset_cons, List.toFinset_nil,
            Finset.union_insert, Finset.union_empty]
          exact hb.excludes.insert
        · intro other hother hrequired
          rcases List.mem_append.mp hother with hother | hother
          · exact hb.required other hother hrequired
          · rw [List.mem_singleton.mp hother] at hrequired
            exact absurd hrequired hnot

/-! ## Retrieval -/

namespace Retrieval

variable {r : Retrieval} {nodeId reason : String} {phase : Nat} {allowed : Finset String}

theorem candidates_note : (r.note nodeId phase reason).candidates = insert nodeId r.candidates := by
  ext k
  simp only [candidates, note, List.mem_toFinset, Finset.mem_insert, Table.mem_keys,
    Table.getElem?_alter]
  split
  · rename_i hk
    simp [hk]
  · rename_i hk
    simp [Ne.symm hk]

/-- A step only adds allowed candidates. -/
def Grows (allowed : Finset String) (r r' : Retrieval) : Prop :=
  r.candidates ⊆ r'.candidates ∧ (r.candidates ⊆ allowed → r'.candidates ⊆ allowed)

theorem Grows.refl : Grows allowed r r := ⟨Finset.Subset.refl _, id⟩

theorem Grows.trans {r' r'' : Retrieval} (h : Grows allowed r r') (h' : Grows allowed r' r'') :
    Grows allowed r r'' := ⟨h.1.trans h'.1, h'.2 ∘ h.2⟩

theorem grows_note (h : nodeId ∈ allowed) : Grows allowed r (r.note nodeId phase reason) := by
  rw [Grows, candidates_note]
  exact ⟨Finset.subset_insert _ _, Finset.insert_subset h⟩

theorem grows_foldl {β : Type} {step : Retrieval → β → Retrieval} {l : List β}
    (h : ∀ r, ∀ b ∈ l, Grows allowed r (step r b)) : Grows allowed r (l.foldl step r) := by
  induction l generalizing r with
  | nil => exact .refl
  | cons b l ih =>
    exact (h r b List.mem_cons_self).trans (ih fun r c hc => h r c (List.mem_cons_of_mem b hc))

theorem subset_foldl_note {l : List String} {reasons : String → String} : l.toFinset ⊆
    (l.foldl (fun r nodeId => r.note nodeId phase (reasons nodeId)) r).candidates := by
  induction l using List.reverseRecOn with
  | nil => exact Finset.empty_subset _
  | append_singleton l nodeId ih =>
    rw [List.foldl_concat, candidates_note, List.toFinset_append, List.toFinset_cons,
      List.toFinset_nil, Finset.union_insert, Finset.union_empty]
    exact Finset.insert_subset_insert nodeId ih

theorem grows_noteReached {required eligible : Finset String} {distances : Table Nat} :
    Grows eligible r (r.noteReached required eligible distances) := by
  refine grows_foldl fun r nodeId _ => ?_
  split
  · rename_i h
    exact grows_note h.1
  · exact .refl

theorem grows_noteMatching {nodes : List ContextNode} {eligible : Finset String}
    {hit : ContextNode → Bool} :
    Grows eligible r (r.noteMatching nodes eligible hit phase reason) := by
  refine grows_foldl fun r node _ => ?_
  split
  · rename_i h
    exact grows_note h.1
  · exact .refl

theorem candidates_ofRequired {directlyRequired required : Finset String} :
    (ofRequired directlyRequired required).candidates = required := by
  refine Finset.Subset.antisymm ?_ ?_
  · have hgrows : Grows required {} (ofRequired directlyRequired required) :=
      grows_foldl fun r nodeId h => grows_note ((Sorting.mem_listed).mp h)
    exact hgrows.2 fun k hk => by simp [candidates] at hk
  · have hsub : (Sorting.listed required).toFinset ⊆
        (ofRequired directlyRequired required).candidates :=
      subset_foldl_note
    rwa [Sorting.toFinset_listed] at hsub

/-- The candidates are eligible, and the required nodes are among them. -/
theorem candidates_retrieve {directlyRequired required eligible queryTokens : Finset String}
    {distances : Table Nat} (h : required ⊆ eligible) :
    required ⊆ (retrieve graph query directlyRequired required eligible distances
      queryTokens).candidates ∧
    (retrieve graph query directlyRequired required eligible distances queryTokens).candidates ⊆
      eligible := by
  have hgrows : Grows eligible (ofRequired directlyRequired required)
      (retrieve graph query directlyRequired required eligible distances queryTokens) :=
    (grows_noteReached.trans grows_noteMatching).trans grows_noteMatching
  rw [Grows, candidates_ofRequired] at hgrows
  exact ⟨hgrows.1, hgrows.2 h⟩

end Retrieval

/-! ## What is prepared -/

variable {graphArtifact : LoadedContextArtifact ContextGraph} {p : Prepared} {st st' : Admission}
  {nodeId : String}

/-- What preparation establishes. -/
structure Prepared.Sound (graph : ContextGraph) (query : ContextQuery) (p : Prepared) : Prop where
  eligible : ∀ k, k ∈ p.eligible ↔
    ∃ node ∈ graph.nodes, node.nodeId = k ∧ eligibilityProblem node query = none
  directlyRequired : graph.directlyRequired query ⊆ p.required
  candidates : p.required ⊆ p.retrieval.candidates ∧ p.retrieval.candidates ⊆ p.eligible
  closed : PairClosure.Closed graph.contradictions p.required
  excludes : Excludes p.exclusions (graph.nodeIds \ p.retrieval.candidates)

theorem Prepared.Sound.eligible_subset (hp : p.Sound graph query) : p.eligible ⊆ graph.nodeIds := by
  intro k hk
  obtain ⟨node, hnode, rfl, -⟩ := (hp.eligible k).mp hk
  exact ContextGraph.mem_nodeIds.mpr ⟨node, hnode, rfl⟩

/-- Every node that is not a candidate is excluded. -/
theorem excludes_notRetrieved (hgraph : graph.WellShaped) {required candidates : Finset String}
    {screening : Screening} (hscreened : Screened query required graph.nodes screening)
    (h : candidates ⊆ screening.eligible) :
    Excludes ((Sorting.listed (screening.eligible \ candidates)).foldl
      (fun exclusions nodeId => exclusions.insert nodeId ⟨nodeId, "not-retrieved", []⟩)
      screening.exclusions) (graph.nodeIds \ candidates) := by
  convert hscreened.excludes.foldl_insert using 1
  rw [Sorting.toFinset_listed]
  ext k
  simp only [Finset.mem_sdiff, Finset.mem_union, List.mem_toFinset, List.mem_map, List.mem_filter,
    ContextGraph.mem_nodeIds, hscreened.eligible]
  constructor
  · rintro ⟨⟨node, hnode, rfl⟩, hnot⟩
    cases hproblem : eligibilityProblem node query with
    | none => exact .inr ⟨⟨node, hnode, rfl, hproblem⟩, hnot⟩
    | some problem => exact .inl ⟨node, ⟨hnode, by rw [hproblem]; rfl⟩, rfl⟩
  · rintro (⟨node, ⟨hnode, hproblem⟩, rfl⟩ | ⟨⟨node, hnode, rfl, -⟩, hnot⟩)
    · refine ⟨⟨node, hnode, rfl⟩, fun hcandidate => ?_⟩
      obtain ⟨other, hother, hsame, hnone⟩ := (hscreened.eligible _).mp (h hcandidate)
      rw [List.inj_on_of_nodup_map hgraph.nodeIds hother hnode hsame] at hnone
      rw [hnone] at hproblem
      cases hproblem
    · exact ⟨⟨node, hnode, rfl⟩, hnot⟩

/-- Required nodes of the graph are eligible when screening succeeds. -/
theorem Screened.required_subset (hgraph : graph.WellShaped) {required : Finset String}
    {screening : Screening} (h : Screened query required graph.nodes screening)
    (hpresent : ∀ nodeId ∈ required, nodeId ∈ graph.nodeTable) : required ⊆ screening.eligible := by
  intro k hk
  obtain ⟨node, hnode, rfl⟩ := ContextGraph.mem_nodeIds.mp (hgraph.mem_nodeTable.mp (hpresent k hk))
  exact (h.eligible _).mpr ⟨node, hnode, rfl, h.required node hnode hk⟩

theorem prepare_sound (hgraph : graphArtifact.value.WellShaped)
    (h : prepare graphArtifact query = .ok p) : p.Sound graphArtifact.value query := by
  simp only [prepare, bind_eq_ok, require_eq_ok, exists_unit, pure_eq_ok] at h
  obtain ⟨-, -, hpresent, screening, hscreening, required, hrequired, distances, -, rfl⟩ := h
  have hscreened := screened hscreening
  have hdirect : graphArtifact.value.directlyRequired query ⊆ screening.eligible :=
    hscreened.required_subset hgraph fun k hk => hpresent k (Finset.mem_union_left _ hk)
  rw [PairClosure.closureWithin_eq hdirect] at hrequired
  split at hrequired
  · rename_i hle
    cases hrequired
    exact ⟨hscreened.eligible, PairClosure.subset_closure, Retrieval.candidates_retrieve hle,
      PairClosure.closed_closure,
      excludes_notRetrieved hgraph hscreened (Retrieval.candidates_retrieve hle).2⟩
  · cases hrequired

/-! ## Costs and edges -/

theorem ContextGraph.mem_inducedEdges {ids : Finset String} {edge : ContextEdge} :
    edge ∈ graph.inducedEdges ids ↔
      edge ∈ graph.edges ∧ edge.sourceNodeId ∈ ids ∧ edge.targetNodeId ∈ ids := by
  simp [ContextGraph.inducedEdges]

namespace ContextSurroundings

variable {ids added : Finset String} {nodes : Table ContextNode}

theorem costOfNodes_union (h : Disjoint ids added) : S.costOfNodes nodes (ids ∪ added) =
    S.costOfNodes nodes ids + S.costOfNodes nodes added :=
  Finset.sum_union h

theorem costOfEdges_perm {edges edges' : List ContextEdge} (h : edges.Perm edges') :
    S.costOfEdges edges = S.costOfEdges edges' :=
  (h.map S.edgeCost).sum_eq

/-- The edges that a larger set induces are those of the smaller set and the added ones. -/
theorem costOfEdges_induced (hgraph : graph.WellShaped) {larger : Finset String}
    (h : ids ⊆ larger) : S.costOfEdges (graph.inducedEdges larger) =
      S.costOfEdges (graph.inducedEdges ids) + S.costOfEdges ((graph.inducedEdges larger).filter
        fun edge => edge.edgeId ∉ (graph.inducedEdges ids).map (·.edgeId)) := by
  have hold : (graph.inducedEdges larger).filter
      (fun edge => edge.edgeId ∈ (graph.inducedEdges ids).map (·.edgeId)) =
      graph.inducedEdges ids := by
    rw [ContextGraph.inducedEdges, ContextGraph.inducedEdges, List.filter_filter]
    refine List.filter_congr fun edge hedge => ?_
    rw [← Bool.decide_and, decide_eq_decide, List.mem_map]
    constructor
    · rintro ⟨⟨other, hother, hsame⟩, -⟩
      have hother := ContextGraph.mem_inducedEdges.mp hother
      rw [← List.inj_on_of_nodup_map hgraph.edgeIds hother.1 hedge hsame]
      exact hother.2
    · intro hends
      exact ⟨⟨edge, ContextGraph.mem_inducedEdges.mpr ⟨hedge, hends⟩, rfl⟩, h hends.1, h hends.2⟩
  have hsplit := costOfEdges_perm (S := S) (List.filter_append_perm
    (fun edge => decide (edge.edgeId ∈ (graph.inducedEdges ids).map (·.edgeId)))
    (graph.inducedEdges larger))
  rw [hold, costOfEdges, List.map_append, List.sum_append] at hsplit
  simp only [decide_not]
  exact hsplit.symm

end ContextSurroundings

/-! ## Admission -/

/-- What the admission of candidates keeps. -/
structure Admission.Sound (S : ContextSurroundings) (graph : ContextGraph) (query : ContextQuery)
    (p : Prepared) (st : Admission) : Prop where
  required : p.required ⊆ st.selectedIds
  eligible : st.selectedIds ⊆ p.eligible
  closed : PairClosure.Closed graph.contradictions st.selectedIds
  edges : st.selectedEdges = graph.inducedEdges st.selectedIds
  used : st.used =
    S.costOfNodes graph.nodeTable st.selectedIds + S.costOfEdges st.selectedEdges
  nodeBound : st.selectedIds.card ≤ query.budget.maxNodes
  edgeBound : st.selectedEdges.length ≤ query.budget.maxEdges
  byteBound : st.used ≤ query.budget.budgetBytes
  excludes : ∃ ids, Excludes st.exclusions ids ∧ Disjoint ids st.selectedIds ∧
    ids ⊆ graph.nodeIds ∧ graph.nodeIds \ (p.retrieval.candidates ∪ st.selectedIds) ⊆ ids

/-- The required nodes are a sound start. -/
theorem selectRequired_sound (hp : p.Sound graph query)
    (h : S.selectRequired graph query p = .ok st) : st.Sound S graph query p := by
  simp only [ContextSurroundings.selectRequired, bind_eq_ok, require_eq_ok, exists_unit,
    pure_eq_ok] at h
  obtain ⟨hnodes, hedges, hbytes, rfl⟩ := h
  refine ⟨Finset.Subset.refl _, hp.candidates.1.trans hp.candidates.2, hp.closed, rfl, rfl, hnodes,
    hedges, hbytes, _, hp.excludes, ?_, Finset.sdiff_subset, ?_⟩
  · exact Finset.disjoint_sdiff.symm.mono_right hp.candidates.1
  · exact Finset.sdiff_subset_sdiff (Finset.Subset.refl _) Finset.subset_union_left

/-- What admitting a candidate can do. -/
theorem consider_cases (eligible : Finset String) : S.consider graph query eligible st nodeId = st ∨
    (nodeId ∉ st.selectedIds ∧ ∃ reason details,
      S.consider graph query eligible st nodeId = st.exclude nodeId reason details) ∨
    ∃ added exclusions retrieval, added = graph.contradictionClosure {nodeId} \ st.selectedIds ∧
      added ⊆ eligible ∧ (st.selectedIds ∪ added).card ≤ query.budget.maxNodes ∧
      (graph.inducedEdges (st.selectedIds ∪ added)).length ≤ query.budget.maxEdges ∧
      exclusions = (Sorting.listed added).foldl (fun exclusions addedId => exclusions.erase addedId)
        st.exclusions ∧
      ∃ used, used = st.used + (S.costOfNodes graph.nodeTable added + S.costOfEdges
        ((graph.inducedEdges (st.selectedIds ∪ added)).filter fun edge =>
          edge.edgeId ∉ st.selectedEdges.map (·.edgeId))) ∧
        used ≤ query.budget.budgetBytes ∧
        S.consider graph query eligible st nodeId = ⟨st.selectedIds ∪ added,
          graph.inducedEdges (st.selectedIds ∪ added), used, exclusions, retrieval⟩ := by
  unfold ContextSurroundings.consider
  split
  · exact .inl rfl
  · rename_i hnew
    dsimp only
    split
    · exact .inr (.inl ⟨hnew, _, _, rfl⟩)
    · rename_i heligible
      split
      · exact .inr (.inl ⟨hnew, _, _, rfl⟩)
      · rename_i hnodes
        split
        · exact .inr (.inl ⟨hnew, _, _, rfl⟩)
        · rename_i hedges
          split
          · exact .inr (.inl ⟨hnew, _, _, rfl⟩)
          · rename_i hbytes
            exact .inr (.inr ⟨_, _, _, rfl, not_not.mp heligible, not_lt.mp hnodes,
              not_lt.mp hedges, rfl, _, rfl, not_lt.mp hbytes, rfl⟩)

/-- Leaving a node out keeps what admission keeps. -/
theorem Admission.Sound.exclude (h : st.Sound S graph query p) (hnode : nodeId ∈ graph.nodeIds)
    (hnew : nodeId ∉ st.selectedIds) {reason : String} {details : List String} :
    (st.exclude nodeId reason details).Sound S graph query p := by
  obtain ⟨ids, hids, hdisjoint, hsub, hcover⟩ := h.excludes
  refine ⟨h.required, h.eligible, h.closed, h.edges, h.used, h.nodeBound, h.edgeBound, h.byteBound,
    insert nodeId ids, hids.insert, ?_, Finset.insert_subset hnode hsub,
    hcover.trans (Finset.subset_insert _ _)⟩
  exact Finset.disjoint_insert_left.mpr ⟨hnew, hdisjoint⟩

/-- Admitting a candidate keeps what admission keeps. -/
theorem Admission.Sound.consider (hgraph : graph.WellShaped) (h : st.Sound S graph query p)
    (hnode : nodeId ∈ graph.nodeIds) :
    (S.consider graph query p.eligible st nodeId).Sound S graph query p := by
  rcases consider_cases p.eligible with hsame | ⟨hnew, reason, details, hexclude⟩ |
    ⟨added, exclusions, retrieval, hadded, heligible, hnodes, hedges, hexclusions, used, hused,
      hbytes, hconsider⟩
  · rw [hsame]
    exact h
  · rw [hexclude]
    exact h.exclude hnode hnew
  · rw [hconsider]
    obtain ⟨ids, hids, hdisjoint, hsub, hcover⟩ := h.excludes
    have hapart : Disjoint st.selectedIds added := hadded ▸ Finset.disjoint_sdiff
    have hclosed : PairClosure.Closed graph.contradictions (st.selectedIds ∪ added) := by
      rw [hadded, Finset.union_sdiff_self_eq_union]
      exact h.closed.union PairClosure.closed_closure
    refine ⟨h.required.trans Finset.subset_union_left, Finset.union_subset h.eligible heligible,
      hclosed, rfl, ?_, hnodes, hedges, hbytes, ids \ added, ?_, ?_, Finset.sdiff_subset.trans hsub,
      ?_⟩
    · have hcost := ContextSurroundings.costOfEdges_induced (S := S) hgraph
        (show st.selectedIds ⊆ st.selectedIds ∪ added from Finset.subset_union_left)
      have hold := h.used
      rw [h.edges] at hold hused
      dsimp only
      rw [ContextSurroundings.costOfNodes_union hapart, hcost, hused, hold]
      omega
    · have := hids.foldl_erase (l := Sorting.listed added)
      rw [Sorting.toFinset_listed] at this
      exact hexclusions ▸ this
    · rw [Finset.disjoint_union_right]
      exact ⟨hdisjoint.mono_left Finset.sdiff_subset, Finset.sdiff_disjoint⟩
    · intro k hk
      rw [Finset.mem_sdiff, Finset.mem_union, Finset.mem_union, not_or, not_or] at hk
      obtain ⟨hk, hcandidate, hselected, hk'⟩ := hk
      refine Finset.mem_sdiff.mpr ⟨hcover (Finset.mem_sdiff.mpr ⟨hk, ?_⟩), hk'⟩
      rw [Finset.mem_union, not_or]
      exact ⟨hcandidate, hselected⟩

/-- Admitting candidates one after the other keeps what admission keeps. -/
theorem Admission.Sound.foldl_consider (hgraph : graph.WellShaped) (h : st.Sound S graph query p)
    {nodeIds : List String} (hnodes : ∀ nodeId ∈ nodeIds, nodeId ∈ graph.nodeIds) :
    (nodeIds.foldl (S.consider graph query p.eligible) st).Sound S graph query p := by
  induction nodeIds generalizing st with
  | nil => exact h
  | cons nodeId nodeIds ih =>
    exact ih (h.consider hgraph (hnodes nodeId List.mem_cons_self))
      fun other hother => hnodes other (List.mem_cons_of_mem nodeId hother)

/-! ## The finished selection -/

variable {queryArtifact : LoadedContextArtifact ContextQuery} {selection : ContextSelection}

/-- The identities of the selected nodes. -/
def ContextSelection.selectedIds (selection : ContextSelection) : List String :=
  selection.selected.map (·.nodeId)

/-- A selection is correct for a query against a graph. -/
structure ContextSelection.Correct (S : ContextSurroundings) (graph : ContextGraph)
    (query : ContextQuery) (selection : ContextSelection) : Prop where
  partition : (selection.selectedIds ++ selection.excluded.map (·.nodeId)).Perm
    (graph.nodes.map (·.nodeId))
  required : ∀ node ∈ graph.nodes, node.required = true → node.nodeId ∈ selection.selectedIds
  queryRequired : ∀ nodeId ∈ query.requiredNodeIds, nodeId ∈ selection.selectedIds
  eligible : ∀ node ∈ graph.nodes, node.nodeId ∈ selection.selectedIds →
    eligibilityProblem node query = none
  contradictions : ∀ edge ∈ graph.edges, edge.edgeType = .contradicts →
    (edge.sourceNodeId ∈ selection.selectedIds ↔ edge.targetNodeId ∈ selection.selectedIds)
  edges : selection.selectedEdgeIds.Perm ((graph.edges.filter fun edge =>
    edge.sourceNodeId ∈ selection.selectedIds ∧
      edge.targetNodeId ∈ selection.selectedIds).map (·.edgeId))
  nodeBound : selection.selected.length ≤ query.budget.maxNodes
  edgeBound : selection.selectedEdgeIds.length ≤ query.budget.maxEdges
  used : selection.usedBytes =
    ((graph.nodes.filter fun node => node.nodeId ∈ selection.selectedIds).map S.nodeCost).sum +
    ((graph.edges.filter fun edge => edge.sourceNodeId ∈ selection.selectedIds ∧
      edge.targetNodeId ∈ selection.selectedIds).map S.edgeCost).sum
  byteBound : selection.usedBytes ≤ query.budget.budgetBytes

/-- The nodes that a list of identities names. -/
theorem ContextGraph.WellShaped.named (hgraph : graph.WellShaped) {ids : List String}
    {nodes : List ContextNode}
    (h : ids.mapM (fun nodeId => fromOption graph.nodeTable[nodeId]? "KeyError") = .ok nodes) :
    nodes.map (·.nodeId) = ids ∧
      nodes.map S.nodeCost = ids.map fun nodeId => graph.nodeTable[nodeId]?.elim 0 S.nodeCost := by
  induction mapM_eq_ok.mp h with
  | nil => exact ⟨rfl, rfl⟩
  | cons hhead _ ih =>
    obtain ⟨hids, hcosts⟩ := ih (mapM_eq_ok.mpr ‹_›)
    rw [fromOption_eq_ok] at hhead
    simp only [List.map_cons, hids, hcosts, hhead, (hgraph.getElem?_nodeTable.mp hhead).2,
      Option.elim_some, and_self]

/-- The cost of a set of nodes, summed over a list of them. -/
theorem ContextSurroundings.sum_costs (hgraph : graph.WellShaped) {ids : Finset String}
    {nodes : List ContextNode} (h : (Sorting.listed ids).mapM (fun nodeId =>
      fromOption graph.nodeTable[nodeId]? "KeyError") = .ok nodes) :
    (nodes.map S.nodeCost).sum = S.costOfNodes graph.nodeTable ids := by
  rw [(hgraph.named h).2, costOfNodes]
  have hsum := List.sum_toFinset (fun nodeId => graph.nodeTable[nodeId]?.elim 0 S.nodeCost)
    (Sorting.nodup_listed (s := ids))
  rw [Sorting.toFinset_listed] at hsum
  exact hsum.symm

/-- The cost of a set of nodes, summed over the graph. -/
theorem ContextSurroundings.costOfNodes_eq (hgraph : graph.WellShaped) {ids : Finset String}
    (h : ids ⊆ graph.nodeIds) : S.costOfNodes graph.nodeTable ids =
      ((graph.nodes.filter fun node => node.nodeId ∈ ids).map S.nodeCost).sum := by
  have hids :
      ((graph.nodes.filter fun node => node.nodeId ∈ ids).map (·.nodeId)).toFinset = ids := by
    ext k
    simp only [List.mem_toFinset, List.mem_map, List.mem_filter, decide_eq_true_eq]
    constructor
    · rintro ⟨node, ⟨-, hmem⟩, rfl⟩
      exact hmem
    · intro hk
      obtain ⟨node, hnode, rfl⟩ := ContextGraph.mem_nodeIds.mp (h hk)
      exact ⟨node, ⟨hnode, hk⟩, rfl⟩
  have hnodup : ((graph.nodes.filter fun node => node.nodeId ∈ ids).map (·.nodeId)).Nodup :=
    hgraph.nodeIds.sublist (List.filter_sublist.map _)
  have hsum := List.sum_toFinset (fun nodeId => graph.nodeTable[nodeId]?.elim 0 S.nodeCost) hnodup
  rw [hids, List.map_map] at hsum
  rw [costOfNodes, hsum]
  refine congrArg List.sum (List.map_congr_left fun node hnode => ?_)
  have hnode := List.mem_of_mem_filter hnode
  simp [hgraph.getElem?_nodeTable.mpr ⟨hnode, rfl⟩]

/-- The accounting of a sound admission is exact, so its check always passes. -/
theorem used_eq (hgraph : graph.WellShaped) (hst : st.Sound S graph query p)
    {nodes : List ContextNode} {distances : Table Nat} {queryTokens : Finset String}
    (h : (Sorting.listed st.selectedIds).mapM (fun nodeId =>
      fromOption graph.nodeTable[nodeId]? "KeyError") = .ok nodes) :
    st.used = ((nodes.map (S.decision distances queryTokens st.retrieval)).map
      (·.costBytes)).sum + S.costOfEdges st.selectedEdges := by
  have hcosts : (nodes.map (S.decision distances queryTokens st.retrieval)).map (·.costBytes) =
      nodes.map S.nodeCost := by
    rw [List.map_map]
    rfl
  rw [hcosts, ContextSurroundings.sum_costs hgraph h, hst.used]

/-- What is left out after the admission is what was not selected. -/
theorem excludes_notSelected (hst : st.Sound S graph query p)
    (hcandidates : p.retrieval.candidates ⊆ graph.nodeIds) :
    Excludes ((Sorting.listed (p.retrieval.candidates \ st.selectedIds)).foldl
      (fun exclusions nodeId => exclusions.insertIfNew nodeId ⟨nodeId, "not-selected", []⟩)
      st.exclusions) (graph.nodeIds \ st.selectedIds) := by
  obtain ⟨ids, hids, hdisjoint, hsub, hcover⟩ := hst.excludes
  convert hids.foldl_insertIfNew using 1
  rw [Sorting.toFinset_listed]
  ext k
  simp only [Finset.mem_sdiff, Finset.mem_union]
  constructor
  · rintro ⟨hk, hnot⟩
    by_cases hcandidate : k ∈ p.retrieval.candidates
    · exact .inr ⟨hcandidate, hnot⟩
    · refine .inl (hcover (Finset.mem_sdiff.mpr ⟨hk, ?_⟩))
      rw [Finset.mem_union, not_or]
      exact ⟨hcandidate, hnot⟩
  · rintro (hk | ⟨hcandidate, hnot⟩)
    · exact ⟨hsub hk, Finset.disjoint_left.mp hdisjoint hk⟩
    · exact ⟨hcandidates hcandidate, hnot⟩

/-- What a sound admission concludes is correct. -/
theorem conclude_correct (hgraph : graphArtifact.value.WellShaped)
    (hp : p.Sound graphArtifact.value queryArtifact.value)
    (hst : st.Sound S graphArtifact.value queryArtifact.value p)
    (h : S.conclude graphArtifact queryArtifact p st = .ok selection) :
    selection.Correct S graphArtifact.value queryArtifact.value := by
  simp only [ContextSurroundings.conclude, bind_eq_ok, require_eq_ok, exists_unit, pure_eq_ok] at h
  obtain ⟨nodes, hnodes, hused, sensitivity, -, hselection⟩ := h
  have hselected : selection.selectedIds = Sorting.listed st.selectedIds := by
    rw [← (hgraph.named (S := S) hnodes).1, ← hselection, ContextSelection.selectedIds,
      List.map_map]
    rfl
  have hmem : ∀ k, k ∈ selection.selectedIds ↔ k ∈ st.selectedIds := by
    intro k
    rw [hselected, Sorting.mem_listed]
  have hsub : st.selectedIds ⊆ graphArtifact.value.nodeIds :=
    hst.eligible.trans hp.eligible_subset
  have hdirect : ∀ k ∈ graphArtifact.value.directlyRequired queryArtifact.value,
      k ∈ selection.selectedIds :=
    fun k hk => (hmem k).mpr (hst.required (hp.directlyRequired hk))
  have hedges : graphArtifact.value.edges.filter (fun edge =>
      edge.sourceNodeId ∈ selection.selectedIds ∧ edge.targetNodeId ∈ selection.selectedIds) =
      st.selectedEdges := by
    simp only [hmem, hst.edges, ContextGraph.inducedEdges]
  have hedgeIds : selection.selectedEdgeIds.Perm (st.selectedEdges.map (·.edgeId)) := by
    rw [← hselection]
    exact List.perm_insertionSort _ _
  have husedBytes : selection.usedBytes = st.used := by rw [← hselection]
  constructor
  · have hexcludes := excludes_notSelected hst
      (hp.candidates.2.trans hp.eligible_subset)
    rw [hselected, ← hselection]
    dsimp only
    rw [hexcludes.rows]
    refine (List.perm_ext_iff_of_nodup ?_ hgraph.nodeIds).mpr fun k => ?_
    · refine List.nodup_append.mpr ⟨Sorting.nodup_listed, Std.ExtTreeMap.nodup_keys, ?_⟩
      rintro k hk _ hk' rfl
      rw [Std.ExtTreeMap.mem_keys, hexcludes.mem_iff, Finset.mem_sdiff] at hk'
      exact hk'.2 ((Sorting.mem_listed).mp hk)
    · rw [List.mem_append, Sorting.mem_listed, Std.ExtTreeMap.mem_keys, hexcludes.mem_iff,
        Finset.mem_sdiff, ← List.mem_toFinset]
      exact ⟨fun hk => hk.elim (fun hk => hsub hk) (·.1), fun hk => or_iff_not_imp_left.mpr
        fun hnot => ⟨hk, hnot⟩⟩
  · intro node hnode hrequired
    refine hdirect _ (Finset.mem_union_left _ (List.mem_toFinset.mpr (List.mem_map_of_mem ?_)))
    exact List.mem_filter.mpr ⟨hnode, hrequired⟩
  · intro nodeId hnode
    exact hdirect _ (Finset.mem_union_right _ (List.mem_toFinset.mpr hnode))
  · intro node hnode hselected
    obtain ⟨other, hother, hsame, hnone⟩ :=
      (hp.eligible _).mp (hst.eligible ((hmem _).mp hselected))
    rwa [List.inj_on_of_nodup_map hgraph.nodeIds hother hnode hsame] at hnone
  · intro edge hedge htype
    rw [hmem, hmem]
    exact hst.closed (edge.sourceNodeId, edge.targetNodeId)
      (List.mem_map.mpr ⟨edge, List.mem_filter.mpr ⟨hedge, by simp [htype]⟩, rfl⟩)
  · rw [hedges]
    exact hedgeIds
  · have hlength := congrArg List.length hselected
    rw [ContextSelection.selectedIds, List.length_map, Sorting.length_listed] at hlength
    exact hlength ▸ hst.nodeBound
  · rw [hedgeIds.length_eq, List.length_map]
    exact hst.edgeBound
  · rw [husedBytes, hst.used, ContextSurroundings.costOfNodes_eq hgraph hsub, hedges]
    simp only [hmem]
    rfl
  · exact husedBytes ▸ hst.byteBound

end Sdaqf
