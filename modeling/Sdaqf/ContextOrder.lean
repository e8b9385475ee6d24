import Sdaqf.ContextCorrectness

/-!
# The selection does not depend on the order of the graph

Two graphs that list the same nodes and edges in different orders have the same tables, the same
closures and the same traversals, so a query that selects from the one selects the same from the
other.
-/

namespace Sdaqf

open Guard

variable {graph graph' : ContextGraph} {query : ContextQuery} {S : ContextSurroundings}
  {p : Prepared} {st st' : Admission} {nodeId : String}

/-- Updates of a retrieval at different nodes commute. -/
theorem Retrieval.note_comm {r : Retrieval} {a b : String} (h : a ≠ b) {phase : Nat}
    {reason : String} :
    (r.note a phase reason).note b phase reason = (r.note b phase reason).note a phase reason := by
  simp only [note, Commuting.alter_comm h]

theorem screen_eq_ok {required : Finset String} {st r : Screening} {node : ContextNode} :
    screen query required st node = .ok r ↔
      (eligibilityProblem node query = none ∧
        r = { st with eligible := insert node.nodeId st.eligible }) ∨
      ∃ problem, eligibilityProblem node query = some problem ∧ node.nodeId ∉ required ∧
        r = { st with
          exclusions := st.exclusions.insert node.nodeId ⟨node.nodeId, problem, []⟩ } := by
  unfold screen
  split
  · rename_i hnone
    simp [hnone, eq_comm]
  · rename_i problem hsome
    split
    · rename_i hrequired
      simp [hsome, hrequired]
    · rename_i hnot
      simp [hsome, hnot, eq_comm]

namespace ContextGraph.Reordered

variable (h : Reordered graph graph')

include h

theorem contradictions : graph.contradictions.Perm graph'.contradictions :=
  (h.edges.filter _).map _

theorem contradictionClosure (starts : Finset String) :
    graph.contradictionClosure starts = graph'.contradictionClosure starts :=
  PairClosure.closure_perm h.contradictions

theorem directlyRequired : graph.directlyRequired query = graph'.directlyRequired query := by
  rw [ContextGraph.directlyRequired, ContextGraph.directlyRequired,
    List.toFinset_eq_of_perm _ _ ((h.nodes.filter _).map _)]

theorem inducedEdges (ids : Finset String) :
    (graph.inducedEdges ids).Perm (graph'.inducedEdges ids) :=
  h.edges.filter _

theorem nodeIds : graph.nodeIds = graph'.nodeIds :=
  List.toFinset_eq_of_perm _ _ (h.nodes.map _)

/-! ## Traversal -/

theorem neighbors (current : String) :
    graph.neighbors query current = graph'.neighbors query current :=
  Sorting.insertionSort_eq_of_perm ((h.edges.filter _).flatMap_right _)

theorem visit {fuel : Nat} {t : Traversal} :
    graph.visit query fuel t = graph'.visit query fuel t := by
  induction fuel generalizing t with
  | zero => rfl
  | succ fuel ih => simp only [ContextGraph.visit, h.neighbors, ih]

theorem traverse (starts : Finset String) :
    graph.traverse query starts = graph'.traverse query starts := by
  simp only [ContextGraph.traverse, h.visit, h.edges.length_eq]

/-! ## Tables -/

variable (hgraph : graph.WellShaped)

include hgraph

theorem wellShaped : graph'.WellShaped where
  nodeIds := (h.nodes.map _).nodup_iff.mp hgraph.nodeIds
  edgeIds := (h.edges.map _).nodup_iff.mp hgraph.edgeIds
  ends edge hedge := h.nodeIds ▸ hgraph.ends edge (h.edges.symm.subset hedge)

theorem nodeTable : graph.nodeTable = graph'.nodeTable :=
  Commuting.foldl_perm h.nodes hgraph.nodeIds (fun _ _ _ hne => Commuting.insert_comm hne) _

theorem noteMatching {r : Retrieval} {eligible : Finset String} {hit : ContextNode → Bool}
    {phase : Nat} {reason : String} : r.noteMatching graph.nodes eligible hit phase reason =
      r.noteMatching graph'.nodes eligible hit phase reason := by
  refine Commuting.foldl_perm h.nodes hgraph.nodeIds (fun r a b hne => ?_) r
  split_ifs with ha hb
  · exact Retrieval.note_comm hne
  · rfl
  · rfl
  · rfl

theorem retrieve {directlyRequired required eligible queryTokens : Finset String}
    {distances : Table Nat} :
    retrieve graph query directlyRequired required eligible distances queryTokens =
      Sdaqf.retrieve graph' query directlyRequired required eligible distances queryTokens := by
  simp only [Sdaqf.retrieve, h.noteMatching hgraph]

/-- Screening two nodes in one order is screening them in the other. -/
theorem screening {required : Finset String} {screening : Screening}
    (hscreening : graph.nodes.foldlM (screen query required) {} = .ok screening) :
    graph'.nodes.foldlM (screen query required) {} = .ok screening := by
  refine Commuting.foldlM_perm h.nodes Ne.symm (List.pairwise_map.mp hgraph.nodeIds)
    (fun st a b r hne hr => ?_) hscreening
  rw [bind_eq_ok] at hr ⊢
  obtain ⟨between, ha, hb⟩ := hr
  rcases screen_eq_ok.mp ha with ⟨hanone, rfl⟩ | ⟨aproblem, hasome, haopt, rfl⟩
  · rcases screen_eq_ok.mp hb with ⟨hbnone, rfl⟩ | ⟨bproblem, hbsome, hbopt, rfl⟩
    · refine ⟨_, screen_eq_ok.mpr (.inl ⟨hbnone, rfl⟩), screen_eq_ok.mpr (.inl ⟨hanone, ?_⟩)⟩
      rw [Finset.insert_comm]
    · exact ⟨_, screen_eq_ok.mpr (.inr ⟨_, hbsome, hbopt, rfl⟩),
        screen_eq_ok.mpr (.inl ⟨hanone, rfl⟩)⟩
  · rcases screen_eq_ok.mp hb with ⟨hbnone, rfl⟩ | ⟨bproblem, hbsome, hbopt, rfl⟩
    · exact ⟨_, screen_eq_ok.mpr (.inl ⟨hbnone, rfl⟩),
        screen_eq_ok.mpr (.inr ⟨_, hasome, haopt, rfl⟩)⟩
    · refine ⟨_, screen_eq_ok.mpr (.inr ⟨_, hbsome, hbopt, rfl⟩),
        screen_eq_ok.mpr (.inr ⟨_, hasome, haopt, ?_⟩)⟩
      simp only [Commuting.insert_comm hne]

/-- What is prepared from the one graph is prepared from the other. -/
theorem prepare {graphId : String} (hp : prepare ⟨graphId, graph⟩ query = .ok p) :
    Sdaqf.prepare ⟨graphId, graph'⟩ query = .ok p := by
  simp only [Sdaqf.prepare, bind_eq_ok, require_eq_ok, exists_unit, pure_eq_ok] at hp ⊢
  obtain ⟨hid, hcandidate, hpresent, screening, hscreening, required, hrequired, distances,
    hdistances, rfl⟩ := hp
  have hdirect : graph.directlyRequired query ⊆ screening.eligible :=
    (screened hscreening).required_subset hgraph fun k hk => hpresent k (Finset.mem_union_left _ hk)
  refine ⟨hid, h.candidate ▸ hcandidate, ?_, screening, ?_, required, ?_, distances, ?_, ?_⟩
  · rwa [← h.directlyRequired, ← h.nodeTable hgraph]
  · rw [← h.directlyRequired]
    exact h.screening hgraph hscreening
  · rw [PairClosure.closureWithin_eq hdirect,
      PairClosure.closure_perm h.contradictions] at hrequired
    rwa [← h.directlyRequired, PairClosure.closureWithin_eq hdirect]
  · rwa [← h.traverse]
  · rw [← h.directlyRequired, ← h.retrieve hgraph]

theorem rankedOptional : p.rankedOptional graph = p.rankedOptional graph' := by
  simp only [Prepared.rankedOptional, h.nodeTable hgraph]

end ContextGraph.Reordered

/-! ## Admission -/

/-- Two admissions agree up to the order of their edges. -/
structure Admission.Agrees (st st' : Admission) : Prop where
  selectedIds : st.selectedIds = st'.selectedIds
  selectedEdges : st.selectedEdges.Perm st'.selectedEdges
  used : st.used = st'.used
  exclusions : st.exclusions = st'.exclusions
  retrieval : st.retrieval = st'.retrieval

namespace ContextGraph.Reordered

variable (h : Reordered graph graph') (hgraph : graph.WellShaped)

include h hgraph

/-- Admitting a candidate from the one graph agrees with admitting it from the other. -/
theorem consider (hst : st.Agrees st') (eligible : Finset String) :
    (S.consider graph query eligible st nodeId).Agrees
      (S.consider graph' query eligible st' nodeId) := by
  obtain ⟨selectedIds, selectedEdges, used, exclusions, retrieval⟩ := st
  obtain ⟨selectedIds', selectedEdges', used', exclusions', retrieval'⟩ := st'
  obtain ⟨rfl, hedges, rfl, rfl, rfl⟩ := hst
  have hnew : ∀ ids : Finset String, S.costOfEdges ((graph.inducedEdges ids).filter fun edge =>
      edge.edgeId ∉ selectedEdges.map (·.edgeId)) =
      S.costOfEdges ((graph'.inducedEdges ids).filter fun edge =>
        edge.edgeId ∉ selectedEdges'.map (·.edgeId)) := by
    intro ids
    simp only [(hedges.map _).mem_iff]
    exact ContextSurroundings.costOfEdges_perm ((h.inducedEdges ids).filter _)
  simp only [ContextSurroundings.consider, h.contradictionClosure, ← h.nodeTable hgraph, hnew,
    (h.inducedEdges _).length_eq]
  split_ifs
  · exact ⟨rfl, hedges, rfl, rfl, rfl⟩
  · exact ⟨rfl, hedges, rfl, rfl, rfl⟩
  · exact ⟨rfl, hedges, rfl, rfl, rfl⟩
  · exact ⟨rfl, hedges, rfl, rfl, rfl⟩
  · exact ⟨rfl, h.inducedEdges _, rfl, rfl, rfl⟩
  · exact ⟨rfl, hedges, rfl, rfl, rfl⟩

theorem foldl_consider {nodeIds : List String} (hst : st.Agrees st') (eligible : Finset String) :
    (nodeIds.foldl (S.consider graph query eligible) st).Agrees
      (nodeIds.foldl (S.consider graph' query eligible) st') := by
  induction nodeIds generalizing st st' with
  | nil => exact hst
  | cons nodeId nodeIds ih => exact ih (h.consider hgraph hst eligible)

theorem selectRequired (hst : S.selectRequired graph query p = .ok st) :
    ∃ st', S.selectRequired graph' query p = .ok st' ∧ st.Agrees st' := by
  simp only [ContextSurroundings.selectRequired, bind_eq_ok, require_eq_ok, exists_unit,
    pure_eq_ok, h.nodeTable hgraph, (h.inducedEdges _).length_eq,
    ContextSurroundings.costOfEdges_perm (h.inducedEdges _)] at hst ⊢
  obtain ⟨hnodes, hedges, hbytes, rfl⟩ := hst
  exact ⟨_, ⟨hnodes, hedges, hbytes, rfl⟩, rfl, h.inducedEdges _, rfl, rfl, rfl⟩

/-- Agreeing admissions conclude the same. -/
theorem conclude {graphId : String} {queryArtifact : LoadedContextArtifact ContextQuery}
    (hst : st.Agrees st') : S.conclude ⟨graphId, graph⟩ queryArtifact p st =
      S.conclude ⟨graphId, graph'⟩ queryArtifact p st' := by
  have hids := Sorting.insertionSort_eq_of_perm (hst.selectedEdges.map (·.edgeId))
  have hcontradictions := Sorting.insertionSort_eq_of_perm
    ((hst.selectedEdges.filter (·.edgeType = .contradicts)).map (·.edgeId))
  simp only [ContextSurroundings.conclude, h.nodeTable hgraph, h.candidate, hst.selectedIds,
    hst.used, hst.exclusions, hst.retrieval, hids, hcontradictions,
    ContextSurroundings.costOfEdges_perm hst.selectedEdges]

/-- A query that selects from the one graph selects the same from the other. -/
theorem select {graphId : String} {queryArtifact : LoadedContextArtifact ContextQuery}
    {loaded : LoadedContextArtifact ContextSelection}
    (hselect : S.select ⟨graphId, graph⟩ queryArtifact = .ok loaded) :
    S.select ⟨graphId, graph'⟩ queryArtifact = .ok loaded := by
  simp only [ContextSurroundings.select, ContextSurroundings.choose, bind_eq_ok] at hselect ⊢
  obtain ⟨selection, ⟨p, hp, st, hst, hconclude⟩, hidentity⟩ := hselect
  obtain ⟨st', hst', hagrees⟩ := h.selectRequired hgraph hst
  refine ⟨selection, ⟨p, h.prepare hgraph hp, st', hst', ?_⟩, hidentity⟩
  rw [← hconclude, ← h.rankedOptional hgraph]
  exact (h.conclude hgraph (h.foldl_consider hgraph hagrees p.eligible)).symm

end ContextGraph.Reordered

end Sdaqf
