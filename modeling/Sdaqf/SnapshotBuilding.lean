import Sdaqf.ContextAccounting
import Sdaqf.ContextLaws
import Sdaqf.SnapshotDropping

/-!
# Building a snapshot

The builder reads an exact selection of its graph, so the nodes and edges it starts from are the
selected ones and those they induce. What the observation leaves is closed under contradiction like
the selection, keeps every required node, and costs no more than the selection did, so the parser of
snapshots accepts it.
-/

namespace Sdaqf

open Guard
open JsonText (Value)

/-! ## Reading rows by their keys -/

/-- Reading rows by keys in their order gives the rows with these keys in their order. -/
theorem Table.mapM_ofRows {α : Type} {key : α → String} {rows : List α} {ids : List String}
    {message : String} (hrows : (rows.map key).Pairwise (· < ·)) (hids : ids.Pairwise (· < ·))
    (hmem : ∀ id ∈ ids, id ∈ rows.map key) :
    (ids.mapM fun id => fromOption (Table.ofRows key rows)[id]? message) =
      .ok (rows.filter fun v => key v ∈ ids) := by
  have hsub : ((rows.filter fun v => key v ∈ ids).map key).Sublist (rows.map key) :=
    List.filter_sublist.map key
  have hkeys : (rows.filter fun v => key v ∈ ids).map key = ids := by
    refine ((List.perm_ext_iff_of_nodup ((hrows.sublist hsub).imp ne_of_lt)
      (hids.imp ne_of_lt)).mpr fun id => ?_).eq_of_pairwise
      (fun _ _ _ _ hab hba => absurd hab (lt_asymm hba)) (hrows.sublist hsub) hids
    simp only [List.mem_map, List.mem_filter, decide_eq_true_eq]
    constructor
    · rintro ⟨v, ⟨-, hv⟩, rfl⟩
      exact hv
    · intro hid
      obtain ⟨v, hv, rfl⟩ := List.mem_map.mp (hmem id hid)
      exact ⟨v, ⟨hv, hid⟩, rfl⟩
  have hread : List.Forall₂ (fun id v =>
      fromOption (Table.ofRows key rows)[id]? message = .ok v)
      ((rows.filter fun v => key v ∈ ids).map key) (rows.filter fun v => key v ∈ ids) := by
    rw [List.forall₂_map_left_iff, List.forall₂_same]
    intro v hv
    exact fromOption_eq_ok.mpr ((Table.getElem?_ofRows (hrows.imp ne_of_lt)).mpr
      ⟨List.mem_of_mem_filter hv, rfl⟩)
  rw [hkeys] at hread
  exact mapM_eq_ok.mpr hread

/-! ## Exact selections -/

variable {S : ContextSurroundings} {graphArtifact : LoadedContextArtifact ContextGraph}
  {queryArtifact : LoadedContextArtifact ContextQuery} {selection : ContextSelection}

/-- What a selection says about the nodes it selects, in which order. -/
structure ContextSelection.Decided (S : ContextSurroundings) (graph : ContextGraph)
    (query : ContextQuery) (selection : ContextSelection) : Prop where
  ordered : selection.selectedIds.Pairwise (· < ·)
  decisions : ∀ decision ∈ selection.selected, ∃ node ∈ graph.nodes,
    node.nodeId = decision.nodeId ∧ decision.costBytes = S.nodeCost node ∧
      decision.authorityRank = node.authority.rank ∧
      decision.sensitivityRank = node.sensitivity.rank
  orderedEdges : selection.selectedEdgeIds.Pairwise (· ≤ ·)
  query_eq : selection.query = query
  budget : selection.budgetBytes = query.budget.budgetBytes

/-- The nodes that identities name are nodes of the graph. -/
theorem ContextGraph.WellShaped.named_subset {graph : ContextGraph} (hgraph : graph.WellShaped)
    {ids : List String} {nodes : List ContextNode}
    (h : ids.mapM (fun nodeId => fromOption graph.nodeTable[nodeId]? "KeyError") = .ok nodes) :
    ∀ node ∈ nodes, node ∈ graph.nodes := by
  induction mapM_eq_ok.mp h with
  | nil => simp
  | cons hhead _ ih =>
    rw [fromOption_eq_ok] at hhead
    exact List.forall_mem_cons.mpr ⟨(hgraph.getElem?_nodeTable.mp hhead).1,
      ih (mapM_eq_ok.mpr ‹_›)⟩

theorem conclude_decided {p : Prepared} {st : Admission} (hgraph : graphArtifact.value.WellShaped)
    (h : S.conclude graphArtifact queryArtifact p st = .ok selection) :
    selection.Decided S graphArtifact.value queryArtifact.value := by
  simp only [ContextSurroundings.conclude, bind_eq_ok, require_eq_ok, exists_unit, pure_eq_ok] at h
  obtain ⟨nodes, hnodes, -, sensitivity, -, rfl⟩ := h
  have hids := (hgraph.named (S := S) hnodes).1
  refine ⟨?_, ?_, List.pairwise_insertionSort _ _, rfl, rfl⟩
  · rw [ContextSelection.selectedIds, List.map_map]
    refine (congrArg _ hids).mpr Sorting.pairwise_lt_listed
  · simp only [List.forall_mem_map]
    exact fun node hnode => ⟨node, hgraph.named_subset hnodes node hnode, rfl, rfl, rfl, rfl⟩

theorem select_decided {loaded : LoadedContextArtifact ContextSelection}
    (hgraph : graphArtifact.value.WellShaped)
    (h : S.select graphArtifact queryArtifact = .ok loaded) :
    loaded.value.Correct S graphArtifact.value queryArtifact.value ∧
      loaded.value.Decided S graphArtifact.value queryArtifact.value := by
  simp only [ContextSurroundings.select, ContextSurroundings.choose, bind_eq_ok, pure_eq_ok] at h
  obtain ⟨selection, ⟨p, hp, st, hst, hconclude⟩, artifactId, -, rfl⟩ := h
  have hprepared := prepare_sound hgraph hp
  exact ⟨conclude_correct hgraph hprepared ((selectRequired_sound hprepared hst).foldl_consider
    hgraph (Prepared.Sound.rankedOptional hgraph)) hconclude, conclude_decided hgraph hconclude⟩

/-! ## What a selection depends on -/

section Congruence

variable {graph : ContextGraph} {query : ContextQuery} {S' : ContextSurroundings} {p : Prepared}
  {st : Admission}

/-- Two surroundings that cost the nodes and edges of a graph alike. -/
structure CostAlike (graph : ContextGraph) (S S' : ContextSurroundings) : Prop where
  nodes : ∀ node ∈ graph.nodes, S.nodeCost node = S'.nodeCost node
  edges : ∀ edge ∈ graph.edges, S.edgeCost edge = S'.edgeCost edge

theorem CostAlike.costOfNodes (h : CostAlike graph S S') (hgraph : graph.WellShaped)
    (ids : Finset String) :
    S.costOfNodes graph.nodeTable ids = S'.costOfNodes graph.nodeTable ids := by
  refine Finset.sum_congr rfl fun id _ => ?_
  cases hnode : graph.nodeTable[id]? with
  | none => rfl
  | some node => exact h.nodes node (hgraph.getElem?_nodeTable.mp hnode).1

theorem CostAlike.costOfEdges (h : CostAlike graph S S') {edges : List ContextEdge}
    (hedges : edges ⊆ graph.edges) : S.costOfEdges edges = S'.costOfEdges edges :=
  congrArg List.sum (List.map_congr_left fun edge hedge => h.edges edge (hedges hedge))

theorem CostAlike.selectRequired (h : CostAlike graph S S') (hgraph : graph.WellShaped) :
    S.selectRequired graph query p = S'.selectRequired graph query p := by
  have hinduced : graph.inducedEdges p.required ⊆ graph.edges := fun _ => List.mem_of_mem_filter
  simp only [ContextSurroundings.selectRequired, h.costOfNodes hgraph, h.costOfEdges hinduced]

theorem CostAlike.consider (h : CostAlike graph S S') (hgraph : graph.WellShaped)
    (eligible : Finset String) :
    S.consider graph query eligible = S'.consider graph query eligible := by
  funext st nodeId
  have hadded (ids : Finset String) : (graph.inducedEdges ids).filter (fun edge =>
      edge.edgeId ∉ st.selectedEdges.map (·.edgeId)) ⊆ graph.edges :=
    fun _ hedge => List.mem_of_mem_filter (List.mem_of_mem_filter hedge)
  simp only [ContextSurroundings.consider, h.costOfNodes hgraph, h.costOfEdges (hadded _)]

theorem CostAlike.conclude (h : CostAlike graphArtifact.value S S')
    (hgraph : graphArtifact.value.WellShaped)
    (hedges : st.selectedEdges ⊆ graphArtifact.value.edges) :
    S.conclude graphArtifact queryArtifact p st = S'.conclude graphArtifact queryArtifact p st := by
  simp only [ContextSurroundings.conclude, h.costOfEdges hedges]
  cases hnodes : (Sorting.listed st.selectedIds).mapM fun nodeId =>
      fromOption graphArtifact.value.nodeTable[nodeId]? "KeyError" with
  | error e => rfl
  | ok nodes =>
    have hdecisions : nodes.map (S.decision p.distances p.queryTokens st.retrieval) =
        nodes.map (S'.decision p.distances p.queryTokens st.retrieval) := by
      refine List.map_congr_left fun node hnode => ?_
      simp only [ContextSurroundings.decision, h.nodes node (hgraph.named_subset hnodes node hnode)]
    simp only [hdecisions, bind, Except.bind]

/-- A selection depends only on what the graph's own nodes and edges cost. -/
theorem CostAlike.choose (h : CostAlike graphArtifact.value S S')
    (hgraph : graphArtifact.value.WellShaped) :
    S.choose graphArtifact queryArtifact = S'.choose graphArtifact queryArtifact := by
  rw [ContextSurroundings.choose, ContextSurroundings.choose]
  refine bind_congr_of_ok fun p hp => ?_
  have hprepared := prepare_sound hgraph hp
  rw [h.selectRequired hgraph, h.consider hgraph]
  refine bind_congr_of_ok fun st hst => h.conclude hgraph ?_
  have hsound := (selectRequired_sound hprepared hst).foldl_consider hgraph
    (Prepared.Sound.rankedOptional (p := p) hgraph)
  rw [hsound.edges]
  exact fun _ => List.mem_of_mem_filter

end Congruence

/-! ## What the parsers ask -/

/-- What the checks of a graph's nodes and edges ask. -/
structure LawfulGraph (E : ContextEncoding) (graph : ContextGraph) : Prop where
  few : graph.nodes.length ≤ maxGraphNodes
  nodes : ∀ node ∈ graph.nodes, LawfulNode E node
  nonempty : graph.nodes ≠ []
  ordered : (graph.nodes.map (·.nodeId)).Pairwise (· < ·)
  sources : (graph.nodes.map (·.sourceId)).Nodup
  authority : ∀ node ∈ graph.nodes, node.validateContextAuthority = .ok ()
  candidate : LawfulCandidate graph.candidate
  canonical : HasCanonicalSpecification graph.candidate graph.nodes
  fewEdges : graph.edges.length ≤ maxGraphEdges
  edges : ∀ edge ∈ graph.edges, LawfulEdge E (graph.nodes.map (·.nodeId)) edge
  orderedEdges : (graph.edges.map (·.edgeId)).Pairwise (· < ·)

variable {E : ContextEncoding} {graph : ContextGraph} {u : Unit}

theorem recordContract_eq_ok : graph.recordContract E = .ok u ↔ LawfulGraph E graph := by
  simp only [ContextGraph.recordContract, bind_eq_ok, exists_unit, require_eq_ok,
    arrayValue_eq_ok, ascendingUnique_eq_ok, forEach_eq_ok, candidateIdentity_eq_ok,
    forEachIndexed_eq_ok (p := LawfulNode E) fun _ _ => nodeContract_eq_ok,
    forEachIndexed_eq_ok (p := LawfulEdge E (graph.nodes.map (·.nodeId))) fun _ _ =>
      edgeContract_eq_ok]
  constructor
  · rintro ⟨h₁, h₂, h₃, h₄, h₅, h₆, h₇, h₈, h₉, h₁₀, h₁₁⟩
    exact ⟨h₁, h₂, h₃, h₄, h₅, h₆, h₇, h₈, h₉, h₁₀, h₁₁⟩
  · intro h
    exact ⟨h.1, h.2, h.3, h.4, h.5, h.6, h.7, h.8, h.9, h.10, h.11⟩

theorem LawfulGraph.wellShaped (h : LawfulGraph E graph) : graph.WellShaped where
  nodeIds := h.ordered.imp ne_of_lt
  edgeIds := h.orderedEdges.imp ne_of_lt
  ends edge hedge := by
    simpa [ContextGraph.nodeIds] using (h.edges edge hedge).ends

/-- What a snapshot takes over from a selection that its parser accepts. -/
structure LawfulSelection (s : ContextSelection) : Prop where
  queryId : IsContextId "CTX-QUERY-" s.queryId
  graphId : IsContextId "CTX-GRAPH-" s.graphId
  selected : ∀ decision ∈ s.selected, LawfulSelected decision
  excluded : ∀ decision ∈ s.excluded, LawfulExclusion decision
  orderedExcluded : (s.excluded.map (·.nodeId)).Pairwise (· < ·)
  budget : 1024 ≤ s.budgetBytes ∧ s.budgetBytes ≤ 8388608

theorem lawfulSelection (h : selection.contract E = .ok ()) : LawfulSelection selection := by
  have hbudget : integerValue "content.budget_bytes" 1024 8388608 selection.budgetBytes = .ok () ↔
      1024 ≤ selection.budgetBytes ∧ selection.budgetBytes ≤ 8388608 := natValue_eq_ok
  simp only [ContextSelection.contract, bind_eq_ok, exists_unit, contextId_eq_ok,
    arrayValue_eq_ok, ascendingUnique_eq_ok, hbudget,
    forEachIndexed_eq_ok (p := LawfulSelected) fun _ _ => selectedContract_eq_ok,
    forEachIndexed_eq_ok (p := LawfulExclusion) fun _ _ => exclusionContract_eq_ok] at h
  obtain ⟨hquery, _, -, -, -, hgraph, -, -, -, hselected, -, -, -, hexcluded, hordered, -, hbytes,
    -⟩ := h
  exact ⟨hquery, hgraph, hselected, hexcluded, hordered, hbytes⟩

/-! ## Reading the selection -/

/-- The graph's edges with both ends among some identities. -/
def ContextGraph.edgesAmong (graph : ContextGraph) (ids : List String) : List ContextEdge :=
  graph.edges.filter fun edge => edge.sourceNodeId ∈ ids ∧ edge.targetNodeId ∈ ids

/-- The builder starts from the selected nodes and the edges they induce. -/
theorem readSelection_eq {query : ContextQuery} (hlaw : LawfulGraph E graph)
    (hcorrect : selection.Correct S graph query) (hdecided : selection.Decided S graph query) :
    readSelection graph selection =
      .ok (graph.nodes.filter (·.nodeId ∈ selection.selectedIds),
        graph.edgesAmong selection.selectedIds) := by
  have hsub : ∀ id ∈ selection.selectedIds, id ∈ graph.nodes.map (·.nodeId) := fun id hid =>
    hcorrect.partition.subset (List.mem_append_left _ hid)
  have hedgeIds : ∀ id ∈ selection.selectedEdgeIds, id ∈ graph.edges.map (·.edgeId) :=
    fun id hid => (List.filter_sublist.map _).subset (hcorrect.edges.subset hid)
  have hedgeNodup : selection.selectedEdgeIds.Nodup :=
    hcorrect.edges.nodup_iff.mpr
      ((hlaw.orderedEdges.imp ne_of_lt).sublist (List.filter_sublist.map _))
  have hedgeOrder : selection.selectedEdgeIds.Pairwise (· < ·) :=
    (hdecided.orderedEdges.and hedgeNodup).imp fun hab => lt_of_le_of_ne hab.1 hab.2
  have hedges : graph.edges.filter (·.edgeId ∈ selection.selectedEdgeIds) =
      graph.edgesAmong selection.selectedIds := by
    refine List.filter_congr fun edge hedge => decide_eq_decide.mpr ?_
    rw [hcorrect.edges.mem_iff, List.mem_map]
    constructor
    · rintro ⟨other, hother, hsame⟩
      obtain ⟨hmem, hends⟩ := List.mem_filter.mp hother
      rw [← List.inj_on_of_nodup_map hlaw.wellShaped.edgeIds hmem hedge hsame]
      exact of_decide_eq_true hends
    · exact fun hends => ⟨edge, List.mem_filter.mpr ⟨hedge, decide_eq_true hends⟩, rfl⟩
  rw [readSelection]
  refine bind_eq_ok.mpr ⟨_, Table.mapM_ofRows hlaw.ordered hdecided.ordered hsub, ?_⟩
  refine bind_eq_ok.mpr ⟨_, Table.mapM_ofRows hlaw.orderedEdges hedgeOrder hedgeIds, ?_⟩
  rw [hedges]
  rfl

/-! ## What is dropped -/

/-- Two nodes that contradictions of the graph link. -/
def ContextGraph.Linked (graph : ContextGraph) : String → String → Prop :=
  PairClosure.Linked graph.contradictions

section Dropped

variable (B : ContextBoundary) (casefold : String → String) (graph : ContextGraph)
  (selection : ContextSelection)

/-- The source of a selected node failed. -/
def Failed (id : String) : Prop :=
  id ∈ selection.selectedIds ∧ FailsIn B casefold selection.asOf graph.nodes id

/-- Contradictions link a node to one whose source failed. -/
def Dropped (id : String) : Prop :=
  ∃ failed, Failed B casefold graph selection failed ∧ graph.Linked failed id

/-- A failed source affects a required node. -/
def Affected : Prop :=
  ∃ id ∈ graph.directlyRequired selection.query, Dropped B casefold graph selection id

end Dropped

variable {B : ContextBoundary} {casefold : String → String} {query : ContextQuery}

/-- A selection holds linked nodes together, and selects the edges that link them. -/
theorem linked_selected (hcorrect : selection.Correct S graph query) {a b : String}
    (h : graph.Linked a b) : (a ∈ selection.selectedIds ↔ b ∈ selection.selectedIds) ∧
      (a ∈ selection.selectedIds → PairClosure.Linked
        (contradictionPairs (graph.edgesAmong selection.selectedIds)) a b) := by
  induction h with
  | rel a b hpair =>
    obtain ⟨edge, hedge, hends⟩ := List.mem_map.mp hpair
    obtain ⟨hedge, htype⟩ := List.mem_filter.mp hedge
    obtain ⟨rfl, rfl⟩ := Prod.mk.inj hends
    have hboth := hcorrect.contradictions edge hedge (of_decide_eq_true htype)
    refine ⟨hboth, fun hsource => .rel _ _ (List.mem_map.mpr ⟨edge, ?_, rfl⟩)⟩
    exact List.mem_filter.mpr ⟨List.mem_filter.mpr
      ⟨hedge, decide_eq_true ⟨hsource, hboth.mp hsource⟩⟩, htype⟩
  | refl a => exact ⟨Iff.rfl, fun _ => .refl a⟩
  | symm a b _ ih => exact ⟨ih.1.symm, fun hb => .symm _ _ (ih.2 (ih.1.mpr hb))⟩
  | trans a b c _ _ ihab ihbc =>
    exact ⟨ihab.1.trans ihbc.1, fun ha => (ihab.2 ha).trans _ _ _ (ihbc.2 (ihab.1.mp ha))⟩

/-- The edges that a selection induces link what the graph's edges link. -/
theorem linked_of_selected {ids : List String} {a b : String}
    (h : PairClosure.Linked (contradictionPairs (graph.edgesAmong ids)) a b) :
    graph.Linked a b := by
  refine Relation.EqvGen.mono (fun a b hpair => ?_) a b h
  obtain ⟨edge, hedge, hends⟩ := List.mem_map.mp hpair
  obtain ⟨hedge, htype⟩ := List.mem_filter.mp hedge
  exact List.mem_map.mpr ⟨edge, List.mem_filter.mpr ⟨List.mem_of_mem_filter hedge, htype⟩, hends⟩

theorem failsIn_selected {id : String} : FailsIn B casefold selection.asOf
    (graph.nodes.filter (·.nodeId ∈ selection.selectedIds)) id ↔
      Failed B casefold graph selection id := by
  constructor
  · rintro ⟨node, hnode, rfl, hproblem⟩
    obtain ⟨hnode, hselected⟩ := List.mem_filter.mp hnode
    exact ⟨of_decide_eq_true hselected, node, hnode, rfl, hproblem⟩
  · rintro ⟨hselected, node, hnode, rfl, hproblem⟩
    exact ⟨node, List.mem_filter.mpr ⟨hnode, decide_eq_true hselected⟩, rfl, hproblem⟩

/-- If no required node is affected, exactly the dropped nodes are excluded. -/
theorem keepObserved_eq (hcorrect : selection.Correct S graph query)
    (h : ¬Affected B casefold graph selection) : ∃ failed excludedIds,
      keepObserved B casefold graph selection
        (graph.nodes.filter (·.nodeId ∈ selection.selectedIds))
        (graph.edgesAmong selection.selectedIds) = .ok (failed, excludedIds) ∧
      (∀ id, id ∈ excludedIds ↔ Dropped B casefold graph selection id) ∧
      ∀ (id : String) reason, failed[id]? = some reason →
        ∃ node ∈ graph.nodes, B.problem casefold selection.asOf node = some reason := by
  have hoptional : ∀ id, FailsIn B casefold selection.asOf
      (graph.nodes.filter (·.nodeId ∈ selection.selectedIds)) id →
      id ∉ graph.directlyRequired selection.query := fun id hfails hrequired =>
    h ⟨id, hrequired, id, failsIn_selected.mp hfails, .refl id⟩
  obtain ⟨failed, hfailed, hmem, hreasons⟩ := @foldE_reobserve _ _ _ _ _ ∅ hoptional
  have hkeys (id : String) : id ∈ failed.keys ↔ Failed B casefold graph selection id := by
    rw [Std.ExtTreeMap.mem_keys, hmem, failsIn_selected]
    simp
  have hfree : ∀ id ∈ failed.keys, ∀ k, PairClosure.Linked
      (contradictionPairs (graph.edgesAmong selection.selectedIds)) id k →
      k ∉ graph.directlyRequired selection.query := fun id hid k hlinked hrequired =>
    h ⟨k, hrequired, id, (hkeys id).mp hid, linked_of_selected hlinked⟩
  obtain ⟨excludedIds, hexcluded, hdropped⟩ := @foldE_dropComponent _ _ _ ∅ hfree
  refine ⟨failed, excludedIds, ?_, fun id => ?_, fun id reason hreason => ?_⟩
  · simp only [keepObserved, bind_eq_ok]
    exact ⟨failed, hfailed, excludedIds, hexcluded, rfl⟩
  · simp only [hdropped, Finset.notMem_empty, false_or, hkeys, Dropped]
    refine exists_congr fun failed => and_congr_right fun hfails => ?_
    exact ⟨linked_of_selected, fun hlinked => (linked_selected hcorrect hlinked).2 hfails.1⟩
  · rcases hreasons id reason hreason with hnone | ⟨node, hnode, hproblem⟩
    · cases hnone
    · exact ⟨node, List.mem_of_mem_filter hnode, hproblem⟩

/-- If a required node is affected, the builder says so. -/
theorem keepObserved_error (hcorrect : selection.Correct S graph query)
    (h : Affected B casefold graph selection) :
    let result := keepObserved B casefold graph selection
      (graph.nodes.filter (·.nodeId ∈ selection.selectedIds))
      (graph.edgesAmong selection.selectedIds)
    result = .error "Required context failed snapshot re-observation." ∨
      result = .error "Required contradiction closure failed re-observation." := by
  intro result
  obtain ⟨id, hrequired, source, hfails, hlinked⟩ := h
  by_cases hdirect : ∃ id, FailsIn B casefold selection.asOf
      (graph.nodes.filter (·.nodeId ∈ selection.selectedIds)) id ∧
      id ∈ graph.directlyRequired selection.query
  · obtain ⟨id, hfails, hid⟩ := hdirect
    exact .inl (bind_eq_error.mpr (.inl (foldE_reobserve_error hfails hid)))
  · push Not at hdirect
    obtain ⟨failed, hfailed, hmem, -⟩ := @foldE_reobserve _ _ _ _ _ ∅ hdirect
    have hsource : source ∈ failed.keys := by
      rw [Std.ExtTreeMap.mem_keys, hmem]
      exact .inr (failsIn_selected.mpr hfails)
    have hdrop := @foldE_dropComponent_error _ _ _ ∅ _ _ hsource
      ((linked_selected hcorrect hlinked).2 hfails.1) hrequired
    exact .inr (bind_eq_error.mpr (.inr ⟨failed, hfailed, bind_eq_error.mpr (.inl hdrop)⟩))

end Sdaqf
