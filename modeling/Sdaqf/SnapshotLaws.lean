import Sdaqf.SnapshotBuilding

/-!
# What a snapshot keeps

A snapshot whose builder returns keeps the laws of its selection on the nodes that remain, whatever
the sources answered. If no required node is affected, only the limits of the file can stand in its
way.
-/

namespace Sdaqf

open Guard
open JsonText (Value)

variable {E : ContextEncoding} {B : ContextBoundary} {casefold : String → String}
  {graph : ContextGraph} {query : ContextQuery} {selection : ContextSelection}

/-- What a snapshot keeps of a selection whose sources were observed again. -/
structure Kept (E : ContextEncoding) (B : ContextBoundary) (casefold : String → String)
    (graph : ContextGraph) (selection : ContextSelection) (s : ContextSnapshot) : Prop where
  /-- The nodes are the selected ones that no failed source drops. -/
  nodes : ∀ node, node ∈ s.nodes ↔ node ∈ graph.nodes ∧ node.nodeId ∈ selection.selectedIds ∧
    ¬Dropped B casefold graph selection node.nodeId
  distinct : (s.nodes.map (·.nodeId)).Nodup
  /-- The kept and the dropped nodes part the selection. -/
  partition : ∀ id, id ∈ selection.selectedIds ↔
    id ∈ s.nodes.map (·.nodeId) ∨ Dropped B casefold graph selection id
  disjoint : ∀ id ∈ s.nodes.map (·.nodeId), ¬Dropped B casefold graph selection id
  excluded : ∀ id, id ∈ s.excluded.map (·.nodeId) ↔
    id ∈ selection.excluded.map (·.nodeId) ∨ Dropped B casefold graph selection id
  required : ∀ id ∈ graph.directlyRequired selection.query, id ∈ s.nodes.map (·.nodeId)
  closed : ∀ edge ∈ graph.edges, edge.edgeType = .contradicts →
    (edge.sourceNodeId ∈ s.nodes.map (·.nodeId) ↔ edge.targetNodeId ∈ s.nodes.map (·.nodeId))
  /-- The edges are the induced ones. -/
  edges : s.edges = graph.edgesAmong (s.nodes.map (·.nodeId))
  accounted : s.contextBytes = s.contentBytes E
  within : s.contextBytes ≤ s.budgetBytes
  budget : s.budgetBytes = selection.query.budget.budgetBytes

/-! ## Tables of exclusions -/

theorem Table.getElem?_foldl_insert {α : Type} {f : String → α} {ids : List String} {t : Table α}
    {k : String} : (ids.foldl (fun t id => t.insert id (f id)) t)[k]? =
      if k ∈ ids then some (f k) else t[k]? := by
  induction ids generalizing t with
  | nil => rfl
  | cons id ids ih =>
    rw [List.foldl_cons, ih, Table.getElem?_insert]
    by_cases hmem : k ∈ ids
    · rw [if_pos hmem, if_pos (List.mem_cons_of_mem id hmem)]
    · by_cases hid : id = k
      · rw [if_neg hmem, if_pos hid, if_pos (by rw [hid]; exact List.mem_cons_self), hid]
      · rw [if_neg hmem, if_neg hid, if_neg]
        rw [List.mem_cons, not_or]
        exact ⟨Ne.symm hid, hmem⟩

/-! ## Sensitivities -/

/-- The highest of some sensitivities is one of them. -/
theorem highestSensitivity_spec {l : List Sensitivity} (h : l ≠ []) :
    ∃ highest, highestSensitivity l = some highest ∧ highest ∈ l ∧
      ∀ s ∈ l, s.rank ≤ highest.rank := by
  obtain ⟨first, rest, rfl⟩ := List.exists_cons_of_ne_nil h
  refine ⟨_, rfl, ?_⟩
  induction rest generalizing first with
  | nil => simp
  | cons next rest ih =>
    rw [List.foldl_cons]
    by_cases hlt : first.rank < next.rank
    · obtain ⟨hmem, hle⟩ := ih next (List.cons_ne_nil _ _)
      rw [if_pos hlt]
      refine ⟨List.mem_cons_of_mem _ hmem, List.forall_mem_cons.mpr ⟨?_, hle⟩⟩
      exact hlt.le.trans (hle next List.mem_cons_self)
    · obtain ⟨hmem, hle⟩ := ih first (List.cons_ne_nil _ _)
      rw [if_neg hlt]
      obtain ⟨hfirst, hrest⟩ := List.forall_mem_cons.mp hle
      refine ⟨?_, List.forall_mem_cons.mpr ⟨hfirst, List.forall_mem_cons.mpr ⟨?_, hrest⟩⟩⟩
      · rcases List.mem_cons.mp hmem with heq | hmem
        · rw [heq]
          exact List.mem_cons_self
        · exact List.mem_cons_of_mem _ (List.mem_cons_of_mem _ hmem)
      · exact (not_lt.mp hlt).trans hfirst

/-! ## What remains -/

section Remaining

variable (graph selection) (excludedIds : Finset String)

/-- The selected nodes that are not excluded. -/
def remainingNodes : List ContextNode :=
  (graph.nodes.filter (·.nodeId ∈ selection.selectedIds)).filter (·.nodeId ∉ excludedIds)

def remainingIds : List String := (remainingNodes graph selection excludedIds).map (·.nodeId)

end Remaining

variable {excludedIds : Finset String}

theorem remainingNodes_sublist :
    (remainingNodes graph selection excludedIds).Sublist graph.nodes :=
  List.filter_sublist.trans List.filter_sublist

theorem mem_remainingNodes {node : ContextNode} :
    node ∈ remainingNodes graph selection excludedIds ↔
      node ∈ graph.nodes ∧ node.nodeId ∈ selection.selectedIds ∧ node.nodeId ∉ excludedIds := by
  simp only [remainingNodes, List.mem_filter, decide_eq_true_eq, and_assoc]

variable {S : ContextSurroundings}

theorem mem_remainingIds (hcorrect : selection.Correct S graph query) {id : String} :
    id ∈ remainingIds graph selection excludedIds ↔
      id ∈ selection.selectedIds ∧ id ∉ excludedIds := by
  constructor
  · intro hid
    obtain ⟨node, hnode, rfl⟩ := List.mem_map.mp hid
    exact (mem_remainingNodes.mp hnode).2
  · rintro ⟨hselected, hnot⟩
    obtain ⟨node, hnode, rfl⟩ :=
      List.mem_map.mp (hcorrect.partition.subset (List.mem_append_left _ hselected))
    exact List.mem_map_of_mem (mem_remainingNodes.mpr ⟨hnode, hselected, hnot⟩)

/-- The induced edges that remain are those that the remaining nodes induce. -/
theorem edgesAmong_remaining (hcorrect : selection.Correct S graph query) :
    (graph.edgesAmong selection.selectedIds).filter (fun edge =>
      edge.sourceNodeId ∈ remainingIds graph selection excludedIds ∧
        edge.targetNodeId ∈ remainingIds graph selection excludedIds) =
      graph.edgesAmong (remainingIds graph selection excludedIds) := by
  rw [ContextGraph.edgesAmong, List.filter_filter]
  refine List.filter_congr fun edge _ => ?_
  rw [← Bool.decide_and]
  refine decide_eq_decide.mpr (and_iff_left_of_imp fun hends => ?_)
  exact ⟨((mem_remainingIds hcorrect).mp hends.1).1, ((mem_remainingIds hcorrect).mp hends.2).1⟩

/-- What remains costs no more than the selection. -/
theorem remaining_costs_le (hcorrect : selection.Correct (canonicalSurroundings E) graph query) :
    ((remainingNodes graph selection excludedIds).map
      fun node => canonicalSize (node.contentDict E)).sum +
      ((graph.edgesAmong (remainingIds graph selection excludedIds)).map
        fun edge => canonicalSize edge.contentDict).sum ≤ query.budget.budgetBytes := by
  have hused := hcorrect.used
  have hbound := hcorrect.byteBound
  have hnodes : ((remainingNodes graph selection excludedIds).map
      fun node => canonicalSize (node.contentDict E)).Sublist
      ((graph.nodes.filter (·.nodeId ∈ selection.selectedIds)).map
        (canonicalSurroundings E).nodeCost) := List.filter_sublist.map _
  have hedges : ((graph.edgesAmong (remainingIds graph selection excludedIds)).map
      fun edge => canonicalSize edge.contentDict).Sublist
      ((graph.edgesAmong selection.selectedIds).map (canonicalSurroundings E).edgeCost) := by
    rw [← edgesAmong_remaining hcorrect]
    exact List.filter_sublist.map _
  have hnodeSum := hnodes.sum_le_sum fun _ _ => Nat.zero_le _
  have hedgeSum := hedges.sum_le_sum fun _ _ => Nat.zero_le _
  have hselected : graph.edgesAmong selection.selectedIds = graph.edges.filter fun edge =>
    edge.sourceNodeId ∈ selection.selectedIds ∧ edge.targetNodeId ∈ selection.selectedIds := rfl
  rw [hselected] at hedgeSum
  omega

/-! ## The decisions that remain -/

variable {graphArtifact : LoadedContextArtifact ContextGraph}
  {selectionArtifact : LoadedContextArtifact ContextSelection} {failed : Table String}
  {sensitivity : Sensitivity}

/-- The remaining decisions are about the remaining nodes, in their order. -/
theorem remaining_selected (hlaw : LawfulGraph E graph)
    (hcorrect : selection.Correct S graph query) (hdecided : selection.Decided S graph query) :
    (selection.selected.filter (·.nodeId ∈ remainingIds graph selection excludedIds)).map
      (·.nodeId) = remainingIds graph selection excludedIds := by
  have hnodes : (remainingIds graph selection excludedIds).Pairwise (· < ·) :=
    hlaw.ordered.sublist (remainingNodes_sublist.map _)
  have hdecisions : ((selection.selected.filter
      (·.nodeId ∈ remainingIds graph selection excludedIds)).map (·.nodeId)).Pairwise (· < ·) :=
    hdecided.ordered.sublist (List.filter_sublist.map _)
  refine ((List.perm_ext_iff_of_nodup (hdecisions.imp ne_of_lt)
    (hnodes.imp ne_of_lt)).mpr fun id => ?_).eq_of_pairwise
    (fun _ _ _ _ hab hba => absurd hab (lt_asymm hba)) hdecisions hnodes
  simp only [List.mem_map, List.mem_filter, decide_eq_true_eq]
  constructor
  · rintro ⟨decision, ⟨-, hid⟩, rfl⟩
    exact hid
  · intro hid
    obtain ⟨decision, hdecision, rfl⟩ := List.mem_map.mp ((mem_remainingIds hcorrect).mp hid).1
    exact ⟨decision, ⟨hdecision, hid⟩, rfl⟩

/-- A remaining decision states the cost and the ranks of its node. -/
theorem remaining_matches (hlaw : LawfulGraph E graph)
    (hcorrect : selection.Correct (canonicalSurroundings E) graph query)
    (hdecided : selection.Decided (canonicalSurroundings E) graph query) :
    ∀ pair ∈ (remainingNodes graph selection excludedIds).zip
      (selection.selected.filter (·.nodeId ∈ remainingIds graph selection excludedIds)),
      Matches E pair.1 pair.2 := by
  rintro ⟨node, decision⟩ hpair
  obtain ⟨hnode, hdecision⟩ := List.of_mem_zip hpair
  have hsame : node.nodeId = decision.nodeId := by
    have hids : ((remainingNodes graph selection excludedIds).map (·.nodeId)) =
        (selection.selected.filter (·.nodeId ∈ remainingIds graph selection excludedIds)).map
          (·.nodeId) := (remaining_selected hlaw hcorrect hdecided).symm
    obtain ⟨i, hi, hget⟩ := List.getElem_of_mem hpair
    rw [List.getElem_zip, Prod.mk.injEq] at hget
    obtain ⟨rfl, rfl⟩ := hget
    rw [List.length_zip, Nat.lt_min] at hi
    have hget := congrArg (·[i]?) hids
    simpa [List.getElem?_eq_getElem hi.1, List.getElem?_eq_getElem hi.2] using hget
  obtain ⟨other, hother, hid, hcost, hauthority, hrank⟩ :=
    hdecided.decisions decision (List.mem_of_mem_filter hdecision)
  have hsub : node ∈ graph.nodes := remainingNodes_sublist.subset hnode
  obtain rfl := List.inj_on_of_nodup_map hlaw.wellShaped.nodeIds hother hsub
    (hid.trans hsame.symm)
  exact ⟨hcost, hauthority, hrank⟩

/-! ## The exclusions -/

section Exclusions

variable (selection excludedIds failed)

/-- The exclusions of a snapshot, by identity. -/
def exclusionTable : Table ExclusionDecision :=
  (Sorting.listed excludedIds).foldl (fun exclusions nodeId => exclusions.insert nodeId
    ⟨nodeId, failed[nodeId]?.getD "contradiction-closure-unavailable", []⟩)
    (Table.ofRows ExclusionDecision.nodeId selection.excluded)

end Exclusions

theorem getElem?_exclusionTable {id : String} : (exclusionTable selection excludedIds failed)[id]? =
    if id ∈ excludedIds then
      some ⟨id, failed[id]?.getD "contradiction-closure-unavailable", []⟩
    else (Table.ofRows ExclusionDecision.nodeId selection.excluded)[id]? := by
  have hinsert := @Table.getElem?_foldl_insert _ (fun nodeId =>
      ⟨nodeId, failed[nodeId]?.getD "contradiction-closure-unavailable", []⟩)
    (Sorting.listed excludedIds) (Table.ofRows ExclusionDecision.nodeId selection.excluded) id
  refine hinsert.trans ?_
  simp only [Sorting.mem_listed]

/-- The rows of the exclusions are the exclusions of the selection and the dropped nodes. -/
theorem mem_exclusions (hselection : LawfulSelection selection) {decision : ExclusionDecision} :
    decision ∈ (exclusionTable selection excludedIds failed).rows ↔
      decision.nodeId ∈ excludedIds ∧ decision = ⟨decision.nodeId,
        failed[decision.nodeId]?.getD "contradiction-closure-unavailable", []⟩ ∨
      decision.nodeId ∉ excludedIds ∧ decision ∈ selection.excluded := by
  have hnodup := hselection.orderedExcluded.imp ne_of_lt
  rw [Table.mem_rows]
  simp only [getElem?_exclusionTable]
  constructor
  · rintro ⟨id, hid⟩
    split at hid
    · rename_i hmem
      cases hid
      exact .inl ⟨hmem, rfl⟩
    · rename_i hmem
      obtain ⟨hrow, rfl⟩ := (Table.getElem?_ofRows hnodup).mp hid
      exact .inr ⟨hmem, hrow⟩
  · rintro (⟨hmem, hrow⟩ | ⟨hmem, hrow⟩)
    · exact ⟨decision.nodeId, by rw [if_pos hmem, ← hrow]⟩
    · exact ⟨decision.nodeId, by
        rw [if_neg hmem]
        exact (Table.getElem?_ofRows hnodup).mpr ⟨hrow, rfl⟩⟩

/-- The reasons for which sources fail. -/
def failureReasons : List String :=
  ["authority-invalid", "digest-mismatch", "changed", "source-byte-limit", "missing-or-unreadable",
    "invalid-json", "stale", "provenance-unavailable", "contradiction-closure-unavailable"]

theorem problem_mem {asOf : Timestamp} {node : ContextNode} {reason : String}
    (h : B.problem casefold asOf node = some reason) : reason ∈ failureReasons := by
  have hsource (message : String) : sourceFailureReason casefold message ∈ failureReasons := by
    dsimp only [sourceFailureReason]
    split_ifs <;> simp [failureReasons]
  have hobserved {observation : ObservedContextSource} {reason : String}
      (h : ContextBoundary.observationProblem asOf node observation = some reason) :
      reason ∈ failureReasons := by
    unfold ContextBoundary.observationProblem at h
    split at h
    · cases h
      simp [failureReasons]
    · split at h
      · cases h
        simp [failureReasons]
      · split at h
        · split at h
          · cases h
          · cases h
            simp [failureReasons]
        · cases h
        · cases h
  unfold ContextBoundary.problem at h
  split at h
  · cases h
    simp [failureReasons]
  · split at h
    · cases h
      exact hsource _
    · split at h
      · rename_i hproblem
        cases h
        exact hobserved hproblem
      · split at h
        · cases h
        · cases h
          simp [failureReasons]

/-- Every reason is a text that the parser of exclusions takes. -/
theorem lawful_failureReasons : ∀ reason ∈ failureReasons, LawfulText 100 false reason := by
  decide +kernel

theorem lawful_exclusions (hlaw : LawfulGraph E graph) (hselection : LawfulSelection selection)
    (hexcluded : ∀ id ∈ excludedIds, id ∈ graph.nodes.map (·.nodeId))
    (hreasons : ∀ (id : String) reason, failed[id]? = some reason → reason ∈ failureReasons) :
    ∀ decision ∈ (exclusionTable selection excludedIds failed).rows, LawfulExclusion decision := by
  intro decision hdecision
  rcases (mem_exclusions hselection).mp hdecision with ⟨hmem, hrow⟩ | ⟨-, hrow⟩
  · obtain ⟨node, hnode, hid⟩ := List.mem_map.mp (hexcluded _ hmem)
    rw [hrow]
    refine ⟨hid ▸ (hlaw.nodes node hnode).nodeId, lawful_failureReasons _ ?_,
      ⟨by simp, by simp, by simp, .nil⟩⟩
    cases hreason : failed[decision.nodeId]? with
    | none => simp [failureReasons]
    | some reason => exact hreasons _ _ hreason
  · exact hselection.excluded decision hrow

theorem ordered_exclusions (hselection : LawfulSelection selection) :
    ((exclusionTable selection excludedIds failed).rows.map (·.nodeId)).Pairwise (· < ·) := by
  refine List.pairwise_map.mpr (Table.pairwise_rows fun id decision hdecision => ?_)
  rw [getElem?_exclusionTable] at hdecision
  split at hdecision
  · cases hdecision
    rfl
  · exact ((Table.getElem?_ofRows (hselection.orderedExcluded.imp ne_of_lt)).mp hdecision).2

/-! ## The snapshot is accepted -/

/-- What the builder makes of its input once no required node is affected. -/
structure Observed (E : ContextEncoding) (B : ContextBoundary) (casefold : String → String)
    (graph : ContextGraph) (selection : ContextSelection) (failed : Table String)
    (excludedIds : Finset String) : Prop where
  lawfulGraph : LawfulGraph E graph
  lawfulSelection : LawfulSelection selection
  correct : selection.Correct (canonicalSurroundings E) graph selection.query
  decided : selection.Decided (canonicalSurroundings E) graph selection.query
  free : ¬Affected B casefold graph selection
  dropped : ∀ id, id ∈ excludedIds ↔ Dropped B casefold graph selection id
  reasons : ∀ (id : String) reason, failed[id]? = some reason → reason ∈ failureReasons

variable (h : Observed E B casefold graph selection failed excludedIds)

include h

theorem Observed.excluded_selected {id : String} (hid : id ∈ excludedIds) :
    id ∈ selection.selectedIds := by
  obtain ⟨source, hfails, hlinked⟩ := (h.dropped id).mp hid
  exact (linked_selected h.correct hlinked).1.mp hfails.1

theorem Observed.selected_graph {id : String} (hid : id ∈ selection.selectedIds) :
    id ∈ graph.nodes.map (·.nodeId) :=
  h.correct.partition.subset (List.mem_append_left _ hid)

/-- Every required node remains. -/
theorem Observed.required {id : String} (hid : id ∈ graph.directlyRequired selection.query) :
    id ∈ remainingIds graph selection excludedIds := by
  refine (mem_remainingIds h.correct).mpr ⟨?_, fun hexcluded =>
    h.free ⟨id, hid, (h.dropped id).mp hexcluded⟩⟩
  rcases Finset.mem_union.mp hid with hid | hid
  · obtain ⟨node, hnode, rfl⟩ := List.mem_map.mp (List.mem_toFinset.mp hid)
    obtain ⟨hnode, hrequired⟩ := List.mem_filter.mp hnode
    exact h.correct.required node hnode hrequired
  · exact h.correct.queryRequired id (List.mem_toFinset.mp hid)

theorem Observed.canonical :
    HasCanonicalSpecification graph.candidate (remainingNodes graph selection excludedIds) := by
  obtain ⟨spec, hspec, hrequired, hrest⟩ := h.lawfulGraph.canonical
  have hmem : spec ∈ graph.nodes.filter (·.authority = .canonicalSpecification) :=
    hspec ▸ List.mem_singleton_self spec
  have hdirect : spec.nodeId ∈ graph.directlyRequired selection.query :=
    Finset.mem_union_left _ (List.mem_toFinset.mpr (List.mem_map_of_mem
      (List.mem_filter.mpr ⟨List.mem_of_mem_filter hmem, hrequired⟩)))
  have hremains := (mem_remainingIds h.correct).mp (h.required hdirect)
  refine ⟨spec, ?_, hrequired, hrest⟩
  rw [remainingNodes, List.filter_comm, List.filter_comm (p := fun node : ContextNode =>
    decide (node.authority = .canonicalSpecification)), hspec]
  simp [hremains]

/-- No exclusion is about a node that remains. -/
theorem Observed.exclusions_disjoint :
    ∀ decision ∈ (exclusionTable selection excludedIds failed).rows,
      decision.nodeId ∈ graph.nodes.map (·.nodeId) ∧
        decision.nodeId ∉ remainingIds graph selection excludedIds := by
  intro decision hdecision
  rw [mem_remainingIds h.correct]
  rcases (mem_exclusions h.lawfulSelection).mp hdecision with ⟨hmem, -⟩ | ⟨hmem, hrow⟩
  · exact ⟨h.selected_graph (h.excluded_selected hmem), fun hboth => hboth.2 hmem⟩
  · have hexcluded : decision.nodeId ∈ selection.excluded.map (·.nodeId) :=
      List.mem_map_of_mem hrow
    have hnodup := h.correct.partition.nodup_iff.mpr h.lawfulGraph.wellShaped.nodeIds
    refine ⟨h.correct.partition.subset (List.mem_append_right _ hexcluded), fun hboth => ?_⟩
    exact (List.nodup_append.mp hnodup).2.2 _ hboth.1 _ hexcluded rfl

/-- The parser of snapshots takes what the builder makes. -/
theorem Observed.lawful (hgraph : graphArtifact.value = graph)
    (hselection : selectionArtifact.value = selection)
    (hgraphId : graphArtifact.artifactId = selection.graphId)
    (hselectionId : IsContextId "CTX-SELECTION-" selectionArtifact.artifactId)
    (hhighest : sensitivity ∈ (remainingNodes graph selection excludedIds).map (·.sensitivity) ∧
      ∀ source ∈ (remainingNodes graph selection excludedIds).map (·.sensitivity),
        source.rank ≤ sensitivity.rank) :
    LawfulSnapshot E (snapshotOf E graphArtifact selectionArtifact failed excludedIds
      (remainingNodes graph selection excludedIds)
      (graph.edgesAmong (remainingIds graph selection excludedIds)) sensitivity) := by
  subst hgraph hselection
  have hsub := @remainingNodes_sublist graphArtifact.value selectionArtifact.value excludedIds
  have hedges := h.lawfulGraph.edges
  have hedgeSub : (graphArtifact.value.edgesAmong
      (remainingIds graphArtifact.value selectionArtifact.value excludedIds)).Sublist
      graphArtifact.value.edges := List.filter_sublist
  obtain ⟨spec, hspec, -⟩ := h.canonical
  have hnodes : LawfulNodes E (snapshotOf E graphArtifact selectionArtifact failed excludedIds
      (remainingNodes graphArtifact.value selectionArtifact.value excludedIds)
      (graphArtifact.value.edgesAmong
        (remainingIds graphArtifact.value selectionArtifact.value excludedIds)) sensitivity) := {
    few := hsub.length_le.trans h.lawfulGraph.few
    nodes := fun node hnode => h.lawfulGraph.nodes node (hsub.subset hnode)
    nonempty := List.ne_nil_of_mem
      (List.mem_of_mem_filter (hspec ▸ List.mem_singleton_self spec))
    ordered := h.lawfulGraph.ordered.sublist (hsub.map _)
    sources := h.lawfulGraph.sources.sublist (hsub.map _)
    authority := fun node hnode => h.lawfulGraph.authority node (hsub.subset hnode)
    candidate := h.lawfulGraph.candidate
    canonical := h.canonical }
  have hexclusions := lawful_exclusions h.lawfulGraph h.lawfulSelection
    (fun id hid => h.selected_graph (h.excluded_selected hid)) h.reasons
  have hexcludedFew : (exclusionTable selectionArtifact.value excludedIds failed).rows.length ≤
      maxGraphNodes := by
    have hnodup := (@ordered_exclusions _ excludedIds failed h.lawfulSelection).imp ne_of_lt
    have hincluded : (exclusionTable selectionArtifact.value excludedIds failed).rows.map
        (·.nodeId) ⊆ graphArtifact.value.nodes.map (·.nodeId) := by
      intro id hid
      obtain ⟨decision, hdecision, rfl⟩ := List.mem_map.mp hid
      exact (h.exclusions_disjoint decision hdecision).1
    have hlength := (List.subperm_of_subset hnodup hincluded).length_le
    rw [List.length_map, List.length_map] at hlength
    exact hlength.trans h.lawfulGraph.few
  exact { hnodes with
    fewEdges := hedgeSub.length_le.trans h.lawfulGraph.fewEdges
    edges := by
      intro edge hedge
      obtain ⟨hedge, hends⟩ := List.mem_filter.mp hedge
      exact { hedges edge hedge with ends := of_decide_eq_true hends }
    orderedEdges := h.lawfulGraph.orderedEdges.sublist (hedgeSub.map _)
    fewSelected := by
      have hids := congrArg List.length (@remaining_selected _ _ _ _ excludedIds _ h.lawfulGraph
        h.correct h.decided)
      rw [remainingIds, List.length_map, List.length_map] at hids
      exact hids.le.trans (hsub.length_le.trans h.lawfulGraph.few)
    selected := fun decision hdecision =>
      h.lawfulSelection.selected decision (List.mem_of_mem_filter hdecision)
    sameIds := remaining_selected h.lawfulGraph h.correct h.decided
    agree := remaining_matches h.lawfulGraph h.correct h.decided
    fewExcluded := hexcludedFew
    excluded := hexclusions
    orderedExcluded := ordered_exclusions h.lawfulSelection
    disjoint := fun decision hdecision => (h.exclusions_disjoint decision hdecision).2
    sensitivity := by
      obtain ⟨node, hnode, hsame⟩ := List.mem_map.mp hhighest.1
      exact hsame ▸ (h.lawfulGraph.nodes node (hsub.subset hnode)).sensitivity
    highest := hhighest
    budget := h.lawfulSelection.budget
    within := (remaining_costs_le h.correct).trans h.decided.budget.ge
    accounted := rfl
    fewContradictions := by
      refine (List.length_map _).trans_le ((List.length_filter_le _ _).trans ?_)
      exact hedgeSub.length_le.trans h.lawfulGraph.fewEdges
    unresolved := rfl
    graphId := by
      have hid := h.lawfulSelection.graphId
      rw [← hgraphId] at hid
      exact hid
    queryId := h.lawfulSelection.queryId
    selectionId := hselectionId }

/-- What the builder makes keeps the laws of the selection. -/
theorem Observed.kept (hgraph : graphArtifact.value = graph)
    (hselection : selectionArtifact.value = selection) :
    Kept E B casefold graph selection
      (snapshotOf E graphArtifact selectionArtifact failed excludedIds
        (remainingNodes graph selection excludedIds)
        (graph.edgesAmong (remainingIds graph selection excludedIds)) sensitivity) := by
  subst hgraph hselection
  have hmem {id : String} :
      id ∈ remainingIds graphArtifact.value selectionArtifact.value excludedIds ↔
        id ∈ selectionArtifact.value.selectedIds ∧
          ¬Dropped B casefold graphArtifact.value selectionArtifact.value id := by
    rw [mem_remainingIds h.correct, h.dropped]
  have hdropped {id : String}
      (hid : Dropped B casefold graphArtifact.value selectionArtifact.value id) :
      id ∈ selectionArtifact.value.selectedIds := h.excluded_selected ((h.dropped id).mpr hid)
  refine {
    nodes := fun node => by rw [← h.dropped]; exact mem_remainingNodes
    distinct := h.lawfulGraph.wellShaped.nodeIds.sublist (remainingNodes_sublist.map _)
    partition := fun id => ?partition
    disjoint := fun id hid => (hmem.mp hid).2
    excluded := fun id => ?excluded
    required := fun id hid => h.required hid
    closed := fun edge hedge htype => ?closed
    edges := rfl
    accounted := rfl
    within := (remaining_costs_le h.correct).trans h.decided.budget.ge
    budget := h.decided.budget }
  case partition =>
    refine (Iff.trans ?_ (or_congr_left hmem.symm))
    constructor
    · exact fun hid => (Classical.em _).symm.imp_left fun hkept => ⟨hid, hkept⟩
    · exact fun hid => hid.elim And.left hdropped
  case excluded =>
    change id ∈ (exclusionTable selectionArtifact.value excludedIds failed).rows.map (·.nodeId) ↔ _
    rw [List.mem_map, ← h.dropped]
    constructor
    · rintro ⟨decision, hdecision, rfl⟩
      rcases (mem_exclusions h.lawfulSelection).mp hdecision with ⟨hid, -⟩ | ⟨-, hrow⟩
      · exact .inr hid
      · exact .inl (List.mem_map_of_mem hrow)
    · intro hid
      by_cases hexcluded : id ∈ excludedIds
      · exact ⟨⟨id, failed[id]?.getD "contradiction-closure-unavailable", []⟩,
          (mem_exclusions h.lawfulSelection).mpr (.inl ⟨hexcluded, rfl⟩), rfl⟩
      · obtain ⟨decision, hdecision, rfl⟩ := List.mem_map.mp (hid.resolve_right hexcluded)
        exact ⟨decision,
          (mem_exclusions h.lawfulSelection).mpr (.inr ⟨hexcluded, hdecision⟩), rfl⟩
  case closed =>
    have hlinked : graphArtifact.value.Linked edge.sourceNodeId edge.targetNodeId :=
      .rel _ _ (List.mem_map.mpr ⟨edge, List.mem_filter.mpr ⟨hedge, decide_eq_true htype⟩, rfl⟩)
    refine hmem.trans (Iff.trans (and_congr (linked_selected h.correct hlinked).1
      (not_congr ?_)) hmem.symm)
    refine exists_congr fun source => and_congr_right fun _ => ?_
    exact ⟨fun hsource => hsource.trans _ _ _ hlinked,
      fun htarget => htarget.trans _ _ _ (.symm _ _ hlinked)⟩

end Sdaqf
