import Sdaqf.ContextOrder

/-!
# A selection is right or refused

The traversal visits every node of its queue before its bound on visits, and the check of the
accounting never fails. With the correctness of what is concluded and its independence of the
graph's order this is what a selection promises.
-/

namespace Sdaqf

open Guard

variable {graph : ContextGraph} {query : ContextQuery} {S : ContextSurroundings}
  {graphArtifact : LoadedContextArtifact ContextGraph}
  {queryArtifact : LoadedContextArtifact ContextQuery} {p : Prepared} {st : Admission}

/-! ## The bound on visits -/

namespace ContextGraph

/-- The ends of the edges. -/
def edgeEnds (graph : ContextGraph) : Finset String :=
  (graph.edges.flatMap fun edge => [edge.sourceNodeId, edge.targetNodeId]).toFinset

theorem card_edgeEnds_le : graph.edgeEnds.card ≤ 2 * graph.edges.length := by
  refine (List.toFinset_card_le _).trans (le_of_eq ?_)
  rw [List.length_flatMap]
  simp [mul_comm]

/-- A step leads to the end of an edge. -/
theorem target_mem_edgeEnds {current : String} {step : Neighbor}
    (h : step ∈ graph.neighbors query current) : (ofLex (ofLex step).2).1 ∈ graph.edgeEnds := by
  simp only [neighbors, List.mem_insertionSort, List.mem_flatMap, List.mem_append] at h
  obtain ⟨edge, hedge, h⟩ := h
  have hends : ∀ k, k = edge.sourceNodeId ∨ k = edge.targetNodeId → k ∈ graph.edgeEnds := by
    intro k hk
    rw [edgeEnds, List.mem_toFinset, List.mem_flatMap]
    exact ⟨edge, List.mem_of_mem_filter hedge, by simpa using hk⟩
  rcases h with h | h
  · split at h
    · rw [List.mem_singleton.mp h]
      exact hends _ (.inr rfl)
    · cases h
  · split at h
    · rw [List.mem_singleton.mp h]
      exact hends _ (.inl rfl)
    · cases h

/-- The visits that a traversal may still make: the nodes of its queue and the ends of edges that it
has not reached. -/
def toVisit (graph : ContextGraph) (t : Traversal) : Nat :=
  t.queue.length + (graph.edgeEnds.filter (· ∉ t.distances)).card

theorem toVisit_reach {budget : ContextBudget} {distance : Nat} {t t' : Traversal}
    {step : Neighbor} (hstep : (ofLex (ofLex step).2).1 ∈ graph.edgeEnds)
    (h : reach budget distance t step = .ok t') : graph.toVisit t' ≤ graph.toVisit t := by
  unfold reach at h
  simp only [bind_eq_ok, require_eq_ok, exists_unit] at h
  obtain ⟨-, h⟩ := h
  split at h
  · cases h
    exact le_refl _
  · rename_i hnew
    simp only [bind_eq_ok, require_eq_ok, exists_unit, pure_eq_ok] at h
    obtain ⟨-, rfl⟩ := h
    -- The new node of the queue is no longer an end that was not reached.
    have hmem : (ofLex (ofLex step).2).1 ∈ graph.edgeEnds.filter (· ∉ t.distances) :=
      Finset.mem_filter.mpr ⟨hstep, hnew⟩
    have hsub : graph.edgeEnds.filter
        (· ∉ t.distances.insert (ofLex (ofLex step).2).1 (distance + 1)) ⊆
        (graph.edgeEnds.filter (· ∉ t.distances)).erase (ofLex (ofLex step).2).1 := by
      intro k hk
      rw [Finset.mem_filter, Std.ExtTreeMap.mem_insert, compare_eq_iff_eq, not_or] at hk
      exact Finset.mem_erase.mpr ⟨Ne.symm hk.2.1, Finset.mem_filter.mpr ⟨hk.1, hk.2.2⟩⟩
    have hcard := Finset.card_le_card hsub
    rw [Finset.card_erase_of_mem hmem] at hcard
    have hpos := Finset.card_pos.mpr ⟨_, hmem⟩
    simp only [toVisit, List.length_append, List.length_singleton]
    omega

theorem toVisit_foldlM {budget : ContextBudget} {distance : Nat} {t t' : Traversal}
    {steps : List Neighbor} (hsteps : ∀ step ∈ steps, (ofLex (ofLex step).2).1 ∈ graph.edgeEnds)
    (h : steps.foldlM (reach budget distance) t = .ok t') : graph.toVisit t' ≤ graph.toVisit t := by
  induction steps generalizing t with
  | nil =>
    cases h
    exact le_refl _
  | cons step steps ih =>
    rw [List.foldlM_cons, bind_eq_ok] at h
    obtain ⟨between, hbetween, h⟩ := h
    exact (ih (fun other hother => hsteps other (List.mem_cons_of_mem step hother)) h).trans
      (toVisit_reach (hsteps step List.mem_cons_self) hbetween)

/-- A visit more than are to be made changes nothing. -/
theorem visit_succ {fuel : Nat} {t : Traversal} (h : graph.toVisit t ≤ fuel) :
    graph.visit query (fuel + 1) t = graph.visit query fuel t := by
  induction fuel generalizing t with
  | zero =>
    have hqueue : t.queue = [] := by
      unfold toVisit at h
      exact List.length_eq_zero_iff.mp (by omega)
    simp [visit, hqueue]
  | succ fuel ih =>
    rw [visit, visit]
    split
    · rfl
    · rename_i current queue hqueue
      have hpop : graph.toVisit { t with queue } + 1 = graph.toVisit t := by
        simp only [toVisit, hqueue, List.length_cons]
        omega
      dsimp only
      split
      · rw [ih (by omega)]
      · cases hsteps : (graph.neighbors query current).foldlM
            (reach query.budget (t.distances[current]?.getD 0)) { t with queue } with
        | error e => rfl
        | ok next =>
          have := toVisit_foldlM (fun step hstep => target_mem_edgeEnds hstep) hsteps
          exact ih (by omega)

/-- A traversal makes all of its visits: more of them change nothing. -/
theorem traverse_visits {starts : Finset String} {distances : Table Nat} (n : Nat) :
    graph.visit query (starts.card + 2 * graph.edges.length + n)
      { distances, queue := Sorting.listed starts } =
    graph.visit query (starts.card + 2 * graph.edges.length)
      { distances, queue := Sorting.listed starts } := by
  induction n with
  | zero => rfl
  | succ n ih =>
    rw [← ih, ← Nat.add_assoc]
    refine visit_succ ?_
    have hends : (graph.edgeEnds.filter (· ∉ distances)).card ≤ 2 * graph.edges.length :=
      (Finset.card_filter_le _ _).trans card_edgeEnds_le
    simp only [toVisit, Sorting.length_listed]
    omega

end ContextGraph

/-! ## The accounting check -/

/-- The text with which the check of the accounting would fail. -/
def drifted : String := "Context budget accounting drifted."

theorem screen_error {required : Finset String} {screening : Screening} {node : ContextNode}
    {e : String} (h : screen query required screening node = .error e) : e ≠ drifted := by
  unfold screen at h
  split at h
  · cases h
  · rename_i problem hproblem
    split at h
    · cases h
      unfold eligibilityProblem at hproblem
      split at hproblem
      · cases hproblem
        decide
      · split at hproblem
        · split at hproblem
          · cases hproblem
          · cases hproblem
            decide
        · cases hproblem
        · cases hproblem
    · cases h

theorem ContextGraph.visit_error {fuel : Nat} {t : ContextGraph.Traversal} {e : String}
    (h : graph.visit query fuel t = .error e) : e ≠ drifted := by
  induction fuel generalizing t with
  | zero => cases h
  | succ fuel ih =>
    rw [visit] at h
    split at h
    · cases h
    · dsimp only at h
      split at h
      · rcases bind_eq_error.mp h with h | ⟨-, -, h⟩
        · obtain ⟨-, rfl⟩ := require_eq_error.mp h
          decide
        · exact ih h
      · rcases bind_eq_error.mp h with h | ⟨next, -, h⟩
        · obtain ⟨t', step, -, h⟩ := foldlM_eq_error h
          unfold reach at h
          rcases bind_eq_error.mp h with h | ⟨-, -, h⟩
          · obtain ⟨-, rfl⟩ := require_eq_error.mp h
            decide
          · split at h
            · cases h
            · rcases bind_eq_error.mp h with h | ⟨-, -, h⟩
              · obtain ⟨-, rfl⟩ := require_eq_error.mp h
                decide
              · cases h
        · exact ih h

theorem prepare_error (hgraph : graphArtifact.value.WellShaped) {e : String}
    (h : prepare graphArtifact query = .error e) : e ≠ drifted := by
  simp only [prepare, bind_eq_error, require_eq_error, require_eq_ok, exists_unit] at h
  rcases h with ⟨-, rfl⟩ | ⟨-, ⟨-, rfl⟩ | ⟨-, ⟨-, rfl⟩ | ⟨hpresent, hscreening |
    ⟨screening, hscreening, hrequired | ⟨required, -, htraverse | ⟨distances, -, h⟩⟩⟩⟩⟩⟩
  · decide
  · decide
  · decide
  · obtain ⟨st, node, -, hscreen⟩ := foldlM_eq_error hscreening
    exact screen_error hscreen
  · have hdirect := (screened hscreening).required_subset hgraph
      fun k hk => hpresent k (Finset.mem_union_left _ hk)
    rw [PairClosure.closureWithin_eq hdirect] at hrequired
    split at hrequired
    · cases hrequired
    · cases hrequired
      decide
  · rw [ContextGraph.traverse, bind_eq_error] at htraverse
    rcases htraverse with hvisit | ⟨t, -, h⟩
    · exact ContextGraph.visit_error hvisit
    · cases h
  · cases h

theorem selectRequired_error {e : String} (h : S.selectRequired graph query p = .error e) :
    e ≠ drifted := by
  simp only [ContextSurroundings.selectRequired, bind_eq_error, require_eq_error, require_eq_ok,
    exists_unit] at h
  rcases h with ⟨-, rfl⟩ | ⟨-, ⟨-, rfl⟩ | ⟨-, ⟨-, rfl⟩ | ⟨-, h⟩⟩⟩
  · decide
  · decide
  · decide
  · cases h

/-- The check of the accounting passes after a sound admission. -/
theorem conclude_error (hgraph : graphArtifact.value.WellShaped)
    (hst : st.Sound S graphArtifact.value query p) {e : String}
    (h : S.conclude graphArtifact queryArtifact p st = .error e) : e ≠ drifted := by
  simp only [ContextSurroundings.conclude, bind_eq_error, require_eq_error, require_eq_ok,
    exists_unit, fromOption_eq_error] at h
  rcases h with hnodes | ⟨nodes, hnodes, ⟨hused, -⟩ | ⟨-, ⟨-, rfl⟩ | ⟨sensitivity, -, h⟩⟩⟩
  · obtain ⟨nodeId, -, h⟩ := mapM_eq_error hnodes
    obtain ⟨-, rfl⟩ := fromOption_eq_error.mp h
    decide
  · exact absurd (used_eq hgraph hst hnodes) hused
  · decide
  · cases h

theorem Prepared.Sound.rankedOptional (hgraph : graph.WellShaped) :
    ∀ nodeId ∈ (p.rankedOptional graph).map (·.nodeId), nodeId ∈ graph.nodeIds := by
  intro nodeId hmem
  obtain ⟨node, hnode, rfl⟩ := List.mem_map.mp hmem
  rw [Prepared.rankedOptional, List.mem_insertionSort, List.mem_filterMap] at hnode
  obtain ⟨k, -, hk⟩ := hnode
  exact ContextGraph.mem_nodeIds.mpr ⟨node, (hgraph.getElem?_nodeTable.mp hk).1, rfl⟩

/-- The check of the accounting never fails. -/
theorem choose_ne_drifted (hgraph : graphArtifact.value.WellShaped) :
    S.choose graphArtifact queryArtifact ≠ .error drifted := by
  intro h
  rw [ContextSurroundings.choose, bind_eq_error] at h
  rcases h with h | ⟨p, hp, h⟩
  · exact prepare_error hgraph h rfl
  · rcases bind_eq_error.mp h with h | ⟨st, hst, h⟩
    · exact selectRequired_error h rfl
    · exact conclude_error hgraph ((selectRequired_sound (prepare_sound hgraph hp) hst).foldl_consider
        hgraph (Prepared.Sound.rankedOptional hgraph)) h rfl

/-- Context selection is correct: the check of the accounting is never reached in vain, and what is
selected is correct and does not depend on the order of the graph. -/
theorem selection_correct (S : ContextSurroundings)
    (graphArtifact : LoadedContextArtifact ContextGraph)
    (queryArtifact : LoadedContextArtifact ContextQuery)
    (hgraph : graphArtifact.value.contract = .ok ()) :
    S.choose graphArtifact queryArtifact ≠ .error "Context budget accounting drifted." ∧
    ∀ loaded, S.select graphArtifact queryArtifact = .ok loaded →
      loaded.value.Correct S graphArtifact.value queryArtifact.value ∧
      ∀ graph', graphArtifact.value.Reordered graph' →
        S.select ⟨graphArtifact.artifactId, graph'⟩ queryArtifact = .ok loaded := by
  have hshape := ContextGraph.wellShaped_of_contract hgraph
  refine ⟨choose_ne_drifted hshape, fun loaded hloaded => ⟨?_, fun graph' hreordered =>
    hreordered.select hshape hloaded⟩⟩
  simp only [ContextSurroundings.select, ContextSurroundings.choose, bind_eq_ok, pure_eq_ok]
    at hloaded
  obtain ⟨selection, ⟨p, hp, st, hst, hconclude⟩, artifactId, -, rfl⟩ := hloaded
  have hprepared := prepare_sound hshape hp
  exact conclude_correct hshape hprepared ((selectRequired_sound hprepared hst).foldl_consider hshape
    (Prepared.Sound.rankedOptional hshape)) hconclude

/-! ## A selection -/

namespace Sample

def contextCandidate : CandidateIdentity where
  sourceSpecSha256 := "9EA7C739E571B5696295D25B1AA30B5B22B93E7249EB8095B75180D3BC384753"
  gitHead := "4f2a9c1b7d3e8056a1c4f2e9b8d7036512ac9e4f"
  repositoryDigest := "E2885F2BBE3D7A8B08E328B9ABF1E0824BEBAD97625B300E24649A256C6C4847"

/-- A node on the first line of a file that the owner recorded. -/
def contextNode (nodeId sourceId : String) (kind : SourceKind) (title text textSha256 path : String)
    (authority : AuthorityClass) (sensitivity : Sensitivity) (required : Bool) : ContextNode where
  nodeId
  sourceId
  kind
  title
  text
  textSha256
  locator := ⟨.repository, path, textSha256, 1, 1⟩
  provenance := ⟨"Owner", "Owner", [⟨path, textSha256⟩]⟩
  authority
  freshness := .candidateBound
  sensitivity
  identifiers := []
  labels := []
  required

def specNode : ContextNode :=
  contextNode "CTX-NODE-46D0B8A71586E2929A01825F8DF9A6D08DD239C6B624848ABF24955F22D9DAAB"
    "CTX-SOURCE-6F278DB3FBCF6D5FB0D34DF5C9DF669C86E14667C39804C52072B6099D2184CE"
    .specification "Importer specification" "The importer rejects unknown columns.\n"
    "9EA7C739E571B5696295D25B1AA30B5B22B93E7249EB8095B75180D3BC384753" "SPEC.md"
    .canonicalSpecification .isPublic true

def findingNode : ContextNode :=
  contextNode "CTX-NODE-CF2B538DE178EC7897340690E176294662CFE0AD08B02FE2FB13BE7810ADCBD2"
    "CTX-SOURCE-651E63A28D2AC4D4E8833C472F9885F68ED9A4FA54589BE43B3591A4DADE4709"
    .finding "Review note" "The importer drops rows.\n"
    "339472C1DC24D0571D806515310F0B76E5DD2538BFB4BC648E30454B4ED0584D" "docs/finding.md"
    .repositoryRecord .isPublic false

def privateNode : ContextNode :=
  contextNode "CTX-NODE-5B256C06642ABFE21739BE48BFDE792FAB1628D107866BF4F03E1141F8149564"
    "CTX-SOURCE-5C8302D3E31700529AD25776CE32D975E9E43F235372416A74A4C12852B89FAA"
    .evidence "Owner log" "columns: 7\n"
    "489B982759E5AA74D35E5964706B43798C2DB3FB1A03A9A60C526CEC7809CA36" "docs/log.md"
    .repositoryRecord .ownerPrivate false

def contradiction : ContextEdge where
  edgeId := "CTX-EDGE-96CC69F32AF065AC3221620E9B6A266179558C046CFDB54113BDE23855C74D1A"
  edgeType := .contradicts
  sourceNodeId := specNode.nodeId
  targetNodeId := findingNode.nodeId
  provenance := findingNode.provenance

def contextGraph : LoadedContextArtifact ContextGraph where
  artifactId := "CTX-GRAPH-6BFEBAB79ACE5269A4FFF3E260BBAF99DC67475D60659BEA6BD97C3D2CCA1A35"
  value := {
    candidate := contextCandidate
    manifestId := "CTX-MANIFEST-5041BF1F713DF204784353E82F6A4A535931CB64F1F4B4A5AEAFFCB720918B22"
    sensitivity := .ownerPrivate
    nodes := [specNode, privateNode, findingNode]
    edges := [contradiction] }

def contextQuery : LoadedContextArtifact ContextQuery where
  artifactId := "CTX-QUERY-FA9107A845E71079A4C301A4E65250B6DB4E287B26F889410E59C3CDF7346E0C"
  value := {
    candidate := contextCandidate
    graphId := contextGraph.artifactId
    asOf := 1769904000000000
    clearance := .repositoryPrivate
    requiredNodeIds := []
    seedNodeIds := []
    identifiers := []
    terms := []
    allowedEdgeTypes := [.contradicts]
    budget := ⟨8192, 8, 8, 2⟩ }

/-- The canonical sizes of the nodes and edges, and the identity of their selection. -/
def contextSurroundings : ContextSurroundings where
  nodeCost node :=
    match node.kind with
    | .specification => 785
    | .finding => 766
    | _ => 750
  edgeCost _ := 387
  selectionIdentity _ :=
    .ok "CTX-SELECTION-BB74751A8C8561E99B4A1B0B84540AB16ED246B3251FB2C70E07BD88F9B00667"

theorem contextGraph_contract : contextGraph.value.contract = .ok () := by decide +kernel

theorem contextGraph_selects : (contextSurroundings.select contextGraph contextQuery).map
    (·.value.usedBytes) = .ok 1938 := by
  decide +kernel

end Sample

/-- A finding that contradicts the required specification is taken along, and a private log is left
out. -/
theorem selection_correct_contradicted : ∃ loaded,
    Sample.contextSurroundings.select Sample.contextGraph Sample.contextQuery = .ok loaded ∧
    loaded.value.usedBytes = 1938 ∧
    loaded.value.Correct Sample.contextSurroundings Sample.contextGraph.value
      Sample.contextQuery.value := by
  obtain ⟨loaded, hloaded, hused⟩ := map_eq_ok.mp Sample.contextGraph_selects
  exact ⟨loaded, hloaded, hused, ((selection_correct Sample.contextSurroundings
    Sample.contextGraph Sample.contextQuery Sample.contextGraph_contract).2 loaded hloaded).1⟩

end Sdaqf
