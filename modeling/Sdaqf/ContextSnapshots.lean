import Sdaqf.ContextCompaction

/-!
# Snapshots

The snapshot of a selection. The sources of the selected nodes are observed again. A required node
whose source fails stops the snapshot, and so does a failed node whose contradictions reach a required
one. Every other failed node is left out together with all nodes that its contradictions reach, and
the snapshot holds what remains.
-/

namespace Sdaqf

open Guard
open JsonText (Value)
open Payload (textArray)

/-! ## Queries and selections -/

def ContextBudget.toDict (b : ContextBudget) : Value := .object [
  ("unit", .text "canonical_utf8_bytes"),
  ("budget_bytes", .number b.budgetBytes),
  ("max_nodes", .number b.maxNodes),
  ("max_edges", .number b.maxEdges),
  ("max_traversal_depth", .number b.maxTraversalDepth)]

section Encoded

variable (E : ContextEncoding)

def ContextQuery.toDict (q : ContextQuery) : Value := .object [
  ("candidate", q.candidate.toDict),
  ("graph_id", .text q.graphId),
  ("as_of", .text (E.spell q.asOf)),
  ("clearance", .text q.clearance.value),
  ("required_node_ids", textArray q.requiredNodeIds),
  ("seed_node_ids", textArray q.seedNodeIds),
  ("identifiers", textArray q.identifiers),
  ("terms", textArray q.terms),
  ("allowed_edge_types", textArray (q.allowedEdgeTypes.map EdgeType.value)),
  ("budget", q.budget.toDict)]

def ContextSelection.toDict (s : ContextSelection) : Value := .object [
  ("candidate", s.candidate.toDict),
  ("graph_id", .text s.graphId),
  ("query_id", .text s.queryId),
  ("query", s.query.toDict E),
  ("as_of", .text (E.spell s.asOf)),
  ("sensitivity", .text s.sensitivity.value),
  ("selected", .array (s.selected.map SelectionDecision.toDict)),
  ("excluded", .array (s.excluded.map ExclusionDecision.toDict)),
  ("selected_edge_ids", textArray s.selectedEdgeIds),
  ("unresolved_contradiction_ids", textArray s.unresolvedContradictionIds),
  ("edge_cost_bytes", .number s.edgeCostBytes),
  ("used_bytes", .number s.usedBytes),
  ("budget_bytes", .number s.budgetBytes),
  ("traversal_truncated", .boolean s.traversalTruncated)]

/-- The canonical sizes of nodes and edges, and the identity of a selection. -/
def canonicalSurroundings : ContextSurroundings where
  nodeCost node := canonicalSize (node.contentDict E)
  edgeCost edge := canonicalSize edge.contentDict
  selectionIdentity selection := contextIdentity E "CTX-SELECTION-" (selection.toDict E)

/-- The checks that the parser of graphs makes of the nodes and edges. -/
def ContextGraph.recordContract (graph : ContextGraph) : Except String Unit := do
  arrayValue "content.nodes" maxGraphNodes graph.nodes
  forEachIndexed "content.nodes" (fun field node => node.contract E field) graph.nodes
  require (graph.nodes ≠ []) "content.nodes must not be empty."
  ascendingUnique "content.nodes" (graph.nodes.map (·.nodeId))
  require (graph.nodes.map (·.sourceId)).Nodup "content.nodes contains a duplicate source."
  forEach (fun node => node.validateContextAuthority) graph.nodes
  candidateIdentity "content.candidate" graph.candidate
  require (HasCanonicalSpecification graph.candidate graph.nodes)
    "Graph must contain one required candidate-bound canonical specification."
  arrayValue "content.edges" maxGraphEdges graph.edges
  forEachIndexed "content.edges"
    (fun field edge => edge.recordContract E field (graph.nodes.map (·.nodeId))) graph.edges
  ascendingUnique "content.edges" (graph.edges.map (·.edgeId))

/-- The checks that the parser of selections makes of the decisions and the accounts. -/
def ContextSelection.contract (s : ContextSelection) : Except String Unit := do
  contextId "content.query_id" "CTX-QUERY-" s.queryId
  let queryId ← contextIdentity E "CTX-QUERY-" (s.query.toDict E)
  require (s.queryId = queryId) "content.query_id does not match embedded Query."
  candidateIdentity "content.candidate" s.candidate
  contextId "content.graph_id" "CTX-GRAPH-" s.graphId
  require (s.query.candidate = s.candidate ∧ s.query.graphId = s.graphId ∧ s.query.asOf = s.asOf)
    "Selection does not match its embedded Query."
  rejectProhibited "content.sensitivity" s.sensitivity
  arrayValue "content.selected" maxGraphNodes s.selected
  forEachIndexed "content.selected" (fun field decision => decision.contract field) s.selected
  require (s.selected ≠ []) "content.selected must not be empty."
  require (s.selected.map (·.nodeId)).Nodup "content.selected contains a duplicate node."
  arrayValue "content.excluded" maxGraphNodes s.excluded
  forEachIndexed "content.excluded" (fun field decision => decision.contract field) s.excluded
  ascendingUnique "content.excluded" (s.excluded.map (·.nodeId))
  require (∀ decision ∈ s.excluded, decision.nodeId ∉ s.selected.map (·.nodeId))
    "Selected and excluded nodes must be disjoint."
  integerValue "content.budget_bytes" 1024 8388608 s.budgetBytes
  integerValue "content.used_bytes" 0 8388608 s.usedBytes
  integerValue "content.edge_cost_bytes" 0 8388608 s.edgeCostBytes
  require (s.usedBytes ≤ s.budgetBytes) "content.used_bytes exceeds its budget."
  require (s.budgetBytes = s.query.budget.budgetBytes)
    "content.budget_bytes does not match embedded Query."
  require (s.usedBytes = (s.selected.map (·.costBytes)).sum + s.edgeCostBytes)
    "content.used_bytes does not match selected costs."
  sortedIdTuple "content.selected_edge_ids" "CTX-EDGE-" maxGraphEdges s.selectedEdgeIds
  sortedIdTuple "content.unresolved_contradiction_ids" "CTX-EDGE-" maxGraphEdges
    s.unresolvedContradictionIds

end Encoded

/-! ## Failed sources -/

/-- Why an observation failed, from the folded text of its error. -/
def sourceFailureReason (casefold : String → String) (message : String) : String :=
  let mentions (word : String) : Bool := decide (word.toList <:+: (casefold message).toList)
  if mentions "digest" then "digest-mismatch"
  else if mentions "changed" then "changed"
  else if mentions "size" || mentions "byte" then "source-byte-limit"
  else "missing-or-unreadable"

namespace ContextBoundary

variable (B : ContextBoundary) (casefold : String → String)

/-- What is wrong with the observed source of a node. -/
def observationProblem (asOf : Timestamp) (node : ContextNode)
    (observation : ObservedContextSource) : Option String :=
  if node.freshness = .immutable ∧ (validateContextJsonBytes observation.content).isOk = false then
    some "invalid-json"
  else if observation.selectedText ≠ node.text then some "changed"
  else
    match node.freshness with
    | .expiresAt observedAt validUntil =>
      if observedAt ≤ asOf ∧ asOf ≤ validUntil then none else some "stale"
    | .immutable | .candidateBound => none

/-- What is wrong with a selected node, if anything is. -/
def problem (asOf : Timestamp) (node : ContextNode) : Option String :=
  if node.validateContextAuthority.isOk = false then some "authority-invalid"
  else
    match B.observe node with
    | .error message => some (sourceFailureReason casefold message)
    | .ok observation =>
      match observationProblem asOf node observation with
      | some problem => some problem
      | none =>
        if (forEach (B.verifyReference node) node.provenance.references).isOk then none
        else some "provenance-unavailable"

/-- Observe one node; a required one must not fail. -/
def reobserve (asOf : Timestamp) (requiredIds : Finset String) (failed : Table String)
    (node : ContextNode) : Except String (Table String) :=
  match B.problem casefold asOf node with
  | none => .ok failed
  | some problem =>
    if node.nodeId ∈ requiredIds then
      .error "Required context failed snapshot re-observation."
    else .ok (failed.insert node.nodeId problem)

end ContextBoundary

/-! ## Dropped nodes -/

/-- The ends of the contradictions of some edges. -/
def contradictionPairs (edges : List ContextEdge) : List (String × String) :=
  (edges.filter (·.edgeType = .contradicts)).map fun edge =>
    (edge.sourceNodeId, edge.targetNodeId)

/-- Drop the contradiction component of a failed node; it must not hold a required node. -/
def dropComponent (pairs : List (String × String)) (requiredIds excludedIds : Finset String)
    (failedId : String) : Except String (Finset String) :=
  let component := PairClosure.closure pairs {failedId}
  if (component ∩ requiredIds).Nonempty then
    .error "Required contradiction closure failed re-observation."
  else .ok (excludedIds ∪ component)

/-! ## The snapshot -/

/-- What the builder reads of its input: the selected nodes and edges. -/
def readSelection (graph : ContextGraph) (selection : ContextSelection) :
    Except String (List ContextNode × List ContextEdge) := do
  let nodes ← selection.selectedIds.mapM fun nodeId =>
    fromOption graph.nodeTable[nodeId]? "Selection references missing graph content."
  let edges ← selection.selectedEdgeIds.mapM fun edgeId =>
    fromOption (Table.ofRows (·.edgeId) graph.edges)[edgeId]?
      "Selection references missing graph content."
  return (nodes, edges)

/-- The snapshot of the nodes and edges that remain. -/
def snapshotOf (E : ContextEncoding) (graphArtifact : LoadedContextArtifact ContextGraph)
    (selectionArtifact : LoadedContextArtifact ContextSelection) (failed : Table String)
    (excludedIds : Finset String) (nodes : List ContextNode) (edges : List ContextEdge)
    (sensitivity : Sensitivity) : ContextSnapshot :=
  let selection := selectionArtifact.value
  let exclusions := (Sorting.listed excludedIds).foldl (fun exclusions nodeId =>
    exclusions.insert nodeId
      ⟨nodeId, failed[nodeId]?.getD "contradiction-closure-unavailable", []⟩)
    (Table.ofRows ExclusionDecision.nodeId selection.excluded)
  { candidate := graphArtifact.value.candidate
    graphId := graphArtifact.artifactId
    queryId := selection.queryId
    selectionId := selectionArtifact.artifactId
    asOf := selection.asOf
    sensitivity
    nodes
    edges
    selected := selection.selected.filter (·.nodeId ∈ nodes.map (·.nodeId))
    excluded := exclusions.rows
    unresolvedContradictionIds := (edges.filter (·.edgeType = .contradicts)).map (·.edgeId)
    contextBytes := (nodes.map fun node => canonicalSize (node.contentDict E)).sum +
      (edges.map fun edge => canonicalSize edge.contentDict).sum
    budgetBytes := selection.budgetBytes }

/-- The checks of the builder before it observes anything. -/
def checkSelection (E : ContextEncoding) (B : ContextBoundary)
    (graphArtifact : LoadedContextArtifact ContextGraph)
    (selectionArtifact : LoadedContextArtifact ContextSelection) : Except String Unit := do
  let graph := graphArtifact.value
  let selection := selectionArtifact.value
  require (selection.graphId = graphArtifact.artifactId) "Snapshot input identities do not match."
  require (graph.candidate = selection.candidate) "Snapshot candidate identities do not match."
  require (HasCanonicalSpecification graph.candidate graph.nodes)
    "Graph lacks one required candidate-bound canonical specification."
  B.verifyCandidate 0
  let queryId ← contextIdentity E "CTX-QUERY-" (selection.query.toDict E)
  require (queryId = selection.queryId) "Embedded Query identity does not match."
  let expected ← (canonicalSurroundings E).select graphArtifact ⟨queryId, selection.query⟩
  require (expected = selectionArtifact)
    "Selection is not the exact deterministic result for Graph and Query."

/-- Observe the selected nodes and leave out those that failed. -/
def keepObserved (B : ContextBoundary) (casefold : String → String) (graph : ContextGraph)
    (selection : ContextSelection) (nodes : List ContextNode) (edges : List ContextEdge) :
    Except String (Table String × Finset String) := do
  let requiredIds := graph.directlyRequired selection.query
  let failed ← foldE (B.reobserve casefold selection.asOf requiredIds) ∅ nodes
  let excludedIds ← foldE (dropComponent (contradictionPairs edges) requiredIds) ∅ failed.keys
  return (failed, excludedIds)

/-- Adopt the nodes that remain, with the edges between them. -/
def adoptRemaining (E : ContextEncoding) (B : ContextBoundary)
    (graphArtifact : LoadedContextArtifact ContextGraph)
    (selectionArtifact : LoadedContextArtifact ContextSelection) (failed : Table String)
    (excludedIds : Finset String) (nodes : List ContextNode) (edges : List ContextEdge) :
    Except String (LoadedContextArtifact ContextSnapshot) := do
  let nodes := nodes.filter (·.nodeId ∉ excludedIds)
  require (nodes ≠ []) "Snapshot cannot adopt empty context."
  let edges := edges.filter fun edge => edge.sourceNodeId ∈ nodes.map (·.nodeId) ∧
    edge.targetNodeId ∈ nodes.map (·.nodeId)
  relabel "Selected edge provenance failed re-observation." (forEach (fun edge : ContextEdge =>
    forEach (B.verifyEdgeReference edge) edge.provenance.references) edges)
  B.verifyCandidate 1
  let sensitivity ← fromOption (highestSensitivity (nodes.map (·.sensitivity)))
    "max() iterable argument is empty"
  require (sensitivity ≠ .secretOrProhibited) "Snapshot cannot adopt prohibited context."
  let artifact ← (snapshotKind E).artifactFromValue E
    (snapshotOf E graphArtifact selectionArtifact failed excludedIds nodes edges sensitivity)
  (snapshotKind E).strictlyValidate E artifact

/-- Re-observe the selected sources and build the snapshot. -/
def build (E : ContextEncoding) (B : ContextBoundary) (casefold : String → String)
    (graphArtifact : LoadedContextArtifact ContextGraph)
    (selectionArtifact : LoadedContextArtifact ContextSelection) (ownerRoot : Bool) :
    Except String (LoadedContextArtifact ContextSnapshot) := do
  let graph := graphArtifact.value
  let selection := selectionArtifact.value
  checkSelection E B graphArtifact selectionArtifact
  let (nodes, edges) ← readSelection graph selection
  let ownerNodes := nodes.filter (·.locator.rootScope = .owner)
  require (ownerNodes ≠ [] → ownerRoot)
    "Selected owner context requires an explicit owner root."
  require (ownerNodes = [] → ownerRoot = false) "Unused owner root is not permitted."
  let (failed, excludedIds) ← keepObserved B casefold graph selection nodes edges
  adoptRemaining E B graphArtifact selectionArtifact failed excludedIds nodes edges

end Sdaqf
