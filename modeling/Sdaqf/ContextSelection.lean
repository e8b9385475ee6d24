import Mathlib.Algebra.BigOperators.Group.Finset.Basic
import Mathlib.Data.Prod.Lex
import Sdaqf.ContextDomain
import Sdaqf.PairClosure
import Sdaqf.Sorting

/-!
# Context selection

The selector of a Context Graph under a query. Nodes are screened for clearance and freshness, the
required nodes are closed under contradiction, a bounded breadth-first traversal and two textual
phases retrieve the optional nodes, and the optional nodes are admitted in the order of their ranks,
each with its whole contradiction component, while the node, edge and byte budgets hold.
-/

namespace Sdaqf

open Guard

/-- The cost of content, and the identity of a finished selection. -/
structure ContextSurroundings where
  nodeCost : ContextNode → Nat
  edgeCost : ContextEdge → Nat
  selectionIdentity : ContextSelection → Except String String

/-! ## Lexical scores -/

/-- The tokens found so far and the run of ASCII characters not yet flushed. -/
structure Tokens where
  tokens : List String := []
  asciiRun : List Char := []

def Tokens.flush (t : Tokens) : Tokens :=
  if t.asciiRun = [] then t else ⟨t.tokens ++ [String.ofList t.asciiRun], []⟩

def Tokens.read (t : Tokens) (character : Char) : Tokens :=
  let codepoint := character.toNat
  if 65 ≤ codepoint ∧ codepoint ≤ 90 then
    { t with asciiRun := t.asciiRun ++ [Char.ofNat (codepoint + 32)] }
  else if (97 ≤ codepoint ∧ codepoint ≤ 122) ∨ (48 ≤ codepoint ∧ codepoint ≤ 57) then
    { t with asciiRun := t.asciiRun ++ [character] }
  else if 127 < codepoint then
    { t.flush with tokens := t.flush.tokens ++ [String.singleton character] }
  else t.flush

/-- Tokenize without locale or Unicode database dependencies. -/
def lexicalTokens (value : String) : List String :=
  (value.toList.foldl Tokens.read {}).flush.tokens

/-- The exact binary field-presence lexical score. -/
def lexicalScore (node : ContextNode) (queryTokens : Finset String) : Nat :=
  let title := lexicalTokens node.title
  let labels := node.labels.flatMap lexicalTokens
  let path := lexicalTokens node.locator.path
  let content := lexicalTokens node.text
  ∑ token ∈ queryTokens, ((if token ∈ title then 16 else 0) + (if token ∈ labels then 8 else 0) +
    (if token ∈ path then 4 else 0) + if token ∈ content then 1 else 0)

/-! ## Eligibility -/

def eligibilityProblem (node : ContextNode) (query : ContextQuery) : Option String :=
  if query.clearance.rank < node.sensitivity.rank then some "sensitivity-clearance"
  else
    match node.freshness with
    | .expiresAt observedAt validUntil =>
      if observedAt ≤ query.asOf ∧ query.asOf ≤ validUntil then none else some "stale"
    | .immutable | .candidateBound => none

/-- The eligible nodes and the exclusions found so far. -/
structure Screening where
  eligible : Finset String := ∅
  exclusions : Table ExclusionDecision := ∅

/-- Screen one node; a required node must be available. -/
def screen (query : ContextQuery) (required : Finset String) (st : Screening)
    (node : ContextNode) : Except String Screening :=
  match eligibilityProblem node query with
  | none => .ok { st with eligible := insert node.nodeId st.eligible }
  | some problem =>
    if node.nodeId ∈ required then .error s!"Required context is unavailable: {problem}."
    else .ok { st with exclusions := st.exclusions.insert node.nodeId ⟨node.nodeId, problem, []⟩ }

namespace ContextGraph

variable (graph : ContextGraph) (query : ContextQuery)

/-! ## The graph's relations -/

/-- The nodes by identity. -/
def nodeTable : Table ContextNode :=
  graph.nodes.foldl (fun nodes node => nodes.insert node.nodeId node) ∅

/-- The nodes that are required by the graph or by the query. -/
def directlyRequired : Finset String :=
  ((graph.nodes.filter (·.required)).map (·.nodeId)).toFinset ∪ query.requiredNodeIds.toFinset

/-- The ends of the contradictions. -/
def contradictions : List (String × String) :=
  (graph.edges.filter (·.edgeType = .contradicts)).map fun edge =>
    (edge.sourceNodeId, edge.targetNodeId)

def contradictionClosure (starts : Finset String) : Finset String :=
  PairClosure.closure graph.contradictions starts

/-- The edges with both ends in a set. -/
def inducedEdges (ids : Finset String) : List ContextEdge :=
  graph.edges.filter fun edge => edge.sourceNodeId ∈ ids ∧ edge.targetNodeId ∈ ids

/-! ## Traversal -/

/-- A step from a node: the type of the edge, the node it leads to and the edge. -/
abbrev Neighbor := String ×ₗ String ×ₗ String

/-- The steps of the allowed edges from a node. A contradiction leads both ways. -/
def neighbors (current : String) : List Neighbor :=
  ((graph.edges.filter fun edge => edge.edgeType ∈ query.allowedEdgeTypes).flatMap fun edge =>
    (if edge.sourceNodeId = current
      then [toLex (edge.edgeType.value, toLex (edge.targetNodeId, edge.edgeId))] else []) ++
    if edge.edgeType = .contradicts ∧ edge.targetNodeId = current
      then [toLex (edge.edgeType.value, toLex (edge.sourceNodeId, edge.edgeId))] else []
  ).insertionSort (· ≤ ·)

/-- The distances found so far, the nodes to visit and the edges passed. -/
structure Traversal where
  distances : Table Nat
  queue : List String
  traversedEdges : Finset String := ∅

/-- Take one step from a node at some distance. -/
def reach (budget : ContextBudget) (distance : Nat) (t : Traversal) (step : Neighbor) :
    Except String Traversal := do
  let target := (ofLex (ofLex step).2).1
  let traversedEdges := insert (ofLex (ofLex step).2).2 t.traversedEdges
  require (traversedEdges.card ≤ budget.maxEdges) "Graph traversal exceeds the edge bound."
  if target ∈ t.distances then return { t with traversedEdges }
  require (t.distances.size < budget.maxNodes) "Graph traversal exceeds the node bound."
  return ⟨t.distances.insert target (distance + 1), t.queue ++ [target], traversedEdges⟩

/-- Visit the nodes of the queue, at most so many of them. -/
def visit : Nat → Traversal → Except String Traversal
  | 0, t => .ok t
  | fuel + 1, t =>
    match t.queue with
    | [] => .ok t
    | current :: queue => do
      let distance := t.distances[current]?.getD 0
      if query.budget.maxTraversalDepth ≤ distance then
        require (∀ step ∈ graph.neighbors query current, (ofLex (ofLex step).2).1 ∈ t.distances)
          "Graph traversal exceeds the depth bound."
        visit fuel { t with queue }
      else
        let next ← (graph.neighbors query current).foldlM (reach query.budget distance)
          { t with queue }
        visit fuel next

/-- The distances of the nodes that the allowed edges reach. Every step from a node leads to a node
that is in the queue once, so the starts and the ends of the edges bound the visits. -/
def traverse (starts : Finset String) : Except String (Table Nat) := do
  let queue := Sorting.listed starts
  let t ← graph.visit query (starts.card + 2 * graph.edges.length)
    { distances := queue.foldl (fun distances nodeId => distances.insert nodeId 0) ∅, queue }
  return t.distances

end ContextGraph

/-! ## Retrieval -/

/-- The phase in which each candidate was retrieved, and the reasons. -/
structure Retrieval where
  phases : Table Nat := ∅
  reasons : Table (Finset String) := ∅

namespace Retrieval

/-- A node is retrieved in a phase, unless an earlier phase retrieved it. -/
def note (r : Retrieval) (nodeId : String) (phase : Nat) (reason : String) : Retrieval where
  phases := r.phases.alter nodeId fun old => some (min (old.getD phase) phase)
  reasons := r.reasons.alter nodeId fun old => some (insert reason (old.getD ∅))

/-- A node is taken along by a node of some phase. -/
def follow (phase : Nat) (r : Retrieval) (nodeId : String) : Retrieval where
  phases := r.phases.insert nodeId phase
  reasons := r.reasons.alter nodeId fun old => some (insert "contradiction-closure" (old.getD ∅))

/-- The nodes a retrieval found. -/
def candidates (r : Retrieval) : Finset String := r.phases.keys.toFinset

end Retrieval

namespace Retrieval

/-- Retrieve the required nodes. -/
def ofRequired (directlyRequired required : Finset String) : Retrieval :=
  (Sorting.listed required).foldl (fun r nodeId => r.note nodeId 0
    (if nodeId ∈ directlyRequired then "required-reference" else "contradiction-closure")) {}

/-- Retrieve the eligible nodes that the traversal reached. -/
def noteReached (r : Retrieval) (required eligible : Finset String) (distances : Table Nat) :
    Retrieval :=
  distances.keys.foldl (fun r nodeId =>
    if nodeId ∈ eligible ∧ nodeId ∉ required then r.note nodeId 1 "graph" else r) r

/-- Retrieve the eligible nodes that match. -/
def noteMatching (r : Retrieval) (nodes : List ContextNode) (eligible : Finset String)
    (hit : ContextNode → Bool) (phase : Nat) (reason : String) : Retrieval :=
  nodes.foldl (fun r node =>
    if node.nodeId ∈ eligible ∧ hit node then r.note node.nodeId phase reason else r) r

end Retrieval

/-- Retrieve the required nodes, the reached ones, those that share an identifier and those that
share a token, in this order. -/
def retrieve (graph : ContextGraph) (query : ContextQuery)
    (directlyRequired required eligible : Finset String) (distances : Table Nat)
    (queryTokens : Finset String) : Retrieval :=
  (((Retrieval.ofRequired directlyRequired required).noteReached required eligible distances
    ).noteMatching graph.nodes eligible (fun node => node.identifiers.any (· ∈ query.identifiers))
      2 "identifier").noteMatching graph.nodes eligible
      (fun node => decide (0 < lexicalScore node queryTokens)) 3 "lexical"

/-! ## Ranks -/

/-- The order of two optional candidates. -/
def rankCompare (distances : Table Nat) (queryTokens : Finset String) (phases : Table Nat)
    (a b : ContextNode) : Ordering :=
  (compare (phases[a.nodeId]?.getD 0) (phases[b.nodeId]?.getD 0)).then <|
  (compare a.authority.rank b.authority.rank).then <|
  (compare (distances[a.nodeId]?.getD 0) (distances[b.nodeId]?.getD 0)).then <|
  (compare (lexicalScore b queryTokens) (lexicalScore a queryTokens)).then <|
  (compare a.sensitivity.rank b.sensitivity.rank).then <|
  compare a.nodeId b.nodeId

/-! ## Admission -/

/-- What the admission of optional candidates has selected so far. -/
structure Admission where
  selectedIds : Finset String
  selectedEdges : List ContextEdge
  used : Nat
  exclusions : Table ExclusionDecision
  retrieval : Retrieval

/-- Leave a node out for a reason. -/
def Admission.exclude (st : Admission) (nodeId reason : String) (details : List String := []) :
    Admission :=
  { st with exclusions := st.exclusions.insert nodeId ⟨nodeId, reason, details⟩ }

namespace ContextSurroundings

variable (S : ContextSurroundings) (graph : ContextGraph) (query : ContextQuery)
  (eligible : Finset String)

/-- The cost of the nodes of a set. -/
def costOfNodes (nodes : Table ContextNode) (ids : Finset String) : Nat :=
  ∑ nodeId ∈ ids, nodes[nodeId]?.elim 0 S.nodeCost

/-- The cost of a list of edges. -/
def costOfEdges (edges : List ContextEdge) : Nat := (edges.map S.edgeCost).sum

/-- Admit a candidate with its contradiction component, or leave it out. -/
def consider (st : Admission) (nodeId : String) : Admission :=
  if nodeId ∈ st.selectedIds then st
  else
    let closureIds := graph.contradictionClosure {nodeId}
    let addedIds := closureIds \ st.selectedIds
    if ¬addedIds ⊆ eligible then
      st.exclude nodeId "contradiction-closure-unavailable" (Sorting.listed (addedIds \ eligible))
    else if query.budget.maxNodes < (st.selectedIds ∪ addedIds).card then
      st.exclude nodeId "node-budget"
    else
      let proposedEdges := graph.inducedEdges (st.selectedIds ∪ addedIds)
      if query.budget.maxEdges < proposedEdges.length then st.exclude nodeId "edge-budget"
      else
        let addedEdges := proposedEdges.filter fun edge =>
          edge.edgeId ∉ st.selectedEdges.map (·.edgeId)
        let incremental := S.costOfNodes graph.nodeTable addedIds + S.costOfEdges addedEdges
        if query.budget.budgetBytes < st.used + incremental then st.exclude nodeId "byte-budget"
        else
          let added := Sorting.listed addedIds
          { selectedIds := st.selectedIds ∪ addedIds
            selectedEdges := proposedEdges
            used := st.used + incremental
            exclusions := added.foldl (fun exclusions addedId => exclusions.erase addedId)
              st.exclusions
            retrieval := (added.filter (· ≠ nodeId)).foldl
              (Retrieval.follow (st.retrieval.phases[nodeId]?.getD 0)) st.retrieval }

end ContextSurroundings

/-! ## The selection -/

/-- The highest of some sensitivities. -/
def highestSensitivity : List Sensitivity → Option Sensitivity
  | [] => none
  | first :: rest =>
    some (rest.foldl (fun highest s => if highest.rank < s.rank then s else highest) first)

/-- What a query retrieves from a graph. -/
structure Prepared where
  eligible : Finset String
  required : Finset String
  distances : Table Nat
  queryTokens : Finset String
  retrieval : Retrieval
  exclusions : Table ExclusionDecision

/-- Retrieve the candidates of a query and exclude the other nodes. -/
def prepare (graphArtifact : LoadedContextArtifact ContextGraph)
    (query : ContextQuery) : Except String Prepared := do
  let graph := graphArtifact.value
  require (query.graphId = graphArtifact.artifactId) "Query graph identity does not match."
  require (query.candidate = graph.candidate) "Query candidate identity does not match."
  let directlyRequired := graph.directlyRequired query
  let seeds := query.seedNodeIds.toFinset
  require (∀ nodeId ∈ directlyRequired ∪ seeds, nodeId ∈ graph.nodeTable)
    "Query references a missing graph node."
  let screening ← graph.nodes.foldlM (screen query directlyRequired) {}
  let eligible := screening.eligible
  let required ← PairClosure.closureWithin eligible
    "Required contradiction closure is unavailable." graph.contradictions directlyRequired
  let distances ← graph.traverse query (required ∪ (seeds ∩ eligible))
  let queryTokens := (query.terms.flatMap lexicalTokens).toFinset
  let retrieval := retrieve graph query directlyRequired required eligible distances queryTokens
  let exclusions := (Sorting.listed (eligible \ retrieval.candidates)).foldl
    (fun exclusions nodeId => exclusions.insert nodeId ⟨nodeId, "not-retrieved", []⟩)
    screening.exclusions
  return ⟨eligible, required, distances, queryTokens, retrieval, exclusions⟩

/-- The optional candidates in the order of their ranks. -/
def Prepared.rankedOptional (p : Prepared) (graph : ContextGraph) : List ContextNode :=
  ((Sorting.listed (p.retrieval.candidates \ p.required)).filterMap (graph.nodeTable[·]?)
    ).insertionSort fun a b =>
      (rankCompare p.distances p.queryTokens p.retrieval.phases a b).isLE = true

namespace ContextSurroundings

variable (S : ContextSurroundings)

/-- Select the required nodes, within the budgets. -/
def selectRequired (graph : ContextGraph) (query : ContextQuery) (p : Prepared) :
    Except String Admission := do
  require (p.required.card ≤ query.budget.maxNodes) "Required nodes exceed the node budget."
  let requiredEdges := graph.inducedEdges p.required
  require (requiredEdges.length ≤ query.budget.maxEdges) "Required edges exceed the edge budget."
  let requiredCost := S.costOfNodes graph.nodeTable p.required + S.costOfEdges requiredEdges
  require (requiredCost ≤ query.budget.budgetBytes) "Required context exceeds the byte budget."
  return ⟨p.required, requiredEdges, requiredCost, p.exclusions, p.retrieval⟩

/-- The decision on a selected node. -/
def decision (distances : Table Nat) (queryTokens : Finset String) (retrieval : Retrieval)
    (node : ContextNode) : SelectionDecision where
  nodeId := node.nodeId
  reasons := Sorting.listed (retrieval.reasons[node.nodeId]?.getD ∅)
  phase := retrieval.phases[node.nodeId]?.getD 0
  authorityRank := node.authority.rank
  graphDistance := distances[node.nodeId]?.getD 0
  lexicalScore := lexicalScore node queryTokens
  sensitivityRank := node.sensitivity.rank
  costBytes := S.nodeCost node

/-- The selection of what was admitted. -/
def conclude (graphArtifact : LoadedContextArtifact ContextGraph)
    (queryArtifact : LoadedContextArtifact ContextQuery) (p : Prepared) (st : Admission) :
    Except String ContextSelection := do
  let graph := graphArtifact.value
  let query := queryArtifact.value
  let exclusions := (Sorting.listed (p.retrieval.candidates \ st.selectedIds)).foldl
    (fun exclusions nodeId => exclusions.insertIfNew nodeId ⟨nodeId, "not-selected", []⟩)
    st.exclusions
  let selectedNodes ← (Sorting.listed st.selectedIds).mapM fun nodeId =>
    fromOption graph.nodeTable[nodeId]? "KeyError"
  let decisions := selectedNodes.map (S.decision p.distances p.queryTokens st.retrieval)
  let edgeCost := S.costOfEdges st.selectedEdges
  require (st.used = (decisions.map (·.costBytes)).sum + edgeCost)
    "Context budget accounting drifted."
  let sensitivity ← fromOption (highestSensitivity (selectedNodes.map (·.sensitivity)))
    "max() iterable argument is empty"
  return {
    candidate := graph.candidate
    graphId := graphArtifact.artifactId
    queryId := queryArtifact.artifactId
    query
    asOf := query.asOf
    sensitivity
    selected := decisions
    excluded := exclusions.rows
    selectedEdgeIds := (st.selectedEdges.map (·.edgeId)).insertionSort (· ≤ ·)
    unresolvedContradictionIds := ((st.selectedEdges.filter (·.edgeType = .contradicts)).map
      (·.edgeId)).insertionSort (· ≤ ·)
    edgeCostBytes := edgeCost
    usedBytes := st.used
    budgetBytes := query.budget.budgetBytes
    traversalTruncated := false }

/-- The selection of a query against a graph, before its identity is taken. -/
def choose (graphArtifact : LoadedContextArtifact ContextGraph)
    (queryArtifact : LoadedContextArtifact ContextQuery) : Except String ContextSelection := do
  let graph := graphArtifact.value
  let query := queryArtifact.value
  let p ← prepare graphArtifact query
  let st ← S.selectRequired graph query p
  S.conclude graphArtifact queryArtifact p
    (((p.rankedOptional graph).map (·.nodeId)).foldl (S.consider graph query p.eligible) st)

/-- Return one deterministic validated Selection artifact. -/
def select (graphArtifact : LoadedContextArtifact ContextGraph)
    (queryArtifact : LoadedContextArtifact ContextQuery) :
    Except String (LoadedContextArtifact ContextSelection) := do
  let selection ← S.choose graphArtifact queryArtifact
  let artifactId ← S.selectionIdentity selection
  return ⟨artifactId, selection⟩

end ContextSurroundings

end Sdaqf
