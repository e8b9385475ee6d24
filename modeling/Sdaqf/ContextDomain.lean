import Sdaqf.Guard
import Sdaqf.Tables

/-!
# Context domain contracts

The immutable values of context selection: the nodes and edges of a Context Graph, the query against
it, and the selection with its decisions. A freshness window stands only where the kind of freshness
has one, so it is part of the kind.
-/

namespace Sdaqf

open Guard

/-! ## Closed vocabularies -/

/-- Explicit filesystem root used by one source locator. -/
inductive RootScope
  | repository | owner
deriving DecidableEq

/-- Supported typed context source classes. -/
inductive SourceKind
  | specification | requirement | decision | design | source | test | evidence | finding | task
  | handoff | toolObservation | solverArtifact
deriving DecidableEq

/-- Supported graph relationship types. -/
inductive EdgeType
  | references | implements | verifies | dependsOn | supersedes | contradicts | derivedFrom
deriving DecidableEq

def EdgeType.value : EdgeType → String
  | .references => "references"
  | .implements => "implements"
  | .verifies => "verifies"
  | .dependsOn => "depends-on"
  | .supersedes => "supersedes"
  | .contradicts => "contradicts"
  | .derivedFrom => "derived-from"

/-- Ordered authority metadata. -/
inductive AuthorityClass
  | ownerApproved | canonicalSpecification | acceptedPublicContract | verifiedEvidence
  | repositoryRecord | untrustedObservation | untrustedProposal
deriving DecidableEq

/-- The position of an authority class in its order. -/
def AuthorityClass.rank : AuthorityClass → Nat
  | .ownerApproved => 0
  | .canonicalSpecification => 1
  | .acceptedPublicContract => 2
  | .verifiedEvidence => 3
  | .repositoryRecord => 4
  | .untrustedObservation => 5
  | .untrustedProposal => 6

/-- Replayable freshness policy, with its window where it has one. -/
inductive Freshness
  | immutable
  | candidateBound
  | expiresAt (observedAt validUntil : Timestamp)
deriving DecidableEq

/-! ## The graph -/

/-- Bounded source-linked provenance. -/
structure ContextProvenance where
  producer : String
  recordedBy : String
  references : List ArtifactReference
deriving DecidableEq

/-- Portable source location under one explicit root. -/
structure SourceLocator where
  rootScope : RootScope
  path : String
  sha256 : String
  lineStart : Nat
  lineEnd : Nat
deriving DecidableEq

/-- One immutable adopted source node. -/
structure ContextNode where
  nodeId : String
  sourceId : String
  kind : SourceKind
  title : String
  text : String
  textSha256 : String
  locator : SourceLocator
  provenance : ContextProvenance
  authority : AuthorityClass
  freshness : Freshness
  sensitivity : Sensitivity
  identifiers : List String
  labels : List String
  required : Bool
deriving DecidableEq

/-- One immutable graph edge. -/
structure ContextEdge where
  edgeId : String
  edgeType : EdgeType
  sourceNodeId : String
  targetNodeId : String
  provenance : ContextProvenance
deriving DecidableEq

/-- Indexed graph content. -/
structure ContextGraph where
  candidate : CandidateIdentity
  manifestId : String
  sensitivity : Sensitivity
  nodes : List ContextNode
  edges : List ContextEdge
deriving DecidableEq

/-- The checks of an edge against the nodes of its graph. -/
def ContextEdge.contract (field : String) (nodeIds : List String) (edge : ContextEdge) :
    Except String Unit := do
  require (edge.sourceNodeId ≠ edge.targetNodeId) s!"{field} must not be a self edge."
  require (edge.sourceNodeId ∈ nodeIds ∧ edge.targetNodeId ∈ nodeIds)
    s!"{field} references a missing node."
  require (edge.edgeType = .contradicts → edge.sourceNodeId ≤ edge.targetNodeId)
    s!"{field} contradiction endpoints must be ascending."

/-- The checks of a graph's shape. -/
def ContextGraph.contract (graph : ContextGraph) : Except String Unit := do
  require (graph.nodes ≠ []) "content.nodes must not be empty."
  require ((graph.nodes.map (·.nodeId)).Pairwise (· < ·)) "content.nodes must be ascending."
  require ((graph.nodes.map (·.sourceId)).Nodup) "content.nodes contains a duplicate source."
  forEach (fun item : ContextEdge × Nat =>
    item.1.contract s!"content.edges[{item.2}]" (graph.nodes.map (·.nodeId))) graph.edges.zipIdx
  require ((graph.edges.map (·.edgeId)).Pairwise (· < ·)) "content.edges must be ascending."

/-! ## The query -/

/-- Portable query bounds. -/
structure ContextBudget where
  budgetBytes : Nat
  maxNodes : Nat
  maxEdges : Nat
  maxTraversalDepth : Nat
deriving DecidableEq

/-- Deterministic context selection request. -/
structure ContextQuery where
  candidate : CandidateIdentity
  graphId : String
  asOf : Timestamp
  clearance : Sensitivity
  requiredNodeIds : List String
  seedNodeIds : List String
  identifiers : List String
  terms : List String
  allowedEdgeTypes : List EdgeType
  budget : ContextBudget
deriving DecidableEq

/-! ## The selection -/

/-- Selected node with auditable ranking and cost. -/
structure SelectionDecision where
  nodeId : String
  reasons : List String
  phase : Nat
  authorityRank : Nat
  graphDistance : Nat
  lexicalScore : Nat
  sensitivityRank : Nat
  costBytes : Nat
deriving DecidableEq

/-- Explicit exclusion of one graph node. -/
structure ExclusionDecision where
  nodeId : String
  reason : String
  details : List String
deriving DecidableEq

/-- Deterministic selected and excluded context identities. -/
structure ContextSelection where
  candidate : CandidateIdentity
  graphId : String
  queryId : String
  query : ContextQuery
  asOf : Timestamp
  sensitivity : Sensitivity
  selected : List SelectionDecision
  excluded : List ExclusionDecision
  selectedEdgeIds : List String
  unresolvedContradictionIds : List String
  edgeCostBytes : Nat
  usedBytes : Nat
  budgetBytes : Nat
  traversalTruncated : Bool
deriving DecidableEq

/-- A validated context artifact. -/
structure LoadedContextArtifact (α : Type) where
  artifactId : String
  value : α
deriving DecidableEq

end Sdaqf
