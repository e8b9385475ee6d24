import Sdaqf.HostProposals

/-!
# Compaction

The deterministic extractive compaction of a snapshot. The sources of the snapshot are observed
again, its nodes are taken in the order of their ranks, those that are required or contradicted
first, and each is extracted while the byte budget holds. The files may change between two
observations, so every observation of a run has a result of its own.
-/

namespace Sdaqf

open Guard
open JsonText (Value)

/-! ## Observations -/

/-- One stable bounded source observation. -/
structure ObservedContextSource where
  content : List Char
  selectedText : String

/-- What the verifier of the candidate and the reader of the sources report: the verifier at each of
its calls, the reader for each node and edge. -/
structure ContextBoundary where
  verifyCandidate : Nat → Except String Unit
  observe : ContextNode → Except String ObservedContextSource
  verifyReference : ContextNode → ArtifactReference → Except String Unit
  verifyEdgeReference : ContextEdge → ArtifactReference → Except String Unit

/-- The keys of an object are ASCII. -/
def hasAsciiKeys : Value → Bool
  | .object members => members.all fun m => m.1.toList.all fun c => c.toNat < 128
  | _ => true

/-- Require bounded strict JSON suitable for immutable Context evidence. -/
def validateContextJsonBytes (content : List Char) : Except String Unit := do
  require (byteLength content ≤ maxSourceBytes) "Immutable Context JSON exceeds the size limit."
  let decoded ← fromOption (JsonText.loads content)
    "Immutable Context evidence is not strict JSON."
  require (JsonText.Strict decoded) "Immutable Context JSON contains a duplicate key."
  require (∀ w ∈ JsonText.within 0 decoded, hasAsciiKeys w.1)
    "Immutable Context JSON contains a non-ASCII key."
  validateCanonicalValue decoded "Immutable Context JSON"

namespace ContextBoundary

variable (B : ContextBoundary)

/-- Observe the source of one node again. -/
def verifySource (asOf : Timestamp) (node : ContextNode) : Except String Unit := do
  let observation ← B.observe node
  if node.freshness = .immutable then validateContextJsonBytes observation.content
  require (observation.selectedText = node.text) "Snapshot text does not match its observed source."
  match node.freshness with
  | .expiresAt observedAt validUntil =>
    require (observedAt ≤ asOf ∧ asOf ≤ validUntil) "Snapshot contains stale source context."
  | .immutable | .candidateBound => .ok ()
  forEach (B.verifyReference node) node.provenance.references

/-- Observe the sources of a snapshot again. -/
def verifySnapshotSources (E : ContextEncoding) (s : ContextSnapshot) (ownerRoot : Bool) :
    Except String Unit := do
  let ownerNodes := s.nodes.filter (·.locator.rootScope = .owner)
  require (ownerNodes ≠ [] → ownerRoot)
    "Snapshot owner context requires an explicit owner root."
  require (ownerNodes = [] → ownerRoot = false) "Unused owner root is not permitted."
  relabel "Snapshot source authentication failed before compaction." do
    require (s.nodes.map (·.sourceId)).Nodup "Snapshot contains duplicate source identities."
    forEach (fun node : ContextNode => do
      node.validateContextAuthority
      let sourceId ← contextIdentity E "CTX-SOURCE-" (node.sourceContentDict E)
      require (node.sourceId = sourceId)
        "Snapshot node source identity does not match its metadata.") s.nodes
    B.verifyCandidate 0
    forEach (B.verifySource s.asOf) s.nodes
    forEach (fun edge : ContextEdge =>
      forEach (B.verifyEdgeReference edge) edge.provenance.references) s.edges
    B.verifyCandidate 1

end ContextBoundary

/-! ## Extraction -/

namespace ContextSnapshot

variable (s : ContextSnapshot)

/-- The ends of the contradictions of a snapshot. -/
def contradicted : Finset String :=
  ((s.edges.filter (·.edgeType = .contradicts)).flatMap fun edge =>
    [edge.sourceNodeId, edge.targetNodeId]).toFinset

/-- The nodes that may not be left out. -/
def mandatory : Finset String :=
  ((s.nodes.filter (·.required)).map (·.nodeId)).toFinset ∪ s.contradicted

/-- The contradictions of a node. -/
def contradictionIdsOf (nodeId : String) : List String :=
  Sorting.listed ((s.edges.filter fun edge => edge.edgeType = .contradicts ∧
    (edge.sourceNodeId = nodeId ∨ edge.targetNodeId = nodeId)).map (·.edgeId)).toFinset

/-- The place of a node in the order of extraction. -/
abbrev ExtractionKey := Nat ×ₗ Nat ×ₗ Nat ×ₗ Nat ×ₗ Int ×ₗ Nat ×ₗ String

def extractionKey (node : ContextNode) (decision : SelectionDecision) : ExtractionKey :=
  toLex (if node.nodeId ∈ s.mandatory then 0 else 1, toLex (decision.phase,
    toLex (decision.authorityRank, toLex (decision.graphDistance,
      toLex (-(decision.lexicalScore : Int), toLex (decision.sensitivityRank, decision.nodeId))))))

/-- The nodes in the order of extraction; a selected entry stands in the place of its node. -/
def ordered : List ContextNode :=
  ((s.nodes.zip s.selected).insertionSort fun a b =>
    s.extractionKey a.1 a.2 ≤ s.extractionKey b.1 b.2).map (·.1)

end ContextSnapshot

/-- What has been extracted so far. -/
structure Extraction where
  extracts : List ContextExtract := []
  omitted : List String := []
  used : Nat := 0

/-- Extract one node, or leave it out. -/
def Extraction.take (s : ContextSnapshot) (cost : Value → Nat) (x : Extraction)
    (node : ContextNode) : Except String Extraction :=
  let cost := cost (.text node.text)
  if s.budgetBytes < x.used + cost then
    if node.nodeId ∈ s.mandatory then .error "Required extracts exceed the compaction budget."
    else .ok { x with omitted := x.omitted ++ [node.nodeId] }
  else
    .ok {
      extracts := x.extracts ++ [{
        nodeId := node.nodeId
        sourceId := node.sourceId
        text := node.text
        textSha256 := node.textSha256
        authority := node.authority
        sensitivity := node.sensitivity
        required := node.required
        contradictionIds := s.contradictionIdsOf node.nodeId
        costBytes := cost }]
      omitted := x.omitted
      used := x.used + cost }

/-! ## The compactor -/

/-- The sensitivity of a compaction, and the proposal it names. -/
def readHostProposal (E : ContextEncoding) (snapshot : LoadedContextArtifact ContextSnapshot) :
    Option (LoadedContextArtifact HostSummaryProposal) → Except String (Option String × Sensitivity)
  | none => .ok (none, snapshot.value.sensitivity)
  | some proposal => do
    let (proposalId, sensitivity) ← adoptHostProposal E snapshot proposal
    return (some proposalId, sensitivity)

/-- The compaction of what was extracted. -/
def Extraction.compaction (x : Extraction) (snapshot : LoadedContextArtifact ContextSnapshot)
    (proposalId : Option String) (sensitivity : Sensitivity) : ContextCompaction where
  candidate := snapshot.value.candidate
  snapshotId := snapshot.artifactId
  sensitivity
  budgetBytes := snapshot.value.budgetBytes
  usedBytes := x.used
  extracts := x.extracts.insertionSort fun a b => a.nodeId ≤ b.nodeId
  omittedNodeIds := x.omitted.insertionSort (· ≤ ·)
  unresolvedContradictionIds := snapshot.value.unresolvedContradictionIds
  hostSummaryProposalId := proposalId

/-- Return one validated deterministic extractive compaction. -/
def compact (E : ContextEncoding) (B : ContextBoundary) (cost : Value → Nat)
    (snapshotArtifact : LoadedContextArtifact ContextSnapshot) (ownerRoot : Bool)
    (hostSummaryArtifact : Option (LoadedContextArtifact HostSummaryProposal)) :
    Except String (LoadedContextArtifact ContextCompaction) := do
  let snapshotArtifact ← relabel "Snapshot failed strict validation before compaction."
    ((snapshotKind E).strictlyValidate E snapshotArtifact)
  let snapshot := snapshotArtifact.value
  let (proposalId, sensitivity) ← readHostProposal E snapshotArtifact hostSummaryArtifact
  B.verifySnapshotSources E snapshot ownerRoot
  let extraction ← foldE (Extraction.take snapshot cost) {} snapshot.ordered
  require (extraction.extracts ≠ []) "Compaction cannot produce an empty context."
  let artifact ← (compactionKind E).artifactFromValue E
    (extraction.compaction snapshotArtifact proposalId sensitivity)
  (compactionKind E).strictlyValidate E artifact

end Sdaqf
