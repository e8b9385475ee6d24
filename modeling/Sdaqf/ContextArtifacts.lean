import Mathlib.Data.Prod.Lex
import Sdaqf.ContextDomain
import Sdaqf.JsonFiles
import Sdaqf.JsonSizes

/-!
# Context artifacts

Snapshots, compactions and host summary proposals, their dicts, and the checks that their parsers
make. An artifact is named by the digest of its content, written with two blanks for each level, and
read back under limits on its bytes and on the values inside it. A written artifact decodes to the
dict it was written from, so the checks of a parser are stated on the value of that dict. The writers
sort the members of an object by key; a dict here lists them in the order of the source, which
changes neither the length of a text nor what a digest tells apart.
-/

namespace Sdaqf

open Guard
open JsonText (Value)
open Payload (textArray)

/-! ## The values -/

/-- Exact portable context. -/
structure ContextSnapshot where
  candidate : CandidateIdentity
  graphId : String
  queryId : String
  selectionId : String
  asOf : Timestamp
  sensitivity : Sensitivity
  nodes : List ContextNode
  edges : List ContextEdge
  selected : List SelectionDecision
  excluded : List ExclusionDecision
  unresolvedContradictionIds : List String
  contextBytes : Nat
  budgetBytes : Nat
deriving DecidableEq

/-- Source-linked deterministic extract. -/
structure ContextExtract where
  nodeId : String
  sourceId : String
  text : String
  textSha256 : String
  authority : AuthorityClass
  sensitivity : Sensitivity
  required : Bool
  contradictionIds : List String
  costBytes : Nat
deriving DecidableEq

/-- Deterministic extractive compacted context. -/
structure ContextCompaction where
  candidate : CandidateIdentity
  snapshotId : String
  sensitivity : Sensitivity
  budgetBytes : Nat
  usedBytes : Nat
  extracts : List ContextExtract
  omittedNodeIds : List String
  unresolvedContradictionIds : List String
  hostSummaryProposalId : Option String
deriving DecidableEq

/-- One untrusted host claim with exact source links. -/
structure SourceLinkedClaim where
  claim : String
  sourceNodeIds : List String
  extractSha256s : List String
deriving DecidableEq

/-- Untrusted host-generated summary proposal. -/
structure HostSummaryProposal where
  snapshotId : String
  authority : AuthorityClass
  sensitivity : Sensitivity
  claims : List SourceLinkedClaim
deriving DecidableEq

/-! ## The texts of the vocabularies -/

def RootScope.value : RootScope → String
  | .repository => "repository"
  | .owner => "owner"

def SourceKind.value : SourceKind → String
  | .specification => "specification"
  | .requirement => "requirement"
  | .decision => "decision"
  | .design => "design"
  | .source => "source"
  | .test => "test"
  | .evidence => "evidence"
  | .finding => "finding"
  | .task => "task"
  | .handoff => "handoff"
  | .toolObservation => "tool-observation"
  | .solverArtifact => "solver-artifact"

def AuthorityClass.value : AuthorityClass → String
  | .ownerApproved => "owner-approved"
  | .canonicalSpecification => "canonical-specification"
  | .acceptedPublicContract => "accepted-public-contract"
  | .verifiedEvidence => "verified-evidence"
  | .repositoryRecord => "repository-record"
  | .untrustedObservation => "untrusted-observation"
  | .untrustedProposal => "untrusted-proposal"

def Sensitivity.value : Sensitivity → String
  | .isPublic => "public"
  | .repositoryPrivate => "repository-private"
  | .ownerPrivate => "owner-private"
  | .secretOrProhibited => "secret-or-prohibited"

/-! ## Dicts -/

/-- What tells texts and contents apart, and how an instant is spelled. -/
structure ContextEncoding where
  /-- The uppercase digest of a text in UTF-8. -/
  textSha256 : String → String
  /-- The uppercase digest of the canonical text of content. -/
  contentSha256 : Value → String
  spell : Timestamp → String
  isDigest_contentSha256 : ∀ content, isDigest (contentSha256 content).toList = true

def CandidateIdentity.toDict (c : CandidateIdentity) : Value := .object [
  ("source_spec_sha256", .text c.sourceSpecSha256),
  ("git_head", .text c.gitHead),
  ("repository_digest", .text c.repositoryDigest)]

def ContextProvenance.toDict (p : ContextProvenance) : Value := .object [
  ("producer", .text p.producer),
  ("recorded_by", .text p.recordedBy),
  ("references", .array (p.references.map ArtifactReference.toDict))]

def SourceLocator.toDict (l : SourceLocator) : Value := .object [
  ("root_scope", .text l.rootScope.value),
  ("path", .text l.path),
  ("sha256", .text l.sha256),
  ("line_start", .number l.lineStart),
  ("line_end", .number l.lineEnd)]

def SourceLinkedClaim.toDict (c : SourceLinkedClaim) : Value := .object [
  ("claim", .text c.claim),
  ("source_node_ids", textArray c.sourceNodeIds),
  ("extract_sha256s", textArray c.extractSha256s)]

def HostSummaryProposal.toDict (p : HostSummaryProposal) : Value := .object [
  ("snapshot_id", .text p.snapshotId),
  ("authority", .text p.authority.value),
  ("sensitivity", .text p.sensitivity.value),
  ("claims", .array (p.claims.map SourceLinkedClaim.toDict))]

def ContextExtract.toDict (e : ContextExtract) : Value := .object [
  ("node_id", .text e.nodeId),
  ("source_id", .text e.sourceId),
  ("text", .text e.text),
  ("text_sha256", .text e.textSha256),
  ("authority", .text e.authority.value),
  ("sensitivity", .text e.sensitivity.value),
  ("required", .boolean e.required),
  ("contradiction_ids", textArray e.contradictionIds),
  ("cost_bytes", .number e.costBytes)]

def ContextCompaction.toDict (c : ContextCompaction) : Value := .object [
  ("candidate", c.candidate.toDict),
  ("snapshot_id", .text c.snapshotId),
  ("sensitivity", .text c.sensitivity.value),
  ("budget_bytes", .number c.budgetBytes),
  ("used_bytes", .number c.usedBytes),
  ("extracts", .array (c.extracts.map ContextExtract.toDict)),
  ("omitted_node_ids", textArray c.omittedNodeIds),
  ("unresolved_contradiction_ids", textArray c.unresolvedContradictionIds),
  ("host_summary_proposal_id", c.hostSummaryProposalId.elim .null .text)]

def SelectionDecision.toDict (d : SelectionDecision) : Value := .object [
  ("node_id", .text d.nodeId),
  ("reasons", textArray d.reasons),
  ("rank", .object [
    ("phase", .number d.phase),
    ("authority_rank", .number d.authorityRank),
    ("graph_distance", .number d.graphDistance),
    ("lexical_score", .number d.lexicalScore),
    ("sensitivity_rank", .number d.sensitivityRank),
    ("node_id", .text d.nodeId)]),
  ("cost_bytes", .number d.costBytes)]

def ExclusionDecision.toDict (d : ExclusionDecision) : Value := .object [
  ("node_id", .text d.nodeId),
  ("reason", .text d.reason),
  ("details", textArray d.details)]

section Encoded

variable (E : ContextEncoding)

def Freshness.toDict : Freshness → Value
  | .immutable => .object [("kind", .text "immutable"), ("observed_at", .null), ("valid_until", .null)]
  | .candidateBound =>
    .object [("kind", .text "candidate-bound"), ("observed_at", .null), ("valid_until", .null)]
  | .expiresAt observedAt validUntil => .object [
    ("kind", .text "expires-at"),
    ("observed_at", .text (E.spell observedAt)),
    ("valid_until", .text (E.spell validUntil))]

/-- The canonical source metadata represented by a node. -/
def ContextNode.sourceContentDict (n : ContextNode) : Value := .object [
  ("kind", .text n.kind.value),
  ("title", .text n.title),
  ("locator", n.locator.toDict),
  ("provenance", n.provenance.toDict),
  ("authority", .text n.authority.value),
  ("freshness", n.freshness.toDict E),
  ("sensitivity", .text n.sensitivity.value),
  ("identifiers", textArray n.identifiers),
  ("labels", textArray n.labels),
  ("required", .boolean n.required)]

/-- The identity-bearing members of a node. -/
def ContextNode.contentMembers (n : ContextNode) : Payload.Members := [
  ("source_id", .text n.sourceId),
  ("kind", .text n.kind.value),
  ("title", .text n.title),
  ("text", .text n.text),
  ("text_sha256", .text n.textSha256),
  ("locator", n.locator.toDict),
  ("provenance", n.provenance.toDict),
  ("authority", .text n.authority.value),
  ("freshness", n.freshness.toDict E),
  ("sensitivity", .text n.sensitivity.value),
  ("identifiers", textArray n.identifiers),
  ("labels", textArray n.labels),
  ("required", .boolean n.required)]

def ContextNode.contentDict (n : ContextNode) : Value := .object (n.contentMembers E)

def ContextNode.toDict (n : ContextNode) : Value :=
  .object (("node_id", .text n.nodeId) :: n.contentMembers E)

/-- The identity-bearing members of an edge. -/
def ContextEdge.contentMembers (e : ContextEdge) : Payload.Members := [
  ("edge_type", .text e.edgeType.value),
  ("source_node_id", .text e.sourceNodeId),
  ("target_node_id", .text e.targetNodeId),
  ("provenance", e.provenance.toDict)]

def ContextEdge.contentDict (e : ContextEdge) : Value := .object e.contentMembers

def ContextEdge.toDict (e : ContextEdge) : Value :=
  .object (("edge_id", .text e.edgeId) :: e.contentMembers)

def ContextSnapshot.toDict (s : ContextSnapshot) : Value := .object [
  ("candidate", s.candidate.toDict),
  ("graph_id", .text s.graphId),
  ("query_id", .text s.queryId),
  ("selection_id", .text s.selectionId),
  ("as_of", .text (E.spell s.asOf)),
  ("sensitivity", .text s.sensitivity.value),
  ("nodes", .array (s.nodes.map (·.toDict E))),
  ("edges", .array (s.edges.map ContextEdge.toDict)),
  ("selected", .array (s.selected.map SelectionDecision.toDict)),
  ("excluded", .array (s.excluded.map ExclusionDecision.toDict)),
  ("unresolved_contradiction_ids", textArray s.unresolvedContradictionIds),
  ("context_bytes", .number s.contextBytes),
  ("budget_bytes", .number s.budgetBytes)]

end Encoded

/-! ## Identities and sizes -/

/-- Reject excessive depth and size. -/
def validateCanonicalValue (value : Value) (label : String) : Except String Unit :=
  require (JsonText.Shallow 64 value ∧ JsonText.count value ≤ 250000)
    (label ++ " exceeds the JSON structure limit.")

/-- The size of the canonical text of content. -/
def canonicalSize (content : Value) : Nat := (JsonText.dumps JsonText.compact 0 content).length

/-- A full content-addressed Context identity. -/
def contextIdentity (E : ContextEncoding) (mark : String) (content : Value) : Except String String := do
  validateCanonicalValue content "canonical content"
  return mark ++ E.contentSha256 content

/-- `CTX-`, capital letters and hyphens, a hyphen and a digest. -/
def isContextId (text : String) : Bool :=
  let body := text.toList.drop 4
  let digest := body.drop (body.length - 64)
  let middle := body.take (body.length - 64)
  "CTX-".toList.isPrefixOf text.toList && isDigest digest && middle.getLast? = some '-' &&
    2 ≤ middle.length && middle.all fun c => isUpper c || c = '-'

/-- A Context identity that starts with a mark. -/
def isContextIdOf (mark text : String) : Bool :=
  isContextId text && mark.toList.isPrefixOf text.toList

/-- Require a full uppercase Context identity with a mark. -/
def contextId (field mark text : String) : Except String Unit :=
  patternText field 128 (isContextIdOf mark) " must be a full Context identity." text

/-! ## Checks of the parsers -/

/-- The bounds on the text of a source. -/
def maxSourceBytes : Nat := 262144

def maxSourceCharacters : Nat := 65536

def maxGraphNodes : Nat := 4096

def maxGraphEdges : Nat := 16384

/-- Require text without secrets; the text of a source has its own limits. -/
def contextText (field : String) (maximum : Nat) (allowEmpty : Bool) (text : String) :
    Except String Unit := do
  require (allowEmpty ∨ Payload.Written text) (field ++ " must be text.")
  require (text.toList.length ≤ maximum) (field ++ " exceeds the text limit.")
  require (maximum = maxSourceBytes → text.toList.length ≤ maxSourceCharacters ∧
      byteLength text.toList ≤ maxSourceBytes) (field ++ " exceeds the source text limit.")
  require ('\x00' ∉ text.toList) (field ++ " contains unsupported text.")
  require (text.toList.tails.any startsSecret = false) (field ++ " contains secret-shaped content.")

/-- Require an ascending array without repetition. -/
def ascendingUnique {α : Type} [LE α] [DecidableLE α] [DecidableEq α] (field : String)
    (values : List α) : Except String Unit := do
  require (values.Pairwise (· ≤ ·)) (field ++ " must be ascending.")
  require values.Nodup (field ++ " must be unique.")

def sortedTextTuple (field : String) (minimum maximum : Nat) (texts : List String) :
    Except String Unit := do
  arrayValue field maximum texts
  forEachIndexed field (fun field text => contextText field 500 false text) texts
  require (minimum ≤ texts.length) (field ++ " has too few items.")
  ascendingUnique field texts

def sortedIdTuple (field mark : String) (maximum : Nat) (ids : List String) : Except String Unit := do
  arrayValue field maximum ids
  forEachIndexed field (fun field text => contextId field mark text) ids
  ascendingUnique field ids

def rejectProhibited (field : String) (sensitivity : Sensitivity) : Except String Unit :=
  require (sensitivity ≠ .secretOrProhibited)
    (field ++ " cannot adopt secret-or-prohibited data.")

/-- Require the highest sensitivity of the sources. -/
def requireDerivedSensitivity (field : String) (declared : Sensitivity) (sources : List Sensitivity) :
    Except String Unit :=
  require (sources ≠ [] → declared ∈ sources ∧ ∀ source ∈ sources, source.rank ≤ declared.rank)
    (field ++ " must equal highest source sensitivity.")

def SourceLocator.contract (field : String) (l : SourceLocator) : Except String Unit := do
  integerValue (field ++ ".line_start") 1 1000000 l.lineStart
  integerValue (field ++ ".line_end") 1 1000000 l.lineEnd
  require (l.lineStart ≤ l.lineEnd) (field ++ ".line_end precedes line_start.")
  safeRelativePath (field ++ ".path") l.path
  sha256Text (field ++ ".sha256") l.sha256

/-- The place of a reference in the order of references. -/
def referenceKey (reference : ArtifactReference) : String ×ₗ String :=
  toLex (reference.path, reference.sha256)

def ContextProvenance.contract (field : String) (p : ContextProvenance) : Except String Unit := do
  arrayValue (field ++ ".references") 64 p.references
  forEachIndexed (field ++ ".references") referenceContract p.references
  require (p.references ≠ []) (field ++ ".references must not be empty.")
  ascendingUnique (field ++ ".references") (p.references.map referenceKey)
  contextText (field ++ ".producer") 100 false p.producer
  contextText (field ++ ".recorded_by") 100 false p.recordedBy

def Freshness.contract (field : String) : Freshness → Except String Unit
  | .immutable | .candidateBound => .ok ()
  | .expiresAt observedAt validUntil =>
    require (observedAt ≤ validUntil) (field ++ " has an inverted validity window.")

/-- The node names its own source among its references. -/
def ContextNode.SelfReferences (n : ContextNode) : Prop :=
  ∃ reference ∈ n.provenance.references,
    reference.path = n.locator.path ∧ reference.sha256 = n.locator.sha256

instance {n : ContextNode} : Decidable n.SelfReferences :=
  inferInstanceAs (Decidable (∃ reference ∈ n.provenance.references, _))

/-- The authority classes that need exact self provenance. -/
def AuthorityClass.IsAuthoritative (a : AuthorityClass) : Prop :=
  a = .ownerApproved ∨ a = .canonicalSpecification ∨ a = .acceptedPublicContract ∨
    a = .verifiedEvidence

instance {a : AuthorityClass} : Decidable a.IsAuthoritative :=
  inferInstanceAs (Decidable (_ ∨ _))

/-- A path of a JSON file. -/
def isJsonPath (path : String) : Bool :=
  ".json".toList.isSuffixOf (path.toList.map Char.toLower)

def ContextNode.validateImmutableContext (field : String) (n : ContextNode) : Except String Unit :=
  require (n.freshness = .immutable →
      isJsonPath n.locator.path ∧ n.authority.IsAuthoritative ∧ n.SelfReferences)
    (field ++ ".freshness immutable requires verified self-linked JSON.")

/-- Require authority metadata to match its structural trust boundary. -/
def ContextNode.validateContextAuthority (n : ContextNode) : Except String Unit := do
  require (n.authority.IsAuthoritative → n.SelfReferences)
    "Authoritative Context source lacks exact self provenance."
  require (n.authority = .ownerApproved → n.locator.rootScope = .owner ∧
      (n.kind = .requirement ∨ n.kind = .decision ∨ n.kind = .design ∨ n.kind = .handoff) ∧
      n.provenance.producer = "Owner" ∧ n.provenance.recordedBy = "Owner")
    "Owner-approved Context authority is invalid."
  require (n.authority = .canonicalSpecification →
      n.locator.rootScope = .repository ∧ n.kind = .specification)
    "Canonical specification authority is invalid."
  require (n.authority = .acceptedPublicContract → n.locator.rootScope = .repository ∧
      (n.kind = .requirement ∨ n.kind = .decision ∨ n.kind = .design))
    "Accepted public contract authority is invalid."
  require (n.authority = .verifiedEvidence →
      n.locator.rootScope = .repository ∧ n.kind = .evidence)
    "Verified evidence authority is invalid."
  require (n.kind = .toolObservation → n.authority = .untrustedObservation)
    "Tool observation authority must be untrusted."
  n.validateImmutableContext "Context source"

/-- The text of a node or an extract and its digest. -/
def textContract (E : ContextEncoding) (field text textSha256 : String) : Except String Unit := do
  contextText (field ++ ".text") maxSourceBytes true text
  sha256Text (field ++ ".text_sha256") textSha256
  require (E.textSha256 text = textSha256) (field ++ ".text_sha256 does not match text.")

def ContextNode.contract (E : ContextEncoding) (field : String) (n : ContextNode) :
    Except String Unit := do
  rejectProhibited (field ++ ".sensitivity") n.sensitivity
  textContract E field n.text n.textSha256
  contextId (field ++ ".node_id") "CTX-NODE-" n.nodeId
  contextId (field ++ ".source_id") "CTX-SOURCE-" n.sourceId
  contextText (field ++ ".title") 500 false n.title
  n.locator.contract (field ++ ".locator")
  n.provenance.contract (field ++ ".provenance")
  n.freshness.contract (field ++ ".freshness")
  sortedTextTuple (field ++ ".identifiers") 0 128 n.identifiers
  sortedTextTuple (field ++ ".labels") 0 64 n.labels
  let nodeId ← contextIdentity E "CTX-NODE-" (n.contentDict E)
  require (n.nodeId = nodeId) (field ++ ".node_id does not match content.")
  let sourceId ← contextIdentity E "CTX-SOURCE-" (n.sourceContentDict E)
  require (n.sourceId = sourceId) (field ++ ".source_id does not match content.")
  n.validateImmutableContext field

/-- The checks of an edge's own record, its ends being checked against the nodes. -/
def ContextEdge.recordContract (E : ContextEncoding) (field : String) (nodeIds : List String)
    (e : ContextEdge) : Except String Unit := do
  contextId (field ++ ".source_node_id") "CTX-NODE-" e.sourceNodeId
  contextId (field ++ ".target_node_id") "CTX-NODE-" e.targetNodeId
  e.contract field nodeIds
  contextId (field ++ ".edge_id") "CTX-EDGE-" e.edgeId
  e.provenance.contract (field ++ ".provenance")
  let edgeId ← contextIdentity E "CTX-EDGE-" e.contentDict
  require (e.edgeId = edgeId) (field ++ ".edge_id does not match content.")

def SelectionDecision.contract (field : String) (d : SelectionDecision) : Except String Unit := do
  contextId (field ++ ".node_id") "CTX-NODE-" d.nodeId
  sortedTextTuple (field ++ ".reasons") 1 16 d.reasons
  integerValue (field ++ ".rank.phase") 0 3 d.phase
  integerValue (field ++ ".rank.authority_rank") 0 6 d.authorityRank
  integerValue (field ++ ".rank.graph_distance") 0 8 d.graphDistance
  integerValue (field ++ ".rank.lexical_score") 0 1000000 d.lexicalScore
  integerValue (field ++ ".rank.sensitivity_rank") 0 3 d.sensitivityRank
  integerValue (field ++ ".cost_bytes") 1 8388608 d.costBytes

def ExclusionDecision.contract (field : String) (d : ExclusionDecision) : Except String Unit := do
  contextId (field ++ ".node_id") "CTX-NODE-" d.nodeId
  contextText (field ++ ".reason") 100 false d.reason
  sortedTextTuple (field ++ ".details") 0 16 d.details

/-! ## Contracts -/

/-- One required candidate-bound canonical specification. -/
def HasCanonicalSpecification (candidate : CandidateIdentity) (nodes : List ContextNode) : Prop :=
  ∃ n, nodes.filter (·.authority = .canonicalSpecification) = [n] ∧ n.required = true ∧
    n.kind = .specification ∧ n.locator.rootScope = .repository ∧
    n.locator.sha256 = candidate.sourceSpecSha256

instance {candidate : CandidateIdentity} {nodes : List ContextNode} :
    Decidable (HasCanonicalSpecification candidate nodes) :=
  match h : nodes.filter (·.authority = .canonicalSpecification) with
  | [n] => decidable_of_iff (n.required = true ∧ n.kind = .specification ∧
      n.locator.rootScope = .repository ∧ n.locator.sha256 = candidate.sourceSpecSha256)
      ⟨fun hn => ⟨n, h, hn⟩, fun hn => by
        obtain ⟨m, hm, hn⟩ := hn
        rw [h, List.singleton_inj] at hm
        exact hm ▸ hn⟩
  | [] => .isFalse fun hn => by
    obtain ⟨m, hm, -⟩ := hn
    rw [h] at hm
    cases hm
  | _ :: _ :: _ => .isFalse fun hn => by
    obtain ⟨m, hm, -⟩ := hn
    rw [h] at hm
    cases hm

namespace ContextSnapshot

variable (E : ContextEncoding) (s : ContextSnapshot)

/-- The checks of a snapshot's nodes. -/
def nodesContract : Except String Unit := do
  arrayValue "content.nodes" maxGraphNodes s.nodes
  forEachIndexed "content.nodes" (fun field node => node.contract E field) s.nodes
  require (s.nodes ≠ []) "Snapshot nodes must not be empty."
  ascendingUnique "content.nodes" (s.nodes.map (·.nodeId))
  require (s.nodes.map (·.sourceId)).Nodup "content.nodes contains a duplicate source."
  forEach (fun node => node.validateContextAuthority) s.nodes
  candidateIdentity "content.candidate" s.candidate
  require (HasCanonicalSpecification s.candidate s.nodes)
    "Snapshot must contain one required candidate-bound canonical specification."

/-- The checks of a snapshot's edges. -/
def edgesContract : Except String Unit := do
  arrayValue "content.edges" maxGraphEdges s.edges
  forEachIndexed "content.edges"
    (fun field edge => edge.recordContract E field (s.nodes.map (·.nodeId))) s.edges
  ascendingUnique "content.edges" (s.edges.map (·.edgeId))

/-- The checks of a snapshot's decisions against its nodes. -/
def decisionsContract : Except String Unit := do
  arrayValue "content.selected" maxGraphNodes s.selected
  forEachIndexed "content.selected" (fun field decision => decision.contract field) s.selected
  require (s.selected.map (·.nodeId) = s.nodes.map (·.nodeId))
    "Snapshot selected entries must match ordered nodes."
  forEach (fun pair : ContextNode × SelectionDecision => do
    require (pair.2.costBytes = canonicalSize (pair.1.contentDict E))
      "Snapshot selected cost does not match canonical node content."
    require (pair.2.authorityRank = pair.1.authority.rank ∧
        pair.2.sensitivityRank = pair.1.sensitivity.rank)
      "Snapshot selected rank does not match node authority or sensitivity.")
    (s.nodes.zip s.selected)
  arrayValue "content.excluded" maxGraphNodes s.excluded
  forEachIndexed "content.excluded" (fun field decision => decision.contract field) s.excluded
  ascendingUnique "content.excluded" (s.excluded.map (·.nodeId))
  require (∀ decision ∈ s.excluded, decision.nodeId ∉ s.nodes.map (·.nodeId))
    "Snapshot nodes and exclusions must be disjoint."

/-- The size of the canonical texts of the nodes and edges. -/
def contentBytes : Nat :=
  (s.nodes.map fun node => canonicalSize (node.contentDict E)).sum +
    (s.edges.map fun edge => canonicalSize edge.contentDict).sum

/-- The edges that are contradictions, by identity. -/
def contradictionIds : List String :=
  (s.edges.filter (·.edgeType = .contradicts)).map (·.edgeId)

/-- The checks of a snapshot's accounts. -/
def accountsContract : Except String Unit := do
  rejectProhibited "content.sensitivity" s.sensitivity
  requireDerivedSensitivity "content.sensitivity" s.sensitivity (s.nodes.map (·.sensitivity))
  integerValue "content.context_bytes" 0 8388608 s.contextBytes
  integerValue "content.budget_bytes" 1024 8388608 s.budgetBytes
  require (s.contextBytes ≤ s.budgetBytes) "content.context_bytes exceeds its budget."
  require (s.contextBytes = s.contentBytes E)
    "content.context_bytes does not match selected costs."
  sortedIdTuple "content.unresolved_contradiction_ids" "CTX-EDGE-" maxGraphEdges
    s.unresolvedContradictionIds
  require (s.unresolvedContradictionIds = s.contradictionIds)
    "Snapshot unresolved contradictions must match contradiction edges."

/-- The checks of the parser of snapshots. -/
def contract : Except String Unit := do
  s.nodesContract E
  s.edgesContract E
  s.decisionsContract E
  s.accountsContract E
  contextId "content.graph_id" "CTX-GRAPH-" s.graphId
  contextId "content.query_id" "CTX-QUERY-" s.queryId
  contextId "content.selection_id" "CTX-SELECTION-" s.selectionId

end ContextSnapshot

def ContextExtract.contract (E : ContextEncoding) (field : String) (e : ContextExtract) :
    Except String Unit := do
  textContract E field e.text e.textSha256
  integerValue (field ++ ".cost_bytes") 1 8388608 e.costBytes
  require (e.costBytes = canonicalSize (.text e.text)) (field ++ ".cost_bytes does not match text.")
  rejectProhibited (field ++ ".sensitivity") e.sensitivity
  contextId (field ++ ".node_id") "CTX-NODE-" e.nodeId
  contextId (field ++ ".source_id") "CTX-SOURCE-" e.sourceId
  sortedIdTuple (field ++ ".contradiction_ids") "CTX-EDGE-" maxGraphEdges e.contradictionIds

namespace ContextCompaction

variable (c : ContextCompaction)

/-- The contradiction markers of the extracts, with repetition. -/
def markers : List String := c.extracts.flatMap (·.contradictionIds)

/-- The checks of the parser of compactions. -/
def contract (E : ContextEncoding) : Except String Unit := do
  arrayValue "content.extracts" maxGraphNodes c.extracts
  forEachIndexed "content.extracts" (fun field extract => extract.contract E field) c.extracts
  require (c.extracts ≠ []) "content.extracts must not be empty."
  require (∃ extract ∈ c.extracts, extract.required = true)
    "content.extracts must preserve required context."
  ascendingUnique "content.extracts" (c.extracts.map (·.nodeId))
  sortedIdTuple "content.unresolved_contradiction_ids" "CTX-EDGE-" maxGraphEdges
    c.unresolvedContradictionIds
  require (Sorting.listed c.markers.toFinset = c.unresolvedContradictionIds ∧
      ∀ marker ∈ c.markers, c.markers.count marker = 2)
    "Compaction contradiction markers are inconsistent."
  integerValue "content.used_bytes" 0 8388608 c.usedBytes
  integerValue "content.budget_bytes" 1024 8388608 c.budgetBytes
  require (c.usedBytes ≤ c.budgetBytes ∧ c.usedBytes = (c.extracts.map (·.costBytes)).sum)
    "Compaction byte use is inconsistent."
  forEach (contextId "content.host_summary_proposal_id" "CTX-HOST-SUMMARY-PROPOSAL-")
    c.hostSummaryProposalId.toList
  rejectProhibited "content.sensitivity" c.sensitivity
  require (∀ extract ∈ c.extracts, extract.sensitivity.rank ≤ c.sensitivity.rank)
    "Compaction sensitivity understates an extract."
  sortedIdTuple "content.omitted_node_ids" "CTX-NODE-" maxGraphNodes c.omittedNodeIds
  require (∀ extract ∈ c.extracts, extract.nodeId ∉ c.omittedNodeIds)
    "Compaction extracts and omissions overlap."
  candidateIdentity "content.candidate" c.candidate
  contextId "content.snapshot_id" "CTX-SNAPSHOT-" c.snapshotId

end ContextCompaction

def SourceLinkedClaim.contract (field : String) (c : SourceLinkedClaim) : Except String Unit := do
  sortedIdTuple (field ++ ".source_node_ids") "CTX-NODE-" maxGraphNodes c.sourceNodeIds
  arrayValue (field ++ ".extract_sha256s") 64 c.extractSha256s
  forEachIndexed (field ++ ".extract_sha256s") sha256Text c.extractSha256s
  ascendingUnique (field ++ ".extract_sha256s") c.extractSha256s
  require (c.sourceNodeIds ≠ [] ∧ c.extractSha256s ≠ [] ∧
      c.sourceNodeIds.length = c.extractSha256s.length)
    (field ++ " must link every claim to exact extracts.")
  contextText (field ++ ".claim") 4000 false c.claim

/-- The checks of the parser of host summary proposals. -/
def HostSummaryProposal.contract (p : HostSummaryProposal) : Except String Unit := do
  require (p.authority = .untrustedProposal) "Host summary authority must be untrusted-proposal."
  rejectProhibited "content.sensitivity" p.sensitivity
  arrayValue "content.claims" 256 p.claims
  forEachIndexed "content.claims" (fun field claim => claim.contract field) p.claims
  require (p.claims ≠ []) "content.claims must not be empty."
  contextId "content.snapshot_id" "CTX-SNAPSHOT-" p.snapshotId

/-! ## Envelopes -/

/-- What distinguishes the artifacts of one type. -/
structure ContextArtifactKind (α : Type) where
  artifactType : String
  mark : String
  maximumBytes : Nat
  toDict : α → Value
  contract : α → Except String Unit

def largeArtifactBytes : Nat := 16777216

def snapshotKind (E : ContextEncoding) : ContextArtifactKind ContextSnapshot where
  artifactType := "context-snapshot"
  mark := "CTX-SNAPSHOT-"
  maximumBytes := largeArtifactBytes
  toDict := ContextSnapshot.toDict E
  contract := ContextSnapshot.contract E

def compactionKind (E : ContextEncoding) : ContextArtifactKind ContextCompaction where
  artifactType := "context-compaction"
  mark := "CTX-COMPACTION-"
  maximumBytes := largeArtifactBytes
  toDict := ContextCompaction.toDict
  contract c := c.contract E

def hostSummaryKind : ContextArtifactKind HostSummaryProposal where
  artifactType := "context-host-summary-proposal"
  mark := "CTX-HOST-SUMMARY-PROPOSAL-"
  maximumBytes := 1048576
  toDict := HostSummaryProposal.toDict
  contract := HostSummaryProposal.contract

namespace ContextArtifactKind

variable {α : Type} (K : ContextArtifactKind α) (E : ContextEncoding)

/-- Create a validated identity envelope from a typed value. -/
def artifactFromValue (value : α) : Except String (LoadedContextArtifact α) := do
  let artifactId ← contextIdentity E K.mark (K.toDict value)
  return { artifactId, value }

/-- The exact public JSON envelope. -/
def envelope (artifact : LoadedContextArtifact α) : Value := .object [
  ("schema_version", .text "1.0"),
  ("artifact_type", .text K.artifactType),
  ("artifact_id", .text artifact.artifactId),
  ("content", K.toDict artifact.value)]

/-- Serialize one artifact as deterministic pretty public JSON. -/
def serializeContextArtifact (artifact : LoadedContextArtifact α) : Except String (List Char) := do
  let expected ← contextIdentity E K.mark (K.toDict artifact.value)
  require (artifact.artifactId = expected) "Context artifact identity does not match content."
  return printed (K.envelope artifact)

/-- Parse the bytes that an artifact was serialized to. -/
def parseContextArtifactBytes (content : List Char) (artifact : LoadedContextArtifact α) :
    Except String (LoadedContextArtifact α) := do
  require (content.length ≤ largeArtifactBytes) "Context artifact exceeds the size limit."
  validateCanonicalValue (K.envelope artifact) "Context artifact"
  require (content.length ≤ K.maximumBytes) "Context artifact exceeds its type size limit."
  K.contract artifact.value
  contextId "artifact_id" K.mark artifact.artifactId
  let expected ← contextIdentity E K.mark (K.toDict artifact.value)
  require (artifact.artifactId = expected) "Context artifact identity does not match content."
  return artifact

/-- Purely revalidate one in-memory envelope and all value invariants. -/
def strictlyValidate (artifact : LoadedContextArtifact α) :
    Except String (LoadedContextArtifact α) := do
  let content ← K.serializeContextArtifact E artifact
  K.parseContextArtifactBytes E content artifact

/-- What an artifact that passes its strict validation satisfies. -/
structure Valid (artifact : LoadedContextArtifact α) : Prop where
  identity : artifact.artifactId = K.mark ++ E.contentSha256 (K.toDict artifact.value)
  named : contextId "artifact_id" K.mark artifact.artifactId = .ok ()
  contract : K.contract artifact.value = .ok ()
  bytes : (printed (K.envelope artifact)).length ≤ largeArtifactBytes
  typeBytes : (printed (K.envelope artifact)).length ≤ K.maximumBytes
  content : validateCanonicalValue (K.toDict artifact.value) "canonical content" = .ok ()
  canonical : validateCanonicalValue (K.envelope artifact) "Context artifact" = .ok ()

variable {K E} {artifact result : LoadedContextArtifact α}

theorem strictlyValidate_eq_ok :
    K.strictlyValidate E artifact = .ok result ↔ K.Valid E artifact ∧ artifact = result := by
  simp only [strictlyValidate, serializeContextArtifact, parseContextArtifactBytes,
    contextIdentity, bind_eq_ok, pure_eq_ok, require_eq_ok, exists_unit]
  constructor
  · rintro ⟨_, ⟨_, ⟨hcontent, rfl⟩, hidentity, rfl⟩, hbytes, hcanonical, htype, hcontract, hnamed, -,
      -, -, rfl⟩
    exact ⟨⟨hidentity, hnamed, hcontract, hbytes, htype, hcontent, hcanonical⟩, rfl⟩
  · rintro ⟨h, rfl⟩
    exact ⟨_, ⟨_, ⟨h.content, rfl⟩, h.identity, rfl⟩, h.bytes, h.canonical, h.typeBytes, h.contract,
      h.named, _, ⟨h.content, rfl⟩, h.identity, rfl⟩

end ContextArtifactKind

end Sdaqf
