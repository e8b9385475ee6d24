import Mathlib.Algebra.Group.Action.Defs
import Mathlib.Algebra.Order.BigOperators.Group.List
import Sdaqf.ContextAccounting
import Sdaqf.ContextLaws

/-!
# Host summary proposals

A host may propose a summary of a snapshot. Its claims cite nodes of the snapshot, with the digests of
their texts in ascending order. The validation expects one digest for each cited node, but the parser
of a claim takes no digest twice. So a truthful proposal is accepted exactly if no claim cites two
nodes of one text, and whatever is accepted cites only nodes and digests of the snapshot.
-/

namespace Sdaqf

open Guard

/-- The nodes of a snapshot by identity. -/
def ContextSnapshot.nodeTable (s : ContextSnapshot) : Table ContextNode :=
  Table.ofRows (·.nodeId) s.nodes

/-- Check the citations of one claim against the nodes. -/
def validateCitations (nodes : Table ContextNode) (claim : SourceLinkedClaim) :
    Except String Unit := do
  require (∀ nodeId ∈ claim.sourceNodeIds, nodeId ∈ nodes)
    "Host proposal references a missing snapshot node."
  let expected := (claim.sourceNodeIds.filterMap fun nodeId =>
    nodes[nodeId]?.map (·.textSha256)).insertionSort (· ≤ ·)
  require (claim.extractSha256s = expected)
    "Host proposal extract digests do not match its source nodes."

/-- Check a proposal against the snapshot it is about, and return its identity. -/
def validateHostProposal (snapshotArtifact : LoadedContextArtifact ContextSnapshot)
    (proposalArtifact : LoadedContextArtifact HostSummaryProposal) : Except String String := do
  let snapshot := snapshotArtifact.value
  let proposal := proposalArtifact.value
  require (proposal.snapshotId = snapshotArtifact.artifactId)
    "Host proposal snapshot identity does not match."
  require (snapshot.sensitivity.rank ≤ proposal.sensitivity.rank)
    "Host proposal cannot downgrade snapshot sensitivity."
  forEach (validateCitations snapshot.nodeTable) proposal.claims
  return proposalArtifact.artifactId

/-- Replace the error of a step. -/
def relabel {α : Type} (message : String) (x : Except String α) : Except String α :=
  x.mapError fun _ => message

@[simp] theorem relabel_eq_ok {α : Type} {message : String} {x : Except String α} {a : α} :
    relabel message x = .ok a ↔ x = .ok a := by
  cases x <;> simp [relabel, Except.mapError]

/-- Adopt a host proposal about a snapshot: its identity and the sensitivity with it. -/
def adoptHostProposal (E : ContextEncoding) (snapshotArtifact : LoadedContextArtifact ContextSnapshot)
    (proposalArtifact : LoadedContextArtifact HostSummaryProposal) :
    Except String (String × Sensitivity) := do
  let proposalArtifact ← relabel "Host summary proposal failed strict validation before compaction."
    (hostSummaryKind.strictlyValidate E proposalArtifact)
  let proposalId ← validateHostProposal snapshotArtifact proposalArtifact
  let snapshot := snapshotArtifact.value
  let proposal := proposalArtifact.value
  return (proposalId, if snapshot.sensitivity.rank < proposal.sensitivity.rank
    then proposal.sensitivity else snapshot.sensitivity)

/-! ## Truthful proposals -/

/-- A claim that cites between one and 64 nodes of a snapshot, in the order of their identities, with
the digests of just these nodes in their order. -/
structure SourceLinkedClaim.Truthful (claim : SourceLinkedClaim) (snapshot : ContextSnapshot)
    (cited : List ContextNode) : Prop where
  subset : ∀ node ∈ cited, node ∈ snapshot.nodes
  ids : claim.sourceNodeIds = cited.map (·.nodeId)
  digests : claim.extractSha256s = (cited.map (·.textSha256)).insertionSort (· ≤ ·)
  nonempty : cited ≠ []
  few : cited.length ≤ 64
  ordered : (cited.map (·.nodeId)).Pairwise (· < ·)
  worded : LawfulText 4000 false claim.claim

/-- A proposal in its proper form about a snapshot, all of whose claims are truthful. -/
structure HostSummaryProposal.Truthful (E : ContextEncoding)
    (snapshot : LoadedContextArtifact ContextSnapshot)
    (proposal : LoadedContextArtifact HostSummaryProposal)
    (cited : SourceLinkedClaim → List ContextNode) : Prop where
  identity : proposal.artifactId =
    hostSummaryKind.mark ++ E.contentSha256 (hostSummaryKind.toDict proposal.value)
  bytes : (printed (hostSummaryKind.envelope proposal)).length ≤ hostSummaryKind.maximumBytes
  snapshotId : proposal.value.snapshotId = snapshot.artifactId
  authority : proposal.value.authority = .untrustedProposal
  adoptable : proposal.value.sensitivity ≠ .secretOrProhibited
  sensitivity : snapshot.value.sensitivity.rank ≤ proposal.value.sensitivity.rank
  nonempty : proposal.value.claims ≠ []
  few : proposal.value.claims.length ≤ 256
  claims : ∀ claim ∈ proposal.value.claims, claim.Truthful snapshot.value (cited claim)

variable {E : ContextEncoding} {snapshot : LoadedContextArtifact ContextSnapshot}
  {proposal : LoadedContextArtifact HostSummaryProposal} {claim : SourceLinkedClaim}
  {cited : List ContextNode} {nodes : Table ContextNode}

theorem validateCitations_eq_ok : validateCitations nodes claim = .ok () ↔
    (∀ nodeId ∈ claim.sourceNodeIds, nodeId ∈ nodes) ∧
      claim.extractSha256s = (claim.sourceNodeIds.filterMap fun nodeId =>
        nodes[nodeId]?.map (·.textSha256)).insertionSort (· ≤ ·) := by
  simp only [validateCitations, bind_eq_ok, exists_unit, require_eq_ok]

theorem adoptHostProposal_eq_ok {result : String × Sensitivity} :
    adoptHostProposal E snapshot proposal = .ok result ↔
      hostSummaryKind.Valid E proposal ∧ proposal.value.snapshotId = snapshot.artifactId ∧
      snapshot.value.sensitivity.rank ≤ proposal.value.sensitivity.rank ∧
      (∀ claim ∈ proposal.value.claims,
        validateCitations snapshot.value.nodeTable claim = .ok ()) ∧
      (proposal.artifactId, if snapshot.value.sensitivity.rank < proposal.value.sensitivity.rank
        then proposal.value.sensitivity else snapshot.value.sensitivity) = result := by
  simp only [adoptHostProposal, validateHostProposal, bind_eq_ok, pure_eq_ok, relabel_eq_ok,
    ContextArtifactKind.strictlyValidate_eq_ok, require_eq_ok, exists_unit, forEach_eq_ok]
  constructor
  · rintro ⟨_, ⟨hvalid, rfl⟩, _, ⟨hid, hrank, hclaims, rfl⟩, rfl⟩
    exact ⟨hvalid, hid, hrank, hclaims, rfl⟩
  · rintro ⟨hvalid, hid, hrank, hclaims, rfl⟩
    exact ⟨_, ⟨hvalid, rfl⟩, _, ⟨hid, hrank, hclaims, rfl⟩, rfl⟩

/-- The validation finds the citations of a truthful claim. -/
theorem SourceLinkedClaim.Truthful.citations (h : claim.Truthful snapshot.value cited)
    (hids : (snapshot.value.nodes.map (·.nodeId)).Nodup) :
    validateCitations snapshot.value.nodeTable claim = .ok () := by
  have hfound (node : ContextNode) (hnode : node ∈ cited) :
      snapshot.value.nodeTable[node.nodeId]? = some node :=
    (Table.getElem?_ofRows hids).mpr ⟨h.subset node hnode, rfl⟩
  refine validateCitations_eq_ok.mpr ⟨?_, ?_⟩
  · rw [h.ids, List.forall_mem_map]
    intro node hnode
    rw [Std.ExtTreeMap.mem_iff_isSome_getElem?, hfound node hnode]
    rfl
  · rw [h.digests, h.ids, List.filterMap_map]
    refine congrArg _ ?_
    rw [← List.filterMap_eq_map]
    refine List.filterMap_congr fun node hnode => ?_
    simp [hfound node hnode]

/-- The parser takes a truthful claim exactly if the digests it cites are distinct. -/
theorem SourceLinkedClaim.Truthful.lawful_iff (h : claim.Truthful snapshot.value cited)
    (hnodes : ∀ node ∈ snapshot.value.nodes,
      IsContextId "CTX-NODE-" node.nodeId ∧ isDigest node.textSha256.toList = true) :
    LawfulClaim claim ↔ (cited.map (·.textSha256)).Nodup := by
  have hperm : claim.extractSha256s.Perm (cited.map (·.textSha256)) := by
    rw [h.digests]
    exact List.perm_insertionSort _ _
  constructor
  · intro hlawful
    exact hperm.nodup_iff.mp (hlawful.distinct.imp ne_of_lt)
  · intro hnodup
    have hlength : claim.sourceNodeIds.length = claim.extractSha256s.length := by
      rw [hperm.length_eq, h.ids, List.length_map, List.length_map]
    have hfew : claim.sourceNodeIds.length ≤ 64 := by
      rw [h.ids, List.length_map]
      exact h.few
    have hsome : claim.sourceNodeIds ≠ [] := by
      rw [h.ids]
      exact mt List.map_eq_nil_iff.mp h.nonempty
    refine ⟨hfew.trans (by decide), ?_, h.ids ▸ h.ordered, hlength ▸ hfew, ?_, ?_,
      ⟨hsome, ?_, hlength⟩, h.worded⟩
    · rw [h.ids, List.forall_mem_map]
      exact fun node hnode => (hnodes node (h.subset node hnode)).1
    · intro digest hdigest
      obtain ⟨node, hnode, rfl⟩ := List.mem_map.mp (hperm.mem_iff.mp hdigest)
      exact (hnodes node (h.subset node hnode)).2
    · rw [h.digests]
      exact Sorting.pairwise_lt_insertionSort hnodup
    · exact fun hnone => hsome (List.eq_nil_of_length_eq_zero (by rw [hlength, hnone]; rfl))

/-- How many values stand inside a truthful claim. -/
theorem SourceLinkedClaim.Truthful.count_le (h : claim.Truthful snapshot.value cited) :
    JsonText.count claim.toDict ≤ 132 := by
  have hids : claim.sourceNodeIds.length ≤ 64 := by
    rw [h.ids, List.length_map]
    exact h.few
  have hdigests : claim.extractSha256s.length ≤ 64 := by
    rw [h.digests, List.length_insertionSort, List.length_map]
    exact h.few
  simp only [SourceLinkedClaim.toDict, JsonText.count_object, JsonText.count_text,
    count_textArray, List.map_cons, List.map_nil, List.sum_cons, List.sum_nil]
  omega

theorem shallow_claim {n : Nat} (hn : 2 ≤ n) : JsonText.Shallow n claim.toDict := by
  rw [SourceLinkedClaim.toDict, JsonText.shallow_object_iff (by omega)]
  simp only [List.forall_mem_cons, List.not_mem_nil, false_implies, implies_true, and_true]
  exact ⟨JsonText.shallow_text, shallow_textArray (by omega), shallow_textArray (by omega)⟩

theorem shallow_proposal {p : HostSummaryProposal} {n : Nat} (hn : 4 ≤ n) :
    JsonText.Shallow n p.toDict := by
  rw [HostSummaryProposal.toDict, JsonText.shallow_object_iff (by omega)]
  simp only [List.forall_mem_cons, List.not_mem_nil, false_implies, implies_true, and_true]
  refine ⟨JsonText.shallow_text, JsonText.shallow_text, JsonText.shallow_text, ?_⟩
  rw [JsonText.shallow_array_iff (by omega), List.forall_mem_map]
  exact fun claim _ => shallow_claim (by omega)

/-- A truthful proposal keeps the limits on the values inside it. -/
theorem HostSummaryProposal.Truthful.canonical {cited : SourceLinkedClaim → List ContextNode}
    (h : HostSummaryProposal.Truthful E snapshot proposal cited) :
    JsonText.Shallow 64 (hostSummaryKind.envelope proposal) ∧
      JsonText.count (hostSummaryKind.envelope proposal) ≤ 250000 ∧
      JsonText.Shallow 64 proposal.value.toDict ∧
      JsonText.count proposal.value.toDict ≤ 250000 := by
  have hclaims : ((proposal.value.claims.map SourceLinkedClaim.toDict).map JsonText.count).sum ≤
      256 * 132 := by
    have hsum := List.sum_le_card_nsmul
      ((proposal.value.claims.map SourceLinkedClaim.toDict).map JsonText.count) 132 (by
        simp only [List.forall_mem_map]
        exact fun claim hclaim => (h.claims claim hclaim).count_le)
    rw [List.length_map, List.length_map, smul_eq_mul] at hsum
    exact hsum.trans (Nat.mul_le_mul_right _ h.few)
  have hcount : JsonText.count proposal.value.toDict ≤ 33797 := by
    simp only [HostSummaryProposal.toDict, JsonText.count_object, JsonText.count_text,
      JsonText.count_array, List.map_cons, List.map_nil, List.sum_cons, List.sum_nil]
    omega
  refine ⟨?_, ?_, shallow_proposal (by omega), by omega⟩
  · rw [ContextArtifactKind.envelope, JsonText.shallow_object_iff (by omega)]
    simp only [List.forall_mem_cons, List.not_mem_nil, false_implies, implies_true, and_true]
    exact ⟨JsonText.shallow_text, JsonText.shallow_text, JsonText.shallow_text,
      shallow_proposal (by omega)⟩
  · simp only [ContextArtifactKind.envelope, hostSummaryKind, JsonText.count_object,
      JsonText.count_text, List.map_cons, List.map_nil, List.sum_cons, List.sum_nil]
    omega

/-- A truthful proposal is valid exactly if each of its claims is lawful. -/
theorem HostSummaryProposal.Truthful.valid_iff {cited : SourceLinkedClaim → List ContextNode}
    (h : HostSummaryProposal.Truthful E snapshot proposal cited)
    (hsnapshot : (snapshotKind E).Valid E snapshot) :
    hostSummaryKind.Valid E proposal ↔ ∀ claim ∈ proposal.value.claims, LawfulClaim claim := by
  constructor
  · exact fun hvalid => (proposalContract_eq_ok.mp hvalid.contract).claims
  · intro hclaims
    obtain ⟨hshallow, hcount, hshallow', hcount'⟩ := h.canonical
    refine ⟨h.identity, ?_, proposalContract_eq_ok.mpr ⟨h.authority, h.adoptable, h.few, hclaims,
      h.nonempty, ?_⟩, h.bytes.trans (by decide), h.bytes,
      validateCanonicalValue_eq_ok.mpr ⟨hshallow', hcount'⟩,
      validateCanonicalValue_eq_ok.mpr ⟨hshallow, hcount⟩⟩
    · rw [h.identity]
      exact contextId_eq_ok.mpr (isContextId_append (by decide) (E.isDigest_contentSha256 _))
    · rw [h.snapshotId]
      exact contextId_eq_ok.mp hsnapshot.named

/-- A truthful proposal is adopted exactly if no claim cites two nodes of one digest. Whatever is
adopted cites nodes of the snapshot and digests of its nodes only. -/
theorem truthful_proposal_adopted_iff (E : ContextEncoding)
    (snapshot : LoadedContextArtifact ContextSnapshot)
    (hsnapshot : (snapshotKind E).Valid E snapshot) :
    (∀ proposal cited, HostSummaryProposal.Truthful E snapshot proposal cited →
      ((∃ result, adoptHostProposal E snapshot proposal = .ok result) ↔
        ∀ claim ∈ proposal.value.claims, ((cited claim).map (·.textSha256)).Nodup)) ∧
    ∀ proposal result, adoptHostProposal E snapshot proposal = .ok result →
      ∀ claim ∈ proposal.value.claims,
        (∀ nodeId ∈ claim.sourceNodeIds, ∃ node ∈ snapshot.value.nodes, node.nodeId = nodeId) ∧
        ∀ digest ∈ claim.extractSha256s, ∃ node ∈ snapshot.value.nodes, node.textSha256 = digest := by
  have hlaw := snapshotContract_eq_ok.mp hsnapshot.contract
  have hids : (snapshot.value.nodes.map (·.nodeId)).Nodup := hlaw.ordered.imp ne_of_lt
  have hnodes (node : ContextNode) (hnode : node ∈ snapshot.value.nodes) :
      IsContextId "CTX-NODE-" node.nodeId ∧ isDigest node.textSha256.toList = true :=
    ⟨(hlaw.nodes node hnode).nodeId, (hlaw.nodes node hnode).content.isDigest⟩
  refine ⟨fun proposal cited htruthful => ?_, fun proposal result hadopted claim hclaim => ?_⟩
  · have hlawful : (∀ claim ∈ proposal.value.claims, LawfulClaim claim) ↔
        ∀ claim ∈ proposal.value.claims, ((cited claim).map (·.textSha256)).Nodup :=
      forall₂_congr fun claim hclaim => (htruthful.claims claim hclaim).lawful_iff hnodes
    rw [← hlawful, ← htruthful.valid_iff hsnapshot]
    constructor
    · rintro ⟨result, hresult⟩
      exact (adoptHostProposal_eq_ok.mp hresult).1
    · intro hvalid
      exact ⟨_, adoptHostProposal_eq_ok.mpr ⟨hvalid, htruthful.snapshotId, htruthful.sensitivity,
        fun claim hclaim => (htruthful.claims claim hclaim).citations hids, rfl⟩⟩
  · obtain ⟨-, -, -, hcitations, -⟩ := adoptHostProposal_eq_ok.mp hadopted
    obtain ⟨hpresent, hdigests⟩ := validateCitations_eq_ok.mp (hcitations claim hclaim)
    constructor
    · intro nodeId hnodeId
      exact List.mem_map.mp ((Table.mem_ofRows hids).mp (hpresent nodeId hnodeId))
    · intro digest hdigest
      rw [hdigests, List.mem_insertionSort, List.mem_filterMap] at hdigest
      obtain ⟨nodeId, -, hdigest⟩ := hdigest
      obtain ⟨node, hnode, rfl⟩ := Option.map_eq_some_iff.mp hdigest
      exact ⟨node, ((Table.getElem?_ofRows hids).mp hnode).1, rfl⟩

/-! ## A snapshot that quotes one line twice -/

namespace Sample

def copyNode : ContextNode :=
  contextNode "CTX-NODE-AF223C4F5208EBFC0B88D209BB1F9589FD1A053541897CAC08DDC348180A59E0"
    "CTX-SOURCE-05FB1AD23DB6632BB2BF7AC37B63E05D78A1DE92560ED4A52BC22F0927DB2EAB"
    .design "Import rules" "The importer rejects unknown columns.\n"
    "9EA7C739E571B5696295D25B1AA30B5B22B93E7249EB8095B75180D3BC384753" "docs/rules.md"
    .repositoryRecord .isPublic false

def quotedSnapshot : LoadedContextArtifact ContextSnapshot where
  artifactId := "CTX-SNAPSHOT-B95DCC6925C7CDE5A60533E8E82EEEE588AA533039D8B1D2626EADC516767E72"
  value := {
    candidate := contextCandidate
    graphId := "CTX-GRAPH-0421B29847AE5CB055E25FA39F407EAA97BB7E176FB787DE5B8F09AE772E2C92"
    queryId := "CTX-QUERY-F1D3226645CC8DB251F68C2A6C156CB583F5CA35A4DE4236FF8AF1DF44622CB3"
    selectionId := "CTX-SELECTION-8AB5820192D324621353D578B7C5EDDC15C692ADBBB82B5C9129608F451BA5A8"
    asOf := 1769904000000000
    sensitivity := .isPublic
    nodes := [specNode, copyNode]
    edges := []
    selected := [
      ⟨specNode.nodeId, ["required-reference"], 0, 1, 0, 0, 0, 785⟩,
      ⟨copyNode.nodeId, ["graph"], 1, 4, 0, 0, 0, 775⟩]
    excluded := []
    unresolvedContradictionIds := []
    contextBytes := 1560
    budgetBytes := 8192 }

/-- A claim about the specification alone. -/
def singleProposal : LoadedContextArtifact HostSummaryProposal where
  artifactId :=
    "CTX-HOST-SUMMARY-PROPOSAL-4465F94BF332599CCF53D5D286E5A9B200DEDB0B8BBCE82436C1E994EF707032"
  value := {
    snapshotId := quotedSnapshot.artifactId
    authority := .untrustedProposal
    sensitivity := .isPublic
    claims := [⟨"The importer rejects unknown columns.", [specNode.nodeId],
      [specNode.textSha256]⟩] }

/-- A claim about both files that state the line. -/
def quotedProposal : LoadedContextArtifact HostSummaryProposal where
  artifactId :=
    "CTX-HOST-SUMMARY-PROPOSAL-95905BE7FA4AF3E1FE93F0F76CF1917CF992C35C3237BE723124AF736527E69A"
  value := {
    snapshotId := quotedSnapshot.artifactId
    authority := .untrustedProposal
    sensitivity := .isPublic
    claims := [⟨"Both files reject unknown columns.", [specNode.nodeId, copyNode.nodeId],
      [specNode.textSha256, copyNode.textSha256]⟩] }

/-- The digests of the sample's contents. -/
def quotedEncoding : ContextEncoding where
  textSha256 _ := contextCandidate.sourceSpecSha256
  contentSha256
    | .object ((_, .object _) :: _) =>
      "B95DCC6925C7CDE5A60533E8E82EEEE588AA533039D8B1D2626EADC516767E72"
    | .object ((_, .text kind) :: (_, .text _) :: (_, .object _) :: _) =>
      if kind = "specification" then
        "6F278DB3FBCF6D5FB0D34DF5C9DF669C86E14667C39804C52072B6099D2184CE"
      else "05FB1AD23DB6632BB2BF7AC37B63E05D78A1DE92560ED4A52BC22F0927DB2EAB"
    | .object ((_, .text _) :: (_, .text kind) :: (_, .text _) :: (_, .text _) :: _) =>
      if kind = "specification" then
        "46D0B8A71586E2929A01825F8DF9A6D08DD239C6B624848ABF24955F22D9DAAB"
      else "AF223C4F5208EBFC0B88D209BB1F9589FD1A053541897CAC08DDC348180A59E0"
    | .object [_, _, _, (_, .array [.object [_, (_, .array [_]), _]])] =>
      "4465F94BF332599CCF53D5D286E5A9B200DEDB0B8BBCE82436C1E994EF707032"
    | _ => "95905BE7FA4AF3E1FE93F0F76CF1917CF992C35C3237BE723124AF736527E69A"
  spell _ := "2026-02-01T00:00:00Z"
  isDigest_contentSha256 content := by
    split
    all_goals try split
    all_goals
      rw [String.toList_ofList]
      decide

theorem lawful_contextCandidate : LawfulCandidate contextCandidate := by
  have hcommit : isCommit contextCandidate.gitHead = true := by
    rw [isCommit, Bool.and_eq_true, decide_eq_true_eq, contextCandidate, String.toList_ofList]
    decide
  refine ⟨⟨hcommit, ?_, ?_⟩, ?_, ?_⟩
  all_goals
    rw [contextCandidate, String.toList_ofList]
    decide

/-- A node on one line of a file has a lawful place and origin. -/
theorem lawful_locator {path sha256 : String} (hpath : LawfulPath path)
    (hdigest : isDigest sha256.toList = true) :
    LawfulLocator ⟨.repository, path, sha256, 1, 1⟩ := by
  intro field
  simp only [SourceLocator.contract, integerValue_eq_ok, sha256Text_eq_ok, bind_eq_ok, exists_unit,
    require_eq_ok]
  exact ⟨by decide, by decide, le_rfl, hpath _, hdigest⟩

theorem lawful_provenance {path sha256 : String} (hpath : LawfulPath path)
    (hdigest : isDigest sha256.toList = true) :
    LawfulProvenance ⟨"Owner", "Owner", [⟨path, sha256⟩]⟩ := by
  intro field
  have howner : LawfulText 100 false "Owner" := by decide
  have hreference : ∀ reference ∈ [ArtifactReference.mk path sha256], LawfulReference reference := by
    refine List.forall_mem_singleton.mpr fun field => ?_
    simp only [referenceContract, hpath _, sha256Text_eq_ok, bind_eq_ok, exists_unit]
    exact ⟨trivial, hdigest⟩
  simp only [ContextProvenance.contract, arrayValue_eq_ok, bind_eq_ok, exists_unit, require_eq_ok,
    ascendingUnique_eq_ok, contextText_eq_ok,
    forEachIndexed_eq_ok (p := LawfulReference) fun _ _ => referenceContract_eq_ok]
  exact ⟨by simp, hreference, by simp, List.pairwise_singleton _ _, howner, howner⟩

theorem lawful_specNode : LawfulNode quotedEncoding specNode := by
  have hpath : LawfulPath specNode.locator.path := (@safeRelativePath_iff "" () _).mp (by decide)
  have hdigest : isDigest specNode.textSha256.toList = true := lawful_contextCandidate.sourceSpec
  have hnode : Named quotedEncoding "CTX-NODE-" specNode.nodeId
      (specNode.contentDict quotedEncoding) := ⟨by decide, by decide⟩
  have hsource : Named quotedEncoding "CTX-SOURCE-" specNode.sourceId
      (specNode.sourceContentDict quotedEncoding) := ⟨by decide, by decide⟩
  exact ⟨by decide, ⟨by decide, hdigest, rfl⟩, hnode.isContextId (by decide),
    hsource.isContextId (by decide), by decide, lawful_locator hpath hdigest,
    lawful_provenance hpath hdigest, fun _ => rfl, ⟨by decide, by decide, by decide, by decide⟩,
    ⟨by decide, by decide, by decide, by decide⟩, hnode, hsource, by decide⟩

theorem lawful_copyNode : LawfulNode quotedEncoding copyNode := by
  have hpath : LawfulPath copyNode.locator.path := (@safeRelativePath_iff "" () _).mp (by decide)
  have hdigest := lawful_specNode.content.isDigest
  have hnode : Named quotedEncoding "CTX-NODE-" copyNode.nodeId
      (copyNode.contentDict quotedEncoding) := ⟨by decide, by decide⟩
  have hsource : Named quotedEncoding "CTX-SOURCE-" copyNode.sourceId
      (copyNode.sourceContentDict quotedEncoding) := ⟨by decide, by decide⟩
  exact ⟨by decide, lawful_specNode.content, hnode.isContextId (by decide),
    hsource.isContextId (by decide), by decide, lawful_locator hpath hdigest,
    lawful_provenance hpath hdigest, fun _ => rfl, ⟨by decide, by decide, by decide, by decide⟩,
    ⟨by decide, by decide, by decide, by decide⟩, hnode, hsource, by decide⟩

/-- The sizes of the nodes and of the printed artifacts. Their literals are read as lists of characters
before the kernel counts. -/
theorem quotedSizes :
    (canonicalSize (specNode.contentDict quotedEncoding) = 785 ∧
      canonicalSize (copyNode.contentDict quotedEncoding) = 775) ∧
    (printed ((snapshotKind quotedEncoding).envelope quotedSnapshot)).length ≤ largeArtifactBytes ∧
    (printed (hostSummaryKind.envelope singleProposal)).length ≤ 1048576 ∧
    (printed (hostSummaryKind.envelope quotedProposal)).length ≤ 1048576 := by
  simp only [canonicalSize, printed, ContextArtifactKind.envelope, snapshotKind, hostSummaryKind,
    ContextSnapshot.toDict, HostSummaryProposal.toDict, SourceLinkedClaim.toDict,
    ContextNode.toDict, ContextNode.contentDict, ContextNode.contentMembers, quotedSnapshot,
    singleProposal, quotedProposal, quotedEncoding, contextCandidate, copyNode, specNode,
    contextNode, CandidateIdentity.toDict, SelectionDecision.toDict, SourceLocator.toDict,
    ContextProvenance.toDict, ArtifactReference.toDict, Freshness.toDict, Payload.textArray,
    List.map_cons, List.map_nil, JsonText.dumps, JsonText.dumpItems, JsonText.dumpMembers,
    SourceKind.value, RootScope.value, AuthorityClass.value, Sensitivity.value, JsonText.quote]
  repeat rw [String.toList_ofList]
  refine ⟨⟨?_, ?_⟩, ?_, ?_, ?_⟩
  all_goals decide +kernel

theorem lawful_quotedSnapshot : LawfulSnapshot quotedEncoding quotedSnapshot.value := by
  have hnodes : LawfulNodes quotedEncoding quotedSnapshot.value := {
    few := by decide
    nodes := by
      simp only [quotedSnapshot, List.forall_mem_cons]
      exact ⟨lawful_specNode, lawful_copyNode, by simp⟩
    nonempty := by decide
    ordered := by decide
    sources := by decide
    authority := by decide
    candidate := lawful_contextCandidate
    canonical := by decide }
  have hselected : ∀ decision ∈ quotedSnapshot.value.selected, LawfulSelected decision := by
    simp only [quotedSnapshot, List.forall_mem_cons]
    refine ⟨?_, ?_, by simp⟩
    · exact ⟨lawful_specNode.nodeId, ⟨by decide, by decide, by decide, by decide⟩,
        by decide, by decide, by decide, by decide, by decide, by decide⟩
    · exact ⟨lawful_copyNode.nodeId, ⟨by decide, by decide, by decide, by decide⟩,
        by decide, by decide, by decide, by decide, by decide, by decide⟩
  have hagree : ∀ pair ∈ quotedSnapshot.value.nodes.zip quotedSnapshot.value.selected,
      Matches quotedEncoding pair.1 pair.2 := by
    simp only [quotedSnapshot, List.zip_cons_cons, List.zip_nil_left, List.forall_mem_cons]
    exact ⟨⟨quotedSizes.1.1.symm, rfl, rfl⟩, ⟨quotedSizes.1.2.symm, rfl, rfl⟩, by simp⟩
  have haccounted : quotedSnapshot.value.contextBytes =
      quotedSnapshot.value.contentBytes quotedEncoding := by
    have hnodes : quotedSnapshot.value.nodes = [specNode, copyNode] := rfl
    have hedges : quotedSnapshot.value.edges = [] := rfl
    rw [ContextSnapshot.contentBytes, hnodes, hedges, List.map_cons, List.map_cons, quotedSizes.1.1,
      quotedSizes.1.2]
    rfl
  have hgraph : IsContextId "CTX-GRAPH-" quotedSnapshot.value.graphId :=
    isContextId_ofList (by decide) (by decide) (by decide)
  have hquery : IsContextId "CTX-QUERY-" quotedSnapshot.value.queryId :=
    isContextId_ofList (by decide) (by decide) (by decide)
  have hselection : IsContextId "CTX-SELECTION-" quotedSnapshot.value.selectionId :=
    isContextId_ofList (by decide) (by decide) (by decide)
  exact { hnodes with
    fewEdges := by decide
    edges := by simp [quotedSnapshot]
    orderedEdges := .nil
    fewSelected := by decide
    selected := hselected
    sameIds := rfl
    agree := hagree
    fewExcluded := by decide
    excluded := by simp [quotedSnapshot]
    orderedExcluded := .nil
    disjoint := by simp [quotedSnapshot]
    sensitivity := by decide
    highest := by decide
    budget := by decide
    within := by decide
    accounted := haccounted
    fewContradictions := by decide
    unresolved := rfl
    graphId := hgraph
    queryId := hquery
    selectionId := hselection }

theorem valid_quotedSnapshot : (snapshotKind quotedEncoding).Valid quotedEncoding quotedSnapshot := by
  have hnamed : Named quotedEncoding "CTX-SNAPSHOT-" quotedSnapshot.artifactId
      (quotedSnapshot.value.toDict quotedEncoding) := ⟨by decide, by decide⟩
  have hbytes := quotedSizes.2.1
  exact ⟨hnamed.identity, contextId_eq_ok.mpr (hnamed.isContextId (by decide)),
    snapshotContract_eq_ok.mpr lawful_quotedSnapshot, hbytes, hbytes,
    validateCanonicalValue_eq_ok.mpr hnamed.canonical,
    validateCanonicalValue_eq_ok.mpr (by decide)⟩

theorem truthful_singleProposal : HostSummaryProposal.Truthful quotedEncoding quotedSnapshot
    singleProposal fun _ => [specNode] := by
  have hclaims : ∀ claim ∈ singleProposal.value.claims,
      claim.Truthful quotedSnapshot.value [specNode] := by
    simp only [singleProposal, List.forall_mem_cons]
    refine ⟨⟨?_, rfl, rfl, by decide, by decide, by decide, by decide⟩, by simp⟩
    simp [quotedSnapshot]
  exact ⟨by decide, quotedSizes.2.2.1, rfl, rfl, by decide, by decide, by decide, by decide,
    hclaims⟩

theorem truthful_quotedProposal : HostSummaryProposal.Truthful quotedEncoding quotedSnapshot
    quotedProposal fun _ => [specNode, copyNode] := by
  have hdigests : [specNode.textSha256, copyNode.textSha256].Pairwise (· ≤ ·) :=
    List.pairwise_pair.mpr le_rfl
  have hclaims : ∀ claim ∈ quotedProposal.value.claims,
      claim.Truthful quotedSnapshot.value [specNode, copyNode] := by
    simp only [quotedProposal, List.forall_mem_cons]
    refine ⟨⟨?_, rfl, hdigests.insertionSort_eq.symm, by decide, by decide, by decide, by decide⟩,
      by simp⟩
    simp [quotedSnapshot]
  exact ⟨by decide, quotedSizes.2.2.2, rfl, rfl, by decide, by decide, by decide, by decide,
    hclaims⟩

end Sample

/-- A claim about one file is adopted. -/
theorem single_proposal_adopted : ∃ result, adoptHostProposal Sample.quotedEncoding
    Sample.quotedSnapshot Sample.singleProposal = .ok result :=
  ((truthful_proposal_adopted_iff Sample.quotedEncoding Sample.quotedSnapshot
    Sample.valid_quotedSnapshot).1 _ _ Sample.truthful_singleProposal).mpr fun _ _ => by simp

/-- A claim about two files that state one line is refused. -/
theorem quoted_proposal_refused : HostSummaryProposal.Truthful Sample.quotedEncoding
    Sample.quotedSnapshot Sample.quotedProposal (fun _ => [Sample.specNode, Sample.copyNode]) ∧
    ¬∃ result, adoptHostProposal Sample.quotedEncoding Sample.quotedSnapshot
      Sample.quotedProposal = .ok result := by
  refine ⟨Sample.truthful_quotedProposal, ?_⟩
  rintro ⟨result, hresult⟩
  have hvalid := (adoptHostProposal_eq_ok.mp hresult).1
  have hlawful := (proposalContract_eq_ok.mp hvalid.contract).claims _ List.mem_cons_self
  exact absurd (hlawful.distinct.imp ne_of_lt) (by decide)

end Sdaqf
