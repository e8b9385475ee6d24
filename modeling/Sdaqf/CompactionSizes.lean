import Mathlib.Algebra.BigOperators.Ring.List
import Sdaqf.CompactionExtracts

/-!
# The size of a compaction

An extract takes less room in the file than its node, and the two markers of a contradiction take
less room than its edge. What the compaction adds is less than what one node gives up. So the file of
a compaction is no longer than the file of its snapshot, and holds no more values.
-/

namespace Sdaqf

open JsonText (Value indented itemSize memberSize dumps quote count)
open Payload (textArray)

variable {E : ContextEncoding} {s : ContextSnapshot}

@[simp] theorem length_line {k : Nat} : (indented.line k).length = 2 * k + 1 := by
  simp [indented]

@[simp] theorem length_space : indented.space.length = 1 := rfl

/-! ## Extracts and nodes -/

/-- The room that the markers of a node take, with what separates them. -/
def markerSize (ids : List String) : Nat := (ids.map fun id => (quote id).length + 12).sum

/-- The room that the members of an object take at least. -/
theorem le_length_object {d n : Nat} {members : Payload.Members} (h : members.length = n) :
    n * (2 * d + 9) + 1 ≤ (dumps indented d (.object members)).length := by
  have hleast := JsonText.le_length_dumps_object (L := indented) (d := d) members
  rw [length_line, length_space, h] at hleast
  exact hleast

theorem le_length_locator (l : SourceLocator) {d : Nat} :
    5 * (2 * d + 9) + 1 ≤ (dumps indented d l.toDict).length :=
  le_length_object rfl

theorem le_length_provenance (p : ContextProvenance) {d : Nat} :
    3 * (2 * d + 9) + 1 ≤ (dumps indented d p.toDict).length :=
  le_length_object rfl

theorem le_length_freshness (f : Freshness) {d : Nat} :
    3 * (2 * d + 9) + 1 ≤ (dumps indented d (f.toDict E)).length := by
  cases f <;> exact le_length_object rfl

theorem length_markers (ids : List String) :
    (dumps indented 4 (textArray ids)).length ≤ markerSize ids + 11 := by
  have h := JsonText.length_dumps_array_le (L := indented) (d := 4) (ids.map Value.text)
  simp only [List.map_map, Function.comp_def, itemSize, JsonText.length_dumps_text,
    length_line] at h
  have hsame : (ids.map fun id => 2 * (4 + 1) + 1 + (quote id).length + 1).sum = markerSize ids :=
    congrArg List.sum (List.map_congr_left fun id _ => by omega)
  rw [textArray]
  omega

variable (E) in
/-- An extract takes less room than its node, but for its markers. -/
theorem itemSize_extract_le {cost : Value → Nat} {node : ContextNode}
    (hcost : cost (.text node.text) < 10 ^ 7) :
    itemSize indented 2 (extractOf s cost node).toDict + 221 ≤
      itemSize indented 2 (node.toDict E) + markerSize (s.contradictionIdsOf node.nodeId) := by
  have hmarkers := length_markers (s.contradictionIdsOf node.nodeId)
  have hdigits := JsonText.length_dumps_number_le (L := indented) (d := 4) (by decide) hcost
  have hlocator := le_length_locator node.locator (d := 4)
  have hprovenance := le_length_provenance node.provenance (d := 4)
  have hfreshness := le_length_freshness (E := E) node.freshness (d := 4)
  have hidentifiers := JsonText.length_dumps_pos (L := indented) (d := 4) (textArray node.identifiers)
  have hlabels := JsonText.length_dumps_pos (L := indented) (d := 4) (textArray node.labels)
  have hkind := JsonText.two_le_length_quote node.kind.value
  have htitle := JsonText.two_le_length_quote node.title
  have hkeys : (quote "contradiction_ids").length = 19 ∧ (quote "cost_bytes").length = 12 := by
    simp only [quote]
    repeat rw [String.toList_ofList]
    decide +kernel
  have hown := JsonText.two_le_length_quote
  rw [itemSize, itemSize, ContextExtract.toDict, ContextNode.toDict,
    JsonText.length_dumps_object (by simp), JsonText.length_dumps_object (by simp)]
  simp only [ContextNode.contentMembers, List.map_cons, List.map_nil, List.sum_cons, List.sum_nil,
    memberSize, extractOf, length_line, length_space, hkeys, JsonText.length_dumps_text,
    Nat.reduceAdd, Nat.reduceMul]
  have := hown "kind"
  have := hown "title"
  have := hown "locator"
  have := hown "provenance"
  have := hown "freshness"
  have := hown "identifiers"
  have := hown "labels"
  omega

/-- An extract holds fewer values than its node, but for its markers. -/
theorem count_extract_le {cost : Value → Nat} {node : ContextNode} :
    count (extractOf s cost node).toDict + 10 ≤
      count (node.toDict E) + (s.contradictionIdsOf node.nodeId).length := by
  have hprovenance := JsonText.count_pos
    (.array (node.provenance.references.map ArtifactReference.toDict))
  have hfreshness := JsonText.count_pos (node.freshness.toDict E)
  simp only [ContextExtract.toDict, ContextNode.toDict, ContextNode.contentMembers,
    SourceLocator.toDict, ContextProvenance.toDict, extractOf, JsonText.count_object,
    JsonText.count_text, JsonText.count_boolean, JsonText.count_number, count_textArray,
    List.map_cons, List.map_nil, List.sum_cons, List.sum_nil]
  omega

/-! ## Markers and edges -/

theorem plain_of_isNativeCharacter {c : Char} (h : isNativeCharacter c = true) :
    JsonText.Plain c := by
  obtain ⟨hlow, hhigh⟩ := visible_of_isNativeCharacter h
  refine ⟨⟨hlow.le, Nat.le_of_lt_succ hhigh⟩, ?_, ?_⟩
  all_goals
    rintro rfl
    exact absurd h (by decide)

/-- The characters of an identity stand for themselves. -/
theorem plain_of_isContextId {text : String} (h : isContextId text = true) :
    ∀ c ∈ text.toList, JsonText.Plain c := by
  obtain ⟨middle, digest, htext, hdigest, -, -, hall⟩ := isContextId_iff.mp h
  intro c hc
  refine plain_of_isNativeCharacter ?_
  rw [htext, List.mem_append, List.mem_append] at hc
  rcases hc with hc | hc | hc
  · exact List.all_eq_true.mp (by decide) c hc
  · have hrule := List.all_eq_true.mp hall c hc
    simp only [Bool.or_eq_true, decide_eq_true_eq] at hrule
    rcases hrule with hrule | rfl
    · exact isNativeCharacter_of_isUpper hrule
    · decide
  · exact isNativeCharacter_of_isUpperHex ((isDigest_iff.mp hdigest).2 c hc)

/-- An identity that a digest gives is as long as its mark and the digest. -/
theorem length_quote_identity {mark id : String} {content : Value} (h : IsContextId mark id)
    (hid : id = mark ++ E.contentSha256 content) :
    (quote id).length = mark.toList.length + 66 := by
  have hpattern := h.matched
  rw [isContextIdOf, Bool.and_eq_true] at hpattern
  rw [JsonText.length_quote_plain (plain_of_isContextId hpattern.1), hid, String.toList_append,
    List.length_append, (isDigest_iff.mp (E.isDigest_contentSha256 content)).1]

/-- The markers of all nodes are the contradictions, twice. -/
theorem LawfulSnapshot.markers_perm (h : LawfulSnapshot E s) :
    s.markers.Perm (s.contradictionIds ++ s.contradictionIds) := by
  have hnodup : s.contradictionIds.Nodup :=
    (sorted_contradictionIds h.edges h.orderedEdges).2.imp ne_of_lt
  have hmem (id : String) : id ∈ s.contradictionIds ↔ id ∈ s.markers := by
    rw [h.mem_markers, ContextSnapshot.contradictionIds]
    simp only [List.mem_map, List.mem_filter, decide_eq_true_eq, and_assoc]
  rw [List.perm_iff_count]
  intro id
  rw [List.count_append]
  by_cases hid : id ∈ s.contradictionIds
  · rw [h.listed_markers.2 id ((hmem id).mp hid), List.count_eq_one_of_mem hnodup hid]
  · rw [List.count_eq_zero_of_not_mem hid, List.count_eq_zero_of_not_mem (mt (hmem id).mpr hid)]

/-- What two markers of each edge cost at most, all markers cost at most. -/
theorem LawfulSnapshot.sum_markers_le (h : LawfulSnapshot E s) {f : String → Nat}
    {g : ContextEdge → Nat} (hedges : ∀ edge ∈ s.edges, 2 * f edge.edgeId ≤ g edge) :
    (s.nodes.map fun node => ((s.contradictionIdsOf node.nodeId).map f).sum).sum ≤
      (s.edges.map g).sum := by
  have hsub : (s.contradictionIds.map f).Sublist (s.edges.map fun edge => f edge.edgeId) := by
    have hids : s.contradictionIds.Sublist (s.edges.map (·.edgeId)) :=
      List.filter_sublist.map _
    simpa only [List.map_map, Function.comp_def] using hids.map f
  calc (s.nodes.map fun node => ((s.contradictionIdsOf node.nodeId).map f).sum).sum
      = (s.markers.map f).sum := by
        rw [ContextSnapshot.markers, List.map_flatMap, List.flatMap_def, List.sum_flatten,
          List.map_map]
        rfl
    _ = 2 * (s.contradictionIds.map f).sum := by
        rw [(h.markers_perm.map f).sum_eq, List.map_append, List.sum_append, Nat.two_mul]
    _ ≤ 2 * (s.edges.map fun edge => f edge.edgeId).sum :=
        Nat.mul_le_mul_left 2 (hsub.sum_le_sum fun _ _ => Nat.zero_le _)
    _ = (s.edges.map fun edge => 2 * f edge.edgeId).sum := by
        rw [List.sum_map_mul_left]
    _ ≤ (s.edges.map g).sum := List.sum_le_sum hedges

/-- Two markers of an edge take less room than the edge. -/
theorem LawfulEdge.markerSize_le {nodeIds : List String} {edge : ContextEdge}
    (h : LawfulEdge E nodeIds edge) :
    2 * ((quote edge.edgeId).length + 12) ≤ itemSize indented 2 edge.toDict := by
  have hid := length_quote_identity h.edgeId h.named.identity
  have hmark : "CTX-EDGE-".toList.length = 9 := by decide
  have hprovenance := le_length_provenance edge.provenance (d := 4)
  have hown := JsonText.two_le_length_quote
  rw [itemSize, ContextEdge.toDict, JsonText.length_dumps_object (by simp)]
  simp only [ContextEdge.contentMembers, List.map_cons, List.map_nil, List.sum_cons, List.sum_nil,
    memberSize, length_line, length_space, JsonText.length_dumps_text, Nat.reduceAdd,
    Nat.reduceMul]
  omega

theorem two_le_count_edge (edge : ContextEdge) : 2 * 1 ≤ count edge.toDict := by
  simp only [ContextEdge.toDict, ContextEdge.contentMembers, JsonText.count_object,
    JsonText.count_text, List.map_cons, List.sum_cons]
  omega

/-! ## The whole file -/

/-- The compaction that extracts every node. -/
def fullCompaction (snapshot : LoadedContextArtifact ContextSnapshot) (proposalId : Option String)
    (sensitivity : Sensitivity) : ContextCompaction where
  candidate := snapshot.value.candidate
  snapshotId := snapshot.artifactId
  sensitivity
  budgetBytes := snapshot.value.budgetBytes
  usedBytes := (snapshot.value.nodes.map fun node => canonicalSize (.text node.text)).sum
  extracts := snapshot.value.nodes.map (extractOf snapshot.value canonicalSize)
  omittedNodeIds := []
  unresolvedContradictionIds := snapshot.value.unresolvedContradictionIds
  hostSummaryProposalId := proposalId

/-- All texts of a snapshot cost less than ten million bytes. -/
theorem LawfulSnapshot.texts_lt (h : LawfulSnapshot E s) :
    (s.nodes.map fun node => canonicalSize (.text node.text)).sum < 10 ^ 7 := by
  have htexts := h.texts_le
  have hbudget := h.budget.2
  omega

theorem LawfulSnapshot.text_lt (h : LawfulSnapshot E s) {node : ContextNode}
    (hnode : node ∈ s.nodes) : canonicalSize (.text node.text) < 10 ^ 7 :=
  (List.single_le_sum (fun _ _ => Nat.zero_le _) _ (List.mem_map_of_mem hnode)).trans_lt h.texts_lt

/-- All extracts together take less room than the nodes and edges. -/
theorem LawfulSnapshot.extracts_le (h : LawfulSnapshot E s) :
    (s.nodes.map fun node => itemSize indented 2 (extractOf s canonicalSize node).toDict).sum + 221 ≤
      (s.nodes.map fun node => itemSize indented 2 (node.toDict E)).sum +
        (s.edges.map fun edge => itemSize indented 2 edge.toDict).sum := by
  have hmarkers := h.sum_markers_le (f := fun id => (quote id).length + 12)
    fun edge hedge => (h.edges edge hedge).markerSize_le
  have hsum := List.sum_le_sum (l := s.nodes)
    fun node hnode => itemSize_extract_le E (s := s) (h.text_lt hnode)
  simp only [List.sum_map_add, List.map_const', List.sum_replicate, smul_eq_mul] at hsum
  have hnodes := List.length_pos_of_ne_nil h.nonempty
  simp only [markerSize] at hsum
  omega

theorem length_quote_sensitivity (sensitivity : Sensitivity) :
    (quote sensitivity.value).length ≤ 22 := by
  cases sensitivity <;>
    · simp only [Sensitivity.value, quote]
      rw [String.toList_ofList]
      decide +kernel

section File

variable {snapshot : LoadedContextArtifact ContextSnapshot} {proposalId : Option String}
  {sensitivity : Sensitivity}

/-- The content of a compaction takes less room than the content of its snapshot. -/
theorem length_content_le (h : LawfulSnapshot E snapshot.value)
    (hid : (quote snapshot.artifactId).length = 79)
    (hproposal : ∀ id ∈ proposalId, (quote id).length ≤ 92) :
    (dumps indented 1 (fullCompaction snapshot proposalId sensitivity).toDict).length + 4 ≤
      (dumps indented 1 (snapshot.value.toDict E)).length := by
  have hkeys : (quote "snapshot_id").length = 13 ∧ (quote "used_bytes").length = 12 ∧
      (quote "extracts").length = 10 ∧ (quote "omitted_node_ids").length = 18 ∧
      (quote "host_summary_proposal_id").length = 26 := by
    simp only [quote]
    repeat rw [String.toList_ofList]
    decide +kernel
  have hextracts := h.extracts_le
  have hdigits := JsonText.length_dumps_number_le (L := indented) (d := 2) (by decide) h.texts_lt
  have hsensitivity := length_quote_sensitivity sensitivity
  have hedges := JsonText.le_length_dumps_array (L := indented) (d := 2)
    (snapshot.value.edges.map ContextEdge.toDict)
  have hselected := JsonText.length_dumps_pos (L := indented) (d := 2)
    (.array (snapshot.value.selected.map SelectionDecision.toDict))
  have hexcluded := JsonText.length_dumps_pos (L := indented) (d := 2)
    (.array (snapshot.value.excluded.map ExclusionDecision.toDict))
  have hbytes := JsonText.length_dumps_pos (L := indented) (d := 2)
    (.number snapshot.value.contextBytes)
  have homitted : (dumps indented 2 (textArray [])).length = 2 := rfl
  have hnamed : (dumps indented 2 (proposalId.elim .null Value.text)).length ≤ 92 := by
    cases proposalId with
    | none => decide
    | some id =>
      rw [Option.elim_some, JsonText.length_dumps_text]
      exact hproposal id rfl
  have hextractArray := @JsonText.length_dumps_array indented 2
    ((fullCompaction snapshot proposalId sensitivity).extracts.map ContextExtract.toDict)
    (by simpa [fullCompaction] using h.nonempty)
  have hnodeArray := @JsonText.length_dumps_array indented 2
    (snapshot.value.nodes.map (·.toDict E)) (by simpa using h.nonempty)
  have hown := JsonText.two_le_length_quote
  have hownId := hown snapshot.value.graphId
  have hownQuery := hown snapshot.value.queryId
  have hownSelection := hown snapshot.value.selectionId
  have hownInstant := hown (E.spell snapshot.value.asOf)
  have hownSensitivity := hown snapshot.value.sensitivity.value
  rw [ContextCompaction.toDict, ContextSnapshot.toDict,
    JsonText.length_dumps_object (by simp), JsonText.length_dumps_object (by simp)]
  simp only [List.map_cons, List.map_nil, List.sum_cons, List.sum_nil, memberSize, length_line,
    length_space, hkeys, JsonText.length_dumps_text, Nat.reduceAdd, Nat.reduceMul, hextractArray,
    hnodeArray]
  simp only [fullCompaction, List.map_map, Function.comp_def] at hextracts hedges ⊢
  have := hown "graph_id"
  have := hown "query_id"
  have := hown "selection_id"
  have := hown "as_of"
  have := hown "nodes"
  have := hown "edges"
  have := hown "selected"
  have := hown "excluded"
  have := hown "context_bytes"
  omega

/-- The content of a compaction holds no more values than the content of its snapshot. -/
theorem count_content_le (h : LawfulSnapshot E snapshot.value) :
    count (fullCompaction snapshot proposalId sensitivity).toDict ≤
      count (snapshot.value.toDict E) := by
  have hmarkers := h.sum_markers_le (f := fun _ => 1) fun edge _ => two_le_count_edge edge
  have hsum := List.sum_le_sum (l := snapshot.value.nodes) fun node _ =>
    @count_extract_le E snapshot.value canonicalSize node
  have hnodes := List.length_pos_of_ne_nil h.nonempty
  have hproposal : count (proposalId.elim .null Value.text) = 1 := by
    cases proposalId <;> rfl
  simp only [List.sum_map_add, List.map_const', List.sum_replicate, smul_eq_mul, mul_one]
    at hsum hmarkers
  simp only [ContextCompaction.toDict, ContextSnapshot.toDict, fullCompaction, hproposal,
    JsonText.count_object, JsonText.count_array, JsonText.count_text, JsonText.count_number,
    count_textArray, List.map_cons, List.map_nil, List.sum_cons, List.sum_nil, List.map_map,
    Function.comp_def, List.length_nil]
  omega

/-- The file of a compaction is no longer than the file of its snapshot. -/
theorem length_printed_le (h : LawfulSnapshot E snapshot.value)
    (hid : (quote snapshot.artifactId).length = 79) {artifactId : String}
    (hcompaction : (quote artifactId).length = 81)
    (hproposal : ∀ id ∈ proposalId, (quote id).length ≤ 92) :
    (printed ((compactionKind E).envelope
        ⟨artifactId, fullCompaction snapshot proposalId sensitivity⟩)).length ≤
      (printed ((snapshotKind E).envelope snapshot)).length := by
  have hcontent := @length_content_le E snapshot proposalId sensitivity h hid hproposal
  have htypes : (quote "context-compaction").length = 20 ∧
      (quote "context-snapshot").length = 18 := by
    simp only [quote]
    repeat rw [String.toList_ofList]
    decide +kernel
  rw [printed, printed, ContextArtifactKind.envelope, ContextArtifactKind.envelope,
    List.length_append, List.length_append, JsonText.length_dumps_object (by simp),
    JsonText.length_dumps_object (by simp)]
  simp only [List.map_cons, List.map_nil, List.sum_cons, List.sum_nil, memberSize,
    JsonText.length_dumps_text, compactionKind, snapshotKind, htypes, hid, hcompaction, Nat.zero_add]
  omega

end File

end Sdaqf
