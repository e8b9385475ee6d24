import Sdaqf.SnapshotLaws

/-!
# The snapshot service

A snapshot that is built keeps the laws of its selection, whatever the sources answered. The builder
stops if a failed source affects a required node. If none does, the provenance of the edges that
remain, the candidate and the limits of the file are all that is left to stop it.
-/

namespace Sdaqf

open Guard
open JsonText (Value)

/-- An owner root is given exactly if a selected node needs it. -/
def OwnerFits (graph : ContextGraph) (selection : ContextSelection) (ownerRoot : Bool) : Prop :=
  ownerRoot = true ↔ ∃ node ∈ graph.nodes, node.nodeId ∈ selection.selectedIds ∧
    node.locator.rootScope = .owner

/-- The provenance of the edges between the nodes that remain is observed. -/
def EdgesVerified (B : ContextBoundary) (casefold : String → String) (graph : ContextGraph)
    (selection : ContextSelection) : Prop :=
  ∀ edge ∈ graph.edges,
    (edge.sourceNodeId ∈ selection.selectedIds ∧
      ¬Dropped B casefold graph selection edge.sourceNodeId) →
    (edge.targetNodeId ∈ selection.selectedIds ∧
      ¬Dropped B casefold graph selection edge.targetNodeId) →
    ∀ reference ∈ edge.provenance.references, B.verifyEdgeReference edge reference = .ok ()

/-- A snapshot under the name that its content gives. -/
def named (E : ContextEncoding) (s : ContextSnapshot) : LoadedContextArtifact ContextSnapshot :=
  ⟨"CTX-SNAPSHOT-" ++ E.contentSha256 (s.toDict E), s⟩

/-- The limits on the file of a snapshot. -/
structure WithinLimits (E : ContextEncoding) (artifact : LoadedContextArtifact ContextSnapshot) :
    Prop where
  bytes : (printed ((snapshotKind E).envelope artifact)).length ≤ largeArtifactBytes
  content : Canonical (artifact.value.toDict E)
  envelope : Canonical ((snapshotKind E).envelope artifact)

variable {E : ContextEncoding} {B : ContextBoundary} {casefold : String → String}
  {graphArtifact : LoadedContextArtifact ContextGraph}
  {selectionArtifact : LoadedContextArtifact ContextSelection} {ownerRoot : Bool}

/-! ## The input -/

/-- What the checks of the builder say about its input. -/
structure Checked (E : ContextEncoding) (graphArtifact : LoadedContextArtifact ContextGraph)
    (selectionArtifact : LoadedContextArtifact ContextSelection) : Prop where
  graphId : selectionArtifact.value.graphId = graphArtifact.artifactId
  named : IsContextId "CTX-SELECTION-" selectionArtifact.artifactId
  correct : selectionArtifact.value.Correct (canonicalSurroundings E) graphArtifact.value
    selectionArtifact.value.query
  decided : selectionArtifact.value.Decided (canonicalSurroundings E) graphArtifact.value
    selectionArtifact.value.query

theorem checkSelection_checked (hgraph : LawfulGraph E graphArtifact.value)
    (h : checkSelection E B graphArtifact selectionArtifact = .ok ()) :
    Checked E graphArtifact selectionArtifact := by
  simp only [checkSelection, bind_eq_ok, exists_unit, require_eq_ok] at h
  obtain ⟨hgraphId, -, -, -, queryId, -, -, expected, hselect, rfl⟩ := h
  obtain ⟨hcorrect, hdecided⟩ := select_decided hgraph.wellShaped hselect
  simp only [ContextSurroundings.select, bind_eq_ok, pure_eq_ok] at hselect
  obtain ⟨selection, -, artifactId, hidentity, rfl⟩ := hselect
  obtain ⟨-, rfl⟩ := contextIdentity_eq_ok.mp hidentity
  exact ⟨hgraphId, isContextId_append (by decide) (E.isDigest_contentSha256 _), hcorrect, hdecided⟩

/-- The selected nodes under the owner root. -/
def ownerNodes (graph : ContextGraph) (selection : ContextSelection) : List ContextNode :=
  (graph.nodes.filter (·.nodeId ∈ selection.selectedIds)).filter (·.locator.rootScope = .owner)

theorem ownerFits_iff {graph : ContextGraph} {selection : ContextSelection} :
    OwnerFits graph selection ownerRoot ↔
      (ownerNodes graph selection ≠ [] → ownerRoot = true) ∧
        (ownerNodes graph selection = [] → ownerRoot = false) := by
  have hsome : ownerNodes graph selection ≠ [] ↔ ∃ node ∈ graph.nodes,
      node.nodeId ∈ selection.selectedIds ∧ node.locator.rootScope = .owner := by
    simp only [ne_eq, List.eq_nil_iff_forall_not_mem, not_forall, not_not, ownerNodes,
      List.mem_filter, decide_eq_true_eq, and_assoc]
  rw [OwnerFits, ← hsome]
  cases ownerRoot <;> simp

section Run

variable {graph : ContextGraph} {selection : ContextSelection} {failed : Table String}
  {excludedIds : Finset String}

/-- The builder reads its selection. -/
theorem build_eq_ok (hgraph : LawfulGraph E graphArtifact.value)
    {artifact : LoadedContextArtifact ContextSnapshot} :
    build E B casefold graphArtifact selectionArtifact ownerRoot = .ok artifact ↔
      checkSelection E B graphArtifact selectionArtifact = .ok () ∧
      OwnerFits graphArtifact.value selectionArtifact.value ownerRoot ∧
      ∃ failed excludedIds, keepObserved B casefold graphArtifact.value selectionArtifact.value
        (graphArtifact.value.nodes.filter (·.nodeId ∈ selectionArtifact.value.selectedIds))
        (graphArtifact.value.edgesAmong selectionArtifact.value.selectedIds) =
          .ok (failed, excludedIds) ∧
      adoptRemaining E B graphArtifact selectionArtifact failed excludedIds
        (graphArtifact.value.nodes.filter (·.nodeId ∈ selectionArtifact.value.selectedIds))
        (graphArtifact.value.edgesAmong selectionArtifact.value.selectedIds) = .ok artifact := by
  simp only [build, bind_eq_ok, exists_unit, require_eq_ok, ownerFits_iff, Prod.exists]
  refine and_congr_right fun hcheck => ?_
  have hchecked := checkSelection_checked hgraph hcheck
  rw [readSelection_eq hgraph hchecked.correct hchecked.decided]
  constructor
  · rintro ⟨nodes, edges, hread, hsome, hnone, failed, excludedIds, hkept, hadopt⟩
    cases hread
    exact ⟨⟨hsome, hnone⟩, failed, excludedIds, hkept, hadopt⟩
  · rintro ⟨⟨hsome, hnone⟩, failed, excludedIds, hkept, hadopt⟩
    exact ⟨_, _, rfl, hsome, hnone, failed, excludedIds, hkept, hadopt⟩

/-- If a failed source affects a required node, the builder says so. -/
theorem build_affected (hgraph : LawfulGraph E graphArtifact.value)
    (hcheck : checkSelection E B graphArtifact selectionArtifact = .ok ())
    (howner : OwnerFits graphArtifact.value selectionArtifact.value ownerRoot)
    (haffected : Affected B casefold graphArtifact.value selectionArtifact.value) :
    build E B casefold graphArtifact selectionArtifact ownerRoot =
        .error "Required context failed snapshot re-observation." ∨
      build E B casefold graphArtifact selectionArtifact ownerRoot =
        .error "Required contradiction closure failed re-observation." := by
  have hchecked := checkSelection_checked hgraph hcheck
  have hread := readSelection_eq hgraph hchecked.correct hchecked.decided
  obtain ⟨hsome, hnone⟩ := ownerFits_iff.mp howner
  have hstop {e : String} (h : keepObserved B casefold graphArtifact.value selectionArtifact.value
      (graphArtifact.value.nodes.filter (·.nodeId ∈ selectionArtifact.value.selectedIds))
      (graphArtifact.value.edgesAmong selectionArtifact.value.selectedIds) = .error e) :
      build E B casefold graphArtifact selectionArtifact ownerRoot = .error e := by
    have hsome' := @require_pos _ _ _ "Selected owner context requires an explicit owner root." hsome
    have hnone' := @require_pos _ _ _ "Unused owner root is not permitted." hnone
    rw [ownerNodes] at hsome' hnone'
    simp only [build, hcheck, hread, hsome', hnone', h, bind_eq_error, reduceCtorEq, false_or,
      Except.ok.injEq, exists_eq_left', true_and, exists_const, true_or]
  exact (keepObserved_error hchecked.correct haffected).imp hstop hstop

theorem edgesVerified_iff
    (h : Observed E B casefold graphArtifact.value selectionArtifact.value failed excludedIds) :
    EdgesVerified B casefold graphArtifact.value selectionArtifact.value ↔
      forEach (fun edge : ContextEdge =>
        forEach (B.verifyEdgeReference edge) edge.provenance.references)
        (graphArtifact.value.edgesAmong
          (remainingIds graphArtifact.value selectionArtifact.value excludedIds)) = .ok () := by
  simp only [EdgesVerified, forEach_eq_ok, ContextGraph.edgesAmong, List.mem_filter,
    decide_eq_true_eq, mem_remainingIds h.correct, h.dropped, and_imp]

/-- A snapshot that the parser accepts is valid under its name exactly if it keeps the limits. -/
theorem valid_named_iff {s : ContextSnapshot} (hcontract : s.contract E = .ok ()) :
    (snapshotKind E).Valid E (named E s) ↔ WithinLimits E (named E s) := by
  constructor
  · exact fun hvalid => ⟨hvalid.bytes, validateCanonicalValue_eq_ok.mp hvalid.content,
      validateCanonicalValue_eq_ok.mp hvalid.canonical⟩
  · have hnamed : IsContextId "CTX-SNAPSHOT-" (named E s).artifactId :=
      isContextId_append (by decide) (E.isDigest_contentSha256 _)
    exact fun hlimits => ⟨rfl, contextId_eq_ok.mpr hnamed, hcontract, hlimits.bytes, hlimits.bytes,
      validateCanonicalValue_eq_ok.mpr hlimits.content,
      validateCanonicalValue_eq_ok.mpr hlimits.envelope⟩

/-- The builder adopts what remains exactly if the edges' provenance and the candidate verify and the
file keeps its limits. -/
theorem adoptRemaining_eq_ok (hchecked : Checked E graphArtifact selectionArtifact)
    (h : Observed E B casefold graphArtifact.value selectionArtifact.value failed excludedIds)
    : ∃ s,
      Kept E B casefold graphArtifact.value selectionArtifact.value s ∧ s.contract E = .ok () ∧
      ∀ artifact, (adoptRemaining E B graphArtifact selectionArtifact failed excludedIds
        (graphArtifact.value.nodes.filter (·.nodeId ∈ selectionArtifact.value.selectedIds))
        (graphArtifact.value.edgesAmong selectionArtifact.value.selectedIds) = .ok artifact ↔
          EdgesVerified B casefold graphArtifact.value selectionArtifact.value ∧
          B.verifyCandidate 1 = .ok () ∧ WithinLimits E (named E s) ∧ artifact = named E s) := by
  have hnodes : (graphArtifact.value.nodes.filter
      (·.nodeId ∈ selectionArtifact.value.selectedIds)).filter (·.nodeId ∉ excludedIds) =
      remainingNodes graphArtifact.value selectionArtifact.value excludedIds := rfl
  obtain ⟨spec, hspec, -⟩ := h.canonical
  have hsome : remainingNodes graphArtifact.value selectionArtifact.value excludedIds ≠ [] :=
    List.ne_nil_of_mem (List.mem_of_mem_filter (hspec ▸ List.mem_singleton_self spec))
  obtain ⟨sensitivity, hsensitivity, hhighest⟩ := highestSensitivity_spec
    (mt List.map_eq_nil_iff.mp hsome : (remainingNodes graphArtifact.value selectionArtifact.value
      excludedIds).map (·.sensitivity) ≠ [])
  have hlawful := h.lawful rfl rfl hchecked.graphId.symm hchecked.named hhighest
  have hcontract := snapshotContract_eq_ok (u := ()).mpr hlawful
  refine ⟨_, h.kept rfl rfl, hcontract, fun artifact => ?_⟩
  have hedges : (graphArtifact.value.edgesAmong selectionArtifact.value.selectedIds).filter
      (fun edge => edge.sourceNodeId ∈ (remainingNodes graphArtifact.value selectionArtifact.value
        excludedIds).map (·.nodeId) ∧ edge.targetNodeId ∈ (remainingNodes graphArtifact.value
          selectionArtifact.value excludedIds).map (·.nodeId)) =
      graphArtifact.value.edgesAmong (remainingIds graphArtifact.value selectionArtifact.value
        excludedIds) := edgesAmong_remaining h.correct
  rw [edgesVerified_iff h, ← valid_named_iff hcontract]
  simp only [adoptRemaining, bind_eq_ok, exists_unit, require_eq_ok, relabel_eq_ok,
    fromOption_eq_ok, hnodes, hedges, hsensitivity, Option.some.injEq, exists_eq_left',
    ContextArtifactKind.artifactFromValue, pure_eq_ok, ContextArtifactKind.strictlyValidate_eq_ok,
    contextIdentity_eq_ok]
  constructor
  · rintro ⟨-, hprovenance, hcandidate, -, _, ⟨_, ⟨-, rfl⟩, rfl⟩, hvalid, rfl⟩
    exact ⟨hprovenance, hcandidate, hvalid, rfl⟩
  · rintro ⟨hprovenance, hcandidate, hvalid, rfl⟩
    exact ⟨hsome, hprovenance, hcandidate, hlawful.sensitivity, _,
      ⟨_, ⟨validateCanonicalValue_eq_ok.mp hvalid.content, rfl⟩, rfl⟩, hvalid, rfl⟩

/-- If no failed source affects a required node, the observation ends. -/
theorem exists_observed (hgraph : LawfulGraph E graphArtifact.value)
    (hselection : LawfulSelection selectionArtifact.value)
    (hchecked : Checked E graphArtifact selectionArtifact)
    (hfree : ¬Affected B casefold graphArtifact.value selectionArtifact.value) :
    ∃ failed excludedIds, keepObserved B casefold graphArtifact.value selectionArtifact.value
      (graphArtifact.value.nodes.filter (·.nodeId ∈ selectionArtifact.value.selectedIds))
      (graphArtifact.value.edgesAmong selectionArtifact.value.selectedIds) =
        .ok (failed, excludedIds) ∧
      Observed E B casefold graphArtifact.value selectionArtifact.value failed excludedIds := by
  obtain ⟨failed, excludedIds, hkept, hdropped, hreasons⟩ :=
    keepObserved_eq hchecked.correct hfree
  refine ⟨failed, excludedIds, hkept, hgraph, hselection, hchecked.correct, hchecked.decided,
    hfree, hdropped, fun id reason hreason => ?_⟩
  obtain ⟨node, -, hproblem⟩ := hreasons id reason hreason
  exact problem_mem hproblem

end Run

/-! ## The service -/

/-- Whatever the sources answer, a snapshot that is built keeps the laws of its selection, and no
required node is affected. For an exact selection of the graph, the builder stops if a required node
is affected, and otherwise only the provenance of the edges, the candidate and the limits of the file
can stop it. -/
theorem snapshot_keeps_selection (E : ContextEncoding) (B : ContextBoundary)
    (casefold : String → String) (graphArtifact : LoadedContextArtifact ContextGraph)
    (selectionArtifact : LoadedContextArtifact ContextSelection) (ownerRoot : Bool)
    (hgraph : graphArtifact.value.recordContract E = .ok ())
    (hselection : selectionArtifact.value.contract E = .ok ()) :
    (∀ artifact, build E B casefold graphArtifact selectionArtifact ownerRoot = .ok artifact →
      ¬Affected B casefold graphArtifact.value selectionArtifact.value ∧
      Kept E B casefold graphArtifact.value selectionArtifact.value artifact.value) ∧
    (checkSelection E B graphArtifact selectionArtifact = .ok () →
      OwnerFits graphArtifact.value selectionArtifact.value ownerRoot →
      (Affected B casefold graphArtifact.value selectionArtifact.value →
        build E B casefold graphArtifact selectionArtifact ownerRoot =
            .error "Required context failed snapshot re-observation." ∨
          build E B casefold graphArtifact selectionArtifact ownerRoot =
            .error "Required contradiction closure failed re-observation.") ∧
      (¬Affected B casefold graphArtifact.value selectionArtifact.value → ∃ s,
        Kept E B casefold graphArtifact.value selectionArtifact.value s ∧ s.contract E = .ok () ∧
        ∀ artifact,
          (build E B casefold graphArtifact selectionArtifact ownerRoot = .ok artifact ↔
            EdgesVerified B casefold graphArtifact.value selectionArtifact.value ∧
            B.verifyCandidate 1 = .ok () ∧ WithinLimits E (named E s) ∧ artifact = named E s))) := by
  have hlaw := recordContract_eq_ok.mp hgraph
  have hlawful := lawfulSelection hselection
  refine ⟨fun artifact hbuild => ?_, fun hcheck howner => ⟨build_affected hlaw hcheck howner,
    fun hfree => ?_⟩⟩
  · obtain ⟨hcheck, -, failed, excludedIds, hkept, hadopt⟩ := (build_eq_ok hlaw).mp hbuild
    have hchecked := checkSelection_checked hlaw hcheck
    have hfree : ¬Affected B casefold graphArtifact.value selectionArtifact.value := by
      intro haffected
      rcases keepObserved_error hchecked.correct haffected with hstop | hstop <;>
        cases hstop.symm.trans hkept
    obtain ⟨failed', excludedIds', hkept', hobserved⟩ :=
      exists_observed hlaw hlawful hchecked hfree
    cases hkept.symm.trans hkept'
    obtain ⟨s, hs, -, hiff⟩ := adoptRemaining_eq_ok hchecked hobserved
    obtain ⟨-, -, -, rfl⟩ := (hiff artifact).mp hadopt
    exact ⟨hfree, hs⟩
  · have hchecked := checkSelection_checked hlaw hcheck
    obtain ⟨failed, excludedIds, hkept, hobserved⟩ := exists_observed hlaw hlawful hchecked hfree
    obtain ⟨s, hs, hcontract, hiff⟩ := adoptRemaining_eq_ok hchecked hobserved
    refine ⟨s, hs, hcontract, fun artifact => ?_⟩
    rw [← hiff artifact, build_eq_ok hlaw]
    constructor
    · rintro ⟨-, -, failed', excludedIds', hkept', hadopt⟩
      cases hkept.symm.trans hkept'
      exact hadopt
    · exact fun hadopt => ⟨hcheck, howner, failed, excludedIds, hkept, hadopt⟩

/-! ## A copy that refers to its source -/

namespace Sample

def quotingEdge : ContextEdge where
  edgeId := "CTX-EDGE-583335082152D5EF46E99D7EA446B3001235435C7427361651DADB5175B9AFA9"
  edgeType := .references
  sourceNodeId := copyNode.nodeId
  targetNodeId := specNode.nodeId
  provenance := ⟨"Owner", "Owner", [⟨"docs/links.md",
    "51A9C577ED445BFFF0A39F8107E78EC4B80BB8534D3C54C7FF0396B85513ECF3"⟩]⟩

def quotingGraph : LoadedContextArtifact ContextGraph where
  artifactId := "CTX-GRAPH-EDFFC1A5670B01861920A97C94DBD3CE6FC1A331D28A999BC0B406BC04B7BED7"
  value := {
    candidate := contextCandidate
    manifestId := "CTX-MANIFEST-54AFD0D590E6B277D9CD1CE46E5480F683682E43B6B480F7D24906D9E935E44C"
    sensitivity := .isPublic
    nodes := [specNode, copyNode]
    edges := [quotingEdge] }

def quotingQuery : LoadedContextArtifact ContextQuery where
  artifactId := "CTX-QUERY-3764B94F564D20D46A5473D5ADDF82E51F663AFC7A80794D478CF475C22C49A1"
  value := {
    candidate := contextCandidate
    graphId := quotingGraph.artifactId
    asOf := 1769904000000000
    clearance := .isPublic
    requiredNodeIds := []
    seedNodeIds := [copyNode.nodeId]
    identifiers := []
    terms := []
    allowedEdgeTypes := [.contradicts]
    budget := ⟨8192, 8, 8, 2⟩ }

def quotingSelection : LoadedContextArtifact ContextSelection where
  artifactId := "CTX-SELECTION-30CFE4EE439688FB4DDCFFA7070142FFF20B0EE18D17920F642F9F2B934F257F"
  value := {
    candidate := contextCandidate
    graphId := quotingGraph.artifactId
    queryId := quotingQuery.artifactId
    query := quotingQuery.value
    asOf := 1769904000000000
    sensitivity := .isPublic
    selected := [
      ⟨specNode.nodeId, ["required-reference"], 0, 1, 0, 0, 0, 785⟩,
      ⟨copyNode.nodeId, ["graph"], 1, 4, 0, 0, 0, 775⟩]
    excluded := []
    selectedEdgeIds := [quotingEdge.edgeId]
    unresolvedContradictionIds := []
    edgeCostBytes := 384
    usedBytes := 1944
    budgetBytes := 8192
    traversalTruncated := false }

/-- The digests of the sample's contents. -/
def quotingEncoding : ContextEncoding where
  textSha256 := quotedEncoding.textSha256
  contentSha256
    | .object [(_, .text _), (_, .text _), (_, .text _), (_, .object _)] =>
      "583335082152D5EF46E99D7EA446B3001235435C7427361651DADB5175B9AFA9"
    | .object ((_, .object _) :: (_, .text _) :: (_, .text _) :: (_, .text _) :: (_, .array _) :: _) =>
      "3764B94F564D20D46A5473D5ADDF82E51F663AFC7A80794D478CF475C22C49A1"
    | .object ((_, .object _) :: (_, .text _) :: (_, .text _) :: (_, .object _) :: _) =>
      "30CFE4EE439688FB4DDCFFA7070142FFF20B0EE18D17920F642F9F2B934F257F"
    | .object ((_, .object _) :: _) =>
      "D9FF724FB134EE3B73E3E43608769ED277D74978E66DB0CB8E1903763626AA1A"
    | content => quotedEncoding.contentSha256 content
  spell := quotedEncoding.spell
  isDigest_contentSha256 content := by
    split
    case h_5 => exact quotedEncoding.isDigest_contentSha256 _
    all_goals
      rw [String.toList_ofList]
      decide

theorem lawful_quotingGraph : LawfulGraph quotingEncoding quotingGraph.value := by
  have hspec : LawfulNode quotingEncoding specNode := { lawful_specNode with
    content := ⟨lawful_specNode.content.lawful, lawful_specNode.content.isDigest, rfl⟩
    named := ⟨lawful_specNode.named.canonical, lawful_specNode.named.identity⟩
    sourceNamed := ⟨lawful_specNode.sourceNamed.canonical, lawful_specNode.sourceNamed.identity⟩ }
  have hcopy : LawfulNode quotingEncoding copyNode := { lawful_copyNode with
    content := ⟨lawful_copyNode.content.lawful, lawful_copyNode.content.isDigest, rfl⟩
    named := ⟨lawful_copyNode.named.canonical, lawful_copyNode.named.identity⟩
    sourceNamed := ⟨lawful_copyNode.sourceNamed.canonical, lawful_copyNode.sourceNamed.identity⟩ }
  have hnamed : Named quotingEncoding "CTX-EDGE-" quotingEdge.edgeId quotingEdge.contentDict :=
    ⟨by decide, by decide⟩
  have hprovenance : quotingEdge.provenance.contract "" = .ok () := by decide
  have hedge : LawfulEdge quotingEncoding [specNode.nodeId, copyNode.nodeId] quotingEdge :=
    ⟨hcopy.nodeId, hspec.nodeId, by decide, ⟨by simp [quotingEdge], by simp [quotingEdge]⟩,
      fun h => absurd h (by decide), hnamed.isContextId (by decide),
      provenanceContract_eq_ok.mp hprovenance, hnamed⟩
  exact {
    few := by decide
    nodes := by
      simp only [quotingGraph, List.forall_mem_cons]
      exact ⟨hspec, hcopy, by simp⟩
    nonempty := by decide
    ordered := lawful_quotedSnapshot.ordered
    sources := lawful_quotedSnapshot.sources
    authority := lawful_quotedSnapshot.authority
    candidate := lawful_quotedSnapshot.candidate
    canonical := lawful_quotedSnapshot.canonical
    fewEdges := by decide
    edges := by
      simp only [quotingGraph, List.forall_mem_cons]
      exact ⟨hedge, by simp⟩
    orderedEdges := by simp [quotingGraph] }

theorem size_quotingEdge : canonicalSize quotingEdge.contentDict = 384 := by
  simp only [canonicalSize, ContextEdge.contentDict, ContextEdge.contentMembers, quotingEdge,
    copyNode, specNode, contextNode, ContextProvenance.toDict, ArtifactReference.toDict,
    EdgeType.value, List.map_cons, List.map_nil, JsonText.dumps, JsonText.dumpItems,
    JsonText.dumpMembers, JsonText.quote]
  repeat rw [String.toList_ofList]
  decide +kernel

/-- The sizes of the sample's nodes and edge. -/
def quotingCosts : ContextSurroundings where
  nodeCost node := if node.kind = .specification then 785 else 775
  edgeCost _ := 384
  selectionIdentity _ := .ok quotingSelection.artifactId

theorem costAlike_quotingGraph :
    CostAlike quotingGraph.value (canonicalSurroundings quotingEncoding) quotingCosts where
  nodes := by
    simp only [quotingGraph, List.forall_mem_cons]
    exact ⟨quotedSizes.1.1, quotedSizes.1.2, by simp⟩
  edges := by
    simp only [quotingGraph, List.forall_mem_cons]
    exact ⟨size_quotingEdge, by simp⟩

theorem choose_quotingGraph :
    quotingCosts.choose quotingGraph quotingQuery = .ok quotingSelection.value := by
  decide +kernel

theorem identity_quotingQuery : contextIdentity quotingEncoding "CTX-QUERY-"
    (quotingQuery.value.toDict quotingEncoding) = .ok quotingQuery.artifactId := by
  decide

theorem identity_quotingSelection : contextIdentity quotingEncoding "CTX-SELECTION-"
    (quotingSelection.value.toDict quotingEncoding) = .ok quotingSelection.artifactId := by
  decide

theorem contract_quotingSelection :
    quotingSelection.value.contract quotingEncoding = .ok () := by
  have hselected : ∀ decision ∈ quotingSelection.value.selected, LawfulSelected decision :=
    lawful_quotedSnapshot.selected
  have hedges : ∀ id ∈ quotingSelection.value.selectedEdgeIds, IsContextId "CTX-EDGE-" id := by
    simp only [quotingSelection, List.forall_mem_singleton]
    exact (lawful_quotingGraph.edges quotingEdge (List.mem_singleton_self _)).edgeId
  have hids : IsContextId "CTX-QUERY-" quotingSelection.value.queryId ∧
      IsContextId "CTX-GRAPH-" quotingSelection.value.graphId :=
    ⟨isContextId_ofList (by decide) (by decide) (by decide),
      isContextId_ofList (by decide) (by decide) (by decide)⟩
  simp only [ContextSelection.contract, bind_eq_ok, exists_unit, require_eq_ok, contextId_eq_ok,
    candidateIdentity_eq_ok, rejectProhibited_eq_ok, arrayValue_eq_ok, ascendingUnique_eq_ok,
    sortedIdTuple_eq_ok,
    forEachIndexed_eq_ok (p := LawfulSelected) fun _ _ => selectedContract_eq_ok,
    forEachIndexed_eq_ok (p := LawfulExclusion) fun _ _ => exclusionContract_eq_ok]
  exact ⟨hids.1, _, identity_quotingQuery, rfl, lawful_quotingGraph.candidate, hids.2,
    ⟨rfl, rfl, rfl⟩, by decide, by decide, hselected, by decide, lawful_quotingGraph.ordered.imp ne_of_lt,
    by decide, by simp [quotingSelection], .nil, by simp [quotingSelection], by decide, by decide,
    by decide, by decide, rfl, by decide, ⟨by decide, hedges, by simp [quotingSelection]⟩,
    by decide, by simp [quotingSelection], .nil⟩

theorem checkSelection_quoting {B : ContextBoundary} (hcandidate : B.verifyCandidate 0 = .ok ()) :
    checkSelection quotingEncoding B quotingGraph quotingSelection = .ok () := by
  have hchosen : (canonicalSurroundings quotingEncoding).choose quotingGraph quotingQuery =
      .ok quotingSelection.value :=
    (costAlike_quotingGraph.choose lawful_quotingGraph.wellShaped).trans choose_quotingGraph
  have hselect : (canonicalSurroundings quotingEncoding).select quotingGraph quotingQuery =
      .ok quotingSelection :=
    bind_eq_ok.mpr ⟨_, hchosen, bind_eq_ok.mpr ⟨_, identity_quotingSelection, rfl⟩⟩
  simp only [checkSelection, bind_eq_ok, exists_unit, require_eq_ok]
  exact ⟨rfl, rfl, lawful_quotingGraph.canonical, hcandidate, _, identity_quotingQuery, rfl, _,
    hselect, rfl⟩

/-- Every file holds the recorded line, but the file that the edge refers to is gone. -/
def unlinkedBoundary : ContextBoundary where
  verifyCandidate _ := .ok ()
  observe _ := .ok ⟨specNode.text.toList, specNode.text⟩
  verifyReference _ _ := .ok ()
  verifyEdgeReference _ _ := .error "Artifact reference is unavailable."

/-- Every file holds the recorded line, except that the line of the copy was changed. -/
def changedBoundary : ContextBoundary where
  verifyCandidate _ := .ok ()
  observe node :=
    if node.nodeId = copyNode.nodeId then
      .ok ⟨findingNode.text.toList, findingNode.text⟩
    else .ok ⟨specNode.text.toList, specNode.text⟩
  verifyReference _ _ := .ok ()
  verifyEdgeReference _ _ := .ok ()

end Sample

/-- No source of the sample fails, and yet no snapshot is built: the provenance of an edge is gone. -/
theorem unverified_edge_refused :
    Sample.quotingGraph.value.recordContract Sample.quotingEncoding = .ok () ∧
    Sample.quotingSelection.value.contract Sample.quotingEncoding = .ok () ∧
    checkSelection Sample.quotingEncoding Sample.unlinkedBoundary Sample.quotingGraph
      Sample.quotingSelection = .ok () ∧
    (∀ node ∈ Sample.quotingGraph.value.nodes,
      Sample.unlinkedBoundary.problem id Sample.quotingSelection.value.asOf node = none) ∧
    build Sample.quotingEncoding Sample.unlinkedBoundary id Sample.quotingGraph
      Sample.quotingSelection false = .error "Selected edge provenance failed re-observation." := by
  have hlaw := Sample.lawful_quotingGraph
  have hcheck := Sample.checkSelection_quoting (B := Sample.unlinkedBoundary) rfl
  have hchecked := checkSelection_checked hlaw hcheck
  have hread : readSelection Sample.quotingGraph.value Sample.quotingSelection.value =
      .ok ([Sample.specNode, Sample.copyNode], [Sample.quotingEdge]) :=
    readSelection_eq hlaw hchecked.correct hchecked.decided
  have hfine : Sample.unlinkedBoundary.problem id Sample.quotingSelection.value.asOf
      Sample.specNode = none ∧ Sample.unlinkedBoundary.problem id
        Sample.quotingSelection.value.asOf Sample.copyNode = none := by
    decide
  refine ⟨recordContract_eq_ok.mpr hlaw, Sample.contract_quotingSelection, hcheck, ?_, ?_⟩
  · simp only [Sample.quotingGraph, List.forall_mem_cons]
    exact ⟨hfine.1, hfine.2, by simp⟩
  · have hkept : keepObserved Sample.unlinkedBoundary id Sample.quotingGraph.value
        Sample.quotingSelection.value [Sample.specNode, Sample.copyNode] [Sample.quotingEdge] =
        .ok (∅, ∅) := by
      simp only [keepObserved, foldE, ContextBoundary.reobserve, hfine, bind, Except.bind]
      rfl
    have hadopt : adoptRemaining Sample.quotingEncoding Sample.unlinkedBoundary
        Sample.quotingGraph Sample.quotingSelection ∅ ∅ [Sample.specNode, Sample.copyNode]
        [Sample.quotingEdge] = .error "Selected edge provenance failed re-observation." := by
      decide
    refine bind_eq_error.mpr (.inr ⟨(), hcheck, bind_eq_error.mpr (.inr ⟨_, hread, ?_⟩)⟩)
    refine bind_eq_error.mpr (.inr ⟨(), rfl, bind_eq_error.mpr (.inr ⟨(), rfl, ?_⟩)⟩)
    exact bind_eq_error.mpr (.inr ⟨_, hkept, hadopt⟩)

/-- When the line of the copy changes, the copy is left out and the rest can be adopted. -/
theorem changed_copy_dropped : ∃ s,
    Kept Sample.quotingEncoding Sample.changedBoundary id Sample.quotingGraph.value
      Sample.quotingSelection.value s ∧
    Sample.specNode ∈ s.nodes ∧ Sample.copyNode ∉ s.nodes ∧
    ∀ artifact, (build Sample.quotingEncoding Sample.changedBoundary id Sample.quotingGraph
      Sample.quotingSelection false = .ok artifact ↔
        WithinLimits Sample.quotingEncoding (named Sample.quotingEncoding s) ∧
        artifact = named Sample.quotingEncoding s) := by
  have hfine : Sample.changedBoundary.problem id Sample.quotingSelection.value.asOf
      Sample.specNode = none ∧ Sample.changedBoundary.problem id
        Sample.quotingSelection.value.asOf Sample.copyNode = some "changed" := by
    decide
  have hlinked {a b : String} (h : Sample.quotingGraph.value.Linked a b) : a = b := by
    induction h with
    | rel _ _ hpair => simp [ContextGraph.contradictions, Sample.quotingGraph, Sample.quotingEdge]
      at hpair
    | refl _ => rfl
    | symm _ _ _ ih => exact ih.symm
    | trans _ _ _ _ _ ih₁ ih₂ => exact ih₁.trans ih₂
  have hne : Sample.copyNode.nodeId ≠ Sample.specNode.nodeId := by decide
  have hdropped (id' : String) : Dropped Sample.changedBoundary id Sample.quotingGraph.value
      Sample.quotingSelection.value id' ↔ id' = Sample.copyNode.nodeId := by
    constructor
    · rintro ⟨failed, ⟨-, node, hnode, rfl, hproblem⟩, hlink⟩
      rw [← hlinked hlink]
      simp only [Sample.quotingGraph, List.mem_cons, List.not_mem_nil, or_false] at hnode
      rcases hnode with rfl | rfl
      · exact absurd hfine.1 hproblem
      · rfl
    · rintro rfl
      refine ⟨_, ⟨by simp [Sample.quotingSelection, ContextSelection.selectedIds],
        Sample.copyNode, by simp [Sample.quotingGraph], rfl, ?_⟩, .refl _⟩
      rw [hfine.2]
      simp
  have hfree : ¬Affected Sample.changedBoundary id Sample.quotingGraph.value
      Sample.quotingSelection.value := by
    rintro ⟨id', hid, hdrop⟩
    have hrequired : Sample.quotingGraph.value.directlyRequired Sample.quotingSelection.value.query =
        {Sample.specNode.nodeId} := by decide
    rw [hrequired, Finset.mem_singleton] at hid
    exact hne ((hdropped id').mp hdrop ▸ hid)
  have howner : OwnerFits Sample.quotingGraph.value Sample.quotingSelection.value false :=
    ownerFits_iff.mpr ⟨fun h => absurd rfl h, fun _ => rfl⟩
  obtain ⟨s, hkept, -, hiff⟩ := ((snapshot_keeps_selection Sample.quotingEncoding
    Sample.changedBoundary id Sample.quotingGraph Sample.quotingSelection false
    (recordContract_eq_ok.mpr Sample.lawful_quotingGraph) Sample.contract_quotingSelection).2
    (Sample.checkSelection_quoting rfl) howner).2 hfree
  have hverified : EdgesVerified Sample.changedBoundary id Sample.quotingGraph.value
      Sample.quotingSelection.value := fun _ _ _ _ _ _ => rfl
  refine ⟨s, hkept, ?_, fun hcopy => ?_, fun artifact => ?_⟩
  · refine (hkept.nodes _).mpr ⟨by simp [Sample.quotingGraph], ?_, fun h =>
      hne ((hdropped _).mp h).symm⟩
    simp [Sample.quotingSelection, ContextSelection.selectedIds]
  · exact ((hkept.nodes _).mp hcopy).2.2 ((hdropped _).mpr rfl)
  · rw [hiff artifact]
    exact ⟨fun h => h.2.2, fun h => ⟨hverified, rfl, h⟩⟩

end Sdaqf
