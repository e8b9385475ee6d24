import Sdaqf.CompactionSizes

/-!
# Compaction loses nothing

Once the snapshot passes its own validation, the proposal is adopted and the sources are observed
unchanged, nothing in the compaction can fail. Every node of the snapshot is extracted, nothing is
left out, and the parser of compactions accepts the result.
-/

namespace Sdaqf

open Guard
open JsonText (Value quote count)

/-- A compaction that loses nothing of its snapshot. -/
structure Lossless (E : ContextEncoding) (s : ContextSnapshot) (c : ContextCompaction) : Prop where
  /-- No node is left out. -/
  omitted : c.omittedNodeIds = []
  /-- Every node is extracted once, with its text and the digest of that text. -/
  nodes : ∀ node ∈ s.nodes, (c.extracts.filter (·.nodeId = node.nodeId)).map
    (fun extract => (extract.text, extract.textSha256)) = [(node.text, E.textSha256 node.text)]
  /-- Nothing else is extracted. -/
  extracts : ∀ extract ∈ c.extracts, extract.nodeId ∈ s.nodes.map (·.nodeId)
  /-- The markers are the contradictions of the snapshot. -/
  markers : ∀ id, id ∈ c.markers ↔ id ∈ s.contradictionIds
  /-- Each marker stands at two extracts. -/
  twice : ∀ id ∈ c.markers, (c.extracts.filter (id ∈ ·.contradictionIds)).length = 2

variable {E : ContextEncoding} {B : ContextBoundary}
  {snapshot : LoadedContextArtifact ContextSnapshot}
  {proposal : Option (LoadedContextArtifact HostSummaryProposal)} {proposalId : Option String}
  {sensitivity : Sensitivity}

/-! ## What the proposal brings -/

/-- What the compaction takes from its proposal. -/
structure AdoptedProposal (s : ContextSnapshot) (proposalId : Option String)
    (sensitivity : Sensitivity) : Prop where
  named : ∀ id ∈ proposalId, IsContextId "CTX-HOST-SUMMARY-PROPOSAL-" id ∧ (quote id).length ≤ 92
  adoptable : sensitivity ≠ .secretOrProhibited
  highest : s.sensitivity.rank ≤ sensitivity.rank

theorem readHostProposal_adopted (h : LawfulSnapshot E snapshot.value)
    (hread : readHostProposal E snapshot proposal = .ok (proposalId, sensitivity)) :
    AdoptedProposal snapshot.value proposalId sensitivity := by
  cases proposal with
  | none =>
    cases hread
    exact ⟨by simp, h.sensitivity, le_rfl⟩
  | some proposal =>
    simp only [readHostProposal, bind_eq_ok, pure_eq_ok, Prod.mk.injEq] at hread
    obtain ⟨⟨id, adopted⟩, hadopt, rfl, rfl⟩ := hread
    obtain ⟨hvalid, -, -, -, hresult⟩ := adoptHostProposal_eq_ok.mp hadopt
    obtain ⟨rfl, rfl⟩ := Prod.mk.injEq .. ▸ hresult
    have hid : IsContextId "CTX-HOST-SUMMARY-PROPOSAL-" proposal.artifactId :=
      contextId_eq_ok.mp hvalid.named
    have hmark : "CTX-HOST-SUMMARY-PROPOSAL-".toList.length = 26 := by decide
    refine ⟨?_, ?_, ?_⟩
    · rintro _ ⟨⟩
      refine ⟨hid, ?_⟩
      rw [length_quote_identity hid hvalid.identity, hmark]
    · split
      · exact (proposalContract_eq_ok.mp hvalid.contract).sensitivity
      · exact h.sensitivity
    · split
      · rename_i hlt
        exact hlt.le
      · exact le_rfl

/-! ## The compaction is accepted -/

theorem length_quote_snapshotId (h : (snapshotKind E).Valid E snapshot) :
    (quote snapshot.artifactId).length = 79 := by
  have hmark : "CTX-SNAPSHOT-".toList.length = 13 := by decide
  have hid : IsContextId "CTX-SNAPSHOT-" snapshot.artifactId := contextId_eq_ok.mp h.named
  rw [length_quote_identity hid h.identity, hmark]

/-- Every extract is lawful. -/
theorem lawfulExtract {s : ContextSnapshot} (h : LawfulSnapshot E s) {node : ContextNode}
    (hnode : node ∈ s.nodes) : LawfulExtract E (extractOf s canonicalSize node) := by
  have hlaw := h.nodes node hnode
  have hcost : canonicalSize (.text node.text) ≤ 8388608 :=
    (List.single_le_sum (fun _ _ => Nat.zero_le _) _ (List.mem_map_of_mem hnode)).trans
      (h.texts_le.trans h.budget.2)
  have hids : ∀ id ∈ s.contradictionIdsOf node.nodeId, id ∈ s.contradictionIds := by
    intro id hid
    obtain ⟨edge, hedge, ⟨htype, -⟩, rfl⟩ := mem_contradictionIdsOf.mp hid
    exact List.mem_map_of_mem (List.mem_filter.mpr ⟨hedge, decide_eq_true htype⟩)
  have hsorted : (s.contradictionIdsOf node.nodeId).Pairwise (· < ·) := Sorting.pairwise_lt_listed
  have hfew : (s.contradictionIdsOf node.nodeId).length ≤ s.contradictionIds.length :=
    List.Subperm.length_le (List.subperm_of_subset (hsorted.imp ne_of_lt) hids)
  exact {
    content := hlaw.content
    bounded := ⟨JsonText.length_dumps_pos _, hcost⟩
    costBytes := rfl
    sensitivity := hlaw.sensitivity
    nodeId := hlaw.nodeId
    sourceId := hlaw.sourceId
    few := hfew.trans (h.unresolved ▸ h.fewContradictions)
    contradictionIds := fun id hid =>
      (sorted_contradictionIds h.edges h.orderedEdges).1 id (hids id hid)
    ordered := hsorted }

/-- The parser of compactions takes the compaction that extracts every node. -/
theorem fullCompaction_contract (h : (snapshotKind E).Valid E snapshot)
    (hadopted : AdoptedProposal snapshot.value proposalId sensitivity) :
    (fullCompaction snapshot proposalId sensitivity).contract E = .ok () := by
  have hlaw := snapshotContract_eq_ok.mp h.contract
  obtain ⟨required, hfilter, hrequired, -⟩ := hlaw.canonical
  have hmember : required ∈ snapshot.value.nodes :=
    (List.mem_filter.mp (hfilter ▸ List.mem_singleton_self required)).1
  have hids : (snapshot.value.nodes.map (extractOf snapshot.value canonicalSize)).map (·.nodeId) =
      snapshot.value.nodes.map (·.nodeId) := by
    rw [List.map_map]
    rfl
  have hcosts : (snapshot.value.nodes.map (extractOf snapshot.value canonicalSize)).map
      (·.costBytes) = snapshot.value.nodes.map fun node => canonicalSize (.text node.text) := by
    rw [List.map_map]
    rfl
  have hmarkers : (fullCompaction snapshot proposalId sensitivity).markers =
      snapshot.value.markers := by
    rw [ContextCompaction.markers, fullCompaction, List.flatMap_map]
    rfl
  have hcontradictions := sorted_contradictionIds hlaw.edges hlaw.orderedEdges
  have hused : integerValue "content.used_bytes" 0 8388608
      ((snapshot.value.nodes.map fun node => canonicalSize (.text node.text)).sum : Nat) = .ok () :=
    natValue_eq_ok.mpr ⟨Nat.zero_le _, hlaw.texts_le.trans hlaw.budget.2⟩
  have hbudget : integerValue "content.budget_bytes" 1024 8388608 snapshot.value.budgetBytes =
      .ok () := natValue_eq_ok.mpr hlaw.budget
  simp only [ContextCompaction.contract, bind_eq_ok, exists_unit, require_eq_ok, arrayValue_eq_ok,
    ascendingUnique_eq_ok, sortedIdTuple_eq_ok, forEach_eq_ok, contextId_eq_ok,
    rejectProhibited_eq_ok, candidateIdentity_eq_ok, hmarkers,
    forEachIndexed_eq_ok (p := LawfulExtract E) fun _ _ => extractContract_eq_ok]
  simp only [fullCompaction, List.length_map, List.forall_mem_map, hids, hcosts]
  refine ⟨hlaw.few, fun node hnode => lawfulExtract hlaw hnode, by simpa using hlaw.nonempty, ?_,
    hlaw.ordered, ?_, hlaw.listed_markers, hused, hbudget, ⟨hlaw.texts_le, trivial⟩, ?_,
    hadopted.adoptable, ?_, by simp, by simp, hlaw.candidate, contextId_eq_ok.mp h.named⟩
  · exact ⟨_, List.mem_map_of_mem hmember, hrequired⟩
  · rw [hlaw.unresolved]
    exact ⟨hlaw.unresolved ▸ hlaw.fewContradictions, hcontradictions⟩
  · intro id hid
    exact (hadopted.named id (Option.mem_toList.mp hid)).1
  · intro node hnode
    exact (hlaw.highest.2 _ (List.mem_map_of_mem hnode)).trans hadopted.highest

theorem shallow_compaction {c : ContextCompaction} {n : Nat} (hn : 5 ≤ n) :
    JsonText.Shallow n c.toDict := by
  have hextract (e : ContextExtract) : JsonText.Shallow (n - 1 - 1) e.toDict := by
    rw [ContextExtract.toDict, JsonText.shallow_object_iff (by omega)]
    simp only [List.forall_mem_cons, List.not_mem_nil, false_implies, implies_true, and_true]
    exact ⟨JsonText.shallow_text, JsonText.shallow_text, JsonText.shallow_text,
      JsonText.shallow_text, JsonText.shallow_text, JsonText.shallow_text,
      JsonText.shallow_boolean, shallow_textArray (by omega), JsonText.shallow_number⟩
  have hcandidate : JsonText.Shallow (n - 1) c.candidate.toDict := by
    rw [CandidateIdentity.toDict, JsonText.shallow_object_iff (by omega)]
    simp [JsonText.shallow_text]
  rw [ContextCompaction.toDict, JsonText.shallow_object_iff (by omega)]
  simp only [List.forall_mem_cons, List.not_mem_nil, false_implies, implies_true, and_true]
  refine ⟨hcandidate, JsonText.shallow_text, JsonText.shallow_text, JsonText.shallow_number,
    JsonText.shallow_number, ?_, shallow_textArray (by omega), shallow_textArray (by omega), ?_⟩
  · rw [JsonText.shallow_array_iff (by omega), List.forall_mem_map]
    exact fun e _ => hextract e
  · cases c.hostSummaryProposalId with
    | none => exact JsonText.shallow_null
    | some id => exact JsonText.shallow_text

/-- The name of an artifact with a content. -/
def nameOf (E : ContextEncoding) (c : ContextCompaction) : String :=
  "CTX-COMPACTION-" ++ E.contentSha256 c.toDict

/-- The artifact of the compaction that extracts every node keeps every limit. -/
theorem fullCompaction_valid (h : (snapshotKind E).Valid E snapshot)
    (hadopted : AdoptedProposal snapshot.value proposalId sensitivity) :
    (compactionKind E).Valid E ⟨nameOf E (fullCompaction snapshot proposalId sensitivity),
      fullCompaction snapshot proposalId sensitivity⟩ := by
  have hlaw := snapshotContract_eq_ok.mp h.contract
  have hnamed : IsContextId "CTX-COMPACTION-"
      (nameOf E (fullCompaction snapshot proposalId sensitivity)) :=
    isContextId_append (by decide) (E.isDigest_contentSha256 _)
  have hmark : "CTX-COMPACTION-".toList.length = 15 := by decide
  have hlength := length_quote_identity (E := E) hnamed rfl
  have hbytes := @length_printed_le _ _ _ sensitivity hlaw (length_quote_snapshotId h) _
    (hlength.trans (by rw [hmark])) fun id hid => (hadopted.named id hid).2
  have hcount := @count_content_le _ _ proposalId sensitivity hlaw
  have hcontent := (validateCanonicalValue_eq_ok.mp h.content).few
  have henvelope := (validateCanonicalValue_eq_ok.mp h.canonical).few
  have hkinds : count ((compactionKind E).envelope
      ⟨nameOf E (fullCompaction snapshot proposalId sensitivity),
        fullCompaction snapshot proposalId sensitivity⟩) ≤
      count ((snapshotKind E).envelope snapshot) := by
    simp only [ContextArtifactKind.envelope, JsonText.count_object, JsonText.count_text,
      List.map_cons, List.map_nil, List.sum_cons, List.sum_nil, compactionKind, snapshotKind]
    omega
  refine ⟨rfl, contextId_eq_ok.mpr hnamed, fullCompaction_contract h hadopted,
    hbytes.trans h.bytes, hbytes.trans h.typeBytes,
    validateCanonicalValue_eq_ok.mpr ⟨shallow_compaction (by omega), hcount.trans hcontent⟩,
    validateCanonicalValue_eq_ok.mpr ⟨?_, hkinds.trans henvelope⟩⟩
  rw [ContextArtifactKind.envelope, JsonText.shallow_object_iff (by omega)]
  simp only [List.forall_mem_cons, List.not_mem_nil, false_implies, implies_true, and_true]
  exact ⟨JsonText.shallow_text, JsonText.shallow_text, JsonText.shallow_text,
    shallow_compaction (by omega)⟩

/-! ## What is extracted -/

theorem fullCompaction_lossless (h : LawfulSnapshot E snapshot.value) :
    Lossless E snapshot.value (fullCompaction snapshot proposalId sensitivity) := by
  have hmarkers : (fullCompaction snapshot proposalId sensitivity).markers =
      snapshot.value.markers := by
    rw [ContextCompaction.markers, fullCompaction, List.flatMap_map]
    rfl
  have hmem (id : String) : id ∈ snapshot.value.markers ↔ id ∈ snapshot.value.contradictionIds := by
    rw [← h.unresolved, ← h.listed_markers.1, Sorting.mem_listed, List.mem_toFinset]
  refine ⟨rfl, fun node hnode => ?_, ?_, fun id => ?_, fun id hid => ?_⟩
  · have hsingle : snapshot.value.nodes.filter (·.nodeId = node.nodeId) = [node] :=
      filter_key_eq h.ids_nodup hnode
    rw [fullCompaction, List.filter_map, List.map_map, (h.nodes node hnode).content.digest]
    exact congrArg (List.map fun node => (node.text, node.textSha256)) hsingle
  · simp only [fullCompaction, List.forall_mem_map]
    exact fun node hnode => List.mem_map_of_mem hnode
  · rw [hmarkers, hmem]
  · rw [hmarkers, h.mem_markers] at hid
    obtain ⟨edge, hedge, htype, rfl⟩ := hid
    rw [fullCompaction, List.filter_map, List.length_map]
    exact h.length_marked hedge htype

/-! ## Runs of the compactor -/

/-- Once its input is validated, adopted and observed, the compactor returns the compaction that
extracts every node. -/
theorem compact_eq_ok (h : (snapshotKind E).Valid E snapshot) {ownerRoot : Bool}
    (hread : readHostProposal E snapshot proposal = .ok (proposalId, sensitivity))
    (hsources : B.verifySnapshotSources E snapshot.value ownerRoot = .ok ()) :
    compact E B canonicalSize snapshot ownerRoot proposal =
      .ok ⟨nameOf E (fullCompaction snapshot proposalId sensitivity),
        fullCompaction snapshot proposalId sensitivity⟩ := by
  have hlaw := snapshotContract_eq_ok.mp h.contract
  have hadopted := readHostProposal_adopted hlaw hread
  have hvalid := fullCompaction_valid h hadopted
  obtain ⟨x, hfold, hextracts, homitted, hused⟩ := hlaw.extraction
  have hcompaction : x.compaction snapshot proposalId sensitivity =
      fullCompaction snapshot proposalId sensitivity := by
    rw [Extraction.compaction, fullCompaction, hextracts, homitted, hused, List.insertionSort_nil]
  have hsome : x.extracts ≠ [] := by
    rintro hnone
    rw [hnone, List.insertionSort_nil] at hextracts
    exact hlaw.nonempty (List.map_eq_nil_iff.mp hextracts.symm)
  have hstrict : relabel "Snapshot failed strict validation before compaction."
      ((snapshotKind E).strictlyValidate E snapshot) = .ok snapshot :=
    relabel_eq_ok.mpr (ContextArtifactKind.strictlyValidate_eq_ok.mpr ⟨h, rfl⟩)
  have hidentity : contextIdentity E "CTX-COMPACTION-"
      (fullCompaction snapshot proposalId sensitivity).toDict =
      .ok (nameOf E (fullCompaction snapshot proposalId sensitivity)) :=
    contextIdentity_eq_ok.mpr ⟨validateCanonicalValue_eq_ok.mp hvalid.content, rfl⟩
  simp only [compact, bind_eq_ok, exists_unit, require_eq_ok]
  exact ⟨snapshot, hstrict, _, hread, hsources, x, hfold, hsome, _, by
    rw [hcompaction, ContextArtifactKind.artifactFromValue, bind_eq_ok]
    exact ⟨_, hidentity, rfl⟩, ContextArtifactKind.strictlyValidate_eq_ok.mpr ⟨hvalid, rfl⟩⟩

/-! ## Refusals -/

theorem relabel_eq_error {α : Type} {message e : String} {x : Except String α}
    (h : relabel message x = .error e) : e = message := by
  cases x <;> simp_all [relabel, Except.mapError]

/-- The text with which the compactor would refuse extracts beyond its budget. -/
def budgetError : String := "Required extracts exceed the compaction budget."

theorem readHostProposal_ne :
    readHostProposal E snapshot proposal ≠ .error budgetError := by
  intro h
  cases proposal with
  | none => cases h
  | some proposal =>
    simp only [readHostProposal, adoptHostProposal, validateHostProposal, bind_eq_error,
      require_eq_error] at h
    rcases h with (h | ⟨_, -, (⟨-, h⟩ | ⟨-, -, ⟨-, h⟩ | ⟨-, -, h | ⟨_, -, h⟩⟩⟩) | ⟨_, -, h⟩⟩) |
      ⟨_, -, h⟩
    · exact absurd (relabel_eq_error h) (by decide)
    · exact absurd h (by decide)
    · exact absurd h (by decide)
    · obtain ⟨claim, -, hclaim⟩ := forEach_eq_error h
      simp only [validateCitations, bind_eq_error, require_eq_error] at hclaim
      rcases hclaim with ⟨-, h⟩ | ⟨-, -, -, h⟩ <;> exact absurd h (by decide)
    · cases h
    · cases h
    · cases h

theorem verifySnapshotSources_ne {s : ContextSnapshot} {ownerRoot : Bool} :
    B.verifySnapshotSources E s ownerRoot ≠ .error budgetError := by
  intro h
  simp only [ContextBoundary.verifySnapshotSources, bind_eq_error, require_eq_error] at h
  rcases h with ⟨-, h⟩ | ⟨-, -, ⟨-, h⟩ | ⟨-, -, h⟩⟩
  · exact absurd h (by decide)
  · exact absurd h (by decide)
  · exact absurd (relabel_eq_error h) (by decide)

/-! ## The result -/

/-- The compactor succeeds exactly if the snapshot passes its own validation, the proposal is
adopted and the sources are observed unchanged. It never runs out of budget, it loses nothing, and
its result is accepted by its own parser. -/
theorem compaction_lossless (E : ContextEncoding) (B : ContextBoundary)
    (snapshot : LoadedContextArtifact ContextSnapshot) (ownerRoot : Bool)
    (proposal : Option (LoadedContextArtifact HostSummaryProposal)) :
    ((∃ artifact, compact E B canonicalSize snapshot ownerRoot proposal = .ok artifact) ↔
      (snapshotKind E).Valid E snapshot ∧
      (∃ result, readHostProposal E snapshot proposal = .ok result) ∧
      B.verifySnapshotSources E snapshot.value ownerRoot = .ok ()) ∧
    compact E B canonicalSize snapshot ownerRoot proposal ≠
      .error "Required extracts exceed the compaction budget." ∧
    ∀ artifact, compact E B canonicalSize snapshot ownerRoot proposal = .ok artifact →
      Lossless E snapshot.value artifact.value ∧
      (compactionKind E).strictlyValidate E artifact = .ok artifact := by
  have hinput {artifact} (h : compact E B canonicalSize snapshot ownerRoot proposal = .ok artifact) :
      (snapshotKind E).Valid E snapshot ∧
      (∃ result, readHostProposal E snapshot proposal = .ok result) ∧
      B.verifySnapshotSources E snapshot.value ownerRoot = .ok () := by
    simp only [compact, bind_eq_ok, exists_unit, relabel_eq_ok,
      ContextArtifactKind.strictlyValidate_eq_ok] at h
    obtain ⟨_, ⟨hvalid, rfl⟩, result, hread, hsources, -⟩ := h
    exact ⟨hvalid, ⟨result, hread⟩, hsources⟩
  refine ⟨⟨fun h => ?_, fun h => ?_⟩, fun hbudget => ?_, fun artifact h => ?_⟩
  · obtain ⟨artifact, h⟩ := h
    exact hinput h
  · obtain ⟨hvalid, ⟨_, hread⟩, hsources⟩ := h
    exact ⟨_, compact_eq_ok hvalid hread hsources⟩
  · rcases bind_eq_error.mp hbudget with herror | ⟨_, hstrict, herror⟩
    · exact absurd (relabel_eq_error herror) (by decide)
    obtain ⟨hvalid, rfl⟩ := ContextArtifactKind.strictlyValidate_eq_ok.mp (relabel_eq_ok.mp hstrict)
    rcases bind_eq_error.mp herror with herror | ⟨_, hread, herror⟩
    · exact readHostProposal_ne herror
    rcases bind_eq_error.mp herror with herror | ⟨_, hsources, -⟩
    · exact verifySnapshotSources_ne herror
    cases hbudget.symm.trans (compact_eq_ok hvalid hread hsources)
  · obtain ⟨hvalid, ⟨_, hread⟩, hsources⟩ := hinput h
    have hcompact := compact_eq_ok hvalid hread hsources
    have hlaw := snapshotContract_eq_ok.mp hvalid.contract
    cases h.symm.trans hcompact
    exact ⟨fullCompaction_lossless hlaw, ContextArtifactKind.strictlyValidate_eq_ok.mpr
      ⟨fullCompaction_valid hvalid (readHostProposal_adopted hlaw hread), rfl⟩⟩

/-! ## A source that changed -/

namespace Sample

/-- Every file holds one line. -/
def lineBoundary (line : String) : ContextBoundary where
  verifyCandidate _ := .ok ()
  observe _ := .ok ⟨line.toList, line⟩
  verifyReference _ _ := .ok ()
  verifyEdgeReference _ _ := .ok ()

end Sample

/-- A valid snapshot whose line was changed in the files is not compacted. -/
theorem changed_line_refused :
    (snapshotKind Sample.quotedEncoding).Valid Sample.quotedEncoding Sample.quotedSnapshot ∧
    ¬∃ artifact, compact Sample.quotedEncoding
      (Sample.lineBoundary "The importer accepts unknown columns.\n") canonicalSize
      Sample.quotedSnapshot false none = .ok artifact := by
  refine ⟨Sample.valid_quotedSnapshot, ?_⟩
  rintro ⟨artifact, h⟩
  simp only [compact, bind_eq_ok, exists_unit, relabel_eq_ok,
    ContextArtifactKind.strictlyValidate_eq_ok, ContextBoundary.verifySnapshotSources,
    forEach_eq_ok] at h
  obtain ⟨_, ⟨-, rfl⟩, -, -, ⟨-, -, -, -, -, hnodes, -⟩, -⟩ := h
  have hchanged : (Sample.lineBoundary "The importer accepts unknown columns.\n").verifySource
      Sample.quotedSnapshot.value.asOf Sample.specNode =
      .error "Snapshot text does not match its observed source." := by
    decide +kernel
  have hspec := hnodes Sample.specNode (by simp [Sample.quotedSnapshot])
  cases hchanged.symm.trans hspec

/-- The same snapshot is compacted while its line stands in the files. -/
theorem unchanged_line_compacted : ∃ artifact, compact Sample.quotedEncoding
    (Sample.lineBoundary "The importer rejects unknown columns.\n") canonicalSize
    Sample.quotedSnapshot false none = .ok artifact := by
  have hlaw := Sample.lawful_quotedSnapshot
  have hsources : (Sample.lineBoundary "The importer rejects unknown columns.\n").verifySnapshotSources
      Sample.quotedEncoding Sample.quotedSnapshot.value false = .ok () := by
    have hobserved : forEach ((Sample.lineBoundary
        "The importer rejects unknown columns.\n").verifySource Sample.quotedSnapshot.value.asOf)
        Sample.quotedSnapshot.value.nodes = .ok () := by decide +kernel
    have howner : Sample.quotedSnapshot.value.nodes.filter (·.locator.rootScope = .owner) = [] := rfl
    simp only [ContextBoundary.verifySnapshotSources, howner, bind_eq_ok, exists_unit,
      require_eq_ok, relabel_eq_ok, hobserved, forEach_eq_ok]
    refine ⟨by simp, by simp, hlaw.sources, fun node hnode => ?_, rfl, trivial, by
      simp [Sample.quotedSnapshot], rfl⟩
    have hnamed := (hlaw.nodes node hnode).sourceNamed
    exact ⟨hlaw.authority node hnode, _, contextIdentity_eq_ok.mpr ⟨hnamed.canonical, rfl⟩,
      hnamed.identity⟩
  exact ⟨_, compact_eq_ok Sample.valid_quotedSnapshot rfl hsources⟩

end Sdaqf
