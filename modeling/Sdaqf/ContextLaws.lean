import Sdaqf.ContextArtifacts
import Sdaqf.ContractLaws

/-!
# What the context contracts accept

The verdict of a context contract does not depend on the field it reports. Each check is restated as
a predicate on the value, and an identity that a digest gives is accepted everywhere.
-/

namespace Sdaqf

open Guard
open JsonText (Value)

variable {field mark text : String} {minimum maximum : Nat} {u : Unit}

/-! ## Identities -/

theorem isContextId_iff : isContextId text = true ↔ ∃ middle digest,
    text.toList = "CTX-".toList ++ (middle ++ digest) ∧ isDigest digest = true ∧
      middle.getLast? = some '-' ∧ 2 ≤ middle.length ∧
      (middle.all fun c => isUpper c || c = '-') = true := by
  simp only [isContextId, Bool.and_eq_true, decide_eq_true_eq, List.isPrefixOf_iff_prefix]
  constructor
  · rintro ⟨⟨⟨⟨⟨body, hbody⟩, hdigest⟩, hlast⟩, hlength⟩, hall⟩
    have hdrop : text.toList.drop 4 = body := by
      rw [← hbody]
      rfl
    rw [hdrop] at hdigest hlast hlength hall
    exact ⟨_, _, by rw [List.take_append_drop, hbody], hdigest, hlast, hlength, hall⟩
  · rintro ⟨middle, digest, htext, hdigest, hlast, hlength, hall⟩
    have hdrop : text.toList.drop 4 = middle ++ digest := by
      rw [htext]
      rfl
    have hsize : (middle ++ digest).length - 64 = middle.length := by
      rw [List.length_append, (isDigest_iff.mp hdigest).1]
      omega
    rw [hdrop, hsize, List.take_left, List.drop_left]
    exact ⟨⟨⟨⟨⟨_, htext.symm⟩, hdigest⟩, hlast⟩, hlength⟩, hall⟩

theorem visible_of_isContextId (h : isContextId text = true) : ∀ c ∈ text.toList, Visible c := by
  obtain ⟨middle, digest, htext, hdigest, -, -, hall⟩ := isContextId_iff.mp h
  intro c hc
  rw [htext, List.mem_append, List.mem_append] at hc
  rcases hc with hc | hc | hc
  · have hmark : "CTX-".toList.all (fun c => decide (Visible c)) = true := by decide
    exact of_decide_eq_true (List.all_eq_true.mp hmark c hc)
  · have hrule := List.all_eq_true.mp hall c hc
    simp only [Bool.or_eq_true, decide_eq_true_eq] at hrule
    rcases hrule with hrule | rfl
    · exact visible_of_isUpper hrule
    · decide
  · exact visible_of_isNativeCharacter
      (isNativeCharacter_of_isUpperHex ((isDigest_iff.mp hdigest).2 c hc))

instance : LegiblePattern (isContextIdOf mark) where
  legible text h := by
    rw [isContextIdOf, Bool.and_eq_true] at h
    refine ⟨?_, visible_of_isContextId h.1⟩
    obtain ⟨middle, digest, htext, -⟩ := isContextId_iff.mp h.1
    rw [htext]
    exact List.cons_ne_nil _ _

/-- A text that is accepted as an identity with a mark. -/
abbrev IsContextId (mark text : String) : Prop := AcceptedText 128 (isContextIdOf mark) text

@[simp] theorem contextId_eq_ok : contextId field mark text = .ok u ↔ IsContextId mark text :=
  patternText_eq_ok

/-- A mark of identities: `CTX-`, capital letters other than `K`, and hyphens. -/
def isMark (mark : String) : Bool :=
  "CTX-".toList.isPrefixOf mark.toList && mark.toList.getLast? = some '-' &&
    6 ≤ mark.toList.length && mark.toList.length ≤ 64 &&
    mark.toList.all fun c => (isUpper c || c = '-') && c ≠ 'K'

/-- A mark and a digest make an identity. -/
theorem isContextId_append {digest : String} (hmark : isMark mark = true)
    (hdigest : isDigest digest.toList = true) : IsContextId mark (mark ++ digest) := by
  simp only [isMark, Bool.and_eq_true, decide_eq_true_eq, List.isPrefixOf_iff_prefix] at hmark
  obtain ⟨⟨⟨⟨⟨middle, hmiddle⟩, hlast⟩, hlong⟩, hshort⟩, hall⟩ := hmark
  obtain ⟨hlength, hhex⟩ := isDigest_iff.mp hdigest
  have hrule : ∀ c ∈ mark.toList, (isUpper c = true ∨ c = '-') ∧ c ≠ 'K' := by
    simpa only [List.all_eq_true, Bool.and_eq_true, Bool.or_eq_true, decide_eq_true_eq] using hall
  have htext : (mark ++ digest).toList = mark.toList ++ digest.toList := String.toList_append
  have hfour : "CTX-".toList.length = 4 := by decide
  have hsize : mark.toList.length = 4 + middle.length := by
    rw [← hmiddle, List.length_append, hfour]
  refine ⟨?_, ?_, ?_⟩
  · rw [isContextIdOf, Bool.and_eq_true, List.isPrefixOf_iff_prefix, htext]
    refine ⟨isContextId_iff.mpr ⟨middle, digest.toList, ?_, hdigest, ?_, by omega, ?_⟩,
      List.prefix_append _ _⟩
    · rw [htext, ← hmiddle, List.append_assoc]
    · rw [← hmiddle, List.getLast?_append] at hlast
      cases hend : middle.getLast? with
      | none =>
        rw [List.getLast?_eq_none_iff.mp hend] at hsize
        simp at hsize
        omega
      | some c => simpa [hend] using hlast
    · rw [List.all_eq_true]
      intro c hc
      have hrule := (hrule c (by rw [← hmiddle]; exact List.mem_append_right _ hc)).1
      simpa only [Bool.or_eq_true, decide_eq_true_eq] using hrule
  · rw [htext, List.length_append, hlength]
    omega
  · rw [htext]
    have hnative : ∀ c ∈ mark.toList ++ digest.toList, isNativeCharacter c = true ∧ c ≠ 'K' := by
      intro c hc
      rcases List.mem_append.mp hc with hc | hc
      · refine ⟨?_, (hrule c hc).2⟩
        rcases (hrule c hc).1 with hupper | rfl
        · exact isNativeCharacter_of_isUpper hupper
        · decide
      · refine ⟨isNativeCharacter_of_isUpperHex (hhex c hc), ?_⟩
        rintro rfl
        exact absurd (hhex _ hc) (by decide)
    refine secretFree_of_native (fun c hc => (hnative c hc).1) fun hpart => ?_
    exact (hnative 'K' (hpart.subset (by simp))).2 rfl

/-- An identity is accepted by its characters. -/
theorem isContextId_ofList {mark : String} {cs : List Char} (hmark : isMark mark = true)
    (hstart : mark.toList <+: cs) (hdigest : isDigest (cs.drop mark.toList.length) = true) :
    IsContextId mark (String.ofList cs) := by
  obtain ⟨digest, rfl⟩ := hstart
  rw [List.drop_left] at hdigest
  have happend : String.ofList (mark.toList ++ digest) = mark ++ String.ofList digest := by
    rw [String.ofList_append, String.ofList_toList]
  rw [happend]
  exact isContextId_append hmark (by rwa [String.toList_ofList])

/-! ## Texts -/

/-- What the check of a context text asks. -/
structure LawfulText (maximum : Nat) (allowEmpty : Bool) (text : String) : Prop where
  written : allowEmpty = true ∨ Payload.Written text
  bounded : text.toList.length ≤ maximum
  sized : maximum = maxSourceBytes → text.toList.length ≤ maxSourceCharacters ∧
    byteLength text.toList ≤ maxSourceBytes
  supported : '\x00' ∉ text.toList
  secretFree : SecretFree text.toList

@[simp] theorem contextText_eq_ok {allowEmpty : Bool} :
    contextText field maximum allowEmpty text = .ok u ↔ LawfulText maximum allowEmpty text := by
  simp only [contextText, bind_eq_ok, exists_unit, require_eq_ok, ← secretFree_iff]
  constructor
  · rintro ⟨h₁, h₂, h₃, h₄, h₅⟩
    exact ⟨h₁, h₂, h₃, h₄, h₅⟩
  · intro h
    exact ⟨h.1, h.2, h.3, h.4, h.5⟩

instance {allowEmpty : Bool} : Decidable (LawfulText maximum allowEmpty text) :=
  decidable_of_iff (contextText "" maximum allowEmpty text = .ok ()) contextText_eq_ok

/-! ## Ordered arrays -/

@[simp] theorem ascendingUnique_eq_ok {α : Type} [LinearOrder α] {values : List α} :
    ascendingUnique field values = .ok u ↔ values.Pairwise (· < ·) := by
  simp only [ascendingUnique, bind_eq_ok, exists_unit, require_eq_ok]
  constructor
  · rintro ⟨hle, hnodup⟩
    exact (hle.and hnodup).imp fun hab => lt_of_le_of_ne hab.1 hab.2
  · intro h
    exact ⟨h.imp le_of_lt, h.imp ne_of_lt⟩

@[simp] theorem sortedIdTuple_eq_ok {ids : List String} :
    sortedIdTuple field mark maximum ids = .ok u ↔ ids.length ≤ maximum ∧
      (∀ id ∈ ids, IsContextId mark id) ∧ ids.Pairwise (· < ·) := by
  simp only [sortedIdTuple, bind_eq_ok, exists_unit, arrayValue_eq_ok, ascendingUnique_eq_ok,
    forEachIndexed_eq_ok (p := IsContextId mark) fun _ _ => contextId_eq_ok]

@[simp] theorem sortedTextTuple_eq_ok {texts : List String} :
    sortedTextTuple field minimum maximum texts = .ok u ↔ texts.length ≤ maximum ∧
      (∀ text ∈ texts, LawfulText 500 false text) ∧ minimum ≤ texts.length ∧
      texts.Pairwise (· < ·) := by
  simp only [sortedTextTuple, bind_eq_ok, exists_unit, require_eq_ok, arrayValue_eq_ok,
    ascendingUnique_eq_ok, forEachIndexed_eq_ok (p := LawfulText 500 false) fun _ _ =>
      contextText_eq_ok]

theorem digests_eq_ok {digests : List String} : forEachIndexed field sha256Text digests = .ok u ↔
    ∀ digest ∈ digests, isDigest digest.toList = true := by
  have hcheck (field digest : String) :
      sha256Text field digest = .ok () ↔ isDigest digest.toList = true := sha256Text_eq_ok
  exact forEachIndexed_eq_ok hcheck

@[simp] theorem rejectProhibited_eq_ok {sensitivity : Sensitivity} :
    rejectProhibited field sensitivity = .ok u ↔ sensitivity ≠ .secretOrProhibited :=
  require_eq_ok

/-! ## Arrays of texts -/

@[simp] theorem count_textArray {texts : List String} :
    JsonText.count (Payload.textArray texts) = texts.length + 1 := by
  induction texts with
  | nil => rfl
  | cons text texts ih =>
    simp only [Payload.textArray, JsonText.count_array, List.map_cons, List.sum_cons,
      JsonText.count_text, List.length_cons] at ih ⊢
    omega

theorem shallow_textArray {n : Nat} (hn : n ≠ 0) {texts : List String} :
    JsonText.Shallow n (Payload.textArray texts) := by
  rw [Payload.textArray, JsonText.shallow_array_iff hn, List.forall_mem_map]
  exact fun _ _ => JsonText.shallow_text

/-! ## Nodes -/

/-- Ordered texts, neither too few nor too many. -/
structure OrderedTexts (minimum maximum : Nat) (texts : List String) : Prop where
  bounded : texts.length ≤ maximum
  lawful : ∀ text ∈ texts, LawfulText 500 false text
  enough : minimum ≤ texts.length
  ordered : texts.Pairwise (· < ·)

theorem sortedTextTuple_iff {texts : List String} :
    sortedTextTuple field minimum maximum texts = .ok u ↔ OrderedTexts minimum maximum texts := by
  rw [sortedTextTuple_eq_ok]
  constructor
  · rintro ⟨h₁, h₂, h₃, h₄⟩
    exact ⟨h₁, h₂, h₃, h₄⟩
  · intro h
    exact ⟨h.1, h.2, h.3, h.4⟩

/-- A locator that is accepted in every field. -/
def LawfulLocator (l : SourceLocator) : Prop := ∀ field, l.contract field = .ok ()

theorem locatorContract_eq_ok {l : SourceLocator} : l.contract field = .ok u ↔ LawfulLocator l := by
  constructor
  · intro h field'
    simpa only [SourceLocator.contract, integerValue, safeRelativePath, stringValue,
      sha256Text_eq_ok, bind_eq_ok, exists_unit, require_eq_ok] using h
  · exact fun h => h field

/-- A provenance that is accepted in every field. -/
def LawfulProvenance (p : ContextProvenance) : Prop := ∀ field, p.contract field = .ok ()

theorem provenanceContract_eq_ok {p : ContextProvenance} :
    p.contract field = .ok u ↔ LawfulProvenance p := by
  constructor
  · intro h field'
    simpa only [ContextProvenance.contract, arrayValue_eq_ok, bind_eq_ok, exists_unit,
      require_eq_ok, ascendingUnique_eq_ok, contextText_eq_ok,
      forEachIndexed_eq_ok (p := LawfulReference) fun _ _ => referenceContract_eq_ok] using h
  · exact fun h => h field

/-- A freshness that is accepted in every field. -/
def LawfulFreshness (f : Freshness) : Prop := ∀ field, f.contract field = .ok ()

theorem freshnessContract_eq_ok {f : Freshness} :
    f.contract field = .ok u ↔ LawfulFreshness f := by
  constructor
  · intro h field'
    cases f with
    | expiresAt observedAt validUntil =>
      simpa only [Freshness.contract, require_eq_ok] using h
    | _ => rfl
  · exact fun h => h field

/-- A text with its digest, that is accepted in every field. -/
structure LawfulContent (E : ContextEncoding) (text textSha256 : String) : Prop where
  lawful : LawfulText maxSourceBytes true text
  isDigest : isDigest textSha256.toList = true
  digest : E.textSha256 text = textSha256

theorem textContract_eq_ok {E : ContextEncoding} {textSha256 : String} :
    textContract E field text textSha256 = .ok u ↔ LawfulContent E text textSha256 := by
  simp only [textContract, bind_eq_ok, exists_unit, require_eq_ok, contextText_eq_ok,
    sha256Text_eq_ok]
  constructor
  · rintro ⟨h₁, h₂, h₃⟩
    exact ⟨h₁, h₂, h₃⟩
  · intro h
    exact ⟨h.1, h.2, h.3⟩

/-- A value that keeps the limits on depth and size. -/
structure Canonical (value : Value) : Prop where
  shallow : JsonText.Shallow 64 value
  few : JsonText.count value ≤ 250000

theorem validateCanonicalValue_eq_ok {value : Value} {label : String} :
    validateCanonicalValue value label = .ok u ↔ Canonical value := by
  rw [validateCanonicalValue, require_eq_ok]
  exact ⟨fun h => ⟨h.1, h.2⟩, fun h => ⟨h.1, h.2⟩⟩

theorem contextIdentity_eq_ok {E : ContextEncoding} {content : Value} {id : String} :
    contextIdentity E mark content = .ok id ↔
      Canonical content ∧ mark ++ E.contentSha256 content = id := by
  simp only [contextIdentity, bind_eq_ok, exists_unit, pure_eq_ok, validateCanonicalValue_eq_ok]

/-- A value named by the digest of its content. -/
structure Named (E : ContextEncoding) (mark id : String) (content : Value) : Prop where
  canonical : Canonical content
  identity : id = mark ++ E.contentSha256 content

theorem Named.isContextId {E : ContextEncoding} {id : String} {content : Value}
    (h : Named E mark id content) (hmark : isMark mark = true) : IsContextId mark id := by
  rw [h.identity]
  exact isContextId_append hmark (E.isDigest_contentSha256 content)

instance {value : Value} : Decidable (Canonical value) :=
  decidable_of_iff (validateCanonicalValue value "" = .ok ()) validateCanonicalValue_eq_ok

/-- What the contract of a node asks. -/
structure LawfulNode (E : ContextEncoding) (n : ContextNode) : Prop where
  sensitivity : n.sensitivity ≠ .secretOrProhibited
  content : LawfulContent E n.text n.textSha256
  nodeId : IsContextId "CTX-NODE-" n.nodeId
  sourceId : IsContextId "CTX-SOURCE-" n.sourceId
  title : LawfulText 500 false n.title
  locator : LawfulLocator n.locator
  provenance : LawfulProvenance n.provenance
  freshness : LawfulFreshness n.freshness
  identifiers : OrderedTexts 0 128 n.identifiers
  labels : OrderedTexts 0 64 n.labels
  named : Named E "CTX-NODE-" n.nodeId (n.contentDict E)
  sourceNamed : Named E "CTX-SOURCE-" n.sourceId (n.sourceContentDict E)
  immutable : n.freshness = .immutable →
    isJsonPath n.locator.path = true ∧ n.authority.IsAuthoritative ∧ n.SelfReferences

theorem nodeContract_eq_ok {E : ContextEncoding} {n : ContextNode} :
    n.contract E field = .ok u ↔ LawfulNode E n := by
  simp only [ContextNode.contract, ContextNode.validateImmutableContext, bind_eq_ok, exists_unit,
    require_eq_ok, rejectProhibited_eq_ok, textContract_eq_ok, contextId_eq_ok, contextText_eq_ok,
    locatorContract_eq_ok, provenanceContract_eq_ok, freshnessContract_eq_ok, sortedTextTuple_iff,
    contextIdentity_eq_ok]
  constructor
  · rintro ⟨h₁, h₂, h₃, h₄, h₅, h₆, h₇, h₈, h₉, h₁₀, _, ⟨hnode, rfl⟩, hnodeId, _,
      ⟨hsource, rfl⟩, hsourceId, h₁₁⟩
    exact ⟨h₁, h₂, h₃, h₄, h₅, h₆, h₇, h₈, h₉, h₁₀, ⟨hnode, hnodeId⟩, ⟨hsource, hsourceId⟩, h₁₁⟩
  · intro h
    exact ⟨h.1, h.2, h.3, h.4, h.5, h.6, h.7, h.8, h.9, h.10, _, ⟨h.named.canonical, rfl⟩,
      h.named.identity, _, ⟨h.sourceNamed.canonical, rfl⟩, h.sourceNamed.identity, h.immutable⟩

/-- What the checks of a snapshot's nodes ask. -/
structure LawfulNodes (E : ContextEncoding) (s : ContextSnapshot) : Prop where
  few : s.nodes.length ≤ maxGraphNodes
  nodes : ∀ node ∈ s.nodes, LawfulNode E node
  nonempty : s.nodes ≠ []
  ordered : (s.nodes.map (·.nodeId)).Pairwise (· < ·)
  sources : (s.nodes.map (·.sourceId)).Nodup
  authority : ∀ node ∈ s.nodes, node.validateContextAuthority = .ok ()
  candidate : LawfulCandidate s.candidate
  canonical : HasCanonicalSpecification s.candidate s.nodes

theorem nodesContract_eq_ok {E : ContextEncoding} {s : ContextSnapshot} :
    s.nodesContract E = .ok u ↔ LawfulNodes E s := by
  simp only [ContextSnapshot.nodesContract, bind_eq_ok, exists_unit, require_eq_ok,
    arrayValue_eq_ok, ascendingUnique_eq_ok, forEach_eq_ok, candidateIdentity_eq_ok,
    forEachIndexed_eq_ok (p := LawfulNode E) fun _ _ => nodeContract_eq_ok]
  constructor
  · rintro ⟨h₁, h₂, h₃, h₄, h₅, h₆, h₇, h₈⟩
    exact ⟨h₁, h₂, h₃, h₄, h₅, h₆, h₇, h₈⟩
  · intro h
    exact ⟨h.1, h.2, h.3, h.4, h.5, h.6, h.7, h.8⟩

/-! ## Snapshots -/

/-- What the contract of an edge asks. -/
structure LawfulEdge (E : ContextEncoding) (nodeIds : List String) (e : ContextEdge) : Prop where
  sourceNodeId : IsContextId "CTX-NODE-" e.sourceNodeId
  targetNodeId : IsContextId "CTX-NODE-" e.targetNodeId
  proper : e.sourceNodeId ≠ e.targetNodeId
  ends : e.sourceNodeId ∈ nodeIds ∧ e.targetNodeId ∈ nodeIds
  ascending : e.edgeType = .contradicts → e.sourceNodeId ≤ e.targetNodeId
  edgeId : IsContextId "CTX-EDGE-" e.edgeId
  provenance : LawfulProvenance e.provenance
  named : Named E "CTX-EDGE-" e.edgeId e.contentDict

theorem edgeContract_eq_ok {E : ContextEncoding} {nodeIds : List String} {e : ContextEdge} :
    e.recordContract E field nodeIds = .ok u ↔ LawfulEdge E nodeIds e := by
  simp only [ContextEdge.recordContract, ContextEdge.contract, bind_eq_ok, exists_unit,
    require_eq_ok, contextId_eq_ok, provenanceContract_eq_ok, contextIdentity_eq_ok]
  constructor
  · rintro ⟨h₁, h₂, ⟨h₃, h₄, h₅⟩, h₆, h₇, _, ⟨hcanonical, rfl⟩, hid⟩
    exact ⟨h₁, h₂, h₃, h₄, h₅, h₆, h₇, ⟨hcanonical, hid⟩⟩
  · intro h
    exact ⟨h.1, h.2, ⟨h.3, h.4, h.5⟩, h.6, h.7, _, ⟨h.named.canonical, rfl⟩, h.named.identity⟩

/-- What the contract of a selection decision asks. -/
structure LawfulSelected (d : SelectionDecision) : Prop where
  nodeId : IsContextId "CTX-NODE-" d.nodeId
  reasons : OrderedTexts 1 16 d.reasons
  phase : d.phase ≤ 3
  authorityRank : d.authorityRank ≤ 6
  graphDistance : d.graphDistance ≤ 8
  lexicalScore : d.lexicalScore ≤ 1000000
  sensitivityRank : d.sensitivityRank ≤ 3
  costBytes : 1 ≤ d.costBytes ∧ d.costBytes ≤ 8388608

theorem natValue_eq_ok {low high n : Nat} :
    integerValue field low high n = .ok u ↔ low ≤ n ∧ n ≤ high := by
  rw [integerValue_eq_ok]
  omega

theorem selectedContract_eq_ok {d : SelectionDecision} :
    d.contract field = .ok u ↔ LawfulSelected d := by
  have hzero {high n : Nat} {field : String} :
      integerValue field 0 high n = .ok () ↔ n ≤ high := by
    rw [integerValue_eq_ok]
    omega
  have hcost : integerValue (field ++ ".cost_bytes") 1 8388608 d.costBytes = .ok u ↔
      1 ≤ d.costBytes ∧ d.costBytes ≤ 8388608 := natValue_eq_ok
  simp only [SelectionDecision.contract, bind_eq_ok, exists_unit, contextId_eq_ok,
    sortedTextTuple_iff, hcost]
  constructor
  · rintro ⟨h₁, h₂, h₃, h₄, h₅, h₆, h₇, h₈⟩
    exact ⟨h₁, h₂, hzero.mp h₃, hzero.mp h₄, hzero.mp h₅, hzero.mp h₆, hzero.mp h₇, h₈⟩
  · intro h
    exact ⟨h.1, h.2, hzero.mpr h.3, hzero.mpr h.4, hzero.mpr h.5, hzero.mpr h.6, hzero.mpr h.7, h.8⟩

/-- What the contract of an exclusion asks. -/
structure LawfulExclusion (d : ExclusionDecision) : Prop where
  nodeId : IsContextId "CTX-NODE-" d.nodeId
  reason : LawfulText 100 false d.reason
  details : OrderedTexts 0 16 d.details

theorem exclusionContract_eq_ok {d : ExclusionDecision} :
    d.contract field = .ok u ↔ LawfulExclusion d := by
  simp only [ExclusionDecision.contract, bind_eq_ok, exists_unit, contextId_eq_ok,
    contextText_eq_ok, sortedTextTuple_iff]
  constructor
  · rintro ⟨h₁, h₂, h₃⟩
    exact ⟨h₁, h₂, h₃⟩
  · intro h
    exact ⟨h.1, h.2, h.3⟩

/-- A decision states the cost and the ranks of its node. -/
structure Matches (E : ContextEncoding) (n : ContextNode) (d : SelectionDecision) : Prop where
  costBytes : d.costBytes = canonicalSize (n.contentDict E)
  authorityRank : d.authorityRank = n.authority.rank
  sensitivityRank : d.sensitivityRank = n.sensitivity.rank

/-- What the contract of a snapshot asks. -/
structure LawfulSnapshot (E : ContextEncoding) (s : ContextSnapshot) : Prop extends
    LawfulNodes E s where
  fewEdges : s.edges.length ≤ maxGraphEdges
  edges : ∀ edge ∈ s.edges, LawfulEdge E (s.nodes.map (·.nodeId)) edge
  orderedEdges : (s.edges.map (·.edgeId)).Pairwise (· < ·)
  fewSelected : s.selected.length ≤ maxGraphNodes
  selected : ∀ decision ∈ s.selected, LawfulSelected decision
  sameIds : s.selected.map (·.nodeId) = s.nodes.map (·.nodeId)
  agree : ∀ pair ∈ s.nodes.zip s.selected, Matches E pair.1 pair.2
  fewExcluded : s.excluded.length ≤ maxGraphNodes
  excluded : ∀ decision ∈ s.excluded, LawfulExclusion decision
  orderedExcluded : (s.excluded.map (·.nodeId)).Pairwise (· < ·)
  disjoint : ∀ decision ∈ s.excluded, decision.nodeId ∉ s.nodes.map (·.nodeId)
  sensitivity : s.sensitivity ≠ .secretOrProhibited
  highest : s.sensitivity ∈ s.nodes.map (·.sensitivity) ∧
    ∀ source ∈ s.nodes.map (·.sensitivity), source.rank ≤ s.sensitivity.rank
  budget : 1024 ≤ s.budgetBytes ∧ s.budgetBytes ≤ 8388608
  within : s.contextBytes ≤ s.budgetBytes
  accounted : s.contextBytes = s.contentBytes E
  fewContradictions : s.unresolvedContradictionIds.length ≤ maxGraphEdges
  unresolved : s.unresolvedContradictionIds = s.contradictionIds
  graphId : IsContextId "CTX-GRAPH-" s.graphId
  queryId : IsContextId "CTX-QUERY-" s.queryId
  selectionId : IsContextId "CTX-SELECTION-" s.selectionId

section Snapshot

variable {E : ContextEncoding} {s : ContextSnapshot}

theorem edgesContract_eq_ok : s.edgesContract E = .ok u ↔ s.edges.length ≤ maxGraphEdges ∧
    (∀ edge ∈ s.edges, LawfulEdge E (s.nodes.map (·.nodeId)) edge) ∧
      (s.edges.map (·.edgeId)).Pairwise (· < ·) := by
  simp only [ContextSnapshot.edgesContract, bind_eq_ok, exists_unit, arrayValue_eq_ok,
    ascendingUnique_eq_ok,
    forEachIndexed_eq_ok (p := LawfulEdge E (s.nodes.map (·.nodeId))) fun _ _ => edgeContract_eq_ok]

theorem decisionsContract_iff : s.decisionsContract E = .ok u ↔
    (s.selected.length ≤ maxGraphNodes ∧ (∀ decision ∈ s.selected, LawfulSelected decision) ∧
      s.selected.map (·.nodeId) = s.nodes.map (·.nodeId)) ∧
    (∀ pair ∈ s.nodes.zip s.selected, Matches E pair.1 pair.2) ∧
    s.excluded.length ≤ maxGraphNodes ∧ (∀ decision ∈ s.excluded, LawfulExclusion decision) ∧
      (s.excluded.map (·.nodeId)).Pairwise (· < ·) ∧
      ∀ decision ∈ s.excluded, decision.nodeId ∉ s.nodes.map (·.nodeId) := by
  have hmatches (n : ContextNode) (d : SelectionDecision) : (d.costBytes =
      canonicalSize (n.contentDict E) ∧ d.authorityRank = n.authority.rank ∧
        d.sensitivityRank = n.sensitivity.rank) ↔ Matches E n d :=
    ⟨fun h => ⟨h.1, h.2.1, h.2.2⟩, fun h => ⟨h.1, h.2, h.3⟩⟩
  simp only [ContextSnapshot.decisionsContract, bind_eq_ok, exists_unit, require_eq_ok,
    arrayValue_eq_ok, ascendingUnique_eq_ok, forEach_eq_ok, hmatches, and_assoc,
    forEachIndexed_eq_ok (p := LawfulSelected) fun _ _ => selectedContract_eq_ok,
    forEachIndexed_eq_ok (p := LawfulExclusion) fun _ _ => exclusionContract_eq_ok]

/-- The contradictions are named like the edges, and stand in their order. -/
theorem sorted_contradictionIds
    (hedges : ∀ edge ∈ s.edges, LawfulEdge E (s.nodes.map (·.nodeId)) edge)
    (hordered : (s.edges.map (·.edgeId)).Pairwise (· < ·)) :
    (∀ id ∈ s.contradictionIds, IsContextId "CTX-EDGE-" id) ∧
      s.contradictionIds.Pairwise (· < ·) := by
  have hsub : s.contradictionIds.Sublist (s.edges.map (·.edgeId)) := List.filter_sublist.map _
  refine ⟨fun id hid => ?_, hordered.sublist hsub⟩
  obtain ⟨edge, hedge, rfl⟩ := List.mem_map.mp (hsub.subset hid)
  exact (hedges edge hedge).edgeId

theorem snapshotContract_eq_ok : s.contract E = .ok u ↔ LawfulSnapshot E s := by
  have hcontext : integerValue "content.context_bytes" 0 8388608 s.contextBytes = .ok () ↔
      s.contextBytes ≤ 8388608 := by
    rw [integerValue_eq_ok]
    omega
  have hbudget : integerValue "content.budget_bytes" 1024 8388608 s.budgetBytes = .ok () ↔
      1024 ≤ s.budgetBytes ∧ s.budgetBytes ≤ 8388608 := natValue_eq_ok
  simp only [ContextSnapshot.contract, ContextSnapshot.accountsContract, bind_eq_ok, exists_unit,
    nodesContract_eq_ok, edgesContract_eq_ok, decisionsContract_iff, rejectProhibited_eq_ok,
    requireDerivedSensitivity, require_eq_ok, hcontext, hbudget, sortedIdTuple_eq_ok,
    contextId_eq_ok]
  constructor
  · rintro ⟨hnodes, ⟨h₁, h₂, h₃⟩, ⟨⟨h₄, h₅, h₆⟩, h₇, h₈, h₉, h₁₀, h₁₁⟩,
      ⟨h₁₂, h₁₃, -, h₁₄, h₁₅, h₁₆, ⟨h₁₇, -⟩, h₁₈⟩, h₁₉, h₂₀, h₂₁⟩
    exact ⟨hnodes, h₁, h₂, h₃, h₄, h₅, h₆, h₇, h₈, h₉, h₁₀, h₁₁, h₁₂,
      h₁₃ (mt List.map_eq_nil_iff.mp hnodes.nonempty), h₁₄, h₁₅, h₁₆, h₁₇, h₁₈, h₁₉, h₂₀, h₂₁⟩
  · intro h
    refine ⟨h.toLawfulNodes, ⟨h.fewEdges, h.edges, h.orderedEdges⟩,
      ⟨⟨h.fewSelected, h.selected, h.sameIds⟩, h.agree, h.fewExcluded, h.excluded,
        h.orderedExcluded, h.disjoint⟩,
      ⟨h.sensitivity, fun _ => h.highest, h.within.trans h.budget.2, h.budget, h.within,
        h.accounted, ⟨h.fewContradictions, ?_⟩, h.unresolved⟩, h.graphId, h.queryId,
      h.selectionId⟩
    rw [h.unresolved]
    exact sorted_contradictionIds h.edges h.orderedEdges

end Snapshot

/-! ## Extracts -/

/-- What the contract of an extract asks. -/
structure LawfulExtract (E : ContextEncoding) (e : ContextExtract) : Prop where
  content : LawfulContent E e.text e.textSha256
  bounded : 1 ≤ e.costBytes ∧ e.costBytes ≤ 8388608
  costBytes : e.costBytes = canonicalSize (.text e.text)
  sensitivity : e.sensitivity ≠ .secretOrProhibited
  nodeId : IsContextId "CTX-NODE-" e.nodeId
  sourceId : IsContextId "CTX-SOURCE-" e.sourceId
  few : e.contradictionIds.length ≤ maxGraphEdges
  contradictionIds : ∀ id ∈ e.contradictionIds, IsContextId "CTX-EDGE-" id
  ordered : e.contradictionIds.Pairwise (· < ·)

theorem extractContract_eq_ok {E : ContextEncoding} {e : ContextExtract} :
    e.contract E field = .ok u ↔ LawfulExtract E e := by
  have hcost : integerValue (field ++ ".cost_bytes") 1 8388608 e.costBytes = .ok () ↔
      1 ≤ e.costBytes ∧ e.costBytes ≤ 8388608 := natValue_eq_ok
  simp only [ContextExtract.contract, bind_eq_ok, exists_unit, textContract_eq_ok, hcost,
    require_eq_ok, rejectProhibited_eq_ok, contextId_eq_ok, sortedIdTuple_eq_ok]
  constructor
  · rintro ⟨h₁, h₂, h₃, h₄, h₅, h₆, h₇, h₈, h₉⟩
    exact ⟨h₁, h₂, h₃, h₄, h₅, h₆, h₇, h₈, h₉⟩
  · intro h
    exact ⟨h.1, h.2, h.3, h.4, h.5, h.6, h.7, h.8, h.9⟩

/-! ## Claims and proposals -/

/-- What the contract of a claim asks. -/
structure LawfulClaim (c : SourceLinkedClaim) : Prop where
  bounded : c.sourceNodeIds.length ≤ maxGraphNodes
  ids : ∀ nodeId ∈ c.sourceNodeIds, IsContextId "CTX-NODE-" nodeId
  ordered : c.sourceNodeIds.Pairwise (· < ·)
  few : c.extractSha256s.length ≤ 64
  digests : ∀ digest ∈ c.extractSha256s, isDigest digest.toList = true
  distinct : c.extractSha256s.Pairwise (· < ·)
  cites : c.sourceNodeIds ≠ [] ∧ c.extractSha256s ≠ [] ∧
    c.sourceNodeIds.length = c.extractSha256s.length
  worded : LawfulText 4000 false c.claim

theorem claimContract_eq_ok {c : SourceLinkedClaim} : c.contract field = .ok u ↔ LawfulClaim c := by
  simp only [SourceLinkedClaim.contract, bind_eq_ok, exists_unit, require_eq_ok, arrayValue_eq_ok,
    sortedIdTuple_eq_ok, ascendingUnique_eq_ok, contextText_eq_ok,
    digests_eq_ok]
  constructor
  · rintro ⟨⟨h₁, h₂, h₃⟩, h₄, h₅, h₆, h₇, h₈⟩
    exact ⟨h₁, h₂, h₃, h₄, h₅, h₆, h₇, h₈⟩
  · intro h
    exact ⟨⟨h.1, h.2, h.3⟩, h.4, h.5, h.6, h.7, h.8⟩

/-- What the contract of a host summary proposal asks. -/
structure LawfulProposal (p : HostSummaryProposal) : Prop where
  authority : p.authority = .untrustedProposal
  sensitivity : p.sensitivity ≠ .secretOrProhibited
  bounded : p.claims.length ≤ 256
  claims : ∀ claim ∈ p.claims, LawfulClaim claim
  nonempty : p.claims ≠ []
  snapshotId : IsContextId "CTX-SNAPSHOT-" p.snapshotId

theorem proposalContract_eq_ok {p : HostSummaryProposal} :
    p.contract = .ok u ↔ LawfulProposal p := by
  simp only [HostSummaryProposal.contract, bind_eq_ok, exists_unit, require_eq_ok,
    rejectProhibited_eq_ok, arrayValue_eq_ok, contextId_eq_ok,
    forEachIndexed_eq_ok (p := LawfulClaim) fun _ _ => claimContract_eq_ok]
  constructor
  · rintro ⟨h₁, h₂, h₃, h₄, h₅, h₆⟩
    exact ⟨h₁, h₂, h₃, h₄, h₅, h₆⟩
  · intro h
    exact ⟨h.1, h.2, h.3, h.4, h.5, h.6⟩

end Sdaqf
