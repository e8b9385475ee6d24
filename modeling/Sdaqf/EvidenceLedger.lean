import Sdaqf.Baselines

/-!
# The claim-evidence ledger

The claims and the evidence of a ledger and the strict loader of a decoded ledger. A loaded ledger
has distinct claims and distinct evidence in the order of their identifiers, its evidence names
known claims only, and it names passing source-review evidence as its diff review.
-/

namespace Sdaqf.Evidence

open Guard Payload
open JsonText (Value)

/-! ## Records -/

inductive EvidenceType
  | test
  | staticAnalysis
  | typeCheck
  | benchmark
  | visual
  | manualReview
  | sourceReview
  | unverified
deriving DecidableEq

instance : Enumeration EvidenceType where
  value
    | .test => "TEST"
    | .staticAnalysis => "STATIC_ANALYSIS"
    | .typeCheck => "TYPE_CHECK"
    | .benchmark => "BENCHMARK"
    | .visual => "VISUAL"
    | .manualReview => "MANUAL_REVIEW"
    | .sourceReview => "SOURCE_REVIEW"
    | .unverified => "UNVERIFIED"
  all := [.test, .staticAnalysis, .typeCheck, .benchmark, .visual, .manualReview, .sourceReview,
    .unverified]
  mem_all a := by cases a <;> decide
  value_injective a b h := by cases a <;> cases b <;> first | rfl | exact absurd h (by decide)

inductive EvidenceStatus
  | pass
  | fail
  | notVerified
deriving DecidableEq

instance : Enumeration EvidenceStatus where
  value
    | .pass => "PASS"
    | .fail => "FAIL"
    | .notVerified => "NOT_VERIFIED"
  all := [.pass, .fail, .notVerified]
  mem_all a := by cases a <;> decide
  value_injective a b h := by cases a <;> cases b <;> first | rfl | exact absurd h (by decide)

/-- Truthful implementation state for one bounded claim. -/
inductive ClaimState
  | implemented
  | verified
  | unverified
  | knownProblem
deriving DecidableEq

instance : Enumeration ClaimState where
  value
    | .implemented => "implemented"
    | .verified => "verified"
    | .unverified => "unverified"
    | .knownProblem => "known_problem"
  all := [.implemented, .verified, .unverified, .knownProblem]
  mem_all a := by cases a <;> decide
  value_injective a b h := by cases a <;> cases b <;> first | rfl | exact absurd h (by decide)

/-- Non-compensating claim class. -/
inductive ClaimCriticality
  | normal
  | must
  | security
  | dataLoss
  | disclosure
deriving DecidableEq

instance : Enumeration ClaimCriticality where
  value
    | .normal => "normal"
    | .must => "must"
    | .security => "security"
    | .dataLoss => "data_loss"
    | .disclosure => "disclosure"
  all := [.normal, .must, .security, .dataLoss, .disclosure]
  mem_all a := by cases a <;> decide
  value_injective a b h := by cases a <;> cases b <;> first | rfl | exact absurd h (by decide)

/-- Bounded fact confidence. -/
inductive Confidence
  | gradeA
  | gradeB
  | gradeC
  | gradeD
deriving DecidableEq

instance : Enumeration Confidence where
  value
    | .gradeA => "A"
    | .gradeB => "B"
    | .gradeC => "C"
    | .gradeD => "D"
  all := [.gradeA, .gradeB, .gradeC, .gradeD]
  mem_all a := by cases a <;> decide
  value_injective a b h := by cases a <;> cases b <;> first | rfl | exact absurd h (by decide)

/-- One requirement or acceptance claim in the ledger. -/
structure LedgerClaim where
  claimId : String
  statement : String
  requirementIds : List String
  acceptanceCriteria : List String
  state : ClaimState
  criticality : ClaimCriticality
  confidence : Confidence
deriving DecidableEq

/-- One bounded item of evidence. -/
structure EvidenceRecord where
  evidenceId : String
  claimIds : List String
  evidenceType : EvidenceType
  status : EvidenceStatus
  command : List String
  environment : List (String × String)
  commit : String
  repositoryDigest : String
  artifacts : List ArtifactReference
  recordedAt : String
deriving DecidableEq

/-- Validated Claim-Evidence Ledger. -/
structure EvidenceLedger where
  baselineId : String
  sourceSpecSha256 : String
  gitHead : String
  repositoryDigest : String
  claims : List LedgerClaim
  evidence : List EvidenceRecord
  diffReviewEvidenceId : String
  schemaVersion : String
deriving DecidableEq

/-! ## Written records -/

def LedgerClaim.toDict (r : LedgerClaim) : Value := .object [
  ("acceptance_criteria", textArray r.acceptanceCriteria),
  ("claim_id", .text r.claimId),
  ("confidence", .text (Enumeration.value r.confidence)),
  ("criticality", .text (Enumeration.value r.criticality)),
  ("requirement_ids", textArray r.requirementIds),
  ("state", .text (Enumeration.value r.state)),
  ("statement", .text r.statement)]

def EvidenceRecord.toDict (r : EvidenceRecord) : Value := .object [
  ("artifacts", .array (r.artifacts.map ArtifactReference.toDict)),
  ("claim_ids", textArray r.claimIds),
  ("command", textArray r.command),
  ("commit", .text r.commit),
  ("environment", .object (r.environment.map fun item => (item.1, .text item.2))),
  ("evidence_id", .text r.evidenceId),
  ("recorded_at", .text r.recordedAt),
  ("repository_digest", .text r.repositoryDigest),
  ("status", .text (Enumeration.value r.status)),
  ("type", .text (Enumeration.value r.evidenceType))]

def EvidenceLedger.toDict (r : EvidenceLedger) : Value := .object [
  ("baseline_id", .text r.baselineId),
  ("claims", .array (r.claims.map LedgerClaim.toDict)),
  ("diff_review_evidence_id", .text r.diffReviewEvidenceId),
  ("evidence", .array (r.evidence.map EvidenceRecord.toDict)),
  ("git_head", .text r.gitHead),
  ("repository_digest", .text r.repositoryDigest),
  ("schema_version", .text r.schemaVersion),
  ("source_spec_sha256", .text r.sourceSpecSha256)]

/-! ## Loading -/

def isUpperDigit (c : Char) : Bool := isUpper c || isDigit c

def isUpperWord (c : Char) : Bool := isUpper c || isDigit c || c = '-'

def isClaimMark : String → Bool := marked "CLM-" (isRun isUpperDigit isUpperWord 0 63)

def isEvidenceMark : String → Bool := marked "EV-" (isRun isUpperDigit isUpperWord 0 63)

def isRequirementName (text : String) : Bool := isRun isUpper isUpperWord 1 99 text.toList

def isAcceptanceName : String → Bool := marked "AC-" (isRun isUpperDigit isUpperWord 1 119)

def isEnvironmentKey (text : String) : Bool :=
  isRun isLower (fun c => isLower c || isDigit c || c = '_' || c = '-') 0 31 text.toList

def identifierOf (value : Value) (field : String) (pattern : String → Bool) :
    Except String String :=
  matchingString value field 128 pattern " is not a stable identifier."

/-- Identifiers that are distinct and stand in their order. -/
def orderedUnique (values : List String) (field : String) : Except String Unit := do
  require values.Nodup (field ++ " identifiers must be unique.")
  require (values = values.insertionSort (· ≤ ·)) (field ++ " must be sorted by identifier.")

def parseClaim (value : Value) (field : String) : Except String LedgerClaim := do
  let item ← objectValue value field
  onlyKeys item ["acceptance_criteria", "claim_id", "confidence", "criticality", "requirement_ids",
    "state", "statement"] field
  let requirementIds ← stringTupleOf (get item "requirement_ids") (field ++ ".requirement_ids") 1 64
  let acceptanceCriteria ← stringTupleOf (get item "acceptance_criteria")
    (field ++ ".acceptance_criteria") 1 64
  require (∀ value ∈ requirementIds, isRequirementName value = true)
    (field ++ ".requirement_ids contains an invalid identifier.")
  require (∀ value ∈ acceptanceCriteria, isAcceptanceName value = true)
    (field ++ ".acceptance_criteria contains an invalid identifier.")
  let claimId ← identifierOf (get item "claim_id") (field ++ ".claim_id") isClaimMark
  let statement ← stringOf (get item "statement") (field ++ ".statement") 500
  let state ← enumOf ClaimState (get item "state") (field ++ ".state")
  let criticality ← enumOf ClaimCriticality (get item "criticality") (field ++ ".criticality")
  let confidence ← enumOf Confidence (get item "confidence") (field ++ ".confidence")
  return {
    claimId, statement, requirementIds, acceptanceCriteria, state, criticality, confidence }

section Loader

variable (R : Runtime)

/-- Require a timezone-aware ISO 8601 timestamp. -/
def timestampValue (value : Value) (field : String) : Except String String := do
  let text ← stringOf value field 100
  let parsed ← fromOption (R.fromisoformat text) (field ++ " must be an ISO 8601 timestamp.")
  require parsed.aware (field ++ " must include a timezone.")
  return text

/-- One entry of the environment of an item of evidence. -/
def environmentItem (field : String) (item : String × Value) : Except String (String × String) := do
  require (isEnvironmentKey item.1) (field ++ ".environment contains an invalid key.")
  let text ← pathFreeOf item.2 (field ++ ".environment." ++ item.1) 200
  return (item.1, text)

/-- The keys of a written item of evidence. -/
def evidenceKeys : List String :=
  ["artifacts", "claim_ids", "command", "commit", "environment", "evidence_id", "recorded_at",
    "repository_digest", "status", "type"]

/-- What the loaders of an item of evidence do once its fields are known. -/
def parseEvidenceFields (item : Members) (field : String) : Except String EvidenceRecord := do
  let evidenceType ← enumOf EvidenceType (get item "type") (field ++ ".type")
  let status ← enumOf EvidenceStatus (get item "status") (field ++ ".status")
  require (evidenceType = .unverified ↔ status = .notVerified)
    "UNVERIFIED type and NOT_VERIFIED status must match."
  let environmentRaw ← objectValue (get item "environment") (field ++ ".environment")
  require (environmentRaw ≠ []) (field ++ ".environment must not be empty.")
  require (environmentRaw.length ≤ 32) (field ++ ".environment exceeds the item limit.")
  let environment ← (environmentRaw.insertionSort fun a b => a.1 ≤ b.1).mapM (environmentItem field)
  let artifactsRaw ← arrayOf (get item "artifacts") (field ++ ".artifacts") 64
  let artifacts ← mapIndexed (field ++ ".artifacts") artifactReferenceOf artifactsRaw
  require (artifacts.map (·.path)).Nodup (field ++ ".artifacts must contain unique paths.")
  require (status = .pass → artifacts ≠ [])
    (field ++ ".artifacts must not be empty for PASS evidence.")
  let claimIds ← stringTupleOf (get item "claim_ids") (field ++ ".claim_ids") 1 64
  require (∀ value ∈ claimIds, isClaimMark value = true)
    (field ++ ".claim_ids contains an invalid identifier.")
  let evidenceId ← identifierOf (get item "evidence_id") (field ++ ".evidence_id") isEvidenceMark
  let command ← commandArgv (get item "command") (field ++ ".command")
  let commit ← commitOf (get item "commit") (field ++ ".commit")
  let repositoryDigest ← sha256Of (get item "repository_digest") (field ++ ".repository_digest")
  let recordedAt ← timestampValue R (get item "recorded_at") (field ++ ".recorded_at")
  return {
    evidenceId
    claimIds
    evidenceType
    status
    command
    environment
    commit
    repositoryDigest
    artifacts
    recordedAt }

/-- An item of evidence inside a ledger. -/
def parseEvidence (value : Value) (field : String) : Except String EvidenceRecord := do
  let item ← objectValue value field
  onlyKeys item evidenceKeys field
  parseEvidenceFields R item field

/-- Validate one decoded standalone evidence record. -/
def parseEvidenceRecord (value : Value) : Except String EvidenceRecord := do
  let item ← objectValue value "evidence_record"
  onlyKeys item ("schema_version" :: evidenceKeys) "evidence_record"
  let schemaVersion ← stringOf (get item "schema_version") "schema_version" 10
  require (schemaVersion = "1.0") "schema_version must be 1.0."
  parseEvidenceFields R item "evidence_record"

/-- Validate a decoded Claim-Evidence Ledger. -/
def parseEvidenceLedger (payload : Value) : Except String EvidenceLedger := do
  let root ← objectValue payload "ledger"
  onlyKeys root ["baseline_id", "claims", "diff_review_evidence_id", "evidence", "git_head",
    "repository_digest", "schema_version", "source_spec_sha256"] "ledger"
  let schemaVersion ← stringOf (get root "schema_version") "schema_version" 10
  require (schemaVersion = "1.0") "schema_version must be 1.0."
  let baselineId ← identifierOf (get root "baseline_id") "baseline_id" isBaselineMark
  let claimsRaw ← arrayOf (get root "claims") "claims" 1024
  let claims ← mapIndexed "claims" parseClaim claimsRaw
  require (claims ≠ []) "claims must not be empty."
  orderedUnique (claims.map (·.claimId)) "claims"
  let evidenceRaw ← arrayOf (get root "evidence") "evidence" 2048
  let evidence ← mapIndexed "evidence" (parseEvidence R) evidenceRaw
  require (evidence ≠ []) "evidence must not be empty."
  orderedUnique (evidence.map (·.evidenceId)) "evidence"
  forEach (fun item : EvidenceRecord =>
    require (∀ id ∈ item.claimIds, id ∈ claims.map (·.claimId))
      (item.evidenceId ++ " references an unknown claim.")) evidence
  let diffReview ← identifierOf (get root "diff_review_evidence_id") "diff_review_evidence_id"
    isEvidenceMark
  require ((evidence.find? fun item => item.evidenceId = diffReview).any fun item =>
      item.evidenceType = .sourceReview && item.status = .pass)
    "diff_review_evidence_id must name passing SOURCE_REVIEW evidence."
  let sourceSpecSha256 ← sha256Of (get root "source_spec_sha256") "source_spec_sha256"
  let gitHead ← commitOf (get root "git_head") "git_head"
  let repositoryDigest ← sha256Of (get root "repository_digest") "repository_digest"
  return {
    baselineId
    sourceSpecSha256
    gitHead
    repositoryDigest
    claims
    evidence
    diffReviewEvidenceId := diffReview
    schemaVersion := "1.0" }

end Loader

/-! ## What loaded records satisfy -/

/-- What the loader of a claim asks. -/
structure LawfulClaim (claim : LedgerClaim) : Prop where
  requirementIds : BoundedTexts 1 64 claim.requirementIds
  requirementNames : ∀ value ∈ claim.requirementIds, isRequirementName value = true
  acceptanceCriteria : BoundedTexts 1 64 claim.acceptanceCriteria
  acceptanceNames : ∀ value ∈ claim.acceptanceCriteria, isAcceptanceName value = true
  claimId : BoundedText 128 claim.claimId ∧ isClaimMark claim.claimId = true
  statement : BoundedText 500 claim.statement

/-- A bounded text that is a point in time with a zone. -/
structure LawfulTime (R : Runtime) (text : String) : Prop where
  bounded : BoundedText 100 text
  aware : ∃ moment, R.fromisoformat text = some moment ∧ moment.aware = true

/-- What the loader of an artifact reference asks. -/
structure LawfulArtifact (reference : ArtifactReference) : Prop where
  path : Written reference.path ∧ ∀ field, safeRelativePath field reference.path = .ok ()
  sha256 : BoundedText 64 reference.sha256 ∧ isDigest reference.sha256.toList = true

/-- What the loader of an item of evidence asks. -/
structure LawfulEvidence (R : Runtime) (record : EvidenceRecord) : Prop where
  unverified : record.evidenceType = .unverified ↔ record.status = .notVerified
  environment : record.environment ≠ [] ∧ record.environment.length ≤ 32
  environmentSorted : record.environment.Pairwise fun a b => a.1 < b.1
  environmentItems : ∀ item ∈ record.environment, isEnvironmentKey item.1 = true ∧
    BoundedText 200 item.2 ∧ isPathFree item.2 = true
  artifacts : record.artifacts.length ≤ 64 ∧ ∀ reference ∈ record.artifacts,
    LawfulArtifact reference
  artifactsUnique : (record.artifacts.map (·.path)).Nodup
  artifactsPresent : record.status = .pass → record.artifacts ≠ []
  claimIds : BoundedTexts 1 64 record.claimIds
  claimNames : ∀ value ∈ record.claimIds, isClaimMark value = true
  evidenceId : BoundedText 128 record.evidenceId ∧ isEvidenceMark record.evidenceId = true
  command : record.command ≠ [] ∧ record.command.length ≤ 64
  commandTexts : ∀ text ∈ record.command, BoundedText 240 text ∧ isPathFree text = true
  commit : BoundedText 40 record.commit ∧ isCommit record.commit = true
  repositoryDigest : BoundedText 64 record.repositoryDigest ∧
    isDigest record.repositoryDigest.toList = true
  recordedAt : LawfulTime R record.recordedAt

/-- What the loader of a ledger asks. -/
structure LawfulLedger (R : Runtime) (ledger : EvidenceLedger) : Prop where
  schemaVersion : ledger.schemaVersion = "1.0"
  baselineId : BoundedText 128 ledger.baselineId ∧ isBaselineMark ledger.baselineId = true
  claims : ledger.claims ≠ [] ∧ ledger.claims.length ≤ 1024
  claimsLawful : ∀ claim ∈ ledger.claims, LawfulClaim claim
  claimsOrdered : (ledger.claims.map (·.claimId)).Pairwise (· < ·)
  evidence : ledger.evidence ≠ [] ∧ ledger.evidence.length ≤ 2048
  evidenceLawful : ∀ record ∈ ledger.evidence, LawfulEvidence R record
  evidenceOrdered : (ledger.evidence.map (·.evidenceId)).Pairwise (· < ·)
  known : ∀ record ∈ ledger.evidence, ∀ id ∈ record.claimIds, id ∈ ledger.claims.map (·.claimId)
  diffReview : BoundedText 128 ledger.diffReviewEvidenceId ∧
    isEvidenceMark ledger.diffReviewEvidenceId = true
  reviewed : ∃ record ∈ ledger.evidence, record.evidenceId = ledger.diffReviewEvidenceId ∧
    record.evidenceType = .sourceReview ∧ record.status = .pass
  sourceSpecSha256 : BoundedText 64 ledger.sourceSpecSha256 ∧
    isDigest ledger.sourceSpecSha256.toList = true
  gitHead : BoundedText 40 ledger.gitHead ∧ isCommit ledger.gitHead = true
  repositoryDigest : BoundedText 64 ledger.repositoryDigest ∧
    isDigest ledger.repositoryDigest.toList = true

variable {R : Runtime} {value : Value} {field : String}

@[simp] theorem identifierOf_eq_ok {pattern : String → Bool} {text : String} :
    identifierOf value field pattern = .ok text ↔
      value = .text text ∧ BoundedText 128 text ∧ pattern text = true := matchingString_eq_ok

theorem sha256Of_eq_ok {text : String} :
    sha256Of value field = .ok text ↔
      value = .text text ∧ BoundedText 64 text ∧ isDigest text.toList = true := matchingString_eq_ok

theorem commitOf_eq_ok {text : String} :
    commitOf value field = .ok text ↔
      value = .text text ∧ BoundedText 40 text ∧ isCommit text = true := by
  cases value <;> simp [commitOf]

/-- Identifiers that are distinct and sorted increase strictly. -/
theorem orderedUnique_eq_ok {values : List String} {u : Unit} :
    orderedUnique values field = .ok u ↔ values.Pairwise (· < ·) := by
  simp only [orderedUnique, bind_eq_ok, exists_unit, require_eq_ok]
  constructor
  · rintro ⟨hunique, hsorted⟩
    rw [hsorted]
    exact Sorting.pairwise_lt_insertionSort hunique
  · intro h
    exact ⟨h.imp ne_of_lt, ((h.imp le_of_lt).insertionSort_eq).symm⟩

theorem lawful_of_parseClaim {claim : LedgerClaim} (h : parseClaim value field = .ok claim) :
    LawfulClaim claim := by
  simp only [parseClaim, bind_eq_ok, pure_eq_ok, require_eq_ok, exists_unit, stringOf_eq_ok,
    identifierOf_eq_ok] at h
  obtain ⟨_, -, -, _, hrequirements, _, hcriteria, hnames, hcriterionNames, _, hid, _, hstatement,
    _, -, _, -, _, -, rfl⟩ := h
  exact ⟨bounded_of_stringTupleOf hrequirements, hnames, bounded_of_stringTupleOf hcriteria,
    hcriterionNames, hid.2, hstatement.2⟩

theorem safeRelativePath_field {field field' text : String}
    (h : safeRelativePath field text = .ok ()) : safeRelativePath field' text = .ok () := by
  simpa only [safeRelativePath, stringValue, bind_eq_ok, exists_unit, require_eq_ok] using h

theorem lawful_of_artifactReferenceOf {reference : ArtifactReference}
    (h : artifactReferenceOf value field = .ok reference) : LawfulArtifact reference := by
  simp only [artifactReferenceOf, safePathOf, bind_eq_ok, pure_eq_ok, exists_unit,
    nonEmptyString_eq_ok, sha256Of_eq_ok] at h
  obtain ⟨_, -, -, _, ⟨_, hpath, hsafe, rfl⟩, _, hdigest, rfl⟩ := h
  exact ⟨⟨hpath.2, fun field => safeRelativePath_field hsafe⟩, hdigest.2⟩

theorem lawful_of_timestampValue {text : String} (h : timestampValue R value field = .ok text) :
    LawfulTime R text := by
  simp only [timestampValue, bind_eq_ok, pure_eq_ok, require_eq_ok, exists_unit, stringOf_eq_ok,
    fromOption_eq_ok] at h
  obtain ⟨_, htext, moment, hmoment, haware, rfl⟩ := h
  exact ⟨htext.2, moment, hmoment, haware⟩

theorem environmentItem_eq_ok {a : String × Value} {b : String × String} :
    environmentItem field a = .ok b ↔ a = (b.1, .text b.2) ∧ isEnvironmentKey b.1 = true ∧
      BoundedText 200 b.2 ∧ isPathFree b.2 = true := by
  simp only [environmentItem, bind_eq_ok, pure_eq_ok, require_eq_ok, exists_unit, pathFreeOf_eq_ok]
  constructor
  · rintro ⟨hkey, text, ⟨hvalue, htext⟩, rfl⟩
    exact ⟨Prod.ext rfl hvalue, hkey, htext⟩
  · rintro ⟨rfl, hkey, htext⟩
    exact ⟨hkey, b.2, ⟨rfl, htext⟩, rfl⟩

theorem environment_keys {raw : Members} {environment : List (String × String)}
    (h : List.Forall₂ (fun a b => environmentItem field a = .ok b) raw environment) :
    raw.map Prod.fst = environment.map Prod.fst := by
  induction h with
  | nil => rfl
  | cons hab _ ih => rw [List.map_cons, List.map_cons, ih, (environmentItem_eq_ok.mp hab).1]

/-- The environment of a strict object, sorted by key, is sorted strictly. -/
theorem environment_sorted {raw : Members} {environment : List (String × String)}
    (hkeys : (raw.map Prod.fst).Nodup)
    (h : (raw.insertionSort fun a b => a.1 ≤ b.1).mapM (environmentItem field) = .ok environment) :
    (environment.Pairwise fun a b => a.1 < b.1) ∧ (raw ≠ [] → environment ≠ []) ∧
      environment.length = raw.length ∧
      ∀ item ∈ environment, isEnvironmentKey item.1 = true ∧ BoundedText 200 item.2 ∧
        isPathFree item.2 = true := by
  rw [mapM_eq_ok] at h
  have hsame := environment_keys h
  have hperm := List.perm_insertionSort (fun a b : String × Value => a.1 ≤ b.1) raw
  have hlength : environment.length = raw.length := by
    rw [← hperm.length_eq, h.length_eq]
  refine ⟨?_, ?_, hlength, ?_⟩
  · have hle : ((raw.insertionSort fun a b => a.1 ≤ b.1).map Prod.fst).Pairwise (· ≤ ·) :=
      List.pairwise_map.mpr (List.pairwise_insertionSort _ _)
    have hne : ((raw.insertionSort fun a b => a.1 ≤ b.1).map Prod.fst).Nodup :=
      (hperm.map Prod.fst).nodup_iff.mpr hkeys
    rw [hsame] at hle hne
    exact List.pairwise_map.mp ((hle.and hne).imp fun hab => lt_of_le_of_ne hab.1 hab.2)
  · intro hraw hnil
    rw [hnil, List.length_nil, eq_comm, List.length_eq_zero_iff] at hlength
    exact hraw hlength
  · intro b hb
    obtain ⟨i, hi, rfl⟩ := List.getElem_of_mem hb
    have hi' : i < (raw.insertionSort fun a b => a.1 ≤ b.1).length := h.length_eq ▸ hi
    exact (environmentItem_eq_ok.mp ((List.forall₂_iff_get.mp h).2 i hi' hi)).2

theorem strict_get {members : Members} (h : JsonText.Strict (.object members)) (key : String) :
    JsonText.Strict (Payload.get members key) := by
  unfold Payload.get
  cases hkey : members.lookup key with
  | none => exact fun w hw => by simp_all [JsonText.within, JsonText.hasDistinctKeys]
  | some v =>
    obtain ⟨l₁, l₂, rfl, -⟩ := List.lookup_eq_some_iff.mp hkey
    exact (JsonText.strict_object.mp h).2 (key, v) (by simp)

theorem lawful_of_parseEvidenceFields {item : Members} {record : EvidenceRecord}
    (hstrict : JsonText.Strict (.object item))
    (h : parseEvidenceFields R item field = .ok record) : LawfulEvidence R record := by
  simp only [parseEvidenceFields, bind_eq_ok, pure_eq_ok, require_eq_ok, exists_unit,
    objectValue_eq_ok, arrayOf_eq_ok, identifierOf_eq_ok, sha256Of_eq_ok, commitOf_eq_ok,
    commandArgv] at h
  obtain ⟨_, -, _, -, hunverified, raw, hraw, hsome, hfew, _, henvironment, _, ⟨-, hmany⟩, _,
    hartifacts, hunique, hpresent, _, hclaims, hnames, _, hid, _, ⟨_, ⟨-, hargs⟩, _, hcommand,
    hargv, rfl⟩, _, hcommit, _, hdigest, _, htime, rfl⟩ := h
  have hobject := strict_get hstrict "environment"
  rw [hraw] at hobject
  obtain ⟨hsorted, hnonempty, hlength, hitems⟩ :=
    environment_sorted (JsonText.strict_object.mp hobject).1 henvironment
  exact {
    unverified := hunverified
    environment := ⟨hnonempty hsome, hlength ▸ hfew⟩
    environmentSorted := hsorted
    environmentItems := hitems
    artifacts := ⟨length_of_mapIndexed hartifacts ▸ hmany,
      mapIndexed_forall (fun _ _ _ _ => lawful_of_artifactReferenceOf) hartifacts⟩
    artifactsUnique := hunique
    artifactsPresent := hpresent
    claimIds := bounded_of_stringTupleOf hclaims
    claimNames := hnames
    evidenceId := hid.2
    command := ⟨hargv, length_of_mapIndexed hcommand ▸ hargs⟩
    commandTexts := mapIndexed_forall (fun _ _ _ _ ha => (pathFreeOf_eq_ok.mp ha).2) hcommand
    commit := hcommit.2
    repositoryDigest := hdigest.2
    recordedAt := lawful_of_timestampValue htime }

theorem lawful_of_parseEvidence {record : EvidenceRecord} (hstrict : JsonText.Strict value)
    (h : parseEvidence R value field = .ok record) : LawfulEvidence R record := by
  simp only [parseEvidence, bind_eq_ok, exists_unit, objectValue_eq_ok] at h
  obtain ⟨item, rfl, -, h⟩ := h
  exact lawful_of_parseEvidenceFields hstrict h

theorem lawful_of_parseEvidenceRecord {record : EvidenceRecord} (hstrict : JsonText.Strict value)
    (h : parseEvidenceRecord R value = .ok record) : LawfulEvidence R record := by
  simp only [parseEvidenceRecord, bind_eq_ok, exists_unit, objectValue_eq_ok] at h
  obtain ⟨item, rfl, -, _, -, -, h⟩ := h
  exact lawful_of_parseEvidenceFields hstrict h

theorem reviewed_of_find {evidence : List EvidenceRecord} {evidenceId : String}
    (h : ((evidence.find? fun item => item.evidenceId = evidenceId).any fun item =>
      item.evidenceType = .sourceReview && item.status = .pass) = true) :
    ∃ record ∈ evidence, record.evidenceId = evidenceId ∧ record.evidenceType = .sourceReview ∧
      record.status = .pass := by
  rw [Option.any_eq_true] at h
  obtain ⟨record, hfind, h⟩ := h
  simp only [Bool.and_eq_true, decide_eq_true_eq] at h
  exact ⟨record, List.mem_of_find?_eq_some hfind, by simpa using List.find?_some hfind, h⟩

theorem lawful_of_parseEvidenceLedger {ledger : EvidenceLedger} (hstrict : JsonText.Strict value)
    (h : parseEvidenceLedger R value = .ok ledger) : LawfulLedger R ledger := by
  simp only [parseEvidenceLedger, bind_eq_ok, pure_eq_ok, require_eq_ok, exists_unit,
    objectValue_eq_ok, arrayOf_eq_ok, identifierOf_eq_ok, sha256Of_eq_ok, commitOf_eq_ok,
    orderedUnique_eq_ok, forEach_eq_ok] at h
  obtain ⟨root, rfl, -, _, -, -, _, hbaseline, _, ⟨hclaimsRaw, hclaimsFew⟩, _, hclaims, hsome,
    hordered, _, ⟨hraw, hfew⟩, _, hevidence, hsome', hordered', hknown, _, hreview, hreviewed, _,
    hsource, _, hhead, _, hdigest, rfl⟩ := h
  have hrecords := strict_get hstrict "evidence"
  rw [hraw, JsonText.strict_array] at hrecords
  exact {
    schemaVersion := rfl
    baselineId := hbaseline.2
    claims := ⟨hsome, length_of_mapIndexed hclaims ▸ hclaimsFew⟩
    claimsLawful := mapIndexed_forall (fun _ _ _ _ => lawful_of_parseClaim) hclaims
    claimsOrdered := hordered
    evidence := ⟨hsome', length_of_mapIndexed hevidence ▸ hfew⟩
    evidenceLawful := mapIndexed_forall
      (fun v hv _ _ hparse => lawful_of_parseEvidence (hrecords v hv) hparse) hevidence
    evidenceOrdered := hordered'
    known := hknown
    diffReview := hreview.2
    reviewed := reviewed_of_find hreviewed
    sourceSpecSha256 := hsource.2
    gitHead := hhead.2
    repositoryDigest := hdigest.2 }

/-! ## A lawful record is read back -/

theorem enumOf_value {α : Type} [Enumeration α] {a : α}
    (h : BoundedText 100 (Enumeration.value a)) :
    enumOf α (.text (Enumeration.value a)) field = .ok a := by
  simp [enumOf, h]

theorem bounded_evidenceType (a : EvidenceType) : BoundedText 100 (Enumeration.value a) := by
  cases a <;> decide

theorem bounded_status (a : EvidenceStatus) : BoundedText 100 (Enumeration.value a) := by
  cases a <;> decide

theorem bounded_state (a : ClaimState) : BoundedText 100 (Enumeration.value a) := by
  cases a <;> decide

theorem bounded_criticality (a : ClaimCriticality) : BoundedText 100 (Enumeration.value a) := by
  cases a <;> decide

theorem bounded_confidence (a : Confidence) : BoundedText 100 (Enumeration.value a) := by
  cases a <;> decide

theorem parseClaim_toDict {claim : LedgerClaim} (h : LawfulClaim claim) :
    parseClaim claim.toDict field = .ok claim := by
  simp [parseClaim, LedgerClaim.toDict, onlyKeys_of_keys, stringTupleOf_textArray h.requirementIds,
    stringTupleOf_textArray h.acceptanceCriteria, h.claimId, h.statement,
    enumOf_value (bounded_state _), enumOf_value (bounded_criticality _),
    enumOf_value (bounded_confidence _)]
  exact ⟨h.requirementNames, h.acceptanceNames⟩

theorem artifactReferenceOf_toDict {reference : ArtifactReference} (h : LawfulArtifact reference) :
    artifactReferenceOf reference.toDict field = .ok reference := by
  simp [artifactReferenceOf, ArtifactReference.toDict, onlyKeys_of_keys, safePathOf, h.path,
    sha256Of_eq_ok, h.sha256]

theorem timestampValue_text {text : String} (h : LawfulTime R text) :
    timestampValue R (.text text) field = .ok text := by
  obtain ⟨moment, hmoment, haware⟩ := h.aware
  simp [timestampValue, h.bounded, hmoment, haware]

theorem commandArgv_textArray {command : List String}
    (hlength : command ≠ [] ∧ command.length ≤ 64)
    (htexts : ∀ text ∈ command, BoundedText 240 text ∧ isPathFree text = true) :
    commandArgv (textArray command) field = .ok command := by
  have hcommand : mapIndexed field (fun value field => pathFreeOf value field 240)
      (command.map .text) = .ok command :=
    mapIndexed_map fun text hmem _ => pathFreeOf_eq_ok.mpr ⟨rfl, htexts text hmem⟩
  simp [commandArgv, textArray, hcommand, hlength.1, hlength.2]

theorem environment_toDict (field : String) {environment : List (String × String)}
    (hsorted : environment.Pairwise fun a b => a.1 < b.1)
    (hitems : ∀ item ∈ environment, isEnvironmentKey item.1 = true ∧ BoundedText 200 item.2 ∧
      isPathFree item.2 = true) :
    ((environment.map fun item => (item.1, Value.text item.2)).insertionSort
      fun a b => a.1 ≤ b.1).mapM (environmentItem field) = .ok environment := by
  have hle : (environment.map fun item => (item.1, Value.text item.2)).Pairwise
      fun a b => a.1 ≤ b.1 :=
    List.pairwise_map.mpr (hsorted.imp fun hab => le_of_lt hab)
  rw [hle.insertionSort_eq, mapM_eq_ok, List.forall₂_map_left_iff, List.forall₂_same]
  exact fun item hmem => environmentItem_eq_ok.mpr ⟨rfl, hitems item hmem⟩

theorem parseEvidence_toDict {record : EvidenceRecord} (h : LawfulEvidence R record) :
    parseEvidence R record.toDict field = .ok record := by
  have hartifacts : mapIndexed (field ++ ".artifacts") artifactReferenceOf
      (record.artifacts.map ArtifactReference.toDict) = .ok record.artifacts :=
    mapIndexed_map fun reference hmem _ =>
      artifactReferenceOf_toDict (h.artifacts.2 reference hmem)
  have henvironment := environment_toDict field h.environmentSorted h.environmentItems
  simp [parseEvidence, parseEvidenceFields, EvidenceRecord.toDict, onlyKeys_of_keys, evidenceKeys,
    enumOf_value (bounded_evidenceType _), enumOf_value (bounded_status _), h.environment,
    henvironment, hartifacts, h.artifacts.1, h.artifactsUnique, h.unverified,
    stringTupleOf_textArray h.claimIds, h.evidenceId, commandArgv_textArray h.command
    h.commandTexts, commitOf_eq_ok, h.commit, sha256Of_eq_ok, h.repositoryDigest,
    timestampValue_text h.recordedAt]
  exact ⟨h.artifactsPresent, h.claimNames⟩

/-- With ordered identifiers the reviewing evidence is the one that is found. -/
theorem find_of_reviewed {evidence : List EvidenceRecord} {evidenceId : String}
    (hordered : (evidence.map (·.evidenceId)).Pairwise (· < ·))
    (h : ∃ record ∈ evidence, record.evidenceId = evidenceId ∧
      record.evidenceType = .sourceReview ∧ record.status = .pass) :
    ((evidence.find? fun item => item.evidenceId = evidenceId).any fun item =>
      item.evidenceType = .sourceReview && item.status = .pass) = true := by
  obtain ⟨record, hmem, rfl, htype, hstatus⟩ := h
  cases hfind : evidence.find? fun item => item.evidenceId = record.evidenceId with
  | none =>
    have := List.find?_eq_none.mp hfind record hmem
    simp at this
  | some other =>
    have hid : other.evidenceId = record.evidenceId := by simpa using List.find?_some hfind
    rw [List.inj_on_of_nodup_map (hordered.imp ne_of_lt) (List.mem_of_find?_eq_some hfind) hmem hid]
    simp [htype, hstatus]

/-- A ledger that keeps the contract is read back from what is written of it. -/
theorem parseEvidenceLedger_toDict {ledger : EvidenceLedger} (h : LawfulLedger R ledger) :
    parseEvidenceLedger R ledger.toDict = .ok ledger := by
  have hclaims : mapIndexed "claims" parseClaim (ledger.claims.map LedgerClaim.toDict) =
      .ok ledger.claims :=
    mapIndexed_map fun claim hmem _ => parseClaim_toDict (h.claimsLawful claim hmem)
  have hevidence : mapIndexed "evidence" (parseEvidence R)
      (ledger.evidence.map EvidenceRecord.toDict) = .ok ledger.evidence :=
    mapIndexed_map fun record hmem _ => parseEvidence_toDict (h.evidenceLawful record hmem)
  have hversion : BoundedText 10 "1.0" := by decide
  have hclaimsOrdered : orderedUnique (ledger.claims.map (·.claimId)) "claims" = .ok () :=
    orderedUnique_eq_ok.mpr h.claimsOrdered
  have hevidenceOrdered : orderedUnique (ledger.evidence.map (·.evidenceId)) "evidence" = .ok () :=
    orderedUnique_eq_ok.mpr h.evidenceOrdered
  have hknown := h.known
  have hreviewed := find_of_reviewed h.evidenceOrdered h.reviewed
  obtain ⟨baselineId, source, head, digest, claims, evidence, review, version⟩ := ledger
  obtain rfl : version = "1.0" := h.schemaVersion
  simp [parseEvidenceLedger, EvidenceLedger.toDict, onlyKeys_of_keys, hversion, h.baselineId,
    hclaims, h.claims, hclaimsOrdered, hevidence, h.evidence, hevidenceOrdered, h.diffReview,
    sha256Of_eq_ok, h.sourceSpecSha256, commitOf_eq_ok, h.gitHead, h.repositoryDigest]
  simp only [List.mem_map] at hknown
  exact ⟨hknown, hreviewed⟩

end Sdaqf.Evidence
