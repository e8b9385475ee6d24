import Sdaqf.BaselineChanges
import Sdaqf.EvidenceLedger

/-!
# The implementation-evidence gate

Gate G2 over a baseline, a ledger and a candidate. Each of its checks looks at another collection:
the claims that touch a Must requirement, the verified claims, all evidence, the mapped criteria.
What a passed gate says about one criterion of one Must requirement follows from all of them.
-/

namespace Sdaqf.Evidence

open Guard Payload
open JsonText (Value)

/-! ## Gates -/

/-- One deterministic gate check. -/
structure GateCheck where
  checkId : String
  passed : Bool
  hardBlocker : Bool
  evidence : String
deriving DecidableEq

/-- Aggregate result that never allows a hard blocker to be scored away. -/
structure GateResult where
  gateId : String
  checks : List GateCheck
deriving DecidableEq

/-- True only when every check passes. -/
def GateResult.passed (result : GateResult) : Bool :=
  !result.checks.isEmpty && result.checks.all (·.passed)

/-- Build a gate result from a non-empty, uniquely identified check set. -/
def evaluateChecks (gateId : String) (checks : List GateCheck) : Except String GateResult := do
  require (Written gateId) "gate_id must not be empty"
  require (checks ≠ []) "at least one check is required"
  require (∀ check ∈ checks, Written check.checkId) "check identifiers must not be empty"
  require (checks.map (·.checkId)).Nodup "check identifiers must be unique"
  return { gateId, checks }

/-! ## Artifacts -/

/-- What stands at a path below the root of a repository. -/
inductive FileEntry
  | missing
  | link
  | directory
  | file (size : Nat) (sha256 : String)
deriving DecidableEq

/-- The files below a root, and whether the root itself is a link. -/
structure FileTree where
  rootLinked : Bool
  entry : List (List Char) → FileEntry

/-- Verify one bounded regular artifact against its content digest. -/
def verifyArtifact (root : FileTree) (reference : ArtifactReference) : Bool :=
  let parts := reference.path.toList.splitOn '/'
  !root.rootLinked && parts.inits.tail.all (fun path => root.entry path ≠ .link) &&
    match root.entry parts with
    | .file size sha256 => size ≤ 1000000 && sha256 = reference.sha256
    | _ => false

/-! ## Gate G2 -/

/-- Evidence classes that speak for conformance. -/
def isConformance (evidenceType : EvidenceType) : Bool :=
  [EvidenceType.staticAnalysis, .typeCheck, .benchmark, .visual, .manualReview,
    .sourceReview].contains evidenceType

def isHardCriticality (criticality : ClaimCriticality) : Bool :=
  [ClaimCriticality.must, .security, .dataLoss, .disclosure].contains criticality

/-- The evidence that names a claim. -/
def evidenceOf (ledger : EvidenceLedger) (claimId : String) : List EvidenceRecord :=
  ledger.evidence.filter fun item => claimId ∈ item.claimIds

def claimEvidenceConsistent (state : ClaimState) (evidence : List EvidenceRecord)
    (diffReviewEvidenceId : String) : Bool :=
  let statuses := (evidence.map (·.status)).toFinset
  let passingConformance := evidence.any fun item =>
    item.status = .pass && isConformance item.evidenceType &&
      item.evidenceId ≠ diffReviewEvidenceId
  let explicitUnverified := evidence.any fun item =>
    item.evidenceType = .unverified && item.status = .notVerified
  !evidence.isEmpty &&
    match state with
    | .verified => statuses = {EvidenceStatus.pass} && passingConformance
    | .implemented =>
      EvidenceStatus.pass ∈ statuses && EvidenceStatus.fail ∉ statuses && explicitUnverified
    | .unverified => statuses = {EvidenceStatus.notVerified} && explicitUnverified
    | .knownProblem => EvidenceStatus.fail ∈ statuses

section Gate

variable (baseline : RequirementBaseline) (ledger : EvidenceLedger)
  (candidate : CandidateIdentity) (root : FileTree)

/-- The criteria of a baseline, each with its requirement. -/
def criteria : List (String × AcceptanceCriterion) :=
  baseline.requirements.flatMap fun item =>
    item.acceptanceCriteria.map fun criterion => (item.requirementId, criterion)

/-- The requirement and the criterion of an identifier. A later one replaces an earlier one. -/
def acceptance (criterionId : String) : Option (String × AcceptanceCriterion) :=
  (criteria baseline).reverse.find? fun pair => pair.2.criterionId = criterionId

def mustRequirements : List RequirementRecord :=
  baseline.requirements.filter fun item => item.priority = .must

def mustCriteria : List String :=
  (mustRequirements baseline).flatMap fun item => item.acceptanceCriteria.map (·.criterionId)

/-- A claim that names a Must requirement. -/
def touchesMust (claim : LedgerClaim) : Bool :=
  claim.requirementIds.any fun id => id ∈ (mustRequirements baseline).map (·.requirementId)

def mappedMustCriteria : List String :=
  (ledger.claims.filter (touchesMust baseline)).flatMap (·.acceptanceCriteria)

def referencesValid : Bool :=
  ledger.claims.all fun claim =>
    claim.requirementIds.all (fun id => id ∈ baseline.requirements.map (·.requirementId)) &&
    claim.acceptanceCriteria.all (fun id => (acceptance baseline id).isSome) &&
    claim.acceptanceCriteria.all fun id =>
      (acceptance baseline id).all fun pair => pair.1 ∈ claim.requirementIds

def evidenceIntegrity : Bool :=
  ledger.evidence.all fun item =>
    !item.environment.isEmpty && item.commit = candidate.gitHead &&
      item.repositoryDigest = candidate.repositoryDigest &&
      item.artifacts.all (verifyArtifact root) &&
      (item.status ≠ .pass || !item.artifacts.isEmpty)

def claimConsistency : Bool :=
  ledger.claims.all fun claim =>
    claimEvidenceConsistent claim.state (evidenceOf ledger claim.claimId)
      ledger.diffReviewEvidenceId

def verifiedClaims : List LedgerClaim :=
  ledger.claims.filter fun claim => claim.state = .verified

def applicableTests : Bool :=
  (verifiedClaims ledger).all fun claim =>
    !(claim.acceptanceCriteria.any fun id =>
        (acceptance baseline id).any fun pair => "test" ∈ pair.2.verificationMethods) ||
      (evidenceOf ledger claim.claimId).any fun item =>
        item.status = .pass && item.evidenceType = .test

def mustVerified : Bool :=
  !(mustRequirements baseline).isEmpty && !(ledger.claims.filter (touchesMust baseline)).isEmpty &&
    (ledger.claims.filter (touchesMust baseline)).all fun claim => claim.state = .verified

def criticalFailures : List String :=
  (ledger.claims.filter fun claim => isHardCriticality claim.criticality &&
    (claim.state ≠ .verified ||
      (evidenceOf ledger claim.claimId).any fun item => item.status ≠ .pass)).map (·.claimId)

def diffReview : Option EvidenceRecord :=
  ledger.evidence.find? fun item => item.evidenceId = ledger.diffReviewEvidenceId

def gateChecks : List GateCheck := [
  { checkId := "G2-IDENTITY"
    passed := ledger.baselineId = baseline.baselineId &&
      ledger.sourceSpecSha256 = baseline.source.sha256 &&
      ledger.sourceSpecSha256 = candidate.sourceSpecSha256 &&
      ledger.gitHead = candidate.gitHead && ledger.repositoryDigest = candidate.repositoryDigest
    hardBlocker := true
    evidence := "Ledger baseline, specification, Git, and repository identities were checked." },
  { checkId := "G2-TRACE"
    passed := referencesValid baseline ledger
    hardBlocker := true
    evidence := "Claim requirement and acceptance references were checked." },
  { checkId := "G2-MUST-MAPPING"
    passed := !(mustCriteria baseline).isEmpty &&
      (mustCriteria baseline).all fun id => id ∈ mappedMustCriteria baseline ledger
    hardBlocker := true
    evidence := toString (mustCriteria baseline).toFinset.card ++
      " Must acceptance criteria require claim mappings." },
  { checkId := "G2-EVIDENCE"
    passed := !(verifiedClaims ledger).isEmpty && evidenceIntegrity ledger candidate root
    hardBlocker := true
    evidence := "Evidence requires exact candidate identity and verified artifacts." },
  { checkId := "G2-APPLICABLE-TESTS"
    passed := applicableTests baseline ledger
    hardBlocker := true
    evidence := "Verified test-applicable claims require passing TEST evidence." },
  { checkId := "G2-CONSISTENCY"
    passed := claimConsistency ledger && !(ledger.evidence.any fun item => item.status = .fail)
    hardBlocker := true
    evidence := "Claim states and all evidence states must be non-compensating." },
  { checkId := "G2-MUST-VERIFIED"
    passed := mustVerified baseline ledger
    hardBlocker := true
    evidence := "Every mapped Must claim must be verified for this M3 Gate." },
  { checkId := "G2-DIFF-REVIEW"
    passed := (diffReview ledger).any fun item =>
      item.evidenceType = .sourceReview && item.status = .pass
    hardBlocker := true
    evidence := "A passing source diff review is named explicitly." },
  { checkId := "G2-CRITICAL"
    passed := (criticalFailures ledger).isEmpty
    hardBlocker := true
    evidence :=
      if (criticalFailures ledger).isEmpty then
        "No critical Must, security, data-loss, or disclosure failure exists."
      else toString (criticalFailures ledger).length ++ " critical claims are not satisfied." }]

/-- Return Gate G2 without inferring conformance from tests alone. -/
def evaluateImplementationEvidence : Except String GateResult :=
  evaluateChecks "G2" (gateChecks baseline ledger candidate root)

end Gate

/-! ## What a passed gate says -/

variable {R : Runtime} {baseline : RequirementBaseline} {ledger : EvidenceLedger}
  {candidate : CandidateIdentity} {root : FileTree}

/-- The checks of a passed gate. -/
structure GatePassed (baseline : RequirementBaseline) (ledger : EvidenceLedger)
    (candidate : CandidateIdentity) (root : FileTree) : Prop where
  references : referencesValid baseline ledger = true
  mapping : ∀ id ∈ mustCriteria baseline, id ∈ mappedMustCriteria baseline ledger
  integrity : evidenceIntegrity ledger candidate root = true
  tests : applicableTests baseline ledger = true
  consistency : claimConsistency ledger = true
  noFailure : ∀ item ∈ ledger.evidence, item.status ≠ .fail
  mustVerified : ∀ claim ∈ ledger.claims, touchesMust baseline claim = true →
    claim.state = .verified
  noCriticalFailure : criticalFailures ledger = []

theorem gatePassed_of_evaluate {result : GateResult}
    (h : evaluateImplementationEvidence baseline ledger candidate root = .ok result)
    (hpassed : result.passed = true) : GatePassed baseline ledger candidate root := by
  simp only [evaluateImplementationEvidence, evaluateChecks, bind_eq_ok, pure_eq_ok, require_eq_ok,
    exists_unit] at h
  obtain ⟨-, -, -, -, rfl⟩ := h
  simp only [GateResult.passed, gateChecks, List.all_cons, List.all_nil, Bool.and_true,
    Bool.and_eq_true, mustVerified, Bool.not_eq_true', List.any_eq_false, List.all_eq_true,
    List.mem_filter, decide_eq_true_eq, List.isEmpty_iff, and_imp] at hpassed
  obtain ⟨-, -, hreferences, ⟨-, hmapping⟩, ⟨-, hintegrity⟩, htests, ⟨hconsistency, hfailure⟩,
    ⟨-, hmust⟩, -, hcritical⟩ := hpassed
  exact ⟨hreferences, hmapping, hintegrity, htests, hconsistency, hfailure, hmust, hcritical⟩

/-- A verified claim stands behind a criterion of a requirement. -/
structure Substantiated (ledger : EvidenceLedger) (candidate : CandidateIdentity) (root : FileTree)
    (item : RequirementRecord) (criterion : AcceptanceCriterion) (claim : LedgerClaim) : Prop where
  verified : claim.state = .verified
  namesRequirement : item.requirementId ∈ claim.requirementIds
  namesCriterion : criterion.criterionId ∈ claim.acceptanceCriteria
  nonempty : evidenceOf ledger claim.claimId ≠ []
  passing : ∀ record ∈ evidenceOf ledger claim.claimId, record.status = .pass
  bound : ∀ record ∈ evidenceOf ledger claim.claimId, record.commit = candidate.gitHead ∧
    record.repositoryDigest = candidate.repositoryDigest
  artifacts : ∀ record ∈ evidenceOf ledger claim.claimId, ∀ reference ∈ record.artifacts,
    verifyArtifact root reference = true
  conformance : ∃ record ∈ evidenceOf ledger claim.claimId,
    isConformance record.evidenceType = true ∧ record.evidenceId ≠ ledger.diffReviewEvidenceId
  test : "test" ∈ criterion.verificationMethods →
    ∃ record ∈ evidenceOf ledger claim.claimId, record.status = .pass ∧ record.evidenceType = .test

/-- With distinct criterion identifiers a criterion is found with its own requirement. -/
theorem acceptance_eq_some (hunique : (criterionIds baseline.requirements).Nodup)
    {item : RequirementRecord} {criterion : AcceptanceCriterion}
    (hitem : item ∈ baseline.requirements) (hcriterion : criterion ∈ item.acceptanceCriteria) :
    acceptance baseline criterion.criterionId = some (item.requirementId, criterion) := by
  have hmem : (item.requirementId, criterion) ∈ criteria baseline :=
    List.mem_flatMap.mpr ⟨item, hitem, List.mem_map_of_mem hcriterion⟩
  have hids : (criteria baseline).map (fun pair => pair.2.criterionId) =
      criterionIds baseline.requirements := by
    simp only [criteria, criterionIds, List.map_flatMap, List.map_map, Function.comp_def]
  cases h : acceptance baseline criterion.criterionId with
  | none =>
    have := List.find?_eq_none.mp h _ (List.mem_reverse.mpr hmem)
    simp at this
  | some pair =>
    have hpair : pair ∈ criteria baseline := List.mem_reverse.mp (List.mem_of_find?_eq_some h)
    have hid : pair.2.criterionId = criterion.criterionId := by simpa using List.find?_some h
    rw [← hids] at hunique
    rw [List.inj_on_of_nodup_map hunique hpair hmem hid]

theorem mem_evidenceOf {claimId : String} {record : EvidenceRecord} :
    record ∈ evidenceOf ledger claimId ↔ record ∈ ledger.evidence ∧ claimId ∈ record.claimIds := by
  simp [evidenceOf]

/-- The evidence of a verified claim is not empty and all of it passes, and some of it speaks for
conformance without being the diff review. -/
theorem of_consistent_verified {evidence : List EvidenceRecord} {diffReviewEvidenceId : String}
    (h : claimEvidenceConsistent .verified evidence diffReviewEvidenceId = true) :
    evidence ≠ [] ∧ (∀ record ∈ evidence, record.status = .pass) ∧
      ∃ record ∈ evidence, isConformance record.evidenceType = true ∧
        record.evidenceId ≠ diffReviewEvidenceId := by
  simp only [claimEvidenceConsistent, Bool.and_eq_true, Bool.not_eq_true', decide_eq_true_eq,
    List.any_eq_true, List.isEmpty_eq_false_iff] at h
  obtain ⟨hsome, hstatuses, record, hrecord, ⟨-, hconformance⟩, hother⟩ := h
  refine ⟨hsome, fun other hmem => ?_, record, hrecord, hconformance, hother⟩
  have hstatus : other.status ∈ (evidence.map (·.status)).toFinset :=
    List.mem_toFinset.mpr (List.mem_map_of_mem hmem)
  rw [hstatuses] at hstatus
  exact Finset.mem_singleton.mp hstatus

/-- Behind every criterion of every Must requirement stands a verified claim. -/
theorem GatePassed.substantiated (h : GatePassed baseline ledger candidate root)
    (hunique : (criterionIds baseline.requirements).Nodup) {item : RequirementRecord}
    {criterion : AcceptanceCriterion} (hitem : item ∈ baseline.requirements)
    (hmust : item.priority = .must) (hcriterion : criterion ∈ item.acceptanceCriteria) :
    ∃ claim ∈ ledger.claims, Substantiated ledger candidate root item criterion claim := by
  have hmapped : criterion.criterionId ∈ mappedMustCriteria baseline ledger := by
    refine h.mapping _ (List.mem_flatMap.mpr ⟨item, ?_, List.mem_map_of_mem hcriterion⟩)
    exact List.mem_filter.mpr ⟨hitem, by simp [hmust]⟩
  obtain ⟨claim, hclaim, hnames⟩ := List.mem_flatMap.mp hmapped
  obtain ⟨hclaim, htouches⟩ := List.mem_filter.mp hclaim
  have hverified := h.mustVerified claim hclaim htouches
  -- The criterion belongs to one requirement, so a claim that names it names that one.
  have hfound := acceptance_eq_some hunique hitem hcriterion
  have hreferences := List.all_eq_true.mp h.references claim hclaim
  simp only [Bool.and_eq_true, List.all_eq_true] at hreferences
  have hrequirement := hreferences.2 _ hnames
  rw [hfound, Option.all_some, decide_eq_true_eq] at hrequirement
  have hconsistent := List.all_eq_true.mp h.consistency claim hclaim
  rw [hverified] at hconsistent
  obtain ⟨hsome, hpassing, hconformance⟩ := of_consistent_verified hconsistent
  have hintegrity : ∀ record ∈ evidenceOf ledger claim.claimId,
      (record.commit = candidate.gitHead ∧
        record.repositoryDigest = candidate.repositoryDigest) ∧
      ∀ reference ∈ record.artifacts, verifyArtifact root reference = true := by
    intro record hrecord
    have hrecord := List.all_eq_true.mp h.integrity record (mem_evidenceOf.mp hrecord).1
    simp only [Bool.and_eq_true, decide_eq_true_eq, List.all_eq_true] at hrecord
    exact ⟨⟨hrecord.1.1.1.2, hrecord.1.1.2⟩, hrecord.1.2⟩
  refine ⟨claim, hclaim, hverified, hrequirement, hnames, hsome, hpassing,
    fun record hrecord => (hintegrity record hrecord).1,
    fun record hrecord => (hintegrity record hrecord).2, hconformance, fun htest => ?_⟩
  have htests := List.all_eq_true.mp h.tests claim
    (List.mem_filter.mpr ⟨hclaim, by simp [hverified]⟩)
  simp only [Bool.or_eq_true, Bool.not_eq_true', List.any_eq_false, List.any_eq_true,
    Bool.and_eq_true, decide_eq_true_eq] at htests
  rcases htests with hnone | ⟨record, hrecord, htest⟩
  · have hpair := hnone _ hnames
    rw [hfound] at hpair
    simp [htest] at hpair
  · exact ⟨record, hrecord, htest⟩

theorem GatePassed.hard_verified (h : GatePassed baseline ledger candidate root)
    {claim : LedgerClaim} (hclaim : claim ∈ ledger.claims)
    (hhard : isHardCriticality claim.criticality = true) : claim.state = .verified := by
  have hnone := List.filter_eq_nil_iff.mp (List.map_eq_nil_iff.mp h.noCriticalFailure) claim hclaim
  simp only [hhard, Bool.true_and, Bool.or_eq_true, not_or, decide_eq_true_eq, not_not] at hnone
  exact hnone.1

/-- A passed gate is sound: a verified claim with passing evidence stands behind every criterion of
every Must requirement, no evidence of the ledger failed, and every claim that is critical or names
a Must requirement is verified. -/
theorem evaluateImplementationEvidence_sound {payload : Value} {result : GateResult}
    (hbaseline : baselineFromDict R payload = .ok baseline)
    (hresult : evaluateImplementationEvidence baseline ledger candidate root = .ok result)
    (hpassed : result.passed = true) :
    (∀ item ∈ baseline.requirements, item.priority = .must →
      ∀ criterion ∈ item.acceptanceCriteria, ∃ claim ∈ ledger.claims,
        Substantiated ledger candidate root item criterion claim) ∧
    (∀ record ∈ ledger.evidence, record.status ≠ .fail) ∧
    ∀ claim ∈ ledger.claims,
      isHardCriticality claim.criticality = true ∨ touchesMust baseline claim = true →
        claim.state = .verified := by
  have h := gatePassed_of_evaluate hresult hpassed
  have hunique := (lawful_of_baselineFromDict hbaseline).criteriaUnique
  refine ⟨fun item hitem hmust criterion hcriterion => ?_, h.noFailure, ?_⟩
  · exact h.substantiated hunique hitem hmust hcriterion
  · rintro claim hclaim (hhard | htouches)
    · exact h.hard_verified hclaim hhard
    · exact h.mustVerified claim hclaim htouches

/-! ### A ledger that passes -/

def plainCandidate : CandidateIdentity where
  sourceSpecSha256 := String.ofList (List.replicate 64 '0')
  gitHead := String.ofList (List.replicate 40 'a')
  repositoryDigest := String.ofList (List.replicate 64 '1')

def plainEvidence (evidenceId : String) (evidenceType : EvidenceType) : EvidenceRecord where
  evidenceId
  claimIds := ["CLM-1"]
  evidenceType
  status := .pass
  command := ["check"]
  environment := [("os", "linux")]
  commit := plainCandidate.gitHead
  repositoryDigest := plainCandidate.repositoryDigest
  artifacts := [⟨"log.txt", String.ofList (List.replicate 64 '2')⟩]
  recordedAt := "2026-01-01T00:00:00+00:00"

def plainLedger : EvidenceLedger where
  baselineId := "RB-0000000000000000"
  sourceSpecSha256 := plainCandidate.sourceSpecSha256
  gitHead := plainCandidate.gitHead
  repositoryDigest := plainCandidate.repositoryDigest
  claims := [{
    claimId := "CLM-1"
    statement := "It works"
    requirementIds := ["R-1"]
    acceptanceCriteria := ["AC-R-1-1"]
    state := .verified
    criticality := .must
    confidence := .gradeA }]
  evidence := [plainEvidence "EV-1" .sourceReview, plainEvidence "EV-2" .staticAnalysis,
    plainEvidence "EV-3" .test]
  diffReviewEvidenceId := "EV-1"
  schemaVersion := "1.0"

/-- A tree with the one file the evidence refers to. -/
def plainTree : FileTree where
  rootLinked := false
  entry path :=
    if path = ["log.txt".toList] then .file 3 (String.ofList (List.replicate 64 '2')) else .missing

/-- The one criterion of the plain baseline has its claim. -/
theorem plainLedger_substantiated :
    ∃ claim ∈ plainLedger.claims, Substantiated plainLedger plainCandidate plainTree
      (plainRequirement "It works" [] []) ⟨"AC-R-1-1", "It works", ["test"]⟩ claim := by
  have hloaded := plainBaseline_loaded "It works" [] [] (by decide) (by decide) (by decide)
  have hpassed : ∃ result, evaluateImplementationEvidence (plainBaseline "It works" [] []) plainLedger
      plainCandidate plainTree = .ok result ∧ result.passed = true :=
    ⟨⟨"G2", gateChecks (plainBaseline "It works" [] []) plainLedger plainCandidate plainTree⟩,
      by decide +kernel⟩
  obtain ⟨result, hresult, hpassed⟩ := hpassed
  exact (evaluateImplementationEvidence_sound hloaded hresult hpassed).1 _
    (List.mem_singleton_self _) rfl _ (List.mem_singleton_self _)

end Sdaqf.Evidence
