import Sdaqf.Guard
import Sdaqf.PlanDomain
import Sdaqf.SolverDomain
import Sdaqf.Sorting
import Sdaqf.Tables

/-!
# Native observations

The runtime adopts only the artifacts that accepted task results reference. It walks the completed
results in the order of their messages, loads each referenced artifact with the validator of its
kind, and keeps the identity, the reference and what the gates need of it.
-/

namespace Sdaqf

open Guard

/-! ## What a result references -/

/-- What the runtime reads of a wrapped Agent Result. -/
structure AgentResult where
  agentId : String
  reviewedAgentIds : List String
deriving DecidableEq

/-- A validated Skill that a task requires. -/
structure ResolvedSkill where
  digest : String
  reference : ArtifactReference
deriving DecidableEq

/-- A validated solver artifact with its identity. -/
inductive SolverArtifact
  | result (resultId : String)
  | verification (verificationId : String) (value : SolverVerification)
  | other
deriving DecidableEq

def SolverArtifact.isResult : SolverArtifact → Bool
  | .result _ => true
  | _ => false

def SolverArtifact.isVerification : SolverArtifact → Bool
  | .verification .. => true
  | _ => false

structure IndependentReview where
  reviewId : String
  reviewerId : String
  reviewedAgentIds : List String
  candidate : CandidateIdentity
deriving DecidableEq

/-- Supported task handoff states. -/
inductive HandoffStatus
  | planned | ready | running | blocked | verification | completed
deriving DecidableEq

def HandoffStatus.value : HandoffStatus → String
  | .planned => "planned"
  | .ready => "ready"
  | .running => "running"
  | .blocked => "blocked"
  | .verification => "verification"
  | .completed => "completed"

structure AutomatedHandoff where
  baselineId : String
  sourceSpecSha256 : String
  head : String
  repositoryDigest : String
  status : HandoffStatus
  incomplete : List String
  openDecisions : List String
  knownProblems : List String
deriving DecidableEq

/-- Truth state of one claim of a ledger. -/
inductive ClaimState
  | implemented | verified | unverified | knownProblem
deriving DecidableEq

structure LedgerClaim where
  claimId : String
  state : ClaimState
  requirementIds : List String
deriving DecidableEq

structure LedgerEvidence where
  evidenceId : String
  passed : Bool
  claimIds : List String
deriving DecidableEq

structure EvidenceLedger where
  baselineId : String
  sourceSpecSha256 : String
  gitHead : String
  repositoryDigest : String
  claims : List LedgerClaim
  evidence : List LedgerEvidence
deriving DecidableEq

structure ProjectManifest where
  projectId : String
  sourceSpecSha256 : String
deriving DecidableEq

structure UiValidation where
  candidate : CandidateIdentity
deriving DecidableEq

/-- The record of an integration task, told apart by its keys. -/
inductive IntegrationRecord
  | releaseCandidate
  | uiValidation (value : UiValidation)
  | projectManifest (value : ProjectManifest)
  | unsupported
deriving DecidableEq

/-- The files below the root as the existing validators read them, and the gates as the existing
services evaluate them for the plan at hand. A loader returns nothing where its validator raises. -/
structure ObservationSurroundings where
  baselineUnchanged : Bool
  loads : ArtifactReference → Bool
  taskAgentResult : MailboxMessage → Option (AgentResult × ArtifactReference)
  skillCapabilities : List String → Option (List ResolvedSkill)
  solverArtifact : ArtifactReference → Option SolverArtifact
  independentReview : ArtifactReference → Option IndependentReview
  automatedHandoff : ArtifactReference → Option AutomatedHandoff
  integrationRecord : ArtifactReference → Option IntegrationRecord
  evidenceLedger : ArtifactReference → Option EvidenceLedger
  implementationGate : EvidenceLedger → Bool
  reviewGate : IndependentReview → Bool
  /-- Whether the release gate passed, and the digest of its result. -/
  releaseGate : EvidenceLedger → IndependentReview → ProjectManifest → UiValidation → Bool × String

/-! ## Progress -/

/-- What the walk over the results has adopted so far. -/
structure ObservationProgress where
  bindings : Table NativeArtifactBinding := ∅
  agentResults : Table (AgentResult × ArtifactReference) := ∅
  solverVerifications : Table SolverVerification := ∅
  ledgers : List EvidenceLedger := []
  reviews : List IndependentReview := []
  manifest : Option ProjectManifest := none
  uiValidation : Option UiValidation := none
  releaseCandidate : Bool := false
  handoff : Option (String × AutomatedHandoff) := none
  uiObservationIds : Finset String := ∅
  releaseCandidateIds : Finset String := ∅

/-- Strictly adopted observations found in accepted results. The verifications stand with the
identities they are listed under. -/
structure NativeWorkflowObservations where
  bindings : List NativeArtifactBinding
  solverVerifications : Table SolverVerification
  evidenceIds : List String
  reviewIds : List String
  handoffId : Option String
  handoffStatus : Option String
  g2Passed : Bool
  g3Passed : Bool
  uiObservationIds : List String
  releaseCandidateIds : List String
  g4ResultIds : List String
  g4Passed : Bool
  claimCount : Nat
  verifiedClaimCount : Nat
  unverifiedClaimCount : Nat
  evidenceKnownProblemCount : Nat
  missingEvidenceCount : Nat
  handoffCreatedCount : Nat
  handoffResumeFailureCount : Nat
  handoffIncompleteItemCount : Nat
  handoffOpenDecisionCount : Nat
  handoffKnownProblemCount : Nat
  coveredRequirementIds : List String
  requirementCoverageAvailable : Bool

namespace NativeWorkflowObservations

/-- The observations of a plan that only plans. -/
def none : NativeWorkflowObservations where
  bindings := []
  solverVerifications := ∅
  evidenceIds := []
  reviewIds := []
  handoffId := .none
  handoffStatus := .none
  g2Passed := false
  g3Passed := false
  uiObservationIds := []
  releaseCandidateIds := []
  g4ResultIds := []
  g4Passed := false
  claimCount := 0
  verifiedClaimCount := 0
  unverifiedClaimCount := 0
  evidenceKnownProblemCount := 0
  missingEvidenceCount := 0
  handoffCreatedCount := 0
  handoffResumeFailureCount := 0
  handoffIncompleteItemCount := 0
  handoffOpenDecisionCount := 0
  handoffKnownProblemCount := 0
  coveredRequirementIds := []
  requirementCoverageAvailable := false

variable (o : NativeWorkflowObservations)

/-- The identities of the adopted verifications. -/
def solverVerificationIds : List String := o.solverVerifications.keys

/-- How many verifications were adopted with one outcome. -/
def solverCount (outcome : SolverVerificationOutcome) : Nat :=
  o.solverVerifications.rows.countP fun v => decide (v.outcome = outcome)

/-- The outcomes that were adopted with their numbers, in the order of their names. -/
def solverStatusCounts : List (String × Nat) :=
  [("inconclusive", o.solverCount .inconclusive), ("rejected", o.solverCount .rejected),
    ("verified", o.solverCount .verified)].filter fun item => item.2 ≠ 0

end NativeWorkflowObservations

/-! ## Adopting the results -/

variable (S : ObservationSurroundings) (plan : IntegratedPlan) (graph : TaskGraph)

/-- Adopt the Agent Result that a completed result wraps, and the Skills of its task. -/
def adoptAgentResult (progress : ObservationProgress) (message : MailboxMessage) :
    Except String ObservationProgress := do
  let task ← fromOption (message.taskId?.bind graph.task?)
    "Accepted result does not map to the Task Graph."
  let (result, reference) ← fromOption (S.taskAgentResult message)
    "Accepted Agent Result failed validation."
  require (S.loads reference) "Accepted Agent Result failed validation."
  require (∀ adopted ∈ progress.agentResults.rows, adopted.2.sha256 ≠ reference.sha256)
    "Accepted Agent Result reference is duplicated."
  let identifier := "M2-AGENT-RESULT-" ++ reference.sha256
  let skills ← fromOption (S.skillCapabilities task.requiredCapabilities)
    "Accepted Skill provenance is invalid."
  return { progress with
    agentResults := progress.agentResults.insert task.taskId (result, reference)
    bindings := skills.foldl (fun bindings skill =>
        bindings.insert ("M2-SKILL-" ++ skill.digest)
          ⟨"skill", "M2-SKILL-" ++ skill.digest, skill.reference, true⟩)
      (progress.bindings.insert identifier ⟨"agent-result", identifier, reference, true⟩) }

/-- Bind one review to the exact accepted Agent Results it claims to review. -/
def reviewReference (progress : ObservationProgress) (task : SchedulerTask)
    (references : List ArtifactReference) : Except String ArtifactReference := do
  let lineage := "Independent Review lacks exact target Agent Result lineage."
  require (task.reviewTargets.length < 64) lineage
  let targets ← task.reviewTargets.mapM fun target =>
    fromOption (progress.agentResults[target]?.map (·.2)) lineage
  require targets.Nodup lineage
  require (∀ target ∈ targets, target ∈ references) lineage
  require (references.length = targets.length + 1) lineage
  match references.filter fun reference => decide (reference ∉ targets) with
  | [reference] => return reference
  | _ => throw lineage

/-- The review among the references of a review task, and none for another task. -/
def reviewBinding (progress : ObservationProgress) (task : SchedulerTask)
    (references : List ArtifactReference) : Except String (Option ArtifactReference) :=
  if task.kind = .review then some <$> reviewReference progress task references else pure none

/-- The error of an observation that its existing validator refuses. -/
def refusedObservation : String := "Accepted native observation failed its existing validator."

/-- Adopt one solver artifact of a solver task. -/
def adoptSolver (progress : ObservationProgress) (task : SchedulerTask)
    (reference : ArtifactReference) : Except String (ObservationProgress × String × String) := do
  let artifact ← fromOption (S.solverArtifact reference) refusedObservation
  match artifact with
  | .result resultId => return (progress, "solver-result", resultId)
  | .verification verificationId value => do
    require (value.adoptionAllowed = true ∧ value.candidate = plan.candidate ∧
        value.graphId = plan.taskGraph.artifactId ∧ value.taskId = task.taskId)
      "M7 verification is stale or not adoptable."
    return ({ progress with solverVerifications :=
      progress.solverVerifications.insert verificationId value }, "solver-verification",
      verificationId)
  | .other => throw "Solver evidence type is unsupported."

/-- Adopt the review of a review task. -/
def adoptReview (progress : ObservationProgress) (task : SchedulerTask)
    (reference : ArtifactReference) : Except String (ObservationProgress × String × String) := do
  let review ← fromOption (S.independentReview reference) refusedObservation
  require (review.candidate = plan.candidate) "Independent Review candidate is stale."
  let targets ← task.reviewTargets.mapM fun target =>
    fromOption (progress.agentResults[target]?.map (·.1.agentId))
      "Independent Review target result is unavailable."
  let reviewer ← fromOption (progress.agentResults[task.taskId]?.map (·.1))
    "Independent Review target result is unavailable."
  require (review.reviewerId = reviewer.agentId ∧
      review.reviewedAgentIds.toFinset = reviewer.reviewedAgentIds.toFinset ∧
      review.reviewedAgentIds.toFinset = targets.toFinset)
    "Independent Review does not match completed target agents."
  return ({ progress with reviews := progress.reviews ++ [review] }, "independent-review",
    review.reviewId)

/-- Adopt the handoff of a handoff task. -/
def adoptHandoff (progress : ObservationProgress) (reference : ArtifactReference) :
    Except String (ObservationProgress × String × String) := do
  let handoff ← fromOption (S.automatedHandoff reference) refusedObservation
  require (progress.handoff = none) "Automated Handoff observation slot is duplicated."
  require (handoff.baselineId = plan.requirementBaselineId ∧
      handoff.sourceSpecSha256 = plan.candidate.sourceSpecSha256 ∧
      handoff.head = plan.candidate.gitHead ∧
      handoff.repositoryDigest = plan.candidate.repositoryDigest ∧
      handoff.incomplete = [] ∧ handoff.openDecisions = [] ∧ handoff.knownProblems = [])
    "Automated Handoff is stale or incomplete."
  let identifier := "M3-HANDOFF-" ++ reference.sha256
  return ({ progress with handoff := some (identifier, handoff) }, "automated-handoff", identifier)

/-- Adopt one record of an integration task, by the keys it has. -/
def adoptIntegration (progress : ObservationProgress) (reference : ArtifactReference) :
    Except String (ObservationProgress × String × String) := do
  let record ← fromOption (S.integrationRecord reference) refusedObservation
  match record with
  | .releaseCandidate => do
    require (progress.releaseCandidate = false) "Release Candidate observation slot is duplicated."
    let identifier := "M3-RELEASE-CANDIDATE-" ++ reference.sha256
    return ({ progress with
      releaseCandidate := true
      releaseCandidateIds := insert identifier progress.releaseCandidateIds },
      "release-candidate", identifier)
  | .uiValidation value => do
    require (progress.uiValidation = none) "UI validation observation slot is duplicated."
    require (value.candidate = plan.candidate) "UI validation candidate is stale."
    let identifier := "M3-UI-VALIDATION-" ++ reference.sha256
    return ({ progress with
      uiValidation := some value
      uiObservationIds := insert identifier progress.uiObservationIds },
      "ui-validation", identifier)
  | .projectManifest value => do
    require (progress.manifest = none) "Project Manifest observation slot is duplicated."
    require (value.projectId = plan.projectId ∧
        value.sourceSpecSha256 = plan.candidate.sourceSpecSha256)
      "Project manifest candidate is stale."
    let identifier := "M3-PROJECT-MANIFEST-" ++ reference.sha256
    return ({ progress with
      manifest := some value
      uiObservationIds := insert identifier progress.uiObservationIds },
      "project-manifest", identifier)
  | .unsupported => throw "Integration observation type is unsupported."

/-- Adopt one ledger of any other task. -/
def adoptLedger (progress : ObservationProgress) (reference : ArtifactReference) :
    Except String (ObservationProgress × String × String) := do
  let ledger ← fromOption (S.evidenceLedger reference) refusedObservation
  require (ledger.baselineId = plan.requirementBaselineId ∧
      ledger.sourceSpecSha256 = plan.candidate.sourceSpecSha256 ∧
      ledger.gitHead = plan.candidate.gitHead ∧
      ledger.repositoryDigest = plan.candidate.repositoryDigest)
    "Evidence Ledger candidate is stale."
  return ({ progress with ledgers := progress.ledgers ++ [ledger] }, "evidence-ledger",
    "M3-EVIDENCE-LEDGER-" ++ reference.sha256)

/-- Adopt one referenced artifact with the validator of the kind of its task. -/
def adoptArtifact (task : SchedulerTask) (progress : ObservationProgress)
    (reference : ArtifactReference) : Except String (ObservationProgress × String × String) :=
  match task.kind with
  | .solver => adoptSolver S plan progress task reference
  | .review => adoptReview S plan progress task reference
  | .handoff => adoptHandoff S plan progress reference
  | .integration => adoptIntegration S plan progress reference
  | _ => adoptLedger S plan progress reference

/-- Adopt one evidence reference of a result and bind its identity, which must be new. Of a review
task only the review itself is adopted. -/
def adoptEvidence (task : SchedulerTask) (review : Option ArtifactReference)
    (progress : ObservationProgress) (reference : ArtifactReference) :
    Except String ObservationProgress := do
  require (S.loads reference) refusedObservation
  if task.kind = .review ∧ review ≠ some reference then
    return progress
  else
    let (adopted, artifactType, identifier) ← adoptArtifact S plan task progress reference
    require (identifier ∉ adopted.bindings) "Accepted native observation is duplicated."
    return { adopted with bindings :=
      adopted.bindings.insert identifier ⟨artifactType, identifier, reference, true⟩ }

/-- The evidence references of a result. -/
def MailboxMessage.evidenceRefs (message : MailboxMessage) : List ArtifactReference :=
  (message.result?.map (·.evidenceRefs)).getD []

/-- Adopt every evidence reference of one completed result. -/
def adoptResult (progress : ObservationProgress) (message : MailboxMessage) :
    Except String ObservationProgress := do
  let task ← fromOption (message.taskId?.bind graph.task?)
    "Accepted result does not map to the Task Graph."
  let references := message.evidenceRefs
  let review ← reviewBinding progress task references
  let adopted ← references.foldlM (adoptEvidence S plan task review) progress
  require (task.kind = .solver →
      (∃ reference ∈ references, (S.solverArtifact reference).any SolverArtifact.isResult) ∧
      ∃ reference ∈ references, (S.solverArtifact reference).any SolverArtifact.isVerification)
    "Solver Task Result must bind one Result and one Verification."
  return adopted

/-! ## The observations of a plan -/

/-- The completed results of a store as the runtime walks them: by the identity of the message, and
only those of a task that is completed. -/
def completedResults (native : SchedulerState) (accepted : List (String × MailboxMessage)) :
    Table MailboxMessage :=
  (accepted.filter fun item =>
    decide (item.2.messageType = .taskResult ∧ ∃ task ∈ native.tasks,
      task.state = .completed ∧ item.2.taskId? = some task.taskId)).foldl
    (fun table item => table.insert item.1 item.2) ∅

/-- The claims of a ledger that passing evidence of it names. -/
def EvidenceLedger.passingClaimIds (ledger : EvidenceLedger) : List String :=
  (ledger.evidence.filter (·.passed)).flatMap (·.claimIds)

/-- The requirements that verified claims with passing evidence cover. -/
def EvidenceLedger.coveredRequirementIds (ledger : EvidenceLedger) : List String :=
  (ledger.claims.filter fun claim => decide (claim.claimId ∈ ledger.passingClaimIds ∧
    claim.state = .verified)).flatMap (·.requirementIds)

/-- How many claims of some ledgers meet a condition. -/
def countClaims (ledgers : List EvidenceLedger) (p : EvidenceLedger → LedgerClaim → Bool) : Nat :=
  (ledgers.map fun ledger => ledger.claims.countP (p ledger)).sum

/-- The release gate, evaluated only where every slot it reads was observed exactly once. -/
def evaluateRelease (progress : ObservationProgress) : Bool × List String :=
  match progress.ledgers, progress.reviews, progress.manifest, progress.uiValidation with
  | [ledger], [review], some manifest, some uiValidation =>
    if progress.releaseCandidate then
      let (passed, digest) := S.releaseGate ledger review manifest uiValidation
      (passed, ["M3-GATE-G4-" ++ digest])
    else (false, [])
  | _, _, _, _ => (false, [])

/-- The observations that a finished walk amounts to. -/
def concludeObservations (progress : ObservationProgress) : NativeWorkflowObservations where
  bindings := progress.bindings.rows
  solverVerifications := progress.solverVerifications
  evidenceIds := Sorting.listed
    (progress.ledgers.flatMap fun ledger => ledger.evidence.map (·.evidenceId)).toFinset
  reviewIds := Sorting.listed (progress.reviews.map (·.reviewId)).toFinset
  handoffId := progress.handoff.map (·.1)
  handoffStatus := progress.handoff.map (·.2.status.value)
  g2Passed := progress.ledgers ≠ [] ∧ progress.ledgers.all S.implementationGate
  g3Passed := progress.reviews ≠ [] ∧ progress.reviews.all S.reviewGate
  uiObservationIds := Sorting.listed progress.uiObservationIds
  releaseCandidateIds := Sorting.listed progress.releaseCandidateIds
  g4ResultIds := (evaluateRelease S progress).2
  g4Passed := (evaluateRelease S progress).1
  claimCount := countClaims progress.ledgers fun _ _ => true
  verifiedClaimCount := countClaims progress.ledgers fun _ claim => claim.state = .verified
  unverifiedClaimCount := countClaims progress.ledgers fun _ claim =>
    claim.state = .implemented ∨ claim.state = .unverified
  evidenceKnownProblemCount := countClaims progress.ledgers fun _ claim =>
    claim.state = .knownProblem
  missingEvidenceCount := countClaims progress.ledgers fun ledger claim =>
    claim.claimId ∉ ledger.passingClaimIds
  handoffCreatedCount := if progress.handoff.isSome then 1 else 0
  handoffResumeFailureCount :=
    if progress.handoff.any fun handoff => handoff.2.status ≠ .completed then 1 else 0
  handoffIncompleteItemCount := (progress.handoff.map (·.2.incomplete.length)).getD 0
  handoffOpenDecisionCount := (progress.handoff.map (·.2.openDecisions.length)).getD 0
  handoffKnownProblemCount := (progress.handoff.map (·.2.knownProblems.length)).getD 0
  coveredRequirementIds := Sorting.listed
    (progress.ledgers.flatMap (·.coveredRequirementIds)).toFinset
  requirementCoverageAvailable := progress.ledgers ≠ []

/-- Adopt only strict artifacts referenced by accepted results. -/
def deriveNativeObservations (native : SchedulerState)
    (accepted : List (String × MailboxMessage)) : Except String NativeWorkflowObservations := do
  require S.baselineUnchanged "Requirement Baseline observation drifted."
  if plan.completionProfile = .planOnly then
    return .none
  else
    let messages := (completedResults native accepted).rows
    let wrapped ← messages.foldlM (adoptAgentResult S graph) {}
    let adopted ← messages.foldlM (adoptResult S plan graph) wrapped
    return concludeObservations S adopted

end Sdaqf
