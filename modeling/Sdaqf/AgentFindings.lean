import Sdaqf.Guard
import Sdaqf.Ranking
import Sdaqf.Sorting
import Mathlib.Data.String.Basic

/-!
# Agent findings

Agents report findings under shared identifiers. The final report classifies each identifier once:
results that are not completed and repeated agents stay open, findings that agree are supported, and
findings that disagree are ranked by their evidence. Agent count is never evidence.
-/

namespace Sdaqf.Orchestration

open Guard

/-! ## Results -/

inductive AgentResultStatus
  | completed
  | blocked
  | rejected
deriving DecidableEq

def AgentResultStatus.value : AgentResultStatus → String
  | .completed => "completed"
  | .blocked => "blocked"
  | .rejected => "rejected"

inductive FindingSeverity
  | low
  | medium
  | high
  | critical
deriving DecidableEq

def FindingSeverity.rank : FindingSeverity → Nat
  | .low => 0
  | .medium => 1
  | .high => 2
  | .critical => 3

/-- Bounded evidence quality used for disagreements. -/
inductive EvidenceStrength
  | unverified
  | indirect
  | direct
  | counterexample
deriving DecidableEq

def EvidenceStrength.value : EvidenceStrength → String
  | .unverified => "unverified"
  | .indirect => "indirect"
  | .direct => "direct"
  | .counterexample => "counterexample"

def EvidenceStrength.rank : EvidenceStrength → Nat
  | .unverified => 0
  | .indirect => 1
  | .direct => 2
  | .counterexample => 3

/-- One bounded, traceable structured finding. -/
structure AgentFinding where
  findingId : String
  severity : FindingSeverity
  statement : String
  specificationRefs : List String
  evidenceRefs : List String
  evidenceStrength : EvidenceStrength
  counterexample : Option String
deriving DecidableEq

/-- Validated summary returned by one agent. -/
structure AgentResult where
  agentId : String
  status : AgentResultStatus
  findings : List AgentFinding
deriving DecidableEq

/-- A finding with the result that reports it. -/
abbrev Report := AgentResult × AgentFinding

/-- The findings of one identifier, in the order of the results. -/
def reports (findingId : String) (results : List AgentResult) : List Report :=
  results.flatMap fun result =>
    (result.findings.filter fun finding => finding.findingId = findingId).map fun finding =>
      (result, finding)

/-! ## Disagreements -/

/-- Evidence-based resolution that never treats a vote as proof. -/
structure DisagreementResolution where
  findingId : String
  selectedAgentId : String
  rationale : String
deriving DecidableEq

/-- What two findings are compared by. -/
def evidenceKey (report : Report) : Nat ×ₗ Nat ×ₗ Bool :=
  toLex (report.2.evidenceStrength.rank, toLex (report.2.severity.rank,
    report.2.counterexample.any (· ≠ "")))

/-- The evidence of a finding, with the agent against a tie. -/
def rankKey (report : Report) : (Nat ×ₗ Nat ×ₗ Bool) ×ₗ String :=
  toLex (evidenceKey report, report.1.agentId)

def equalStrengthMessage : String := "Equal-strength disagreement remains unresolved."

/-- Resolve by evidence strength and counterexample, never by vote. -/
def resolveDisagreement (findingId : String) (results : List AgentResult) :
    Except String DisagreementResolution :=
  match Ranking.ranked rankKey (reports findingId results) with
  | winner :: runnerUp :: _ =>
    if evidenceKey winner = evidenceKey runnerUp then .error equalStrengthMessage
    else .ok {
      findingId
      selectedAgentId := winner.1.agentId
      rationale := "Selected by specification trace, counterexample presence, and " ++
        "evidence strength; agent count was not considered." }
  | _ => .error "Disagreement resolution requires at least two findings."

/-! ## Assessments -/

inductive EpistemicClassification
  | fact
  | inference
  | assumption
  | unknown
deriving DecidableEq

/-- Whether available sources support, refute, or leave a claim open. -/
inductive ClaimConclusion
  | supported
  | refuted
  | unresolved
deriving DecidableEq

inductive WorkflowReportSourceKind
  | user
  | agent
  | skill
  | program
  | review
  | unknown
deriving DecidableEq

def WorkflowReportSourceKind.value : WorkflowReportSourceKind → String
  | .user => "user"
  | .agent => "agent"
  | .skill => "skill"
  | .program => "program"
  | .review => "review"
  | .unknown => "unknown"

/-- One traceable source without granting it factual authority by label. -/
structure WorkflowReportSource where
  sourceId : String
  sourceKind : WorkflowReportSourceKind
  status : String
  artifactId : Option String := none
  assertion : Option String := none
  references : List String := []
deriving DecidableEq

/-- One proposition with explicit epistemic and source separation. -/
structure WorkflowClaimAssessment where
  claimId : String
  statement : String
  classification : EpistemicClassification
  conclusion : ClaimConclusion
  supportingSources : List WorkflowReportSource
  refutingSources : List WorkflowReportSource
  unresolvedSources : List WorkflowReportSource
  humanReviewRequired : Bool
  rationale : String
deriving DecidableEq

def agentSource (report : Report) : WorkflowReportSource where
  sourceId := report.1.agentId ++ ":" ++ report.2.findingId
  sourceKind := .agent
  status := report.1.status.value ++ ":" ++ report.2.evidenceStrength.value
  assertion := some report.2.statement
  references := Sorting.listed (report.2.specificationRefs ++ report.2.evidenceRefs).toFinset

/-- What two findings must share to agree. -/
structure FindingSignature where
  severity : FindingSeverity
  statement : String
  specificationRefs : List String
  evidenceRefs : List String
  evidenceStrength : EvidenceStrength
  counterexample : Option String
deriving DecidableEq

def findingSignature (finding : AgentFinding) : FindingSignature where
  severity := finding.severity
  statement := finding.statement
  specificationRefs := finding.specificationRefs.insertionSort (· ≤ ·)
  evidenceRefs := finding.evidenceRefs.insertionSort (· ≤ ·)
  evidenceStrength := finding.evidenceStrength
  counterexample := finding.counterexample

def sourceKey (source : WorkflowReportSource) : String ×ₗ String ×ₗ String ×ₗ String :=
  toLex (source.sourceKind.value, toLex (source.sourceId,
    toLex (source.artifactId.getD "", source.status)))

def sortedSources (sources : List WorkflowReportSource) : List WorkflowReportSource :=
  sources.insertionSort fun a b => sourceKey a ≤ sourceKey b

def unknownAgentAssessment (findingId statement : String) (sources : List WorkflowReportSource)
    (rationale : String) : WorkflowClaimAssessment where
  claimId := findingId
  statement
  classification := .unknown
  conclusion := .unresolved
  supportingSources := []
  refutingSources := []
  unresolvedSources := sortedSources sources
  humanReviewRequired := true
  rationale

/-- The reports of one finding in the order of their agents. -/
def orderedReports (candidates : List Report) : List Report :=
  candidates.insertionSort fun a b => a.1.agentId ≤ b.1.agentId

/-- The distinct statements of the reports, joined. -/
def joinedStatement (ordered : List Report) : String :=
  " | ".intercalate (Sorting.listed (ordered.map (·.2.statement)).toFinset)

/-- Classify the reports of one finding identifier. -/
def classifyAgentFinding (findingId : String) (candidates : List Report) :
    Except String WorkflowClaimAssessment :=
  let ordered := orderedReports candidates
  let sources := ordered.map agentSource
  let statement := joinedStatement ordered
  if ordered.any fun report => report.1.status ≠ .completed then
    .ok (unknownAgentAssessment findingId statement sources "agent-result-not-completed")
  else if (ordered.map (·.1.agentId)).toFinset.card ≠ ordered.length then
    .ok (unknownAgentAssessment findingId statement sources "duplicate-agent-identity")
  else if ordered.length = 1 ∨
      (ordered.map fun report => findingSignature report.2).toFinset.card = 1 then
    if ordered.all fun report => report.2.evidenceStrength = .unverified then
      .ok (unknownAgentAssessment findingId statement sources "agent-evidence-unverified")
    else .ok {
      claimId := findingId
      statement
      classification := .inference
      conclusion := .supported
      supportingSources := sortedSources sources
      refutingSources := []
      unresolvedSources := []
      humanReviewRequired := true
      rationale := "agent-supported-inference" }
  else
    match resolveDisagreement findingId (ordered.map (·.1)) with
    | .error message =>
      if message ≠ equalStrengthMessage then .error message
      else .ok (unknownAgentAssessment findingId statement sources
        "equal-strength-agent-disagreement")
    | .ok resolution => .ok {
        claimId := findingId
        statement
        classification := .inference
        conclusion := .supported
        supportingSources := sortedSources ((ordered.filter fun report =>
          report.1.agentId = resolution.selectedAgentId).map agentSource)
        refutingSources := sortedSources ((ordered.filter fun report =>
          report.1.agentId ≠ resolution.selectedAgentId).map agentSource)
        unresolvedSources := []
        humanReviewRequired := true
        rationale := "agent-disagreement-ranked-by-existing-evidence-policy" }

/-- The identifiers of all findings, in their order. -/
def findingIds (results : List AgentResult) : List String :=
  Sorting.listed (results.flatMap fun result => result.findings.map (·.findingId)).toFinset

/-- Classify agent findings and consume the existing disagreement policy. -/
def classifyAgentFindings (results : List AgentResult) :
    Except String (List WorkflowClaimAssessment) :=
  (findingIds results).mapM fun findingId =>
    classifyAgentFinding findingId (reports findingId results)

end Sdaqf.Orchestration
