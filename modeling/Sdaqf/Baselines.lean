import Sdaqf.Payloads

/-!
# Requirement baselines

The records of a requirement baseline and the loader of a decoded baseline. A loaded baseline has
distinct requirement identifiers and distinct criterion identifiers over all its requirements, every
criterion names its requirement, and the baseline is named by the digest of its source file.
-/

namespace Sdaqf

open Guard
open JsonText (Value)
open Payload

/-- A point in time, in microseconds, and whether its text names a zone. -/
structure Moment where
  instant : Int
  aware : Bool
deriving DecidableEq

/-- What a run takes from the standard library: the hexadecimal SHA-256 digest of a text, the case
folding of a text, and the point in time a text names. -/
structure Runtime where
  hexdigest : String → String
  casefold : String → String
  fromisoformat : String → Option Moment

namespace Runtime

variable (R : Runtime)

/-- The first digits of the digest of a text, in upper case. -/
def digest (n : Nat) (text : String) : String :=
  String.ofList (((R.hexdigest text).toList.take n).map Char.toUpper)

end Runtime

/-! ## Records -/

inductive RequirementType
  | functional
  | nonfunctional
  | constraint
  | nonGoal
  | assumption
  | openDecision
deriving DecidableEq

instance : Enumeration RequirementType where
  value
    | .functional => "functional"
    | .nonfunctional => "nonfunctional"
    | .constraint => "constraint"
    | .nonGoal => "non-goal"
    | .assumption => "assumption"
    | .openDecision => "open-decision"
  all := [.functional, .nonfunctional, .constraint, .nonGoal, .assumption, .openDecision]
  mem_all a := by cases a <;> decide
  value_injective a b h := by cases a <;> cases b <;> first | rfl | exact absurd h (by decide)

/-- What the identifiers of generated records start with. -/
def RequirementType.autoMark : RequirementType → String
  | .functional => "FR-AUTO"
  | .nonfunctional => "NFR-AUTO"
  | .constraint => "C-AUTO"
  | .nonGoal => "NG-AUTO"
  | .assumption => "ASM-AUTO"
  | .openDecision => "OD-AUTO"

inductive RequirementPriority
  | must
  | should
  | could
deriving DecidableEq

instance : Enumeration RequirementPriority where
  value
    | .must => "must"
    | .should => "should"
    | .could => "could"
  all := [.must, .should, .could]
  mem_all a := by cases a <;> decide
  value_injective a b h := by cases a <;> cases b <;> first | rfl | exact absurd h (by decide)

inductive DiagnosticKind
  | ambiguity
  | contradiction
  | duplicateIdentifier
  | duplicateStatement
  | missingAssumption
  | unverifiable
deriving DecidableEq

instance : Enumeration DiagnosticKind where
  value
    | .ambiguity => "ambiguity"
    | .contradiction => "contradiction"
    | .duplicateIdentifier => "duplicate-identifier"
    | .duplicateStatement => "duplicate-statement"
    | .missingAssumption => "missing-assumption"
    | .unverifiable => "unverifiable"
  all := [.ambiguity, .contradiction, .duplicateIdentifier, .duplicateStatement, .missingAssumption,
      .unverifiable]
  mem_all a := by cases a <;> decide
  value_injective a b h := by cases a <;> cases b <;> first | rfl | exact absurd h (by decide)

inductive DiagnosticSeverity
  | info
  | warning
  | blocker
deriving DecidableEq

instance : Enumeration DiagnosticSeverity where
  value
    | .info => "info"
    | .warning => "warning"
    | .blocker => "blocker"
  all := [.info, .warning, .blocker]
  mem_all a := by cases a <;> decide
  value_injective a b h := by cases a <;> cases b <;> first | rfl | exact absurd h (by decide)

/-- Safe metadata for one ingested specification. -/
structure SourceMetadata where
  filename : String
  path : String
  sha256 : String
  sizeBytes : Int
  modifiedAt : String
  importedAt : String
deriving DecidableEq

/-- Original-source trace for a normalized requirement. -/
structure SourceTrace where
  document : String
  section_ : String
  lineStart : Int
  lineEnd : Int
  excerpt : String
  derivationBasis : String
deriving DecidableEq

/-- One traceable acceptance criterion and its verification methods. -/
@[ext]
structure AcceptanceCriterion where
  criterionId : String
  statement : String
  verificationMethods : List String
deriving DecidableEq

/-- Downstream trace links, empty until supported evidence is recorded. -/
structure TraceLinks where
  design : List String
  code : List String
  tests : List String
  evidence : List String
  releases : List String
deriving DecidableEq

/-- A normalized requirement that makes no implementation claim. -/
structure RequirementRecord where
  requirementId : String
  title : String
  requirementType : RequirementType
  priority : RequirementPriority
  source : SourceTrace
  statement : String
  acceptanceCriteria : List AcceptanceCriterion
  verificationMethods : List String
  assumptions : List String
  openQuestions : List String
  traceLinks : TraceLinks
  identifierSource : String
  status : String
deriving DecidableEq

/-- An explicit quality issue found during normalization. -/
structure Diagnostic where
  diagnosticId : String
  kind : DiagnosticKind
  severity : DiagnosticSeverity
  requirementIds : List String
  message : String
  lineStart : Int
  lineEnd : Int
  status : String
deriving DecidableEq

/-- Versioned deterministic requirement baseline. -/
structure RequirementBaseline where
  baselineId : String
  source : SourceMetadata
  requirements : List RequirementRecord
  sourceAcceptanceCriteria : List AcceptanceCriterion
  diagnostics : List Diagnostic
  approvalRequired : List String
  approvalGranted : List String
  schemaVersion : String
deriving DecidableEq

/-! ## Written records

The members of a written object stand in the order of their keys, as every writer sorts them. -/

def SourceMetadata.toDict (r : SourceMetadata) : Value := .object [
  ("filename", .text r.filename),
  ("imported_at", .text r.importedAt),
  ("modified_at", .text r.modifiedAt),
  ("path", .text r.path),
  ("sha256", .text r.sha256),
  ("size_bytes", .number r.sizeBytes)]

def SourceTrace.toDict (r : SourceTrace) : Value := .object [
  ("derivation_basis", .text r.derivationBasis),
  ("document", .text r.document),
  ("excerpt", .text r.excerpt),
  ("line_end", .number r.lineEnd),
  ("line_start", .number r.lineStart),
  ("section", .text r.section_)]

def AcceptanceCriterion.toDict (r : AcceptanceCriterion) : Value := .object [
  ("id", .text r.criterionId),
  ("statement", .text r.statement),
  ("verification_methods", textArray r.verificationMethods)]

def TraceLinks.toDict (r : TraceLinks) : Value := .object [
  ("code", textArray r.code),
  ("design", textArray r.design),
  ("evidence", textArray r.evidence),
  ("releases", textArray r.releases),
  ("tests", textArray r.tests)]

def RequirementRecord.toDict (r : RequirementRecord) : Value := .object [
  ("acceptance_criteria", .array (r.acceptanceCriteria.map AcceptanceCriterion.toDict)),
  ("assumptions", textArray r.assumptions),
  ("id", .text r.requirementId),
  ("identifier_source", .text r.identifierSource),
  ("open_questions", textArray r.openQuestions),
  ("priority", .text (Enumeration.value r.priority)),
  ("source", r.source.toDict),
  ("statement", .text r.statement),
  ("status", .text r.status),
  ("title", .text r.title),
  ("trace_links", r.traceLinks.toDict),
  ("type", .text (Enumeration.value r.requirementType)),
  ("verification_methods", textArray r.verificationMethods)]

def Diagnostic.toDict (r : Diagnostic) : Value := .object [
  ("id", .text r.diagnosticId),
  ("kind", .text (Enumeration.value r.kind)),
  ("line_end", .number r.lineEnd),
  ("line_start", .number r.lineStart),
  ("message", .text r.message),
  ("requirement_ids", textArray r.requirementIds),
  ("severity", .text (Enumeration.value r.severity)),
  ("status", .text r.status)]

def RequirementBaseline.toDict (r : RequirementBaseline) : Value := .object [
  ("approval_state", .object [
    ("granted", textArray r.approvalGranted),
    ("required", textArray r.approvalRequired)]),
  ("baseline_id", .text r.baselineId),
  ("diagnostics", .array (r.diagnostics.map Diagnostic.toDict)),
  ("requirements", .array (r.requirements.map RequirementRecord.toDict)),
  ("schema_version", .text r.schemaVersion),
  ("source", r.source.toDict),
  ("source_acceptance_criteria",
    .array (r.sourceAcceptanceCriteria.map AcceptanceCriterion.toDict))]

/-! ## Loading -/

/-- An uppercase stable identifier. -/
def isUpperIdentifier (text : String) : Bool :=
  match text.toList with
  | [] => false
  | c :: cs => isUpper c && cs.all fun c => isUpper c || isDigit c || c = '-'

/-- A mark and that many digits of an uppercase digest. -/
def isDigestId (mark : String) (n : Nat) (text : String) : Bool :=
  marked mark (fun cs => cs.length = n && cs.all isUpperHex) text

def isBaselineMark : String → Bool := isDigestId "RB-" 16

/-- A portable file name without a directory. -/
def isSafeFilename (text : String) : Bool :=
  !(["", ".", ".."].contains text) &&
    text.toList.all fun c => !(['\n', '\r', '\x00', ':', '/', '\\'].contains c)

/-- A display path that stays below its root. -/
def isDisplayPath (text : String) : Bool :=
  (match text.toList with
    | '/' :: _ => false
    | '\\' :: _ => false
    | c :: ':' :: slash :: _ => !((isUpper c || isLower c) && (slash = '/' || slash = '\\'))
    | _ => true) &&
  !((text.toList.splitOn '/').contains ['.', '.'])

def isHexDigit (c : Char) : Bool := isUpperHex c || isLowerHex c

/-- The identifier of a criterion of a milestone. -/
def isMilestoneCriterion (text : String) : Bool :=
  marked "AC-M" (fun cs =>
    match cs.splitOn '-' with
    | [a, b] => [a, b].all fun digits => !digits.isEmpty && digits.all isDigit
    | _ => false) text

/-- A criterion whose identifier starts with the identifier of a requirement. -/
def linksTo (requirementId criterionId : String) : Bool :=
  ("AC-" ++ requirementId ++ "-").toList.isPrefixOf criterionId.toList

def enumValue (α : Type) [Enumeration α] (value : Value) (field : String) : Except String α := do
  let text ← nonEmptyString value field
  fromOption (ofValue α text) (field ++ " has an unsupported value.")

/-- The words of a statement: runs of other characters become one blank. -/
def words : List Char → List Char
  | [] => []
  | c :: cs =>
    if isLower c || isDigit c then c :: words cs
    else match words cs with
      | ' ' :: rest => ' ' :: rest
      | rest => ' ' :: rest

section Loader

variable (R : Runtime)

/-- The content-derived identifier of an unlabelled record. -/
def generatedRequirementId (statement : String) (requirementType : RequirementType) : String :=
  let normalized := words (R.casefold statement).toList
  let stripped := ((normalized.dropWhile isSpace).reverse.dropWhile isSpace).reverse
  requirementType.autoMark ++ "-" ++ R.digest 12 (String.ofList stripped)

def timestampOf (value : Value) (field : String) : Except String String := do
  let text ← nonEmptyString value field
  let parsed ← fromOption (R.fromisoformat text) (field ++ " must be an ISO 8601 timestamp.")
  require parsed.aware (field ++ " must include a timezone.")
  return text

def parseSource (value : Value) : Except String SourceMetadata := do
  let source ← objectValue value "source"
  onlyKeys source ["filename", "imported_at", "modified_at", "path", "sha256", "size_bytes"] "source"
  let filename ← nonEmptyString (get source "filename") "source.filename"
  require (isSafeFilename filename) "source.filename must be a safe filename."
  let path ← nonEmptyString (get source "path") "source.path"
  require (isDisplayPath path) "source.path must be a safe relative display path."
  let digest ← nonEmptyString (get source "sha256") "source.sha256"
  require (digest.toList.length = 64 ∧ digest.toList.all isHexDigit)
    "source.sha256 must be a SHA-256 digest."
  let sizeBytes ← integer (get source "size_bytes") "source.size_bytes"
  require (0 ≤ sizeBytes) "source.size_bytes must not be negative."
  let modifiedAt ← timestampOf R (get source "modified_at") "source.modified_at"
  let importedAt ← timestampOf R (get source "imported_at") "source.imported_at"
  return {
    filename
    path
    sha256 := String.ofList (digest.toList.map Char.toUpper)
    sizeBytes
    modifiedAt
    importedAt }

def parseTrace (value : Value) (field : String) : Except String SourceTrace := do
  let source ← objectValue value field
  onlyKeys source ["derivation_basis", "document", "excerpt", "line_end", "line_start", "section"]
    field
  let lineStart ← integer (get source "line_start") (field ++ ".line_start")
  let lineEnd ← integer (get source "line_end") (field ++ ".line_end")
  require (1 ≤ lineStart ∧ lineStart ≤ lineEnd) (field ++ " has an invalid line range.")
  let document ← nonEmptyString (get source "document") (field ++ ".document")
  require (isSafeFilename document) (field ++ ".document must be a safe filename.")
  let section_ ← nonEmptyString (get source "section") (field ++ ".section")
  let excerpt ← nonEmptyString (get source "excerpt") (field ++ ".excerpt")
  let derivationBasis ← nonEmptyString (get source "derivation_basis")
    (field ++ ".derivation_basis")
  return { document, section_, lineStart, lineEnd, excerpt, derivationBasis }

def parseCriterion (value : Value) (field : String) : Except String AcceptanceCriterion := do
  let item ← objectValue value field
  onlyKeys item ["id", "statement", "verification_methods"] field
  let criterionId ← nonEmptyString (get item "id") (field ++ ".id")
  require (isUpperIdentifier criterionId) (field ++ ".id must be a stable identifier.")
  let verificationMethods ← nonEmptyTuple (get item "verification_methods")
    (field ++ ".verification_methods")
  require (verificationMethods ≠ []) (field ++ ".verification_methods must not be empty.")
  let statement ← nonEmptyString (get item "statement") (field ++ ".statement")
  return { criterionId, statement, verificationMethods }

def parseLinks (value : Value) (field : String) : Except String TraceLinks := do
  let item ← objectValue value field
  onlyKeys item ["code", "design", "evidence", "releases", "tests"] field
  let design ← nonEmptyTuple (get item "design") (field ++ ".design")
  let code ← nonEmptyTuple (get item "code") (field ++ ".code")
  let tests ← nonEmptyTuple (get item "tests") (field ++ ".tests")
  let evidence ← nonEmptyTuple (get item "evidence") (field ++ ".evidence")
  let releases ← nonEmptyTuple (get item "releases") (field ++ ".releases")
  return { design, code, tests, evidence, releases }

def requirementStatuses : List String :=
  ["draft", "baselined", "implemented", "verified", "rejected"]

def identifierSources : List String := ["explicit", "generated"]

def diagnosticStatuses : List String := ["open", "resolved", "accepted"]

/-- The keys of a written requirement. -/
def requirementKeys : List String :=
  ["acceptance_criteria", "assumptions", "id", "identifier_source", "open_questions", "priority",
    "source", "statement", "status", "title", "trace_links", "type", "verification_methods"]

def parseRequirement (value : Value) (field : String) : Except String RequirementRecord := do
  let item ← objectValue value field
  onlyKeys item requirementKeys field
  let requirementId ← nonEmptyString (get item "id") (field ++ ".id")
  require (isUpperIdentifier requirementId) (field ++ ".id must be an uppercase stable identifier.")
  let status ← nonEmptyString (get item "status") (field ++ ".status")
  require (status ∈ requirementStatuses) (field ++ ".status is invalid.")
  let source ← parseTrace (get item "source") (field ++ ".source")
  let criteriaRaw ← array (get item "acceptance_criteria") (field ++ ".acceptance_criteria")
  let acceptanceCriteria ← mapIndexed (field ++ ".acceptance_criteria") parseCriterion criteriaRaw
  require (acceptanceCriteria.map (·.criterionId)).Nodup
    (field ++ ".acceptance_criteria IDs must be unique.")
  require (∀ criterion ∈ acceptanceCriteria, linksTo requirementId criterion.criterionId = true)
    (field ++ ".acceptance_criteria must link to " ++ requirementId ++ ".")
  let verificationMethods ← nonEmptyTuple (get item "verification_methods")
    (field ++ ".verification_methods")
  require (acceptanceCriteria ≠ [] ∧ verificationMethods ≠ [])
    (field ++ " must include acceptance and verification.")
  let traceLinks ← parseLinks (get item "trace_links") (field ++ ".trace_links")
  let identifierSource ← nonEmptyString (get item "identifier_source")
    (field ++ ".identifier_source")
  require (identifierSource ∈ identifierSources) (field ++ ".identifier_source is invalid.")
  let requirementType ← enumValue RequirementType (get item "type") (field ++ ".type")
  let statement ← nonEmptyString (get item "statement") (field ++ ".statement")
  require (identifierSource = "generated" →
      requirementId = generatedRequirementId R statement requirementType)
    (field ++ ".id does not match its generated identifier contract.")
  let title ← nonEmptyString (get item "title") (field ++ ".title")
  let priority ← enumValue RequirementPriority (get item "priority")
    (field ++ ".priority")
  let assumptions ← nonEmptyTuple (get item "assumptions") (field ++ ".assumptions")
  let openQuestions ← nonEmptyTuple (get item "open_questions") (field ++ ".open_questions")
  return {
    requirementId
    title
    requirementType
    priority
    source
    statement
    acceptanceCriteria
    verificationMethods
    assumptions
    openQuestions
    traceLinks
    identifierSource
    status }

def parseDiagnostic (value : Value) (field : String) : Except String Diagnostic := do
  let item ← objectValue value field
  onlyKeys item ["id", "kind", "line_end", "line_start", "message", "requirement_ids", "severity",
    "status"] field
  let diagnosticId ← nonEmptyString (get item "id") (field ++ ".id")
  require (isDigestId "DIAG-" 12 diagnosticId)
    (field ++ ".id must be a stable diagnostic identifier.")
  let status ← nonEmptyString (get item "status") (field ++ ".status")
  require (status ∈ diagnosticStatuses) (field ++ ".status is invalid.")
  let lineStart ← integer (get item "line_start") (field ++ ".line_start")
  let lineEnd ← integer (get item "line_end") (field ++ ".line_end")
  require (1 ≤ lineStart ∧ lineStart ≤ lineEnd) (field ++ " has an invalid line range.")
  let kind ← enumValue DiagnosticKind (get item "kind") (field ++ ".kind")
  let severity ← enumValue DiagnosticSeverity (get item "severity")
    (field ++ ".severity")
  let requirementIds ← nonEmptyTuple (get item "requirement_ids") (field ++ ".requirement_ids")
  let message ← nonEmptyString (get item "message") (field ++ ".message")
  return {
    diagnosticId, kind, severity, requirementIds, message, lineStart, lineEnd, status }

/-- The identifiers of all criteria of all requirements. -/
def criterionIds (requirements : List RequirementRecord) : List String :=
  requirements.flatMap fun item => item.acceptanceCriteria.map (·.criterionId)

/-- Validate a decoded requirement list with the record contract. -/
def requirementRecordsFromList (payload : Value) : Except String (List RequirementRecord) := do
  let requirementsRaw ← array payload "requirements"
  let requirements ← mapIndexed "requirements" (parseRequirement R) requirementsRaw
  require (requirements ≠ []) "requirements must not be empty."
  require (requirements.map (·.requirementId)).Nodup "requirement identifiers must be unique."
  require (criterionIds requirements).Nodup
    "acceptance criterion identifiers must be globally unique."
  return requirements

/-- Validate a decoded JSON value and build the records of a baseline. -/
def baselineFromDict (payload : Value) : Except String RequirementBaseline := do
  let root ← objectValue payload "baseline"
  onlyKeys root ["approval_state", "baseline_id", "diagnostics", "requirements", "schema_version",
    "source", "source_acceptance_criteria"] "baseline"
  let schemaVersion ← nonEmptyString (get root "schema_version") "schema_version"
  require (schemaVersion = "1.0") "schema_version must be 1.0."
  let baselineId ← nonEmptyString (get root "baseline_id") "baseline_id"
  require (isBaselineMark baselineId) "baseline_id must be a stable RB identifier."
  let source ← parseSource R (get root "source")
  require (baselineId = "RB-" ++ String.ofList (source.sha256.toList.take 16))
    "baseline_id must match the source digest."
  let requirements ← requirementRecordsFromList R (get root "requirements")
  let requirementIds := requirements.map (·.requirementId)
  let criteriaRaw ← array (get root "source_acceptance_criteria") "source_acceptance_criteria"
  let sourceCriteria ← mapIndexed "source_acceptance_criteria" parseCriterion criteriaRaw
  require (sourceCriteria.map (·.criterionId)).Nodup
    "source acceptance criterion identifiers must be unique."
  require (∀ criterion ∈ sourceCriteria,
      (∃ id ∈ requirementIds, linksTo id criterion.criterionId = true) ∨
        isMilestoneCriterion criterion.criterionId = true)
    "source acceptance criteria must link a requirement or milestone."
  let diagnosticsRaw ← array (get root "diagnostics") "diagnostics"
  let diagnostics ← mapIndexed "diagnostics" parseDiagnostic diagnosticsRaw
  require (diagnostics.map (·.diagnosticId)).Nodup "diagnostic identifiers must be unique."
  require (∀ diagnostic ∈ diagnostics, ∀ id ∈ diagnostic.requirementIds, id ∈ requirementIds)
    "diagnostics must reference known requirements."
  let approval ← objectValue (get root "approval_state") "approval_state"
  onlyKeys approval ["granted", "required"] "approval_state"
  let required ← nonEmptyTuple (get approval "required") "approval_state.required"
  let granted ← nonEmptyTuple (get approval "granted") "approval_state.granted"
  require (required.Nodup ∧ granted.Nodup) "approval identifiers must be unique."
  require (granted = [])
    "embedded approval grants are not trusted; use an Owner approval record."
  return {
    baselineId
    source
    requirements
    sourceAcceptanceCriteria := sourceCriteria
    diagnostics
    approvalRequired := required
    approvalGranted := granted
    schemaVersion }

end Loader

/-! ## What a loaded baseline satisfies -/

/-- What the loader of a trace asks. -/
structure LawfulTrace (source : SourceTrace) : Prop where
  document : Written source.document ∧ isSafeFilename source.document = true
  section_ : Written source.section_
  lines : 1 ≤ source.lineStart ∧ source.lineStart ≤ source.lineEnd
  excerpt : Written source.excerpt
  derivationBasis : Written source.derivationBasis

/-- What the loader of a criterion asks. -/
structure LawfulCriterion (criterion : AcceptanceCriterion) : Prop where
  criterionId : Written criterion.criterionId ∧ isUpperIdentifier criterion.criterionId = true
  statement : Written criterion.statement
  methods : criterion.verificationMethods ≠ [] ∧ ∀ text ∈ criterion.verificationMethods, Written text

/-- What the loader of the links of a requirement asks. -/
structure LawfulLinks (links : TraceLinks) : Prop where
  design : ∀ text ∈ links.design, Written text
  code : ∀ text ∈ links.code, Written text
  tests : ∀ text ∈ links.tests, Written text
  evidence : ∀ text ∈ links.evidence, Written text
  releases : ∀ text ∈ links.releases, Written text

/-- What the loader of a requirement asks. -/
structure LawfulRequirement (R : Runtime) (item : RequirementRecord) : Prop where
  requirementId : Written item.requirementId ∧ isUpperIdentifier item.requirementId = true
  title : Written item.title
  source : LawfulTrace item.source
  statement : Written item.statement
  criteria : item.acceptanceCriteria ≠ [] ∧ ∀ criterion ∈ item.acceptanceCriteria,
    LawfulCriterion criterion
  criteriaUnique : (item.acceptanceCriteria.map (·.criterionId)).Nodup
  criteriaLinked : ∀ criterion ∈ item.acceptanceCriteria,
    linksTo item.requirementId criterion.criterionId = true
  methods : item.verificationMethods ≠ [] ∧ ∀ text ∈ item.verificationMethods, Written text
  assumptions : ∀ text ∈ item.assumptions, Written text
  openQuestions : ∀ text ∈ item.openQuestions, Written text
  traceLinks : LawfulLinks item.traceLinks
  identifierSource : Written item.identifierSource ∧ item.identifierSource ∈ identifierSources
  generated : item.identifierSource = "generated" →
    item.requirementId = generatedRequirementId R item.statement item.requirementType
  status : Written item.status ∧ item.status ∈ requirementStatuses

/-- What the loader of a list of requirements asks. -/
structure LawfulRequirements (R : Runtime) (items : List RequirementRecord) : Prop where
  nonempty : items ≠ []
  each : ∀ item ∈ items, LawfulRequirement R item
  unique : (items.map (·.requirementId)).Nodup
  criteriaUnique : (criterionIds items).Nodup

/-- A text that is a point in time with a zone. -/
structure LawfulTimestamp (R : Runtime) (text : String) : Prop where
  written : Written text
  aware : ∃ moment, R.fromisoformat text = some moment ∧ moment.aware = true

/-- What the loader of the metadata of a source asks, once the digest is in upper case. -/
structure LawfulSource (R : Runtime) (source : SourceMetadata) : Prop where
  filename : Written source.filename ∧ isSafeFilename source.filename = true
  path : Written source.path ∧ isDisplayPath source.path = true
  written : Written source.sha256
  sha256 : source.sha256.toList.length = 64 ∧ source.sha256.toList.all isHexDigit = true
  upper : source.sha256.toList.map Char.toUpper = source.sha256.toList
  sizeBytes : 0 ≤ source.sizeBytes
  modifiedAt : LawfulTimestamp R source.modifiedAt
  importedAt : LawfulTimestamp R source.importedAt

/-- What the loader of a diagnostic asks. -/
structure LawfulDiagnostic (diagnostic : Diagnostic) : Prop where
  diagnosticId : Written diagnostic.diagnosticId ∧ isDigestId "DIAG-" 12 diagnostic.diagnosticId = true
  requirementIds : ∀ text ∈ diagnostic.requirementIds, Written text
  message : Written diagnostic.message
  lines : 1 ≤ diagnostic.lineStart ∧ diagnostic.lineStart ≤ diagnostic.lineEnd
  status : Written diagnostic.status ∧ diagnostic.status ∈ diagnosticStatuses

/-- What the loader of a baseline asks. -/
structure LawfulBaseline (R : Runtime) (baseline : RequirementBaseline) : Prop where
  schemaVersion : baseline.schemaVersion = "1.0"
  baselineId : Written baseline.baselineId ∧ isBaselineMark baseline.baselineId = true
  source : LawfulSource R baseline.source
  named : baseline.baselineId = "RB-" ++ String.ofList (baseline.source.sha256.toList.take 16)
  requirements : LawfulRequirements R baseline.requirements
  sourceCriteria : ∀ criterion ∈ baseline.sourceAcceptanceCriteria, LawfulCriterion criterion
  sourceCriteriaUnique : (baseline.sourceAcceptanceCriteria.map (·.criterionId)).Nodup
  sourceCriteriaLinked : ∀ criterion ∈ baseline.sourceAcceptanceCriteria,
    (∃ id ∈ baseline.requirements.map (·.requirementId), linksTo id criterion.criterionId = true) ∨
      isMilestoneCriterion criterion.criterionId = true
  diagnostics : ∀ diagnostic ∈ baseline.diagnostics, LawfulDiagnostic diagnostic
  diagnosticsUnique : (baseline.diagnostics.map (·.diagnosticId)).Nodup
  diagnosticsKnown : ∀ diagnostic ∈ baseline.diagnostics, ∀ id ∈ diagnostic.requirementIds,
    id ∈ baseline.requirements.map (·.requirementId)
  approvalRequired : ∀ text ∈ baseline.approvalRequired, Written text
  approvalRequiredUnique : baseline.approvalRequired.Nodup
  approvalGranted : baseline.approvalGranted = []

variable {R : Runtime} {value : Value} {field : String}

theorem lawful_of_parseTrace {source : SourceTrace} (h : parseTrace value field = .ok source) :
    LawfulTrace source := by
  simp only [parseTrace, bind_eq_ok, pure_eq_ok, require_eq_ok, exists_unit,
    nonEmptyString_eq_ok] at h
  obtain ⟨_, -, -, _, -, _, -, hlines, _, hdocument, hsafe, _, hsection, _, hexcerpt, _, hbasis,
    rfl⟩ := h
  exact ⟨⟨hdocument.2, hsafe⟩, hsection.2, hlines, hexcerpt.2, hbasis.2⟩

theorem lawful_of_parseCriterion {criterion : AcceptanceCriterion}
    (h : parseCriterion value field = .ok criterion) : LawfulCriterion criterion := by
  simp only [parseCriterion, bind_eq_ok, pure_eq_ok, require_eq_ok, exists_unit,
    nonEmptyString_eq_ok] at h
  obtain ⟨_, -, -, _, hid, hstable, _, hmethods, hsome, _, hstatement, rfl⟩ := h
  exact ⟨⟨hid.2, hstable⟩, hstatement.2, hsome, written_of_nonEmptyTuple hmethods⟩

theorem lawful_of_parseLinks {links : TraceLinks} (h : parseLinks value field = .ok links) :
    LawfulLinks links := by
  simp only [parseLinks, bind_eq_ok, pure_eq_ok, exists_unit] at h
  obtain ⟨_, -, -, _, hdesign, _, hcode, _, htests, _, hevidence, _, hreleases, rfl⟩ := h
  exact ⟨written_of_nonEmptyTuple hdesign, written_of_nonEmptyTuple hcode,
    written_of_nonEmptyTuple htests, written_of_nonEmptyTuple hevidence,
    written_of_nonEmptyTuple hreleases⟩

theorem lawful_of_parseRequirement {item : RequirementRecord}
    (h : parseRequirement R value field = .ok item) : LawfulRequirement R item := by
  simp only [parseRequirement, bind_eq_ok, pure_eq_ok, require_eq_ok, exists_unit,
    nonEmptyString_eq_ok] at h
  obtain ⟨_, -, -, _, hid, hstable, _, hstatus, hstatuses, _, hsource, _, -, _, hcriteria, hunique,
    hlinked, _, hmethods, hsome, _, hlinks, _, hidentifier, hsources, _, -, _, hstatement,
    hgenerated, _, htitle, _, -, _, hassumptions, _, hquestions, rfl⟩ := h
  exact ⟨⟨hid.2, hstable⟩, htitle.2, lawful_of_parseTrace hsource, hstatement.2,
    ⟨hsome.1, mapIndexed_forall (fun _ _ _ _ => lawful_of_parseCriterion) hcriteria⟩, hunique,
    hlinked, ⟨hsome.2, written_of_nonEmptyTuple hmethods⟩, written_of_nonEmptyTuple hassumptions,
    written_of_nonEmptyTuple hquestions, lawful_of_parseLinks hlinks, ⟨hidentifier.2, hsources⟩,
    hgenerated, ⟨hstatus.2, hstatuses⟩⟩

theorem lawful_of_requirementRecordsFromList {items : List RequirementRecord}
    (h : requirementRecordsFromList R value = .ok items) : LawfulRequirements R items := by
  simp only [requirementRecordsFromList, bind_eq_ok, pure_eq_ok, require_eq_ok, exists_unit] at h
  obtain ⟨_, -, _, hitems, hsome, hunique, hcriteria, rfl⟩ := h
  exact ⟨hsome, mapIndexed_forall (fun _ _ _ _ => lawful_of_parseRequirement) hitems, hunique,
    hcriteria⟩

theorem lawful_of_baselineFromDict {baseline : RequirementBaseline}
    (h : baselineFromDict R value = .ok baseline) : LawfulRequirements R baseline.requirements := by
  simp only [baselineFromDict, bind_eq_ok, pure_eq_ok, require_eq_ok, exists_unit] at h
  obtain ⟨_, -, -, _, -, -, _, -, -, _, -, -, _, hitems, _, -, _, -, -, -, _, -, _, -, -, -, _, -, -,
    _, -, _, -, -, -, rfl⟩ := h
  exact lawful_of_requirementRecordsFromList hitems

/-! ## A lawful record is read back -/

theorem parseTrace_toDict {source : SourceTrace} (h : LawfulTrace source) :
    parseTrace source.toDict field = .ok source := by
  simp [parseTrace, SourceTrace.toDict, onlyKeys_of_keys, h.document, h.section_, h.lines,
    h.excerpt, h.derivationBasis]

theorem parseCriterion_toDict {criterion : AcceptanceCriterion} (h : LawfulCriterion criterion) :
    parseCriterion criterion.toDict field = .ok criterion := by
  simp [parseCriterion, AcceptanceCriterion.toDict, onlyKeys_of_keys, h.criterionId, h.statement,
    nonEmptyTuple_textArray h.methods.2, h.methods.1]

theorem parseLinks_toDict {links : TraceLinks} (h : LawfulLinks links) :
    parseLinks links.toDict field = .ok links := by
  simp [parseLinks, TraceLinks.toDict, onlyKeys_of_keys, nonEmptyTuple_textArray h.design,
    nonEmptyTuple_textArray h.code, nonEmptyTuple_textArray h.tests,
    nonEmptyTuple_textArray h.evidence, nonEmptyTuple_textArray h.releases]

theorem enumValue_value {α : Type} [Enumeration α] {a : α}
    (h : Written (Enumeration.value a)) :
    enumValue α (.text (Enumeration.value a)) field = .ok a := by
  simp [enumValue, h]

theorem written_type (a : RequirementType) : Written (Enumeration.value a) := by
  cases a <;> decide

theorem written_priority (a : RequirementPriority) : Written (Enumeration.value a) := by
  cases a <;> decide

theorem written_kind (a : DiagnosticKind) : Written (Enumeration.value a) := by
  cases a <;> decide

theorem written_severity (a : DiagnosticSeverity) : Written (Enumeration.value a) := by
  cases a <;> decide

theorem parseRequirement_toDict {item : RequirementRecord} (h : LawfulRequirement R item) :
    parseRequirement R item.toDict field = .ok item := by
  have hcriteria : mapIndexed (field ++ ".acceptance_criteria") parseCriterion
      (item.acceptanceCriteria.map AcceptanceCriterion.toDict) = .ok item.acceptanceCriteria :=
    mapIndexed_map fun criterion hmem _ => parseCriterion_toDict (h.criteria.2 criterion hmem)
  simp [parseRequirement, RequirementRecord.toDict, onlyKeys_of_keys, requirementKeys, hcriteria,
    h.requirementId, h.status, parseTrace_toDict h.source, h.criteriaUnique, h.criteria.1,
    nonEmptyTuple_textArray h.methods.2, h.methods.1, parseLinks_toDict h.traceLinks,
    h.identifierSource, enumValue_value (written_type _), enumValue_value (written_priority _),
    nonEmptyTuple_textArray h.assumptions, nonEmptyTuple_textArray h.openQuestions, h.statement,
    h.title]
  exact ⟨h.criteriaLinked, h.generated⟩

theorem parseDiagnostic_toDict {diagnostic : Diagnostic} (h : LawfulDiagnostic diagnostic) :
    parseDiagnostic diagnostic.toDict field = .ok diagnostic := by
  simp [parseDiagnostic, Diagnostic.toDict, onlyKeys_of_keys, h.diagnosticId, h.status, h.lines,
    enumValue_value (written_kind _), enumValue_value (written_severity _), h.message,
    nonEmptyTuple_textArray h.requirementIds]

theorem timestampOf_text {text : String} (h : LawfulTimestamp R text) :
    timestampOf R (.text text) field = .ok text := by
  obtain ⟨moment, hmoment, haware⟩ := h.aware
  simp [timestampOf, h.written, hmoment, haware]

theorem parseSource_toDict {source : SourceMetadata} (h : LawfulSource R source) :
    parseSource R source.toDict = .ok source := by
  simp only [parseSource, SourceMetadata.toDict, bind_eq_ok, pure_eq_ok, require_eq_ok, exists_unit]
  simp [onlyKeys_of_keys, h.filename, h.path, h.written, h.sha256.1, h.upper, h.sizeBytes,
    timestampOf_text h.modifiedAt, timestampOf_text h.importedAt]
  exact List.all_eq_true.mp h.sha256.2

theorem requirementRecordsFromList_toDict {items : List RequirementRecord}
    (h : LawfulRequirements R items) :
    requirementRecordsFromList R (.array (items.map RequirementRecord.toDict)) = .ok items := by
  have hitems : mapIndexed "requirements" (parseRequirement R)
      (items.map RequirementRecord.toDict) = .ok items :=
    mapIndexed_map fun item hmem _ => parseRequirement_toDict (h.each item hmem)
  simp [requirementRecordsFromList, hitems, h.nonempty, h.unique, h.criteriaUnique]

/-- A baseline that keeps the contract is read back from what is written of it. -/
theorem baselineFromDict_toDict {baseline : RequirementBaseline} (h : LawfulBaseline R baseline) :
    baselineFromDict R baseline.toDict = .ok baseline := by
  have hcriteria : mapIndexed "source_acceptance_criteria" parseCriterion
      (baseline.sourceAcceptanceCriteria.map AcceptanceCriterion.toDict) =
        .ok baseline.sourceAcceptanceCriteria :=
    mapIndexed_map fun criterion hmem _ => parseCriterion_toDict (h.sourceCriteria criterion hmem)
  have hdiagnostics : mapIndexed "diagnostics" parseDiagnostic
      (baseline.diagnostics.map Diagnostic.toDict) = .ok baseline.diagnostics :=
    mapIndexed_map fun diagnostic hmem _ => parseDiagnostic_toDict (h.diagnostics diagnostic hmem)
  have hlinked := h.sourceCriteriaLinked
  have hknown := h.diagnosticsKnown
  obtain ⟨baselineId, source, requirements, criteria, diagnostics, required, granted, version⟩ :=
    baseline
  obtain rfl : version = "1.0" := h.schemaVersion
  obtain rfl : granted = [] := h.approvalGranted
  obtain rfl : baselineId = "RB-" ++ String.ofList (source.sha256.toList.take 16) := h.named
  have hversion : Written "1.0" := by decide
  have hgranted : nonEmptyTuple (textArray []) "approval_state.granted" = .ok [] := rfl
  simp only [baselineFromDict, RequirementBaseline.toDict, bind_eq_ok, pure_eq_ok, require_eq_ok,
    exists_unit]
  simp [onlyKeys_of_keys, hversion, h.baselineId.1, h.baselineId.2, parseSource_toDict h.source,
    hcriteria, hdiagnostics, hgranted, requirementRecordsFromList_toDict h.requirements,
    h.sourceCriteriaUnique, h.diagnosticsUnique, nonEmptyTuple_textArray h.approvalRequired,
    h.approvalRequiredUnique]
  simp only [List.mem_map, exists_exists_and_eq_and] at hlinked hknown
  exact ⟨hlinked, hknown⟩

end Sdaqf
