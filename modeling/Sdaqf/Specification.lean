import Sdaqf.JsonFiles
import Sdaqf.SpecificationText

/-!
# Requirement normalization

The candidates of a specification become requirement records, acceptance criteria and diagnostics. A
record is dropped only with a diagnostic at its lines. Ingestion sorts what it finds and names the
baseline by the digest of the text.
-/

namespace Sdaqf

namespace Specification

open Guard
open Payload (isSpace Enumeration)

/-! ## Words -/

section Words

variable (S : Lexicon)

def isWordChar (c : Char) : Bool := S.isAlnum c || c = '_'

/-- The runs of word characters and of other characters, one after the other. -/
def runs (cs : List Char) : List (List Char) :=
  cs.splitBy fun a b => isWordChar S a == isWordChar S b

/-- A run is a word in lower case, its case ignored. -/
def isFolded (word : String) (run : List Char) : Bool :=
  let letters := word.toList
  letters.length = run.length && (letters.zip run).all fun pair => ignoresCase pair.1 pair.2

def hasWord (words : List String) (cs : List Char) : Bool :=
  (runs S cs).any fun run => words.any fun word => isFolded word run

/-- Every word of a list becomes a blank. -/
def blankWords (words : List String) (cs : List Char) : List Char :=
  (runs S cs).flatMap fun run => if words.any fun word => isFolded word run then [' '] else run

/-- What follows a word at the front, its case ignored. -/
def afterWord (words : List String) (cs : List Char) : Option (List Char) :=
  (words.find? fun word => isFolded word (cs.take word.toList.length)).map fun word =>
    cs.drop word.toList.length

/-! ## Kinds and keys -/

def negations : List String := ["not", "never", "no"]

def contradictionNoise : List String :=
  ["must", "shall", "should", "may", "do", "does", "the", "a", "an"]

def negative (statement : String) : Bool := hasWord S negations statement.toList

def statementKey (statement : String) : String :=
  String.ofList (strip (words (S.casefold statement).toList))

def contradictionKey (statement : String) : String :=
  let normalized := blankWords S negations (S.casefold statement).toList
  String.ofList (strip (words (blankWords S contradictionNoise normalized)))

def startsWith (mark text : String) : Bool := mark.toList.isPrefixOf text.toList

def requirementType (candidate : Candidate) : RequirementType :=
  let identifier := candidate.identifier.getD ""
  if startsWith "NFR-" identifier then .nonfunctional
  else if startsWith "NG-" identifier then .nonGoal
  else if startsWith "C-" identifier || startsWith "WKS-" identifier then .constraint
  else if startsWith "ASM-" identifier then .assumption
  else if startsWith "OD-" identifier then .openDecision
  else if labelled S ["non-functional", "nonfunctional"] candidate.label then .nonfunctional
  else if labelled S ["non-goal", "non goal"] candidate.label then .nonGoal
  else if labelled S ["constraint"] candidate.label then .constraint
  else if labelled S ["assumption"] candidate.label then .assumption
  else if labelled S ["open decision"] candidate.label then .openDecision
  else .functional

def priorityOf (statement : String) : RequirementPriority :=
  if hasWord S ["may", "could"] statement.toList then .could
  else if hasWord S ["should"] statement.toList then .should
  else .must

end Words

def verificationMethodsOf : RequirementType → List String
  | .functional => ["test"]
  | .nonfunctional => ["test", "benchmark"]
  | .constraint => ["static-analysis", "source-review"]
  | .nonGoal | .assumption | .openDecision => ["source-review"]

/-- The words of a text between its blanks. -/
def splitWords (cs : List Char) : List (List Char) :=
  (cs.splitOnP isSpace).filter (· ≠ [])

def isMarkup (c : Char) : Bool := "`*_~[]<>".toList.contains c

def titleOf (statement : String) : String :=
  let stripped := strip (statement.toList.filter fun c => !isMarkup c)
  let cleaned := (stripped.reverse.dropWhile (· = '.')).reverse
  let parts := splitWords cleaned
  let title :=
    if 12 < parts.length then joined " " (parts.take 12) ++ "...".toList else cleaned
  if title.take 100 = [] then "Untitled requirement" else String.ofList (title.take 100)

/-! ## Open decisions -/

/-- What the owner must decide, without a full stop at the end. -/
def ownerDecision (statement : List Char) : Option (List Char) :=
  if isFolded "the owner must decide" (statement.take 21) then
    (afterBlanks (statement.drop 21)).map fun decision =>
      match decision.reverse with
      | '.' :: first :: rest => (first :: rest).reverse
      | _ => decision
  else none

/-- Drop an "and" between blanks at the front of a fragment. -/
def dropAnd : List Char → List Char
  | 'a' :: 'n' :: 'd' :: c :: rest =>
    if isSpace c then rest.dropWhile isSpace else 'a' :: 'n' :: 'd' :: c :: rest
  | cs => cs

/-- The fragments between the commas that blanks follow, after a fragment that is begun and held in
reverse. Characters that belong to a comma are passed. -/
def splitFragments : Nat → List Char → List Char → List (List Char)
  | _, begun, [] => [begun.reverse]
  | passed + 1, begun, _ :: cs => splitFragments passed begun cs
  | 0, begun, c :: cs =>
    if c = ',' && (cs.head?.any isSpace) then
      begun.reverse :: splitFragments
        (cs.length - (dropAnd (cs.dropWhile isSpace)).length) [] cs
    else splitFragments 0 (c :: begun) cs

def fragmentsOf (decision : List Char) : List (List Char) :=
  ((splitFragments 0 [] decision).map strip).filter (· ≠ [])

section Normalization

variable (S : Lexicon)

/-- A list of open decisions becomes one candidate for each of them. -/
def expandOpenDecisionCandidate (candidate : Candidate) : List Candidate :=
  if candidate.identifier.isSome || !labelled S ["open decision"] candidate.label then [candidate]
  else
    match ownerDecision candidate.statement.toList with
    | none => [candidate]
    | some decision =>
      if decision.contains ',' = false then [candidate]
      else
        let fragments := fragmentsOf decision
        if fragments.length < 2 then [candidate]
        else fragments.map fun fragment =>
          { candidate with
            identifier := none
            statement := "Decide " ++ String.ofList fragment ++ "." }

/-! ## Diagnostics -/

def diagnostic (kind : DiagnosticKind) (severity : DiagnosticSeverity)
    (requirementIds : List String) (message : String) (lineStart lineEnd : Nat) : Diagnostic :=
  let sorted := requirementIds.insertionSort (· ≤ ·)
  let stable := "|".intercalate
    [Enumeration.value kind, ",".intercalate sorted, toString lineStart, toString lineEnd, message]
  { diagnosticId := "DIAG-" ++ S.digest 12 stable
    kind
    severity
    requirementIds := sorted
    message
    lineStart
    lineEnd
    status := "open" }

def ambiguityTerms : List String :=
  ["when practical", "where applicable", "if needed", "as appropriate", "normally", "few seconds"]

def unverifiableTerms : List String :=
  ["as soon as possible", "user-friendly", "high quality", "adequate", "sufficiently fast"]

def languageDiagnostics (record : RequirementRecord) (candidate : Candidate) : List Diagnostic :=
  let lowered := (S.casefold record.statement).toList
  let ids := [record.requirementId]
  let report kind severity message :=
    diagnostic S kind severity ids message candidate.lineStart candidate.lineEnd
  (if ambiguityTerms.any fun term => occurs term lowered then
    [report .ambiguity .warning
      "The statement contains a context-dependent term that requires interpretation."] else []) ++
  (if unverifiableTerms.any fun term => occurs term lowered then
    [report .unverifiable (if record.priority = .must then .blocker else .warning)
      "The statement contains an unmeasured quality term."] else []) ++
  (if ((runs S lowered).any fun run => ["if", "unless", "when"].any fun word =>
      word.toList = run) && record.assumptions.isEmpty then
    [report .missingAssumption .info
      "A source condition is present but its operating assumption is not explicit."] else [])

/-- What the search for contradictions has seen: the first record of each key, and the findings. -/
def contradictionDiagnosticsFrom (byKey : List (String × RequirementRecord)) :
    List RequirementRecord → List Diagnostic
  | [] => []
  | record :: records =>
    let key := contradictionKey S record.statement
    if key = "" then contradictionDiagnosticsFrom byKey records
    else
      match byKey.lookup key with
      | none => contradictionDiagnosticsFrom ((key, record) :: byKey) records
      | some prior =>
        if negative S prior.statement = negative S record.statement then
          contradictionDiagnosticsFrom byKey records
        else
          diagnostic S .contradiction .blocker [prior.requirementId, record.requirementId]
              "Two requirements have equivalent wording with conflicting polarity."
              (min prior.source.lineStart record.source.lineStart).toNat
              (max prior.source.lineEnd record.source.lineEnd).toNat ::
            contradictionDiagnosticsFrom byKey records

def contradictionDiagnostics (records : List RequirementRecord) : List Diagnostic :=
  contradictionDiagnosticsFrom S [] records

/-! ## Normalization -/

def isCriterion (candidate : Candidate) : Bool :=
  candidate.identifier.any (startsWith "AC-")

/-- The criterion of a candidate with the identifier of a criterion. -/
def criterionOf (candidate : Candidate) : AcceptanceCriterion where
  criterionId := candidate.identifier.getD ""
  statement := candidate.statement
  verificationMethods := ["source-review"]

/-- The criteria of the source that name a requirement, or one made for it. -/
def linkedCriteria (sourceCriteria : List AcceptanceCriterion) (identifier statement : String)
    (methods : List String) : List AcceptanceCriterion :=
  match sourceCriteria.filter fun criterion => linksTo identifier criterion.criterionId with
  | [] => [{
      criterionId := "AC-" ++ identifier ++ "-01"
      statement := "Evidence confirms the normalized requirement: " ++ statement
      verificationMethods := methods }]
  | linked => linked

/-- The record of a candidate. -/
def recordOf (document : String) (sourceCriteria : List AcceptanceCriterion)
    (candidate : Candidate) : RequirementRecord :=
  let requirementType := requirementType S candidate
  let identifier :=
    candidate.identifier.getD
      (generatedRequirementId S.toRuntime candidate.statement requirementType)
  let methods := verificationMethodsOf requirementType
  { requirementId := identifier
    title := titleOf candidate.statement
    requirementType
    priority := priorityOf S candidate.statement
    source := {
      document
      section_ := candidate.label
      lineStart := candidate.lineStart
      lineEnd := candidate.lineEnd
      excerpt := candidate.excerpt
      derivationBasis :=
        if candidate.identifier.isSome then "Preserved from the explicit source identifier."
        else "Generated from the normalized statement digest." }
    statement := candidate.statement
    acceptanceCriteria := linkedCriteria sourceCriteria identifier candidate.statement methods
    verificationMethods := methods
    assumptions := if requirementType = .assumption then [candidate.statement] else []
    openQuestions := if requirementType = .openDecision then [candidate.statement] else []
    traceLinks := ⟨[], [], [], [], []⟩
    identifierSource := if candidate.identifier.isSome then "explicit" else "generated"
    status := "baselined" }

/-- The variables of the loop over the requirement candidates. -/
structure Normalized where
  records : List RequirementRecord := []
  diagnostics : List Diagnostic := []
  seenIds : List (String × RequirementRecord) := []
  seenStatements : List (String × RequirementRecord) := []

/-- Take the record of one candidate. -/
def normalizeRecord (state : Normalized) (candidate : Candidate) (record : RequirementRecord) :
    Normalized :=
  let report kind severity ids message :=
    diagnostic S kind severity ids message candidate.lineStart candidate.lineEnd
  match state.seenIds.lookup record.requirementId with
  | some prior =>
    { state with
      diagnostics := state.diagnostics ++
        (report .duplicateIdentifier .blocker [record.requirementId]
          "The source repeats a stable identifier." ::
        if negative S prior.statement = negative S record.statement then []
        else [report .contradiction .blocker [record.requirementId]
          "The repeated identifier has conflicting normative polarity."]) }
  | none =>
    let key := statementKey S record.statement
    let prior := state.seenStatements.lookup key
    let repeated := prior.toList.map fun prior =>
      report .duplicateStatement .warning [prior.requirementId, record.requirementId]
        "Equivalent normalized requirement statements were found."
    if prior.isSome ∧ candidate.identifier = none then
      { state with diagnostics := state.diagnostics ++ repeated }
    else
      { records := state.records ++ [record]
        diagnostics := state.diagnostics ++ repeated ++ languageDiagnostics S record candidate
        seenIds := (record.requirementId, record) :: state.seenIds
        seenStatements := (key, record) :: state.seenStatements }

/-- Requirement records, source criteria and diagnostics of the candidates. -/
def normalizeCandidates (candidates : List Candidate) (document : String) :
    List RequirementRecord × List AcceptanceCriterion × List Diagnostic :=
  let candidates := candidates.flatMap (expandOpenDecisionCandidate S)
  let sourceCriteria := (candidates.filter isCriterion).map criterionOf
  let state := (candidates.filter fun candidate => !isCriterion candidate).foldl
    (fun state candidate =>
      normalizeRecord S state candidate (recordOf S document sourceCriteria candidate)) {}
  let diagnostics := state.diagnostics ++ contradictionDiagnostics S state.records
  (state.records.insertionSort fun a b => a.requirementId ≤ b.requirementId,
    sourceCriteria.insertionSort fun a b => a.criterionId ≤ b.criterionId,
    diagnostics.insertionSort fun a b => a.diagnosticId ≤ b.diagnosticId)

/-! ## Lines that are not recognized -/

/-- A statement that starts with a stable identifier. -/
def hasStableIdPrefix (statement : String) : Bool :=
  let dropTick : List Char → List Char
    | '\x60' :: rest => rest
    | cs => cs
  match dropTick statement.toList with
  | first :: rest =>
    isUpper first && !(rest.takeWhile isIdentifierChar).isEmpty &&
      ((dropTick (rest.dropWhile isIdentifierChar)).dropWhile isSpace).head? = some ':'
  | [] => false

/-- A stripped line that introduces its section. -/
def isExplanatory (stripped : Line) : Bool :=
  ((do
    let rest ← afterWord ["this", "the"] stripped
    guard (rest.head?.any isSpace)
    let rest ← afterWord ["section", "subsection", "paragraph", "note"] (rest.dropWhile isSpace)
    guard (rest.head?.any isSpace)
    afterWord ["contains", "describes", "documents", "explains", "introduces", "provides",
      "summarizes"] (rest.dropWhile isSpace)).map
    fun rest : Line => !(rest.head?.any (isWordChar S))).getD false

/-- A line that opens or closes a fence. -/
def isFenceMark (line : Line) : Bool :=
  "```".toList.isPrefixOf (strip line) || "~~~".toList.isPrefixOf (strip line)

def isIndented (line : Line) : Bool := "    ".toList.isPrefixOf line || "\t".toList.isPrefixOf line

def covers (candidates : List Candidate) (number : Nat) : Bool :=
  candidates.any fun candidate => candidate.lineStart ≤ number && number ≤ candidate.lineEnd

def unrecognizedAt (number : Nat) : Diagnostic :=
  diagnostic S .unverifiable .blocker []
    "A normative statement was not recognized as a requirement." number number

/-- The line is passed over without a diagnostic. -/
def isPassedOver (candidates : List Candidate) (inFence : Bool) (headings : Headings) (number : Nat)
    (line : Line) : Bool :=
  inFence || covers candidates number || (strip line).isEmpty ||
    !sectionMayContainRequirements S headings.label || isIndented line ||
    isExplanatory S (strip line)

/-- The scan over the lines from a number on. -/
def scanFrom (candidates : List Candidate) : Nat → Bool → Headings → List Line → List Diagnostic
  | _, _, _, [] => []
  | number, inFence, headings, line :: rest =>
    if isFenceMark line then scanFrom candidates (number + 1) (!inFence) headings rest
    else
      match heading line with
      | some (level, title) =>
        scanFrom candidates (number + 1) inFence (headings.opened level title) rest
      | none =>
        (if isPassedOver S candidates inFence headings number line then []
          else [unrecognizedAt S number]) ++
          scanFrom candidates (number + 1) inFence headings rest

def unrecognizedNormativeDiagnostics (text : List Char) (candidates : List Candidate) :
    List Diagnostic :=
  (candidates.filter fun candidate =>
      candidate.identifier.isNone && hasStableIdPrefix candidate.statement).map
    (fun candidate => diagnostic S .unverifiable .blocker []
      "A stable identifier was not recognized as an explicit requirement."
      candidate.lineStart candidate.lineEnd) ++
  scanFrom S candidates 1 false [] (splitLines text)

/-! ## Ingestion -/

/-- A Markdown file: its name, the path that is shown for it, its times and its text. -/
structure SpecificationFile where
  name : String
  displayPath : String
  modifiedAt : String
  importedAt : String
  text : List Char

/-- Normalize the text of a specification. -/
def ingest (maxBytes : Nat) (file : SpecificationFile) : Except String RequirementBaseline := do
  require (byteLength file.text ≤ maxBytes) "Specification exceeds the configured size limit."
  require ('\x00' ∉ file.text) "Specification must not contain NUL bytes."
  let digest := String.ofList ((S.hexdigest (String.ofList file.text)).toList.map Char.toUpper)
  let candidates := extractCandidates S file.text
  let (requirements, sourceCriteria, diagnostics) := normalizeCandidates S candidates file.name
  require (requirements ≠ []) "Specification contains no recognized requirement records."
  return {
    baselineId := "RB-" ++ String.ofList (digest.toList.take 16)
    source := {
      filename := file.name
      path := file.displayPath
      sha256 := digest
      sizeBytes := byteLength file.text
      modifiedAt := file.modifiedAt
      importedAt := file.importedAt }
    requirements
    sourceAcceptanceCriteria := sourceCriteria
    diagnostics := (diagnostics ++ unrecognizedNormativeDiagnostics S file.text candidates
      ).insertionSort fun a b => a.diagnosticId ≤ b.diagnosticId
    approvalRequired := []
    approvalGranted := []
    schemaVersion := "1.0" }

end Normalization

end Specification

end Sdaqf
