import Sdaqf.Checkpoints
import Sdaqf.EvidenceLedger
import Sdaqf.RepositoryDigest

/-!
# Approvals of tools

A tool is probed only after its policy has been checked: who must approve it, whether the approvals
that were handed over are intact, and which of them apply. The approvals that apply are claimed in a
store before the process starts, so that each of them starts one process.
-/

namespace Sdaqf.Tooling

open Guard
open JsonText (Value)
open Payload (Enumeration Members Written objectValue)
open Checkpoint (StoredFile get onlyKeys)

/-! ## Records -/

/-- Ordered orchestration risk. -/
inductive RiskLevel
  | low
  | medium
  | high
  | prohibited
deriving DecidableEq

instance : Enumeration RiskLevel where
  value
    | .low => "low"
    | .medium => "medium"
    | .high => "high"
    | .prohibited => "prohibited"
  all := [.low, .medium, .high, .prohibited]
  mem_all a := by cases a <;> decide
  value_injective a b h := by cases a <;> cases b <;> first | rfl | exact absurd h (by decide)

/-- Approval required by one operation. -/
inductive ApprovalRequirement
  | notRequired
  | mayBeRequired
  | required
  | prohibited
deriving DecidableEq

structure ToolDefinition where
  name : String
  versionCommand : List String
  platforms : List String
  normalScope : List String
  protectedPaths : List String
  networkRequired : Bool
  networkDestinations : List String
  isOptional : Bool
  risk : RiskLevel
  technicalApproval : ApprovalRequirement
  ownerApproval : ApprovalRequirement

/-- What the standard library finds in a network location. The port is missing where its text is no
number of a port. -/
structure SplitUrl where
  scheme : String
  netloc : String
  path : String
  query : String
  fragment : String
  hostname : Option String
  username : Option String
  password : Option String
  port : Option (Option Nat)

/-- What the tools take from the standard library beside the rest of the program. -/
structure ToolRuntime extends Runtime where
  urlsplit : String → Option SplitUrl
  loads : List Char → Option Value
  loads_printed : ∀ value, loads (printed value) = some value
  digest_hex : ∀ text, isDigest ((hexdigest text).toList.map Char.toUpper) = true

/-- Why a check stopped: with an error of the contract, or with an error that nothing expects. -/
inductive Failure
  | contract (message : String)
  | uncaught
deriving DecidableEq

variable (R : ToolRuntime)

/-- Require a bounded text of one line. -/
def isText (text : String) : Bool :=
  Written text && text.toList.length ≤ 500 &&
    text.toList.all fun c => c ≠ '\x00' && c ≠ '\r' && c ≠ '\n'

/-- A point in time and its text, which names that point. -/
structure Datetime where
  moment : Moment
  isoformat : String
  reads : R.fromisoformat isoformat = some moment
  line : isText isoformat = true

/-- Strict-loader-issued approval for one exact tool operation. -/
structure ExecutionApproval where
  schemaVersion : String
  approvalId : String
  approvalType : String
  action : String
  toolName : String
  command : List String
  networkDestinations : List String
  normalScope : List String
  protectedPaths : List String
  risk : RiskLevel
  status : String
  rationale : String
  reversible : Bool
  approvedBy : String
  approvedAt : Datetime R
  expiresAt : Datetime R
  lifetime : String
  maxExecutions : Int

/-! ## Texts, commands and paths -/

def isApprovalId : String → Bool :=
  marked "APR-" (isRun Evidence.isUpperDigit Evidence.isUpperWord 2 63)

def approvalAction : String := "Execute one registered tool version probe"

def approvalLifetime : String := "single_execution"

def approvalAuthorities : String → Option String
  | "owner" => some "Owner"
  | "technical_sandbox" => some "Technical sandbox reviewer"
  | _ => none

def shells : List String :=
  ["bash", "cmd", "cmd.exe", "command.com", "dash", "fish", "powershell", "powershell.exe", "pwsh",
    "pwsh.exe", "sh", "zsh"]

def destructiveExecutables : List String := ["del", "erase", "format", "mkfs", "rm", "rmdir"]

def prohibitedArguments : List String :=
  ["--break-system-packages", "--global", "--unsafe-perm", "--user", "--yolo", "-g", "install"]

def windowsReserved : List String :=
  ["aux", "com1", "com2", "com3", "com4", "com5", "com6", "com7", "com8", "com9", "con", "lpt1",
    "lpt2", "lpt3", "lpt4", "lpt5", "lpt6", "lpt7", "lpt8", "lpt9", "nul", "prn"]

def isExecutableName (executable : String) : Bool :=
  isRun (fun c => isLower c || isDigit c)
    (fun c => isLower c || isDigit c || ['_', '.', '+', '-'].contains c) 0 63 executable.toList

def validateCommand : List String → Except Failure Unit
  | [] => .error .uncaught
  | command :: arguments => do
    let executable := R.casefold command
    require ('/' ∉ executable.toList ∧ '\\' ∉ executable.toList ∧ ':' ∉ executable.toList ∧
        executable ∉ shells ∧ executable ∉ destructiveExecutables ∧
        ¬".bat".toList <:+ executable.toList ∧ ¬".cmd".toList <:+ executable.toList ∧
        isExecutableName executable)
      (.contract "version_command executable is unsafe.")
    forEach (fun argument => do
      require (argument.toList.length ≤ 256 ∧
          (argument.toList.all fun c => c ≠ '\x00' && c ≠ '\r' && c ≠ '\n') ∧
          R.casefold argument ∉ prohibitedArguments)
        (.contract "version_command contains an unsafe argument.")
      require (R.casefold argument ≠ "-c" ∧ R.casefold argument ≠ "/c")
        (.contract "version_command cannot execute inline code.")
      match R.urlsplit argument with
      | none => .error .uncaught
      | some parsed =>
        require (parsed.scheme = "" ∧ parsed.netloc = "")
          (.contract "version_command cannot contain a network destination.")) arguments

def networkDestination (place value : String) : Except Failure String :=
  match R.urlsplit value with
  | none => .error .uncaught
  | some parsed =>
    match parsed.port, parsed.hostname with
    | none, _ => .error (.contract (place ++ " must contain canonical HTTPS origins."))
    | some _, none => .error (.contract (place ++ " must contain canonical HTTPS origins."))
    | some port, some hostname => do
      require (parsed.scheme = "https" ∧ hostname ≠ "" ∧ parsed.username = none ∧
          parsed.password = none ∧ (parsed.path = "" ∨ parsed.path = "/") ∧ parsed.query = "" ∧
          parsed.fragment = "" ∧ (port = none ∨ port = some 443))
        (.contract (place ++ " must contain canonical HTTPS origins."))
      return "https://" ++ R.casefold hostname

/-- The part of a name in front of its first dot. -/
def stem (name : String) : String := String.ofList (name.toList.takeWhile (· ≠ '.'))

def safeRelativePath (place value : String) : Except Failure String := do
  require (value.toList.length ≤ 240 ∧ '\\' ∉ value.toList ∧ ':' ∉ value.toList ∧
      value.toList.head? ≠ some '/' ∧ value.toList.head? ≠ some '~')
    (.contract (place ++ " must be a safe relative path."))
  let parts := posixParts value
  require (parts ≠ [] ∧ ∀ part ∈ parts, part ≠ "" ∧ part ≠ "." ∧ part ≠ ".." ∧
      part.toList.getLast? ≠ some ' ' ∧ part.toList.getLast? ≠ some '.' ∧
      stem (R.casefold part) ∉ windowsReserved)
    (.contract (place ++ " must be a safe relative path."))
  return "/".intercalate parts

def pathsOverlap (first second : String) : Bool :=
  let firstParts := posixParts (R.casefold first)
  let secondParts := posixParts (R.casefold second)
  let common := min firstParts.length secondParts.length
  firstParts.take common = secondParts.take common

/-! ## Policy -/

variable {R}

def approvalMatchesTool (approval : ExecutionApproval R) (tool : ToolDefinition) : Bool :=
  approval.status = "approved" ∧ approval.action = approvalAction ∧
    approval.toolName = tool.name ∧ approval.command = tool.versionCommand ∧
    approval.networkDestinations = tool.networkDestinations ∧
    approval.normalScope = tool.normalScope ∧ approval.protectedPaths = tool.protectedPaths ∧
    approval.risk = tool.risk

/-- The scope of an approval as its loader would normalize it. -/
def normalizedScope (approval : ExecutionApproval R) :
    Except Failure (List String × List String × List String) := do
  require (isSlug approval.toolName ∧ isText approval.rationale)
    (.contract "Execution approval scope or rationale is invalid.")
  validateCommand R approval.command
  let normalScope ← approval.normalScope.mapM (safeRelativePath R "normal_scope")
  let protectedPaths ← approval.protectedPaths.mapM (safeRelativePath R "protected_paths")
  let destinations ←
    approval.networkDestinations.mapM (networkDestination R "network_destinations")
  return (normalScope, protectedPaths, destinations)

/-- Whether an approval was issued by its authority, once, for a version probe, and still lasts. -/
def ProvenanceValid (approval : ExecutionApproval R) (now : Moment) : Prop :=
  approval.schemaVersion = "1.0" ∧ isApprovalId approval.approvalId ∧
    approvalAuthorities approval.approvalType = some approval.approvedBy ∧
    approval.action = approvalAction ∧ approval.status = "approved" ∧ approval.reversible = true ∧
    approval.lifetime = approvalLifetime ∧ approval.maxExecutions = 1 ∧
    approval.risk ≠ .prohibited ∧ approval.approvedAt.moment.aware ∧
    approval.expiresAt.moment.aware ∧ approval.approvedAt.moment.instant ≤ now.instant ∧
    approval.approvedAt.moment.instant < approval.expiresAt.moment.instant ∧
    now.instant < approval.expiresAt.moment.instant

instance (approval : ExecutionApproval R) (now : Moment) :
    Decidable (ProvenanceValid approval now) := by
  unfold ProvenanceValid
  infer_instance

def approvalIntegrityError (approval : ExecutionApproval R) (now : Moment) :
    Except Failure (Option String) :=
  if ¬ProvenanceValid approval now then
    .ok (some "Execution approval provenance, lifetime, or validity is invalid.")
  else
    match normalizedScope approval with
    | .error .uncaught => .error .uncaught
    | .error (.contract _) => .ok (some "Execution approval scope or rationale is invalid.")
    | .ok (normalScope, protectedPaths, destinations) =>
      if normalScope ≠ approval.normalScope ∨ protectedPaths ≠ approval.protectedPaths ∨
          destinations ≠ approval.networkDestinations ∨ ¬destinations.Nodup ∨
          ∃ path ∈ normalScope, ∃ other ∈ protectedPaths, pathsOverlap R path other then
        .ok (some "Execution approval scope or rationale is invalid.")
      else .ok none

/-- The first error of an approval. -/
def firstIntegrityError (now : Moment) :
    List (ExecutionApproval R) → Except Failure (Option String)
  | [] => .ok none
  | approval :: approvals =>
    match approvalIntegrityError approval now with
    | .ok none => firstIntegrityError now approvals
    | other => other

/-- The approvals of each type that a tool may require. -/
def requirements (tool : ToolDefinition) : List (String × ApprovalRequirement) :=
  [("owner", tool.ownerApproval), ("technical_sandbox", tool.technicalApproval)]

section Check

variable (tool : ToolDefinition) (approvals : List (ExecutionApproval R)) (additional : List String)

/-- The approvals of a type that match a tool. -/
def matching (approvalType : String) : List (ExecutionApproval R) :=
  approvals.filter fun approval =>
    approval.approvalType = approvalType ∧ approvalMatchesTool approval tool

def requirementError (consumed : List String) (required : String × ApprovalRequirement) :
    Option String :=
  if required.2 ≠ .required ∧ required.1 ∉ additional then none
  else
    match matching tool approvals required.1 with
    | [approval] =>
      if approval.approvalId ∈ consumed then
        some ("Execution approval " ++ approval.approvalId ++ " is already consumed.")
      else none
    | _ => some ("Exact " ++ required.1 ++ " approval is required.")

def approvalError (now : Moment) (consumed : List String) : Except Failure (Option String) :=
  if now.aware = false then .ok (some "Tool approval clock must be timezone-aware.")
  else if ¬∀ item ∈ additional, item = "technical_sandbox" then
    .ok (some "An unsupported additional approval requirement was supplied.")
  else if ¬(approvals.map (·.approvalId)).Nodup then
    .ok (some "Execution approval identifiers must be unique.")
  else
    match firstIntegrityError now approvals with
    | .error failure => .error failure
    | .ok (some error) => .ok (some error)
    | .ok none =>
      if tool.ownerApproval = .prohibited then .ok (some "Owner policy prohibits this tool.")
      else if "technical_sandbox" ∈ additional ∧ tool.technicalApproval ≠ .mayBeRequired ∧
          tool.technicalApproval ≠ .required then
        .ok (some "Tool policy does not permit a technical sandbox retry.")
      else if tool.networkRequired ∧ tool.ownerApproval ≠ .required then
        .ok (some "Network tools require an explicit Owner approval contract.")
      else .ok ((requirements tool).findSome? (requirementError tool approvals additional consumed))

/-- The types of the approvals that a call must have. -/
def requiredTypes : List String :=
  ((requirements tool).filter (·.2 = .required)).map Prod.fst ++ additional

def appliedApprovalIds : List String :=
  ((approvals.filter fun approval => approval.approvalType ∈ requiredTypes tool additional ∧
    approvalMatchesTool approval tool).map (·.approvalId)).insertionSort (· ≤ ·)

/-- The approvals that a call claims. -/
def appliedApprovals : List (ExecutionApproval R) :=
  approvals.filter fun approval =>
    approval.approvalId ∈ appliedApprovalIds tool approvals additional

end Check

/-! ## A check up to the start of its process -/

variable (R) in
/-- A call of `check` with what it observes: the platform, the clock, the executable that the locator
finds and whether the service has a store. -/
structure CheckCall where
  tool : ToolDefinition
  approvals : List (ExecutionApproval R)
  consumed : List String
  additional : List String
  platform : String
  now : Datetime R
  located : Option String
  hasStore : Bool

/-- What a check has reached before its process: an observation that starts no process, or the
approvals to claim, none where the process needs no approval. -/
inductive Admission (R : ToolRuntime)
  | observed (observation : ToolObservation)
  | admitted (applied : List (ExecutionApproval R))

/-- An observation of a tool whose process did not start. -/
def observation (tool : ToolDefinition) (status : ToolObservationStatus) (failure : FailureClass)
    (detail executionMode : String) : ToolObservation where
  toolName := tool.name
  status
  failureClass := failure
  detail
  version := none
  exitCode := none
  stdout := ""
  stderr := ""
  stdoutTruncated := false
  stderrTruncated := false
  durationMs := none
  executionMode
  approvalIds := []

def denied (tool : ToolDefinition) (detail : String) : ToolObservation :=
  observation tool .blocked .authorizationFailure detail "denied"

def CheckCall.admission (c : CheckCall R) : Except Failure (Admission R) :=
  if c.platform ∉ c.tool.platforms then
    .ok (.observed (observation c.tool (if c.tool.isOptional then .notChecked else .blocked)
      .validationFailure "Tool does not support the current platform." "not_executed"))
  else
    match approvalError c.tool c.approvals c.additional c.now.moment c.consumed with
    | .error failure => .error failure
    | .ok (some error) => .ok (.observed (denied c.tool error))
    | .ok none =>
      if c.tool.risk = .prohibited then
        .ok (.observed (denied c.tool "Prohibited tools cannot be executed."))
      else if c.located = none then
        .ok (.observed (observation c.tool .unavailable .toolUnavailable
          "Executable was not found." "not_executed"))
      else if appliedApprovalIds c.tool c.approvals c.additional = [] then .ok (.admitted [])
      else if c.hasStore = false then
        .ok (.observed
          (denied c.tool "A persistent approval consumption store is required."))
      else .ok (.admitted (appliedApprovals c.tool c.approvals c.additional))

/-! ## The store of claimed approvals -/

/-- An identifier, the digest of its approval and the time of the claim. -/
structure ConsumptionRecord where
  approvalId : String
  scopeDigest : String
  claimedAt : String
deriving DecidableEq

/-- Records are ordered as tuples of texts. -/
def ConsumptionRecord.key (r : ConsumptionRecord) : String ×ₗ String ×ₗ String :=
  toLex (r.approvalId, toLex (r.scopeDigest, r.claimedAt))

def ConsumptionRecord.toDict (r : ConsumptionRecord) : Value := .object [
  ("approval_id", .text r.approvalId),
  ("claimed_at", .text r.claimedAt),
  ("scope_digest", .text r.scopeDigest)]

def storeDict (records : List ConsumptionRecord) : Value := .object [
  ("consumed", .array (records.map ConsumptionRecord.toDict)),
  ("schema_version", .text "1.0")]

def maxConsumptionBytes : Nat := 1000000

def maxConsumptionRecords : Nat := 4096

/-- A text of the store, under the name of its place. -/
def string (value : Value) (place : String) : Except Failure String :=
  match value with
  | .text s =>
    if isText s then .ok s
    else .error (.contract (place ++ " must be a bounded non-empty single-line string."))
  | _ => .error (.contract (place ++ " must be a bounded non-empty single-line string."))

variable (R) in
def timestamp (value : Value) (place : String) : Except Failure Moment := do
  let text ← string value place
  match R.fromisoformat text with
  | none => .error (.contract (place ++ " must be an ISO 8601 timestamp."))
  | some parsed =>
    require parsed.aware (.contract (place ++ " must include a timezone."))
    return parsed

/-- An error of the contract. -/
def asContract {α : Type} : Except String α → Except Failure α
  | .ok a => .ok a
  | .error message => .error (.contract message)

variable (R) in
def parseConsumptionRecord (now : Moment) (item : Value × Nat) :
    Except Failure ConsumptionRecord := do
  let place := "consumed[" ++ toString item.2 ++ "]"
  let record ← asContract (objectValue item.1 place)
  asContract (onlyKeys record ["approval_id", "scope_digest", "claimed_at"] place)
  let approvalId ← string (get record "approval_id") (place ++ ".approval_id")
  let scopeDigest ← string (get record "scope_digest") (place ++ ".scope_digest")
  let claimedAt ← string (get record "claimed_at") (place ++ ".claimed_at")
  require (isApprovalId approvalId ∧ isDigest scopeDigest.toList)
    (.contract "Approval consumption record identifiers are invalid.")
  let time ← timestamp R (.text claimedAt) (place ++ ".claimed_at")
  require (time.instant ≤ now.instant)
    (.contract "Approval consumption time cannot be in the future.")
  return { approvalId, scopeDigest, claimedAt }

variable (R) in
def parseConsumptionStore (decoded : Value) (now : Moment) :
    Except Failure (List ConsumptionRecord) := do
  let root ← asContract (objectValue decoded "Approval consumption store")
  asContract (onlyKeys root ["schema_version", "consumed"] "Approval consumption store")
  let schemaVersion ← string (get root "schema_version") "schema_version"
  require (schemaVersion = "1.0")
    (.contract "Approval consumption schema_version must be 1.0.")
  match get root "consumed" with
  | .array items =>
    require (items.length ≤ maxConsumptionRecords)
      (.contract "Approval consumption store exceeds the record limit.")
    let records ← items.zipIdx.mapM (parseConsumptionRecord R now)
    require (records.map (·.approvalId)).Nodup
      (.contract "Approval consumption identifiers must be unique.")
    require (records.Pairwise fun a b => a.key ≤ b.key)
      (.contract "Approval consumption records must be deterministically ordered.")
    return records
  | _ => .error (.contract "Approval consumption records must be an array.")

variable (R) in
/-- The records of a store that may be missing. -/
def loadConsumptionRecords (file : Option StoredFile) (now : Moment) :
    Except Failure (List ConsumptionRecord) :=
  match file with
  | none => .ok []
  | some .irregular =>
    .error (.contract "Approval consumption store must be a regular, unlinked file.")
  | some .unreadable => .error (.contract "Approval consumption store could not be read.")
  | some (.undecodable size) => do
    require (size ≤ maxConsumptionBytes)
      (.contract "Approval consumption store exceeds the size limit.")
    .error (.contract "Approval consumption store could not be read.")
  | some (.content size text) => do
    require (size ≤ maxConsumptionBytes)
      (.contract "Approval consumption store exceeds the size limit.")
    require ('\x00' ∉ text) (.contract "Approval consumption store contains NUL.")
    match R.loads text with
    | none => .error (.contract "Approval consumption store is not valid JSON.")
    | some decoded => parseConsumptionStore R decoded now

/-- What the digest of an approval is taken over. -/
def ExecutionApproval.scopePayload (approval : ExecutionApproval R) : Value := .object [
  ("action", .text approval.action),
  ("approval_id", .text approval.approvalId),
  ("approval_type", .text approval.approvalType),
  ("approved_at", .text approval.approvedAt.isoformat),
  ("approved_by", .text approval.approvedBy),
  ("command", Payload.textArray approval.command),
  ("expires_at", .text approval.expiresAt.isoformat),
  ("lifetime", .text approval.lifetime),
  ("max_executions", .number approval.maxExecutions),
  ("network_destinations", Payload.textArray approval.networkDestinations),
  ("normal_scope", Payload.textArray approval.normalScope),
  ("protected_paths", Payload.textArray approval.protectedPaths),
  ("rationale", .text approval.rationale),
  ("reversible", .boolean approval.reversible),
  ("risk", .text (Enumeration.value approval.risk)),
  ("schema_version", .text approval.schemaVersion),
  ("status", .text approval.status),
  ("tool_name", .text approval.toolName)]

def approvalScopeDigest (approval : ExecutionApproval R) : String :=
  String.ofList ((R.hexdigest (String.ofList
    (JsonText.dumps JsonText.compact 0 approval.scopePayload))).toList.map Char.toUpper)

/-- The record of a claim. -/
def claimRecord (claimedAt : Datetime R) (approval : ExecutionApproval R) : ConsumptionRecord where
  approvalId := approval.approvalId
  scopeDigest := approvalScopeDigest approval
  claimedAt := claimedAt.isoformat

/-- What a claim publishes after it has read the store. -/
def claim (applied : List (ExecutionApproval R)) (claimedAt : Datetime R)
    (file : Option StoredFile) : Except Failure (Option StoredFile) := do
  let existing ← loadConsumptionRecords R file claimedAt.moment
  let reused := ((existing.map (·.approvalId)).filter fun id =>
    id ∈ applied.map (·.approvalId)).insertionSort (· ≤ ·)
  match reused.head? with
  | some id => .error (.contract ("Execution approval " ++ id ++ " is already consumed."))
  | none =>
    let records := (existing ++ applied.map (claimRecord claimedAt)).insertionSort
      fun a b => a.key ≤ b.key
    require (records.length ≤ maxConsumptionRecords)
      (.contract "Approval consumption store exceeds the record limit.")
    let encoded := printed (storeDict records)
    require (byteLength encoded ≤ maxConsumptionBytes)
      (.contract "Approval consumption store exceeds the size limit.")
    return some (.content (byteLength encoded) encoded)

/-- What a check computes from the store under its lock. A check without approvals to claim takes no
lock, and neither does one that has stopped before. -/
def CheckCall.claim (c : CheckCall R) (file : Option StoredFile) :
    Except Failure (Option StoredFile) :=
  match c.admission with
  | .error failure => .error failure
  | .ok (.observed _) => .error .uncaught
  | .ok (.admitted applied) =>
    if applied = [] then .error .uncaught else Tooling.claim applied c.now file

/-- The approvals that a check claims, none where it has stopped before. -/
def CheckCall.applied (c : CheckCall R) : List (ExecutionApproval R) :=
  match c.admission with
  | .ok (.admitted applied) => applied
  | _ => []

/-- The records of the claim of a check. -/
def CheckCall.records (c : CheckCall R) : List ConsumptionRecord :=
  c.applied.map (claimRecord c.now)

end Sdaqf.Tooling
