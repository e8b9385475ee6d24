import Sdaqf.Domain
import Sdaqf.Guard

/-!
# Text contracts

The checks every artifact contract is made of: bounded texts without secrets, identifiers of one
pattern, paths, and bounded arrays whose items are checked under their own field. A search for a
pattern looks at every tail of the text.
-/

namespace Sdaqf

open Guard

/-! ## Patterns -/

def isUpper (c : Char) : Bool := 'A' ≤ c && c ≤ 'Z'

def isLower (c : Char) : Bool := 'a' ≤ c && c ≤ 'z'

def isDigit (c : Char) : Bool := '0' ≤ c && c ≤ '9'

def isUpperHex (c : Char) : Bool := isDigit c || ('A' ≤ c && c ≤ 'F')

def isLowerHex (c : Char) : Bool := isDigit c || ('a' ≤ c && c ≤ 'f')

/-- A word of at most 64 characters, with its own rule for the first. -/
def isWord (first rest : Char → Bool) : List Char → Bool
  | [] => false
  | c :: cs => first c && cs.all rest && cs.length ≤ 63

/-- A first character and between `least` and `most` more, each with its own rule. -/
def isRun (first rest : Char → Bool) (least most : Nat) : List Char → Bool
  | [] => false
  | c :: cs => first c && cs.all rest && least ≤ cs.length && cs.length ≤ most

/-- A text that starts with a mark and goes on as a pattern says. -/
def marked (mark : String) (pattern : List Char → Bool) (text : String) : Bool :=
  mark.toList.isPrefixOf text.toList && pattern (text.toList.drop mark.toList.length)

/-- The digits of a SHA-256 digest. -/
def isDigest (cs : List Char) : Bool := cs.length = 64 && cs.all isUpperHex

def isSlug (text : String) : Bool :=
  isWord isLower (fun c => isLower c || isDigit c || c = '-') text.toList

def isSymbol (text : String) : Bool :=
  isWord isUpper (fun c => isUpper c || isDigit c || c = '_' || c = '-') text.toList

/-- A task or host identifier after its mark. -/
def isLocalName : List Char → Bool :=
  isWord (fun c => isUpper c || isDigit c) fun c => isUpper c || isDigit c || c = '-'

def isCommit (text : String) : Bool :=
  text.toList.length = 40 && text.toList.all isLowerHex

/-- Three groups of digits with a dot between them. -/
def isVersion (text : String) : Bool :=
  match text.toList.splitOn '.' with
  | [a, b, c] => [a, b, c].all fun digits => !digits.isEmpty && digits.all isDigit
  | _ => false

def isLicense (text : String) : Bool :=
  isWord (fun c => isUpper c || isLower c || isDigit c)
    (fun c => isUpper c || isLower c || isDigit c || c = '.' || c = '+' || c = '-') text.toList

/-! ## Texts -/

/-- A text that begins like an access key, a token or a private key. -/
def startsSecret (cs : List Char) : Bool :=
  ("AKIA".toList.isPrefixOf cs &&
    16 ≤ ((cs.drop 4).takeWhile fun c => isUpper c || isDigit c).length) ||
  (match cs with
    | 'g' :: 'h' :: kind :: '_' :: rest => "pousr".toList.contains kind &&
        20 ≤ (rest.takeWhile fun c => isUpper c || isLower c || isDigit c).length
    | _ => false) ||
  ["", "RSA ", "EC ", "OPENSSH "].any fun kind =>
    ("-----BEGIN " ++ kind ++ "PRIVATE KEY-----").toList.isPrefixOf cs

/-- Require bounded, non-empty, single-line, secret-free text. -/
def stringValue (field : String) (maximum : Nat) (text : String) : Except String Unit := do
  require (text.toList.all Char.isWhitespace = false) (field ++ " must be a non-empty string.")
  require (text.toList.length ≤ maximum) (field ++ " exceeds the text limit.")
  require (text.toList.all fun c => c ≠ '\x00' && c ≠ '\r' && c ≠ '\n')
    (field ++ " must be one line.")
  require (text.toList.tails.any startsSecret = false)
    (field ++ " contains secret-shaped content.")

/-- Require a text of one pattern. -/
def patternText (field : String) (maximum : Nat) (pattern : String → Bool) (message text : String) :
    Except String Unit := do
  stringValue field maximum text
  require (pattern text) (field ++ message)

def slugText (field text : String) : Except String Unit :=
  patternText field 64 isSlug " must be a lowercase slug." text

def symbolText (field text : String) : Except String Unit :=
  patternText field 64 isSymbol " must be a stable symbol." text

def sha256Text (field text : String) : Except String Unit :=
  patternText field 64 (fun text => isDigest text.toList) " must be an uppercase SHA-256 digest."
    text

def commitText (field text : String) : Except String Unit :=
  patternText field 40 isCommit " must be a lowercase full commit identifier." text

def patternId (field mark : String) (pattern : List Char → Bool) (text : String) :
    Except String Unit :=
  patternText field 128 (marked mark pattern) " has an invalid identifier." text

def solverId (field mark text : String) : Except String Unit :=
  patternText field (mark.toList.length + 64) (marked mark isDigest)
    " has an invalid solver identifier." text

/-! ## Paths -/

/-- The characters a letter of a case-insensitive class stands for. -/
def isFoldedLetter (c : Char) : Bool :=
  isUpper c || isLower c || "İıſK".toList.contains c

/-- A character that matches a lowercase letter when case is ignored. -/
def ignoresCase (letter c : Char) : Bool :=
  c.toLower = letter || (letter = 's' && c = 'ſ') || (letter = 'i' && (c = 'ı' || c = 'İ'))

/-- The top directories whose paths are personal or belong to the machine. -/
def topDirectories : List (List Char) :=
  ["etc", "home", "opt", "private", "root", "tmp", "usr", "var", "users"].map String.toList

/-- A text that begins with a drive, or with a top directory of the machine. -/
def startsAbsolute : List Char → Bool
  | '/' :: rest => topDirectories.any fun name =>
      name.length ≤ rest.length && (name.zip rest).all (fun pair => ignoresCase pair.1 pair.2) &&
        ((rest.drop name.length).head?.all fun c => c = '/')
  | c :: ':' :: slash :: _ => isFoldedLetter c && (slash = '/' || slash = '\\')
  | _ => false

/-- The characters that turn the direction of a text or control a terminal. -/
def isControl (c : Char) : Bool :=
  c.toNat ≤ 0x1f || c.toNat = 0x7f || (0x202a ≤ c.toNat && c.toNat ≤ 0x202e) ||
    (0x2066 ≤ c.toNat && c.toNat ≤ 0x2069)

/-- Require bounded text without an absolute path. -/
def pathFreeText (field : String) (maximum : Nat) (text : String) : Except String Unit := do
  stringValue field maximum text
  -- A personal path begins with a drive or a top directory, so it is an absolute one.
  require (text.toList.tails.any startsAbsolute = false) (field ++ " contains an absolute path.")
  require (text.toList.all fun c => !isControl c) (field ++ " contains unsupported control text.")

def isPathCharacter (c : Char) : Bool :=
  isUpper c || isLower c || isDigit c || c = '.' || c = '_' || c = '/' || c = '-'

/-- The device names that no part of a portable path may start with, up to its first dot. -/
def reservedWindowsNames : List (List Char) :=
  (["AUX", "CLOCK$", "CON", "NUL", "PRN"] ++
    (["COM", "LPT"].flatMap fun name => ["1", "2", "3", "4", "5", "6", "7", "8", "9"].map
      fun digit => name ++ digit)).map String.toList

/-- A part of a path that every supported system can name. -/
def isPortablePart (part : List Char) : Bool :=
  part.getLast? ≠ some '.' &&
    !reservedWindowsNames.contains ((part.takeWhile (· ≠ '.')).map Char.toUpper)

/-- Require a normalized repository-relative POSIX path. -/
def safeRelativePath (field text : String) : Except String Unit := do
  stringValue field 240 text
  require (text.toList.all isPathCharacter ∧ text.toList.head? ≠ some '/')
    (field ++ " must be a relative POSIX path.")
  require (∀ part ∈ text.toList.splitOn '/', part ≠ [] ∧ part ≠ ['.'] ∧ part ≠ ['.', '.'])
    (field ++ " must be a normalized relative path.")
  require (∀ part ∈ text.toList.splitOn '/', isPortablePart part)
    (field ++ " is not portable on Windows.")

/-! ## Numbers and arrays -/

/-- Require an integer inside a closed range. -/
def integerValue (field : String) (minimum maximum value : Int) : Except String Unit :=
  require (minimum ≤ value ∧ value ≤ maximum) (field ++ " is outside the supported range.")

theorem integerValue_eq_ok {field : String} {minimum maximum value : Int} {u : Unit} :
    integerValue field minimum maximum value = .ok u ↔ minimum ≤ value ∧ value ≤ maximum := by
  rw [integerValue, require_eq_ok]

/-- Require a bounded array. -/
def arrayValue {α : Type} (field : String) (maximum : Nat) (items : List α) : Except String Unit :=
  require (items.length ≤ maximum) (field ++ " exceeds the item limit.")

/-- A field of an array. -/
def indexed (field : String) (i : Nat) : String := field ++ "[" ++ toString i ++ "]"

/-- Check every item of an array under its own field. -/
def forEachIndexed {α : Type} (field : String) (check : String → α → Except String Unit)
    (items : List α) : Except String Unit :=
  forEach (fun item : α × Nat => check (indexed field item.2) item.1) items.zipIdx

/-- Require a bounded unique string array. -/
def stringTuple (field : String) (minimum maximum : Nat) (items : List String) :
    Except String Unit := do
  arrayValue field maximum items
  forEachIndexed field (fun field item => stringValue field 500 item) items
  require (minimum ≤ items.length) (field ++ " has too few items.")
  require items.Nodup (field ++ " must contain unique items.")

/-! ## References and candidates -/

/-- The contract of one repository-relative artifact reference. -/
def referenceContract (field : String) (reference : ArtifactReference) : Except String Unit := do
  safeRelativePath (field ++ ".path") reference.path
  sha256Text (field ++ ".sha256") reference.sha256

/-- The contract of an exact source, Git and repository identity. -/
def candidateIdentity (field : String) (candidate : CandidateIdentity) : Except String Unit := do
  commitText (field ++ ".git_head") candidate.gitHead
  sha256Text (field ++ ".source_spec_sha256") candidate.sourceSpecSha256
  sha256Text (field ++ ".repository_digest") candidate.repositoryDigest

end Sdaqf
