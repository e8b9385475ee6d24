import Sdaqf.Baselines
import Mathlib.Data.List.SplitBy

/-!
# Specification texts

The lines of a Markdown specification and the candidates that are read from them. A heading opens a
section, an item with a stable identifier is a candidate everywhere, and a section decides whether
items without one and plain paragraphs are candidates as well. A second pass over the lines, with
headings and fences of its own, looks for normative lines that no candidate covers.
-/

namespace Sdaqf

open Payload (isSpace)

/-- What ingestion takes from the standard library: the decimal digits and the alphanumeric
characters of Unicode. -/
structure Lexicon extends Runtime where
  isDecimal : Char → Bool
  isAlnum : Char → Bool

namespace Specification

abbrev Line := List Char

/-! ## Lines -/

/-- The characters at which `splitlines` ends a line. -/
def isLineEnd (c : Char) : Bool :=
  [0x0a, 0x0b, 0x0c, 0x0d, 0x1c, 0x1d, 0x1e, 0x85, 0x2028, 0x2029].contains c.toNat

/-- The lines of a text, after a line that is begun and held in reverse. -/
def splitFrom (begun : Line) : List Char → List Line
  | [] => if begun = [] then [] else [begun.reverse]
  | '\r' :: '\n' :: cs => begun.reverse :: splitFrom [] cs
  | c :: cs => if isLineEnd c then begun.reverse :: splitFrom [] cs else splitFrom (c :: begun) cs

def splitLines (text : List Char) : List Line := splitFrom [] text

def strip (cs : Line) : Line := ((cs.dropWhile isSpace).reverse.dropWhile isSpace).reverse

/-- Runs of blanks become one blank. -/
def collapse : Line → Line
  | [] => []
  | c :: cs =>
    if isSpace c then
      match collapse cs with
      | ' ' :: rest => ' ' :: rest
      | rest => ' ' :: rest
    else c :: collapse cs

def cleanText (cs : Line) : Line := strip (collapse cs)

/-- A text occurs in another one. -/
def occurs (part : String) (cs : List Char) : Bool := cs.tails.any part.toList.isPrefixOf

/-! ## Items -/

/-- What stands after one or more blanks, at least one character. -/
def afterBlanks (cs : Line) : Option Line :=
  let blanks := cs.takeWhile isSpace
  match cs.dropWhile isSpace with
  | [] => if 2 ≤ blanks.length then blanks.getLast?.map ([·]) else none
  | rest => if blanks = [] then none else some rest

/-- The level and the title of a heading. -/
def heading (line : Line) : Option (Nat × String) :=
  let level := (line.takeWhile (· = '#')).length
  if 1 ≤ level ∧ level ≤ 6 then
    (afterBlanks (line.drop level)).map fun title => (level, String.ofList (cleanText title))
  else none

def isBulletMark (c : Char) : Bool := c = '-' || c = '*'

def isIdentifierChar (c : Char) : Bool := isUpper c || isDigit c || c = '-'

/-- The identifier and the statement of an item with a stable identifier. -/
def explicitItem (line : Line) : Option (String × Line) :=
  let cs := line.dropWhile isSpace
  let item :=
    match cs with
    | mark :: rest =>
      if isBulletMark mark && (rest.head?.any isSpace) then rest.dropWhile isSpace else cs
    | [] => []
  match item with
  | '\x60' :: first :: rest =>
    let more := rest.takeWhile isIdentifierChar
    match rest.dropWhile isIdentifierChar with
    | '\x60' :: ':' :: statement =>
      if isUpper first && !more.isEmpty then
        some (String.ofList (first :: more), statement.dropWhile isSpace)
      else none
    | _ => none
  | _ => none

def bulletItem (line : Line) : Option Line :=
  match line.dropWhile isSpace with
  | mark :: rest => if isBulletMark mark then afterBlanks rest else none
  | [] => none

/-! ## Sections -/

/-- The headings that are open, the outermost first. -/
abbrev Headings := List (Nat × String)

/-- A heading closes the headings of its level and below. -/
def Headings.opened (headings : Headings) (level : Nat) (title : String) : Headings :=
  headings.filter (·.1 < level) ++ [(level, title)]

def Headings.label (headings : Headings) : String :=
  let joined := " > ".intercalate (headings.map Prod.snd)
  if joined = "" then "Document" else joined

section Scan

variable (S : Lexicon)

def numberedItem (line : Line) : Option Line :=
  let cs := line.dropWhile isSpace
  match cs.takeWhile S.isDecimal, cs.dropWhile S.isDecimal with
  | _ :: _, mark :: rest => if mark = '.' ∨ mark = ')' then afterBlanks rest else none
  | _, _ => none

/-- One of the labels occurs in the folded section. -/
def labelled (labels : List String) (label : String) : Bool :=
  labels.any fun part => occurs part (S.casefold label).toList

def sectionMayContainRequirements : String → Bool :=
  labelled S ["requirement", "constraint", "non-goal", "non goal", "assumption", "open decision",
    "acceptance criterion", "acceptance criteria"]

def sectionAcceptsUnlabelled : String → Bool :=
  labelled S ["functional requirement", "non-functional requirement", "nonfunctional requirement",
    "constraint", "non-goal", "non goal", "assumption", "open decision"]

def sectionAcceptsPlainParagraph : String → Bool := labelled S ["open decision"]

/-! ## Candidates -/

/-- A statement of the source that may be a requirement. -/
structure Candidate where
  identifier : Option String
  statement : String
  label : String
  lineStart : Nat
  lineEnd : Nat
  excerpt : String
deriving DecidableEq

/-- What a line begins. -/
structure Item where
  identifier : Option String := none
  statement : Line
  plain : Bool := false

/-- The item a line begins in a section. -/
def selectItem (label : String) (line : Line) : Option Item :=
  match explicitItem line with
  | some (identifier, statement) => some { identifier := some identifier, statement }
  | none =>
    let unlabelled :=
      if sectionAcceptsUnlabelled S label then (numberedItem S line).or (bulletItem line) else none
    match unlabelled with
    | some statement => some { statement }
    | none =>
      if sectionAcceptsPlainParagraph S label && !(strip line).isEmpty then
        some { statement := strip line, plain := true }
      else none

/-- A line that continues an item. -/
def continues (plain : Bool) (line : Line) : Bool :=
  !(strip line).isEmpty && (heading line).isNone && (explicitItem line).isNone &&
    (numberedItem S line).isNone && (bulletItem line).isNone &&
    (plain || line.head?.any isSpace)

/-- Join texts with a mark between them. -/
def joined (mark : String) (parts : List Line) : Line := (parts.intersperse mark.toList).flatten

/-- The candidate an item and its continuation make, where its statement is not empty. -/
def candidateOf (item : Item) (label : String) (start : Nat) (line : Line) (more : List Line) :
    Option Candidate :=
  let statement := cleanText (joined " " (item.statement :: more.map strip))
  if statement = [] then none
  else some {
    identifier := item.identifier
    statement := String.ofList statement
    label
    lineStart := start + 1
    lineEnd := start + 1 + more.length
    excerpt := String.ofList (joined "\n" (line :: more)) }

/-- The candidates of the lines from an index, of which some belong to the item before. -/
def extractFrom : Nat → Nat → Headings → List Line → List Candidate
  | _, _, _, [] => []
  | index, passed + 1, headings, _ :: rest => extractFrom (index + 1) passed headings rest
  | index, 0, headings, line :: rest =>
    match heading line with
    | some (level, title) => extractFrom (index + 1) 0 (headings.opened level title) rest
    | none =>
      match selectItem S headings.label line with
      | none => extractFrom (index + 1) 0 headings rest
      | some item =>
        let more := rest.takeWhile (continues S item.plain)
        (candidateOf item headings.label index line more).toList ++
          extractFrom (index + 1) more.length headings rest

def extractCandidates (text : List Char) : List Candidate := extractFrom S 0 0 [] (splitLines text)

end Scan

end Specification

end Sdaqf
