import Mathlib.Data.List.Basic

/-!
# JSON texts

Values, the text a writer prints for a value and the value a reader finds in a text. The writer
escapes every character that is not printable ASCII and lays a value out in one line or indented.
What it prints the reader reads back, whatever follows it, so a printed text determines its value
and the place where it ends.
-/

namespace JsonText

/-- A decoded JSON value. The members of an object stand in the order of the text. -/
inductive Value
  | null
  | boolean (b : Bool)
  | number (n : Int)
  | text (s : String)
  | array (items : List Value)
  | object (members : List (String × Value))

/-- The induction over a value: the items of an array and the members of an object are smaller. -/
theorem Value.induction {p : Value → Prop} (null : p .null) (boolean : ∀ b, p (.boolean b))
    (number : ∀ n, p (.number n)) (text : ∀ s, p (.text s))
    (array : ∀ items, (∀ v ∈ items, p v) → p (.array items))
    (object : ∀ members, (∀ m ∈ members, p m.2) → p (.object members)) (v : Value) : p v :=
  @Value.rec p (fun items => ∀ v ∈ items, p v) (fun members => ∀ m ∈ members, p m.2)
    (fun m => p m.2) null boolean number text array object (by simp)
    (fun _ _ hv hvs => List.forall_mem_cons.mpr ⟨hv, hvs⟩) (by simp)
    (fun _ _ hm hms => List.forall_mem_cons.mpr ⟨hm, hms⟩) (fun _ _ h => h) v

/-! ## Writing -/

/-- One escaped code unit. -/
def codeUnit (n : Nat) : List Char :=
  ['\\', 'u', (n / 4096).digitChar, (n / 256 % 16).digitChar, (n / 16 % 16).digitChar,
    (n % 16).digitChar]

/-- The text of one character inside a string. -/
def escape (c : Char) : List Char :=
  if c = '"' then ['\\', '"']
  else if c = '\\' then ['\\', '\\']
  else if c = '\n' then ['\\', 'n']
  else if c = '\r' then ['\\', 'r']
  else if c = '\t' then ['\\', 't']
  else if c = '\x08' then ['\\', 'b']
  else if c = '\x0c' then ['\\', 'f']
  else if 32 ≤ c.toNat ∧ c.toNat ≤ 126 then [c]
  else if c.toNat < 65536 then codeUnit c.toNat
  else codeUnit (55296 + (c.toNat - 65536) / 1024) ++ codeUnit (56320 + (c.toNat - 65536) % 1024)

def quote (s : String) : List Char :=
  '"' :: (s.toList.flatMap escape ++ ['"'])

def isBlank (c : Char) : Bool := c = ' ' || c = '\n' || c = '\r' || c = '\t'

/-- How a text is laid out: what stands in front of the items of a depth and after a colon. -/
structure Layout where
  line : Nat → List Char
  space : List Char
  line_blank : ∀ d, (line d).all isBlank = true
  space_blank : space.all isBlank = true

/-- One line without blanks. -/
def compact : Layout where
  line _ := []
  space := []
  line_blank _ := rfl
  space_blank := rfl

/-- Two blanks for each level. -/
def indented : Layout where
  line d := '\n' :: List.replicate (2 * d) ' '
  space := [' ']
  line_blank d := by
    rw [List.all_cons, List.all_replicate]
    simp [isBlank]
  space_blank := rfl

section Writer

variable (L : Layout)

mutual
/-- The text of a value at a depth. -/
def dumps (d : Nat) : Value → List Char
  | .null => ['n', 'u', 'l', 'l']
  | .boolean true => ['t', 'r', 'u', 'e']
  | .boolean false => ['f', 'a', 'l', 's', 'e']
  | .number n => (if n < 0 then ['-'] else []) ++ Nat.toDigits 10 n.natAbs
  | .text s => quote s
  | .array items => if items.isEmpty then ['[', ']'] else '[' :: dumpItems d [] items
  | .object members => if members.isEmpty then ['{', '}'] else '{' :: dumpMembers d [] members
/-- The items of an array and its end. -/
def dumpItems (d : Nat) (mark : List Char) : List Value → List Char
  | [] => L.line d ++ [']']
  | v :: items => mark ++ L.line (d + 1) ++ dumps (d + 1) v ++ dumpItems d [','] items
/-- The members of an object and its end. -/
def dumpMembers (d : Nat) (mark : List Char) : List (String × Value) → List Char
  | [] => L.line d ++ ['}']
  | (key, v) :: members => mark ++ L.line (d + 1) ++ quote key ++ ':' :: L.space ++
      dumps (d + 1) v ++ dumpMembers d [','] members
end

end Writer

/-! ## Reading -/

/-- Skip the blanks at the front of a text. -/
def skip (cs : List Char) : List Char := cs.dropWhile isBlank

def hexValue (c : Char) : Option Nat :=
  if '0' ≤ c ∧ c ≤ '9' then some (c.toNat - 48)
  else if 'a' ≤ c ∧ c ≤ 'f' then some (c.toNat - 87)
  else if 'A' ≤ c ∧ c ≤ 'F' then some (c.toNat - 55)
  else none

/-- Read the four digits of a code unit. -/
def readUnit : List Char → Option (Nat × List Char)
  | a :: b :: c :: d :: rest => do
    let a ← hexValue a
    let b ← hexValue b
    let c ← hexValue c
    let d ← hexValue d
    return (a * 4096 + b * 256 + c * 16 + d, rest)
  | _ => none

/-- What a character stands for after a backslash. -/
def unescape : Char → Option Char
  | '"' => some '"'
  | '\\' => some '\\'
  | '/' => some '/'
  | 'b' => some '\x08'
  | 'f' => some '\x0c'
  | 'n' => some '\n'
  | 'r' => some '\r'
  | 't' => some '\t'
  | _ => none

/-- Read the second half of a pair of code units. A half alone is no character. -/
def readPair (first : Nat) : List Char → Option (Char × List Char)
  | '\\' :: 'u' :: cs => do
    let (second, rest) ← readUnit cs
    if 56320 ≤ second ∧ second < 57344 then
      return (Char.ofNat (65536 + (first - 55296) * 1024 + (second - 56320)), rest)
    else none
  | _ => none

/-- Read one character of a string. -/
def readChar : List Char → Option (Char × List Char)
  | '\\' :: 'u' :: cs => do
    let (first, rest) ← readUnit cs
    if 55296 ≤ first ∧ first < 56320 then readPair first rest
    else if 56320 ≤ first ∧ first < 57344 then none
    else return (Char.ofNat first, rest)
  | '\\' :: c :: cs => (unescape c).map fun c => (c, cs)
  | c :: cs => if c.toNat < 32 then none else some (c, cs)
  | [] => none

/-- Read the rest of a string. -/
def readText : Nat → List Char → Option (List Char × List Char)
  | 0, _ => none
  | _ + 1, '"' :: cs => some ([], cs)
  | n + 1, cs => do
    let (c, rest) ← readChar cs
    let (s, rest) ← readText n rest
    return (c :: s, rest)

/-- A character that would continue a number. -/
def continuesNumber (c : Char) : Bool := c.isDigit || c = '.' || c = 'e' || c = 'E'

/-- Read the digits of a whole number. -/
def readDigits (cs : List Char) : Option (Nat × List Char) :=
  let digits := cs.takeWhile Char.isDigit
  let rest := cs.dropWhile Char.isDigit
  if digits = [] ∨ (digits.head? = some '0' ∧ digits ≠ ['0']) ∨ rest.head?.any continuesNumber then
    none
  else some (Nat.ofDigitChars 10 digits 0, rest)

/-- Read a whole number. -/
def readNumber : List Char → Option (Value × List Char)
  | '-' :: cs => (readDigits cs).map fun p => (.number (-p.1), p.2)
  | cs => (readDigits cs).map fun p => (.number p.1, p.2)

mutual
/-- Read one value at the front of a text. -/
def readValue : Nat → List Char → Option (Value × List Char)
  | 0, _ => none
  | n + 1, cs =>
    match cs with
    | '"' :: cs => (readText n cs).map fun p => (.text (String.ofList p.1), p.2)
    | '[' :: cs =>
      match skip cs with
      | ']' :: rest => some (.array [], rest)
      | cs => (readItems n cs).map fun p => (.array p.1, p.2)
    | '{' :: cs =>
      match skip cs with
      | '}' :: rest => some (.object [], rest)
      | cs => (readMembers n cs).map fun p => (.object p.1, p.2)
    | 'n' :: 'u' :: 'l' :: 'l' :: rest => some (.null, rest)
    | 't' :: 'r' :: 'u' :: 'e' :: rest => some (.boolean true, rest)
    | 'f' :: 'a' :: 'l' :: 's' :: 'e' :: rest => some (.boolean false, rest)
    | cs => readNumber cs
/-- Read the items of an array up to its end. -/
def readItems : Nat → List Char → Option (List Value × List Char)
  | 0, _ => none
  | n + 1, cs => do
    let (v, rest) ← readValue n cs
    match skip rest with
    | ',' :: rest => do
      let (items, rest) ← readItems n (skip rest)
      return (v :: items, rest)
    | ']' :: rest => some ([v], rest)
    | _ => none
/-- Read the members of an object up to its end. -/
def readMembers : Nat → List Char → Option (List (String × Value) × List Char)
  | 0, _ => none
  | n + 1, cs =>
    match cs with
    | '"' :: cs => do
      let (key, rest) ← readText n cs
      match skip rest with
      | ':' :: rest => do
        let (v, rest) ← readValue n (skip rest)
        match skip rest with
        | ',' :: rest => do
          let (members, rest) ← readMembers n (skip rest)
          return ((String.ofList key, v) :: members, rest)
        | '}' :: rest => some ([(String.ofList key, v)], rest)
        | _ => none
      | _ => none
    | _ => none
end

/-- The value of a text that holds nothing else. -/
def loads (cs : List Char) : Option Value := do
  let (v, rest) ← readValue (cs.length + 1) (skip cs)
  if skip rest = [] then some v else none

/-! ## What is printed is read back -/

variable {L : Layout} {b cs r : List Char} {c : Char} {n d : Nat}

theorem skip_append (hb : b.all isBlank = true) : skip (b ++ cs) = skip cs := by
  rw [List.all_eq_true] at hb
  exact List.dropWhile_append_of_pos hb

theorem skip_cons (hc : isBlank c = false) : skip (c :: cs) = c :: cs := by
  simp [skip, hc]

/-! ### Characters and strings -/

theorem hexValue_digitChar : ∀ d < 16, hexValue d.digitChar = some d := by
  decide

theorem readUnit_codeUnit (hn : n < 65536) :
    readUnit ((codeUnit n).drop 2 ++ r) = some (n, r) := by
  simp only [codeUnit, List.drop_succ_cons, List.drop_zero, List.cons_append, List.nil_append,
    readUnit, hexValue_digitChar _ (by omega : n / 4096 < 16),
    hexValue_digitChar _ (by omega : n / 256 % 16 < 16),
    hexValue_digitChar _ (by omega : n / 16 % 16 < 16),
    hexValue_digitChar _ (by omega : n % 16 < 16), Option.pure_def, Option.bind_eq_bind,
    Option.bind_some, Option.some.injEq, Prod.mk.injEq, and_true]
  omega

theorem codeUnit_append :
    codeUnit n ++ r = '\\' :: 'u' :: ((codeUnit n).drop 2 ++ r) := rfl

/-- A character is no half of a pair of code units. -/
theorem toNat_valid (c : Char) : c.toNat < 55296 ∨ 57343 < c.toNat ∧ c.toNat < 1114112 :=
  c.valid

theorem readChar_codeUnit (hc : c.toNat < 65536) :
    readChar (codeUnit c.toNat ++ r) = some (c, r) := by
  have hvalid := toNat_valid c
  rw [codeUnit_append, readChar, readUnit_codeUnit hc]
  simp only [Option.pure_def, Option.bind_eq_bind, Option.bind_some]
  rw [if_neg (by omega), if_neg (by omega), Char.ofNat_toNat]

theorem readChar_pair {first second : Nat} (hfirst : 55296 ≤ first ∧ first < 56320)
    (hsecond : 56320 ≤ second ∧ second < 57344) :
    readChar (codeUnit first ++ (codeUnit second ++ r)) =
      some (Char.ofNat (65536 + (first - 55296) * 1024 + (second - 56320)), r) := by
  rw [codeUnit_append, readChar, readUnit_codeUnit (by omega)]
  simp only [Option.pure_def, Option.bind_eq_bind, Option.bind_some]
  rw [if_pos hfirst, codeUnit_append, readPair, readUnit_codeUnit (by omega)]
  simp only [Option.pure_def, Option.bind_eq_bind, Option.bind_some]
  rw [if_pos hsecond]

/-- The pair of code units of a character gives the character back. -/
theorem pair_value (hc : ¬c.toNat < 65536) {q r : Nat} (hq : q = (c.toNat - 65536) / 1024)
    (hr : r = (c.toNat - 65536) % 1024) :
    Char.ofNat (65536 + (55296 + q - 55296) * 1024 + (56320 + r - 56320)) = c := by
  have hsame : 65536 + (55296 + q - 55296) * 1024 + (56320 + r - 56320) = c.toNat := by omega
  rw [hsame, Char.ofNat_toNat]

/-- The characters with an escape of their own, each with the letter behind the backslash. -/
def shortEscapes : List (Char × Char) :=
  [('"', '"'), ('\\', '\\'), ('\n', 'n'), ('\r', 'r'), ('\t', 't'), ('\x08', 'b'), ('\x0c', 'f')]

theorem escape_short {d : Char} (h : (c, d) ∈ shortEscapes) : escape c = ['\\', d] := by
  have hall : shortEscapes.all (fun p => escape p.1 = ['\\', p.2]) = true := by decide
  exact of_decide_eq_true (List.all_eq_true.mp hall (c, d) h)

/-- The four ways the writer spells a character. -/
theorem escape_forms (c : Char) :
    (∃ d, (c, d) ∈ shortEscapes ∧ escape c = ['\\', d]) ∨
      ((32 ≤ c.toNat ∧ c.toNat ≤ 126) ∧ c ≠ '"' ∧ c ≠ '\\' ∧ escape c = [c]) ∨
      (c.toNat < 65536 ∧ escape c = codeUnit c.toNat) ∨
      (¬c.toNat < 65536 ∧ escape c = codeUnit (55296 + (c.toNat - 65536) / 1024) ++
        codeUnit (56320 + (c.toNat - 65536) % 1024)) := by
  by_cases hshort : c ∈ shortEscapes.map Prod.fst
  · obtain ⟨⟨c, d⟩, hd, rfl⟩ := List.mem_map.mp hshort
    exact .inl ⟨d, hd, escape_short hd⟩
  · simp only [shortEscapes, List.map_cons, List.map_nil, List.mem_cons, List.not_mem_nil,
      or_false, not_or] at hshort
    obtain ⟨h₁, h₂, h₃, h₄, h₅, h₆, h₇⟩ := hshort
    rw [escape, if_neg h₁, if_neg h₂, if_neg h₃, if_neg h₄, if_neg h₅, if_neg h₆, if_neg h₇]
    by_cases hrange : 32 ≤ c.toNat ∧ c.toNat ≤ 126
    · exact .inr (.inl ⟨hrange, h₁, h₂, if_pos hrange⟩)
    rw [if_neg hrange]
    by_cases hunit : c.toNat < 65536
    · exact .inr (.inr (.inl ⟨hunit, if_pos hunit⟩))
    · exact .inr (.inr (.inr ⟨hunit, if_neg hunit⟩))

theorem readChar_short {d : Char} (h : (c, d) ∈ shortEscapes) :
    readChar ('\\' :: d :: r) = some (c, r) := by
  simp only [shortEscapes, List.mem_cons, Prod.mk.injEq, List.not_mem_nil, or_false] at h
  rcases h with ⟨rfl, rfl⟩ | ⟨rfl, rfl⟩ | ⟨rfl, rfl⟩ | ⟨rfl, rfl⟩ | ⟨rfl, rfl⟩ | ⟨rfl, rfl⟩ |
    ⟨rfl, rfl⟩
  all_goals rfl

theorem readChar_escape : readChar (escape c ++ r) = some (c, r) := by
  rcases escape_forms c with ⟨d, hd, h⟩ | ⟨hrange, -, hslash, h⟩ | ⟨hunit, h⟩ | ⟨hpair, h⟩ <;> rw [h]
  · exact readChar_short hd
  · have hsmall : ¬c.toNat < 32 := by omega
    simp [readChar, hsmall, hslash]
  · exact readChar_codeUnit hunit
  · have hvalid := toNat_valid c
    rw [List.append_assoc, readChar_pair (by omega) (by omega), pair_value hpair rfl rfl]

theorem escape_ne_nil : ∃ d ds, escape c = d :: ds ∧ d ≠ '"' := by
  rcases escape_forms c with ⟨d, -, h⟩ | ⟨-, hquote, -, h⟩ | ⟨-, h⟩ | ⟨-, h⟩
  · exact ⟨'\\', _, h, by decide⟩
  · exact ⟨c, [], h, hquote⟩
  · exact ⟨'\\', _, h, by decide⟩
  · exact ⟨'\\', _, h, by decide⟩

/-- A way to spell the characters of a string that the reader reads back. -/
structure Spelling where
  spell : Char → List Char
  reads : ∀ c r, readChar (spell c ++ r) = some (c, r)
  begins : ∀ c, ∃ d ds, spell c = d :: ds ∧ d ≠ '"'

/-- The spelling of the writer. -/
def escaped : Spelling := ⟨escape, fun _ _ => readChar_escape, fun _ => escape_ne_nil⟩

section Printer

variable (E : Spelling) (L : Layout)

def quoteBy (s : String) : List Char := '"' :: (s.toList.flatMap E.spell ++ ['"'])

mutual
/-- The text of a value at a depth, its strings spelled in a given way. -/
def print (d : Nat) : Value → List Char
  | .null => ['n', 'u', 'l', 'l']
  | .boolean true => ['t', 'r', 'u', 'e']
  | .boolean false => ['f', 'a', 'l', 's', 'e']
  | .number n => (if n < 0 then ['-'] else []) ++ Nat.toDigits 10 n.natAbs
  | .text s => quoteBy E s
  | .array items => if items.isEmpty then ['[', ']'] else '[' :: printItems d [] items
  | .object members => if members.isEmpty then ['{', '}'] else '{' :: printMembers d [] members
/-- The items of an array and its end. -/
def printItems (d : Nat) (mark : List Char) : List Value → List Char
  | [] => L.line d ++ [']']
  | v :: items => mark ++ L.line (d + 1) ++ print (d + 1) v ++ printItems d [','] items
/-- The members of an object and its end. -/
def printMembers (d : Nat) (mark : List Char) : List (String × Value) → List Char
  | [] => L.line d ++ ['}']
  | (key, v) :: members => mark ++ L.line (d + 1) ++ quoteBy E key ++ ':' :: L.space ++
      print (d + 1) v ++ printMembers d [','] members
end

end Printer

variable {E : Spelling}

mutual
/-- The writer prints with its own spelling. -/
theorem dumps_eq_print : ∀ (v : Value) (d : Nat), dumps L d v = print escaped L d v
  | .null, _ | .boolean true, _ | .boolean false, _ | .number _, _ | .text _, _ => rfl
  | .array items, d => by rw [dumps, print, dumpItems_eq_print items d []]
  | .object members, d => by rw [dumps, print, dumpMembers_eq_print members d []]
theorem dumpItems_eq_print : ∀ (items : List Value) (d : Nat) (mark : List Char),
    dumpItems L d mark items = printItems escaped L d mark items
  | [], _, _ => rfl
  | v :: items, d, mark => by
    rw [dumpItems, printItems, dumps_eq_print v (d + 1), dumpItems_eq_print items d [',']]
theorem dumpMembers_eq_print : ∀ (members : List (String × Value)) (d : Nat) (mark : List Char),
    dumpMembers L d mark members = printMembers escaped L d mark members
  | [], _, _ => rfl
  | (key, v) :: members, d, mark => by
    rw [dumpMembers, printMembers, dumps_eq_print v (d + 1), dumpMembers_eq_print members d [',']]
    rfl
end

theorem readText_flatMap (s : List Char) {n : Nat} (hn : (s.flatMap E.spell).length < n) :
    readText n (s.flatMap E.spell ++ '"' :: r) = some (s, r) := by
  induction s generalizing n with
  | nil =>
    obtain ⟨n, rfl⟩ : ∃ k, n = k + 1 := ⟨n - 1, by omega⟩
    rfl
  | cons c s ih =>
    obtain ⟨n, rfl⟩ : ∃ k, n = k + 1 := ⟨n - 1, by omega⟩
    obtain ⟨d, ds, hspell, hd⟩ := E.begins c
    have hread := E.reads c (s.flatMap E.spell ++ '"' :: r)
    rw [List.flatMap_cons, List.append_assoc]
    rw [List.flatMap_cons, List.length_append, hspell, List.length_cons] at hn
    rw [hspell, List.cons_append] at hread ⊢
    rw [readText, hread]
    · simp only [Option.pure_def, Option.bind_eq_bind, Option.bind_some]
      rw [ih (by omega)]
      rfl
    · rintro cs hcs
      exact hd (List.cons.inj hcs).1

theorem readText_quoteBy {s : String} (hn : (quoteBy E s).length ≤ n) :
    readText n ((quoteBy E s).tail ++ r) = some (s.toList, r) := by
  simp only [quoteBy, List.length_cons, List.length_append, List.length_nil, List.tail_cons,
    List.append_assoc, List.cons_append, List.nil_append] at hn ⊢
  exact readText_flatMap _ (by omega)

theorem quoteBy_eq_cons {s : String} : quoteBy E s = '"' :: (quoteBy E s).tail := rfl

/-! ### Numbers -/

theorem toDigits_cons (n : Nat) : ∃ c cs, Nat.toDigits 10 n = c :: cs ∧
    (n ≠ 0 → c ≠ '0') := by
  induction n using Nat.strongRecOn with
  | ind n ih =>
    by_cases hn : n < 10
    · refine ⟨n.digitChar, [], Nat.toDigits_of_lt_base hn, fun hne => ?_⟩
      have : ∀ d < 10, d ≠ 0 → d.digitChar ≠ '0' := by decide
      exact this n hn hne
    · obtain ⟨c, cs, hdigits, hc⟩ := ih (n / 10) (by omega)
      refine ⟨c, cs ++ [(n % 10).digitChar], ?_, fun _ => hc (by omega)⟩
      rw [Nat.toDigits_of_base_le (by omega) (by omega), hdigits, List.cons_append]

theorem isDigit_toDigits (n : Nat) : ∀ c ∈ Nat.toDigits 10 n, c.isDigit = true :=
  fun _ hc => Nat.isDigit_of_mem_toDigits (by decide) (by decide) hc

/-- The rest of a text does not continue a number. -/
def Apart (r : List Char) : Prop := r.head?.any continuesNumber = false

theorem Apart.dropWhile (h : Apart r) : r.dropWhile Char.isDigit = r := by
  cases r with
  | nil => rfl
  | cons c r =>
    simp only [Apart, List.head?_cons, Option.any_some, continuesNumber, Bool.or_eq_false_iff] at h
    simp [h.1.1.1]

theorem Apart.takeWhile (h : Apart r) : r.takeWhile Char.isDigit = [] := by
  cases r with
  | nil => rfl
  | cons c r =>
    simp only [Apart, List.head?_cons, Option.any_some, continuesNumber, Bool.or_eq_false_iff] at h
    simp [h.1.1.1]

theorem readDigits_toDigits {n : Nat} (h : Apart r) :
    readDigits (Nat.toDigits 10 n ++ r) = some (n, r) := by
  obtain ⟨c, cs, hdigits, hc⟩ := toDigits_cons n
  have hall := isDigit_toDigits n
  have htake : (Nat.toDigits 10 n ++ r).takeWhile Char.isDigit = Nat.toDigits 10 n := by
    rw [List.takeWhile_append_of_pos hall, h.takeWhile, List.append_nil]
  have hdrop : (Nat.toDigits 10 n ++ r).dropWhile Char.isDigit = r := by
    rw [List.dropWhile_append_of_pos hall, h.dropWhile]
  simp only [readDigits, htake, hdrop, Nat.ofDigitChars_ten_toDigits]
  rw [if_neg]
  rintro (hnil | ⟨hzero, hmore⟩ | hcontinues)
  · rw [hdigits] at hnil
    cases hnil
  · rw [hdigits, List.head?_cons, Option.some.injEq] at hzero
    by_cases hn : n = 0
    · subst hn
      exact hmore rfl
    · exact hc hn hzero
  · rw [h] at hcontinues
    cases hcontinues

theorem readNumber_print {n : Int} (h : Apart r) :
    readNumber (print E L d (.number n) ++ r) = some (.number n, r) := by
  by_cases hn : n < 0
  · simp only [print, if_pos hn, List.cons_append, List.nil_append, readNumber,
      readDigits_toDigits h, Option.map_some, Option.some.injEq, Prod.mk.injEq, Value.number.injEq,
      and_true]
    omega
  · obtain ⟨c, cs, hdigits, -⟩ := toDigits_cons n.natAbs
    have hminus : c ≠ '-' := by
      rintro rfl
      exact absurd (isDigit_toDigits n.natAbs '-' (hdigits ▸ List.mem_cons_self)) (by decide)
    have hread := readDigits_toDigits (n := n.natAbs) h
    simp only [print, if_neg hn, List.nil_append]
    rw [hdigits, List.cons_append] at hread ⊢
    rw [readNumber, hread]
    · simp only [Option.map_some, Option.some.injEq, Prod.mk.injEq, Value.number.injEq, and_true]
      omega
    · rintro cs' hcs
      exact hminus (List.cons.inj hcs).1

theorem readValue_of_number (h : c = '-' ∨ c.isDigit = true) :
    readValue (n + 1) (c :: cs) = readNumber (c :: cs) := by
  have hhead : ∀ d, c = d → ¬(d ≠ '-' ∧ d.isDigit = false) := by
    rintro d rfl ⟨hminus, hdigit⟩
    rcases h with h | h
    · exact hminus h
    · rw [h] at hdigit
      cases hdigit
  rw [readValue]
  all_goals
    intro r hrest
    exact hhead _ (List.cons.inj hrest).1 (by decide)

/-! ### Values -/

/-- How the text of a value starts. -/
theorem print_cons (v : Value) : ∃ c cs, print E L d v = c :: cs ∧ isBlank c = false ∧ c ≠ ']' := by
  cases v with
  | null => exact ⟨'n', _, rfl, by decide, by decide⟩
  | boolean b =>
    cases b
    · exact ⟨'f', _, rfl, by decide, by decide⟩
    · exact ⟨'t', _, rfl, by decide, by decide⟩
  | number n =>
    obtain ⟨c, cs, hdigits, -⟩ := toDigits_cons n.natAbs
    have hc : c.isDigit = true := isDigit_toDigits _ c (hdigits ▸ List.mem_cons_self)
    by_cases hn : n < 0
    · exact ⟨'-', c :: cs, by simp [print, hn, hdigits], by decide, by decide⟩
    · refine ⟨c, cs, by simp [print, hn, hdigits], ?_, ?_⟩
      · by_contra hblank
        simp only [isBlank, Bool.not_eq_false, Bool.or_eq_true, decide_eq_true_eq] at hblank
        rcases hblank with ((rfl | rfl) | rfl) | rfl <;> exact absurd hc (by decide)
      · rintro rfl
        exact absurd hc (by decide)
  | text s => exact ⟨'"', _, rfl, by decide, by decide⟩
  | array items =>
    cases items
    · exact ⟨'[', _, rfl, by decide, by decide⟩
    · exact ⟨'[', _, rfl, by decide, by decide⟩
  | object members =>
    cases members
    · exact ⟨'{', _, rfl, by decide, by decide⟩
    · exact ⟨'{', _, rfl, by decide, by decide⟩

theorem skip_print {v : Value} : skip (print E L d v ++ r) = print E L d v ++ r := by
  obtain ⟨c, cs, hprint, hc, -⟩ := print_cons (E := E) (L := L) (d := d) v
  rw [hprint, List.cons_append, skip_cons hc]

theorem skip_line {k : Nat} : skip (L.line k ++ cs) = skip cs := skip_append (L.line_blank k)

/-- Blanks and the marks of a layout do not continue a number. -/
theorem apart_line {k : Nat} (h : Apart r) : Apart (L.line k ++ r) := by
  have hline := L.line_blank k
  cases hk : L.line k with
  | nil => exact h
  | cons c cs =>
    rw [hk, List.all_cons, Bool.and_eq_true] at hline
    have hc := hline.1
    simp only [isBlank, Bool.or_eq_true, decide_eq_true_eq] at hc
    rcases hc with ((rfl | rfl) | rfl) | rfl <;> rfl

/-- The reader finds the value in its text, whatever follows. -/
def Reads (E : Spelling) (L : Layout) (v : Value) : Prop :=
  ∀ {n d : Nat} {r : List Char}, (print E L d v).length < n → Apart r →
    readValue n (print E L d v ++ r) = some (v, r)

theorem readItems_print {v : Value} {items : List Value} (h : ∀ w ∈ v :: items, Reads E L w)
    (hn : (print E L (d + 1) v ++ printItems E L d [','] items).length < n) :
    readItems n (print E L (d + 1) v ++ (printItems E L d [','] items ++ r)) =
      some (v :: items, r) := by
  obtain ⟨n, rfl⟩ : ∃ k, n = k + 1 := ⟨n - 1, by omega⟩
  induction items generalizing v n with
  | nil =>
    simp only [printItems, List.length_append, List.length_cons] at hn
    have hread : readValue n (print E L (d + 1) v ++ (L.line d ++ ']' :: r)) =
        some (v, L.line d ++ ']' :: r) :=
      h v List.mem_cons_self (by omega) (apart_line rfl)
    simp only [printItems, List.append_assoc, List.cons_append, List.nil_append, readItems, hread,
      Option.bind_eq_bind, Option.bind_some, skip_line,
      skip_cons (show isBlank ']' = false by decide)]
  | cons w items ih =>
    simp only [printItems, List.length_append, List.length_cons, List.length_nil] at hn
    have hread : readValue n (print E L (d + 1) v ++
        (',' :: (L.line (d + 1) ++ (print E L (d + 1) w ++ (printItems E L d [','] items ++ r))))) =
        some (v, ',' :: (L.line (d + 1) ++ (print E L (d + 1) w ++
          (printItems E L d [','] items ++ r)))) :=
      h v List.mem_cons_self (by omega) rfl
    obtain ⟨n, rfl⟩ : ∃ k, n = k + 1 := ⟨n - 1, by omega⟩
    have hrest := ih (fun w hw => h w (List.mem_cons_of_mem _ hw)) n (by
      simp only [List.length_append]
      omega)
    rw [readItems]
    simp only [printItems, List.append_assoc, List.cons_append, List.nil_append, hread,
      Option.bind_eq_bind, Option.bind_some, skip_line, skip_print,
      skip_cons (show isBlank ',' = false by decide), hrest, Option.pure_def]

theorem readMembers_print {key : String} {v : Value} {members : List (String × Value)}
    (h : ∀ m ∈ (key, v) :: members, Reads E L m.2)
    (hn : (quoteBy E key ++ ':' :: L.space ++ print E L (d + 1) v ++
      printMembers E L d [','] members).length < n) :
    readMembers n (quoteBy E key ++ (':' :: (L.space ++ (print E L (d + 1) v ++
      (printMembers E L d [','] members ++ r))))) = some ((key, v) :: members, r) := by
  obtain ⟨n, rfl⟩ : ∃ k, n = k + 1 := ⟨n - 1, by omega⟩
  induction members generalizing key v n with
  | nil =>
    simp only [printMembers, List.length_append, List.length_cons] at hn
    have hkey := readText_quoteBy (E := E) (s := key) (n := n)
      (r := ':' :: (L.space ++ (print E L (d + 1) v ++ (L.line d ++ '}' :: r)))) (by omega)
    have hread : readValue n (print E L (d + 1) v ++ (L.line d ++ '}' :: r)) =
        some (v, L.line d ++ '}' :: r) :=
      h (key, v) List.mem_cons_self (by dsimp only; omega) (apart_line rfl)
    rw [quoteBy_eq_cons, List.cons_append, readMembers]
    simp only [printMembers, List.append_assoc, List.cons_append, List.nil_append, hkey,
      Option.bind_eq_bind, Option.bind_some, skip_cons (show isBlank ':' = false by decide),
      skip_append L.space_blank, skip_print, hread, skip_line,
      skip_cons (show isBlank '}' = false by decide), String.ofList_toList]
  | cons m members ih =>
    obtain ⟨key', w⟩ := m
    simp only [printMembers, List.length_append, List.length_cons, List.length_nil] at hn
    have hkey := readText_quoteBy (E := E) (s := key) (n := n)
      (r := ':' :: (L.space ++ (print E L (d + 1) v ++ (',' :: (L.line (d + 1) ++ (quoteBy E key' ++
        (':' :: (L.space ++ (print E L (d + 1) w ++ (printMembers E L d [','] members ++
          r)))))))))) (by omega)
    have hread : readValue n (print E L (d + 1) v ++ (',' :: (L.line (d + 1) ++ (quoteBy E key' ++
        (':' :: (L.space ++ (print E L (d + 1) w ++ (printMembers E L d [','] members ++ r)))))))) =
        some (v, ',' :: (L.line (d + 1) ++ (quoteBy E key' ++ (':' :: (L.space ++
          (print E L (d + 1) w ++ (printMembers E L d [','] members ++ r))))))) :=
      h (key, v) List.mem_cons_self (by dsimp only; omega) rfl
    obtain ⟨n, rfl⟩ : ∃ k, n = k + 1 := ⟨n - 1, by omega⟩
    have hrest := ih (fun m hm => h m (List.mem_cons_of_mem _ hm)) n (by
      simp only [List.length_append, List.length_cons]
      omega)
    have hquote : ∀ cs, skip (quoteBy E key' ++ cs) = quoteBy E key' ++ cs := fun cs => by
      rw [quoteBy_eq_cons, List.cons_append, skip_cons (by decide)]
    rw [quoteBy_eq_cons, List.cons_append, readMembers]
    simp only [printMembers, List.append_assoc, List.cons_append, List.nil_append, hkey,
      Option.bind_eq_bind, Option.bind_some, skip_cons (show isBlank ':' = false by decide),
      skip_append L.space_blank, skip_print, hread, skip_line, hquote,
      skip_cons (show isBlank ',' = false by decide), hrest, Option.pure_def, String.ofList_toList]

theorem readValue_print (v : Value) : Reads E L v := by
  induction v using Value.induction with
  | null =>
    intro n d r hn _
    obtain ⟨n, rfl⟩ : ∃ k, n = k + 1 := ⟨n - 1, by omega⟩
    rfl
  | boolean b =>
    intro n d r hn _
    obtain ⟨n, rfl⟩ : ∃ k, n = k + 1 := ⟨n - 1, by omega⟩
    cases b <;> rfl
  | number k =>
    intro n d r hn hrest
    obtain ⟨n, rfl⟩ : ∃ k, n = k + 1 := ⟨n - 1, by omega⟩
    obtain ⟨c, cs, hdigits, -⟩ := toDigits_cons k.natAbs
    have hread := readNumber_print (E := E) (L := L) (d := d) (n := k) hrest
    have hhead : ∃ c cs, print E L d (.number k) = c :: cs ∧ (c = '-' ∨ c.isDigit = true) := by
      by_cases hk : k < 0
      · exact ⟨'-', c :: cs, by simp [print, hk, hdigits], .inl rfl⟩
      · exact ⟨c, cs, by simp [print, hk, hdigits],
          .inr (isDigit_toDigits _ c (hdigits ▸ List.mem_cons_self))⟩
    obtain ⟨c, cs, hprint, hc⟩ := hhead
    rw [hprint, List.cons_append] at hread ⊢
    rw [readValue_of_number hc, hread]
  | text s =>
    intro n d r hn _
    obtain ⟨n, rfl⟩ : ∃ k, n = k + 1 := ⟨n - 1, by omega⟩
    simp only [print] at hn ⊢
    have hread := readText_quoteBy (E := E) (s := s) (n := n) (r := r) (by omega)
    rw [quoteBy_eq_cons, List.cons_append, readValue, hread]
    simp [String.ofList_toList]
  | array items ih =>
    intro n d r hn _
    obtain ⟨n, rfl⟩ : ∃ k, n = k + 1 := ⟨n - 1, by omega⟩
    cases items with
    | nil => rfl
    | cons v items =>
      obtain ⟨c, cs, hprint, -, hc⟩ := print_cons (E := E) (L := L) (d := d + 1) v
      simp only [print, List.isEmpty_cons, printItems, List.length_cons, List.length_append,
        List.length_nil, Bool.false_eq_true, if_false] at hn
      have hread := readItems_print (E := E) (L := L) (d := d) (n := n) (r := r) ih (by
        rw [List.length_append]
        omega)
      simp only [print, List.isEmpty_cons, printItems, Bool.false_eq_true, if_false,
        List.cons_append, List.nil_append, List.append_assoc, readValue, skip_line, skip_print]
      rw [hprint, List.cons_append] at hread ⊢
      split
      · next hcs => exact absurd (List.cons.inj hcs).1 hc
      · rw [hread]
        rfl
  | object members ih =>
    intro n d r hn _
    obtain ⟨n, rfl⟩ : ∃ k, n = k + 1 := ⟨n - 1, by omega⟩
    cases members with
    | nil => rfl
    | cons m members =>
      obtain ⟨key, v⟩ := m
      simp only [print, List.isEmpty_cons, printMembers, List.length_cons, List.length_append,
        List.length_nil, Bool.false_eq_true, if_false] at hn
      have hread := readMembers_print (E := E) (L := L) (d := d) (n := n) (r := r) ih (by
        simp only [List.length_append, List.length_cons]
        omega)
      simp only [print, List.isEmpty_cons, printMembers, Bool.false_eq_true, if_false,
        List.cons_append, List.nil_append, List.append_assoc, readValue, skip_line]
      rw [quoteBy_eq_cons, List.cons_append] at hread ⊢
      rw [skip_cons (by decide)]
      split
      · next hcs => exact absurd (List.cons.inj hcs).1 (by decide)
      · rw [hread]
        rfl

/-- A printed value followed by blanks is read back. -/
theorem loads_print {v : Value} (hb : b.all isBlank = true) :
    loads (print E L 0 v ++ b) = some v := by
  have hapart : Apart b := by
    cases b with
    | nil => rfl
    | cons c b =>
      rw [List.all_cons, Bool.and_eq_true] at hb
      have hc := hb.1
      simp only [isBlank, Bool.or_eq_true, decide_eq_true_eq] at hc
      rcases hc with ((rfl | rfl) | rfl) | rfl <;> rfl
  have hread := readValue_print (E := E) (L := L) v (n := (print E L 0 v ++ b).length + 1) (d := 0)
    (by rw [List.length_append]; omega) hapart
  have hskip : skip b = [] := by
    have : skip (b ++ []) = skip [] := skip_append hb
    rwa [List.append_nil] at this
  simp only [loads, skip_print, hread, Option.bind_eq_bind, Option.bind_some, hskip, if_true]

theorem loads_dumps {v : Value} (hb : b.all isBlank = true) :
    loads (dumps L 0 v ++ b) = some v := by
  rw [dumps_eq_print]
  exact loads_print hb

/-- How the text of a value starts. -/
theorem dumps_cons (v : Value) : ∃ c cs, dumps L d v = c :: cs ∧ isBlank c = false ∧ c ≠ ']' := by
  rw [dumps_eq_print]
  exact print_cons v

/-- A printed value ends where its text says it does. -/
theorem dumps_append_inj {v w : Value} {r s : List Char} (hr : Apart r) (hs : Apart s)
    (h : dumps L d v ++ r = dumps L d w ++ s) : v = w ∧ r = s := by
  rw [dumps_eq_print, dumps_eq_print] at h
  have hv := readValue_print (E := escaped) (L := L) v (d := d)
    (n := (print escaped L d v).length + (print escaped L d w).length + 1) (by omega) hr
  have hw := readValue_print (E := escaped) (L := L) w (d := d)
    (n := (print escaped L d v).length + (print escaped L d w).length + 1) (by omega) hs
  rw [h, hw, Option.some.injEq, Prod.mk.injEq] at hv
  exact ⟨hv.1.symm, hv.2.symm⟩

theorem dumps_inj {v w : Value} : dumps L d v = dumps L d w ↔ v = w := by
  refine ⟨fun h => ?_, fun h => by rw [h]⟩
  have hsame : dumps L d v ++ [] = dumps L d w ++ [] := by rw [h]
  have hend : Apart [] := rfl
  exact (dumps_append_inj hend hend hsame).1

/-! ## The values inside a value -/

mutual
/-- A value and all values inside it, each with its depth. -/
def within (d : Nat) : Value → List (Value × Nat)
  | .array items => (.array items, d) :: withinItems (d + 1) items
  | .object members => (.object members, d) :: withinMembers (d + 1) members
  | v => [(v, d)]
def withinItems (d : Nat) : List Value → List (Value × Nat)
  | [] => []
  | v :: items => within d v ++ withinItems d items
def withinMembers (d : Nat) : List (String × Value) → List (Value × Nat)
  | [] => []
  | (_, v) :: members => within d v ++ withinMembers d members
end

theorem withinItems_eq {items : List Value} : withinItems d items = items.flatMap (within d) := by
  induction items with
  | nil => rfl
  | cons v items ih => rw [withinItems, ih, List.flatMap_cons]

theorem withinMembers_eq {members : List (String × Value)} :
    withinMembers d members = members.flatMap fun m => within d m.2 := by
  induction members with
  | nil => rfl
  | cons m members ih => rw [withinMembers, ih, List.flatMap_cons]

/-- The keys of an object are distinct. -/
def hasDistinctKeys : Value → Bool
  | .object members => decide (members.map Prod.fst).Nodup
  | _ => true

/-- Every object inside a value has distinct keys. -/
def Strict (v : Value) : Prop := ∀ w ∈ within 0 v, hasDistinctKeys w.1 = true

instance {v : Value} : Decidable (Strict v) :=
  inferInstanceAs (Decidable (∀ w ∈ within 0 v, hasDistinctKeys w.1 = true))

/-- The depth of a value inside another does not change which values there are. -/
theorem map_fst_within (v : Value) (d e : Nat) :
    (within d v).map Prod.fst = (within e v).map Prod.fst := by
  induction v using Value.induction generalizing d e with
  | array items ih =>
    simp only [within, withinItems_eq, List.map_cons, List.map_flatMap, List.cons.injEq, true_and]
    exact List.flatMap_congr fun v hv => ih v hv _ _
  | object members ih =>
    simp only [within, withinMembers_eq, List.map_cons, List.map_flatMap, List.cons.injEq, true_and]
    exact List.flatMap_congr fun m hm => ih m hm _ _
  | _ => rfl

theorem strict_iff (v : Value) (d : Nat) :
    Strict v ↔ ∀ w ∈ within d v, hasDistinctKeys w.1 = true := by
  have h : (∀ w ∈ (within 0 v).map Prod.fst, hasDistinctKeys w = true) ↔
      ∀ w ∈ (within d v).map Prod.fst, hasDistinctKeys w = true := by
    rw [map_fst_within v 0 d]
  rwa [List.forall_mem_map, List.forall_mem_map] at h

theorem strict_array {items : List Value} : Strict (.array items) ↔ ∀ v ∈ items, Strict v := by
  have hitems (v : Value) : Strict v ↔ ∀ w ∈ within 1 v, hasDistinctKeys w.1 = true :=
    strict_iff v 1
  rw [Strict, within, withinItems_eq, List.forall_mem_cons]
  simp only [hitems, List.mem_flatMap, forall_exists_index, and_imp]
  constructor
  · rintro ⟨-, h⟩ v hv w hw
    exact h w v hv hw
  · intro h
    exact ⟨rfl, fun w v hv hw => h v hv w hw⟩

theorem strict_object {members : List (String × Value)} :
    Strict (.object members) ↔ (members.map Prod.fst).Nodup ∧ ∀ m ∈ members, Strict m.2 := by
  have hmembers (v : Value) : Strict v ↔ ∀ w ∈ within 1 v, hasDistinctKeys w.1 = true :=
    strict_iff v 1
  rw [Strict, within, withinMembers_eq, List.forall_mem_cons]
  simp only [hmembers, List.mem_flatMap, forall_exists_index, and_imp]
  constructor
  · rintro ⟨hkeys, h⟩
    exact ⟨of_decide_eq_true hkeys, fun m hm w hw => h w m hm hw⟩
  · rintro ⟨hkeys, h⟩
    exact ⟨decide_eq_true hkeys, fun w m hm hw => h m hm w hw⟩

/-- The values inside a value stand at most so deep. -/
def Shallow (n : Nat) (v : Value) : Prop := ∀ w ∈ within 0 v, w.2 ≤ n

instance {v : Value} : Decidable (Shallow n v) :=
  inferInstanceAs (Decidable (∀ w ∈ within 0 v, w.2 ≤ n))

/-- A value that stands deeper has its inner values deeper by as much. -/
theorem map_snd_within (v : Value) (d e : Nat) :
    (within (d + e) v).map Prod.snd = ((within d v).map Prod.snd).map (· + e) := by
  induction v using Value.induction generalizing d with
  | array items ih =>
    simp only [within, withinItems_eq, List.map_cons, List.map_flatMap, List.cons.injEq, true_and]
    refine List.flatMap_congr fun v hv => ?_
    rw [← ih v hv, Nat.add_right_comm]
  | object members ih =>
    simp only [within, withinMembers_eq, List.map_cons, List.map_flatMap, List.cons.injEq, true_and]
    refine List.flatMap_congr fun m hm => ?_
    rw [← ih m hm, Nat.add_right_comm]
  | _ => rfl

theorem shallow_iff (v : Value) : Shallow n v ↔ ∀ w ∈ within 1 v, w.2 ≤ n + 1 := by
  have h : (∀ k ∈ (within (0 + 1) v).map Prod.snd, k ≤ n + 1) ↔
      ∀ k ∈ (within 0 v).map Prod.snd, k ≤ n := by
    rw [map_snd_within, List.forall_mem_map]
    simp only [Nat.add_le_add_iff_right]
  rw [List.forall_mem_map, List.forall_mem_map] at h
  exact h.symm

theorem shallow_array {items : List Value} :
    Shallow (n + 1) (.array items) ↔ ∀ v ∈ items, Shallow n v := by
  rw [Shallow, within, withinItems_eq, List.forall_mem_cons]
  simp only [shallow_iff, List.mem_flatMap, forall_exists_index, and_imp]
  constructor
  · rintro ⟨-, h⟩ v hv w hw
    exact h w v hv hw
  · intro h
    exact ⟨Nat.zero_le _, fun w v hv hw => h v hv w hw⟩

theorem shallow_object {members : List (String × Value)} :
    Shallow (n + 1) (.object members) ↔ ∀ m ∈ members, Shallow n m.2 := by
  rw [Shallow, within, withinMembers_eq, List.forall_mem_cons]
  simp only [shallow_iff, List.mem_flatMap, forall_exists_index, and_imp]
  constructor
  · rintro ⟨-, h⟩ m hm w hw
    exact h w m hm hw
  · intro h
    exact ⟨Nat.zero_le _, fun w m hm hw => h m hm w hw⟩

theorem shallow_text {s : String} : Shallow n (.text s) := by
  simp [Shallow, within]

theorem strict_text {s : String} : Strict (.text s) := by
  simp [Strict, within, hasDistinctKeys]

/-! ## What is printed is ASCII -/

/-- A text of characters of one byte. -/
def Ascii (cs : List Char) : Prop := ∀ c ∈ cs, c.toNat < 128

instance {cs : List Char} : Decidable (Ascii cs) :=
  List.decidableBAll (fun c : Char => c.toNat < 128) cs

theorem Ascii.append {a b : List Char} (ha : Ascii a) (hb : Ascii b) : Ascii (a ++ b) := by
  intro c hc
  rcases List.mem_append.mp hc with hc | hc
  · exact ha c hc
  · exact hb c hc

theorem Ascii.cons {a : Char} {b : List Char} (ha : a.toNat < 128) (hb : Ascii b) :
    Ascii (a :: b) := List.forall_mem_cons.mpr ⟨ha, hb⟩

theorem ascii_of_blank {b : List Char} (hb : b.all isBlank = true) : Ascii b := by
  intro c hc
  have hblank := List.all_eq_true.mp hb c hc
  simp only [isBlank, Bool.or_eq_true, decide_eq_true_eq] at hblank
  rcases hblank with ((rfl | rfl) | rfl) | rfl <;> decide

theorem ascii_digitChar (d : Nat) : d.digitChar.toNat < 128 := by
  have hdigit : ∀ d < 16, (Nat.digitChar d).toNat < 128 := by decide
  by_cases hd : d < 16
  · exact hdigit d hd
  · rw [Nat.digitChar_eq_star.mpr (by omega)]
    decide

theorem ascii_codeUnit : Ascii (codeUnit n) := by
  simp only [Ascii, codeUnit, List.forall_mem_cons, ascii_digitChar, List.not_mem_nil,
    false_implies, implies_true, and_true]
  decide

theorem ascii_escape : Ascii (escape c) := by
  rcases escape_forms c with ⟨d, hd, h⟩ | ⟨hrange, -, -, h⟩ | ⟨-, h⟩ | ⟨-, h⟩ <;> rw [h]
  · have hall : shortEscapes.all (fun p => p.2.toNat < 128) = true := by decide
    exact .cons (by decide) (.cons (of_decide_eq_true (List.all_eq_true.mp hall (c, d) hd)) nofun)
  · intro d hd
    rw [List.mem_singleton.mp hd]
    omega
  · exact ascii_codeUnit
  · exact ascii_codeUnit.append ascii_codeUnit

theorem ascii_quote {s : String} : Ascii (quote s) := by
  refine .cons (by decide) (.append (fun c hc => ?_) (by decide))
  obtain ⟨d, -, hd⟩ := List.mem_flatMap.mp hc
  exact ascii_escape c hd

/-- Everything the writer prints is ASCII. -/
theorem ascii_dumps (v : Value) (d : Nat) : Ascii (dumps L d v) := by
  induction v using Value.induction generalizing d with
  | null => exact (by decide : Ascii ['n', 'u', 'l', 'l'])
  | boolean b =>
    cases b with
    | false => exact (by decide : Ascii ['f', 'a', 'l', 's', 'e'])
    | true => exact (by decide : Ascii ['t', 'r', 'u', 'e'])
  | number n =>
    rw [dumps]
    refine .append (by split_ifs <;> decide) fun c hc => ?_
    have hdigit := isDigit_toDigits n.natAbs c hc
    simp only [Char.isDigit, Bool.and_eq_true, decide_eq_true_eq] at hdigit
    have hle : c.toNat ≤ 57 := hdigit.2
    omega
  | text s => exact ascii_quote
  | array items ih =>
    have hitems (mark : List Char) (hmark : Ascii mark) : Ascii (dumpItems L d mark items) := by
      induction items generalizing mark with
      | nil => exact (ascii_of_blank (L.line_blank d)).append (by decide)
      | cons v items ihitems =>
        rw [dumpItems]
        have hv := ih v List.mem_cons_self (d + 1)
        have hrest := ihitems (fun v hv => ih v (List.mem_cons_of_mem _ hv)) [','] (by decide)
        exact ((hmark.append (ascii_of_blank (L.line_blank _))).append hv).append hrest
    rw [dumps]
    split_ifs
    · decide
    · exact .cons (by decide) (hitems [] (by decide))
  | object members ih =>
    have hmembers (mark : List Char) (hmark : Ascii mark) :
        Ascii (dumpMembers L d mark members) := by
      induction members generalizing mark with
      | nil => exact (ascii_of_blank (L.line_blank d)).append (by decide)
      | cons m members ihmembers =>
        rw [dumpMembers]
        have hv := ih m List.mem_cons_self (d + 1)
        have hrest := ihmembers (fun m hm => ih m (List.mem_cons_of_mem _ hm)) [','] (by decide)
        have hvalue : Ascii (':' :: L.space ++ dumps L (d + 1) m.2) :=
          .cons (by decide) ((ascii_of_blank L.space_blank).append hv)
        have hkey : Ascii (mark ++ L.line (d + 1) ++ quote m.1) :=
          (hmark.append (ascii_of_blank (L.line_blank _))).append ascii_quote
        simpa only [List.append_assoc, List.cons_append] using (hkey.append hvalue).append hrest
    rw [dumps]
    split_ifs
    · decide
    · exact .cons (by decide) (hmembers [] (by decide))

/-! ## How long a text is -/

theorem length_quote_replicate (n : Nat) (c : Char) :
    (quote (String.ofList (List.replicate n c))).length = n * (escape c).length + 2 := by
  simp [quote, List.length_flatMap]

theorem length_dumpItems_replicate (n d : Nat) (v : Value) :
    (dumpItems L d [','] (List.replicate n v)).length =
      n * (1 + (L.line (d + 1)).length + (dumps L (d + 1) v).length) + ((L.line d).length + 1) := by
  induction n with
  | zero => simp [dumpItems]
  | succ n ih =>
    rw [List.replicate_succ, dumpItems, List.length_append, ih, Nat.succ_mul]
    simp only [List.length_append, List.length_cons, List.length_nil]
    omega

end JsonText
