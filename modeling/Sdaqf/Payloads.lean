import Sdaqf.JsonText
import Sdaqf.Sorting
import Sdaqf.TextContracts

/-!
# Decoded payloads

The steps every loader of a decoded JSON value is made of: the type of a value, the exact fields of
an object, and arrays whose items are read under their own field. The keys of a decoded object are
distinct, so the first member of a key is the only one. What a loader says about every item of an
array it says about every record it returns.
-/

namespace Sdaqf

open Guard
open JsonText (Value)

namespace Payload

/-- The members of a decoded object. -/
abbrev Members := List (String × Value)

variable {α β : Type} {members : Members} {field : String}

/-! ## Objects -/

/-- The value of a key, null where the key is missing. -/
def get (members : Members) (key : String) : Value := (members.lookup key).getD .null

@[simp] theorem get_nil {key : String} : get [] key = .null := rfl

@[simp] theorem get_cons {key k : String} {v : Value} :
    get ((k, v) :: members) key = if key = k then v else get members key := by
  by_cases h : key = k
  · simp [get, h]
  · simp [get, List.lookup_cons, beq_false_of_ne h, h]

/-- Require an object. -/
def objectValue (value : Value) (field : String) : Except String Members :=
  match value with
  | .object members => .ok members
  | _ => .error (field ++ " must be an object.")

@[simp] theorem objectValue_eq_ok {value : Value} :
    objectValue value field = .ok members ↔ value = .object members := by
  cases value <;> simp [objectValue]

/-- Require the exact fields of an object. -/
def onlyKeys (members : Members) (expected : List String) (field : String) : Except String Unit :=
  let keys := (members.map Prod.fst).toFinset
  match (Sorting.listed (expected.toFinset \ keys)).head?,
    (Sorting.listed (keys \ expected.toFinset)).head? with
  | some key, _ => .error (field ++ " is missing " ++ key ++ ".")
  | none, some key => .error (field ++ " contains unsupported field " ++ key ++ ".")
  | none, none => .ok ()

/-- An object whose keys are listed has exactly the fields of the list. -/
theorem onlyKeys_of_keys {expected : List String} (h : members.map Prod.fst = expected) :
    onlyKeys members expected field = .ok () := by
  simp only [onlyKeys, h, Finset.sdiff_self]
  rfl

/-! ## Texts and numbers -/

/-- The characters `strip` takes away. -/
def isSpace (c : Char) : Bool :=
  (9 ≤ c.toNat && c.toNat ≤ 13) || (28 ≤ c.toNat && c.toNat ≤ 32) ||
    (0x2000 ≤ c.toNat && c.toNat ≤ 0x200a) ||
    [0x85, 0xa0, 0x1680, 0x2028, 0x2029, 0x202f, 0x205f, 0x3000].contains c.toNat

/-- A text with a visible character. -/
def Written (text : String) : Prop := text.toList.all isSpace = false

instance {text : String} : Decidable (Written text) :=
  inferInstanceAs (Decidable (text.toList.all isSpace = false))

/-- Require a text with a visible character. -/
def nonEmptyString (value : Value) (field : String) : Except String String :=
  match value with
  | .text s =>
    if s.toList.all isSpace then .error (field ++ " must be a non-empty string.") else .ok s
  | _ => .error (field ++ " must be a non-empty string.")

@[simp] theorem nonEmptyString_eq_ok {value : Value} {s : String} :
    nonEmptyString value field = .ok s ↔ value = .text s ∧ Written s := by
  cases value with
  | text t =>
    simp only [nonEmptyString, Value.text.injEq, Written]
    constructor
    · intro h
      split at h
      · cases h
      · cases h
        simp_all
    · rintro ⟨rfl, h⟩
      simp [h]
  | _ => simp [nonEmptyString]

/-- Require an integer. -/
def integer (value : Value) (field : String) : Except String Int :=
  match value with
  | .number n => .ok n
  | _ => .error (field ++ " must be an integer.")

@[simp] theorem integer_eq_ok {value : Value} {n : Int} :
    integer value field = .ok n ↔ value = .number n := by
  cases value <;> simp [integer]

/-! ## Enumerations -/

/-- An enumeration whose members have distinct texts. -/
class Enumeration (α : Type) where
  value : α → String
  all : List α
  mem_all : ∀ a, a ∈ all
  value_injective : Function.Injective value

/-- The member of a text. -/
def ofValue (α : Type) [Enumeration α] (text : String) : Option α :=
  Enumeration.all.find? fun a : α => Enumeration.value a = text

@[simp] theorem ofValue_eq_some [Enumeration α] {a : α} {text : String} :
    ofValue α text = some a ↔ Enumeration.value a = text := by
  unfold ofValue
  constructor
  · intro h
    simpa using List.find?_some h
  · rintro rfl
    cases h : Enumeration.all.find? fun b : α => Enumeration.value b = Enumeration.value a with
    | none =>
      have := List.find?_eq_none.mp h a (Enumeration.mem_all a)
      simp at this
    | some b =>
      have hb : Enumeration.value b = Enumeration.value a := by simpa using List.find?_some h
      rw [Enumeration.value_injective hb]

/-! ## Arrays -/

/-- Require an array. -/
def array (value : Value) (field : String) : Except String (List Value) :=
  match value with
  | .array items => .ok items
  | _ => .error (field ++ " must be an array.")

@[simp] theorem array_eq_ok {value : Value} {items : List Value} :
    array value field = .ok items ↔ value = .array items := by
  cases value <;> simp [array]

/-- Read every item of an array under its own field. -/
def mapIndexed (field : String) (parse : Value → String → Except String α) (items : List Value) :
    Except String (List α) :=
  items.zipIdx.mapM fun item => parse item.1 (indexed field item.2)

variable {parse : Value → String → Except String α} {items : List Value} {out : List α}

/-- What a reader says about an item it says about every record of the list. -/
theorem mapIndexed_forall {p : α → Prop}
    (hparse : ∀ v ∈ items, ∀ field a, parse v field = .ok a → p a)
    (h : mapIndexed field parse items = .ok out) : ∀ a ∈ out, p a := by
  rw [mapIndexed, mapM_eq_ok, List.forall₂_iff_get] at h
  obtain ⟨hlength, h⟩ := h
  intro a ha
  obtain ⟨i, hi, rfl⟩ := List.getElem_of_mem ha
  have hv : items.zipIdx[i].1 ∈ items := by
    rw [List.getElem_zipIdx]
    exact List.getElem_mem _
  exact hparse _ hv _ _ (h i (hlength ▸ hi) hi)

/-- A reader that reads back what a writer prints reads back a list of prints. -/
theorem mapIndexed_map {toDict : α → Value} {l : List α}
    (h : ∀ a ∈ l, ∀ field, parse (toDict a) field = .ok a) :
    mapIndexed field parse (l.map toDict) = .ok l := by
  rw [mapIndexed, mapM_eq_ok, List.forall₂_iff_get]
  refine ⟨by simp, fun i _ hi => ?_⟩
  simp only [List.get_eq_getElem, List.getElem_zipIdx, List.getElem_map]
  exact h _ (List.getElem_mem hi) _

/-- The texts of an array, each with a visible character. -/
def nonEmptyTuple (value : Value) (field : String) : Except String (List String) := do
  mapIndexed field nonEmptyString (← array value field)

def textArray (texts : List String) : Value := .array (texts.map .text)

@[simp] theorem textArray_inj {texts texts' : List String} :
    textArray texts = textArray texts' ↔ texts = texts' := by
  rw [textArray, textArray, Value.array.injEq]
  exact List.map_inj_right fun _ _ h => Value.text.inj h

theorem written_of_nonEmptyTuple {value : Value} {texts : List String}
    (h : nonEmptyTuple value field = .ok texts) : ∀ text ∈ texts, Written text := by
  simp only [nonEmptyTuple, bind_eq_ok] at h
  obtain ⟨items, -, h⟩ := h
  exact mapIndexed_forall (fun v _ field a ha => (nonEmptyString_eq_ok.mp ha).2) h

theorem nonEmptyTuple_textArray {texts : List String} (h : ∀ text ∈ texts, Written text) :
    nonEmptyTuple (textArray texts) field = .ok texts := by
  simp only [nonEmptyTuple, bind_eq_ok]
  refine ⟨texts.map .text, array_eq_ok.mpr rfl, mapIndexed_map fun text htext field => ?_⟩
  exact nonEmptyString_eq_ok.mpr ⟨rfl, h text htext⟩

/-! ## Bounded texts -/

/-- Require bounded, non-empty, single-line, secret-free text. -/
def stringOf (value : Value) (field : String) (maximum : Nat) : Except String String := do
  let text ← nonEmptyString value field
  stringValue field maximum text
  return text

/-- What a bounded text satisfies, under every field. -/
structure BoundedText (maximum : Nat) (text : String) : Prop where
  written : Written text
  bounded : text.toList.length ≤ maximum
  oneLine : (text.toList.all fun c => c ≠ '\x00' && c ≠ '\r' && c ≠ '\n') = true
  secretFree : text.toList.tails.any startsSecret = false

instance {maximum : Nat} {text : String} : Decidable (BoundedText maximum text) :=
  decidable_of_iff (Written text ∧ text.toList.length ≤ maximum ∧
      (text.toList.all fun c => c ≠ '\x00' && c ≠ '\r' && c ≠ '\n') = true ∧
      text.toList.tails.any startsSecret = false)
    ⟨fun h => ⟨h.1, h.2.1, h.2.2.1, h.2.2.2⟩, fun h => ⟨h.1, h.2, h.3, h.4⟩⟩

theorem isSpace_of_isWhitespace {c : Char} (h : c.isWhitespace = true) : isSpace c = true := by
  simp only [Char.isWhitespace, Bool.or_eq_true, decide_eq_true_eq] at h
  rcases h with ((rfl | rfl) | rfl) | rfl <;> decide

theorem Written.not_blank {text : String} (h : Written text) :
    text.toList.all Char.isWhitespace = false := by
  rw [Written, List.all_eq_false] at h
  obtain ⟨c, hc, hspace⟩ := h
  exact List.all_eq_false.mpr ⟨c, hc, fun hblank => hspace (isSpace_of_isWhitespace hblank)⟩

@[simp] theorem stringOf_eq_ok {value : Value} {maximum : Nat} {text : String} :
    stringOf value field maximum = .ok text ↔ value = .text text ∧ BoundedText maximum text := by
  simp only [stringOf, stringValue, bind_eq_ok, pure_eq_ok, nonEmptyString_eq_ok, require_eq_ok,
    exists_unit]
  constructor
  · rintro ⟨_, ⟨rfl, hwritten⟩, ⟨-, hbounded, hline, hsecret⟩, rfl⟩
    exact ⟨rfl, hwritten, hbounded, hline, hsecret⟩
  · rintro ⟨rfl, h⟩
    exact ⟨_, ⟨rfl, h.written⟩, ⟨h.written.not_blank, h.bounded, h.oneLine, h.secretFree⟩, rfl⟩

/-- Require bounded text that some further rule accepts. -/
def matchingString (value : Value) (field : String) (maximum : Nat) (rule : String → Bool)
    (message : String) : Except String String := do
  let text ← stringOf value field maximum
  require (rule text) (field ++ message)
  return text

@[simp] theorem matchingString_eq_ok {value : Value} {maximum : Nat} {rule : String → Bool}
    {message text : String} :
    matchingString value field maximum rule message = .ok text ↔
      value = .text text ∧ BoundedText maximum text ∧ rule text = true := by
  simp only [matchingString, bind_eq_ok, pure_eq_ok, stringOf_eq_ok, require_eq_ok, exists_unit]
  constructor
  · rintro ⟨_, ⟨rfl, h⟩, hrule, rfl⟩
    exact ⟨rfl, h, hrule⟩
  · rintro ⟨rfl, h, hrule⟩
    exact ⟨_, ⟨rfl, h⟩, hrule, rfl⟩

/-- Require an uppercase SHA-256 digest. -/
def sha256Of (value : Value) (field : String) : Except String String :=
  matchingString value field 64 (fun text => isDigest text.toList)
    " must be an uppercase SHA-256 digest."

/-- Require a lowercase full commit identifier. -/
def commitOf (value : Value) (field : String) : Except String String :=
  if value matches .null then .error (field ++ " must not be null.")
  else matchingString value field 40 isCommit " must be a lowercase full commit identifier."

/-- Require one supported member of an enumeration. -/
def enumOf (α : Type) [Enumeration α] (value : Value) (field : String) : Except String α := do
  let text ← stringOf value field 100
  fromOption (ofValue α text) (field ++ " is unsupported.")

/-- A text without an absolute path or a control character. -/
def isPathFree (text : String) : Bool :=
  text.toList.tails.any startsAbsolute = false && text.toList.all fun c => !isControl c

/-- Require bounded text without a personal absolute path. -/
def pathFreeOf (value : Value) (field : String) (maximum : Nat) : Except String String := do
  let text ← stringOf value field maximum
  require (text.toList.tails.any startsAbsolute = false) (field ++ " contains an absolute path.")
  require (text.toList.all fun c => !isControl c) (field ++ " contains unsupported control text.")
  return text

@[simp] theorem pathFreeOf_eq_ok {value : Value} {maximum : Nat} {text : String} :
    pathFreeOf value field maximum = .ok text ↔
      value = .text text ∧ BoundedText maximum text ∧ isPathFree text = true := by
  simp only [pathFreeOf, bind_eq_ok, pure_eq_ok, stringOf_eq_ok, require_eq_ok, exists_unit,
    isPathFree, Bool.and_eq_true, decide_eq_true_eq]
  constructor
  · rintro ⟨_, ⟨rfl, h⟩, habsolute, hcontrol, rfl⟩
    exact ⟨rfl, h, habsolute, hcontrol⟩
  · rintro ⟨rfl, h, habsolute, hcontrol⟩
    exact ⟨_, ⟨rfl, h⟩, habsolute, hcontrol, rfl⟩

/-! ## Bounded arrays -/

/-- Require one bounded array. -/
def arrayOf (value : Value) (field : String) (maximum : Nat) : Except String (List Value) := do
  let items ← array value field
  arrayValue field maximum items
  return items

@[simp] theorem arrayOf_eq_ok {value : Value} {maximum : Nat} {items : List Value} :
    arrayOf value field maximum = .ok items ↔ value = .array items ∧ items.length ≤ maximum := by
  simp only [arrayOf, arrayValue, bind_eq_ok, pure_eq_ok, array_eq_ok, require_eq_ok, exists_unit]
  constructor
  · rintro ⟨_, rfl, hbounded, rfl⟩
    exact ⟨rfl, hbounded⟩
  · rintro ⟨rfl, hbounded⟩
    exact ⟨_, rfl, hbounded, rfl⟩

/-- Require a bounded unique string array. -/
def stringTupleOf (value : Value) (field : String) (minimum maximum : Nat) :
    Except String (List String) := do
  let items ← arrayOf value field maximum
  let texts ← mapIndexed field (fun value field => stringOf value field 500) items
  require (minimum ≤ texts.length) (field ++ " has too few items.")
  require texts.Nodup (field ++ " must contain unique items.")
  return texts

/-- What a bounded unique string array satisfies. -/
structure BoundedTexts (minimum maximum : Nat) (texts : List String) : Prop where
  bounded : texts.length ≤ maximum
  enough : minimum ≤ texts.length
  unique : texts.Nodup
  texts : ∀ text ∈ texts, BoundedText 500 text

theorem length_of_mapIndexed (h : mapIndexed field parse items = .ok out) :
    items.length = out.length := by
  rw [mapIndexed, mapM_eq_ok] at h
  have := h.length_eq
  rwa [List.length_zipIdx] at this

theorem bounded_of_stringTupleOf {value : Value} {minimum maximum : Nat} {texts : List String}
    (h : stringTupleOf value field minimum maximum = .ok texts) :
    BoundedTexts minimum maximum texts := by
  simp only [stringTupleOf, bind_eq_ok, pure_eq_ok, arrayOf_eq_ok, require_eq_ok, exists_unit] at h
  obtain ⟨items, ⟨-, hbounded⟩, texts, htexts, henough, hunique, rfl⟩ := h
  refine ⟨length_of_mapIndexed htexts ▸ hbounded, henough, hunique, ?_⟩
  exact mapIndexed_forall (fun v _ field a ha => (stringOf_eq_ok.mp ha).2) htexts

theorem stringTupleOf_textArray {minimum maximum : Nat} {texts : List String}
    (h : BoundedTexts minimum maximum texts) :
    stringTupleOf (textArray texts) field minimum maximum = .ok texts := by
  have htexts : mapIndexed field (fun value field => stringOf value field 500)
      (texts.map .text) = .ok texts :=
    mapIndexed_map fun text hmem _ => stringOf_eq_ok.mpr ⟨rfl, h.texts text hmem⟩
  simp [stringTupleOf, textArray, htexts, h.bounded, h.enough, h.unique]

/-- Require a bounded shell-free command argument array. -/
def commandArgv (value : Value) (field : String) : Except String (List String) := do
  let items ← arrayOf value field 64
  let texts ← mapIndexed field (fun value field => pathFreeOf value field 240) items
  require (texts ≠ []) (field ++ " must not be empty.")
  return texts

/-- Require a normalized repository-relative POSIX path. -/
def safePathOf (value : Value) (field : String) : Except String String := do
  let text ← nonEmptyString value field
  safeRelativePath field text
  return text

end Payload

def ArtifactReference.toDict (r : ArtifactReference) : Value := .object [
  ("path", .text r.path),
  ("sha256", .text r.sha256)]

namespace Payload

/-- Require one repository-relative artifact reference. -/
def artifactReferenceOf (value : Value) (field : String) : Except String ArtifactReference := do
  let item ← objectValue value field
  onlyKeys item ["path", "sha256"] field
  let path ← safePathOf (get item "path") (field ++ ".path")
  let sha256 ← sha256Of (get item "sha256") (field ++ ".sha256")
  return { path, sha256 }

end Payload

end Sdaqf
