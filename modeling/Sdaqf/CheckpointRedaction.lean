import Sdaqf.Checkpoints

/-!
# Redaction of checkpoints

The store searches the text of a file, not the texts of the checkpoint in it. A text that looks like a
secret or a personal path is found there as long as the characters that its pattern fixes stand for
themselves. An occurrence with an escaped character hides from the search, on both ways.
-/

namespace Sdaqf

open Guard
open JsonText (Value lastOf Spelled spelledText)
open Payload (Enumeration Members Written objectValue textArray)
open TextSearch (Pattern found hides)

namespace Checkpoint

variable {members : Members} {allowed : List String} {place s : String} {value : Value} {u : Unit}

/-! ## What the readers accept -/

theorem onlyKeys_eq_ok : onlyKeys members allowed place = .ok u ↔
    ∀ key, key ∈ members.map Prod.fst ↔ key ∈ allowed := by
  simp only [onlyKeys, bind_eq_ok, exists_unit, require_eq_ok, Finset.sdiff_eq_empty_iff_subset]
  rw [← Finset.Subset.antisymm_iff, Finset.ext_iff]
  simp only [List.mem_toFinset, iff_comm]

@[simp] theorem string_eq_ok : string value place = .ok s ↔
    value = .text s ∧ Written s ∧ s.toList.length ≤ 4096 ∧ '\x00' ∉ s.toList := by
  cases value with
  | text t =>
    simp only [string, Value.text.injEq]
    constructor
    · intro h
      split_ifs at h with hrule
      cases h
      exact ⟨rfl, hrule⟩
    · rintro ⟨rfl, hrule⟩
      rw [if_pos hrule]
  | _ => simp [string]

@[simp] theorem boundedText_eq_ok : boundedText value place = .ok s ↔
    value = .text s ∧ byteLength s.toList ≤ 8192 := by
  cases value with
  | text t =>
    simp only [boundedText, Value.text.injEq]
    constructor
    · intro h
      split_ifs at h with hrule
      cases h
      exact ⟨rfl, hrule⟩
    · rintro ⟨rfl, hrule⟩
      rw [if_pos hrule]
  | _ => simp [boundedText]

@[simp] theorem boolean_eq_ok {b : Bool} : boolean value place = .ok b ↔ value = .boolean b := by
  cases value <;> simp [boolean]

@[simp] theorem enum_eq_ok {α : Type} [Enumeration α] {a : α} : enum α value place = .ok a ↔
    value = .text (Enumeration.value a) ∧ Written (Enumeration.value a) ∧
      (Enumeration.value a).toList.length ≤ 4096 ∧ '\x00' ∉ (Enumeration.value a).toList := by
  simp only [enum, bind_eq_ok, string_eq_ok, fromOption_eq_ok, Payload.ofValue_eq_some]
  constructor
  · rintro ⟨_, hvalue, rfl⟩
    exact hvalue
  · exact fun h => ⟨_, h, rfl⟩

@[simp] theorem stringTuple_eq_ok {texts : List String} : stringTuple value place = .ok texts ↔
    value = textArray texts ∧ texts.length ≤ 16 ∧ texts.Nodup ∧
      ∀ text ∈ texts, Written text ∧ text.toList.length ≤ 4096 ∧ '\x00' ∉ text.toList := by
  cases value with
  | array items =>
    simp only [stringTuple, bind_eq_ok, exists_unit, require_eq_ok, pure_eq_ok, mapM_eq_ok,
      string_eq_ok, textArray, Value.array.injEq]
    constructor
    · rintro ⟨hlength, texts, hread, hnodup, rfl⟩
      have hitems : items = texts.map .text := by
        rw [← List.forall₂_eq_eq_eq, List.forall₂_map_right_iff]
        exact hread.imp fun _ _ h => h.1
      subst hitems
      rw [List.forall₂_map_left_iff, List.forall₂_same] at hread
      exact ⟨rfl, by simpa using hlength, hnodup, fun text htext => (hread text htext).2⟩
    · rintro ⟨rfl, hlength, hnodup, hall⟩
      refine ⟨by simpa using hlength, texts, ?_, hnodup, rfl⟩
      rw [List.forall₂_map_left_iff, List.forall₂_same]
      exact fun text htext => ⟨rfl, hall text htext⟩
  | _ => simp [stringTuple, textArray]

theorem optional_eq_ok {α : Type} {parse : Value → String → Except String α} {a : Option α} :
    optional parse value place = .ok a ↔
      (value = .null ∧ a = none) ∨
        (value ≠ .null ∧ ∃ b, parse value place = .ok b ∧ a = some b) := by
  have hmap (x : Except String α) : x.map some = .ok a ↔ ∃ b, x = .ok b ∧ a = some b := by
    cases x <;> simp [Except.map, eq_comm]
  cases value with
  | null => simp [optional, eq_comm]
  | _ => simp [optional, hmap]

/-! ## The texts of a checkpoint -/

end Checkpoint

def ToolObservation.texts (o : ToolObservation) : List String :=
  [o.toolName, Enumeration.value o.status, Enumeration.value o.failureClass, o.detail] ++
    o.version.toList ++ [o.stdout, o.stderr, o.executionMode] ++ o.approvalIds

def ExecutionContext.texts (c : ExecutionContext) : List String :=
  [c.planVersion, c.specificationDigest, c.gitHead, c.worktreeDigest]

/-- All texts of a decoded checkpoint. -/
def ExecutionCheckpoint.texts (c : ExecutionCheckpoint) : List String :=
  ["1.0", c.checkpointId, c.toolName, c.commandDigest] ++ c.context.texts ++
    [Enumeration.value c.state, Enumeration.value c.lastFailure] ++ c.stateChangeToken.toList ++
    (c.observation.map ToolObservation.texts).getD []

namespace Checkpoint

variable {text : String}

theorem mem_kept_object (h : onlyKeys members allowed place = .ok u) :
    text ∈ (Value.object members).kept ↔ ∃ key ∈ allowed, text ∈ (get members key).kept := by
  rw [onlyKeys_eq_ok] at h
  rw [Value.kept, JsonText.mem_keptMembers]
  constructor
  · rintro ⟨key, v, hlast, htext⟩
    refine ⟨key, (h key).mp ?_, by rwa [get, hlast]⟩
    by_contra hkey
    rw [JsonText.lastOf_eq_none.mpr hkey] at hlast
    cases hlast
  · rintro ⟨key, -, htext⟩
    cases hlast : lastOf members key with
    | none =>
      rw [get, hlast] at htext
      cases htext
    | some v =>
      rw [get, hlast] at htext
      exact ⟨key, v, hlast, htext⟩

theorem kept_textArray {texts : List String} : (textArray texts).kept = texts := by
  induction texts with
  | nil => rfl
  | cons text texts ih =>
    rw [textArray, Value.kept] at ih ⊢
    rw [List.map_cons, Value.keptItems, ih]
    rfl

/-- An optional text of an object. -/
theorem kept_optional {a : Option String} (h : optional string value place = .ok a) :
    value.kept = a.toList := by
  rcases optional_eq_ok.mp h with ⟨rfl, rfl⟩ | ⟨-, b, hb, rfl⟩
  · rfl
  · rw [(string_eq_ok.mp hb).1]
    rfl

theorem kept_optionalInteger {a : Option Int}
    (h : optional Payload.integer value place = .ok a) : value.kept = [] := by
  rcases optional_eq_ok.mp h with ⟨rfl, rfl⟩ | ⟨-, b, hb, rfl⟩
  · rfl
  · rw [Payload.integer_eq_ok.mp hb]
    rfl

theorem kept_observation {o : ToolObservation} (h : parseObservation value place = .ok o) :
    text ∈ value.kept ↔ text ∈ o.texts := by
  simp only [parseObservation, bind_eq_ok, exists_unit, require_eq_ok, pure_eq_ok,
    Payload.objectValue_eq_ok, string_eq_ok, boundedText_eq_ok, boolean_eq_ok, enum_eq_ok,
    stringTuple_eq_ok] at h
  obtain ⟨record, rfl, hkeys, duration, hduration, -, mode, ⟨hmode, -⟩, -, ids, ⟨hids, -⟩, tool,
    ⟨htool, -⟩, status, ⟨hstatus, -⟩, failure, ⟨hfailure, -⟩, detail, ⟨hdetail, -⟩, version,
    hversion, exit, hexit, stdout, ⟨hstdout, -⟩, stderr, ⟨hstderr, -⟩, outTruncated,
    houtTruncated, errTruncated, herrTruncated, rfl⟩ := h
  rw [mem_kept_object hkeys]
  simp only [observationKeys, List.mem_cons, List.not_mem_nil, or_false, exists_eq_or_imp,
    exists_eq_left, htool, hstatus, hfailure, hdetail, kept_optional hversion,
    kept_optionalInteger hexit, hstdout, hstderr, houtTruncated, herrTruncated,
    kept_optionalInteger hduration, hmode, hids, kept_textArray, Value.kept,
    ToolObservation.texts, List.mem_append, false_or, or_assoc]

theorem kept_context {c : ExecutionContext} (h : parseContext value = .ok c) :
    text ∈ value.kept ↔ text ∈ c.texts := by
  simp only [parseContext, bind_eq_ok, exists_unit, require_eq_ok, pure_eq_ok,
    Payload.objectValue_eq_ok, string_eq_ok] at h
  obtain ⟨record, rfl, hkeys, plan, ⟨hplan, -⟩, specification, ⟨hspecification, -⟩, head,
    ⟨hhead, -⟩, worktree, ⟨hworktree, -⟩, -, -, -, rfl⟩ := h
  rw [mem_kept_object hkeys]
  simp only [contextKeys, List.mem_cons, List.not_mem_nil, or_false, exists_eq_or_imp,
    exists_eq_left, hplan, hspecification, hhead, hworktree, Value.kept, ExecutionContext.texts]

/-- A checkpoint holds the texts of the value that it is read from. -/
theorem kept_checkpoint {c : ExecutionCheckpoint} (h : parseCheckpointObject value = .ok c) :
    text ∈ value.kept ↔ text ∈ c.texts := by
  simp only [parseCheckpointObject, bind_eq_ok, exists_unit, require_eq_ok, pure_eq_ok,
    Payload.objectValue_eq_ok, string_eq_ok, enum_eq_ok, Payload.integer_eq_ok] at h
  obtain ⟨root, rfl, hkeys, version, ⟨hversion, -⟩, rfl, id, ⟨hid, -⟩, tool, ⟨htool, -⟩, digest,
    ⟨hdigest, -⟩, -, -, context, hcontext, attempts, hattempts, -, token, htoken, observation,
    hobservation, state, ⟨hstate, -⟩, failure, ⟨hfailure, -⟩, -, rfl⟩ := h
  have hobserved : text ∈ (get root "observation").kept ↔
      text ∈ (observation.map ToolObservation.texts).getD [] := by
    rcases optional_eq_ok.mp hobservation with ⟨hnull, rfl⟩ | ⟨-, o, ho, rfl⟩
    · rw [hnull]
      simp [Value.kept]
    · exact kept_observation ho
  rw [mem_kept_object hkeys]
  simp only [checkpointKeys, List.mem_cons, List.not_mem_nil, or_false, exists_eq_or_imp,
    exists_eq_left, hversion, hid, htool, hdigest, kept_context hcontext, hstate, hattempts,
    hfailure, kept_optional htoken, hobserved, Value.kept, ExecutionCheckpoint.texts,
    List.mem_append, false_or, or_assoc]

/-! ## What the search finds -/

/-- A text without an occurrence of a pattern. -/
def Redacted (text : String) : Prop := found redactionPatterns text.toList = false

instance {text : String} : Decidable (Redacted text) :=
  inferInstanceAs (Decidable (found redactionPatterns text.toList = false))

theorem refuseMarked_eq_ok {content : List Char} :
    refuseMarked content = .ok u ↔ found redactionPatterns content = false := by
  simp only [refuseMarked, require_eq_ok, ← Bool.not_eq_true, TextSearch.found_iff,
    redactionPatterns, List.mem_append]
  grind

/-- A character inside the name of a home directory. -/
def inName (c : Char) : Bool := c ≠ '/' && !Payload.isSpace c

theorem run_of_mem {p : Pattern} (hp : p ∈ redactionPatterns) {inside : Char → Bool} {mark : Char}
    (hrun : p.run = some (inside, mark)) : inside = inName := by
  simp only [redactionPatterns, secretPatterns, personalPathPatterns, List.cons_append,
    List.nil_append, List.mem_cons, List.not_mem_nil, or_false] at hp
  rcases hp with rfl | rfl | rfl | rfl | rfl | rfl | rfl | rfl | rfl
  all_goals cases hrun
  rfl

theorem inName_of_isUnitChar {c : Char} (h : JsonText.isUnitChar c = true) : inName c = true := by
  have hrange : 48 ≤ c.toNat ∧ c.toNat ≤ 117 := by
    simp only [JsonText.isUnitChar, Bool.or_eq_true, decide_eq_true_eq] at h
    rcases h with (h | rfl) | rfl
    · unfold JsonText.hexValue at h
      simp only [Char.le_def, UInt32.le_iff_toNat_le] at h
      have hnat : c.val.toNat = c.toNat := rfl
      split_ifs at h with h₁ h₂ h₃
      · exact ⟨h₁.1, h₁.2.trans (by decide)⟩
      · exact ⟨le_trans (by decide) h₂.1, h₂.2.trans (by decide)⟩
      · exact ⟨le_trans (by decide) h₃.1, h₃.2.trans (by decide)⟩
      · cases h
    · decide
    · decide
  have hslash : c ≠ '/' := by
    rintro rfl
    exact absurd hrange.1 (by decide)
  have hspace : Payload.isSpace c = false := by
    refine Bool.eq_false_of_not_eq_true fun h => ?_
    simp only [Payload.isSpace, Bool.or_eq_true, Bool.and_eq_true, decide_eq_true_eq,
      List.contains_iff_mem, List.mem_cons, List.not_mem_nil, or_false] at h
    omega
  simp [inName, hslash, hspace]

theorem inName_of_unescape {x c : Char} (h : JsonText.unescape x = some c) (hc : inName c = true) :
    inName x = true := by
  unfold JsonText.unescape at h
  split at h
  all_goals cases h
  all_goals first
    | decide
    | exact absurd hc (by decide)

/-- However a character of a name is spelled, the spelling holds no slash and no blank. -/
theorem staysWithin_of_spells {unit : JsonText.SpelledChar}
    (h : JsonText.Spells unit.spelling unit.char) :
    TextSearch.StaysWithin redactionPatterns unit := by
  obtain ⟨spelling, char⟩ := unit
  dsimp only at h
  refine ⟨by cases h <;> simp, fun p hp inside mark hrun hchar => ?_⟩
  cases run_of_mem hp hrun
  cases h with
  | plain => simpa using hchar
  | short hx =>
    simp only [List.all_cons, List.all_nil, inName_of_unescape hx hchar]
    decide
  | unit hdigits =>
    rw [List.all_eq_true] at hdigits ⊢
    simp only [List.mem_cons]
    rintro c (rfl | rfl | hc)
    · decide
    · decide
    · exact inName_of_isUnitChar (hdigits c hc)

/-- In a text that passes the search, exactly the occurrences that hide are left. -/
theorem redacted_iff {units : List JsonText.SpelledChar}
    (hspells : ∀ unit ∈ units, JsonText.Spells unit.spelling unit.char)
    (hclean : found redactionPatterns (JsonText.spell units) = false) :
    Redacted (JsonText.decode units) ↔ hides redactionPatterns units = false := by
  have hchars : (JsonText.decode units).toList = units.map (·.char) := String.toList_ofList
  rw [Redacted, hchars]
  constructor
  · intro hfound
    by_contra hhides
    rw [TextSearch.found_of_hides (Bool.not_eq_false _ ▸ hhides)] at hfound
    cases hfound
  · intro hhides
    by_contra hfound
    rcases TextSearch.found_or_hides (fun unit hunit => staysWithin_of_spells (hspells unit hunit))
      (Bool.not_eq_false _ ▸ hfound) with h | h
    · rw [hclean] at h
      cases h
    · rw [hhides] at h
      cases h

/-! ## Saved and loaded checkpoints -/

/-- A text that the loader keeps holds an occurrence that hides. -/
def StoredFile.Hides (file : StoredFile) : Prop :=
  ∃ size content v, file = .content size content ∧ JsonText.loadsSpelled content = some v ∧
    ∃ units ∈ v.kept, hides redactionPatterns units = true

variable {target : Except String Unit} {files files' : StoredFiles} {c c' : ExecutionCheckpoint}
  {file : StoredFile}

theorem optional_optionalText {a b : Option String}
    (h : optional string (optionalText a) place = .ok b) : b = a := by
  cases a with
  | none =>
    rcases optional_eq_ok.mp h with ⟨-, rfl⟩ | ⟨hnull, -⟩
    · rfl
    · exact absurd rfl hnull
  | some text =>
    rcases optional_eq_ok.mp h with ⟨hnull, -⟩ | ⟨-, text', htext, rfl⟩
    · cases hnull
    · cases (string_eq_ok.mp htext).1
      rfl

theorem optional_optionalNumber {a b : Option Int}
    (h : optional Payload.integer (optionalNumber a) place = .ok b) : b = a := by
  cases a with
  | none =>
    rcases optional_eq_ok.mp h with ⟨-, rfl⟩ | ⟨hnull, -⟩
    · rfl
    · exact absurd rfl hnull
  | some n =>
    rcases optional_eq_ok.mp h with ⟨hnull, -⟩ | ⟨-, n', hn, rfl⟩
    · cases hnull
    · cases Payload.integer_eq_ok.mp hn
      rfl

theorem parseContext_toDict {e e' : ExecutionContext} (h : parseContext e.toDict = .ok e') :
    e' = e := by
  simp only [parseContext, bind_eq_ok, exists_unit, require_eq_ok, pure_eq_ok,
    Payload.objectValue_eq_ok, string_eq_ok] at h
  obtain ⟨record, hrecord, -, plan, ⟨hplan, -⟩, specification, ⟨hspecification, -⟩, head,
    ⟨hhead, -⟩, worktree, ⟨hworktree, -⟩, -, -, -, rfl⟩ := h
  cases hrecord
  simp only [get, lastOf, Option.getD_some, Value.text.injEq, String.reduceEq, reduceIte]
    at hplan hspecification hhead hworktree
  subst hplan hspecification hhead hworktree
  rfl

theorem parseObservation_toDict {o o' : ToolObservation}
    (h : parseObservation o.toDict place = .ok o') : o' = o := by
  simp only [parseObservation, bind_eq_ok, exists_unit, require_eq_ok, pure_eq_ok,
    Payload.objectValue_eq_ok, string_eq_ok, boundedText_eq_ok, boolean_eq_ok, enum_eq_ok,
    stringTuple_eq_ok] at h
  obtain ⟨record, hrecord, -, duration, hduration, -, mode, ⟨hmode, -⟩, -, ids, ⟨hids, -⟩, tool,
    ⟨htool, -⟩, status, ⟨hstatus, -⟩, failure, ⟨hfailure, -⟩, detail, ⟨hdetail, -⟩, version,
    hversion, exit, hexit, stdout, ⟨hstdout, -⟩, stderr, ⟨hstderr, -⟩, outTruncated,
    houtTruncated, errTruncated, herrTruncated, rfl⟩ := h
  cases hrecord
  simp only [get, lastOf, Option.getD_some, Value.text.injEq, Payload.textArray_inj,
    String.reduceEq, reduceIte] at hmode hids htool hstatus hfailure hdetail hstdout hstderr
  simp only [get, lastOf, Option.getD_some, Value.boolean.injEq, String.reduceEq, reduceIte]
    at houtTruncated herrTruncated hduration hversion hexit
  subst hmode hids htool hdetail hstdout hstderr houtTruncated herrTruncated
  cases Enumeration.value_injective hstatus
  cases Enumeration.value_injective hfailure
  cases optional_optionalNumber hduration
  cases optional_optionalNumber hexit
  cases optional_optionalText hversion
  rfl

/-- A written checkpoint that is accepted is read back. -/
theorem parse_toDict (h : parseCheckpointObject c.toDict = .ok c') : c' = c := by
  simp only [parseCheckpointObject, bind_eq_ok, exists_unit, require_eq_ok, pure_eq_ok,
    Payload.objectValue_eq_ok, string_eq_ok, enum_eq_ok, Payload.integer_eq_ok] at h
  obtain ⟨root, hroot, -, version, -, rfl, id, ⟨hid, -⟩, tool, ⟨htool, -⟩, digest, ⟨hdigest, -⟩, -,
    -, context, hcontext, attempts, hattempts, -, token, htoken, observation, hobservation, state,
    ⟨hstate, -⟩, failure, ⟨hfailure, -⟩, -, rfl⟩ := h
  cases hroot
  simp only [get, lastOf, Option.getD_some, Value.text.injEq, Value.number.injEq, String.reduceEq,
    reduceIte] at hid htool hdigest hcontext hattempts htoken hobservation hstate hfailure
  subst hid htool hdigest hattempts
  cases parseContext_toDict hcontext
  cases Enumeration.value_injective hstate
  cases Enumeration.value_injective hfailure
  cases optional_optionalText htoken
  have hobserved : observation = c.observation := by
    cases hwritten : c.observation with
    | none =>
      rw [hwritten] at hobservation
      rcases optional_eq_ok.mp hobservation with ⟨-, rfl⟩ | ⟨hnull, -⟩
      · rfl
      · exact absurd rfl hnull
    | some o =>
      rw [hwritten] at hobservation
      rcases optional_eq_ok.mp hobservation with ⟨hnull, -⟩ | ⟨-, o', ho, rfl⟩
      · cases hnull
      · rw [parseObservation_toDict ho]
  subst hobserved
  rfl

theorem save_eq_ok : save target files c = .ok files' ↔ target = .ok () ∧
    (printed c.toDict).length ≤ maxCheckpointBytes ∧
    found redactionPatterns (printed c.toDict) = false ∧ parseCheckpointObject c.toDict = .ok c ∧
    (∀ file ∈ files.primary, file.copied = true) ∧
    files' = ⟨some (.content (printed c.toDict).length (printed c.toDict)),
      files.primary.orElse fun _ => files.backup⟩ := by
  simp only [save, bind_eq_ok, exists_unit, require_eq_ok, refuseMarked_eq_ok, pure_eq_ok,
    byteLength_printed]
  constructor
  · rintro ⟨htarget, hbytes, hclean, c', hparse, hcopied, rfl⟩
    cases parse_toDict hparse
    exact ⟨htarget, hbytes, hclean, hparse, hcopied, rfl⟩
  · rintro ⟨htarget, hbytes, hclean, hparse, hcopied, rfl⟩
    exact ⟨htarget, hbytes, hclean, c, hparse, hcopied, rfl⟩

theorem loadCheckpointFile_eq_ok : loadCheckpointFile file = .ok c ↔
    ∃ size content value, file = .content size content ∧ size ≤ maxCheckpointBytes ∧
      found redactionPatterns content = false ∧ JsonText.loads content = some value ∧
      parseCheckpointObject value = .ok c := by
  cases file with
  | content size content =>
    simp only [loadCheckpointFile, bind_eq_ok, exists_unit, require_eq_ok, refuseMarked_eq_ok,
      fromOption_eq_ok, StoredFile.content.injEq]
    constructor
    · rintro ⟨hsize, hclean, value, hloads, hparse⟩
      exact ⟨size, content, value, ⟨rfl, rfl⟩, hsize, hclean, hloads, hparse⟩
    · rintro ⟨_, _, value, ⟨rfl, rfl⟩, hsize, hclean, hloads, hparse⟩
      exact ⟨hsize, hclean, value, hloads, hparse⟩
  | undecodable size => simp [loadCheckpointFile]
  | _ => simp [loadCheckpointFile]

/-- The loader returns the first of the two files that is valid. -/
theorem load_eq_ok : load target files = .ok c ↔ target = .ok () ∧
    (files.primary.toList ++ files.backup.toList).findSome?
      (fun file => (loadCheckpointFile file).toOption) = some c := by
  simp only [load, bind_eq_ok, exists_unit]
  refine and_congr_right fun _ => ?_
  cases hfiles : files.primary.toList ++ files.backup.toList with
  | nil => simp
  | cons file rest =>
    dsimp only
    cases List.findSome? (fun file => (loadCheckpointFile file).toOption) (file :: rest) <;> simp

theorem toOption_eq_some {x : Except String ExecutionCheckpoint} :
    x.toOption = some c ↔ x = .ok c := by
  cases x <;> simp [Except.toOption]

/-- What the loader returns is in one of the two files. -/
theorem exists_of_load (h : load target files = .ok c) :
    ∃ file, (files.primary = some file ∨ files.backup = some file) ∧
      loadCheckpointFile file = .ok c := by
  obtain ⟨file, hfile, hload⟩ := List.exists_of_findSome?_eq_some (load_eq_ok.mp h).2
  refine ⟨file, ?_, toOption_eq_some.mp hload⟩
  simpa only [List.mem_append, Option.mem_toList] using hfile

/-- A printed checkpoint that was accepted is a valid file. -/
theorem loadCheckpointFile_printed (hbytes : (printed c.toDict).length ≤ maxCheckpointBytes)
    (hclean : found redactionPatterns (printed c.toDict) = false)
    (hparse : parseCheckpointObject c.toDict = .ok c) :
    loadCheckpointFile (.content (printed c.toDict).length (printed c.toDict)) = .ok c :=
  loadCheckpointFile_eq_ok.mpr ⟨_, _, _, rfl, hbytes, hclean, loads_printed, hparse⟩

/-- What is saved is loaded. -/
theorem load_saved (h : save target files c = .ok files') : load target files' = .ok c := by
  obtain ⟨htarget, hbytes, hclean, hparse, -, rfl⟩ := save_eq_ok.mp h
  refine load_eq_ok.mpr ⟨htarget, ?_⟩
  rw [Option.toList_some, List.singleton_append, List.findSome?_cons,
    loadCheckpointFile_printed hbytes hclean hparse]
  rfl

theorem saved_redacted (h : save target files c = .ok files') :
    (∀ text ∈ c.texts, Redacted text) ↔
      ∀ text ∈ c.texts, hides redactionPatterns (spelledText text) = false := by
  obtain ⟨-, -, hclean, hparse, -, -⟩ := save_eq_ok.mp h
  refine forall₂_congr fun text htext => ?_
  have hspelled := JsonText.kept_dumps (L := JsonText.indented) _ 0 text
    ((kept_checkpoint hparse).mpr htext)
  have hiff := redacted_iff JsonText.spells_spelledText
    (TextSearch.not_found_of_part hclean (hspelled.trans (List.prefix_append _ _).isInfix))
  rwa [JsonText.decode_spelledText] at hiff

theorem loaded_redacted (h : loadCheckpointFile file = .ok c) :
    (∀ text ∈ c.texts, Redacted text) ↔ ¬file.Hides := by
  obtain ⟨size, content, value, rfl, -, hclean, hloads, hparse⟩ := loadCheckpointFile_eq_ok.mp h
  rw [JsonText.loads_eq] at hloads
  obtain ⟨v, hv, rfl⟩ := Option.map_eq_some_iff.mp hloads
  have hwithin := JsonText.loadsSpelled_within hv
  have htexts (text : String) : text ∈ c.texts ↔ ∃ units ∈ v.kept, JsonText.decode units = text := by
    rw [← kept_checkpoint hparse, Spelled.kept_value, List.mem_map]
  have hiff : ∀ units ∈ v.kept, (Redacted (JsonText.decode units) ↔
      hides redactionPatterns units = false) := fun units hunits =>
    redacted_iff (hwithin units hunits).2 (TextSearch.not_found_of_part hclean (hwithin units hunits).1)
  constructor
  · rintro hredacted ⟨_, _, v', heq, hv', units, hunits, hhides⟩
    cases heq
    cases hv.symm.trans hv'
    have hnone := (hiff units hunits).mp (hredacted _ ((htexts _).mpr ⟨units, hunits, rfl⟩))
    rw [hhides] at hnone
    cases hnone
  · intro hhides text htext
    obtain ⟨units, hunits, rfl⟩ := (htexts text).mp htext
    refine (hiff units hunits).mpr (Bool.eq_false_of_not_eq_true fun h => hhides ?_)
    exact ⟨size, content, v, rfl, hv, units, hunits, h⟩

end Checkpoint

/-! ## A version probe -/

namespace Sample

open Checkpoint

/-- The checkpoint of a version probe that printed one line. -/
def probeCheckpoint (line : String) : ExecutionCheckpoint where
  checkpointId := "CHK-0123456789ABCDEF"
  toolName := "git"
  commandDigest := "9EA7C739E571B5696295D25B1AA30B5B22B93E7249EB8095B75180D3BC384753"
  context := {
    planVersion := "1.0"
    specificationDigest := "9EA7C739E571B5696295D25B1AA30B5B22B93E7249EB8095B75180D3BC384753"
    gitHead := "4f2a9c1b7d3e8056a1c4f2e9b8d7036512ac9e4f"
    worktreeDigest := "E2885F2BBE3D7A8B08E328B9ABF1E0824BEBAD97625B300E24649A256C6C4847" }
  state := .completed
  attempts := 1
  lastFailure := .none
  stateChangeToken := none
  observation := some {
    toolName := "git"
    status := .available
    failureClass := .none
    detail := "The version probe ended."
    version := some "2.43.0"
    exitCode := some 0
    stdout := line
    stderr := ""
    stdoutTruncated := false
    stderrTruncated := false
    durationMs := some 12
    executionMode := "approved"
    approvalIds := ["APPROVAL-1"] }

/-- A probe that prints its own path on a system with drives. -/
def drivenLine : String := "C:\\Users\\alice\\git.exe"

def plainLine : String := "git version 2.43.0\n"

theorem probeCheckpoint_printed : ∀ line ∈ [drivenLine, plainLine],
    (printed (probeCheckpoint line).toDict).length ≤ maxCheckpointBytes ∧
      found redactionPatterns (printed (probeCheckpoint line).toDict) = false := by
  simp only [List.forall_mem_cons, drivenLine, plainLine, probeCheckpoint,
    ExecutionCheckpoint.toDict, ExecutionContext.toDict, ToolObservation.toDict, printed,
    Option.elim_some, Option.elim_none, optionalText, optionalNumber, textArray, List.map_cons,
    List.map_nil, JsonText.dumps, JsonText.dumpMembers, JsonText.dumpItems, JsonText.quote,
    Enumeration.value, redactionPatterns, secretPatterns, personalPathPatterns, literal, users]
  repeat rw [String.toList_ofList]
  refine ⟨?_, ?_, fun _ h => absurd h List.not_mem_nil⟩
  all_goals decide +kernel

theorem probeCheckpoint_parsed : ∀ line ∈ [drivenLine, plainLine],
    parseCheckpointObject (probeCheckpoint line).toDict = .ok (probeCheckpoint line) := by
  decide +kernel

/-- The checkpoints of the two lines are saved and loaded again. -/
theorem probeCheckpoint_saved {line : String} (hline : line ∈ [drivenLine, plainLine]) :
    ∃ files, save (.ok ()) ⟨none, none⟩ (probeCheckpoint line) = .ok files ∧
      load (.ok ()) files = .ok (probeCheckpoint line) := by
  obtain ⟨hbytes, hclean⟩ := probeCheckpoint_printed line hline
  have hparse := probeCheckpoint_parsed line hline
  obtain ⟨files, hsave⟩ : ∃ files, save (.ok ()) ⟨none, none⟩ (probeCheckpoint line) = .ok files :=
    ⟨_, save_eq_ok.mpr ⟨rfl, hbytes, hclean, hparse, by simp, rfl⟩⟩
  exact ⟨files, hsave, load_saved hsave⟩

end Sample

end Sdaqf
