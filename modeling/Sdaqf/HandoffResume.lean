import Sdaqf.HandoffPrompts
import Sdaqf.JsonSizes
import Sdaqf.LedgerStore

/-!
# Resuming from a handoff

What the creation of a handoff checks is enough to read the handoff back from what is written of it,
except for what only the loader asks: that the prompt and the document are short enough, that the
branch hides no secret and that the digests are digests. A session resumes under the identity the
handoff was created with and under no other.
-/

namespace Sdaqf.Handoff

open Guard Payload Evidence
open JsonText (Value)

variable {value : Value} {field text : String} {minimum maximum : Nat} {texts : List String}
  {root : Members} {handoff : AutomatedHandoff} {context : NextPromptContext}

/-! ## Readers -/

/-- The fields of an object may be listed in any order. -/
theorem onlyKeys_of_perm {members : Members} {expected : List String}
    (h : (members.map Prod.fst).Perm expected) : onlyKeys members expected field = .ok () := by
  have hsame : (members.map Prod.fst).toFinset = expected.toFinset := List.toFinset_eq_of_perm _ _ h
  simp only [onlyKeys, hsame, Finset.sdiff_self]
  rfl

/-- What a bounded text of several lines satisfies. -/
structure BoundedLines (maximum : Nat) (text : String) : Prop where
  written : Written text
  bounded : text.toList.length ≤ maximum
  holdable : Holdable text

@[simp] theorem multilineOf_eq_ok :
    multilineOf value field maximum = .ok text ↔
      value = .text text ∧ BoundedLines maximum text := by
  simp only [multilineOf, bind_eq_ok, pure_eq_ok, nonEmptyString_eq_ok, require_eq_ok, exists_unit]
  constructor
  · rintro ⟨_, ⟨rfl, hwritten⟩, hbounded, hreturn, hsecret, rfl⟩
    exact ⟨rfl, hwritten, hbounded, secretFree_iff.mpr hsecret, hreturn⟩
  · rintro ⟨rfl, h⟩
    exact ⟨_, ⟨rfl, h.written⟩, h.bounded, h.holdable.noReturn,
      secretFree_iff.mp h.holdable.secretFree, rfl⟩

/-- What a bounded unique array of path-free texts satisfies. -/
structure PathFreeTexts (minimum maximum : Nat) (texts : List String) : Prop where
  bounded : BoundedTexts minimum maximum texts
  pathFree : ∀ text ∈ texts, isPathFree text = true

theorem pathFree_of_pathFreeTupleOf (h : pathFreeTupleOf value field minimum maximum = .ok texts) :
    PathFreeTexts minimum maximum texts := by
  simp only [pathFreeTupleOf, bind_eq_ok, pure_eq_ok, arrayOf_eq_ok, require_eq_ok,
    exists_unit] at h
  obtain ⟨items, ⟨-, hbounded⟩, texts, htexts, henough, hunique, rfl⟩ := h
  have hall : ∀ text ∈ texts, BoundedText 500 text ∧ isPathFree text = true :=
    mapIndexed_forall (fun _ _ _ _ ha => (pathFreeOf_eq_ok.mp ha).2) htexts
  exact ⟨⟨length_of_mapIndexed htexts ▸ hbounded, henough, hunique,
    fun text htext => (hall text htext).1⟩, fun text htext => (hall text htext).2⟩

theorem pathFreeTupleOf_textArray (h : PathFreeTexts minimum maximum texts) :
    pathFreeTupleOf (textArray texts) field minimum maximum = .ok texts := by
  have htexts : mapIndexed field (fun value field => pathFreeOf value field 500)
      (texts.map .text) = .ok texts :=
    mapIndexed_map fun text hmem _ =>
      pathFreeOf_eq_ok.mpr ⟨rfl, h.bounded.texts text hmem, h.pathFree text hmem⟩
  simp [pathFreeTupleOf, textArray, htexts, h.bounded.bounded, h.bounded.enough, h.bounded.unique]

/-- A path that is safe under every field. -/
def SafePath (text : String) : Prop :=
  Written text ∧ ∀ field, safeRelativePath field text = .ok ()

theorem safePathOf_eq_ok : safePathOf value field = .ok text ↔ value = .text text ∧ SafePath text := by
  simp only [safePathOf, bind_eq_ok, pure_eq_ok, nonEmptyString_eq_ok, exists_unit, SafePath]
  constructor
  · rintro ⟨_, ⟨rfl, hwritten⟩, hsafe, rfl⟩
    exact ⟨rfl, hwritten, fun _ => safeRelativePath_field hsafe⟩
  · rintro ⟨rfl, hwritten, hsafe⟩
    exact ⟨_, ⟨rfl, hwritten⟩, hsafe field, rfl⟩

theorem safePaths_of_mapIndexed {out : List String}
    (h : mapIndexed field safePathOf (texts.map .text) = .ok out) :
    out = texts ∧ ∀ text ∈ texts, SafePath text := by
  have hall : ∀ text ∈ out, SafePath text :=
    mapIndexed_forall (fun _ _ _ _ ha => (safePathOf_eq_ok.mp ha).2) h
  have hsame : out = texts := by
    rw [mapIndexed, mapM_eq_ok, List.forall₂_iff_get] at h
    obtain ⟨hlength, h⟩ := h
    refine List.ext_getElem (by simpa using hlength.symm) fun i hi hi' => ?_
    have hone := h i (by simpa using hi') hi
    simp only [List.get_eq_getElem, List.getElem_zipIdx, List.getElem_map, safePathOf_eq_ok,
      Value.text.injEq] at hone
    exact hone.1.symm
  exact ⟨hsame, hsame ▸ hall⟩

/-! ## Lawful handoffs -/

/-- What the reader of a context asks. -/
structure LawfulContext (context : NextPromptContext) : Prop where
  references : BoundedTexts 1 64 context.references ∧ ∀ text ∈ context.references, SafePath text
  role : BoundedText 200 context.role ∧ isPathFree context.role = true
  changeScope : PathFreeTexts 1 64 context.changeScope
  exclusions : PathFreeTexts 1 64 context.exclusions
  completionCriteria : PathFreeTexts 1 64 context.completionCriteria
  stopConditions : PathFreeTexts 1 64 context.stopConditions

theorem lawful_of_parseContext (h : parseContext value = .ok context) : LawfulContext context := by
  simp only [parseContext, bind_eq_ok, pure_eq_ok, exists_unit, objectValue_eq_ok,
    pathFreeOf_eq_ok] at h
  obtain ⟨_, -, -, raw, hraw, _, hreferences, _, hrole, _, hscope, _, hexclusions, _, hcriteria, _,
    hstops, rfl⟩ := h
  obtain ⟨rfl, hsafe⟩ := safePaths_of_mapIndexed hreferences
  exact ⟨⟨bounded_of_stringTupleOf hraw, hsafe⟩, hrole.2, pathFree_of_pathFreeTupleOf hscope,
    pathFree_of_pathFreeTupleOf hexclusions, pathFree_of_pathFreeTupleOf hcriteria,
    pathFree_of_pathFreeTupleOf hstops⟩

theorem parseContext_toDict (h : LawfulContext context) :
    parseContext context.toDict = .ok context := by
  have hreferences : mapIndexed "next_prompt_context.references" safePathOf
      (context.references.map .text) = .ok context.references :=
    mapIndexed_map fun text hmem _ => safePathOf_eq_ok.mpr ⟨rfl, h.references.2 text hmem⟩
  simp [parseContext, NextPromptContext.toDict, onlyKeys_of_keys,
    stringTupleOf_textArray h.references.1, hreferences, h.role,
    pathFreeTupleOf_textArray h.changeScope, pathFreeTupleOf_textArray h.exclusions,
    pathFreeTupleOf_textArray h.completionCriteria, pathFreeTupleOf_textArray h.stopConditions]

/-- What the identity of a created handoff satisfies. -/
structure LawfulIdentity (identity : BoundIdentity) : Prop where
  branch : isBranch identity.branch = true
  head : isCommit identity.head = true
  worktree : identity.worktree = "clean" ∨ identity.worktree = "dirty"
  baselineId : isBaselineMark identity.baselineId = true

/-- What a created handoff satisfies. -/
structure LawfulHandoff (handoff : AutomatedHandoff) : Prop where
  milestone : BoundedText 20 handoff.milestone ∧ isMilestone handoff.milestone = true
  identity : LawfulIdentity handoff.identity
  evidenceIds : BoundedTexts 0 256 handoff.evidenceIds
  evidenceNames : ∀ item ∈ handoff.evidenceIds, isEvidenceMark item = true
  evidenceSorted : handoff.evidenceIds = handoff.evidenceIds.insertionSort (· ≤ ·)
  primaryFolder : handoff.primaryFolder = "repo/"
  context : LawfulContext handoff.nextPromptContext
  approvalStops : PathFreeTexts 1 64 handoff.approvalStops
  recommendedNext : BoundedText 500 handoff.recommendedNext ∧
    isPathFree handoff.recommendedNext = true
  completed : PathFreeTexts 0 256 handoff.completed
  incomplete : PathFreeTexts 0 256 handoff.incomplete
  openDecisions : PathFreeTexts 0 256 handoff.openDecisions
  knownProblems : PathFreeTexts 0 256 handoff.knownProblems
  disjoint : ∀ item ∈ handoff.completed, item ∉ handoff.incomplete
  finished : handoff.status = .completed → handoff.incomplete = [] ∧
    handoff.openDecisions = [] ∧ handoff.knownProblems = []
  nextPrompt : handoff.nextPrompt = renderPrompt handoff.milestone "repo" handoff.recommendedNext
    handoff.approvalStops handoff.nextPromptContext

/-- A parsed input gives a lawful handoff of the observed identity. -/
theorem lawful_of_parseHandoff {payload : Value} {identity : BoundIdentity}
    (h : parseHandoff payload false (some identity) = .ok handoff) :
    LawfulHandoff handoff ∧ handoff.identity = identity := by
  simp only [parseHandoff, bind_eq_ok, pure_eq_ok, require_eq_ok, exists_unit, stringOf_eq_ok,
    pathFreeOf_eq_ok, Bool.false_eq_true, if_false] at h
  obtain ⟨_, -, -, _, -, -, _, hmilestone, hmark, _, rfl, hbranch, hhead, hworktree, hbaseline, _,
    hevidence, hnames, hsorted, _, -, -, _, hcontext, _, happrovals, _, hnext, _, -, _, hcompleted,
    _, hincomplete, _, hdecisions, _, hproblems, hdisjoint, hfinished, rfl⟩ := h
  refine ⟨?_, rfl⟩
  exact {
    milestone := ⟨hmilestone.2, hmark⟩
    identity := ⟨hbranch, hhead, hworktree, hbaseline⟩
    evidenceIds := bounded_of_stringTupleOf hevidence
    evidenceNames := hnames
    evidenceSorted := hsorted
    primaryFolder := rfl
    context := lawful_of_parseContext hcontext
    approvalStops := pathFree_of_pathFreeTupleOf happrovals
    recommendedNext := hnext.2
    completed := pathFree_of_pathFreeTupleOf hcompleted
    incomplete := pathFree_of_pathFreeTupleOf hincomplete
    openDecisions := pathFree_of_pathFreeTupleOf hdecisions
    knownProblems := pathFree_of_pathFreeTupleOf hproblems
    disjoint := hdisjoint
    finished := hfinished
    nextPrompt := rfl }

/-! ## Reading a handoff back -/

theorem bounded_status (status : HandoffStatus) : BoundedText 100 (Enumeration.value status) := by
  cases status <;> decide

/-- What only the loader asks of an identity. -/
structure ReadableIdentity (identity : BoundIdentity) : Prop where
  branch : SecretFree identity.branch.toList
  source : isDigest identity.sourceSpecSha256.toList = true
  repository : isDigest identity.repositoryDigest.toList = true

theorem bounded_of_legible (h : Legible text.toList) (hlength : text.toList.length ≤ maximum) :
    BoundedText maximum text ↔ SecretFree text.toList :=
  ⟨fun hbounded => secretFree_iff.mpr hbounded.secretFree,
    fun hsecret => ⟨written_of_legible h, hlength, h.one_line, secretFree_iff.mp hsecret⟩⟩

theorem visible_of_isPathCharacter {c : Char} (h : isPathCharacter c = true) : Visible c := by
  simp only [isPathCharacter, Bool.or_eq_true, decide_eq_true_eq] at h
  rcases h with ((((((h | h) | h) | rfl) | rfl) | rfl) | rfl)
  · exact visible_of_isUpper h
  · exact visible_of_isLower h
  · exact visible_of_isDigit h
  all_goals decide

theorem bounded_branch (h : isBranch text = true) :
    BoundedText 200 text ↔ SecretFree text.toList := by
  have hfirst : ∀ c, (isUpper c || isLower c || isDigit c) = true → Visible c := by
    intro c hc
    refine visible_of_isPathCharacter ?_
    simp only [isPathCharacter, hc, Bool.true_or]
  obtain ⟨hne, hchars, hlength⟩ := isRun_chars hfirst (fun c => visible_of_isPathCharacter) h
  exact bounded_of_legible ⟨hne, hchars⟩ hlength

theorem bounded_commit (h : isCommit text = true) : BoundedText 40 text := by
  have hlegible : Legible text.toList := LegiblePattern.legible text h
  simp only [isCommit, Bool.and_eq_true, decide_eq_true_eq, List.all_eq_true] at h
  exact (bounded_of_legible hlegible h.1.le).mpr (secretFree_of_letters
    (not_mem_of_rule h.2 (by decide)) (not_mem_of_rule h.2 (by decide))
    (not_mem_of_rule h.2 (by decide)))

theorem bounded_digest (h : isDigest text.toList = true) : BoundedText 64 text := by
  obtain ⟨hlength, hrule⟩ := isDigest_iff.mp h
  have hlegible : Legible text.toList := ⟨List.ne_nil_of_length_pos (by omega),
    fun c hc => visible_of_isUpperHex (hrule c hc)⟩
  exact (bounded_of_legible hlegible hlength.le).mpr (secretFree_of_letters
    (not_mem_of_rule hrule (by decide)) (not_mem_of_rule hrule (by decide))
    (not_mem_of_rule hrule (by decide)))

theorem bounded_baseline (h : isBaselineMark text = true) : BoundedText 19 text := by
  rw [isBaselineMark, isDigestId, marked_iff] at h
  obtain ⟨rest, hrest, h⟩ := h
  simp only [Bool.and_eq_true, decide_eq_true_eq, List.all_eq_true] at h
  have hmark : "RB-".toList = ['R', 'B', '-'] := rfl
  rw [hmark] at hrest
  have hlegible : Legible text.toList := by
    refine ⟨by simp [hrest], fun c hc => ?_⟩
    rw [hrest] at hc
    simp only [List.cons_append, List.nil_append, List.mem_cons] at hc
    rcases hc with rfl | rfl | rfl | hc
    · decide
    · decide
    · decide
    · exact visible_of_isUpperHex (h.2 c hc)
  refine (bounded_of_legible hlegible (by simp [hrest, h.1])).mpr ?_
  have habsent : ∀ d, isUpperHex d = false → d ∉ ['R', 'B', '-'] → d ∉ text.toList := by
    intro d hd hnot
    rw [hrest, List.mem_append, not_or]
    exact ⟨hnot, not_mem_of_rule h.2 hd⟩
  exact secretFree_of_letters (habsent _ (by decide) (by decide))
    (habsent _ (by decide) (by decide)) (habsent _ (by decide) (by decide))

theorem statedIdentity_eq_ok {identity : BoundIdentity} (h : LawfulIdentity identity)
    (hgit : get root "git" = .object [("branch", .text identity.branch),
      ("head", .text identity.head), ("worktree", .text identity.worktree)])
    (hbaseline : get root "baseline_id" = .text identity.baselineId)
    (hsource : get root "source_spec_sha256" = .text identity.sourceSpecSha256)
    (hrepository : get root "repository_digest" = .text identity.repositoryDigest)
    (stated : BoundIdentity) :
    statedIdentity root = .ok stated ↔ stated = identity ∧ ReadableIdentity identity := by
  have hworktree : BoundedText 20 identity.worktree := by
    rcases h.worktree with hw | hw <;> rw [hw] <;> decide
  simp only [statedIdentity, hgit, hbaseline, hsource, hrepository, bind_eq_ok, pure_eq_ok,
    objectValue_eq_ok, stringOf_eq_ok, sha256Of_eq_ok, Value.object.injEq, Value.text.injEq,
    exists_unit]
  constructor
  · rintro ⟨_, rfl, -, _, ⟨hb, hbranch⟩, _, ⟨hh, -⟩, _, ⟨hw, -⟩, _, ⟨rfl, -⟩, _, ⟨rfl, -, hs⟩, _,
      ⟨rfl, -, hr⟩, rfl⟩
    simp only [get_cons, String.reduceEq, if_true, if_false, Value.text.injEq] at hb hh hw
    subst hb hh hw
    exact ⟨rfl, secretFree_iff.mpr hbranch.secretFree, hs, hr⟩
  · rintro ⟨rfl, hread⟩
    exact ⟨_, rfl, onlyKeys_of_keys rfl, _, ⟨rfl, (bounded_branch h.branch).mpr hread.branch⟩, _,
      ⟨rfl, bounded_commit h.head⟩, _, ⟨rfl, hworktree⟩, _, ⟨rfl, bounded_baseline h.baselineId⟩, _,
      ⟨rfl, bounded_digest hread.source, hread.source⟩, _,
      ⟨rfl, bounded_digest hread.repository, hread.repository⟩, rfl⟩

theorem holdable_context (h : LawfulContext context) : ∀ text ∈ context.texts, Holdable text := by
  have htuple : ∀ {minimum maximum texts}, PathFreeTexts minimum maximum texts →
      ∀ text ∈ texts, Holdable text :=
    fun htexts text htext => holdable_of_bounded (htexts.bounded.texts text htext)
  simp only [NextPromptContext.texts, List.forall_mem_append]
  exact ⟨⟨⟨⟨fun text htext => holdable_of_bounded (h.references.1.texts text htext),
    htuple h.changeScope⟩, htuple h.exclusions⟩, htuple h.completionCriteria⟩,
    htuple h.stopConditions⟩

/-- The prompt of a lawful handoff keeps every rule of its reader but the bound on its length. -/
theorem LawfulHandoff.boundedPrompt (h : LawfulHandoff handoff) :
    BoundedLines maximum handoff.nextPrompt ↔ promptSize handoff.milestone handoff.recommendedNext
      handoff.approvalStops handoff.nextPromptContext ≤ maximum := by
  have hholdable : HoldableInput handoff.milestone handoff.recommendedNext handoff.approvalStops
      handoff.nextPromptContext := {
    milestone := holdable_of_bounded h.milestone.1
    role := holdable_of_bounded h.context.role.1
    recommendedNext := holdable_of_bounded h.recommendedNext.1
    approvalStops := fun text htext =>
      holdable_of_bounded (h.approvalStops.bounded.texts text htext)
    context := holdable_context h.context }
  rw [← length_renderPrompt, ← h.nextPrompt]
  refine ⟨fun hbounded => hbounded.bounded, fun hlength => ⟨?_, hlength, ?_⟩⟩
  · rw [Written, List.all_eq_false]
    refine ⟨'R', ?_, by decide⟩
    obtain ⟨next, rest, hlines⟩ : ∃ next rest, promptLines handoff.milestone "repo"
        handoff.recommendedNext handoff.approvalStops handoff.nextPromptContext =
          ("Role: " ++ handoff.nextPromptContext.role) :: next :: rest := ⟨_, _, rfl⟩
    rw [h.nextPrompt, toList_renderPrompt, hlines, List.map_cons, List.map_cons,
      List.intercalate_cons_cons, String.toList_append]
    simp
  · rw [h.nextPrompt]
    exact hholdable.renderPrompt

/-- What is written of a lawful handoff is parsed back exactly if its identity and its prompt keep
what only this parser asks. -/
theorem parseHandoff_toDict (h : LawfulHandoff handoff) {loaded : AutomatedHandoff} :
    parseHandoff handoff.toDict true none = .ok loaded ↔
      loaded = handoff ∧ ReadableIdentity handoff.identity ∧ promptSize handoff.milestone
        handoff.recommendedNext handoff.approvalStops handoff.nextPromptContext ≤ 8000 := by
  obtain ⟨root, hroot, hkeys⟩ : ∃ root, handoff.toDict = .object root ∧
      (root.map Prod.fst).Perm (inputFields ++ generatedFields) :=
    ⟨_, rfl, by simp only [List.map_cons, List.map_nil]; decide⟩
  have hkeys : onlyKeys root (inputFields ++ generatedFields) "handoff" = .ok () :=
    onlyKeys_of_perm hkeys
  have hidentity := @statedIdentity_eq_ok root _ h.identity
  obtain rfl : _ = root := Value.object.inj hroot
  replace hidentity := hidentity rfl rfl rfl rfl
  have hversion : BoundedText 10 "1.0" := by decide
  have hfolder : BoundedText 10 handoff.primaryFolder ∧
      (handoff.primaryFolder = "repo" ∨ handoff.primaryFolder = "repo/") := by
    rw [h.primaryFolder]
    exact ⟨by decide, .inr rfl⟩
  have hrule := h.identity
  rw [← h.boundedPrompt, hroot]
  simp [parseHandoff, hkeys, hversion, hfolder, h.milestone, hidentity, hrule.branch, hrule.head,
    hrule.worktree, hrule.baselineId, stringTupleOf_textArray h.evidenceIds,
    parseContext_toDict h.context, pathFreeTupleOf_textArray h.approvalStops, h.recommendedNext,
    enumOf_value (bounded_status _), pathFreeTupleOf_textArray h.completed,
    pathFreeTupleOf_textArray h.incomplete, pathFreeTupleOf_textArray h.openDecisions,
    pathFreeTupleOf_textArray h.knownProblems, ← h.nextPrompt]
  rw [← h.primaryFolder]
  constructor
  · rintro ⟨hread, -, -, -, -, hprompt, rfl⟩
    exact ⟨rfl, hread, hprompt⟩
  · rintro ⟨rfl, hread, hprompt⟩
    exact ⟨hread, h.evidenceNames, h.evidenceSorted, h.disjoint, h.finished, hprompt, rfl⟩

/-! ## Files -/

theorem strict_context (context : NextPromptContext) : JsonText.Strict context.toDict := by
  rw [NextPromptContext.toDict, JsonText.strict_object]
  refine ⟨by simp, ?_⟩
  simp only [List.forall_mem_cons, Evidence.strict_textArray, JsonText.strict_text, true_and]
  exact List.forall_mem_nil _

theorem shallow_context (context : NextPromptContext) : JsonText.Shallow 2 context.toDict := by
  rw [NextPromptContext.toDict, JsonText.shallow_object]
  simp only [List.forall_mem_cons, Evidence.shallow_textArray, JsonText.shallow_text, true_and]
  exact List.forall_mem_nil _

theorem strict_handoff (handoff : AutomatedHandoff) : JsonText.Strict handoff.toDict := by
  have hgit : JsonText.Strict (.object [("branch", .text handoff.branch),
      ("head", .text handoff.head), ("worktree", .text handoff.worktree)]) := by
    rw [JsonText.strict_object]
    refine ⟨by simp, ?_⟩
    simp only [List.forall_mem_cons, JsonText.strict_text, true_and]
    exact List.forall_mem_nil _
  rw [AutomatedHandoff.toDict, JsonText.strict_object]
  refine ⟨by simp, ?_⟩
  simp only [List.forall_mem_cons, hgit, strict_context, Evidence.strict_textArray,
    JsonText.strict_text, true_and]
  exact List.forall_mem_nil _

theorem shallow_handoff (handoff : AutomatedHandoff) : JsonText.Shallow 64 handoff.toDict := by
  have hgit : JsonText.Shallow 63 (.object [("branch", .text handoff.branch),
      ("head", .text handoff.head), ("worktree", .text handoff.worktree)]) := by
    rw [JsonText.shallow_object]
    simp only [List.forall_mem_cons, JsonText.shallow_text, true_and]
    exact List.forall_mem_nil _
  have hcontext : JsonText.Shallow 63 handoff.nextPromptContext.toDict :=
    fun w hw => (shallow_context _ w hw).trans (by decide)
  rw [AutomatedHandoff.toDict, JsonText.shallow_object]
  simp only [List.forall_mem_cons, hgit, hcontext, Evidence.shallow_textArray,
    JsonText.shallow_text, true_and]
  exact List.forall_mem_nil _

theorem count_textArray (texts : List String) :
    JsonText.count (textArray texts) = texts.length + 1 := by
  simp [textArray, Function.comp_def]

theorem count_context (context : NextPromptContext) :
    JsonText.count context.toDict = context.texts.length + 7 := by
  simp only [NextPromptContext.toDict, NextPromptContext.texts, JsonText.count_object,
    List.map_cons, List.map_nil, List.sum_cons, List.sum_nil, count_textArray,
    JsonText.count_text, List.length_append]
  omega

/-- The bounds on the texts of a handoff are far below the bound on its values. -/
theorem LawfulHandoff.nodes (h : LawfulHandoff handoff) :
    (JsonText.within 0 handoff.toDict).length ≤ 10000 := by
  have hcontext : handoff.nextPromptContext.texts.length ≤ 320 := by
    have h₁ := h.context.references.1.bounded
    have h₂ := h.context.changeScope.bounded.bounded
    have h₃ := h.context.exclusions.bounded.bounded
    have h₄ := h.context.completionCriteria.bounded.bounded
    have h₅ := h.context.stopConditions.bounded.bounded
    simp only [NextPromptContext.texts, List.length_append]
    omega
  have h₁ := h.approvalStops.bounded.bounded
  have h₂ := h.completed.bounded.bounded
  have h₃ := h.evidenceIds.bounded
  have h₄ := h.incomplete.bounded.bounded
  have h₅ := h.knownProblems.bounded.bounded
  have h₆ := h.openDecisions.bounded.bounded
  rw [JsonText.length_within]
  simp only [AutomatedHandoff.toDict, JsonText.count_object, List.map_cons, List.map_nil,
    List.sum_cons, List.sum_nil, count_textArray, count_context, JsonText.count_text]
  omega

/-- What only the loader asks of a created handoff. -/
structure Loadable (handoff : AutomatedHandoff) : Prop where
  identity : ReadableIdentity handoff.identity
  prompt : promptSize handoff.milestone handoff.recommendedNext handoff.approvalStops
    handoff.nextPromptContext ≤ 8000
  bytes : (printed handoff.toDict).length ≤ 256 * 1024

theorem load_printed (h : LawfulHandoff handoff) {loaded : AutomatedHandoff} :
    loadAutomatedHandoff (printed handoff.toDict) = .ok loaded ↔
      loaded = handoff ∧ Loadable handoff := by
  have hparse := @parseHandoff_toDict _ h loaded
  have hprinted : parseJsonBytes (printed handoff.toDict) "Automated handoff" (256 * 1024) =
      .ok handoff.toDict ↔ (printed handoff.toDict).length ≤ 256 * 1024 :=
    (parseJsonBytes_printed (strict_handoff handoff) (shallow_handoff handoff)).trans
      ⟨fun hfits => hfits.bytes, fun hbytes => ⟨hbytes, h.nodes⟩⟩
  obtain ⟨root, hroot⟩ : ∃ root, handoff.toDict = .object root := ⟨_, rfl⟩
  rw [loadAutomatedHandoff]
  simp only [bind_eq_ok, objectValue_eq_ok]
  constructor
  · rintro ⟨value, hvalue, members, rfl, h⟩
    have hloads := (parseJsonBytes_eq_ok.mp hvalue).2.1
    rw [loads_printed, Option.some.injEq] at hloads
    rw [← hloads] at hvalue h
    obtain ⟨rfl, hread, hprompt⟩ := hparse.mp h
    exact ⟨rfl, hread, hprompt, hprinted.mp hvalue⟩
  · rintro ⟨hsame, hread, hprompt, hbytes⟩
    exact ⟨handoff.toDict, hprinted.mpr hbytes, root, hroot,
      hroot ▸ hparse.mpr ⟨hsame, hread, hprompt⟩⟩

/-! ## Resuming -/

/-- The identity that is observed of the current local state. -/
structure Observation where
  baselineId : String
  candidate : CandidateIdentity
  git : GitObservation
  ledger : Evidence.EvidenceLedger

def Observation.identity (o : Observation) : BoundIdentity :=
  observedIdentity o.baselineId o.candidate o.git

/-- The parts of an observation agree. -/
def Observation.Consistent (o : Observation) : Prop :=
  validateObservedIdentity o.baselineId o.candidate o.git o.ledger = .ok ()

/-- The evidence of a handoff is in the ledger. -/
def EvidencePresent (handoff : AutomatedHandoff) (ledger : Evidence.EvidenceLedger) : Prop :=
  ∀ id ∈ handoff.evidenceIds, id ∈ ledger.evidence.map (·.evidenceId)

theorem validateHandoffResume_eq_ok (o : Observation) :
    validateHandoffResume handoff o.baselineId o.candidate o.git o.ledger = .ok () ↔
      o.Consistent ∧ handoff.identity = o.identity ∧ EvidencePresent handoff o.ledger := by
  simp only [validateHandoffResume, bind_eq_ok, exists_unit, require_eq_ok, Observation.Consistent,
    Observation.identity, observedIdentity, AutomatedHandoff.identity, BoundIdentity.mk.injEq,
    EvidencePresent, and_assoc]

theorem lawful_of_create {content : List Char} {o : Observation}
    (h : create content o.baselineId o.candidate o.git o.ledger = .ok handoff) :
    LawfulHandoff handoff ∧ o.Consistent ∧ handoff.identity = o.identity ∧
      EvidencePresent handoff o.ledger := by
  simp only [create, bind_eq_ok, pure_eq_ok, require_eq_ok, exists_unit] at h
  obtain ⟨hconsistent, _, -, _, -, _, hparse, hevidence, rfl⟩ := h
  obtain ⟨hlawful, hidentity⟩ := lawful_of_parseHandoff hparse
  exact ⟨hlawful, hconsistent, hidentity, hevidence⟩

/-- A created handoff is read back, as it was created, exactly if it is loadable, and a session
resumes from it exactly where the observation agrees in itself, is of the identity the handoff was
created under and has the evidence of the handoff. -/
theorem created_handoff_resumes {content : List Char} {o : Observation}
    (h : create content o.baselineId o.candidate o.git o.ledger = .ok handoff) :
    (∀ loaded, loadAutomatedHandoff (printed handoff.toDict) = .ok loaded ↔
      loaded = handoff ∧ Loadable handoff) ∧
    validateHandoffResume handoff o.baselineId o.candidate o.git o.ledger = .ok () ∧
    ∀ o' : Observation,
      validateHandoffResume handoff o'.baselineId o'.candidate o'.git o'.ledger = .ok () ↔
        o'.Consistent ∧ o'.identity = o.identity ∧ EvidencePresent handoff o'.ledger := by
  obtain ⟨hlawful, hconsistent, hidentity, hevidence⟩ := lawful_of_create h
  refine ⟨fun loaded => load_printed hlawful, ?_, fun o' => ?_⟩
  · rw [validateHandoffResume_eq_ok]
    exact ⟨hconsistent, hidentity, hevidence⟩
  · rw [validateHandoffResume_eq_ok, hidentity, eq_comm (a := o.identity)]

/-! ### A handoff of the plain ledger -/

def plainObservation : Observation where
  baselineId := "RB-0000000000000000"
  candidate := plainCandidate
  git := {
    rootMatches := true
    branch := "main"
    head := plainCandidate.gitHead
    clean := true
    repositoryDigest := plainCandidate.repositoryDigest }
  ledger := plainLedger

def plainContext : NextPromptContext where
  role := "Maintainer"
  references := ["README.md"]
  changeScope := ["docs"]
  exclusions := ["code"]
  completionCriteria := ["reviewed"]
  stopConditions := ["unclear"]

def plainHandoff : AutomatedHandoff where
  milestone := "M1"
  status := .ready
  branch := "main"
  head := plainCandidate.gitHead
  worktree := "clean"
  baselineId := "RB-0000000000000000"
  sourceSpecSha256 := plainCandidate.sourceSpecSha256
  repositoryDigest := plainCandidate.repositoryDigest
  completed := []
  incomplete := ["M1"]
  evidenceIds := ["EV-1"]
  openDecisions := []
  knownProblems := []
  recommendedNext := "Review"
  primaryFolder := "repo/"
  approvalStops := ["push"]
  nextPromptContext := plainContext
  nextPrompt := renderPrompt "M1" "repo" "Review" ["push"] plainContext

/-- The input that the plain handoff is created from. -/
def plainInput : Value := .object [
  ("approval_stops", textArray ["push"]),
  ("completed", textArray []),
  ("evidence_ids", textArray ["EV-1"]),
  ("incomplete", textArray ["M1"]),
  ("known_problems", textArray []),
  ("milestone", .text "M1"),
  ("next_prompt_context", plainContext.toDict),
  ("open_decisions", textArray []),
  ("primary_folder", .text "repo"),
  ("recommended_next", .text "Review"),
  ("schema_version", .text "1.0"),
  ("status", .text "ready")]

/-- A handoff without its prompt. -/
def AutomatedHandoff.unprompted (r : AutomatedHandoff) : AutomatedHandoff :=
  { r with nextPrompt := "" }

theorem length_printed (handoff : AutomatedHandoff) :
    (printed handoff.toDict).length + 2 =
      (printed handoff.unprompted.toDict).length + (JsonText.quote handoff.nextPrompt).length := by
  have hempty : (JsonText.quote "").length = 2 := rfl
  simp only [printed, AutomatedHandoff.toDict, AutomatedHandoff.unprompted, List.length_append,
    JsonText.length_dumps_object, ne_eq, reduceCtorEq, not_false_eq_true, List.map_cons,
    List.map_nil, List.sum_cons, List.sum_nil, JsonText.memberSize, JsonText.length_dumps_text,
    hempty]
  omega

theorem plainHandoff_size : promptSize "M1" "Review" ["push"] plainContext = 764 := by
  decide

/-- What the loader computes of the plain input. -/
theorem plainInput_parsed : Fits (256 * 1024) plainInput ∧
    parseHandoff plainInput false (some plainObservation.identity) = .ok plainHandoff ∧
    (printed plainHandoff.unprompted.toDict).length ≤ 4000 := by
  refine ⟨⟨?_, ?_⟩, ?_, ?_⟩
  all_goals decide +kernel

theorem loadable_plainHandoff : Loadable plainHandoff where
  identity := {
    branch := secretFree_iff.mpr (by decide)
    source := by decide
    repository := by decide }
  prompt := plainHandoff_size.trans_le (by decide)
  bytes := by
    have hprompt : plainHandoff.nextPrompt.toList.length = 764 := by
      rw [plainHandoff, length_renderPrompt, plainHandoff_size]
    have hquote := JsonText.length_quote_le plainHandoff.nextPrompt
    have hrest := plainInput_parsed.2.2
    have hlength := length_printed plainHandoff
    omega

theorem plainInput_read : parseJsonBytes (printed plainInput) "Handoff input" (256 * 1024) =
    .ok plainInput := by
  refine (parseJsonBytes_printed ?_ ?_).mpr plainInput_parsed.1
  · rw [plainInput, JsonText.strict_object]
    refine ⟨by simp, ?_⟩
    simp only [List.forall_mem_cons, strict_context, Evidence.strict_textArray,
      JsonText.strict_text, true_and]
    exact List.forall_mem_nil _
  · have hcontext : JsonText.Shallow 63 plainContext.toDict :=
      fun w hw => (shallow_context _ w hw).trans (by decide)
    rw [plainInput, JsonText.shallow_object]
    simp only [List.forall_mem_cons, hcontext, Evidence.shallow_textArray,
      JsonText.shallow_text, true_and]
    exact List.forall_mem_nil _

theorem plain_handoff_resumes :
    loadAutomatedHandoff (printed plainHandoff.toDict) = .ok plainHandoff ∧
      validateHandoffResume plainHandoff plainObservation.baselineId plainObservation.candidate
        plainObservation.git plainObservation.ledger = .ok () := by
  have hcreate : create (printed plainInput) plainObservation.baselineId plainObservation.candidate
      plainObservation.git plainObservation.ledger = .ok plainHandoff := by
    simp only [create, plainInput_read, bind_eq_ok, pure_eq_ok, require_eq_ok, exists_unit,
      objectValue_eq_ok]
    exact ⟨by decide, _, rfl, _, rfl, _, plainInput_parsed.2.1, by decide, rfl⟩
  have h := created_handoff_resumes hcreate
  exact ⟨(h.1 plainHandoff).mpr ⟨rfl, loadable_plainHandoff⟩, h.2.1⟩

end Sdaqf.Handoff
