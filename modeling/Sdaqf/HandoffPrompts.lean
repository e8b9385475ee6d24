import Sdaqf.AcceptedTexts
import Sdaqf.Handoffs

/-!
# The prompt of a handoff

The length of a rendered prompt is a sum over the texts of its input. A prompt hides no secret, as a
secret never spans two lines and no line adds to a text what could begin one.
-/

namespace Sdaqf.Handoff

open Guard Payload

variable {cs ds : List Char}

/-! ## Secrets over lines -/

theorem startsSecret_head {c : Char} (h : startsSecret (c :: cs) = true) :
    c = 'A' ∨ c = 'g' ∨ c = '-' := by
  unfold startsSecret at h
  simp only [Bool.or_eq_true] at h
  rcases h with (h | h) | h
  · simp only [Bool.and_eq_true] at h
    obtain ⟨rest, hrest⟩ := List.isPrefixOf_iff_prefix.mp h.1
    exact .inl (List.cons.inj hrest).1.symm
  · split at h
    · next heq => exact .inr (.inl (List.cons.inj heq).1)
    · cases h
  · rw [List.any_eq_true] at h
    obtain ⟨kind, hkind, h⟩ := h
    obtain ⟨rest, hrest⟩ := List.isPrefixOf_iff_prefix.mp h
    refine .inr (.inr ?_)
    rw [String.toList_append, String.toList_append, List.append_assoc, List.append_assoc] at hrest
    exact (List.cons.inj hrest).1.symm

/-- Every secret has one of three letters. -/
theorem startsSecret_letter (h : startsSecret cs = true) : 'K' ∈ cs ∨ 'g' ∈ cs ∨ 'G' ∈ cs := by
  unfold startsSecret at h
  simp only [Bool.or_eq_true] at h
  rcases h with (h | h) | h
  · simp only [Bool.and_eq_true] at h
    exact .inl ((List.isPrefixOf_iff_prefix.mp h.1).subset (by decide))
  · split at h
    · exact .inr (.inl List.mem_cons_self)
    · cases h
  · rw [List.any_eq_true] at h
    obtain ⟨kind, -, h⟩ := h
    refine .inr (.inr ((List.isPrefixOf_iff_prefix.mp h).subset ?_))
    simp only [String.toList_append, List.mem_append]
    exact .inl (.inl (by decide))

theorem secretFree_of_letters (hkey : 'K' ∉ cs) (htoken : 'g' ∉ cs) (hbegin : 'G' ∉ cs) :
    SecretFree cs := by
  intro tail ht
  rw [Bool.eq_false_iff]
  intro hsecret
  rcases startsSecret_letter hsecret with hc | hc | hc
  · exact hkey (ht.subset hc)
  · exact htoken (ht.subset hc)
  · exact hbegin (ht.subset hc)

theorem secretFree_cons {c : Char} :
    SecretFree (c :: cs) ↔ startsSecret (c :: cs) = false ∧ SecretFree cs := by
  simp [SecretFree, List.suffix_cons_iff, or_imp, forall_and]

theorem isPrefixOf_append_line {p : List Char} (hp : '\n' ∉ p) :
    p.isPrefixOf (cs ++ '\n' :: ds) = p.isPrefixOf cs := by
  induction p generalizing cs with
  | nil => simp
  | cons a p ih =>
    rw [List.mem_cons, not_or] at hp
    cases cs with
    | nil => simp [List.isPrefixOf, Ne.symm hp.1]
    | cons c cs => simp [List.isPrefixOf, ih hp.2]

theorem takeWhile_append_line {p : Char → Bool} (hp : p '\n' = false) :
    (cs ++ '\n' :: ds).takeWhile p = cs.takeWhile p := by
  induction cs with
  | nil => simp [hp]
  | cons c cs ih => simp [List.takeWhile_cons, ih]

/-- What follows the end of a line begins no secret in it. -/
theorem startsSecret_append_line (h : startsSecret (cs ++ '\n' :: ds) = true) :
    startsSecret cs = true := by
  have hkey : (isUpper '\n' || isDigit '\n') = false := by decide
  have htoken : (isUpper '\n' || isLower '\n' || isDigit '\n') = false := by decide
  have hkinds : ∀ kind ∈ ["", "RSA ", "EC ", "OPENSSH "],
      '\n' ∉ ("-----BEGIN " ++ kind ++ "PRIVATE KEY-----").toList := by decide
  unfold startsSecret at h ⊢
  simp only [Bool.or_eq_true] at h ⊢
  rcases h with (h | h) | h
  · refine .inl (.inl ?_)
    rw [isPrefixOf_append_line (by decide)] at h
    simp only [Bool.and_eq_true] at h ⊢
    obtain ⟨rest, rfl⟩ := List.isPrefixOf_iff_prefix.mp h.1
    refine ⟨h.1, ?_⟩
    have hdrop : ∀ l : List Char, ("AKIA".toList ++ rest ++ l).drop 4 = rest ++ l := fun _ => rfl
    have hrest := h.2
    rw [hdrop, takeWhile_append_line hkey] at hrest
    exact hrest
  · refine .inl (.inr ?_)
    split at h
    · next kind rest heq =>
      -- The mark of a token lies before the end of the line.
      rcases cs with _ | ⟨a, _ | ⟨b, _ | ⟨c, _ | ⟨d, cs⟩⟩⟩⟩
      · simp at heq
      · simp at heq
      · simp only [List.cons_append, List.nil_append, List.cons.injEq] at heq
        obtain ⟨-, -, rfl, -⟩ := heq
        simp at h
      · simp at heq
      · simp only [List.cons_append, List.cons.injEq] at heq
        obtain ⟨rfl, rfl, rfl, rfl, rfl⟩ := heq
        rwa [takeWhile_append_line htoken] at h
    · cases h
  · refine .inr ?_
    rw [List.any_eq_true] at h ⊢
    obtain ⟨kind, hkind, h⟩ := h
    exact ⟨kind, hkind, by rwa [isPrefixOf_append_line (hkinds kind hkind)] at h⟩

theorem secretFree_append_line (hcs : SecretFree cs) (hds : SecretFree ds) :
    SecretFree (cs ++ '\n' :: ds) := by
  have hline : startsSecret ('\n' :: ds) = false := by
    rw [Bool.eq_false_iff]
    intro h
    have := startsSecret_head h
    revert this
    decide
  induction cs with
  | nil => exact secretFree_cons.mpr ⟨hline, hds⟩
  | cons c cs ih =>
    obtain ⟨hc, hcs⟩ := secretFree_cons.mp hcs
    refine secretFree_cons.mpr ⟨?_, ih hcs⟩
    rw [Bool.eq_false_iff]
    intro h
    have hsecret : startsSecret (c :: cs) = true := startsSecret_append_line h
    rw [hsecret] at hc
    cases hc

/-- Joined lines hide what one of them hides. -/
theorem secretFree_intercalate {lines : List (List Char)} (h : ∀ line ∈ lines, SecretFree line) :
    SecretFree (['\n'].intercalate lines) := by
  induction lines with
  | nil =>
    intro tail ht
    rw [List.suffix_nil.mp ht]
    decide
  | cons line lines ih =>
    obtain ⟨hline, hlines⟩ := List.forall_mem_cons.mp h
    rcases lines with _ | ⟨next, lines⟩
    · rwa [List.intercalate_singleton]
    · rw [List.intercalate_cons_cons, List.append_assoc]
      exact secretFree_append_line hline (ih hlines)

/-- A mark in front of a text begins no secret. -/
theorem secretFree_mark {mark : List Char}
    (hmark : (mark.all fun c => c ≠ 'A' && c ≠ 'g' && c ≠ '-') = true) (h : SecretFree cs) :
    SecretFree (mark ++ cs) := by
  induction mark with
  | nil => exact h
  | cons c mark ih =>
    rw [List.all_cons, Bool.and_eq_true] at hmark
    refine secretFree_cons.mpr ⟨?_, ih hmark.2⟩
    rw [Bool.eq_false_iff]
    intro hsecret
    have hc := hmark.1
    rcases startsSecret_head hsecret with rfl | rfl | rfl <;> revert hc <;> decide

/-- The first letters of every secret. -/
def startsMark : List Char → Bool
  | 'A' :: 'K' :: _ => true
  | 'g' :: 'h' :: _ => true
  | '-' :: '-' :: '-' :: _ => true
  | _ => false

theorem startsMark_of_startsSecret (h : startsSecret cs = true) : startsMark cs = true := by
  unfold startsSecret at h
  simp only [Bool.or_eq_true] at h
  rcases h with (h | h) | h
  · simp only [Bool.and_eq_true] at h
    obtain ⟨rest, rfl⟩ := List.isPrefixOf_iff_prefix.mp h.1
    rfl
  · split at h
    · rfl
    · cases h
  · rw [List.any_eq_true] at h
    obtain ⟨kind, -, h⟩ := h
    obtain ⟨rest, rfl⟩ := List.isPrefixOf_iff_prefix.mp h
    rw [String.toList_append, String.toList_append, List.append_assoc, List.append_assoc]
    rfl

theorem secretFree_of_marks (h : cs.tails.any startsMark = false) : SecretFree cs := by
  intro tail ht
  rw [Bool.eq_false_iff]
  intro hsecret
  rw [List.any_eq_false] at h
  exact h tail ((List.mem_tails _ _).mpr ht) (startsMark_of_startsSecret hsecret)

theorem secretFree_item (h : SecretFree cs) : SecretFree ('-' :: ' ' :: cs) := by
  have hblank : SecretFree (' ' :: cs) := by
    have hmark : ([' '].all fun c => c ≠ 'A' && c ≠ 'g' && c ≠ '-') = true := by decide
    exact secretFree_mark hmark h
  refine secretFree_cons.mpr ⟨?_, hblank⟩
  simp [startsSecret, List.isPrefixOf]

/-! ## Lines -/

/-- A text that a prompt may hold: without a secret and without a character that ends a line. -/
structure Holdable (text : String) : Prop where
  secretFree : SecretFree text.toList
  noReturn : (text.toList.all fun c => c ≠ '\x00' && c ≠ '\r') = true

/-- A text of the source is checked on its characters. -/
theorem holdable_ofList (hmarks : cs.tails.any startsMark = false)
    (hreturn : (cs.all fun c => c ≠ '\x00' && c ≠ '\r') = true) : Holdable (String.ofList cs) := by
  refine ⟨?_, ?_⟩
  · rw [String.toList_ofList]
    exact secretFree_of_marks hmarks
  · rwa [String.toList_ofList]

theorem holdable_append (hmarks : (cs ++ ds).tails.any startsMark = false)
    (hreturn : ((cs ++ ds).all fun c => c ≠ '\x00' && c ≠ '\r') = true) :
    Holdable (String.ofList cs ++ String.ofList ds) := by
  rw [← String.ofList_append]
  exact holdable_ofList hmarks hreturn

variable {text : String} {maximum : Nat} {values : List String}

theorem holdable_of_bounded (h : BoundedText maximum text) : Holdable text := by
  refine ⟨secretFree_iff.mpr h.secretFree, ?_⟩
  have hline := h.oneLine
  rw [List.all_eq_true] at hline ⊢
  intro c hc
  have := hline c hc
  simp only [Bool.and_eq_true, decide_eq_true_eq] at this ⊢
  exact this.1

theorem Holdable.mark {mark : String} (h : Holdable text)
    (hmark : (mark.toList.all fun c => c ≠ 'A' && c ≠ 'g' && c ≠ '-' && c ≠ '\x00' && c ≠ '\r') =
      true) : Holdable (mark ++ text) := by
  rw [List.all_eq_true] at hmark
  simp only [Bool.and_eq_true, decide_eq_true_eq] at hmark
  refine ⟨?_, ?_⟩
  · rw [String.toList_append]
    refine secretFree_mark ?_ h.secretFree
    simpa only [List.all_eq_true, Bool.and_eq_true, decide_eq_true_eq] using
      fun c hc => (hmark c hc).1.1
  · rw [String.toList_append, List.all_append, h.noReturn, Bool.and_true, List.all_eq_true]
    intro c hc
    simp only [Bool.and_eq_true, decide_eq_true_eq]
    exact ⟨(hmark c hc).1.2, (hmark c hc).2⟩

theorem Holdable.item (h : Holdable text) : Holdable ("- " ++ text) := by
  refine ⟨?_, ?_⟩
  · rw [String.toList_append]
    exact secretFree_item h.secretFree
  · rw [String.toList_append, List.all_append, h.noReturn, Bool.and_true]
    decide

theorem holdable_sectionLines {title : String} (htitle : Holdable (title ++ ":"))
    (h : ∀ value ∈ values, Holdable value) : ∀ line ∈ sectionLines title values, Holdable line := by
  rw [sectionLines, List.forall_mem_cons, List.forall_mem_map]
  exact ⟨htitle, fun value hvalue => (h value hvalue).item⟩

theorem holdable_safetyInvariants : ∀ line ∈ safetyInvariants, Holdable line := by
  simp only [safetyInvariants, List.forall_mem_cons, -String.reduceAppend]
  exact ⟨holdable_ofList (by decide) (by decide),
    holdable_ofList (by decide) (by decide),
    holdable_append (by decide) (by decide),
    holdable_append (by decide) (by decide),
    holdable_append (by decide) (by decide),
    holdable_ofList (by decide) (by decide), List.forall_mem_nil _⟩

/-- The texts of a context. -/
def NextPromptContext.texts (context : NextPromptContext) : List String :=
  context.references ++ context.changeScope ++ context.exclusions ++ context.completionCriteria ++
    context.stopConditions

variable {milestone recommendedNext : String} {approvalStops : List String}
  {context : NextPromptContext}

/-- The texts that a prompt is rendered from can be held. -/
structure HoldableInput (milestone recommendedNext : String) (approvalStops : List String)
    (context : NextPromptContext) : Prop where
  milestone : Holdable milestone
  role : Holdable context.role
  recommendedNext : Holdable recommendedNext
  approvalStops : ∀ value ∈ approvalStops, Holdable value
  context : ∀ value ∈ context.texts, Holdable value

theorem HoldableInput.promptLines (h : HoldableInput milestone recommendedNext approvalStops context) :
    ∀ line ∈ promptLines milestone "repo" recommendedNext approvalStops context,
      Holdable line := by
  have hcontext := h.context
  simp only [NextPromptContext.texts, List.forall_mem_append] at hcontext
  obtain ⟨⟨⟨⟨hreferences, hscope⟩, hexclusions⟩, hcriteria⟩, hstops⟩ := hcontext
  have hfolder : Holdable ("Primary folder: " ++ "repo" ++ "/") :=
    @holdable_append "Primary folder: repo".toList ['/'] (by decide) (by decide)
  simp only [Handoff.promptLines, List.forall_mem_append, List.forall_mem_cons]
  exact ⟨⟨⟨h.role.mark (by decide), h.milestone.mark (by decide), hfolder, by simp⟩,
    ⟨⟨⟨⟨⟨holdable_sectionLines (holdable_append (by decide) (by decide)) hreferences,
      holdable_sectionLines (holdable_append (by decide) (by decide)) hscope⟩,
      holdable_sectionLines (holdable_append (by decide) (by decide)) hexclusions⟩,
      holdable_sectionLines (holdable_append (by decide) (by decide)) hcriteria⟩,
      holdable_sectionLines (holdable_append (by decide) (by decide)) hstops⟩,
      holdable_sectionLines (holdable_append (by decide) (by decide)) h.approvalStops⟩⟩,
    h.recommendedNext.mark (by decide), holdable_safetyInvariants⟩

theorem toList_renderPrompt : (renderPrompt milestone "repo" recommendedNext approvalStops
    context).toList = ['\n'].intercalate ((promptLines milestone "repo" recommendedNext approvalStops
      context).map String.toList) := by
  simp [renderPrompt, String.toList_intercalate]

/-- A rendered prompt can be held: it hides no secret and returns no carriage. -/
theorem HoldableInput.renderPrompt
    (h : HoldableInput milestone recommendedNext approvalStops context) :
    Holdable (renderPrompt milestone "repo" recommendedNext approvalStops context) := by
  refine ⟨?_, ?_⟩
  · rw [toList_renderPrompt]
    refine secretFree_intercalate ?_
    rw [List.forall_mem_map]
    exact fun line hline => (h.promptLines line hline).secretFree
  · rw [toList_renderPrompt, List.all_eq_true]
    refine forall_mem_intercalate (by decide) ?_
    rw [List.forall_mem_map]
    exact fun line hline => List.all_eq_true.mp (h.promptLines line hline).noReturn

/-! ## The length of a prompt -/

/-- The characters of some items, each with its mark and the end of its line. -/
def itemsSize (values : List String) : Nat := (values.map fun value => value.toList.length + 3).sum

/-- The characters of a rendered prompt. -/
def promptSize (milestone recommendedNext : String) (approvalStops : List String)
    (context : NextPromptContext) : Nat :=
  692 + milestone.toList.length + context.role.toList.length + recommendedNext.toList.length +
    itemsSize context.texts + itemsSize approvalStops

theorem itemsSize_append (values values' : List String) :
    itemsSize (values ++ values') = itemsSize values + itemsSize values' := by
  simp [itemsSize]

theorem length_sectionLines (title : String) (values : List String) :
    ((sectionLines title values).map fun line => line.toList.length + 1).sum =
      title.toList.length + 2 + itemsSize values := by
  have hitems : (values.map fun value => ("- " ++ value).toList.length + 1) =
      values.map fun value => value.toList.length + 3 := by
    refine List.map_congr_left fun value _ => ?_
    rw [String.toList_append, List.length_append]
    have hmark : "- ".toList.length = 2 := rfl
    omega
  rw [sectionLines, List.map_cons, List.sum_cons, List.map_map, itemsSize, ← hitems]
  simp only [String.toList_append, List.length_append, Function.comp_def]
  rfl

theorem length_ofList {text : String} {n : Nat} (h : text = String.ofList cs) (hn : cs.length = n) :
    text.toList.length = n := by
  rw [h, String.toList_ofList, hn]

theorem length_ofList_append {text text' : String} {n : Nat} (h : text = String.ofList cs)
    (h' : text' = String.ofList ds) (hn : cs.length + ds.length = n) :
    (text ++ text').toList.length = n := by
  rw [h, h', ← String.ofList_append, String.toList_ofList, List.length_append, hn]

theorem length_safetyInvariants :
    (safetyInvariants.map fun line => line.toList.length + 1).sum = 531 := by
  have hlengths : safetyInvariants.map (fun line => line.toList.length) =
      [18, 88, 137, 139, 100, 43] := by
    simp only [safetyInvariants, List.map_cons, List.map_nil, List.cons.injEq, and_true,
      -String.reduceAppend]
    exact ⟨length_ofList rfl rfl, length_ofList rfl rfl, length_ofList_append rfl rfl rfl,
      length_ofList_append rfl rfl rfl, length_ofList_append rfl rfl rfl, length_ofList rfl rfl⟩
  have hsum : safetyInvariants.map (fun line => line.toList.length + 1) =
      (safetyInvariants.map fun line => line.toList.length).map (· + 1) := by simp
  rw [hsum, hlengths]
  rfl

theorem length_promptLines :
    ((promptLines milestone "repo" recommendedNext approvalStops context).map fun line =>
      line.toList.length + 1).sum =
      promptSize milestone recommendedNext approvalStops context + 1 := by
  have hrole : "Role: ".toList.length = 6 := length_ofList rfl rfl
  have hmilestone : "Milestone: ".toList.length = 11 := length_ofList rfl rfl
  have hfolder : ("Primary folder: " ++ "repo" ++ "/").toList.length = 21 :=
    @length_ofList_append "Primary folder: repo".toList ['/'] _ _ _ rfl rfl rfl
  have hreferences : "References".toList.length = 10 := length_ofList rfl rfl
  have hscope : "Change scope".toList.length = 12 := length_ofList rfl rfl
  have hexclusions : "Exclusions".toList.length = 10 := length_ofList rfl rfl
  have hcriteria : "Completion criteria".toList.length = 19 := length_ofList rfl rfl
  have hstops : "Stop conditions".toList.length = 15 := length_ofList rfl rfl
  have happrovals : "Approval conditions".toList.length = 19 := length_ofList rfl rfl
  have hnext : "Recommended next work: ".toList.length = 23 := length_ofList rfl rfl
  have happend : ∀ a b : String, (a ++ b).toList.length = a.toList.length + b.toList.length :=
    fun a b => by rw [String.toList_append, List.length_append]
  rw [promptLines]
  simp only [List.map_append, List.sum_append, length_sectionLines]
  rw [List.map_cons, List.map_cons, List.map_cons, List.map_nil, List.sum_cons, List.sum_cons,
    List.sum_cons, List.sum_nil, List.map_cons, List.sum_cons, length_safetyInvariants,
    happend "Role: ", happend "Milestone: ", happend "Recommended next work: ", hfolder, hrole,
    hmilestone, hreferences, hscope, hexclusions, hcriteria, hstops, happrovals, hnext, promptSize,
    NextPromptContext.texts]
  simp only [itemsSize_append]
  omega

theorem length_renderPrompt : (renderPrompt milestone "repo" recommendedNext approvalStops
    context).toList.length = promptSize milestone recommendedNext approvalStops context := by
  have hlength := length_intercalate (d := '\n') ((promptLines milestone "repo" recommendedNext
    approvalStops context).map String.toList) (List.cons_ne_nil _ _)
  rw [← toList_renderPrompt, List.map_map] at hlength
  exact Nat.add_right_cancel (hlength.trans length_promptLines)

end Sdaqf.Handoff
