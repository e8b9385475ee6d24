import Mathlib.Algebra.Order.BigOperators.Group.List
import Sdaqf.Payloads
import Sdaqf.WorkflowContracts

/-!
# Accepted texts

What the contracts of texts accept. A text of one of the patterns is visible, so of all checks of a
bounded text only its length and its secrets remain; and where a pattern leaves out the characters a
secret needs, only its length does.
-/

namespace Sdaqf

open Guard

/-! ## Visible characters -/

/-- A printable character other than the blank. -/
def Visible (c : Char) : Prop := 0x20 < c.toNat ∧ c.toNat < 0x7f

instance {c : Char} : Decidable (Visible c) := by
  unfold Visible
  infer_instance

variable {c : Char}

theorem Visible.of_range {a b : Char} (ha : Visible a) (hb : Visible b)
    (hc : (decide (a ≤ c) && decide (c ≤ b)) = true) : Visible c := by
  simp only [Bool.and_eq_true, decide_eq_true_eq] at hc
  have hac : a.toNat ≤ c.toNat := hc.1
  have hcb : c.toNat ≤ b.toNat := hc.2
  exact ⟨ha.1.trans_le hac, hcb.trans_lt hb.2⟩

theorem visible_of_isUpper (h : isUpper c = true) : Visible c :=
  .of_range (by decide) (by decide) h

theorem visible_of_isLower (h : isLower c = true) : Visible c :=
  .of_range (by decide) (by decide) h

theorem visible_of_isDigit (h : isDigit c = true) : Visible c :=
  .of_range (by decide) (by decide) h

theorem Visible.not_isWhitespace (h : Visible c) : c.isWhitespace = false := by
  rw [Bool.eq_false_iff]
  intro hc
  simp only [Char.isWhitespace, Bool.or_eq_true, decide_eq_true_eq] at hc
  rcases hc with ((rfl | rfl) | rfl) | rfl <;> exact absurd h (by decide)

theorem Visible.not_isControl (h : Visible c) : isControl c = false := by
  simp only [isControl, Bool.or_eq_false_iff, Bool.and_eq_false_iff, decide_eq_false_iff_not]
  obtain ⟨hlow, hhigh⟩ := h
  omega

theorem Visible.ne_of (h : Visible c) {d : Char} (hd : ¬Visible d) : c ≠ d := by
  rintro rfl
  exact hd h

/-- A text of visible characters, with at least one of them. -/
def Legible (cs : List Char) : Prop := cs ≠ [] ∧ ∀ c ∈ cs, Visible c

/-- A check of the characters one by one. -/
theorem legible_of_all {cs : List Char} (hne : cs ≠ [])
    (h : cs.all (fun c => decide (Visible c)) = true) : Legible cs :=
  ⟨hne, by simpa only [List.all_eq_true, decide_eq_true_eq] using h⟩

instance {cs : List Char} : Decidable (Legible cs) :=
  decidable_of_iff (cs ≠ [] ∧ cs.all (fun c => decide (Visible c)) = true)
    ⟨fun h => legible_of_all h.1 h.2, fun h => ⟨h.1, by simpa using h.2⟩⟩

variable {cs : List Char}

theorem Legible.not_blank (h : Legible cs) : cs.all Char.isWhitespace = false := by
  obtain ⟨c, hc⟩ := List.exists_mem_of_ne_nil cs h.1
  rw [List.all_eq_false]
  exact ⟨c, hc, by simp [(h.2 c hc).not_isWhitespace]⟩

theorem written_of_legible {text : String} (h : Legible text.toList) : Payload.Written text := by
  obtain ⟨c, hc⟩ := List.exists_mem_of_ne_nil _ h.1
  rw [Payload.Written, List.all_eq_false]
  refine ⟨c, hc, ?_⟩
  obtain ⟨hlow, hhigh⟩ := h.2 c hc
  simp only [Payload.isSpace, List.contains_cons, List.contains_nil, Bool.or_eq_true,
    Bool.and_eq_true, decide_eq_true_eq, beq_iff_eq, Bool.or_false]
  omega

theorem Legible.one_line (h : Legible cs) :
    (cs.all fun c => c ≠ '\x00' && c ≠ '\r' && c ≠ '\n') = true := by
  rw [List.all_eq_true]
  intro c hc
  have hvisible := h.2 c hc
  simp only [Bool.and_eq_true, decide_eq_true_eq]
  exact ⟨⟨hvisible.ne_of (by decide), hvisible.ne_of (by decide)⟩, hvisible.ne_of (by decide)⟩

/-! ## Secrets -/

/-- A text no tail of which begins like a secret. -/
def SecretFree (cs : List Char) : Prop := ∀ tail, tail <:+ cs → startsSecret tail = false

theorem secretFree_iff : SecretFree cs ↔ cs.tails.any startsSecret = false := by
  simp only [SecretFree, List.any_eq_false, List.mem_tails, Bool.not_eq_true]

instance : Decidable (SecretFree cs) := decidable_of_iff' _ secretFree_iff

/-- A text that begins like an access key. -/
def startsKey (cs : List Char) : Bool :=
  "AKIA".toList.isPrefixOf cs &&
    16 ≤ ((cs.drop 4).takeWhile fun c => isUpper c || isDigit c).length

/-- A secret is an access key, or it has a token's letters, or a blank. -/
theorem startsSecret_cases (h : startsSecret cs = true) :
    startsKey cs = true ∨ ('g' ∈ cs ∧ '_' ∈ cs) ∨ ' ' ∈ cs := by
  unfold startsSecret at h
  simp only [Bool.or_eq_true] at h
  rcases h with (h | h) | h
  · exact .inl h
  · refine .inr (.inl ?_)
    split at h
    · simp
    · cases h
  · refine .inr (.inr ?_)
    rw [List.any_eq_true] at h
    obtain ⟨kind, -, h⟩ := h
    refine (List.isPrefixOf_iff_prefix.mp h).subset ?_
    simp only [String.toList_append, List.mem_append]
    exact .inl (.inl (by decide))

theorem SecretFree.of_tail {tail : List Char} (h : SecretFree cs) (ht : tail <:+ cs) :
    SecretFree tail := fun _ hs => h _ (hs.trans ht)

/-- A text without a blank, and without a token's letters, hides at most an access key. -/
theorem secretFree_of_keyFree (hblank : ' ' ∉ cs) (htoken : 'g' ∉ cs ∨ '_' ∉ cs)
    (hkey : ∀ tail, tail <:+ cs → startsKey tail = false) : SecretFree cs := by
  intro tail ht
  rw [Bool.eq_false_iff]
  intro h
  rcases startsSecret_cases h with h | ⟨hg, hbar⟩ | h
  · exact absurd h (by simp [hkey tail ht])
  · rcases htoken with hc | hc
    · exact hc (ht.subset hg)
    · exact hc (ht.subset hbar)
  · exact hblank (ht.subset h)

/-- An access key has its second letter right after its first. -/
theorem infix_of_startsKey (h : startsKey cs = true) : ['A', 'K'] <:+: cs := by
  simp only [startsKey, Bool.and_eq_true] at h
  obtain ⟨rest, rfl⟩ := List.isPrefixOf_iff_prefix.mp h.1
  exact ⟨[], 'I' :: 'A' :: rest, rfl⟩

theorem keyFree_of_absent (h : ¬['A', 'K'] <:+: cs) :
    ∀ tail, tail <:+ cs → startsKey tail = false := by
  intro tail ht
  rw [Bool.eq_false_iff]
  intro hkey
  exact h ((infix_of_startsKey hkey).trans ht.isInfix)

/-! ## Patterns -/

/-- A pattern whose texts are legible. -/
class LegiblePattern (pattern : String → Bool) : Prop where
  legible : ∀ text, pattern text = true → Legible text.toList

/-- What the check of a bounded text of one pattern accepts. -/
structure AcceptedText (maximum : Nat) (pattern : String → Bool) (text : String) : Prop where
  matched : pattern text = true
  bounded : text.toList.length ≤ maximum
  secretFree : SecretFree text.toList

variable {field message text : String} {maximum minimum : Nat} {pattern : String → Bool}
  {items : List String} {u : Unit}

theorem stringValue_of_legible (h : Legible text.toList) :
    stringValue field maximum text = .ok u ↔
      text.toList.length ≤ maximum ∧ SecretFree text.toList := by
  simp only [stringValue, bind_eq_ok, exists_unit, require_eq_ok, h.not_blank, h.one_line,
    true_and, secretFree_iff]

@[simp] theorem patternText_eq_ok [hp : LegiblePattern pattern] :
    patternText field maximum pattern message text = .ok u ↔ AcceptedText maximum pattern text := by
  simp only [patternText, bind_eq_ok, exists_unit, require_eq_ok]
  constructor
  · rintro ⟨hvalue, hmatched⟩
    obtain ⟨hbounded, hsecret⟩ := (stringValue_of_legible (hp.legible text hmatched)).mp hvalue
    exact ⟨hmatched, hbounded, hsecret⟩
  · intro h
    exact ⟨(stringValue_of_legible (hp.legible text h.matched)).mpr ⟨h.bounded, h.secretFree⟩,
      h.matched⟩

@[simp] theorem arrayValue_eq_ok {α : Type} {items : List α} :
    arrayValue field maximum items = .ok u ↔ items.length ≤ maximum := by
  simp [arrayValue]

/-- A check whose verdict does not depend on the field accepts an array when it accepts each item. -/
theorem forEachIndexed_eq_ok {α : Type} {check : String → α → Except String Unit} {p : α → Prop}
    (hcheck : ∀ field a, check field a = .ok () ↔ p a) {items : List α} :
    forEachIndexed field check items = .ok u ↔ ∀ a ∈ items, p a := by
  simp only [forEachIndexed, forEach_eq_ok, hcheck, Prod.forall]
  constructor
  · intro h a ha
    obtain ⟨i, hi⟩ := List.getElem?_of_mem ha
    exact h a i (List.mk_mem_zipIdx_iff_getElem?.mpr hi)
  · intro h a i hi
    exact h a (List.mem_of_getElem? (List.mk_mem_zipIdx_iff_getElem?.mp hi))

theorem pairwise_lt_iff : items.Pairwise (· < ·) ↔ items.Nodup ∧ items.Pairwise (· ≤ ·) :=
  ⟨fun h => ⟨h.imp ne_of_lt, h.imp le_of_lt⟩,
    fun h => (h.1.and h.2).imp fun hab => lt_of_le_of_ne hab.2 hab.1⟩

theorem stringTuple_eq_ok (h : ∀ item ∈ items, Legible item.toList) :
    stringTuple field minimum maximum items = .ok u ↔ items.length ≤ maximum ∧
      (∀ item ∈ items, item.toList.length ≤ 500 ∧ SecretFree item.toList) ∧
      minimum ≤ items.length ∧ items.Nodup := by
  have hvalues : forEachIndexed field (fun field item => stringValue field 500 item) items =
      .ok () ↔ ∀ item ∈ items, item.toList.length ≤ 500 ∧ SecretFree item.toList := by
    rw [forEachIndexed_eq_ok (p := fun item => stringValue "" 500 item = .ok ())
      fun _ _ => by simp only [stringValue, bind_eq_ok, exists_unit, require_eq_ok]]
    exact forall₂_congr fun item hitem => stringValue_of_legible (h item hitem)
  simp only [stringTuple, bind_eq_ok, exists_unit, require_eq_ok, arrayValue_eq_ok, hvalues]

@[simp] theorem sortedTexts_eq_ok [hp : LegiblePattern pattern] :
    sortedTexts field minimum maximum pattern message items = .ok u ↔
      items.length ≤ maximum ∧ minimum ≤ items.length ∧ items.Pairwise (· < ·) ∧
        ∀ item ∈ items, AcceptedText 500 pattern item := by
  simp only [sortedTexts, bind_eq_ok, exists_unit, require_eq_ok, List.all_eq_true,
    pairwise_lt_iff]
  constructor
  · rintro ⟨htuple, hsorted, hmatched⟩
    obtain ⟨hmaximum, hvalues, hminimum, hnodup⟩ :=
      (stringTuple_eq_ok fun item hitem => hp.legible item (hmatched item hitem)).mp htuple
    exact ⟨hmaximum, hminimum, ⟨hnodup, hsorted⟩, fun item hitem =>
      ⟨hmatched item hitem, (hvalues item hitem).1, (hvalues item hitem).2⟩⟩
  · rintro ⟨hmaximum, hminimum, ⟨hnodup, hsorted⟩, haccepted⟩
    refine ⟨(stringTuple_eq_ok fun item hitem => hp.legible item (haccepted item hitem).matched).mpr
      ⟨hmaximum, fun item hitem => ?_, hminimum, hnodup⟩, hsorted, fun item hitem =>
      (haccepted item hitem).matched⟩
    exact ⟨(haccepted item hitem).bounded, (haccepted item hitem).secretFree⟩

theorem safeRelativePath_eq_ok : safeRelativePath field text = .ok u ↔
    stringValue field 240 text = .ok () ∧
      (text.toList.all isPathCharacter = true ∧ text.toList.head? ≠ some '/') ∧
      (∀ part ∈ text.toList.splitOn '/', part ≠ [] ∧ part ≠ ['.'] ∧ part ≠ ['.', '.']) ∧
      ∀ part ∈ text.toList.splitOn '/', isPortablePart part = true := by
  simp only [safeRelativePath, bind_eq_ok, exists_unit, require_eq_ok]

/-- Sorted unique texts of one pattern, neither too few nor too many. -/
structure LawfulTexts (minimum maximum : Nat) (pattern : String → Bool) (items : List String) :
    Prop where
  bounded : items.length ≤ maximum
  enough : minimum ≤ items.length
  sorted : items.Pairwise (· < ·)
  texts : ∀ item ∈ items, AcceptedText 500 pattern item

theorem lawfulTexts_nil : LawfulTexts 0 maximum pattern [] :=
  ⟨Nat.zero_le _, Nat.zero_le _, .nil, by simp⟩

theorem sortedTexts_iff [LegiblePattern pattern] :
    sortedTexts field minimum maximum pattern message items = .ok u ↔
      LawfulTexts minimum maximum pattern items := by
  rw [sortedTexts_eq_ok]
  constructor
  · rintro ⟨h₁, h₂, h₃, h₄⟩
    exact ⟨h₁, h₂, h₃, h₄⟩
  · intro h
    exact ⟨h.1, h.2, h.3, h.4⟩

/-! ## The patterns of the workflow -/

/-- The characters of a run follow its two rules, and it has a first one. -/
theorem isRun_chars {first rest : Char → Bool} {least most : Nat} {p : Char → Prop}
    (hfirst : ∀ c, first c = true → p c) (hrest : ∀ c, rest c = true → p c)
    (h : isRun first rest least most cs = true) :
    cs ≠ [] ∧ (∀ c ∈ cs, p c) ∧ cs.length ≤ most + 1 := by
  rcases cs with _ | ⟨c, cs⟩
  · cases h
  · simp only [isRun, Bool.and_eq_true, List.all_eq_true, decide_eq_true_eq] at h
    obtain ⟨⟨⟨hc, hcs⟩, -⟩, hmost⟩ := h
    refine ⟨by simp, ?_, by simpa using hmost⟩
    rintro d (_ | ⟨_, hd⟩)
    · exact hfirst c hc
    · exact hrest d (hcs d hd)

/-- A text that starts with a mark is the mark and what the pattern reads. -/
theorem marked_iff {mark : String} {pattern : List Char → Bool} :
    marked mark pattern text = true ↔
      ∃ rest, text.toList = mark.toList ++ rest ∧ pattern rest = true := by
  simp only [marked, Bool.and_eq_true, List.isPrefixOf_iff_prefix]
  constructor
  · rintro ⟨⟨rest, hrest⟩, h⟩
    refine ⟨rest, hrest.symm, ?_⟩
    rwa [← hrest, List.drop_left] at h
  · rintro ⟨rest, hrest, h⟩
    rw [hrest, List.drop_left]
    exact ⟨List.prefix_append _ _, h⟩

theorem isUpperHex_upper (h : isUpperHex c = true) : isUpper c = true ∨ isDigit c = true := by
  simp only [isUpperHex, isUpper, isDigit, Bool.or_eq_true, Bool.and_eq_true,
    decide_eq_true_eq] at h ⊢
  rcases h with h | ⟨h, h'⟩
  · exact .inr h
  · exact .inl ⟨h, h'.trans (by decide)⟩

theorem isNativeCharacter_of_isUpperHex (h : isUpperHex c = true) :
    isNativeCharacter c = true := by
  rcases isUpperHex_upper h with h | h <;> simp [isNativeCharacter, h]

theorem visible_of_isNativeCharacter (h : isNativeCharacter c = true) : Visible c := by
  simp only [isNativeCharacter, Bool.or_eq_true, decide_eq_true_eq] at h
  rcases h with (((((h | h) | rfl) | rfl) | rfl) | rfl) | rfl
  · exact visible_of_isUpper h
  · exact visible_of_isDigit h
  all_goals decide

theorem visible_of_isCodeCharacter (h : isCodeCharacter c = true) : Visible c := by
  simp only [isCodeCharacter, Bool.or_eq_true, decide_eq_true_eq] at h
  rcases h with (h | h) | rfl
  · exact visible_of_isLower h
  · exact visible_of_isDigit h
  · decide

theorem isNativeCharacter_of_isUpper (h : isUpper c = true) : isNativeCharacter c = true := by
  simp [isNativeCharacter, h]

theorem isCodeCharacter_of_isLower (h : isLower c = true) : isCodeCharacter c = true := by
  simp [isCodeCharacter, h]

theorem isNativeId_chars (h : isNativeId text = true) :
    text.toList ≠ [] ∧ (∀ c ∈ text.toList, isNativeCharacter c = true) ∧
      text.toList.length ≤ 192 :=
  isRun_chars (fun _ => isNativeCharacter_of_isUpper) (fun _ => id) h

theorem isCode_chars (h : isCode text = true) :
    text.toList ≠ [] ∧ (∀ c ∈ text.toList, isCodeCharacter c = true) ∧
      text.toList.length ≤ 96 :=
  isRun_chars (fun _ => isCodeCharacter_of_isLower) (fun _ => id) h

/-- A workflow identity is made of the characters of a native one. -/
theorem isWorkflowId_chars (h : isWorkflowId text = true) :
    ∃ rest, text.toList = 'M' :: '8' :: '-' :: rest ∧ rest ≠ [] ∧
      ∀ c ∈ rest, isNativeCharacter c = true := by
  simp only [isWorkflowId, Bool.and_eq_true, decide_eq_true_eq, List.isPrefixOf_iff_prefix] at h
  obtain ⟨⟨⟨⟨hmark, hlong⟩, hwords⟩, hdash⟩, hdigits⟩ := h
  obtain ⟨body, hbody⟩ := hmark
  have hdrop : text.toList.drop 3 = body := by
    rw [← hbody]
    rfl
  rw [hdrop] at hlong hwords hdash hdigits
  obtain ⟨hlt, hdash⟩ := List.getElem?_eq_some_iff.mp hdash
  -- The words, the dash before the digest, and the digest.
  have hsplit : body = body.take (body.length - 65) ++ '-' :: body.drop (body.length - 64) := by
    have hnext : body.length - 65 + 1 = body.length - 64 := by omega
    rw [← hnext, ← hdash, List.getElem_cons_drop, List.take_append_drop]
  refine ⟨body, by rw [← hbody]; rfl, ?_, fun c hc => ?_⟩
  · rintro rfl
    simp at hlong
  · rw [hsplit] at hc
    rcases List.mem_append.mp hc with hc | hc
    · have hword := List.all_eq_true.mp hwords c hc
      simp only [Bool.or_eq_true, decide_eq_true_eq] at hword
      rcases hword with hword | rfl
      · exact isNativeCharacter_of_isUpper hword
      · decide
    · rcases List.mem_cons.mp hc with rfl | hc
      · decide
      · exact isNativeCharacter_of_isUpperHex (List.all_eq_true.mp hdigits c hc)

theorem isNativeId_of_isWorkflowId (h : isWorkflowId text = true)
    (hbounded : text.toList.length ≤ 192) : isNativeId text = true := by
  obtain ⟨rest, hrest, -, hchars⟩ := isWorkflowId_chars h
  rw [hrest] at hbounded
  simp only [isNativeId, hrest, isRun, List.all_cons, Bool.and_eq_true, List.all_eq_true,
    decide_eq_true_eq, List.length_cons] at hbounded ⊢
  exact ⟨⟨⟨by decide, by decide, by decide, hchars⟩, by omega⟩, by omega⟩

instance : LegiblePattern isNativeId where
  legible _ h := (isNativeId_chars h).imp_right fun h c hc =>
    visible_of_isNativeCharacter (h.1 c hc)

instance : LegiblePattern isCode where
  legible _ h := (isCode_chars h).imp_right fun h c hc =>
    visible_of_isCodeCharacter (h.1 c hc)

instance : LegiblePattern isWorkflowId where
  legible text h := by
    obtain ⟨rest, hrest, -, hchars⟩ := isWorkflowId_chars h
    rw [hrest]
    refine ⟨by simp, fun c hc => ?_⟩
    simp only [List.mem_cons] at hc
    rcases hc with rfl | rfl | rfl | hc
    · decide
    · decide
    · decide
    · exact visible_of_isNativeCharacter (hchars c hc)

instance : LegiblePattern isStableId where
  legible text h := by
    rcases Bool.or_eq_true _ _ ▸ h with h | h
    · exact LegiblePattern.legible text h
    · exact LegiblePattern.legible text h

instance : LegiblePattern isNativeType where
  legible _ h :=
    let chars := isRun_chars (fun _ => isCodeCharacter_of_isLower) (fun _ => id) h
    ⟨chars.1, fun c hc => visible_of_isCodeCharacter (chars.2.1 c hc)⟩

/-- The digits of a digest. -/
theorem isDigest_iff : isDigest cs = true ↔ cs.length = 64 ∧ ∀ c ∈ cs, isUpperHex c = true := by
  simp only [isDigest, Bool.and_eq_true, decide_eq_true_eq, List.all_eq_true]

theorem visible_of_isUpperHex (h : isUpperHex c = true) : Visible c :=
  visible_of_isNativeCharacter (isNativeCharacter_of_isUpperHex h)

instance : LegiblePattern fun text => isDigest text.toList where
  legible _ h := by
    obtain ⟨hlength, hchars⟩ := isDigest_iff.mp h
    exact ⟨List.ne_nil_of_length_pos (by omega), fun c hc => visible_of_isUpperHex (hchars c hc)⟩

/-- A marked text is legible when its mark and what follows are. -/
theorem legible_of_marked {mark : String} {pattern : List Char → Bool}
    (hmark : ∀ c ∈ mark.toList, Visible c)
    (hpattern : ∀ cs, pattern cs = true → Legible cs) (h : marked mark pattern text = true) :
    Legible text.toList := by
  obtain ⟨rest, hrest, h⟩ := marked_iff.mp h
  obtain ⟨hne, hchars⟩ := hpattern rest h
  rw [hrest]
  refine ⟨by simp [hne], fun c hc => ?_⟩
  rcases List.mem_append.mp hc with hc | hc
  · exact hmark c hc
  · exact hchars c hc

instance : LegiblePattern isCommit where
  legible text h := by
    simp only [isCommit, Bool.and_eq_true, decide_eq_true_eq, List.all_eq_true] at h
    refine ⟨List.ne_nil_of_length_pos (by omega), fun c hc => ?_⟩
    have hchar := h.2 c hc
    simp only [isLowerHex, Bool.or_eq_true] at hchar
    rcases hchar with hchar | hchar
    · exact visible_of_isDigit hchar
    · exact .of_range (a := 'a') (b := 'f') (by decide) (by decide) hchar

instance : LegiblePattern isTaskId where
  legible _ h := legible_of_marked (legible_of_all (by decide) (by decide)).2 (fun cs h => by
    have hchars := isRun_chars (p := fun c => isNativeCharacter c = true)
      (fun c hc => ?_) (fun c hc => ?_) h
    · exact ⟨hchars.1, fun c hc => visible_of_isNativeCharacter (hchars.2.1 c hc)⟩
    · simp only [Bool.or_eq_true] at hc
      rcases hc with hc | hc <;> simp [isNativeCharacter, hc]
    · simp only [Bool.or_eq_true, decide_eq_true_eq] at hc
      rcases hc with (hc | hc) | hc <;> simp [isNativeCharacter, hc]) h

instance : LegiblePattern isRequirementId where
  legible _ h := by
    have chars := isRun_chars (p := fun c => isNativeCharacter c = true)
      (fun _ => isNativeCharacter_of_isUpper) (fun c hc => ?_) h
    · exact ⟨chars.1, fun c hc => visible_of_isNativeCharacter (chars.2.1 c hc)⟩
    · simp only [Bool.or_eq_true, decide_eq_true_eq] at hc
      rcases hc with (hc | hc) | hc <;> simp [isNativeCharacter, hc]

instance : LegiblePattern isBaselineId where
  legible _ h := legible_of_marked (legible_of_all (by decide) (by decide)).2 (fun cs h => by
    simp only [Bool.and_eq_true, decide_eq_true_eq, List.all_eq_true] at h
    exact ⟨List.ne_nil_of_length_pos (by omega),
      fun c hc => visible_of_isUpperHex (h.2 c hc)⟩) h

instance : LegiblePattern isGateId where
  legible text h := by
    simp only [isGateId, List.contains_eq_mem, decide_eq_true_eq, List.mem_cons,
      List.not_mem_nil, or_false] at h
    rcases h with rfl | rfl | rfl | rfl <;> exact legible_of_all (by decide) (by decide)

instance : LegiblePattern isCurrency where
  legible text h := by
    simp only [isCurrency, Bool.and_eq_true, decide_eq_true_eq, List.all_eq_true] at h
    exact ⟨List.ne_nil_of_length_pos (by omega), fun c hc => visible_of_isUpper (h.2 c hc)⟩

/-! ## Patterns without secrets -/

/-- A character that a pattern leaves out is in none of its texts. -/
theorem not_mem_of_rule {rule : Char → Bool} (h : ∀ c ∈ cs, rule c = true) {d : Char}
    (hd : rule d = false) : d ∉ cs := by
  intro hc
  exact absurd (h d hc) (by simp [hd])

theorem secretFree_of_code (h : ∀ c ∈ cs, isCodeCharacter c = true) : SecretFree cs :=
  secretFree_of_keyFree (not_mem_of_rule h (by decide)) (.inr (not_mem_of_rule h (by decide)))
    (keyFree_of_absent fun hpart =>
      not_mem_of_rule h (d := 'A') (by decide) (hpart.subset (by simp)))

/-- A text of native characters hides at most an access key. -/
theorem secretFree_of_native (h : ∀ c ∈ cs, isNativeCharacter c = true)
    (hkey : ¬['A', 'K'] <:+: cs) : SecretFree cs :=
  secretFree_of_keyFree (not_mem_of_rule h (by decide)) (.inl (not_mem_of_rule h (by decide)))
    (keyFree_of_absent hkey)

theorem secretFree_of_hex (h : ∀ c ∈ cs, isUpperHex c = true) : SecretFree cs :=
  secretFree_of_native (fun c hc => isNativeCharacter_of_isUpperHex (h c hc)) fun hpart =>
    not_mem_of_rule h (d := 'K') (by decide) (hpart.subset (by simp))

/-- A stable lowercase code needs no other check. -/
theorem accepted_isCode (h : isCode text = true) (hmaximum : 96 ≤ maximum) :
    AcceptedText maximum isCode text :=
  ⟨h, (isCode_chars h).2.2.trans hmaximum, secretFree_of_code (isCode_chars h).2.1⟩

@[simp] theorem codeText_eq_ok : codeText field text = .ok u ↔ isCode text = true := by
  rw [codeText, patternText_eq_ok]
  exact ⟨fun h => h.matched, fun h => accepted_isCode h le_rfl⟩

@[simp] theorem sortedCodes_eq_ok :
    sortedCodes field minimum maximum items = .ok u ↔
      items.length ≤ maximum ∧ minimum ≤ items.length ∧ items.Pairwise (· < ·) ∧
        ∀ item ∈ items, isCode item = true := by
  rw [sortedCodes, sortedTexts_eq_ok]
  refine and_congr_right fun _ => and_congr_right fun _ => and_congr_right fun _ =>
    forall₂_congr fun item _ => ?_
  exact ⟨fun h => h.matched, fun h => accepted_isCode h (by omega)⟩

@[simp] theorem sha256Text_eq_ok :
    sha256Text field text = .ok u ↔ isDigest text.toList = true := by
  rw [sha256Text, patternText_eq_ok]
  refine ⟨fun h => h.matched, fun h => ⟨h, ?_, ?_⟩⟩
  · exact (isDigest_iff.mp h).1.le
  · exact secretFree_of_hex (isDigest_iff.mp h).2

/-- A text that every native identity field accepts. -/
abbrev IsNative (text : String) : Prop := AcceptedText 192 isNativeId text

@[simp] theorem nativeId_eq_ok : nativeId field text = .ok u ↔ IsNative text :=
  patternText_eq_ok

/-- A stable identity of a bounded text is a native one. -/
theorem accepted_isStableId_iff : AcceptedText 192 isStableId text ↔ IsNative text := by
  constructor
  · rintro ⟨hmatched, hbounded, hsecret⟩
    refine ⟨?_, hbounded, hsecret⟩
    rcases Bool.or_eq_true _ _ ▸ hmatched with h | h
    · exact h
    · exact isNativeId_of_isWorkflowId h hbounded
  · rintro ⟨hmatched, hbounded, hsecret⟩
    exact ⟨by simp [isStableId, hmatched], hbounded, hsecret⟩

@[simp] theorem stableId_eq_ok : stableId field text = .ok u ↔ IsNative text :=
  patternText_eq_ok.trans accepted_isStableId_iff

theorem IsNative.stable (h : IsNative text) : AcceptedText 500 isStableId text :=
  ⟨(accepted_isStableId_iff.mpr h).matched, h.bounded.trans (by omega), h.secretFree⟩

@[simp] theorem sortedNativeIds_eq_ok :
    sortedNativeIds field items = .ok u ↔ items.length ≤ maxReferences ∧
      items.Pairwise (· < ·) ∧ ∀ item ∈ items, IsNative item := by
  rw [sortedNativeIds, sortedTexts_eq_ok]
  refine and_congr_right fun _ => (and_iff_right (Nat.zero_le _)).trans
    (and_congr_right fun _ => forall₂_congr fun item _ => ?_)
  exact ⟨fun h => ⟨h.matched, (isNativeId_chars h.matched).2.2, h.secretFree⟩,
    fun h => ⟨h.matched, h.bounded.trans (by omega), h.secretFree⟩⟩

/-- Of native identities a sorted list of stable ones asks only its order and its length. -/
theorem sortedStableIds_eq_ok (h : ∀ item ∈ items, IsNative item) :
    sortedStableIds field items = .ok u ↔
      items.length ≤ maxReferences ∧ items.Pairwise (· < ·) := by
  rw [sortedStableIds, sortedTexts_eq_ok]
  exact ⟨fun hs => ⟨hs.1, hs.2.2.1⟩, fun hs => ⟨hs.1, Nat.zero_le _, hs.2,
    fun item hitem => (h item hitem).stable⟩⟩

@[simp] theorem workflowId_eq_ok {artifactType : WorkflowArtifactType} :
    workflowId field artifactType text = .ok u ↔
      AcceptedText 160 isWorkflowId text ∧ artifactType.mark.toList <+: text.toList := by
  simp only [workflowId, bind_eq_ok, exists_unit, require_eq_ok, patternText_eq_ok,
    List.isPrefixOf_iff_prefix]

theorem isNative_of_workflowId (h : AcceptedText 160 isWorkflowId text) : IsNative text :=
  have hbounded := h.bounded.trans (by omega : 160 ≤ 192)
  ⟨isNativeId_of_isWorkflowId h.matched hbounded, hbounded, h.secretFree⟩

@[simp] theorem gateIdText_eq_ok : gateIdText field text = .ok u ↔ isGateId text = true := by
  rw [gateIdText, patternText_eq_ok]
  refine ⟨fun h => h.matched, fun h => ⟨h, ?_, ?_⟩⟩
  all_goals
    simp only [isGateId, List.contains_eq_mem, decide_eq_true_eq, List.mem_cons,
      List.not_mem_nil, or_false] at h
    rcases h with rfl | rfl | rfl | rfl <;> decide

/-! ## Native identities that are put together -/

/-- A mark that a native identity may start with: no access key begins in it. -/
def isNativeMark : List Char → Bool
  | [] => false
  | c :: cs => isUpper c && cs.all isNativeCharacter && 1 ≤ cs.length && cs.length ≤ 120 &&
      !((c :: cs).zip cs).contains ('A', 'K')

/-- Neighbours stand together in the list of neighbours. -/
theorem mem_zip_tail {α : Type} {a b : α} {l r : List α} :
    (a, b) ∈ (l ++ a :: b :: r).zip (l ++ a :: b :: r).tail := by
  induction l with
  | nil => simp
  | cons x l ih =>
    rcases h : l ++ a :: b :: r with _ | ⟨y, rest⟩
    · simp at h
    · rw [h, List.tail_cons] at ih
      rw [List.cons_append, h, List.tail_cons, List.zip_cons_cons]
      exact List.mem_cons_of_mem _ ih

theorem isNative_of_mark {mark : String} {rest : List Char}
    (hmark : isNativeMark mark.toList = true) (hrest : ∀ c ∈ rest, isUpperHex c = true)
    (hlength : rest.length ≤ 64) (htext : text.toList = mark.toList ++ rest) : IsNative text := by
  have hkey : 'K' ∉ rest := not_mem_of_rule hrest (by decide)
  rcases hm : mark.toList with _ | ⟨c, cs⟩
  · rw [hm] at hmark
    cases hmark
  · rw [hm] at hmark htext
    simp only [isNativeMark, Bool.and_eq_true, List.all_eq_true, decide_eq_true_eq,
      Bool.not_eq_true', List.contains_eq_mem, decide_eq_false_iff_not] at hmark
    obtain ⟨⟨⟨⟨hc, hcs⟩, hleast⟩, hmost⟩, hpair⟩ := hmark
    have hchars : ∀ d ∈ cs ++ rest, isNativeCharacter d = true := by
      intro d hd
      rcases List.mem_append.mp hd with hd | hd
      · exact hcs d hd
      · exact isNativeCharacter_of_isUpperHex (hrest d hd)
    refine ⟨?_, ?_, ?_⟩
    · simp only [isNativeId, htext, List.cons_append, isRun, Bool.and_eq_true, List.all_eq_true,
        decide_eq_true_eq, List.length_append]
      exact ⟨⟨⟨hc, hchars⟩, by omega⟩, by omega⟩
    · simp only [htext, List.cons_append, List.length_cons, List.length_append]
      omega
    · rw [htext]
      refine secretFree_of_native ?_ ?_
      · rintro d (_ | ⟨_, hd⟩)
        · exact isNativeCharacter_of_isUpper hc
        · exact hchars d hd
      · rintro ⟨before, after, h⟩
        rw [List.append_assoc] at h
        -- The second letter of a key would be past the mark, or the pair in the mark.
        rcases List.append_eq_append_iff.mp h with ⟨tail, hbefore, hafter⟩ | ⟨tail, hbefore, hafter⟩
        · rcases tail with _ | ⟨x, _ | ⟨y, tail⟩⟩
          · rw [List.nil_append] at hafter
            exact hkey (hafter ▸ by simp)
          · simp only [List.cons_append, List.nil_append, List.cons.injEq] at hafter
            exact hkey (hafter.2 ▸ by simp)
          · simp only [List.cons_append, List.nil_append, List.cons.injEq] at hafter
            obtain ⟨rfl, rfl, -⟩ := hafter
            have hmem := mem_zip_tail (a := 'A') (b := 'K') (l := before) (r := tail)
            rw [← hbefore] at hmem
            exact hpair hmem
        · exact hkey (hafter ▸ by simp)

theorem isNative_of_digest {mark digest : String} (hmark : isNativeMark mark.toList = true)
    (hdigest : isDigest digest.toList = true) : IsNative (mark ++ digest) := by
  obtain ⟨hlength, hchars⟩ := isDigest_iff.mp hdigest
  exact isNative_of_mark hmark hchars hlength.le String.toList_append

/-- One digit, repeated. -/
theorem isDigest_replicate (h : isUpperHex c = true) :
    isDigest (String.ofList (List.replicate 64 c)).toList = true := by
  rw [String.toList_ofList, isDigest_iff]
  refine ⟨List.length_replicate, fun d hd => ?_⟩
  rw [List.eq_of_mem_replicate hd]
  exact h

/-- An identity of a mark and a digest is accepted where exactly these are asked for. -/
theorem patternText_of_digest {mark digest : String} (hmark : isNativeMark mark.toList = true)
    (hdigest : isDigest digest.toList = true) (hmaximum : mark.toList.length + 64 ≤ maximum) :
    patternText field maximum (marked mark isDigest) message (mark ++ digest) = .ok () := by
  have hnative := isNative_of_digest hmark hdigest
  have hmatched : marked mark isDigest (mark ++ digest) = true :=
    marked_iff.mpr ⟨digest.toList, String.toList_append, hdigest⟩
  simp only [patternText, bind_eq_ok, exists_unit, require_eq_ok]
  refine ⟨(stringValue_of_legible (LegiblePattern.legible _ hnative.matched)).mpr
    ⟨?_, hnative.secretFree⟩, hmatched⟩
  rw [String.toList_append, List.length_append, (isDigest_iff.mp hdigest).1]
  exact hmaximum

theorem solverId_of_digest {mark digest : String} (hmark : isNativeMark mark.toList = true)
    (hdigest : isDigest digest.toList = true) : solverId field mark (mark ++ digest) = .ok () :=
  patternText_of_digest hmark hdigest le_rfl

theorem patternId_of_digest {mark digest : String} (hmark : isNativeMark mark.toList = true)
    (hdigest : isDigest digest.toList = true) (hmaximum : mark.toList.length ≤ 64) :
    patternId field mark isDigest (mark ++ digest) = .ok () :=
  patternText_of_digest hmark hdigest (by omega)

theorem isWorkflowId_of_digest {artifactType : WorkflowArtifactType} {digest : String}
    (h : isDigest digest.toList = true) : isWorkflowId (artifactType.mark ++ digest) = true := by
  obtain ⟨hlength, hchars⟩ := isDigest_iff.mp h
  rw [isWorkflowId, String.toList_append]
  cases artifactType
  all_goals
    simp only [WorkflowArtifactType.mark, String.reduceToList, List.cons_append, List.nil_append,
      List.drop_succ_cons, List.drop_zero, List.length_cons, hlength, Nat.reduceAdd, Nat.reduceSub,
      List.take_succ_cons, List.take_zero]
    simpa [isUpper] using hchars

/-- The mark of a type and the digits of a digest are a workflow identity of this type. -/
theorem workflowId_of_digest (field : String) (artifactType : WorkflowArtifactType) {digest : String}
    (h : isDigest digest.toList = true) :
    workflowId field artifactType (artifactType.mark ++ digest) = .ok () := by
  have hmark : isNativeMark artifactType.mark.toList = true ∧
      artifactType.mark.toList.length ≤ 96 := by
    cases artifactType <;> exact ⟨by decide, by decide⟩
  rw [workflowId_eq_ok, String.toList_append]
  refine ⟨⟨isWorkflowId_of_digest h, ?_, (isNative_of_digest hmark.1 h).secretFree⟩,
    List.prefix_append _ _⟩
  rw [String.toList_append, List.length_append, (isDigest_iff.mp h).1]
  omega

theorem isNative_of_isBaselineId (h : isBaselineId text = true) : IsNative text := by
  obtain ⟨rest, hrest, h⟩ := marked_iff.mp h
  simp only [Bool.and_eq_true, decide_eq_true_eq, List.all_eq_true] at h
  exact isNative_of_mark (by decide) h.2 (by omega) hrest

theorem isNative_of_taskId (h : AcceptedText 68 isTaskId text) : IsNative text := by
  obtain ⟨rest, hrest, hrun⟩ := marked_iff.mp h.matched
  have hchars := isRun_chars (p := fun c => isNativeCharacter c = true)
    (fun c hc => by
      simp only [Bool.or_eq_true] at hc
      rcases hc with hc | hc <;> simp [isNativeCharacter, hc])
    (fun c hc => by
      simp only [Bool.or_eq_true, decide_eq_true_eq] at hc
      rcases hc with (hc | hc) | hc <;> simp [isNativeCharacter, hc]) hrun
  refine ⟨?_, h.bounded.trans (by omega), h.secretFree⟩
  have hbounded := h.bounded
  rw [hrest] at hbounded
  simp only [isNativeId, hrest]
  simp only [String.reduceToList, List.cons_append, List.nil_append, isRun, List.all_cons,
    Bool.and_eq_true, List.all_eq_true, decide_eq_true_eq, List.length_cons] at hbounded ⊢
  exact ⟨⟨⟨by decide, by decide, by decide, by decide, hchars.2.1⟩, by omega⟩, by omega⟩

theorem isNative_of_isGateId (h : isGateId text = true) : IsNative text := by
  simp only [isGateId, List.contains_eq_mem, decide_eq_true_eq, List.mem_cons,
    List.not_mem_nil, or_false] at h
  rcases h with rfl | rfl | rfl | rfl <;> exact ⟨by decide, by decide, by decide⟩

/-! ## Joined texts -/

/-- A run of characters ends before a character that is not of its kind. -/
theorem takeWhile_append_stop {α : Type} {p : α → Bool} {l r : List α} {d : α}
    (hd : p d = false) : (l ++ d :: r).takeWhile p = l.takeWhile p := by
  induction l with
  | nil => simp [hd]
  | cons a l ih => simp only [List.cons_append, List.takeWhile_cons, ih]

/-- An access key that begins before a separator ends before it. -/
theorem startsKey_append {d : Char} (hd : (isUpper d || isDigit d) = false)
    {before after : List Char} (h : startsKey (before ++ d :: after) = true) :
    startsKey before = true := by
  have hne : ∀ e, isUpper e = true → e ≠ d := by
    rintro e he rfl
    simp [he] at hd
  simp only [startsKey, Bool.and_eq_true, decide_eq_true_eq, List.isPrefixOf_iff_prefix] at h ⊢
  obtain ⟨hkey, hlong⟩ := h
  simp only [String.reduceToList] at hkey ⊢
  rcases before with _ | ⟨a, _ | ⟨b, _ | ⟨e, _ | ⟨f, before⟩⟩⟩⟩
  · exact absurd (List.cons_prefix_cons.mp hkey).1 (hne 'A' (by decide))
  · simp only [List.cons_append, List.nil_append, List.cons_prefix_cons] at hkey
    exact absurd hkey.2.1 (hne 'K' (by decide))
  · simp only [List.cons_append, List.nil_append, List.cons_prefix_cons] at hkey
    exact absurd hkey.2.2.1 (hne 'I' (by decide))
  · simp only [List.cons_append, List.nil_append, List.cons_prefix_cons] at hkey
    exact absurd hkey.2.2.2.1 (hne 'A' (by decide))
  · have hdrop : List.drop 4 (a :: b :: e :: f :: before ++ d :: after) = before ++ d :: after := rfl
    rw [hdrop, takeWhile_append_stop (p := fun c => isUpper c || isDigit c) hd] at hlong
    simp only [List.cons_append, List.cons_prefix_cons, List.nil_prefix] at hkey ⊢
    exact ⟨hkey, hlong⟩

/-- Texts without an access key have none when a separator joins them. -/
theorem keyFree_append {d : Char} (hd : (isUpper d || isDigit d) = false)
    {before after : List Char} (hbefore : ∀ tail, tail <:+ before → startsKey tail = false)
    (hafter : ∀ tail, tail <:+ after → startsKey tail = false) :
    ∀ tail, tail <:+ before ++ d :: after → startsKey tail = false := by
  rintro tail ⟨front, ht⟩
  rw [Bool.eq_false_iff]
  intro hkey
  rcases List.append_eq_append_iff.mp ht with ⟨rest, rfl, rfl⟩ | ⟨rest, rfl, hrest⟩
  · exact absurd (startsKey_append hd hkey) (by simp [hbefore rest (List.suffix_append _ _)])
  · rcases rest with _ | ⟨e, rest⟩
    · rw [List.nil_append] at hrest
      rw [← hrest] at hkey
      exact absurd (@startsKey_append d hd [] _ hkey) (by decide)
    · rw [List.cons_append, List.cons.injEq] at hrest
      exact absurd hkey (by simp [hafter tail ⟨rest, hrest.2.symm⟩])

/-- What holds of the separator and of all characters holds of a joined text. -/
theorem forall_mem_intercalate {p : Char → Prop} {d : Char} (hd : p d) {parts : List (List Char)}
    (h : ∀ part ∈ parts, ∀ c ∈ part, p c) : ∀ c ∈ [d].intercalate parts, p c := by
  induction parts with
  | nil => simp
  | cons part parts ih =>
    rcases parts with _ | ⟨next, parts⟩
    · simpa using h
    · rw [List.intercalate_cons_cons]
      intro c hc
      simp only [List.mem_append, List.mem_singleton] at hc
      rcases hc with (hc | rfl) | hc
      · exact h part List.mem_cons_self c hc
      · exact hd
      · exact ih (fun part hpart => h part (List.mem_cons_of_mem _ hpart)) c hc

theorem keyFree_intercalate {d : Char} (hd : (isUpper d || isDigit d) = false)
    {parts : List (List Char)}
    (h : ∀ part ∈ parts, ∀ tail, tail <:+ part → startsKey tail = false) :
    ∀ tail, tail <:+ [d].intercalate parts → startsKey tail = false := by
  induction parts with
  | nil =>
    intro tail ht
    rw [List.suffix_nil.mp ht]
    decide
  | cons part parts ih =>
    rcases parts with _ | ⟨next, parts⟩
    · simpa using h
    · rw [List.intercalate_cons_cons, List.append_assoc]
      exact keyFree_append hd (h part List.mem_cons_self)
        (ih fun part hpart => h part (List.mem_cons_of_mem _ hpart))

/-- A joined text has one character less than its parts with a separator after each. -/
theorem length_intercalate {d : Char} (parts : List (List Char)) (h : parts ≠ []) :
    ([d].intercalate parts).length + 1 = (parts.map fun part => part.length + 1).sum := by
  induction parts with
  | nil => exact absurd rfl h
  | cons part parts ih =>
    rcases parts with _ | ⟨next, parts⟩
    · simp
    · have hrest := ih (by simp)
      rw [List.intercalate_cons_cons, List.map_cons, List.sum_cons, ← hrest]
      simp only [List.length_append, List.length_singleton]
      omega

/-! ## Path-free texts -/

/-- An absolute path has a slash. -/
theorem pathFree_of_not_mem (hslash : '/' ∉ cs) (hback : '\\' ∉ cs) :
    cs.tails.any startsAbsolute = false := by
  rw [List.any_eq_false]
  intro tail ht h
  have hsub := ((List.mem_tails _ _).mp ht).subset
  unfold startsAbsolute at h
  split at h
  · exact hslash (hsub (by simp))
  · simp only [Bool.and_eq_true, Bool.or_eq_true, decide_eq_true_eq] at h
    rcases h.2 with rfl | rfl
    · exact hslash (hsub (by simp))
    · exact hback (hsub (by simp))
  · cases h

/-- Of a legible text without a slash or a secret only its length is checked. -/
theorem pathFreeText_eq_ok (h : Legible text.toList) (hsecret : SecretFree text.toList)
    (hslash : '/' ∉ text.toList) (hback : '\\' ∉ text.toList) :
    pathFreeText field maximum text = .ok u ↔ text.toList.length ≤ maximum := by
  have hcontrol : (text.toList.all fun c => !isControl c) = true := by
    rw [List.all_eq_true]
    intro c hc
    simp [(h.2 c hc).not_isControl]
  simp only [pathFreeText, bind_eq_ok, exists_unit, require_eq_ok, stringValue_of_legible h,
    pathFree_of_not_mem hslash hback, hcontrol, hsecret, and_true]

/-- Of joined native identities only the length is checked. -/
theorem pathFreeText_intercalate (hne : items ≠ []) (h : ∀ item ∈ items, IsNative item) :
    pathFreeText field maximum (",".intercalate items) = .ok u ↔
      (items.map fun item => item.toList.length + 1).sum ≤ maximum + 1 := by
  have htext : (",".intercalate items).toList = [','].intercalate (items.map String.toList) := by
    simp [String.toList_intercalate]
  have hchars : ∀ c ∈ [','].intercalate (items.map String.toList),
      (isNativeCharacter c || c = ',') = true := by
    refine forall_mem_intercalate (by decide) ?_
    intro part hpart c hc
    obtain ⟨item, hitem, rfl⟩ := List.mem_map.mp hpart
    simp [(isNativeId_chars (h item hitem).matched).2.1 c hc]
  have hkey : ∀ tail, tail <:+ [','].intercalate (items.map String.toList) →
      startsKey tail = false := by
    refine keyFree_intercalate (by decide) ?_
    intro part hpart tail ht
    obtain ⟨item, hitem, rfl⟩ := List.mem_map.mp hpart
    have hfree := (h item hitem).secretFree tail ht
    simp only [startsSecret, Bool.or_eq_false_iff] at hfree
    exact hfree.1.1
  have hlength := length_intercalate (d := ',') (items.map String.toList) (by simp [hne])
  rw [← htext] at hchars hkey hlength
  have hlegible : Legible (",".intercalate items).toList := by
    refine ⟨?_, fun c hc => ?_⟩
    · obtain ⟨item, hitem⟩ := List.exists_mem_of_ne_nil items hne
      have hpart := List.le_sum_of_mem (List.mem_map_of_mem (f := fun part => part.length + 1)
        (List.mem_map_of_mem (f := String.toList) hitem))
      have hpos := List.length_pos_of_ne_nil (isNativeId_chars (h item hitem).matched).1
      refine List.ne_nil_of_length_pos ?_
      omega
    · have hrule := hchars c hc
      simp only [Bool.or_eq_true, decide_eq_true_eq] at hrule
      rcases hrule with hrule | rfl
      · exact visible_of_isNativeCharacter hrule
      · decide
  rw [pathFreeText_eq_ok hlegible
    (secretFree_of_keyFree (not_mem_of_rule hchars (by decide))
      (.inl (not_mem_of_rule hchars (by decide))) hkey)
    (not_mem_of_rule hchars (by decide)) (not_mem_of_rule hchars (by decide))]
  rw [List.map_map] at hlength
  simp only [Function.comp_def] at hlength
  omega

end Sdaqf
