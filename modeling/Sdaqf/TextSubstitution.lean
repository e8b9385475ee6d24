import Sdaqf.TextSearch

/-!
# Substituting in texts

A text is cut at the occurrences of patterns, from the left, and each occurrence is replaced. What is
left between the occurrences holds none, but a replacement can join with a piece beside it. Where the
replacement holds a character that no word passes and ends in a mark that stops every run, such an
occurrence lies in the window of one piece: the mark in front of it, and the replacement behind it.
-/

namespace TextSearch

/-- A pattern whose occurrence goes on through the characters of a class. -/
structure Matcher extends Pattern where
  more : Char → Bool := fun _ => false

/-- How long the occurrence is that a text starts with. -/
def Matcher.lengthAt (m : Matcher) (cs : List Char) : Option Nat :=
  if m.startsAt cs then
    let rest := cs.drop m.word.length
    let ran := match m.run with
      | none => 0
      | some (inside, _) => (rest.takeWhile inside).length + 1
    some (m.word.length + ran + ((rest.drop ran).takeWhile m.more).length)
  else none

/-- The first of some alternatives that occurs counts. -/
def lengthAt (matchers : List Matcher) (cs : List Char) : Option Nat :=
  matchers.findSome? (·.lengthAt cs)

section Substitute

variable (matchers : List Matcher) (replacement : List Char)

/-- Replace every occurrence behind so many characters, which an occurrence has taken. -/
def substituteFrom : Nat → List Char → List Char
  | _, [] => []
  | taken + 1, _ :: cs => substituteFrom taken cs
  | 0, c :: cs =>
    match lengthAt matchers (c :: cs) with
    | some n => replacement ++ substituteFrom (n - 1) cs
    | none => c :: substituteFrom 0 cs

def substitute (cs : List Char) : List Char := substituteFrom matchers replacement 0 cs

/-- The pieces between the occurrences. -/
def splitFrom : Nat → List Char → List (List Char)
  | _, [] => [[]]
  | taken + 1, _ :: cs => splitFrom taken cs
  | 0, c :: cs =>
    match lengthAt matchers (c :: cs) with
    | some n => [] :: splitFrom (n - 1) cs
    | none => (splitFrom 0 cs).modifyHead (c :: ·)

def split (cs : List Char) : List (List Char) := splitFrom matchers 0 cs

end Substitute

variable {matchers : List Matcher} {replacement cs : List Char} {taken : Nat}

theorem splitFrom_ne_nil : splitFrom matchers taken cs ≠ [] := by
  induction cs generalizing taken with
  | nil => simp [splitFrom]
  | cons c cs ih =>
    cases taken with
    | succ taken => exact ih
    | zero =>
      rw [splitFrom]
      split
      · exact List.cons_ne_nil _ _
      · simpa using ih

/-- What is split has a first piece, which the text starts with. -/
theorem exists_splitFrom (matchers : List Matcher) (cs : List Char) :
    ∃ piece pieces, splitFrom matchers 0 cs = piece :: pieces ∧ piece <+: cs := by
  induction cs with
  | nil => exact ⟨[], [], rfl, List.prefix_refl _⟩
  | cons c cs ih =>
    rw [splitFrom]
    split
    · exact ⟨[], _, rfl, List.nil_prefix⟩
    · obtain ⟨piece, pieces, hpieces, hprefix⟩ := ih
      exact ⟨c :: piece, pieces, by rw [hpieces, List.modifyHead_cons],
        List.cons_prefix_cons.mpr ⟨rfl, hprefix⟩⟩

theorem intercalate_cons {sep piece : List Char} {pieces : List (List Char)} (h : pieces ≠ []) :
    sep.intercalate (piece :: pieces) = piece ++ sep ++ sep.intercalate pieces := by
  cases pieces with
  | nil => exact absurd rfl h
  | cons second pieces => rw [List.intercalate_cons_cons]

theorem substituteFrom_eq : substituteFrom matchers replacement taken cs =
    replacement.intercalate (splitFrom matchers taken cs) := by
  induction cs generalizing taken with
  | nil => simp [substituteFrom, splitFrom]
  | cons c cs ih =>
    cases taken with
    | succ taken => exact ih
    | zero =>
      rw [substituteFrom, splitFrom]
      split
      · rw [intercalate_cons splitFrom_ne_nil, ih, List.nil_append]
      · rw [ih]
        obtain ⟨piece, pieces, hpieces, -⟩ := exists_splitFrom matchers cs
        rw [hpieces, List.modifyHead_cons]
        cases pieces with
        | nil => simp
        | cons second pieces => simp [List.intercalate_cons_cons]

/-- A substitution joins the pieces with the replacement. -/
theorem substitute_eq : substitute matchers replacement cs =
    replacement.intercalate (split matchers cs) := substituteFrom_eq

/-! ## Pieces hold no occurrence -/

theorem lengthAt_eq_none : lengthAt matchers cs = none ↔
    ∀ m ∈ matchers, m.startsAt cs = false := by
  simp only [lengthAt, List.findSome?_eq_none_iff, Matcher.lengthAt]
  refine forall₂_congr fun m _ => ?_
  split <;> simp_all

/-- The patterns of matchers. -/
def patternsOf (matchers : List Matcher) : List Pattern := matchers.map (·.toPattern)

theorem found_nil (hwords : ∀ m ∈ matchers, m.word ≠ []) :
    found (patternsOf matchers) [] = false := by
  by_contra hfound
  rw [Bool.not_eq_false, found_iff] at hfound
  obtain ⟨rest, hrest, p, hp, hstarts⟩ := hfound
  obtain ⟨m, hm, rfl⟩ := List.mem_map.mp hp
  rw [List.suffix_nil.mp hrest, Pattern.startsAt, Bool.and_eq_true] at hstarts
  exact hwords m hm (List.length_eq_zero_iff.mp (Nat.le_zero.mp (length_le_of_fits hstarts.1)))

theorem found_cons {c : Char} {patterns : List Pattern} : found patterns (c :: cs) =
    (patterns.any (·.startsAt (c :: cs)) || found patterns cs) := by
  rw [found, List.tails_cons, List.any_cons, found]

theorem found_splitFrom (hwords : ∀ m ∈ matchers, m.word ≠ []) :
    ∀ piece ∈ splitFrom matchers taken cs, found (patternsOf matchers) piece = false := by
  induction cs generalizing taken with
  | nil => simpa [splitFrom] using found_nil hwords
  | cons c cs ih =>
    cases taken with
    | succ taken => exact ih
    | zero =>
      rw [splitFrom]
      split
      · rw [List.forall_mem_cons]
        exact ⟨found_nil hwords, ih⟩
      · next hnone =>
        obtain ⟨piece, pieces, hpieces, hprefix⟩ := exists_splitFrom matchers cs
        have hfree : ∀ piece ∈ splitFrom matchers 0 cs, _ := ih
        rw [hpieces] at hfree ⊢
        rw [List.modifyHead_cons, List.forall_mem_cons]
        rw [List.forall_mem_cons] at hfree
        refine ⟨?_, hfree.2⟩
        rw [found_cons, hfree.1, Bool.or_false, List.any_eq_false]
        intro p hp hstarts
        obtain ⟨m, hm, rfl⟩ := List.mem_map.mp hp
        obtain ⟨rest, hrest⟩ := hprefix
        have hstarts' := startsAt_append (r := rest) hstarts
        rw [List.cons_append, hrest, lengthAt_eq_none.mp hnone m hm] at hstarts'
        cases hstarts'

theorem found_split (hwords : ∀ m ∈ matchers, m.word ≠ []) :
    ∀ piece ∈ split matchers cs, found (patternsOf matchers) piece = false :=
  found_splitFrom hwords

theorem infix_of_mem_splitFrom : ∀ piece ∈ splitFrom matchers taken cs, piece <:+: cs := by
  induction cs generalizing taken with
  | nil => simp [splitFrom]
  | cons c cs ih =>
    have hmore {piece : List Char} (h : piece <:+: cs) : piece <:+: c :: cs :=
      h.trans (List.suffix_cons c cs).isInfix
    cases taken with
    | succ taken => exact fun piece hpiece => hmore (ih piece hpiece)
    | zero =>
      rw [splitFrom]
      split
      · rw [List.forall_mem_cons]
        exact ⟨ List.nil_infix, fun piece hpiece => hmore (ih piece hpiece)⟩
      · obtain ⟨piece, pieces, hpieces, hprefix⟩ := exists_splitFrom matchers cs
        have hparts : ∀ piece ∈ splitFrom matchers 0 cs, piece <:+: cs := ih
        rw [hpieces] at hparts ⊢
        rw [List.modifyHead_cons, List.forall_mem_cons]
        rw [List.forall_mem_cons] at hparts
        exact ⟨(List.cons_prefix_cons.mpr ⟨rfl, hprefix⟩).isInfix,
          fun piece hpiece => hmore (hparts.2 piece hpiece)⟩

theorem infix_of_mem_split {piece : List Char} (h : piece ∈ split matchers cs) : piece <:+: cs :=
  infix_of_mem_splitFrom piece h

/-- Where nothing is found, nothing is replaced. -/
theorem substitute_of_not_found (h : found (patternsOf matchers) cs = false) :
    substitute matchers replacement cs = cs := by
  induction cs with
  | nil => rfl
  | cons c cs ih =>
    rw [found_cons, Bool.or_eq_false_iff, List.any_eq_false] at h
    have hnone : lengthAt matchers (c :: cs) = none := lengthAt_eq_none.mpr fun m hm =>
      Bool.eq_false_of_not_eq_true (h.1 m.toPattern (List.mem_map_of_mem hm))
    rw [substitute, substituteFrom, hnone]
    exact congrArg _ (ih h.2)

/-- What is found is replaced, by a text that no word starts with. -/
theorem substitute_ne_of_found {d : Char} {ds : List Char} (hwords : ∀ m ∈ matchers, m.word ≠ [])
    (hd : ∀ m ∈ matchers, ∀ member ∈ m.word, member d = false)
    (h : found (patternsOf matchers) cs = true) : substitute matchers (d :: ds) cs ≠ cs := by
  induction cs with
  | nil => rw [found_nil hwords] at h; cases h
  | cons c cs ih =>
    rw [substitute, substituteFrom]
    split
    · next n hsome =>
      intro heq
      obtain ⟨rfl, -⟩ := List.cons.inj (List.cons_append ▸ heq)
      have hstarts : lengthAt matchers (d :: cs) ≠ none := by simp [hsome]
      refine hstarts (lengthAt_eq_none.mpr fun m hm => ?_)
      obtain ⟨member, word, hword⟩ := List.exists_cons_of_ne_nil (hwords m hm)
      rw [Pattern.startsAt, hword, fits, hd m hm member (hword ▸ List.mem_cons_self)]
      rfl
    · next hnone =>
      rw [found_cons, Bool.or_eq_true, List.any_eq_true] at h
      rcases h with ⟨p, hp, hstarts⟩ | h
      · obtain ⟨m, hm, rfl⟩ := List.mem_map.mp hp
        rw [lengthAt_eq_none.mp hnone m hm] at hstarts
        cases hstarts
      · exact fun heq => ih h (List.cons.inj heq).2

/-! ## Characters that no occurrence passes -/

variable {patterns : List Pattern} {b : Char} {word : List (Char → Bool)} {x y : List Char}

/-- No word of the patterns takes a character. -/
def Breaks (patterns : List Pattern) (b : Char) : Prop :=
  ∀ p ∈ patterns, ∀ member ∈ p.word, member b = false

theorem fits_of_break (hb : ∀ member ∈ word, member b = false)
    (h : fits word (x ++ b :: y) = true) : fits word x = true := by
  induction x generalizing word with
  | nil =>
    cases word with
    | nil => rfl
    | cons member word =>
      rw [List.nil_append, fits, hb member List.mem_cons_self] at h
      cases h
  | cons c x ih =>
    cases word with
    | nil => rfl
    | cons member word =>
      rw [List.cons_append, fits, Bool.and_eq_true] at h
      rw [fits, h.1, ih (fun member hmem => hb member (List.mem_cons_of_mem _ hmem)) h.2]
      rfl

/-- A suffix of two joined texts stands in the second, or reaches into the first. -/
theorem suffix_append_cases {t : List Char} (h : t <:+ x ++ y) :
    t <:+ y ∨ ∃ front, front <:+ x ∧ t = front ++ y := by
  obtain ⟨before, heq⟩ := h
  rcases List.append_eq_append_iff.mp heq with ⟨front, rfl, rfl⟩ | ⟨back, rfl, rfl⟩
  · exact .inr ⟨front, List.suffix_append _ _, rfl⟩
  · exact .inl (List.suffix_append _ _)

/-- Without runs, a text that holds such a character is searched on both sides of it. -/
theorem found_append_break (hb : Breaks patterns b) (hrun : ∀ p ∈ patterns, p.run = none) :
    found patterns (x ++ b :: y) = (found patterns x || found patterns y) := by
  rw [Bool.eq_iff_iff, Bool.or_eq_true]
  constructor
  · rintro h
    obtain ⟨t, ht, p, hp, hstarts⟩ := found_iff.mp h
    have hfront {front : List Char} (hsuffix : front <:+ x)
        (hfits : p.startsAt (front ++ b :: y) = true) : found patterns x = true := by
      rw [Pattern.startsAt, Bool.and_eq_true] at hfits
      refine found_iff.mpr ⟨front, hsuffix, p, hp, ?_⟩
      rw [Pattern.startsAt, fits_of_break (hb p hp) hfits.1, Pattern.runs, hrun p hp]
      rfl
    rcases suffix_append_cases ht with ht | ⟨front, hsuffix, rfl⟩
    · rcases List.suffix_cons_iff.mp ht with rfl | ht
      · exact .inl (hfront (List.nil_suffix) hstarts)
      · exact .inr (found_iff.mpr ⟨t, ht, p, hp, hstarts⟩)
    · exact .inl (hfront hsuffix hstarts)
  · rintro (h | h)
    · exact found_of_part h (List.prefix_append _ _).isInfix
    · exact found_of_part h ((List.suffix_cons b y).trans (List.suffix_append _ _)).isInfix

/-- Where it is no mark of a run either, such a character at the end does not matter. -/
theorem found_append_end (hb : Breaks patterns b)
    (hmark : ∀ p ∈ patterns, ∀ inside m, p.run = some (inside, m) → m ≠ b) :
    found patterns (x ++ [b]) = found patterns x := by
  rw [Bool.eq_iff_iff]
  constructor
  · intro h
    obtain ⟨t, ht, p, hp, hstarts⟩ := found_iff.mp h
    have hfront {front : List Char} (hsuffix : front <:+ x)
        (hstarts : p.startsAt (front ++ [b]) = true) : found patterns x = true := by
      rw [Pattern.startsAt, Bool.and_eq_true] at hstarts
      have hfits := fits_of_break (hb p hp) hstarts.1
      refine found_iff.mpr ⟨front, hsuffix, p, hp, ?_⟩
      rw [Pattern.startsAt, hfits, Bool.true_and]
      cases hrun : p.run with
      | none => rw [Pattern.runs, hrun]
      | some run =>
        obtain ⟨inside, m⟩ := run
        have hruns := hstarts.2
        rw [List.drop_append_of_le_length (length_le_of_fits hfits)] at hruns
        obtain ⟨name, rest, heq, hne, hall, hm⟩ := (runs_iff hrun).mp hruns
        rcases List.eq_nil_or_concat rest with rfl | ⟨rest, last, rfl⟩
        · obtain ⟨-, hlast⟩ := List.append_inj' heq rfl
          exact absurd (List.cons.inj hlast).1.symm (hmark p hp inside m hrun)
        · rw [List.concat_eq_append, ← List.cons_append, ← List.append_assoc] at heq
          obtain ⟨heq, -⟩ := List.append_inj' heq rfl
          exact (runs_iff hrun).mpr ⟨name, rest, heq, hne, hall, hm⟩
    rcases suffix_append_cases ht with ht | ⟨front, hsuffix, rfl⟩
    · rcases List.suffix_cons_iff.mp ht with rfl | ht
      · exact hfront List.nil_suffix hstarts
      · rw [List.suffix_nil.mp ht] at hstarts
        exact found_iff.mpr ⟨[], List.nil_suffix, p, hp, hstarts⟩
    · exact hfront hsuffix hstarts
  · exact fun h => found_of_part h (List.prefix_append _ _).isInfix

/-! ## Windows -/

/-- A replacement that no occurrence passes: its first character breaks every word, its mark ends every
run, and no occurrence starts in front of the mark. -/
structure Barrier (patterns : List Pattern) (body : List Char) (mark : Char) : Prop where
  breaks : ∃ b bs, body = b :: bs ∧ Breaks patterns b
  stops : ∀ p ∈ patterns, ∀ inside m, p.run = some (inside, m) → inside mark = false
  quiet : ∀ t, t <:+ body → t ≠ [] → ∀ rest, ∀ p ∈ patterns, p.startsAt (t ++ mark :: rest) = false

variable {body rest : List Char} {mark : Char} {p : Pattern} {pieces : List (List Char)}

/-- What stands behind the mark does not matter to a run. -/
theorem runs_of_stop (hstop : ∀ inside m, p.run = some (inside, m) → inside mark = false)
    (h : p.runs (x ++ mark :: rest) = true) : p.runs (x ++ [mark]) = true := by
  cases hrun : p.run with
  | none => rw [Pattern.runs, hrun]
  | some run =>
    obtain ⟨inside, m⟩ := run
    have hmark := hstop inside m hrun
    have hsame : (x ++ mark :: rest).takeWhile inside = (x ++ [mark]).takeWhile inside ∧
        ((x ++ mark :: rest).dropWhile inside).head? = ((x ++ [mark]).dropWhile inside).head? := by
      clear h
      induction x with
      | nil => simp [hmark]
      | cons c x ih =>
        simp only [List.cons_append, List.takeWhile_cons, List.dropWhile_cons]
        split
        · exact ⟨congrArg _ ih.1, ih.2⟩
        · exact ⟨rfl, rfl⟩
    simp only [Pattern.runs, hrun] at h ⊢
    rwa [hsame.1, hsame.2] at h

theorem startsAt_of_barrier (h : Barrier patterns body mark) (hp : p ∈ patterns)
    (hstarts : p.startsAt (x ++ body ++ mark :: rest) = true) :
    p.startsAt (x ++ body ++ [mark]) = true := by
  obtain ⟨b, bs, rfl, hbreaks⟩ := h.breaks
  rw [Pattern.startsAt, Bool.and_eq_true] at hstarts ⊢
  have hfits : fits p.word x = true := by
    refine fits_of_break (y := bs ++ mark :: rest) (hbreaks p hp) ?_
    simpa using hstarts.1
  have hdrop (z : List Char) : (x ++ (b :: bs) ++ z).drop p.word.length =
      x.drop p.word.length ++ (b :: bs) ++ z := by
    rw [List.append_assoc, List.drop_append_of_le_length (length_le_of_fits hfits),
      List.append_assoc]
  rw [hdrop] at hstarts ⊢
  rw [List.append_assoc]
  exact ⟨fits_append hfits, runs_of_stop (h.stops p hp) hstarts.2⟩

/-- An occurrence stands in front of the mark and ends with it at the latest, or starts at it. -/
theorem found_append_barrier (h : Barrier patterns body mark) :
    found patterns (x ++ body ++ mark :: rest) =
      (found patterns (x ++ body ++ [mark]) || found patterns (mark :: rest)) := by
  rw [Bool.eq_iff_iff, Bool.or_eq_true]
  constructor
  · intro hfound
    obtain ⟨t, ht, p, hp, hstarts⟩ := found_iff.mp hfound
    rcases suffix_append_cases ht with ht | ⟨front, hfront, rfl⟩
    · exact .inr (found_iff.mpr ⟨t, ht, p, hp, hstarts⟩)
    · rcases suffix_append_cases hfront with hbody | ⟨piece, hpiece, rfl⟩
      · by_cases hempty : front = []
        · subst hempty
          exact .inr (found_iff.mpr ⟨_, List.suffix_refl _, p, hp, hstarts⟩)
        · rw [h.quiet front hbody hempty rest p hp] at hstarts
          cases hstarts
      · refine .inl (found_iff.mpr ⟨piece ++ body ++ [mark], ?_, p, hp,
          startsAt_of_barrier h hp hstarts⟩)
        obtain ⟨before, rfl⟩ := hpiece
        exact ⟨before, by simp⟩
  · rintro (hfound | hfound)
    · exact found_of_part hfound ⟨[], rest, by simp⟩
    · exact found_of_part hfound (List.suffix_append _ _).isInfix

/-- Each piece with the mark of the replacement in front of it and the replacement behind it. -/
def windowsFrom (body : List Char) (mark : Char) : List Char → List (List Char) → List (List Char)
  | _, [] => []
  | lead, [piece] => [lead ++ piece]
  | lead, piece :: second :: pieces =>
    (lead ++ piece ++ body ++ [mark]) :: windowsFrom body mark [mark] (second :: pieces)

def windows (body : List Char) (mark : Char) (pieces : List (List Char)) : List (List Char) :=
  windowsFrom body mark [] pieces

theorem found_windowsFrom (h : Barrier patterns body mark) (hne : pieces ≠ []) (lead : List Char) :
    found patterns (lead ++ (body ++ [mark]).intercalate pieces) =
      (windowsFrom body mark lead pieces).any (found patterns) := by
  induction pieces generalizing lead with
  | nil => exact absurd rfl hne
  | cons piece pieces ih =>
    cases pieces with
    | nil => simp [windowsFrom]
    | cons second pieces =>
      have hsplit : lead ++ (body ++ [mark]).intercalate (piece :: second :: pieces) =
          (lead ++ piece) ++ body ++ mark :: (body ++ [mark]).intercalate (second :: pieces) := by
        simp [List.intercalate_cons_cons]
      rw [hsplit, found_append_barrier h, windowsFrom, List.any_cons,
        ← ih (List.cons_ne_nil _ _) [mark]]
      rfl

/-- Joined pieces hold what their windows hold. -/
theorem found_intercalate (h : Barrier patterns body mark) (hne : pieces ≠ []) :
    found patterns ((body ++ [mark]).intercalate pieces) =
      (windows body mark pieces).any (found patterns) :=
  found_windowsFrom h hne []

end TextSearch
