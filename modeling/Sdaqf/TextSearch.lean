import Mathlib.Data.List.Infix
import Sdaqf.JsonSpelling

/-!
# Searching texts

A pattern reads a word, one character of a class at a time, and perhaps a run of characters up to a
mark. A spelled text is searched as it is spelled, so an occurrence whose fixed characters stand for
themselves is found in the spelling too; the characters of a run may be spelled in any way that stays
within the run.
-/

namespace TextSearch

open JsonText (SpelledChar spell decode)

/-- The first characters are of the classes of a word, one each. -/
def fits : List (Char → Bool) → List Char → Bool
  | [], _ => true
  | _ :: _, [] => false
  | member :: word, c :: cs => member c && fits word cs

structure Pattern where
  word : List (Char → Bool)
  /-- A class for one or more characters after the word, and the mark that ends them. -/
  run : Option ((Char → Bool) × Char) := none

namespace Pattern

variable (p : Pattern)

/-- What follows the word is a run and its mark. -/
def runs (cs : List Char) : Bool :=
  match p.run with
  | none => true
  | some (inside, mark) =>
    !(cs.takeWhile inside).isEmpty && (cs.dropWhile inside).head? = some mark

/-- A text starts with an occurrence of the pattern. -/
def startsAt (cs : List Char) : Bool := fits p.word cs && p.runs (cs.drop p.word.length)

end Pattern

/-- One of the patterns occurs in a text. -/
def found (patterns : List Pattern) (cs : List Char) : Bool :=
  cs.tails.any fun rest => patterns.any fun p => p.startsAt rest

variable {word : List (Char → Bool)} {cs r : List Char} {p : Pattern} {patterns : List Pattern}

theorem found_iff : found patterns cs = true ↔
    ∃ rest, rest <:+ cs ∧ ∃ p ∈ patterns, p.startsAt rest = true := by
  simp only [found, List.any_eq_true, List.mem_tails]

/-! ## Longer texts -/

theorem length_le_of_fits (h : fits word cs = true) : word.length ≤ cs.length := by
  induction word generalizing cs with
  | nil => exact Nat.zero_le _
  | cons member word ih =>
    cases cs with
    | nil => cases h
    | cons c cs =>
      rw [fits, Bool.and_eq_true] at h
      exact Nat.succ_le_succ (ih h.2)

theorem fits_take (h : fits word cs = true) : fits word (cs.take word.length) = true := by
  induction word generalizing cs with
  | nil => rfl
  | cons member word ih =>
    cases cs with
    | nil => cases h
    | cons c cs =>
      rw [fits, Bool.and_eq_true] at h
      rw [List.length_cons, List.take_succ_cons, fits, h.1, ih h.2, Bool.and_self]

theorem fits_append (h : fits word cs = true) : fits word (cs ++ r) = true := by
  induction word generalizing cs with
  | nil => rfl
  | cons member word ih =>
    cases cs with
    | nil => cases h
    | cons c cs =>
      rw [fits, Bool.and_eq_true] at h
      rw [List.cons_append, fits, h.1, ih h.2, Bool.and_self]

/-- A run in front of its mark. -/
theorem runs_iff {inside : Char → Bool} {mark : Char} (hrun : p.run = some (inside, mark)) :
    p.runs cs = true ↔ ∃ front rest, cs = front ++ mark :: rest ∧ front ≠ [] ∧
      front.all inside = true ∧ inside mark = false := by
  simp only [Pattern.runs, hrun, Bool.and_eq_true, Bool.not_eq_true', List.isEmpty_eq_false_iff,
    decide_eq_true_eq]
  constructor
  · rintro ⟨hfront, hmark⟩
    obtain ⟨rest, hrest⟩ : ∃ rest, cs.dropWhile inside = mark :: rest := by
      cases hdrop : cs.dropWhile inside with
      | nil => rw [hdrop] at hmark; cases hmark
      | cons c rest => rw [hdrop, List.head?_cons, Option.some.injEq] at hmark; exact ⟨rest, by rw [hmark]⟩
    refine ⟨cs.takeWhile inside, rest, ?_, hfront, List.all_takeWhile, ?_⟩
    · rw [← hrest, List.takeWhile_append_dropWhile]
    · have hhead := List.head?_dropWhile_not inside cs
      rw [hrest] at hhead
      simpa using hhead
  · rintro ⟨front, rest, rfl, hfront, hall, hmark⟩
    rw [List.all_eq_true] at hall
    rw [List.takeWhile_append_of_pos hall, List.dropWhile_append_of_pos hall]
    simp [hmark, hfront]

theorem runs_append (h : p.runs cs = true) : p.runs (cs ++ r) = true := by
  cases hrun : p.run with
  | none => simp only [Pattern.runs, hrun]
  | some run =>
    obtain ⟨inside, mark⟩ := run
    obtain ⟨front, rest, rfl, hfront, hall, hmark⟩ := (runs_iff hrun).mp h
    exact (runs_iff hrun).mpr ⟨front, rest ++ r, by simp, hfront, hall, hmark⟩

theorem startsAt_append (h : p.startsAt cs = true) : p.startsAt (cs ++ r) = true := by
  rw [Pattern.startsAt, Bool.and_eq_true] at h ⊢
  refine ⟨fits_append h.1, ?_⟩
  rw [List.drop_append_of_le_length (length_le_of_fits h.1)]
  exact runs_append h.2

/-- What is found in a part of a text is found in the text. -/
theorem found_of_part {t : List Char} (h : found patterns cs = true) (ht : cs <:+: t) :
    found patterns t = true := by
  obtain ⟨rest, ⟨front, rfl⟩, p, hp, hstarts⟩ := found_iff.mp h
  obtain ⟨before, after, rfl⟩ := ht
  exact found_iff.mpr ⟨rest ++ after, ⟨before ++ front, by simp⟩, p, hp, startsAt_append hstarts⟩

/-- The parts of a text without occurrences have none. -/
theorem not_found_of_part {t : List Char} (h : found patterns t = false) (ht : cs <:+: t) :
    found patterns cs = false :=
  Bool.eq_false_of_not_eq_true fun hfound => by simp [found_of_part hfound ht] at h

/-! ## Spelled texts -/

/-- A character that does not stand for itself. -/
def escaped (u : SpelledChar) : Bool := u.spelling ≠ [u.char]

/-- The characters that an occurrence fixes: those of the word and the mark after the run. -/
def Pattern.fixed (p : Pattern) (us : List SpelledChar) : List SpelledChar :=
  us.take p.word.length ++
    match p.run with
    | none => []
    | some (inside, _) => ((us.drop p.word.length).dropWhile fun u => inside u.char).take 1

/-- A spelled text holds an occurrence with an escaped character outside its run. -/
def hides (patterns : List Pattern) (us : List SpelledChar) : Bool :=
  us.tails.any fun rest => patterns.any fun p =>
    p.startsAt (rest.map (·.char)) && (p.fixed rest).any escaped

/-- The spelling of a character stays within the run of every pattern that holds the character. -/
def StaysWithin (patterns : List Pattern) (u : SpelledChar) : Prop :=
  u.spelling ≠ [] ∧ ∀ p ∈ patterns, ∀ inside mark, p.run = some (inside, mark) →
    inside u.char = true → u.spelling.all inside = true

theorem spell_of_plain {us : List SpelledChar} (h : us.any escaped = false) :
    spell us = us.map (·.char) := by
  induction us with
  | nil => rfl
  | cons u us ih =>
    rw [List.any_cons, Bool.or_eq_false_iff] at h
    have hu : u.spelling = [u.char] := by simpa [escaped] using h.1
    rw [spell, List.flatMap_cons, hu, List.map_cons, List.singleton_append]
    exact congrArg _ (ih h.2)

theorem spell_append {us vs : List SpelledChar} : spell (us ++ vs) = spell us ++ spell vs :=
  List.flatMap_append

/-- A run whose mark stands for itself is a run as it is spelled. -/
theorem runs_spell {us : List SpelledChar} (hp : p ∈ patterns)
    (hstay : ∀ u ∈ us, StaysWithin patterns u) (h : p.runs (us.map (·.char)) = true)
    (hplain : ∀ inside mark, p.run = some (inside, mark) →
      ((us.dropWhile fun u => inside u.char).take 1).any escaped = false) :
    p.runs (spell us) = true := by
  cases hrun : p.run with
  | none => simp only [Pattern.runs, hrun]
  | some run =>
    obtain ⟨inside, mark⟩ := run
    obtain ⟨chars, others, hsplit, hfront, hall, hmark⟩ := (runs_iff hrun).mp h
    obtain ⟨front, back, rfl, rfl, hback⟩ := List.map_eq_append_iff.mp hsplit
    obtain ⟨m, rest, rfl, rfl, rfl⟩ := List.map_eq_cons_iff.mp hback
    rw [List.all_map, List.all_eq_true] at hall
    have hm : m.spelling = [m.char] := by
      have hplain := hplain inside m.char hrun
      rw [List.dropWhile_append_of_pos (p := fun u : SpelledChar => inside u.char) hall,
        List.dropWhile_cons_of_neg (by simp [hmark])] at hplain
      simpa [escaped] using hplain
    refine (runs_iff hrun).mpr ⟨spell front, spell rest, ?_, ?_, ?_, hmark⟩
    · rw [spell_append, spell, spell, spell, List.flatMap_cons, hm, List.singleton_append]
    · obtain ⟨u, front, rfl⟩ := List.exists_cons_of_ne_nil (mt List.map_eq_nil_iff.mpr hfront)
      rw [spell, List.flatMap_cons]
      exact List.append_ne_nil_of_left_ne_nil (hstay u (by simp)).1 _
    · rw [List.all_eq_true, spell]
      intro c hc
      obtain ⟨u, hu, hc⟩ := List.mem_flatMap.mp hc
      have hwithin := (hstay u (List.mem_append_left _ hu)).2 p hp inside m.char hrun (hall u hu)
      exact List.all_eq_true.mp hwithin c hc

/-- An occurrence without escaped characters outside its run is found in the spelling. -/
theorem startsAt_spell {us : List SpelledChar} (hp : p ∈ patterns)
    (hstay : ∀ u ∈ us, StaysWithin patterns u) (h : p.startsAt (us.map (·.char)) = true)
    (hplain : (p.fixed us).any escaped = false) : p.startsAt (spell us) = true := by
  rw [Pattern.startsAt, Bool.and_eq_true] at h
  obtain ⟨hfits, hruns⟩ := h
  have hlength : p.word.length ≤ us.length := by simpa using length_le_of_fits hfits
  rw [Pattern.fixed, List.any_append, Bool.or_eq_false_iff] at hplain
  obtain ⟨hword, hmark⟩ := hplain
  have hspell : spell us =
      (us.map (·.char)).take p.word.length ++ spell (us.drop p.word.length) := by
    rw [← List.map_take, ← spell_of_plain hword, ← spell_append, List.take_append_drop]
  have hsize : ((us.map (·.char)).take p.word.length).length = p.word.length := by
    rw [List.length_take, List.length_map, Nat.min_eq_left hlength]
  rw [Pattern.startsAt, Bool.and_eq_true, hspell, List.drop_left' hsize]
  refine ⟨fits_append (fits_take hfits), runs_spell hp (fun u hu => hstay u (List.mem_of_mem_drop hu))
    (List.map_drop ▸ hruns) fun inside mark hrun => ?_⟩
  rw [hrun] at hmark
  exact hmark

/-- What a spelled text holds is found in its spelling, or else some occurrence hides. -/
theorem found_or_hides {us : List SpelledChar} (hstay : ∀ u ∈ us, StaysWithin patterns u)
    (h : found patterns (us.map (·.char)) = true) :
    found patterns (spell us) = true ∨ hides patterns us = true := by
  obtain ⟨chars, ⟨before, hsplit⟩, p, hp, hstarts⟩ := found_iff.mp h
  obtain ⟨front, rest, rfl, -, rfl⟩ := List.map_eq_append_iff.mp hsplit.symm
  cases hplain : (p.fixed rest).any escaped with
  | true =>
    refine .inr (List.any_eq_true.mpr ⟨rest, (List.mem_tails _ _).mpr (List.suffix_append _ _), ?_⟩)
    exact List.any_eq_true.mpr ⟨p, hp, by rw [hstarts, hplain, Bool.and_self]⟩
  | false =>
    refine .inl (found_iff.mpr ⟨spell rest, ⟨spell front, spell_append.symm⟩, p, hp, ?_⟩)
    exact startsAt_spell hp (fun u hu => hstay u (List.mem_append_right _ hu)) hstarts hplain

/-- An occurrence that hides is an occurrence. -/
theorem found_of_hides {us : List SpelledChar} (h : hides patterns us = true) :
    found patterns (us.map (·.char)) = true := by
  obtain ⟨rest, hrest, h⟩ := List.any_eq_true.mp h
  obtain ⟨p, hp, h⟩ := List.any_eq_true.mp h
  rw [Bool.and_eq_true] at h
  exact found_iff.mpr ⟨_, ((List.mem_tails _ _).mp hrest).map _, p, hp, h.1⟩

end TextSearch
