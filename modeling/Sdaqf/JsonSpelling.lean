import Sdaqf.JsonSizes

/-!
# Spelled texts

A text can spell one character in several ways: as itself, behind a backslash or as code units. The
reader here reads the same values as the plain one and keeps, for every character of a text, how the
character is spelled. What it keeps stands in the text, character by character.
-/

namespace JsonText

/-! ## Spellings -/

/-- One character of a string with its spelling in a text. -/
structure SpelledChar where
  spelling : List Char
  char : Char
deriving DecidableEq

/-- Read one character of a string and how it is spelled. -/
def readSpelledChar (cs : List Char) : Option (SpelledChar × List Char) :=
  (readChar cs).map fun p => (⟨cs.take (cs.length - p.2.length), p.1⟩, p.2)

/-- Read the rest of a string and how it is spelled. -/
def readSpelling : Nat → List Char → Option (List SpelledChar × List Char)
  | 0, _ => none
  | _ + 1, '"' :: cs => some ([], cs)
  | n + 1, cs => do
    let (u, rest) ← readSpelledChar cs
    let (us, rest) ← readSpelling n rest
    return (u :: us, rest)

/-- A value whose texts keep their spelling. -/
inductive Spelled
  | null
  | boolean (b : Bool)
  | number (n : Int)
  | text (units : List SpelledChar)
  | array (items : List Spelled)
  | object (members : List (String × Spelled))

/-- What a spelling stands for. -/
def decode (units : List SpelledChar) : String := String.ofList (units.map (·.char))

/-- How a spelling stands in the text. -/
def spell (units : List SpelledChar) : List Char := units.flatMap (·.spelling)

namespace Spelled

mutual
/-- The value that a spelled value stands for. -/
def value : Spelled → Value
  | .null => .null
  | .boolean b => .boolean b
  | .number n => .number n
  | .text units => .text (decode units)
  | .array items => .array (values items)
  | .object members => .object (memberValues members)
def values : List Spelled → List Value
  | [] => []
  | v :: items => v.value :: values items
def memberValues : List (String × Spelled) → List (String × Value)
  | [] => []
  | (key, v) :: members => (key, v.value) :: memberValues members
end

end Spelled

/-- A number is spelled one way only. -/
def ofNumber : Value → Spelled
  | .number n => .number n
  | _ => .null

mutual
/-- Read one value and how its texts are spelled. -/
def readSpelled : Nat → List Char → Option (Spelled × List Char)
  | 0, _ => none
  | n + 1, cs =>
    match cs with
    | '"' :: cs => (readSpelling n cs).map fun p => (.text p.1, p.2)
    | '[' :: cs =>
      match skip cs with
      | ']' :: rest => some (.array [], rest)
      | cs => (readSpelledItems n cs).map fun p => (.array p.1, p.2)
    | '{' :: cs =>
      match skip cs with
      | '}' :: rest => some (.object [], rest)
      | cs => (readSpelledMembers n cs).map fun p => (.object p.1, p.2)
    | 'n' :: 'u' :: 'l' :: 'l' :: rest => some (.null, rest)
    | 't' :: 'r' :: 'u' :: 'e' :: rest => some (.boolean true, rest)
    | 'f' :: 'a' :: 'l' :: 's' :: 'e' :: rest => some (.boolean false, rest)
    | cs => (readNumber cs).map fun p => (ofNumber p.1, p.2)
/-- Read the items of an array up to its end. -/
def readSpelledItems : Nat → List Char → Option (List Spelled × List Char)
  | 0, _ => none
  | n + 1, cs => do
    let (v, rest) ← readSpelled n cs
    match skip rest with
    | ',' :: rest => do
      let (items, rest) ← readSpelledItems n (skip rest)
      return (v :: items, rest)
    | ']' :: rest => some ([v], rest)
    | _ => none
/-- Read the members of an object up to its end. -/
def readSpelledMembers : Nat → List Char → Option (List (String × Spelled) × List Char)
  | 0, _ => none
  | n + 1, cs =>
    match cs with
    | '"' :: cs => do
      let (key, rest) ← readText n cs
      match skip rest with
      | ':' :: rest => do
        let (v, rest) ← readSpelled n (skip rest)
        match skip rest with
        | ',' :: rest => do
          let (members, rest) ← readSpelledMembers n (skip rest)
          return ((String.ofList key, v) :: members, rest)
        | '}' :: rest => some ([(String.ofList key, v)], rest)
        | _ => none
      | _ => none
    | _ => none
end

variable {n : Nat} {cs r : List Char}

theorem readChar_eq : readChar cs = (readSpelledChar cs).map fun p => (p.1.char, p.2) := by
  rw [readSpelledChar, Option.map_map]
  exact Option.map_id'.symm

theorem readText_eq : readText n cs =
    (readSpelling n cs).map fun p => (p.1.map (·.char), p.2) := by
  induction n generalizing cs with
  | zero => rfl
  | succ n ih =>
    by_cases hquote : ∃ rest, cs = '"' :: rest
    · obtain ⟨rest, rfl⟩ := hquote
      rfl
    · have hother (rest : List Char) (h : cs = '"' :: rest) : False := hquote ⟨rest, h⟩
      rw [readText, readSpelling, readChar_eq]
      · cases readSpelledChar cs with
        | none => rfl
        | some p =>
          simp only [Option.pure_def, Option.bind_eq_bind, Option.map_some, Option.bind_some, ih]
          cases readSpelling n p.2 <;> rfl
      all_goals exact hother

theorem readNumber_number {v : Value} (h : readNumber cs = some (v, r)) : (ofNumber v).value = v := by
  unfold readNumber at h
  split at h
  all_goals
    obtain ⟨p, -, hp⟩ := Option.map_eq_some_iff.mp h
    cases hp
    rfl

/-- Reading with the spelling finds the same values in the same places. -/
theorem read_eq (n : Nat) : (∀ cs, readValue n cs =
      (readSpelled n cs).map fun p => (p.1.value, p.2)) ∧
    (∀ cs, readItems n cs = (readSpelledItems n cs).map fun p => (Spelled.values p.1, p.2)) ∧
    ∀ cs, readMembers n cs =
      (readSpelledMembers n cs).map fun p => (Spelled.memberValues p.1, p.2) := by
  induction n with
  | zero => exact ⟨fun _ => rfl, fun _ => rfl, fun _ => rfl⟩
  | succ n ih =>
    obtain ⟨hvalue, hitems, hmembers⟩ := ih
    refine ⟨fun cs => ?_, fun cs => ?_, fun cs => ?_⟩
    · unfold readValue
      split
      · rw [readSpelled, readText_eq, Option.map_map, Option.map_map]
        rfl
      · rw [readSpelled]
        generalize skip _ = t
        split
        · rfl
        · rename_i hother
          rw [hitems, Option.map_map]
          try split
          all_goals first | exact absurd rfl (hother _) | (rw [Option.map_map]; rfl)
      · rw [readSpelled]
        generalize skip _ = t
        split
        · rfl
        · rename_i hother
          rw [hmembers, Option.map_map]
          try split
          all_goals first | exact absurd rfl (hother _) | (rw [Option.map_map]; rfl)
      · rfl
      · rfl
      · rfl
      · rw [readSpelled, Option.map_map]
        · cases hnumber : readNumber cs with
          | none => rfl
          | some p => simp only [Option.map_some, Function.comp, readNumber_number hnumber]
        all_goals assumption
    · unfold readItems readSpelledItems
      simp only [hvalue, Option.pure_def, Option.bind_eq_bind]
      cases readSpelled n cs with
      | none => rfl
      | some p =>
        simp only [Option.map_some, Option.bind_some]
        generalize skip p.2 = t
        split
        · simp only [hitems]
          cases readSpelledItems n (skip _) <;> rfl
        · rfl
        · rename_i hcomma hend
          try split
          all_goals first | rfl | exact absurd rfl (hcomma _) | exact absurd rfl (hend _)
    · unfold readMembers readSpelledMembers
      split
      · simp only [Option.pure_def, Option.bind_eq_bind]
        cases readText n _ with
        | none => rfl
        | some p =>
          simp only [Option.bind_some]
          generalize skip p.2 = t
          split
          · simp only [hvalue]
            cases readSpelled n (skip _) with
            | none => rfl
            | some p =>
              simp only [Option.map_some, Option.bind_some]
              generalize skip p.2 = t
              split
              · simp only [hmembers]
                cases readSpelledMembers n (skip _) <;> rfl
              · rfl
              · rename_i hcomma hend
                try split
                all_goals first | rfl | exact absurd rfl (hcomma _) | exact absurd rfl (hend _)
          · rename_i hcolon
            try split
            all_goals first | rfl | exact absurd rfl (hcolon _)
      · rename_i hquote
        try split
        all_goals first | rfl | exact absurd rfl (hquote _)

/-! ## What a spelling looks like -/

/-- A character that an escaped code unit is written with. -/
def isUnitChar (c : Char) : Bool := (hexValue c).isSome || c = '\\' || c = 'u'

/-- How one character can be spelled. -/
inductive Spells : List Char → Char → Prop
  | plain (c : Char) : Spells [c] c
  | short {x c : Char} (h : unescape x = some c) : Spells ['\\', x] c
  | unit {c : Char} {digits : List Char} (h : digits.all isUnitChar = true) :
    Spells ('\\' :: 'u' :: digits) c

theorem readUnit_eq_some {k : Nat} (h : readUnit cs = some (k, r)) :
    ∃ digits, cs = digits ++ r ∧ digits.all isUnitChar = true := by
  unfold readUnit at h
  split at h
  · rename_i a b c d rest
    simp only [Option.pure_def, Option.bind_eq_bind, Option.bind_eq_some_iff, Option.some.injEq,
      Prod.mk.injEq] at h
    obtain ⟨_, ha, _, hb, _, hc, _, hd, -, rfl⟩ := h
    exact ⟨[a, b, c, d], rfl, by simp [isUnitChar, ha, hb, hc, hd]⟩
  · cases h

theorem readChar_eq_some {c : Char} (h : readChar cs = some (c, r)) :
    ∃ used, cs = used ++ r ∧ Spells used c := by
  unfold readChar at h
  split at h
  · simp only [Option.pure_def, Option.bind_eq_bind, Option.bind_eq_some_iff] at h
    obtain ⟨⟨first, rest⟩, hfirst, h⟩ := h
    obtain ⟨digits, rfl, hdigits⟩ := readUnit_eq_some hfirst
    split_ifs at h
    · unfold readPair at h
      split at h
      · rename_i hrest
        dsimp only at hrest
        subst hrest
        simp only [Option.pure_def, Option.bind_eq_bind, Option.bind_eq_some_iff] at h
        obtain ⟨⟨second, rest'⟩, hsecond, h⟩ := h
        obtain ⟨digits', rfl, hdigits'⟩ := readUnit_eq_some hsecond
        split_ifs at h
        obtain ⟨rfl, rfl⟩ := Prod.mk.inj (Option.some.inj h)
        refine ⟨'\\' :: 'u' :: (digits ++ '\\' :: 'u' :: digits'), by simp, .unit ?_⟩
        simp only [List.all_append, List.all_cons, hdigits, hdigits']
        decide
      · cases h
    · cases h
      exact ⟨'\\' :: 'u' :: digits, rfl, .unit hdigits⟩
  · obtain ⟨c, hc, h⟩ := Option.map_eq_some_iff.mp h
    cases h
    exact ⟨_, rfl, .short hc⟩
  · split_ifs at h
    cases h
    exact ⟨_, rfl, .plain _⟩
  · cases h

theorem readSpelledChar_eq_some {u : SpelledChar} (h : readSpelledChar cs = some (u, r)) :
    cs = u.spelling ++ r ∧ Spells u.spelling u.char := by
  obtain ⟨⟨c, rest⟩, hread, h⟩ := Option.map_eq_some_iff.mp h
  cases h
  obtain ⟨used, rfl, hused⟩ := readChar_eq_some hread
  simp only [List.length_append, Nat.add_sub_cancel, List.take_left]
  exact ⟨trivial, hused⟩

theorem readSpelling_eq_some {us : List SpelledChar} (h : readSpelling n cs = some (us, r)) :
    cs = spell us ++ '"' :: r ∧ ∀ u ∈ us, Spells u.spelling u.char := by
  induction n generalizing cs us with
  | zero => cases h
  | succ n ih =>
    by_cases hquote : ∃ rest, cs = '"' :: rest
    · obtain ⟨rest, rfl⟩ := hquote
      cases h
      exact ⟨rfl, by simp⟩
    · rw [readSpelling] at h
      · simp only [Option.pure_def, Option.bind_eq_bind, Option.bind_eq_some_iff] at h
        obtain ⟨⟨u, rest⟩, hu, ⟨us, rest'⟩, hus, h⟩ := h
        cases h
        obtain ⟨rfl, hspells⟩ := readSpelledChar_eq_some hu
        obtain ⟨rfl, hall⟩ := ih hus
        exact ⟨by simp [spell], List.forall_mem_cons.mpr ⟨hspells, hall⟩⟩
      · exact fun rest h => hquote ⟨rest, h⟩

/-! ## The texts a reader keeps -/

namespace Value

mutual
/-- The texts of a value. Of several members with one key the last one counts. -/
def kept : Value → List String
  | .text s => [s]
  | .array items => keptItems items
  | .object members => keptMembers members
  | _ => []
def keptItems : List Value → List String
  | [] => []
  | v :: items => v.kept ++ keptItems items
def keptMembers : List (String × Value) → List String
  | [] => []
  | (key, v) :: members =>
    (if key ∈ members.map Prod.fst then [] else v.kept) ++ keptMembers members
end

end Value

/-- The value of a key in a decoded object. Of several members with one key the last one counts. -/
def lastOf : List (String × Value) → String → Option Value
  | [], _ => none
  | (k, v) :: members, key =>
    match lastOf members key with
    | some w => some w
    | none => if key = k then some v else none

theorem lastOf_eq_none {members : List (String × Value)} {key : String} :
    lastOf members key = none ↔ key ∉ members.map Prod.fst := by
  induction members with
  | nil => simp [lastOf]
  | cons m members ih =>
    rw [lastOf, List.map_cons, List.mem_cons, not_or, ← ih]
    cases lastOf members key <;> simp

theorem mem_keptMembers {members : List (String × Value)} {s : String} :
    s ∈ Value.keptMembers members ↔ ∃ key v, lastOf members key = some v ∧ s ∈ v.kept := by
  induction members with
  | nil => simp [Value.keptMembers, lastOf]
  | cons m members ih =>
    obtain ⟨k, v⟩ := m
    rw [Value.keptMembers, List.mem_append, ih]
    constructor
    · rintro (hs | ⟨key, w, hlast, hs⟩)
      · split at hs
        · cases hs
        · rename_i hk
          exact ⟨k, v, by rw [lastOf, lastOf_eq_none.mpr hk]; simp, hs⟩
      · exact ⟨key, w, by rw [lastOf, hlast], hs⟩
    · rintro ⟨key, w, hlast, hs⟩
      cases hrest : lastOf members key with
      | some _ =>
        rw [lastOf, hrest] at hlast
        cases hlast
        exact .inr ⟨key, _, hrest, hs⟩
      | none =>
        rw [lastOf, hrest] at hlast
        split_ifs at hlast with hk
        cases hlast
        subst hk
        rw [if_neg (lastOf_eq_none.mp hrest)]
        exact .inl hs

namespace Spelled

mutual
/-- How the texts of a value are spelled. Of several members with one key the last one counts. -/
def kept : Spelled → List (List SpelledChar)
  | .text units => [units]
  | .array items => keptItems items
  | .object members => keptMembers members
  | _ => []
def keptItems : List Spelled → List (List SpelledChar)
  | [] => []
  | v :: items => v.kept ++ keptItems items
def keptMembers : List (String × Spelled) → List (List SpelledChar)
  | [] => []
  | (key, v) :: members =>
    (if key ∈ members.map Prod.fst then [] else v.kept) ++ keptMembers members
end

theorem memberValues_keys {members : List (String × Spelled)} :
    (memberValues members).map Prod.fst = members.map Prod.fst := by
  induction members with
  | nil => rfl
  | cons m members ih => rw [memberValues, List.map_cons, List.map_cons, ih]

mutual
/-- The texts that are kept are the kept spellings decoded. -/
theorem kept_value : ∀ v : Spelled, v.value.kept = v.kept.map decode
  | .null | .boolean _ | .number _ | .text _ => rfl
  | .array items => by rw [value, Value.kept, kept, keptItems_values items]
  | .object members => by rw [value, Value.kept, kept, keptMembers_memberValues members]
theorem keptItems_values : ∀ items : List Spelled,
    Value.keptItems (values items) = (keptItems items).map decode
  | [] => rfl
  | v :: items => by
    rw [values, Value.keptItems, keptItems, kept_value v, keptItems_values items, List.map_append]
theorem keptMembers_memberValues : ∀ members : List (String × Spelled),
    Value.keptMembers (memberValues members) = (keptMembers members).map decode
  | [] => rfl
  | (key, v) :: members => by
    rw [memberValues, Value.keptMembers, keptMembers, kept_value v,
      keptMembers_memberValues members, memberValues_keys, List.map_append]
    split <;> rfl
end

/-- The spellings stand in a text. -/
def Within (cs : List Char) (kept : List (List SpelledChar)) : Prop :=
  ∀ us ∈ kept, spell us <:+: cs ∧ ∀ u ∈ us, Spells u.spelling u.char

theorem Within.mono {t : List Char} {kept : List (List SpelledChar)} (h : Within t kept)
    (ht : t <:+ cs) : Within cs kept :=
  fun us hus => ⟨(h us hus).1.trans ht.isInfix, (h us hus).2⟩

theorem Within.append {kept kept' : List (List SpelledChar)} (h : Within cs kept)
    (h' : Within cs kept') : Within cs (kept ++ kept') :=
  List.forall_mem_append.mpr ⟨h, h'⟩

end Spelled

theorem skip_suffix : skip cs <:+ cs := List.dropWhile_suffix _

theorem skip_suffix_cons {c : Char} : skip cs <:+ c :: cs :=
  skip_suffix.trans (List.suffix_cons c cs)

theorem suffix_of_skip {c : Char} {t : List Char} (h : skip cs = c :: t) : t <:+ cs :=
  (List.suffix_cons c t).trans (h ▸ skip_suffix)

theorem readText_suffix {s : List Char} (h : readText n cs = some (s, r)) : r <:+ cs := by
  rw [readText_eq] at h
  obtain ⟨⟨us, rest⟩, hus, h⟩ := Option.map_eq_some_iff.mp h
  cases h
  obtain ⟨rfl, -⟩ := readSpelling_eq_some hus
  exact ⟨spell us ++ ['"'], by simp⟩

theorem readNumber_suffix {v : Value} (h : readNumber cs = some (v, r)) : r <:+ cs := by
  have hdigits {cs r : List Char} {k : Nat} (h : readDigits cs = some (k, r)) : r <:+ cs := by
    unfold readDigits at h
    dsimp only at h
    split_ifs at h
    cases h
    exact List.dropWhile_suffix _
  unfold readNumber at h
  split at h
  · obtain ⟨⟨k, rest⟩, hread, h⟩ := Option.map_eq_some_iff.mp h
    cases h
    exact (hdigits hread).trans (List.suffix_cons _ _)
  · obtain ⟨⟨k, rest⟩, hread, h⟩ := Option.map_eq_some_iff.mp h
    cases h
    exact hdigits hread

theorem kept_ofNumber {v : Value} : (ofNumber v).kept = [] := by
  cases v <;> rfl

/-- What is read stands in the text, and the rest of the text follows it. -/
theorem readSpelled_within (n : Nat) :
    (∀ cs v r, readSpelled n cs = some (v, r) → r <:+ cs ∧ Spelled.Within cs v.kept) ∧
    (∀ cs items r, readSpelledItems n cs = some (items, r) →
      r <:+ cs ∧ Spelled.Within cs (Spelled.keptItems items)) ∧
    ∀ cs members r, readSpelledMembers n cs = some (members, r) →
      r <:+ cs ∧ Spelled.Within cs (Spelled.keptMembers members) := by
  induction n with
  | zero => exact ⟨fun _ _ _ h => (nomatch h), fun _ _ _ h => (nomatch h), fun _ _ _ h => (nomatch h)⟩
  | succ n ih =>
    obtain ⟨hvalue, hitems, hmembers⟩ := ih
    refine ⟨fun cs v r h => ?_, fun cs items r h => ?_, fun cs members r h => ?_⟩
    · unfold readSpelled at h
      split at h
      · obtain ⟨⟨us, rest⟩, hus, h⟩ := Option.map_eq_some_iff.mp h
        cases h
        obtain ⟨rfl, hspells⟩ := readSpelling_eq_some hus
        refine ⟨⟨'"' :: (spell us ++ ['"']), by simp⟩, ?_⟩
        simp only [Spelled.kept, Spelled.Within, List.forall_mem_singleton]
        exact ⟨⟨['"'], '"' :: rest, by simp⟩, hspells⟩
      · split at h
        · rename_i heq
          cases h
          exact ⟨(suffix_of_skip heq).trans (List.suffix_cons _ _),
            by simp [Spelled.Within, Spelled.kept, Spelled.keptItems]⟩
        · obtain ⟨⟨items, rest⟩, hread, h⟩ := Option.map_eq_some_iff.mp h
          cases h
          obtain ⟨hrest, hwithin⟩ := hitems _ _ _ hread
          exact ⟨hrest.trans skip_suffix_cons, hwithin.mono skip_suffix_cons⟩
      · split at h
        · rename_i heq
          cases h
          exact ⟨(suffix_of_skip heq).trans (List.suffix_cons _ _),
            by simp [Spelled.Within, Spelled.kept, Spelled.keptMembers]⟩
        · obtain ⟨⟨members, rest⟩, hread, h⟩ := Option.map_eq_some_iff.mp h
          cases h
          obtain ⟨hrest, hwithin⟩ := hmembers _ _ _ hread
          exact ⟨hrest.trans skip_suffix_cons, hwithin.mono skip_suffix_cons⟩
      · cases h
        exact ⟨⟨['n', 'u', 'l', 'l'], rfl⟩, by simp [Spelled.Within, Spelled.kept]⟩
      · cases h
        exact ⟨⟨['t', 'r', 'u', 'e'], rfl⟩, by simp [Spelled.Within, Spelled.kept]⟩
      · cases h
        exact ⟨⟨['f', 'a', 'l', 's', 'e'], rfl⟩, by simp [Spelled.Within, Spelled.kept]⟩
      · obtain ⟨⟨v, rest⟩, hread, h⟩ := Option.map_eq_some_iff.mp h
        cases h
        exact ⟨readNumber_suffix hread, by simp [Spelled.Within, kept_ofNumber]⟩
    · unfold readSpelledItems at h
      simp only [Option.pure_def, Option.bind_eq_bind, Option.bind_eq_some_iff] at h
      obtain ⟨⟨v, rest⟩, hread, h⟩ := h
      obtain ⟨hrest, hv⟩ := hvalue _ _ _ hread
      split at h
      · rename_i tail heq
        obtain ⟨⟨items, rest'⟩, hread, h⟩ := Option.bind_eq_some_iff.mp h
        cases h
        obtain ⟨hrest', hwithin⟩ := hitems _ _ _ hread
        have hsuffix := (skip_suffix.trans (suffix_of_skip heq)).trans hrest
        exact ⟨hrest'.trans hsuffix, hv.append (hwithin.mono hsuffix)⟩
      · rename_i tail heq
        cases h
        exact ⟨(suffix_of_skip heq).trans hrest, by simpa [Spelled.keptItems] using hv⟩
      · cases h
    · unfold readSpelledMembers at h
      split at h
      · simp only [Option.pure_def, Option.bind_eq_bind, Option.bind_eq_some_iff] at h
        obtain ⟨⟨key, rest⟩, hkey, h⟩ := h
        have hrest := (readText_suffix hkey).trans (List.suffix_cons '"' _)
        split at h
        · rename_i tail heq
          have hfront := (skip_suffix.trans (suffix_of_skip heq)).trans hrest
          obtain ⟨⟨v, rest'⟩, hread, h⟩ := Option.bind_eq_some_iff.mp h
          obtain ⟨hrest', hv⟩ := hvalue _ _ _ hread
          split at h
          · rename_i tail heq
            obtain ⟨⟨members, rest''⟩, hread, h⟩ := Option.bind_eq_some_iff.mp h
            cases h
            obtain ⟨hrest'', hwithin⟩ := hmembers _ _ _ hread
            have hsuffix := ((skip_suffix.trans (suffix_of_skip heq)).trans hrest').trans hfront
            refine ⟨hrest''.trans hsuffix, Spelled.Within.append ?_ (hwithin.mono hsuffix)⟩
            split
            · simp [Spelled.Within]
            · exact hv.mono hfront
          · rename_i tail heq
            cases h
            refine ⟨((suffix_of_skip heq).trans hrest').trans hfront, ?_⟩
            simpa [Spelled.keptMembers] using hv.mono hfront
          · cases h
        · cases h
      · cases h

/-! ## Whole texts -/

/-- The spelled value of a text that holds nothing else. -/
def loadsSpelled (cs : List Char) : Option Spelled := do
  let (v, rest) ← readSpelled (cs.length + 1) (skip cs)
  if skip rest = [] then some v else none

theorem loads_eq : loads cs = (loadsSpelled cs).map Spelled.value := by
  simp only [loads, loadsSpelled, (read_eq _).1, Option.bind_eq_bind]
  cases readSpelled (cs.length + 1) (skip cs) with
  | none => rfl
  | some p =>
    simp only [Option.map_some, Option.bind_some]
    split <;> rfl

/-- The texts of a value stand in the text that it is read from. -/
theorem loadsSpelled_within {v : Spelled} (h : loadsSpelled cs = some v) :
    Spelled.Within cs v.kept := by
  simp only [loadsSpelled, Option.bind_eq_bind, Option.bind_eq_some_iff] at h
  obtain ⟨⟨w, rest⟩, hread, h⟩ := h
  dsimp only at h
  split_ifs at h
  cases h
  exact ((readSpelled_within _).1 _ _ _ hread).2.mono skip_suffix

/-! ## The spelling of the writer -/

/-- How the writer spells a text. -/
def spelledText (s : String) : List SpelledChar := s.toList.map fun c => ⟨escape c, c⟩

theorem decode_spelledText {s : String} : decode (spelledText s) = s := by
  rw [decode, spelledText, List.map_map]
  exact (congrArg String.ofList (List.map_id _)).trans String.ofList_toList

theorem spell_spelledText {s : String} : spell (spelledText s) = s.toList.flatMap escape := by
  simp [spell, spelledText, List.flatMap_map]

theorem spells_spelledText {s : String} : ∀ u ∈ spelledText s, Spells u.spelling u.char := by
  simp only [spelledText, List.forall_mem_map]
  intro c _
  obtain ⟨used, hused, hspells⟩ := readChar_eq_some (readChar_escape (c := c) (r := []))
  rw [List.append_nil, List.append_nil] at hused
  rwa [hused]

section Writer

variable {L : Layout}

mutual
/-- The texts of a value stand in the text that is written of it. -/
theorem kept_dumps : ∀ (v : Value) (d : Nat), ∀ s ∈ v.kept, spell (spelledText s) <:+: dumps L d v
  | .null, _ | .boolean _, _ | .number _, _ => by simp [Value.kept]
  | .text s, d => by
    simp only [Value.kept, List.forall_mem_singleton, spell_spelledText, dumps, quote]
    exact ⟨['"'], ['"'], rfl⟩
  | .array items, d => by
    intro s hs
    have hitems := keptItems_dumps items d [] s hs
    rw [dumps]
    split
    · rename_i hempty
      rw [List.isEmpty_iff.mp hempty] at hs
      simp [Value.kept, Value.keptItems] at hs
    · exact hitems.trans (List.suffix_cons _ _).isInfix
  | .object members, d => by
    intro s hs
    have hmembers := keptMembers_dumps members d [] s hs
    rw [dumps]
    split
    · rename_i hempty
      rw [List.isEmpty_iff.mp hempty] at hs
      simp [Value.kept, Value.keptMembers] at hs
    · exact hmembers.trans (List.suffix_cons _ _).isInfix
theorem keptItems_dumps : ∀ (items : List Value) (d : Nat) (mark : List Char),
    ∀ s ∈ Value.keptItems items, spell (spelledText s) <:+: dumpItems L d mark items
  | [], _, _ => by simp [Value.keptItems]
  | v :: items, d, mark => by
    intro s hs
    rw [Value.keptItems, List.mem_append] at hs
    rw [dumpItems]
    rcases hs with hs | hs
    · exact (kept_dumps v (d + 1) s hs).trans ⟨mark ++ L.line (d + 1), _, rfl⟩
    · exact (keptItems_dumps items d [','] s hs).trans (List.suffix_append _ _).isInfix
theorem keptMembers_dumps : ∀ (members : List (String × Value)) (d : Nat) (mark : List Char),
    ∀ s ∈ Value.keptMembers members, spell (spelledText s) <:+: dumpMembers L d mark members
  | [], _, _ => by simp [Value.keptMembers]
  | (key, v) :: members, d, mark => by
    intro s hs
    rw [Value.keptMembers, List.mem_append] at hs
    rw [dumpMembers]
    rcases hs with hs | hs
    · have hv : s ∈ v.kept := by
        split at hs
        · cases hs
        · exact hs
      refine (kept_dumps v (d + 1) s hv).trans
        ⟨mark ++ L.line (d + 1) ++ quote key ++ ':' :: L.space, dumpMembers L d [','] members, ?_⟩
      simp
    · refine (keptMembers_dumps members d [','] s hs).trans ?_
      refine (List.suffix_append (mark ++ L.line (d + 1) ++ quote key ++ ':' :: L.space ++
        dumps L (d + 1) v) _).isInfix.trans ?_
      simp
end

end Writer

end JsonText
