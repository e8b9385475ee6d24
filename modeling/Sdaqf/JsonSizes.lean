import Mathlib.Algebra.BigOperators.Group.List.Basic
import Mathlib.Algebra.Order.BigOperators.Group.List
import Mathlib.Algebra.Order.Ring.Nat
import Mathlib.Data.Nat.Digits.Defs
import Sdaqf.JsonText

/-!
# Sizes of JSON texts

How many values stand inside a value, and how long its text is. Both are sums over the items of an
array and over the members of an object, so a bound on each part gives a bound on the whole. The
characters of a text are visible or blank.
-/

namespace JsonText

variable {L : Layout} {d : Nat}

/-! ## Values inside a value -/

/-- How many values stand inside a value, itself included. -/
def count (v : Value) : Nat := (within 0 v).length

theorem length_within (v : Value) (d : Nat) : (within d v).length = count v := by
  have h := congrArg List.length (map_fst_within v d 0)
  rwa [List.length_map, List.length_map] at h

@[simp] theorem count_null : count .null = 1 := rfl

@[simp] theorem count_boolean {b : Bool} : count (.boolean b) = 1 := rfl

@[simp] theorem count_number {n : Int} : count (.number n) = 1 := rfl

@[simp] theorem count_text {s : String} : count (.text s) = 1 := rfl

@[simp] theorem count_array {items : List Value} :
    count (.array items) = (items.map count).sum + 1 := by
  rw [count, within, withinItems_eq, List.length_cons, List.length_flatMap]
  simp only [length_within]

@[simp] theorem count_object {members : List (String × Value)} :
    count (.object members) = (members.map fun m => count m.2).sum + 1 := by
  rw [count, within, withinMembers_eq, List.length_cons, List.length_flatMap]
  simp only [length_within]

theorem count_pos (v : Value) : 0 < count v := by
  cases v <;> simp

/-! ## Depths -/

theorem shallow_array_iff {n : Nat} (hn : n ≠ 0) {items : List Value} :
    Shallow n (.array items) ↔ ∀ v ∈ items, Shallow (n - 1) v := by
  obtain ⟨n, rfl⟩ := Nat.exists_eq_succ_of_ne_zero hn
  exact shallow_array

theorem shallow_object_iff {n : Nat} (hn : n ≠ 0) {members : List (String × Value)} :
    Shallow n (.object members) ↔ ∀ m ∈ members, Shallow (n - 1) m.2 := by
  obtain ⟨n, rfl⟩ := Nat.exists_eq_succ_of_ne_zero hn
  exact shallow_object

theorem shallow_scalar {n : Nat} {v : Value} (h : within 0 v = [(v, 0)]) : Shallow n v := by
  rw [Shallow, h]
  simp

@[simp] theorem shallow_null {n : Nat} : Shallow n .null := shallow_scalar rfl

@[simp] theorem shallow_boolean {n : Nat} {b : Bool} : Shallow n (.boolean b) := shallow_scalar rfl

@[simp] theorem shallow_number {n : Nat} {k : Int} : Shallow n (.number k) := shallow_scalar rfl

/-! ## Lengths -/

variable (L d) in
/-- The length of an item with what separates it. -/
def itemSize (v : Value) : Nat := (L.line (d + 1)).length + (dumps L (d + 1) v).length + 1

variable (L d) in
/-- The length of a member with what separates it. -/
def memberSize (m : String × Value) : Nat :=
  (L.line (d + 1)).length + (quote m.1).length + L.space.length +
    (dumps L (d + 1) m.2).length + 2

theorem length_dumpItems {items : List Value} {mark : Char} :
    (dumpItems L d [mark] items).length =
      (items.map (itemSize L d)).sum + (L.line d).length + 1 := by
  induction items generalizing mark with
  | nil => simp [dumpItems]
  | cons v items ih =>
    simp only [dumpItems, List.length_append, List.length_singleton, ih, itemSize, List.map_cons,
      List.sum_cons]
    omega

theorem length_dumpMembers {members : List (String × Value)} {mark : Char} :
    (dumpMembers L d [mark] members).length =
      (members.map (memberSize L d)).sum + (L.line d).length + 1 := by
  induction members generalizing mark with
  | nil => simp [dumpMembers]
  | cons m members ih =>
    obtain ⟨key, v⟩ := m
    simp only [dumpMembers, List.length_append, List.length_cons, List.length_nil, ih,
      memberSize, List.map_cons, List.sum_cons]
    omega

/-- The bracket in front of the first item is as long as the comma in front of the others. -/
theorem length_dumps_array {items : List Value} (h : items ≠ []) :
    (dumps L d (.array items)).length =
      (items.map (itemSize L d)).sum + (L.line d).length + 1 := by
  obtain ⟨v, items, rfl⟩ := List.exists_cons_of_ne_nil h
  have hsame : dumps L d (.array (v :: items)) = dumpItems L d ['['] (v :: items) := by
    simp [dumps, dumpItems]
  rw [hsame, length_dumpItems]

theorem length_dumps_object {members : List (String × Value)} (h : members ≠ []) :
    (dumps L d (.object members)).length =
      (members.map (memberSize L d)).sum + (L.line d).length + 1 := by
  obtain ⟨m, members, rfl⟩ := List.exists_cons_of_ne_nil h
  have hsame : dumps L d (.object (m :: members)) = dumpMembers L d ['{'] (m :: members) := by
    obtain ⟨key, v⟩ := m
    simp [dumps, dumpMembers]
  rw [hsame, length_dumpMembers]

/-- An array is at most two brackets and a line longer than its items. -/
theorem length_dumps_array_le (items : List Value) : (dumps L d (.array items)).length ≤
    (items.map (itemSize L d)).sum + (L.line d).length + 2 := by
  by_cases h : items = []
  · subst h
    simp [dumps]
  · rw [length_dumps_array h]
    omega

theorem le_length_dumps_array (items : List Value) :
    (items.map (itemSize L d)).sum + 1 ≤ (dumps L d (.array items)).length := by
  by_cases h : items = []
  · subst h
    simp [dumps]
  · rw [length_dumps_array h]
    omega

theorem length_dumps_text {s : String} : (dumps L d (.text s)).length = (quote s).length := by
  rw [dumps]

/-- Characters that stand for themselves inside quotes. -/
def Plain (c : Char) : Prop := (32 ≤ c.toNat ∧ c.toNat ≤ 126) ∧ c ≠ '"' ∧ c ≠ '\\'

instance {c : Char} : Decidable (Plain c) := inferInstanceAs (Decidable (_ ∧ _))

theorem escape_plain {c : Char} (h : Plain c) : escape c = [c] := by
  obtain ⟨hrange, hquote, hslash⟩ := h
  have hne {b : Char} (hb : b.toNat < 32) : c ≠ b := by
    rintro rfl
    omega
  rw [escape, if_neg hquote, if_neg hslash, if_neg (hne (by decide)), if_neg (hne (by decide)),
    if_neg (hne (by decide)), if_neg (hne (by decide)), if_neg (hne (by decide)), if_pos hrange]

theorem length_quote_plain {s : String} (h : ∀ c ∈ s.toList, Plain c) :
    (quote s).length = s.toList.length + 2 := by
  have hsame : s.toList.flatMap escape = s.toList := by
    rw [List.flatMap_congr fun c hc => escape_plain (h c hc)]
    exact List.flatMap_singleton' _
  rw [quote, hsame, List.length_cons, List.length_append, List.length_singleton]

/-- The longest escapes are those of two code units. -/
theorem length_escape_le (c : Char) : (escape c).length ≤ 12 := by
  rcases escape_forms c with ⟨d, -, h⟩ | ⟨-, -, -, h⟩ | ⟨-, h⟩ | ⟨-, h⟩ <;> rw [h]
  all_goals simp [codeUnit]

theorem length_quote_le (s : String) : (quote s).length ≤ 12 * s.toList.length + 2 := by
  have hsum := List.sum_le_card_nsmul (s.toList.map fun c => (escape c).length) 12
    (List.forall_mem_map.mpr fun c _ => length_escape_le c)
  rw [List.length_map, nsmul_eq_mul, Nat.cast_id] at hsum
  rw [quote, List.length_cons, List.length_append, List.length_singleton, List.length_flatMap]
  omega

theorem two_le_length_quote (s : String) : 2 ≤ (quote s).length := by
  simp [quote]

theorem length_dumps_pos (v : Value) : 0 < (dumps L d v).length := by
  obtain ⟨c, cs, hcons, -⟩ := dumps_cons (L := L) (d := d) v
  rw [hcons]
  exact Nat.succ_pos _

/-- A number below a power of ten has at most so many digits. -/
theorem length_dumps_number_le {n e : Nat} (he : 0 < e) (hn : n < 10 ^ e) :
    (dumps L d (.number n)).length ≤ e := by
  have hnonneg : ¬(n : Int) < 0 := by omega
  rw [dumps, if_neg hnonneg, List.nil_append, Int.natAbs_natCast]
  exact Nat.toDigits_length 10 n e he hn

/-- Each member of an object takes a line, two quotes, a colon and a comma at least. -/
theorem le_length_dumps_object (members : List (String × Value)) :
    members.length * ((L.line (d + 1)).length + L.space.length + 5) + 1 ≤
      (dumps L d (.object members)).length := by
  by_cases h : members = []
  · subst h
    simp [dumps]
  · have hmembers : members.length * ((L.line (d + 1)).length + L.space.length + 5) ≤
        (members.map (memberSize L d)).sum := by
      have hleast := List.card_nsmul_le_sum (members.map (memberSize L d))
        ((L.line (d + 1)).length + L.space.length + 5)
      rw [List.length_map, nsmul_eq_mul, Nat.cast_id, List.forall_mem_map] at hleast
      refine hleast fun m _ => ?_
      have hquote := two_le_length_quote m.1
      have hvalue := length_dumps_pos (L := L) (d := d + 1) m.2
      rw [memberSize]
      omega
    rw [length_dumps_object h]
    omega

/-- A member is shorter than its object. -/
theorem length_dumps_lt_object {members : List (String × Value)} {m : String × Value}
    (h : m ∈ members) :
    (dumps L (d + 1) m.2).length < (dumps L d (.object members)).length := by
  rw [length_dumps_object (List.ne_nil_of_mem h)]
  have hsize := List.single_le_sum (fun _ _ => Nat.zero_le _) (memberSize L d m)
    (List.mem_map_of_mem h)
  rw [memberSize] at hsize
  omega

/-! ## Characters -/

/-- A character that a printed text may hold: a blank, or a visible one of one byte. -/
def Printable (c : Char) : Prop := isBlank c = true ∨ 32 ≤ c.toNat ∧ c.toNat ≤ 126

instance {c : Char} : Decidable (Printable c) := inferInstanceAs (Decidable (_ ∨ _))

theorem printable_of_all {cs : List Char} (h : cs.all (fun c => decide (Printable c)) = true) :
    ∀ c ∈ cs, Printable c := by
  simpa only [List.all_eq_true, decide_eq_true_eq] using h

theorem printable_line {b : List Char} (hb : b.all isBlank = true) : ∀ c ∈ b, Printable c :=
  fun c hc => .inl (List.all_eq_true.mp hb c hc)

theorem printable_digitChar (n : Nat) : Printable n.digitChar := by
  have hdigit : ∀ n < 16, Printable (Nat.digitChar n) := by decide
  by_cases hn : n < 16
  · exact hdigit n hn
  · rw [Nat.digitChar_eq_star.mpr (by omega)]
    decide

theorem printable_escape (c : Char) : ∀ e ∈ escape c, Printable e := by
  have hunit (n : Nat) : ∀ e ∈ codeUnit n, Printable e := by
    simp only [codeUnit, List.forall_mem_cons, printable_digitChar, List.not_mem_nil,
      false_implies, implies_true, and_true]
    decide
  have hshort : shortEscapes.all (fun p => decide (Printable p.2)) = true := by decide
  rcases escape_forms c with ⟨d, hd, h⟩ | ⟨hrange, -, -, h⟩ | ⟨-, h⟩ | ⟨-, h⟩ <;> rw [h]
  · have hletter : Printable d := of_decide_eq_true (List.all_eq_true.mp hshort (c, d) hd)
    exact List.forall_mem_cons.mpr ⟨by decide, List.forall_mem_singleton.mpr hletter⟩
  · exact List.forall_mem_singleton.mpr (.inr hrange)
  · exact hunit _
  · exact List.forall_mem_append.mpr ⟨hunit _, hunit _⟩

theorem printable_quote (s : String) : ∀ c ∈ quote s, Printable c := by
  rw [quote, List.forall_mem_cons, List.forall_mem_append]
  refine ⟨by decide, fun c hc => ?_, printable_of_all (by decide)⟩
  obtain ⟨a, -, hc⟩ := List.mem_flatMap.mp hc
  exact printable_escape a c hc

theorem printable_toDigits (n : Nat) : ∀ c ∈ Nat.toDigits 10 n, Printable c := by
  intro c hc
  have hdigit := isDigit_toDigits n c hc
  simp only [Char.isDigit, Bool.and_eq_true, decide_eq_true_eq] at hdigit
  have hlow : 48 ≤ c.toNat := hdigit.1
  have hhigh : c.toNat ≤ 57 := hdigit.2
  exact .inr ⟨by omega, by omega⟩

/-- Everything the writer prints is a blank or visible. -/
theorem printable_dumps (v : Value) (d : Nat) : ∀ c ∈ dumps L d v, Printable c := by
  induction v using Value.induction generalizing d with
  | null => exact printable_of_all (by decide : ['n', 'u', 'l', 'l'].all _ = true)
  | boolean b =>
    cases b with
    | false => exact printable_of_all (by decide : ['f', 'a', 'l', 's', 'e'].all _ = true)
    | true => exact printable_of_all (by decide : ['t', 'r', 'u', 'e'].all _ = true)
  | number n =>
    rw [dumps, List.forall_mem_append]
    exact ⟨by split_ifs <;> exact printable_of_all (by decide), printable_toDigits _⟩
  | text s => exact printable_quote s
  | array items ih =>
    have hitems (mark : List Char) (hmark : ∀ c ∈ mark, Printable c) :
        ∀ c ∈ dumpItems L d mark items, Printable c := by
      induction items generalizing mark with
      | nil =>
        rw [dumpItems, List.forall_mem_append]
        exact ⟨printable_line (L.line_blank d), printable_of_all (by decide)⟩
      | cons v items ihitems =>
        simp only [dumpItems, List.forall_mem_append]
        exact ⟨⟨⟨hmark, printable_line (L.line_blank _)⟩, ih v List.mem_cons_self (d + 1)⟩,
          ihitems (fun v hv => ih v (List.mem_cons_of_mem _ hv)) [',']
            (printable_of_all (by decide))⟩
    rw [dumps]
    split_ifs
    · exact printable_of_all (by decide)
    · exact List.forall_mem_cons.mpr ⟨by decide, hitems [] (List.forall_mem_nil _)⟩
  | object members ih =>
    have hmembers (mark : List Char) (hmark : ∀ c ∈ mark, Printable c) :
        ∀ c ∈ dumpMembers L d mark members, Printable c := by
      induction members generalizing mark with
      | nil =>
        rw [dumpMembers, List.forall_mem_append]
        exact ⟨printable_line (L.line_blank d), printable_of_all (by decide)⟩
      | cons m members ihmembers =>
        simp only [dumpMembers, List.forall_mem_append, List.forall_mem_cons]
        exact ⟨⟨⟨⟨⟨hmark, printable_line (L.line_blank _)⟩, printable_quote _⟩,
          by decide, printable_line L.space_blank⟩, ih m List.mem_cons_self (d + 1)⟩,
          ihmembers (fun m hm => ih m (List.mem_cons_of_mem _ hm)) [',']
            (printable_of_all (by decide))⟩
    rw [dumps]
    split_ifs
    · exact printable_of_all (by decide)
    · exact List.forall_mem_cons.mpr ⟨by decide, hmembers [] (List.forall_mem_nil _)⟩

end JsonText
