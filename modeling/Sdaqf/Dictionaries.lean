import Mathlib.Data.List.Induction
import Mathlib.Data.List.Nodup

/-!
# Dictionaries

Dictionaries that keep the order of insertion, as lists of entries. Setting a key that is known
replaces its value where it stands; a new key is appended. The keys stay distinct.
-/

/-- A dictionary, its entries in the order of insertion. -/
abbrev Dict (κ α : Type*) := List (κ × α)

namespace Dict

variable {κ α : Type*} [DecidableEq κ] {d : Dict κ α} {k k' : κ} {v v' : α}

def keys (d : Dict κ α) : List κ := d.map Prod.fst

def values (d : Dict κ α) : List α := d.map Prod.snd

/-- Set the value of a key. -/
def set (k : κ) (v : α) : Dict κ α → Dict κ α
  | [] => [(k, v)]
  | entry :: d => if entry.1 = k then (k, v) :: d else entry :: set k v d

/-- The dictionary of a list of entries, of which the last one of a key counts. -/
def ofEntries (entries : List (κ × α)) : Dict κ α :=
  entries.foldl (fun d entry => set entry.1 entry.2 d) []

/-- With distinct keys a value is found exactly where its entry stands. -/
theorem lookup_eq_some_iff (h : d.keys.Nodup) : d.lookup k = some v ↔ (k, v) ∈ d := by
  induction d with
  | nil => simp
  | cons entry d ih =>
    obtain ⟨k', v'⟩ := entry
    rw [keys, List.map_cons, List.nodup_cons] at h
    rw [List.lookup_cons, List.mem_cons, Prod.mk.injEq]
    by_cases hk : k = k'
    · subst hk
      have hnot : (k, v) ∉ d := fun hmem => h.1 (List.mem_map.mpr ⟨(k, v), hmem, rfl⟩)
      simp only [beq_self_eq_true, Option.some.injEq, true_and, hnot, or_false, eq_comm]
    · simp only [beq_eq_false_iff_ne.mpr hk, hk, false_and, false_or]
      exact ih h.2

theorem lookup_eq_none_iff : d.lookup k = none ↔ k ∉ d.keys := by
  rw [List.lookup_eq_none_iff, keys, List.mem_map]
  simp only [bne_iff_ne]
  constructor
  · rintro h ⟨entry, hentry, rfl⟩
    exact h entry hentry rfl
  · exact fun h entry hentry heq => h ⟨entry, hentry, heq.symm⟩

/-- Setting a new key appends it. -/
theorem set_of_not_mem (h : k ∉ d.keys) : set k v d = d ++ [(k, v)] := by
  induction d with
  | nil => rfl
  | cons entry d ih =>
    rw [keys, List.map_cons, List.mem_cons, not_or] at h
    rw [set, if_neg (Ne.symm h.1), ih h.2, List.cons_append]

/-- Entries with distinct keys are their own dictionary. -/
theorem ofEntries_of_nodup {entries : List (κ × α)} (h : (entries.map Prod.fst).Nodup) :
    ofEntries entries = entries := by
  induction entries using List.reverseRecOn with
  | nil => rfl
  | append_singleton entries entry ih =>
    rw [List.map_append, List.map_singleton, List.nodup_append] at h
    have hnew : entry.1 ∉ keys entries := fun hmem =>
      h.2.2 entry.1 hmem entry.1 (List.mem_singleton_self _) rfl
    rw [ofEntries, List.foldl_append, ← ofEntries, ih h.1]
    exact set_of_not_mem hnew

end Dict
