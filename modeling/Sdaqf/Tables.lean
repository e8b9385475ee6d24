import Sdaqf.Domain

/-!
# Tables

A table with a textual primary key is an ordered map. Its rows are listed in the order of their
keys.
-/

namespace Sdaqf

/-- A table with a textual primary key. -/
abbrev Table (α : Type) := Std.ExtTreeMap String α compare

/-- The rows of a table in the order of their keys. -/
def Table.rows {α : Type} (t : Table α) : List α := t.toList.map (·.2)

instance : DecidableEq (Table (List String)) := inferInstance

variable {α : Type} {t : Table α} {k : String} {v : α}

theorem Table.mem_toList : (k, v) ∈ t.toList ↔ t[k]? = some v :=
  Std.ExtTreeMap.mem_toList_iff_getElem?_eq_some

theorem Table.mem_rows : v ∈ t.rows ↔ ∃ k : String, t[k]? = some v := by
  simp only [Table.rows, List.mem_map, Prod.exists, Table.mem_toList, exists_eq_right]

theorem Table.mem_keys : k ∈ t.keys ↔ (t[k]?).isSome := by
  rw [Std.ExtTreeMap.mem_keys, Std.ExtTreeMap.mem_iff_isSome_getElem?]

/-- The rows of a table whose keys can be read off its rows stand in the order of their keys. -/
theorem Table.pairwise_rows {key : α → String}
    (h : ∀ (k : String) v, t[k]? = some v → key v = k) :
    t.rows.Pairwise fun a b => key a < key b := by
  have hordered := t.ordered_keys_toList
  rw [Table.rows, List.pairwise_map]
  refine hordered.imp_of_mem ?_
  rintro ⟨k, v⟩ ⟨k', v'⟩ hv hv' hlt
  rw [h k v (Table.mem_toList.mp hv), h k' v' (Table.mem_toList.mp hv')]
  exact compare_lt_iff_lt.mp hlt

theorem Table.length_rows (t : Table α) : t.rows.length = t.size := by
  rw [Table.rows, List.length_map, Std.ExtTreeMap.length_toList]

theorem Table.pairwise_keys : t.keys.Pairwise (· < ·) :=
  Std.ExtTreeMap.ordered_keys.imp compare_lt_iff_lt.mp

theorem Table.getElem?_insert (t : Table α) (k k' : String) (v : α) :
    (t.insert k v)[k']? = if k = k' then some v else t[k']? := by
  rw [Std.ExtTreeMap.getElem?_insert]
  simp only [compare_eq_iff_eq]

theorem Table.getElem?_erase (t : Table α) (k k' : String) :
    (t.erase k)[k']? = if k = k' then none else t[k']? := by
  rw [Std.ExtTreeMap.getElem?_erase]
  simp only [compare_eq_iff_eq]

theorem Table.getElem?_modify (t : Table α) (k k' : String) (f : α → α) :
    (t.modify k f)[k']? = if k = k' then t[k']?.map f else t[k']? := by
  rw [Std.ExtTreeMap.getElem?_modify]
  by_cases h : k = k' <;> simp [h]

theorem Table.getElem?_insertIfNew (t : Table α) (k k' : String) (v : α) :
    (t.insertIfNew k v)[k']? = if k = k' ∧ k ∉ t then some v else t[k']? := by
  rw [Std.ExtTreeMap.getElem?_insertIfNew]
  simp only [compare_eq_iff_eq]

theorem Table.getElem?_alter (t : Table α) (k k' : String) (f : Option α → Option α) :
    (t.alter k f)[k']? = if k = k' then f t[k]? else t[k']? := by
  rw [Std.ExtTreeMap.getElem?_alter]
  simp only [compare_eq_iff_eq]

theorem Table.getElem?_empty (k : String) : (∅ : Table α)[k]? = none :=
  Std.ExtTreeMap.getElem?_empty

/-- The table of some rows under their keys. -/
def Table.ofRows (key : α → String) (rows : List α) : Table α :=
  rows.foldl (fun t v => t.insert (key v) v) ∅

theorem Table.getElem?_ofRows {key : α → String} {rows : List α} (h : (rows.map key).Nodup) :
    (Table.ofRows key rows)[k]? = some v ↔ v ∈ rows ∧ key v = k := by
  unfold ofRows
  induction rows using List.reverseRecOn with
  | nil => simp
  | append_singleton rows last ih =>
    rw [List.map_append, List.nodup_append] at h
    obtain ⟨hrows, -, hlast⟩ := h
    rw [List.foldl_concat, Table.getElem?_insert]
    split
    · rename_i hk
      constructor
      · rintro ⟨⟩
        exact ⟨by simp, hk⟩
      · rintro ⟨hmem, rfl⟩
        rcases List.mem_append.mp hmem with hmem | hmem
        · exact absurd hk.symm (hlast _ (List.mem_map_of_mem hmem) _ (by simp))
        · rw [List.mem_singleton.mp hmem]
    · rename_i hk
      refine (ih hrows).trans ?_
      rw [List.mem_append, List.mem_singleton]
      constructor
      · rintro ⟨hmem, rfl⟩
        exact ⟨.inl hmem, rfl⟩
      · rintro ⟨hmem | rfl, rfl⟩
        · exact ⟨hmem, rfl⟩
        · exact absurd rfl hk

theorem Table.mem_ofRows {key : α → String} {rows : List α} (h : (rows.map key).Nodup) :
    k ∈ Table.ofRows key rows ↔ k ∈ rows.map key := by
  rw [Std.ExtTreeMap.mem_iff_isSome_getElem?, Option.isSome_iff_exists, List.mem_map]
  exact exists_congr fun v => Table.getElem?_ofRows h

theorem Table.ext {t t' : Table α} (h : ∀ k : String, t[k]? = t'[k]?) : t = t' :=
  Std.ExtTreeMap.ext_getElem? h

end Sdaqf
