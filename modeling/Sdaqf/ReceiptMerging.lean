import Sdaqf.Dictionaries
import Sdaqf.Epochs
import Mathlib.Data.Prod.Lex

/-!
# Merging workflow receipts

The receipts of a request are merged into the receipts of a head with two indexes, one by the path
without its case and one by the identity. Both indexes hold the same receipts all the time, so a merge
keeps what is there, adds what is missing, and fails exactly where an addition collides with a
receipt that stands there or was added before it.
-/

namespace Sdaqf

namespace Receipts

open Guard

/-- One receipt, its type and its producer of any kind. -/
structure Receipt (τ π : Type) where
  artifactType : τ
  artifactId : String
  path : String
  producer : π
  status : WorkflowReceiptStatus
deriving DecidableEq

section Merge

variable {τ π : Type} (casefold : String → String)

/-- The receipts by the path without its case, and by the identity. -/
structure Indexes (τ π : Type) where
  byPath : Dict String (Receipt τ π)
  byId : Dict String (Receipt τ π)

def indexesOf (existing : List (Receipt τ π)) : Indexes τ π where
  byPath := Dict.ofEntries (existing.map fun item => (casefold item.path, item))
  byId := Dict.ofEntries (existing.map fun item => (item.artifactId, item))

/-- Merge one addition. -/
def mergeOne [DecidableEq τ] [DecidableEq π] (indexes : Indexes τ π) (item : Receipt τ π) : Except String (Indexes τ π) := do
  let pathMatch := indexes.byPath.lookup (casefold item.path)
  let idMatch := indexes.byId.lookup item.artifactId
  require (∀ found ∈ pathMatch, found.path = item.path ∧ found.artifactId = item.artifactId ∧
      found.artifactType = item.artifactType ∧ found.producer = item.producer)
    "Workflow receipt path collides with existing authority."
  require (∀ found ∈ idMatch, found.path = item.path)
    "Workflow artifact identity is reserved at another path."
  return if pathMatch.isNone then
    { byPath := indexes.byPath.set (casefold item.path) item
      byId := indexes.byId.set item.artifactId item }
  else indexes

/-- The order of receipts: by the path without its case, then by the identity. -/
def rank (item : Receipt τ π) : String ×ₗ String := toLex (casefold item.path, item.artifactId)

def orderedReceipts (receipts : List (Receipt τ π)) : List (Receipt τ π) :=
  receipts.insertionSort fun a b => rank casefold a ≤ rank casefold b

def mergeReceipts [DecidableEq τ] [DecidableEq π] (existing additions : List (Receipt τ π)) :
    Except String (List (Receipt τ π)) := do
  let indexes ← foldE (mergeOne casefold) (indexesOf casefold existing) additions
  return orderedReceipts casefold indexes.byPath.values

/-! ## Authority and collisions -/

/-- What a receipt authorizes, apart from its status. -/
def Receipt.authority (item : Receipt τ π) : τ × String × String × π :=
  (item.artifactType, item.artifactId, item.path, item.producer)

/-- Two receipts meet at a path or at an identity, but do not authorize the same. -/
def Collides (a b : Receipt τ π) : Prop :=
  (casefold a.path = casefold b.path ∨ a.artifactId = b.artifactId) ∧ a.authority ≠ b.authority

/-- Some addition collides with an existing receipt or with an earlier addition. -/
def Clashes (existing additions : List (Receipt τ π)) : Prop :=
  ∃ front item back, additions = front ++ item :: back ∧
    ∃ other ∈ existing ++ front, Collides casefold other item

/-- Receipts with distinct paths, their case ignored, and distinct identities. -/
structure Distinct (receipts : List (Receipt τ π)) : Prop where
  paths : (receipts.map fun item => casefold item.path).Nodup
  ids : (receipts.map (·.artifactId)).Nodup

/-- Both indexes hold the same receipts. -/
structure Indexed (receipts : List (Receipt τ π)) (indexes : Indexes τ π) : Prop where
  byPath : indexes.byPath = receipts.map fun item => (casefold item.path, item)
  byId : indexes.byId = receipts.map fun item => (item.artifactId, item)
  distinct : Distinct casefold receipts

variable {casefold} {receipts existing additions merged : List (Receipt τ π)}
  {indexes : Indexes τ π} {item a b : Receipt τ π}

theorem keys_byPath (h : Indexed casefold receipts indexes) :
    indexes.byPath.keys = receipts.map fun item => casefold item.path := by
  rw [h.byPath, Dict.keys, List.map_map]
  rfl

theorem keys_byId (h : Indexed casefold receipts indexes) :
    indexes.byId.keys = receipts.map (·.artifactId) := by
  rw [h.byId, Dict.keys, List.map_map]
  rfl

theorem indexed_indexesOf (h : Distinct casefold existing) :
    Indexed casefold existing (indexesOf casefold existing) where
  byPath := Dict.ofEntries_of_nodup (by rw [List.map_map]; exact h.paths)
  byId := Dict.ofEntries_of_nodup (by rw [List.map_map]; exact h.ids)
  distinct := h

theorem lookup_byPath (h : Indexed casefold receipts indexes) {path : String} :
    indexes.byPath.lookup path = some a ↔ a ∈ receipts ∧ casefold a.path = path := by
  rw [Dict.lookup_eq_some_iff (keys_byPath h ▸ h.distinct.paths), h.byPath, List.mem_map]
  constructor
  · rintro ⟨_, ha, ⟨⟩⟩
    exact ⟨ha, rfl⟩
  · rintro ⟨ha, rfl⟩
    exact ⟨a, ha, rfl⟩

theorem lookup_byId (h : Indexed casefold receipts indexes) {id : String} :
    indexes.byId.lookup id = some a ↔ a ∈ receipts ∧ a.artifactId = id := by
  rw [Dict.lookup_eq_some_iff (keys_byId h ▸ h.distinct.ids), h.byId, List.mem_map]
  constructor
  · rintro ⟨_, ha, ⟨⟩⟩
    exact ⟨ha, rfl⟩
  · rintro ⟨ha, rfl⟩
    exact ⟨a, ha, rfl⟩

/-- A receipt that meets no other one is added to both indexes. -/
theorem indexed_set (h : Indexed casefold receipts indexes)
    (hpath : ∀ a ∈ receipts, casefold a.path ≠ casefold item.path)
    (hid : ∀ a ∈ receipts, a.artifactId ≠ item.artifactId) :
    Indexed casefold (receipts ++ [item])
      { byPath := indexes.byPath.set (casefold item.path) item
        byId := indexes.byId.set item.artifactId item } where
  byPath := by
    have hnew : casefold item.path ∉ indexes.byPath.keys := by
      rw [keys_byPath h, List.mem_map]
      rintro ⟨a, ha, heq⟩
      exact hpath a ha heq
    rw [Dict.set_of_not_mem hnew, h.byPath, List.map_append, List.map_singleton]
  byId := by
    have hnew : item.artifactId ∉ indexes.byId.keys := by
      rw [keys_byId h, List.mem_map]
      rintro ⟨a, ha, heq⟩
      exact hid a ha heq
    rw [Dict.set_of_not_mem hnew, h.byId, List.map_append, List.map_singleton]
  distinct := by
    refine ⟨?_, ?_⟩
    · rw [List.map_append, List.map_singleton]
      refine h.distinct.paths.append (List.nodup_singleton _) ?_
      rintro path hmem hpath'
      obtain ⟨a, ha, rfl⟩ := List.mem_map.mp hmem
      exact hpath a ha (List.mem_singleton.mp hpath')
    · rw [List.map_append, List.map_singleton]
      refine h.distinct.ids.append (List.nodup_singleton _) ?_
      rintro id hmem hid'
      obtain ⟨a, ha, rfl⟩ := List.mem_map.mp hmem
      exact hid a ha (List.mem_singleton.mp hid')

/-! ## One step -/

theorem authority_eq_iff : a.authority = b.authority ↔ a.path = b.path ∧
    a.artifactId = b.artifactId ∧ a.artifactType = b.artifactType ∧ a.producer = b.producer := by
  simp only [Receipt.authority, Prod.mk.injEq]
  tauto

/-- What a merge that went through leaves: the existing receipts, behind them those of the
additions whose authority was new. -/
structure Merged (existing additions receipts : List (Receipt τ π)) : Prop where
  keeps : ∀ a ∈ existing, a ∈ receipts
  adds : ∀ item ∈ additions, ∃ a ∈ receipts, a.authority = item.authority
  origin : ∀ a ∈ receipts, a ∈ existing ++ additions

/-- Every receipt that went into a merge is authorized by what it left. -/
theorem Merged.authority_mem (h : Merged existing additions receipts)
    (ha : a ∈ existing ++ additions) : ∃ b ∈ receipts, b.authority = a.authority := by
  rcases List.mem_append.mp ha with ha | ha
  · exact ⟨a, h.keeps a ha, rfl⟩
  · exact h.adds a ha

theorem Merged.known (h : Merged existing additions receipts) (ha : a ∈ receipts)
    (hauthority : a.authority = item.authority) :
    Merged existing (additions ++ [item]) receipts where
  keeps := h.keeps
  adds := by
    rw [List.forall_mem_append, List.forall_mem_singleton]
    exact ⟨h.adds, a, ha, hauthority⟩
  origin := by
    intro b hb
    rw [← List.append_assoc]
    exact List.mem_append_left _ (h.origin b hb)

theorem Merged.new (h : Merged existing additions receipts) :
    Merged existing (additions ++ [item]) (receipts ++ [item]) where
  keeps := fun a ha => List.mem_append_left _ (h.keeps a ha)
  adds := by
    rw [List.forall_mem_append, List.forall_mem_singleton]
    refine ⟨fun b hb => ?_, item, List.mem_append_right _ (List.mem_singleton_self _), rfl⟩
    obtain ⟨a, ha, hauthority⟩ := h.adds b hb
    exact ⟨a, List.mem_append_left _ ha, hauthority⟩
  origin := by
    intro b hb
    rw [← List.append_assoc]
    rcases List.mem_append.mp hb with hb | hb
    · exact List.mem_append_left _ (h.origin b hb)
    · exact List.mem_append_right _ hb

theorem Distinct.of_perm (h : Distinct casefold existing) (hperm : existing.Perm merged) :
    Distinct casefold merged :=
  ⟨(hperm.map _).nodup_iff.mp h.paths, (hperm.map _).nodup_iff.mp h.ids⟩

theorem values_byPath (h : Indexed casefold receipts indexes) :
    indexes.byPath.values = receipts := by
  rw [h.byPath, Dict.values, List.map_map]
  exact List.map_id receipts

theorem orderedReceipts_ordered (receipts : List (Receipt τ π)) :
    orderedReceipts casefold (orderedReceipts casefold receipts) =
      orderedReceipts casefold receipts :=
  (List.pairwise_insertionSort _ receipts).insertionSort_eq

theorem clashes_append_singleton : Clashes casefold existing (additions ++ [item]) ↔
    Clashes casefold existing additions ∨
      ∃ other ∈ existing ++ additions, Collides casefold other item := by
  constructor
  · rintro ⟨front, added, back, heq, other, hother, hcollides⟩
    rcases List.eq_nil_or_concat back with rfl | ⟨back, last, rfl⟩
    · obtain ⟨rfl, hadded⟩ := List.append_inj' heq rfl
      cases hadded
      exact .inr ⟨other, hother, hcollides⟩
    · rw [List.concat_eq_append, ← List.cons_append, ← List.append_assoc] at heq
      obtain ⟨rfl, -⟩ := List.append_inj' heq rfl
      exact .inl ⟨front, added, back, rfl, other, hother, hcollides⟩
  · rintro (⟨front, added, back, rfl, other, hother, hcollides⟩ | ⟨other, hother, hcollides⟩)
    · exact ⟨front, added, back ++ [item], by simp, other, hother, hcollides⟩
    · exact ⟨additions, item, [], rfl, other, hother, hcollides⟩

theorem collides_congr (h : a.authority = b.authority) :
    Collides casefold a item ↔ Collides casefold b item := by
  obtain ⟨hpath, hid, -, -⟩ := authority_eq_iff.mp h
  rw [Collides, Collides, h, hpath, hid]

section Step

variable [DecidableEq τ] [DecidableEq π]

/-- The receipt at the path of an item that authorizes the same: nothing changes. -/
theorem mergeOne_known (h : Indexed casefold receipts indexes) (ha : a ∈ receipts)
    (hauthority : a.authority = item.authority) : mergeOne casefold indexes item = .ok indexes := by
  obtain ⟨hpath, hid, htype, hproducer⟩ := authority_eq_iff.mp hauthority
  have hfound : indexes.byPath.lookup (casefold item.path) = some a :=
    (lookup_byPath h).mpr ⟨ha, by rw [hpath]⟩
  have hfoundId : indexes.byId.lookup item.artifactId = some a := (lookup_byId h).mpr ⟨ha, hid⟩
  unfold mergeOne
  simp [hfound, hfoundId, hpath, hid, htype, hproducer, require]

/-- An item that meets no receipt is added. -/
theorem mergeOne_new (h : Indexed casefold receipts indexes)
    (hpath : ∀ a ∈ receipts, casefold a.path ≠ casefold item.path)
    (hid : ∀ a ∈ receipts, a.artifactId ≠ item.artifactId) :
    mergeOne casefold indexes item = .ok
      { byPath := indexes.byPath.set (casefold item.path) item
        byId := indexes.byId.set item.artifactId item } := by
  have hnone : indexes.byPath.lookup (casefold item.path) = none := by
    rw [Option.eq_none_iff_forall_ne_some]
    intro a hfound
    exact hpath a ((lookup_byPath h).mp hfound).1 ((lookup_byPath h).mp hfound).2
  have hnoneId : indexes.byId.lookup item.artifactId = none := by
    rw [Option.eq_none_iff_forall_ne_some]
    intro a hfound
    exact hid a ((lookup_byId h).mp hfound).1 ((lookup_byId h).mp hfound).2
  unfold mergeOne
  simp [hnone, hnoneId, require]

/-- An item that collides with a receipt is refused. -/
theorem mergeOne_collides (h : Indexed casefold receipts indexes) (ha : a ∈ receipts)
    (hcollides : Collides casefold a item) :
    ∃ message, mergeOne casefold indexes item = .error message := by
  cases hmerge : mergeOne casefold indexes item with
  | error message => exact ⟨message, rfl⟩
  | ok next =>
    simp only [mergeOne, bind_eq_ok, exists_unit, require_eq_ok, Option.mem_def] at hmerge
    obtain ⟨hpathMatch, hidMatch, -⟩ := hmerge
    obtain ⟨hmeets, hdiffer⟩ := hcollides
    -- Whichever index finds the receipt, it stands at the path of the item.
    have hpath : casefold a.path = casefold item.path := by
      rcases hmeets with hpath | hid
      · exact hpath
      · rw [hidMatch a ((lookup_byId h).mpr ⟨ha, hid⟩)]
    exact absurd (authority_eq_iff.mpr (hpathMatch a ((lookup_byPath h).mpr ⟨ha, hpath⟩))) hdiffer

/-- What becomes of one addition: it is there already, it is added, or it collides. -/
theorem mergeOne_cases (h : Indexed casefold receipts indexes) (item : Receipt τ π) :
    (mergeOne casefold indexes item = .ok indexes ∧ ∃ a ∈ receipts, a.authority = item.authority) ∨
    (∃ next, mergeOne casefold indexes item = .ok next ∧
      Indexed casefold (receipts ++ [item]) next) ∨
    ((∃ message, mergeOne casefold indexes item = .error message) ∧
      ∃ a ∈ receipts, Collides casefold a item) := by
  by_cases hmeets : ∃ a ∈ receipts,
      casefold a.path = casefold item.path ∨ a.artifactId = item.artifactId
  · obtain ⟨a, ha, hmeets⟩ := hmeets
    by_cases hauthority : a.authority = item.authority
    · exact .inl ⟨mergeOne_known h ha hauthority, a, ha, hauthority⟩
    · exact .inr (.inr ⟨mergeOne_collides h ha ⟨hmeets, hauthority⟩, a, ha, hmeets, hauthority⟩)
  · push Not at hmeets
    have hpath : ∀ a ∈ receipts, casefold a.path ≠ casefold item.path := fun a ha =>
      (hmeets a ha).1
    have hid : ∀ a ∈ receipts, a.artifactId ≠ item.artifactId := fun a ha => (hmeets a ha).2
    exact .inr (.inl ⟨_, mergeOne_new h hpath hid, indexed_set h hpath hid⟩)

/-! ## A whole merge -/

/-- The indexes after a list of additions hold the merged receipts, unless an addition collides. -/
theorem foldE_mergeOne (h : Distinct casefold existing) (additions : List (Receipt τ π)) :
    ((∃ next receipts, foldE (mergeOne casefold) (indexesOf casefold existing) additions = .ok next ∧
        Indexed casefold receipts next ∧ Merged existing additions receipts) ∧
      ¬Clashes casefold existing additions) ∨
    ((∃ message, foldE (mergeOne casefold) (indexesOf casefold existing) additions =
        .error message) ∧ Clashes casefold existing additions) := by
  induction additions using List.reverseRecOn with
  | nil =>
    refine .inl ⟨⟨_, existing, rfl, indexed_indexesOf h, fun a ha => ha, by simp, by simp⟩, ?_⟩
    rintro ⟨front, item, back, heq, -⟩
    simp at heq
  | append_singleton additions item ih =>
    simp only [foldE_append, clashes_append_singleton]
    rcases ih with ⟨⟨indexes, receipts, hfold, hindexed, hmerged⟩, hclash⟩ |
      ⟨⟨message, hfold⟩, hclash⟩
    · have hno : (∃ next, mergeOne casefold indexes item = .ok next) →
          ¬∃ other ∈ existing ++ additions, Collides casefold other item := by
        rintro ⟨next, hnext⟩ ⟨other, hother, hcollides⟩
        obtain ⟨a, ha, hauthority⟩ := hmerged.authority_mem hother
        obtain ⟨message, herror⟩ :=
          mergeOne_collides hindexed ha ((collides_congr hauthority).mpr hcollides)
        rw [hnext] at herror
        cases herror
      rw [hfold]
      rcases mergeOne_cases hindexed item with ⟨hnext, a, ha, hauthority⟩ | ⟨next, hnext, hnew⟩ |
        ⟨⟨message, herror⟩, a, ha, hcollides⟩
      · exact .inl ⟨⟨indexes, receipts, by simpa using hnext, hindexed,
          hmerged.known ha hauthority⟩, not_or.mpr ⟨hclash, hno ⟨_, hnext⟩⟩⟩
      · exact .inl ⟨⟨next, receipts ++ [item], by simpa using hnext, hnew, hmerged.new⟩,
          not_or.mpr ⟨hclash, hno ⟨_, hnext⟩⟩⟩
      · exact .inr ⟨⟨message, by simp only [bind, Except.bind, foldE_cons, herror]⟩,
          .inr ⟨a, hmerged.origin a ha, hcollides⟩⟩
    · exact .inr ⟨⟨message, by rw [hfold]; rfl⟩, .inl hclash⟩

/-- Additions that are authorized already change nothing. -/
theorem foldE_known (h : Indexed casefold receipts indexes) (hknown : ∀ item ∈ additions,
    ∃ a ∈ receipts, a.authority = item.authority) :
    foldE (mergeOne casefold) indexes additions = .ok indexes := by
  induction additions with
  | nil => rfl
  | cons item additions ih =>
    obtain ⟨a, ha, hauthority⟩ := hknown item List.mem_cons_self
    rw [foldE_cons, mergeOne_known h ha hauthority]
    exact ih fun item hitem => hknown item (List.mem_cons_of_mem _ hitem)

/-- What a merge returns stands in order, and merging the same additions again changes nothing. -/
theorem mergeReceipts_exact (h : Distinct casefold existing) (additions : List (Receipt τ π)) :
    (∀ merged, mergeReceipts casefold existing additions = .ok merged →
      (∀ a ∈ existing, a ∈ merged) ∧
      (∀ item ∈ additions, ∃ a ∈ merged, a.authority = item.authority) ∧
      Distinct casefold merged ∧ orderedReceipts casefold merged = merged ∧
      mergeReceipts casefold merged additions = .ok merged) ∧
    ((∃ message, mergeReceipts casefold existing additions = .error message) ↔
      Clashes casefold existing additions) := by
  rcases foldE_mergeOne h additions with ⟨⟨next, receipts, hfold, hindexed, hmerged⟩, hclash⟩ |
    ⟨⟨message, hfold⟩, hclash⟩
  · have hperm : receipts.Perm (orderedReceipts casefold receipts) :=
      (List.perm_insertionSort _ receipts).symm
    have hmerge : mergeReceipts casefold existing additions =
        .ok (orderedReceipts casefold receipts) := by
      rw [mergeReceipts, hfold, ← values_byPath hindexed]
      rfl
    refine ⟨?_, by simp [hmerge, hclash]⟩
    intro merged hok
    rw [hmerge, Except.ok.injEq] at hok
    subst hok
    have hdistinct := hindexed.distinct.of_perm hperm
    have hadds : ∀ item ∈ additions, ∃ a ∈ orderedReceipts casefold receipts,
        a.authority = item.authority := by
      intro item hitem
      obtain ⟨a, ha, hauthority⟩ := hmerged.adds item hitem
      exact ⟨a, hperm.mem_iff.mp ha, hauthority⟩
    refine ⟨fun a ha => hperm.mem_iff.mp (hmerged.keeps a ha), hadds, hdistinct,
      orderedReceipts_ordered receipts, ?_⟩
    have hknown := indexed_indexesOf hdistinct
    rw [mergeReceipts, foldE_known hknown hadds]
    change Except.ok (orderedReceipts casefold (indexesOf casefold _).byPath.values) = _
    rw [values_byPath hknown, orderedReceipts_ordered]
  · have hmerge : mergeReceipts casefold existing additions = .error message := by
      rw [mergeReceipts, hfold]
      rfl
    simp [hmerge, hclash]

end Step

end Merge

/-- A confirmed receipt, requested once more beside a new one. -/
theorem mergeReceipts_exact_confirmed :
    let confirmed : Receipt String String :=
      ⟨"workflow-event", "WFE-1", "runs/event.json", "run", .confirmed⟩
    let state : Receipt String String :=
      ⟨"workflow-state", "WFS-1", "runs/state.json", "run", .reserved⟩
    let additions := [{ confirmed with status := .reserved }, state]
    (∀ merged, mergeReceipts String.toLower [confirmed] additions = .ok merged →
      (∀ a ∈ [confirmed], a ∈ merged) ∧
      (∀ item ∈ additions, ∃ a ∈ merged, a.authority = item.authority) ∧
      Distinct String.toLower merged ∧ orderedReceipts String.toLower merged = merged ∧
      mergeReceipts String.toLower merged additions = .ok merged) ∧
    ((∃ message, mergeReceipts String.toLower [confirmed] additions = .error message) ↔
      Clashes String.toLower [confirmed] additions) := by
  intro confirmed state additions
  have hdistinct : Distinct String.toLower [confirmed] :=
    ⟨List.nodup_singleton _, List.nodup_singleton _⟩
  exact mergeReceipts_exact hdistinct additions

/-! ## The receipts of an epoch -/

section Workflow

variable {E : Environment} {receipts existing additions : List WorkflowArtifactReceipt}
  {item : WorkflowArtifactReceipt} {indexes : Indexes WorkflowArtifactType WorkflowProducer}

/-- The receipt of an epoch, its authority laid out. -/
def receiptOf (item : WorkflowArtifactReceipt) : Receipt WorkflowArtifactType WorkflowProducer :=
  ⟨item.key.artifactType, item.key.artifactId, item.key.path, item.key.producer, item.status⟩

theorem lookup_byPath_receiptOf (h : Indexed E.casefold (receipts.map receiptOf) indexes)
    (path : String) :
    indexes.byPath.lookup path = (History.lastWhere
      (fun old : WorkflowArtifactReceipt => decide (E.casefold old.key.path = path))
      receipts).map receiptOf := by
  cases hfound : History.lastWhere
      (fun old : WorkflowArtifactReceipt => decide (E.casefold old.key.path = path)) receipts with
  | some a =>
    obtain ⟨ha, hpath⟩ := History.of_lastWhere_eq_some hfound
    exact (lookup_byPath h).mpr ⟨List.mem_map_of_mem ha, of_decide_eq_true hpath⟩
  | none =>
    rw [Option.map_none, Option.eq_none_iff_forall_ne_some]
    intro found hlookup
    obtain ⟨hmem, hpath⟩ := (lookup_byPath h).mp hlookup
    obtain ⟨a, ha, rfl⟩ := List.mem_map.mp hmem
    exact of_decide_eq_false (History.lastWhere_eq_none.mp hfound a ha) hpath

theorem lookup_byId_receiptOf (h : Indexed E.casefold (receipts.map receiptOf) indexes)
    (id : String) :
    indexes.byId.lookup id = (History.lastWhere
      (fun old : WorkflowArtifactReceipt => decide (old.key.artifactId = id))
      receipts).map receiptOf := by
  cases hfound : History.lastWhere
      (fun old : WorkflowArtifactReceipt => decide (old.key.artifactId = id)) receipts with
  | some a =>
    obtain ⟨ha, hid⟩ := History.of_lastWhere_eq_some hfound
    exact (lookup_byId h).mpr ⟨List.mem_map_of_mem ha, of_decide_eq_true hid⟩
  | none =>
    rw [Option.map_none, Option.eq_none_iff_forall_ne_some]
    intro found hlookup
    obtain ⟨hmem, hid⟩ := (lookup_byId h).mp hlookup
    obtain ⟨a, ha, rfl⟩ := List.mem_map.mp hmem
    exact of_decide_eq_false (History.lastWhere_eq_none.mp hfound a ha) hid

@[simp] theorem path_receiptOf : (receiptOf item).path = item.key.path := rfl

theorem key_eq_iff {a : WorkflowArtifactReceipt} : a.key = item.key ↔
    (receiptOf a).path = (receiptOf item).path ∧
      (receiptOf a).artifactId = (receiptOf item).artifactId ∧
      (receiptOf a).artifactType = (receiptOf item).artifactType ∧
      (receiptOf a).producer = (receiptOf item).producer := by
  obtain ⟨⟨_, _, _, _⟩, _⟩ := a
  obtain ⟨⟨_, _, _, _⟩, _⟩ := item
  simp only [receiptOf, ReceiptKey.mk.injEq]
  tauto

/-- The step of an epoch on one list is the step on the two indexes. -/
theorem mergeOne_receiptOf (h : Indexed E.casefold (receipts.map receiptOf) indexes)
    (item : WorkflowArtifactReceipt) :
    (∃ message, mergeOne E.casefold indexes (receiptOf item) = .error message ∧
      mergeWorkflowReceipt E receipts item = .error message) ∨
    ∃ indexes' next, mergeOne E.casefold indexes (receiptOf item) = .ok indexes' ∧
      mergeWorkflowReceipt E receipts item = .ok next ∧
      Indexed E.casefold (next.map receiptOf) indexes' := by
  have hpathMatch : indexes.byPath.lookup (E.casefold (receiptOf item).path) = _ :=
    lookup_byPath_receiptOf h (E.casefold item.key.path)
  have hidMatch : indexes.byId.lookup (receiptOf item).artifactId = _ :=
    lookup_byId_receiptOf h item.key.artifactId
  unfold mergeOne mergeWorkflowReceipt
  generalize hpathFound : History.lastWhere (fun old : WorkflowArtifactReceipt =>
    decide (E.casefold old.key.path = E.casefold item.key.path)) receipts = pathMatch
  generalize hidFound : History.lastWhere (fun old : WorkflowArtifactReceipt =>
    decide (old.key.artifactId = item.key.artifactId)) receipts = idMatch
  rw [hpathFound] at hpathMatch
  rw [hidFound] at hidMatch
  rw [hpathMatch, hidMatch]
  have hpathGuard : (∀ found ∈ pathMatch.map receiptOf, found.path = (receiptOf item).path ∧
      found.artifactId = (receiptOf item).artifactId ∧
      found.artifactType = (receiptOf item).artifactType ∧
      found.producer = (receiptOf item).producer) ↔ ∀ old ∈ pathMatch, old.key = item.key := by
    simp only [Option.mem_map, forall_exists_index, and_imp, forall_apply_eq_imp_iff₂, ← key_eq_iff]
  have hidGuard : (∀ found ∈ idMatch.map receiptOf, found.path = (receiptOf item).path) ↔
      ∀ old ∈ idMatch, old.key.path = item.key.path := by
    simp only [Option.mem_map, forall_exists_index, and_imp, forall_apply_eq_imp_iff₂,
      path_receiptOf]
  by_cases hpath : ∀ old ∈ pathMatch, old.key = item.key
  · by_cases hid : ∀ old ∈ idMatch, old.key.path = item.key.path
    · simp only [require_pos hpath, require_pos hid, require_pos (hpathGuard.mpr hpath),
        require_pos (hidGuard.mpr hid)]
      cases pathMatch with
      | some a => exact .inr ⟨indexes, receipts, rfl, rfl, h⟩
      | none =>
        refine .inr ⟨_, receipts ++ [item], rfl, rfl, ?_⟩
        rw [List.map_append, List.map_singleton]
        have hpathNew : ∀ a ∈ receipts, E.casefold a.key.path ≠ E.casefold item.key.path :=
          fun a ha => of_decide_eq_false (History.lastWhere_eq_none.mp hpathFound a ha)
        refine indexed_set h (List.forall_mem_map.mpr hpathNew)
          (List.forall_mem_map.mpr fun a ha hsame => ?_)
        -- A receipt with the identity of the item would stand at its path.
        have hfound : some (receiptOf a) = idMatch.map receiptOf :=
          ((lookup_byId h).mpr ⟨List.mem_map_of_mem ha, hsame⟩).symm.trans hidMatch
        have hsamePath := hidGuard.mpr hid (receiptOf a) hfound.symm
        exact hpathNew a ha (congrArg E.casefold hsamePath)
    · have hfound := mt hidGuard.mp hid
      simp only [require_pos hpath, require_pos (hpathGuard.mpr hpath),
        require_eq_error.mpr ⟨hid, rfl⟩, require_eq_error.mpr ⟨hfound, rfl⟩]
      exact .inl ⟨_, rfl, rfl⟩
  · have hfound := mt hpathGuard.mp hpath
    simp only [require_eq_error.mpr ⟨hpath, rfl⟩, require_eq_error.mpr ⟨hfound, rfl⟩]
    exact .inl ⟨_, rfl, rfl⟩

theorem foldE_mergeOne_receiptOf (h : Indexed E.casefold (receipts.map receiptOf) indexes)
    (additions : List WorkflowArtifactReceipt) :
    (∃ message, foldE (mergeOne E.casefold) indexes (additions.map receiptOf) = .error message ∧
      foldE (mergeWorkflowReceipt E) receipts additions = .error message) ∨
    ∃ indexes' next, foldE (mergeOne E.casefold) indexes (additions.map receiptOf) = .ok indexes' ∧
      foldE (mergeWorkflowReceipt E) receipts additions = .ok next ∧
      Indexed E.casefold (next.map receiptOf) indexes' := by
  induction additions generalizing receipts indexes with
  | nil => exact .inr ⟨indexes, receipts, rfl, rfl, h⟩
  | cons item additions ih =>
    rw [List.map_cons, foldE_cons, foldE_cons]
    rcases mergeOne_receiptOf h item with
      ⟨message, hone, hlist⟩ | ⟨indexes', next, hone, hlist, hnext⟩
    · rw [hone, hlist]
      exact .inl ⟨message, rfl, rfl⟩
    · rw [hone, hlist]
      exact ih hnext

theorem orderedReceipts_receiptOf (receipts : List WorkflowArtifactReceipt) :
    orderedReceipts E.casefold (receipts.map receiptOf) =
      (orderedWorkflowReceipts E receipts).map receiptOf := by
  refine (List.map_insertionSort _ _ receiptOf receipts fun a _ b _ => ?_).symm
  rw [rank, rank, Prod.Lex.toLex_le_toLex]
  rfl

/-- With distinct receipts, the merge of an epoch on one list is the merge on the two indexes. -/
theorem mergeReceipts_receiptOf (h : Distinct E.casefold (existing.map receiptOf)) :
    mergeReceipts E.casefold (existing.map receiptOf) (additions.map receiptOf) =
      (mergeWorkflowReceipts E existing additions).map (·.map receiptOf) := by
  rw [mergeReceipts, mergeWorkflowReceipts]
  rcases foldE_mergeOne_receiptOf (indexed_indexesOf h) additions with
    ⟨message, hindexes, hlist⟩ | ⟨indexes', next, hindexes, hlist, hnext⟩
  · rw [hindexes, hlist]
    rfl
  · rw [hindexes, hlist]
    change Except.ok (orderedReceipts E.casefold indexes'.byPath.values) =
      .ok ((orderedWorkflowReceipts E next).map receiptOf)
    rw [values_byPath hnext, orderedReceipts_receiptOf]

end Workflow

end Receipts

end Sdaqf
