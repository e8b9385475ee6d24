import Sdaqf.ContextCompaction

/-!
# What a compaction extracts

The text of a node is a member of its content, so the texts of a snapshot cost no more than the
contents that its budget covers, and every node is extracted. A contradiction joins two nodes of the
snapshot, so its marker stands at exactly two extracts.
-/

namespace Sdaqf

open Guard
open JsonText (Value)

variable {E : ContextEncoding} {s : ContextSnapshot}

/-! ## Every node is extracted -/

/-- The extract of a node. -/
def extractOf (s : ContextSnapshot) (cost : Value → Nat) (node : ContextNode) : ContextExtract where
  nodeId := node.nodeId
  sourceId := node.sourceId
  text := node.text
  textSha256 := node.textSha256
  authority := node.authority
  sensitivity := node.sensitivity
  required := node.required
  contradictionIds := s.contradictionIdsOf node.nodeId
  costBytes := cost (.text node.text)

/-- Nodes whose texts fit into the budget are all extracted. -/
theorem foldE_take {cost : Value → Nat} {nodes : List ContextNode} {x : Extraction}
    (hbudget : x.used + (nodes.map fun node => cost (.text node.text)).sum ≤ s.budgetBytes) :
    foldE (Extraction.take s cost) x nodes = .ok {
      extracts := x.extracts ++ nodes.map (extractOf s cost)
      omitted := x.omitted
      used := x.used + (nodes.map fun node => cost (.text node.text)).sum } := by
  induction nodes generalizing x with
  | nil => simp
  | cons node nodes ih =>
    rw [List.map_cons, List.sum_cons] at hbudget
    have hfits : ¬s.budgetBytes < x.used + cost (.text node.text) := by omega
    rw [foldE_cons, Extraction.take, if_neg hfits]
    refine (ih (by simpa only [Nat.add_assoc] using hbudget)).trans ?_
    simp [extractOf, Nat.add_assoc]

/-- A text is shorter than the content of its node. -/
theorem canonicalSize_text_le (node : ContextNode) :
    canonicalSize (.text node.text) ≤ canonicalSize (node.contentDict E) := by
  have hmember : ("text", Value.text node.text) ∈ node.contentMembers E := by
    simp [ContextNode.contentMembers]
  have hlt := JsonText.length_dumps_lt_object (L := JsonText.compact) (d := 0) hmember
  rw [JsonText.length_dumps_text] at hlt
  rw [canonicalSize, JsonText.length_dumps_text]
  exact hlt.le

/-- The texts of a snapshot fit into its budget. -/
theorem LawfulSnapshot.texts_le (h : LawfulSnapshot E s) :
    (s.nodes.map fun node => canonicalSize (.text node.text)).sum ≤ s.budgetBytes := by
  have hnodes : (s.nodes.map fun node => canonicalSize (.text node.text)).sum ≤
      (s.nodes.map fun node => canonicalSize (node.contentDict E)).sum :=
    List.sum_le_sum fun node _ => canonicalSize_text_le node
  have haccounted := h.accounted
  have hwithin := h.within
  rw [ContextSnapshot.contentBytes] at haccounted
  omega

theorem LawfulSnapshot.ordered_perm (h : LawfulSnapshot E s) : s.ordered.Perm s.nodes := by
  have hlength : s.nodes.length = s.selected.length := by
    have := congrArg List.length h.sameIds
    rw [List.length_map, List.length_map] at this
    exact this.symm
  have hzip : (s.nodes.zip s.selected).map (·.1) = s.nodes := List.map_fst_zip hlength.le
  have hsort := (List.perm_insertionSort (fun a b : ContextNode × SelectionDecision =>
    s.extractionKey a.1 a.2 ≤ s.extractionKey b.1 b.2) (s.nodes.zip s.selected)).map (·.1)
  rwa [hzip] at hsort

theorem LawfulSnapshot.ids_nodup (h : LawfulSnapshot E s) : (s.nodes.map (·.nodeId)).Nodup :=
  h.ordered.imp ne_of_lt

/-- What is extracted, in the order of the nodes. -/
theorem LawfulSnapshot.extraction (h : LawfulSnapshot E s) : ∃ x : Extraction,
    foldE (Extraction.take s canonicalSize) {} s.ordered = .ok x ∧
      (x.extracts.insertionSort fun a b => a.nodeId ≤ b.nodeId) =
        s.nodes.map (extractOf s canonicalSize) ∧
      x.omitted = [] ∧ x.used = (s.nodes.map fun node => canonicalSize (.text node.text)).sum := by
  have hperm := h.ordered_perm
  have hsum : (s.ordered.map fun node => canonicalSize (.text node.text)).sum =
      (s.nodes.map fun node => canonicalSize (.text node.text)).sum := (hperm.map _).sum_eq
  refine ⟨_, foldE_take (by simpa only [Nat.zero_add, hsum] using h.texts_le), ?_, rfl, by simp [hsum]⟩
  have hkeys : ((s.nodes.map (extractOf s canonicalSize)).map (·.nodeId)).Nodup := by
    rw [List.map_map]
    exact h.ids_nodup
  have hsorted : (s.nodes.map (extractOf s canonicalSize)).Pairwise fun a b =>
      a.nodeId ≤ b.nodeId := by
    rw [List.pairwise_map]
    exact (List.pairwise_map.mp h.ordered).imp le_of_lt
  calc ([] ++ s.ordered.map (extractOf s canonicalSize)).insertionSort
        (fun a b => a.nodeId ≤ b.nodeId)
      = (s.nodes.map (extractOf s canonicalSize)).insertionSort fun a b => a.nodeId ≤ b.nodeId :=
        Sorting.insertionSort_key_eq_of_perm (((hperm.map _).map _).nodup_iff.mpr hkeys)
          (hperm.map _)
    _ = s.nodes.map (extractOf s canonicalSize) := hsorted.insertionSort_eq

/-! ## Markers -/

theorem mem_contradictionIdsOf {nodeId id : String} : id ∈ s.contradictionIdsOf nodeId ↔
    ∃ edge ∈ s.edges, (edge.edgeType = .contradicts ∧
      (edge.sourceNodeId = nodeId ∨ edge.targetNodeId = nodeId)) ∧ edge.edgeId = id := by
  simp only [ContextSnapshot.contradictionIdsOf, Sorting.mem_listed, List.mem_toFinset,
    List.mem_map, List.mem_filter, decide_eq_true_eq, and_assoc]

/-- Two different members of a list without repetition are two of its members. -/
theorem length_filter_pair {α : Type} [DecidableEq α] {l : List α} {a b : α} (hl : l.Nodup)
    (ha : a ∈ l) (hb : b ∈ l) (hab : a ≠ b) : (l.filter fun c => a = c ∨ b = c).length = 2 := by
  have hperm : (l.filter fun c => a = c ∨ b = c).Perm [a, b] := by
    refine (List.perm_ext_iff_of_nodup (hl.filter _) (by simp [hab])).mpr fun c => ?_
    simp only [List.mem_filter, decide_eq_true_eq, List.mem_cons, List.not_mem_nil, or_false]
    constructor
    · rintro ⟨-, rfl | rfl⟩
      · exact .inl rfl
      · exact .inr rfl
    · rintro (rfl | rfl)
      · exact ⟨ha, .inl rfl⟩
      · exact ⟨hb, .inr rfl⟩
  exact hperm.length_eq

/-- The member of a key, where keys are not repeated. -/
theorem filter_key_eq {α κ : Type} [DecidableEq α] [DecidableEq κ] {key : α → κ} {l : List α} {a : α}
    (hl : (l.map key).Nodup) (ha : a ∈ l) : l.filter (fun b => key b = key a) = [a] := by
  have hsame : l.filter (fun b => key b = key a) = l.filter (· = a) := by
    refine List.filter_congr fun b hb => decide_eq_decide.mpr ⟨fun hkey => ?_, congrArg key⟩
    exact List.inj_on_of_nodup_map hl hb ha hkey
  rw [hsame, List.filter_eq, List.count_eq_one_of_mem hl.of_map ha]
  rfl

/-- A list has as many members of a kind as the sum of one for each says. -/
theorem length_filter_eq_sum {α : Type} {p : α → Bool} (l : List α) :
    (l.filter p).length = (l.map fun a => if p a then 1 else 0).sum := by
  induction l with
  | nil => rfl
  | cons a l ih =>
    rw [List.map_cons, List.sum_cons, ← ih, List.filter_cons]
    split
    · rw [List.length_cons, Nat.add_comm]
    · rw [Nat.zero_add]

/-- The markers of all nodes. -/
def ContextSnapshot.markers (s : ContextSnapshot) : List String :=
  s.nodes.flatMap fun node => s.contradictionIdsOf node.nodeId

/-- An edge marks just the nodes at its ends. -/
theorem LawfulSnapshot.edgeId_mem_contradictionIdsOf (h : LawfulSnapshot E s) {edge : ContextEdge}
    (hedge : edge ∈ s.edges) (htype : edge.edgeType = .contradicts) {nodeId : String} :
    edge.edgeId ∈ s.contradictionIdsOf nodeId ↔
      edge.sourceNodeId = nodeId ∨ edge.targetNodeId = nodeId := by
  have hids : (s.edges.map (·.edgeId)).Nodup := h.orderedEdges.imp ne_of_lt
  rw [mem_contradictionIdsOf]
  constructor
  · rintro ⟨edge', hedge', ⟨-, hend'⟩, hsame⟩
    rwa [← List.inj_on_of_nodup_map hids hedge' hedge hsame]
  · exact fun hend => ⟨edge, hedge, ⟨htype, hend⟩, rfl⟩

/-- An edge marks two nodes. -/
theorem LawfulSnapshot.length_marked (h : LawfulSnapshot E s) {edge : ContextEdge}
    (hedge : edge ∈ s.edges) (htype : edge.edgeType = .contradicts) :
    (s.nodes.filter fun node => edge.edgeId ∈ s.contradictionIdsOf node.nodeId).length = 2 := by
  obtain ⟨hsource, htarget⟩ := (h.edges edge hedge).ends
  have hpair := length_filter_pair h.ids_nodup hsource htarget (h.edges edge hedge).proper
  rw [List.filter_map, List.length_map] at hpair
  rw [← hpair]
  refine congrArg List.length (List.filter_congr fun node _ => ?_)
  simp only [h.edgeId_mem_contradictionIdsOf hedge htype, Function.comp_apply]

theorem LawfulSnapshot.count_markers (h : LawfulSnapshot E s) {edge : ContextEdge}
    (hedge : edge ∈ s.edges) (htype : edge.edgeType = .contradicts) :
    s.markers.count edge.edgeId = 2 := by
  rw [ContextSnapshot.markers, List.count_flatMap, ← h.length_marked hedge htype,
    length_filter_eq_sum]
  refine congrArg List.sum (List.map_congr_left fun node _ => ?_)
  have hnodup : (s.contradictionIdsOf node.nodeId).Nodup := Sorting.nodup_listed
  simp [hnodup.count]

theorem LawfulSnapshot.mem_markers (h : LawfulSnapshot E s) {id : String} :
    id ∈ s.markers ↔ ∃ edge ∈ s.edges, edge.edgeType = .contradicts ∧ edge.edgeId = id := by
  constructor
  · intro hid
    obtain ⟨node, -, hid⟩ := List.mem_flatMap.mp hid
    obtain ⟨edge, hedge, ⟨htype, -⟩, rfl⟩ := mem_contradictionIdsOf.mp hid
    exact ⟨edge, hedge, htype, rfl⟩
  · rintro ⟨edge, hedge, htype, rfl⟩
    exact List.count_pos_iff.mp (by rw [h.count_markers hedge htype]; decide)

/-- The markers are the unresolved contradictions, twice each. -/
theorem LawfulSnapshot.listed_markers (h : LawfulSnapshot E s) :
    Sorting.listed s.markers.toFinset = s.unresolvedContradictionIds ∧
      ∀ marker ∈ s.markers, s.markers.count marker = 2 := by
  refine ⟨?_, fun marker hmarker => ?_⟩
  · have hsorted : (Sorting.listed s.markers.toFinset).Pairwise (· < ·) :=
      Sorting.pairwise_lt_listed
    have hcontradictions := (sorted_contradictionIds h.edges h.orderedEdges).2
    rw [h.unresolved]
    refine ((List.perm_ext_iff_of_nodup (hsorted.imp ne_of_lt)
      (hcontradictions.imp ne_of_lt)).mpr fun id => ?_).eq_of_pairwise
      (fun _ _ _ _ hab hba => absurd hab (lt_asymm hba)) hsorted hcontradictions
    rw [Sorting.mem_listed, List.mem_toFinset, h.mem_markers, ContextSnapshot.contradictionIds]
    simp only [List.mem_map, List.mem_filter, decide_eq_true_eq, and_assoc]
  · obtain ⟨edge, hedge, htype, rfl⟩ := h.mem_markers.mp hmarker
    exact h.count_markers hedge htype

end Sdaqf
