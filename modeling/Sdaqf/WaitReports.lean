import Sdaqf.Dictionaries
import Sdaqf.SimpleCycles
import Sdaqf.Sorting
import Mathlib.Algebra.Order.BigOperators.Group.List
import Mathlib.Algebra.Order.Ring.Nat
import Mathlib.Data.Prod.Lex
import Mathlib.Data.String.Basic

/-!
# Wait reports

The report of a mapping from nodes to the nodes they wait for: the canonical smallest cycle, or the
sorted blockers. The cycles are found by a search over the simple paths from every node, with a
stack and a bound on the length of a path. The search ends, the bound hides no cycle, and the report is
determined by the edges of the mapping.
-/

namespace Sdaqf

namespace Waits

open SimpleCycles

inductive WaitKind
  | deadlock
  | stall
  | clear
deriving DecidableEq

structure WaitReport where
  kind : WaitKind
  cycle : List String
  blockers : List String
deriving DecidableEq

/-- A mapping from nodes to the nodes they wait for; its keys are distinct. -/
structure WaitFor where
  items : Dict String (List String)
  distinct : items.keys.Nodup

namespace WaitFor

variable (w : WaitFor)

/-- The mapping with its keys in their order, and the targets of each key sorted without
repetitions. -/
def normalized : Dict String (List String) :=
  (w.items.insertionSort fun a b => a.1 ≤ b.1).map fun item =>
    (item.1, Sorting.listed item.2.toFinset)

def targets (node : String) : List String := (w.normalized.lookup node).getD []

/-- One node waits for another. -/
def Edge (a b : String) : Prop := ∃ targets, (a, targets) ∈ w.items ∧ b ∈ targets

/-- The edges of the mapping, ordered by the waiting node and then by its target. -/
def edges : Finset (String ×ₗ String) :=
  (w.items.flatMap fun item => item.2.map fun target => toLex (item.1, target)).toFinset

end WaitFor

/-- One node waits for another, by the edges. -/
def Related (edges : Finset (String ×ₗ String)) (a b : String) : Prop := toLex (a, b) ∈ edges

/-- The least rotations of the simple cycles of a relation. -/
def leastRotations (E : String → String → Prop) : Set (List String) :=
  {c | ∃ l, IsSimpleCycle E l ∧ IsLeast {r | l ~r r} c}

/-! ## The search -/

/-- A node and the path that leads to it. -/
abbrev Frame := String × List String

/-- Paths are compared node by node. -/
local instance lawfulBEqPath : LawfulBEq (List String) := List.instLawfulBEq

/-- Look at one target of the last node of a path. -/
def visit (start : String) (bound : Nat) (path : List String)
    (state : List Frame × List (List String)) (target : String) : List Frame × List (List String) :=
  if target = start then
    (state.1, if canonical path ∈ state.2 then state.2 else state.2 ++ [canonical path])
  else if target ∉ path ∧ path.length ≤ bound then
    ((target, path ++ [target]) :: state.1, state.2)
  else state

/-- Take frames from the stack until it is empty, at most so many. -/
def search (targets : String → List String) (start : String) (bound : Nat) :
    Nat → List Frame → List (List String) → Option (List (List String))
  | _, [], cycles => some cycles
  | 0, _ :: _, _ => none
  | fuel + 1, (node, path) :: stack, cycles =>
    let state := (targets node).reverse.foldl (visit start bound path) (stack, cycles)
    search targets start bound fuel state.1 state.2

/-- The cycles that are found from every node. -/
def findCycles (fuel : Nat) (w : WaitFor) : Option (List (List String)) :=
  (w.normalized.map Prod.fst).foldlM
    (fun cycles start =>
      search w.targets start w.normalized.length fuel [(start, [start])] cycles) []

def renderEdge (node target : String) : String := node ++ "->" ++ target

/-- Return the canonical smallest cycle or sorted stall blockers. -/
def deterministicWaitReport (fuel : Nat) (w : WaitFor) : Option WaitReport := do
  let cycles ← findCycles fuel w
  match leastBy (fun cycle => toLex (cycle.length, cycle)) cycles with
  | some cycle => return ⟨.deadlock, cycle, []⟩
  | none =>
    let blockers := w.normalized.flatMap fun item => item.2.map (renderEdge item.1)
    return ⟨if blockers = [] then .clear else .stall, [], blockers⟩

/-! ## One step of the search -/

variable {targets : String → List String} {start node : String} {bound fuel : Nat}
  {path q : List String} {stack : List Frame} {cycles out : List (List String)}
  {state : List Frame × List (List String)} {c : List String} {e : Frame}

/-- A path from a node along the targets, without repetition and within the bound. -/
structure Trail (targets : String → List String) (start : String) (bound : Nat)
    (path : List String) : Prop where
  head : path.head? = some start
  chain : path.IsChain fun a b => b ∈ targets a
  nodup : path.Nodup
  bounded : path.length ≤ bound + 1

/-- What a frame of the stack holds. -/
structure Sound (targets : String → List String) (start : String) (bound : Nat) (e : Frame) :
    Prop where
  trail : Trail targets start bound e.2
  last : e.2.getLast? = some e.1

theorem mem_stack_visit {ts : List String} : e ∈ (ts.foldl (visit start bound path) state).1 ↔
    e ∈ state.1 ∨ ∃ t ∈ ts, t ≠ start ∧ t ∉ path ∧ path.length ≤ bound ∧ e = (t, path ++ [t]) := by
  induction ts generalizing state with
  | nil => simp
  | cons t ts ih =>
    rw [List.foldl_cons, ih]
    simp only [List.mem_cons, exists_eq_or_imp]
    unfold visit
    split_ifs with hstart hknown hfresh
    · simp [hstart]
    · simp [hstart]
    · rw [List.mem_cons]
      tauto
    · have hnot : ¬(t ≠ start ∧ t ∉ path ∧ path.length ≤ bound ∧ e = (t, path ++ [t])) :=
        fun h => hfresh ⟨h.2.1, h.2.2.1⟩
      tauto

theorem mem_cycles_visit {ts : List String} : c ∈ (ts.foldl (visit start bound path) state).2 ↔
    c ∈ state.2 ∨ (start ∈ ts ∧ c = canonical path) := by
  induction ts generalizing state with
  | nil => simp
  | cons t ts ih =>
    rw [List.foldl_cons, ih]
    unfold visit
    split_ifs with hstart hknown hfresh
    · have hsame : c = canonical path → c ∈ state.2 := fun h => h ▸ hknown
      subst hstart
      simp only [List.mem_cons, true_or, true_and]
      tauto
    · subst hstart
      simp only [List.mem_append, List.mem_cons, List.not_mem_nil, or_false, true_or, true_and]
      tauto
    · simp [Ne.symm hstart]
    · simp [Ne.symm hstart]

/-- A frame on the stack is sound after its path has been looked at. -/
theorem sound_visit (h : Sound targets start bound (node, path)) (hstack : ∀ e ∈ stack,
      Sound targets start bound e) :
    ∀ e ∈ ((targets node).reverse.foldl (visit start bound path) (stack, cycles)).1,
      Sound targets start bound e := by
  intro e he
  rcases mem_stack_visit.mp he with he | ⟨t, ht, hne, hfresh, hbound, rfl⟩
  · exact hstack e he
  · obtain ⟨⟨hhead, hchain, hnodup, -⟩, hlast⟩ := h
    refine ⟨⟨?_, ?_, ?_, ?_⟩, List.getLast?_concat ..⟩
    · rw [List.head?_append, hhead]
      rfl
    · refine List.isChain_append.mpr ⟨hchain, List.isChain_singleton t, ?_⟩
      rintro x hx y hy
      rw [Option.mem_def] at hx hy
      cases hlast.symm.trans hx
      cases hy
      exact List.mem_reverse.mp ht
    · exact List.nodup_append.mpr ⟨hnodup, List.nodup_singleton t, by
        rintro x hx y hy rfl
        exact hfresh (List.mem_singleton.mp hy ▸ hx)⟩
    · simpa using hbound

/-! ## What the search finds -/

/-- A trail goes on from a path and closes at its beginning. -/
def Closes (targets : String → List String) (start : String) (bound : Nat) (path : List String)
    (c : List String) : Prop :=
  ∃ q, path <+: q ∧ Trail targets start bound q ∧ (∃ last ∈ q.getLast?, start ∈ targets last) ∧
    c = canonical q

/-- A trail that goes on from a path ends there, or it goes on from a path with one more node. -/
theorem closes_iff (h : Sound targets start bound (node, path)) :
    Closes targets start bound path c ↔ (start ∈ targets node ∧ c = canonical path) ∨
      ∃ t ∈ targets node, t ≠ start ∧ t ∉ path ∧ path.length ≤ bound ∧
        Closes targets start bound (path ++ [t]) c := by
  obtain ⟨htrail, hlast⟩ := h
  constructor
  · rintro ⟨q, ⟨rest, rfl⟩, hq, hclosed, rfl⟩
    cases rest with
    | nil =>
      rw [List.append_nil] at hclosed ⊢
      obtain ⟨last, hmem, hstart⟩ := hclosed
      cases hlast.symm.trans hmem
      exact .inl ⟨hstart, rfl⟩
    | cons t rest =>
      have hfresh : t ∉ path := fun hmem =>
        (List.nodup_append.mp hq.nodup).2.2 t hmem t List.mem_cons_self rfl
      have hne : t ≠ start := by
        rintro rfl
        exact hfresh (List.mem_of_head? htrail.head)
      have hstep : t ∈ targets node :=
        (List.isChain_append.mp hq.chain).2.2 node hlast t rfl
      have hlength := hq.bounded
      rw [List.length_append, List.length_cons] at hlength
      refine .inr ⟨t, hstep, hne, hfresh, by omega, _, ⟨rest, ?_⟩, hq, hclosed, rfl⟩
      rw [List.append_assoc, List.singleton_append]
  · rintro (⟨hstart, rfl⟩ | ⟨t, -, -, -, -, q, hprefix, hq⟩)
    · exact ⟨path, List.prefix_rfl, htrail, ⟨node, hlast, hstart⟩, rfl⟩
    · exact ⟨q, (List.prefix_append path [t]).trans hprefix, hq⟩

/-- A search that ends has found the cycles that close the trails from its stack. -/
theorem mem_search (hstack : ∀ e ∈ stack, Sound targets start bound e)
    (h : search targets start bound fuel stack cycles = some out) :
    c ∈ out ↔ c ∈ cycles ∨ ∃ e ∈ stack, Closes targets start bound e.2 c := by
  induction fuel generalizing stack cycles with
  | zero =>
    cases stack with
    | nil =>
      cases h
      simp
    | cons e stack => cases h
  | succ fuel ih =>
    cases stack with
    | nil =>
      cases h
      simp
    | cons e stack =>
      obtain ⟨node, path⟩ := e
      rw [List.forall_mem_cons] at hstack
      rw [search] at h
      have hiff := ih (sound_visit hstack.1 hstack.2) h
      rw [hiff, mem_cycles_visit, List.exists_mem_cons_iff, closes_iff hstack.1]
      simp only [List.mem_reverse]
      constructor
      · rintro ((hknown | hclosed) | ⟨e, he, hcloses⟩)
        · exact .inl hknown
        · exact .inr (.inl (.inl hclosed))
        · rcases mem_stack_visit.mp he with he | ⟨t, ht, hne, hfresh, hbound, rfl⟩
          · exact .inr (.inr ⟨e, he, hcloses⟩)
          · exact .inr (.inl (.inr ⟨t, List.mem_reverse.mp ht, hne, hfresh, hbound, hcloses⟩))
      · rintro (hknown | (hclosed | ⟨t, ht, hne, hfresh, hbound, hcloses⟩) | ⟨e, he, hcloses⟩)
        · exact .inl (.inl hknown)
        · exact .inl (.inr hclosed)
        · exact .inr ⟨_, mem_stack_visit.mpr
            (.inr ⟨t, List.mem_reverse.mpr ht, hne, hfresh, hbound, rfl⟩), hcloses⟩
        · exact .inr ⟨e, mem_stack_visit.mpr (.inl he), hcloses⟩

/-! ## The search ends -/

/-- A bound for the work that a stack stands for: a path of the greatest length has weight one step,
and a path weighs more than all paths that go on from it by one node. -/
def weight (width bound : Nat) (stack : List Frame) : Nat :=
  (stack.map fun e => (width + 1) ^ (bound + 2 - e.2.length)).sum

theorem weight_visit {width : Nat} {ts : List String} :
    weight width bound (ts.foldl (visit start bound path) state).1 ≤
      weight width bound state.1 + ts.length * (width + 1) ^ (bound + 1 - path.length) := by
  induction ts generalizing state with
  | nil => simp
  | cons t ts ih =>
    have hvisit : weight width bound (visit start bound path state t).1 ≤
        weight width bound state.1 + (width + 1) ^ (bound + 1 - path.length) := by
      unfold visit
      split_ifs
      · exact Nat.le_add_right _ _
      · exact Nat.le_add_right _ _
      · simp only [weight, List.map_cons, List.sum_cons, List.length_append, List.length_singleton]
        rw [show bound + 2 - (path.length + 1) = bound + 1 - path.length by omega, Nat.add_comm]
      · exact Nat.le_add_right _ _
    have hrest := @ih (visit start bound path state t)
    rw [List.foldl_cons, List.length_cons, Nat.succ_mul]
    omega

/-- With as many steps as the stack weighs the search ends. -/
theorem exists_search {width : Nat} (hwidth : ∀ node, (targets node).length ≤ width)
    (hstack : ∀ e ∈ stack, Sound targets start bound e)
    (hfuel : weight width bound stack ≤ fuel) :
    ∃ out, search targets start bound fuel stack cycles = some out := by
  induction fuel generalizing stack cycles with
  | zero =>
    cases stack with
    | nil => exact ⟨cycles, rfl⟩
    | cons e stack =>
      have hpos : 0 < (width + 1) ^ (bound + 2 - e.2.length) := Nat.pow_pos (Nat.succ_pos width)
      rw [weight, List.map_cons, List.sum_cons] at hfuel
      omega
  | succ fuel ih =>
    cases stack with
    | nil => exact ⟨cycles, rfl⟩
    | cons e stack =>
      obtain ⟨node, path⟩ := e
      rw [List.forall_mem_cons] at hstack
      have hbounded := hstack.1.trail.bounded
      dsimp only at hbounded
      refine ih (sound_visit hstack.1 hstack.2) ?_
      have hpushed := @weight_visit start bound path (stack, cycles) width (targets node).reverse
      have hpower : (width + 1) ^ (bound + 2 - path.length) =
          width * (width + 1) ^ (bound + 1 - path.length) +
            (width + 1) ^ (bound + 1 - path.length) := by
        rw [show bound + 2 - path.length = bound + 1 - path.length + 1 by omega, Nat.pow_succ,
          Nat.mul_comm, Nat.succ_mul]
      have hpos : 0 < (width + 1) ^ (bound + 1 - path.length) := Nat.pow_pos (Nat.succ_pos width)
      have hmul : (targets node).reverse.length * (width + 1) ^ (bound + 1 - path.length) ≤
          width * (width + 1) ^ (bound + 1 - path.length) := by
        rw [List.length_reverse]
        exact Nat.mul_le_mul_right _ (hwidth node)
      rw [weight, List.map_cons, List.sum_cons] at hfuel
      dsimp only at hpushed hfuel
      rw [← weight] at hfuel
      omega

/-! ## The cycles of a mapping -/

variable {w w' : WaitFor} {a b : String} {l : List String}

theorem sound_start : Sound targets start bound (start, [start]) :=
  ⟨⟨rfl, List.isChain_singleton start, List.nodup_singleton start, by simp⟩, rfl⟩

namespace WaitFor

theorem nodup_keys (w : WaitFor) : w.normalized.keys.Nodup := by
  have hperm := (List.perm_insertionSort (fun a b => a.1 ≤ b.1) w.items).map Prod.fst
  rw [Dict.keys, normalized, List.map_map]
  exact hperm.nodup_iff.mpr w.distinct

theorem mem_normalized {ts : List String} : (a, ts) ∈ w.normalized ↔
    ∃ targets, (a, targets) ∈ w.items ∧ ts = Sorting.listed targets.toFinset := by
  simp only [normalized, List.mem_map, Prod.exists, Prod.mk.injEq, List.mem_insertionSort]
  constructor
  · rintro ⟨_, targets, hmem, rfl, rfl⟩
    exact ⟨targets, hmem, rfl⟩
  · rintro ⟨targets, hmem, rfl⟩
    exact ⟨a, targets, hmem, rfl, rfl⟩

theorem targets_cases (w : WaitFor) (a : String) :
    w.targets a = [] ∨ (a, w.targets a) ∈ w.normalized := by
  rw [targets]
  cases hlookup : w.normalized.lookup a with
  | none => exact .inl rfl
  | some ts => exact .inr ((Dict.lookup_eq_some_iff w.nodup_keys).mp hlookup)

/-- The targets of a node are the nodes it waits for. -/
theorem mem_targets : b ∈ w.targets a ↔ w.Edge a b := by
  constructor
  · intro hb
    rcases w.targets_cases a with hnil | hmem
    · rw [hnil] at hb
      cases hb
    · obtain ⟨ts, hitem, hts⟩ := mem_normalized.mp hmem
      rw [hts, Sorting.mem_listed, List.mem_toFinset] at hb
      exact ⟨ts, hitem, hb⟩
  · rintro ⟨ts, hitem, hb⟩
    have hlookup := (Dict.lookup_eq_some_iff w.nodup_keys).mpr (mem_normalized.mpr ⟨ts, hitem, rfl⟩)
    rw [targets, hlookup, Option.getD_some, Sorting.mem_listed, List.mem_toFinset]
    exact hb

theorem mem_edges : toLex (a, b) ∈ w.edges ↔ w.Edge a b := by
  simp only [edges, List.mem_toFinset, List.mem_flatMap, List.mem_map,
    EmbeddingLike.apply_eq_iff_eq, Prod.mk.injEq, Prod.exists, Edge]
  constructor
  · rintro ⟨_, ts, hitem, _, hb, rfl, rfl⟩
    exact ⟨ts, hitem, hb⟩
  · rintro ⟨ts, hitem, hb⟩
    exact ⟨a, ts, hitem, b, hb, rfl, rfl⟩

/-- A bound for the number of targets of a node. -/
def width (w : WaitFor) : Nat := (w.normalized.values.map List.length).sum

theorem length_targets_le (w : WaitFor) (a : String) : (w.targets a).length ≤ w.width := by
  rcases w.targets_cases a with hnil | hmem
  · rw [hnil]
    exact Nat.zero_le _
  · exact List.le_sum_of_mem (List.mem_map_of_mem (List.mem_map.mpr ⟨_, hmem, rfl⟩))

end WaitFor

/-- A trail from a node that closes is a simple cycle. -/
theorem closes_start_iff : Closes w.targets start bound [start] c ↔
    ∃ l, IsSimpleCycle w.Edge (start :: l) ∧ l.length ≤ bound ∧ c = canonical (start :: l) := by
  have hedge : (fun a b => b ∈ w.targets a) = w.Edge := by
    funext a b
    exact propext WaitFor.mem_targets
  have hclosed (l : List String) : (start :: (l ++ [start])).IsChain w.Edge ↔
      (start :: l).IsChain w.Edge ∧ ∃ last ∈ (start :: l).getLast?, w.Edge last start := by
    rw [← List.cons_append, List.isChain_append]
    simp only [List.isChain_singleton, List.head?_cons, Option.mem_some_iff, forall_eq', true_and]
    have hlast := List.getLast?_eq_getLast_of_ne_nil (List.cons_ne_nil start l)
    simp only [hlast, Option.mem_some_iff, forall_eq', exists_eq_left']
  constructor
  · rintro ⟨q, ⟨l, rfl⟩, hq, ⟨last, hlast, hstart⟩, rfl⟩
    have hchain := hq.chain
    rw [hedge] at hchain
    have hlink := WaitFor.mem_targets.mp hstart
    refine ⟨l, isSimpleCycle_cons.mpr ⟨hq.nodup, ?_⟩, ?_, rfl⟩
    · exact (hclosed l).mpr ⟨hchain, last, hlast, hlink⟩
    · simpa using hq.bounded
  · rintro ⟨l, hcycle, hlength, rfl⟩
    obtain ⟨hnodup, hchain⟩ := isSimpleCycle_cons.mp hcycle
    obtain ⟨hchain, last, hlast, hstart⟩ := (hclosed l).mp hchain
    refine ⟨start :: l, ⟨l, rfl⟩, ⟨rfl, ?_, hnodup, ?_⟩, ⟨last, hlast, ?_⟩, rfl⟩
    · rw [hedge]
      exact hchain
    · simpa using hlength
    · exact WaitFor.mem_targets.mpr hstart

/-- The searches from a list of nodes end, and find what closes from one of them. -/
theorem exists_searches (hfuel : (w.width + 1) ^ (w.normalized.length + 1) ≤ fuel)
    (starts : List String) (cycles : List (List String)) :
    ∃ out, starts.foldlM (fun cycles start =>
        search w.targets start w.normalized.length fuel [(start, [start])] cycles) cycles =
          some out ∧
      ∀ c, c ∈ out ↔ c ∈ cycles ∨
        ∃ start ∈ starts, Closes w.targets start w.normalized.length [start] c := by
  induction starts generalizing cycles with
  | nil => exact ⟨cycles, rfl, by simp⟩
  | cons start starts ih =>
    have hsound : ∀ e ∈ [(start, [start])], Sound w.targets start w.normalized.length e :=
      List.forall_mem_singleton.mpr sound_start
    have hweight : weight w.width w.normalized.length [(start, [start])] ≤ fuel := by
      simpa [weight] using hfuel
    obtain ⟨found, hfound⟩ := @exists_search w.targets start w.normalized.length fuel
      [(start, [start])] cycles w.width w.length_targets_le hsound hweight
    obtain ⟨out, hout, hmem⟩ := ih found
    refine ⟨out, ?_, fun c => ?_⟩
    · rw [List.foldlM_cons, hfound]
      exact hout
    · have hfirst : (∃ e ∈ [(start, [start])],
          Closes w.targets start w.normalized.length e.2 c) ↔
            Closes w.targets start w.normalized.length [start] c := by
        rw [List.exists_mem_cons_iff]
        simp
      rw [hmem, mem_search hsound hfound, hfirst, List.exists_mem_cons_iff, or_assoc]

/-- The nodes of a cycle wait for a node, so they are keys of the mapping. -/
theorem key_of_isSimpleCycle (h : IsSimpleCycle w.Edge l) (ha : a ∈ l) : a ∈ w.normalized.keys := by
  obtain ⟨p, r, rfl⟩ := List.append_of_mem ha
  have hrotated : (p ++ a :: r) ~r (a :: (r ++ p)) := by
    rw [← List.cons_append]
    exact List.isRotated_append
  have hchain := (isSimpleCycle_cons.mp (h.rotated hrotated)).2
  obtain ⟨b, ts, hitem, -⟩ : ∃ b, w.Edge a b := by
    cases hnext : r ++ p ++ [a] with
    | nil => simp at hnext
    | cons b rest =>
      rw [hnext] at hchain
      exact ⟨b, (List.isChain_cons_cons.mp hchain).1⟩
  exact List.mem_map.mpr ⟨_, WaitFor.mem_normalized.mpr ⟨ts, hitem, rfl⟩, rfl⟩

/-- No cycle is longer than the mapping, so the bound of the search hides none. -/
theorem length_le_of_isSimpleCycle (h : IsSimpleCycle w.Edge l) :
    l.length ≤ w.normalized.length := by
  have hkeys : l ⊆ w.normalized.keys := fun a ha => key_of_isSimpleCycle h ha
  have hlength := (List.subperm_of_subset h.nodup hkeys).length_le
  rwa [Dict.keys, List.length_map] at hlength

/-- The cycles that are found are the least rotations of all simple cycles. -/
theorem exists_findCycles (hfuel : (w.width + 1) ^ (w.normalized.length + 1) ≤ fuel) :
    ∃ cycles, findCycles fuel w = some cycles ∧ ∀ c, c ∈ cycles ↔ c ∈ leastRotations w.Edge := by
  obtain ⟨cycles, hcycles, hmem⟩ := exists_searches hfuel (w.normalized.map Prod.fst) []
  refine ⟨cycles, hcycles, fun c => ?_⟩
  rw [hmem]
  simp only [List.not_mem_nil, false_or, closes_start_iff]
  constructor
  · rintro ⟨start, -, l, hcycle, -, rfl⟩
    exact ⟨_, hcycle, canonical_isLeast hcycle.ne_nil⟩
  · rintro ⟨l, hcycle, hleast⟩
    obtain ⟨start, l, rfl⟩ := List.exists_cons_of_ne_nil hcycle.ne_nil
    have hlength := length_le_of_isSimpleCycle hcycle
    rw [List.length_cons] at hlength
    exact ⟨start, key_of_isSimpleCycle hcycle List.mem_cons_self, l, hcycle, by omega,
      (canonical_eq_of_isLeast hcycle.ne_nil hleast).symm⟩

/-! ## The report -/

/-- The blockers are the edges in their order. -/
theorem blockers_eq (w : WaitFor) :
    (w.normalized.flatMap fun item => item.2.map (renderEdge item.1)) =
      (Sorting.listed w.edges).map fun edge => renderEdge (ofLex edge).1 (ofLex edge).2 := by
  have hordered : w.normalized.Pairwise fun a b => a.1 < b.1 :=
    List.pairwise_map.mpr (Sorting.increasing_insertionSort w.distinct)
  have hpairs : (w.normalized.flatMap fun item => item.2.map fun target => toLex (item.1, target)) =
      Sorting.listed w.edges := by
    refine Sorting.eq_listed (List.pairwise_flatMap.mpr ⟨?_, ?_⟩) ?_
    · rintro ⟨node, ts⟩ hitem
      obtain ⟨targets, -, rfl⟩ := WaitFor.mem_normalized.mp hitem
      have hsorted : (Sorting.listed targets.toFinset).Pairwise (· < ·) :=
        Sorting.pairwise_lt_listed
      refine List.pairwise_map.mpr (hsorted.imp fun hab => ?_)
      exact Prod.Lex.toLex_lt_toLex.mpr (.inr ⟨rfl, hab⟩)
    · refine hordered.imp fun hab => ?_
      simp only [List.mem_map]
      rintro _ ⟨_, -, rfl⟩ _ ⟨_, -, rfl⟩
      exact Prod.Lex.toLex_lt_toLex.mpr (.inl hab)
    · intro edge
      obtain ⟨⟨a, b⟩, rfl⟩ := toLex.surjective edge
      rw [WaitFor.mem_edges]
      simp only [List.mem_flatMap, List.mem_map, EmbeddingLike.apply_eq_iff_eq, Prod.mk.injEq,
        Prod.exists, WaitFor.mem_normalized]
      constructor
      · rintro ⟨_, _, ⟨ts, hitem, rfl⟩, _, hb, rfl, rfl⟩
        exact ⟨ts, hitem, by simpa using hb⟩
      · rintro ⟨ts, hitem, hb⟩
        exact ⟨a, _, ⟨ts, hitem, rfl⟩, b, by simpa using hb, rfl, rfl⟩
  rw [← hpairs, List.map_flatMap]
  simp only [List.map_map]
  rfl

/-- What a report says about a set of edges: whether there is a cycle, the least one by length and
then in the order of lists, and all edges in their order where there is none. -/
structure Exact (edges : Finset (String ×ₗ String)) (report : WaitReport) : Prop where
  deadlock_iff : report.kind = .deadlock ↔ ∃ a, Relation.TransGen (Related edges) a a
  cycle_mem : report.kind = .deadlock → report.cycle ∈ leastRotations (Related edges)
  cycle_le : report.kind = .deadlock → ∀ c ∈ leastRotations (Related edges),
    toLex (report.cycle.length, report.cycle) ≤ toLex (c.length, c)
  no_blockers : report.kind = .deadlock → report.blockers = []
  no_cycle : report.kind ≠ .deadlock → report.cycle = []
  blockers : report.kind ≠ .deadlock → report.blockers =
    (Sorting.listed edges).map fun edge => renderEdge (ofLex edge).1 (ofLex edge).2
  clear_iff : report.kind = .clear ↔ edges = ∅

/-- The edges determine the report. -/
theorem Exact.unique {edges : Finset (String ×ₗ String)} {r r' : WaitReport} (h : Exact edges r)
    (h' : Exact edges r') : r = r' := by
  have hdeadlock : r.kind = .deadlock ↔ r'.kind = .deadlock :=
    h.deadlock_iff.trans h'.deadlock_iff.symm
  have hkind : r.kind = r'.kind := by
    have hclear : r.kind = .clear ↔ r'.kind = .clear := h.clear_iff.trans h'.clear_iff.symm
    cases hr : r.kind <;> cases hr' : r'.kind <;> simp [hr, hr'] at hdeadlock hclear ⊢
  obtain ⟨kind, cycle, blockers⟩ := r
  obtain ⟨kind', cycle', blockers'⟩ := r'
  dsimp only at hkind
  subst hkind
  by_cases hdead : kind = .deadlock
  · have hcycle := le_antisymm (h.cycle_le hdead _ (h'.cycle_mem hdead))
      (h'.cycle_le hdead _ (h.cycle_mem hdead))
    rw [EmbeddingLike.apply_eq_iff_eq, Prod.mk.injEq] at hcycle
    have hblockers := (h.no_blockers hdead).trans (h'.no_blockers hdead).symm
    dsimp only at hcycle hblockers
    rw [hcycle.2, hblockers]
  · have hcycle := (h.no_cycle hdead).trans (h'.no_cycle hdead).symm
    have hblockers := (h.blockers hdead).trans (h'.blockers hdead).symm
    dsimp only at hcycle hblockers
    rw [hcycle, hblockers]

theorem edge_eq_related (w : WaitFor) : w.Edge = Related w.edges := by
  funext a b
  exact propext WaitFor.mem_edges.symm

/-- Some least rotation of a simple cycle exists exactly if some element reaches itself. -/
theorem exists_leastRotation_iff {E : String → String → Prop} :
    (∃ c, c ∈ leastRotations E) ↔ ∃ a, Relation.TransGen E a a := by
  rw [← exists_isSimpleCycle_iff]
  constructor
  · rintro ⟨c, l, hl, -⟩
    exact ⟨l, hl⟩
  · rintro ⟨l, hl⟩
    exact ⟨canonical l, l, hl, canonical_isLeast hl.ne_nil⟩

/-- A mapping without edges has no cycle. -/
theorem edges_ne_empty_of_transGen (h : Relation.TransGen w.Edge a b) : w.edges ≠ ∅ := by
  obtain ⟨c, hc, -⟩ := Relation.TransGen.head'_iff.mp h
  exact Finset.ne_empty_of_mem (WaitFor.mem_edges.mpr hc)

theorem blockers_eq_nil_iff (w : WaitFor) :
    (w.normalized.flatMap fun item => item.2.map (renderEdge item.1)) = [] ↔ w.edges = ∅ := by
  rw [blockers_eq, List.map_eq_nil_iff, ← List.length_eq_zero_iff, Sorting.length_listed,
    Finset.card_eq_zero]

/-- The report after so many steps is exact. -/
theorem exact_report (hfuel : (w.width + 1) ^ (w.normalized.length + 1) ≤ fuel) :
    ∃ report, deterministicWaitReport fuel w = some report ∧ Exact w.edges report := by
  obtain ⟨cycles, hcycles, hmem⟩ := exists_findCycles hfuel
  have hexists := @exists_leastRotation_iff w.Edge
  rw [deterministicWaitReport, hcycles, Option.bind_eq_bind, Option.bind_some]
  cases hleast : leastBy (fun cycle : List String => toLex (cycle.length, cycle)) cycles with
  | some cycle =>
    have hfound := (hmem cycle).mp (leastBy_mem hleast)
    have hcycle := hexists.mp ⟨cycle, hfound⟩
    refine ⟨⟨.deadlock, cycle, []⟩, rfl, ?_⟩
    rw [edge_eq_related] at hfound hmem hcycle
    exact {
      deadlock_iff := iff_of_true rfl hcycle
      cycle_mem := fun _ => hfound
      cycle_le := fun _ c hc => leastBy_le hleast ((hmem c).mpr hc)
      no_blockers := fun _ => rfl
      no_cycle := fun h => absurd rfl h
      blockers := fun h => absurd rfl h
      clear_iff := by
        obtain ⟨a, ha⟩ := hcycle
        rw [← edge_eq_related] at ha
        exact iff_of_false (by simp) (edges_ne_empty_of_transGen ha) }
  | none =>
    have hnone : ¬∃ a, Relation.TransGen (Related w.edges) a a := by
      rw [← edge_eq_related, ← hexists]
      rintro ⟨c, hc⟩
      have hc' := (hmem c).mpr hc
      rw [leastBy_eq_none.mp hleast] at hc'
      cases hc'
    refine ⟨_, rfl, ?_⟩
    have hnot : ∀ p : Prop, [Decidable p] →
        (if p then WaitKind.clear else WaitKind.stall) ≠ .deadlock := by
      intro p _
      split <;> simp
    exact {
      deadlock_iff := iff_of_false (hnot _) hnone
      cycle_mem := fun h => absurd h (hnot _)
      cycle_le := fun h => absurd h (hnot _)
      no_blockers := fun h => absurd h (hnot _)
      no_cycle := fun _ => rfl
      blockers := fun _ => blockers_eq w
      clear_iff := by
        rw [← blockers_eq_nil_iff]
        dsimp only
        split_ifs with hnil
        · exact iff_of_true rfl hnil
        · exact iff_of_false (by simp) hnil }

/-- With enough steps the report is there, and it is exact. -/
theorem exists_report (w : WaitFor) :
    ∃ report, Exact w.edges report ∧
      ∃ enough, ∀ fuel, enough ≤ fuel → deterministicWaitReport fuel w = some report := by
  obtain ⟨report, -, hexact⟩ := exact_report (le_refl ((w.width + 1) ^ (w.normalized.length + 1)))
  refine ⟨report, hexact, (w.width + 1) ^ (w.normalized.length + 1), fun fuel hfuel => ?_⟩
  obtain ⟨report', hreport, hexact'⟩ := exact_report hfuel
  rw [hreport, hexact'.unique hexact]

/-- The report ends, it is exact, and it depends on the edges alone. -/
theorem deterministicWaitReport_exact (w : WaitFor) :
    ∃ report, Exact w.edges report ∧
      (∃ enough, ∀ fuel, enough ≤ fuel → deterministicWaitReport fuel w = some report) ∧
      ∀ w' : WaitFor, w'.edges = w.edges →
        ∃ enough, ∀ fuel, enough ≤ fuel → deterministicWaitReport fuel w' = some report := by
  obtain ⟨report, hexact, hreport⟩ := exists_report w
  refine ⟨report, hexact, hreport, fun w' hedges => ?_⟩
  obtain ⟨report', hexact', hreport'⟩ := exists_report w'
  rw [hedges] at hexact'
  rwa [hexact.unique hexact']

end Waits

end Sdaqf
