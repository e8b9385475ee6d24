import Mathlib.Algebra.BigOperators.Group.List.Basic
import Sdaqf.SolverVerification

/-!
# What a solver problem means

A valuation gives every variable an integer. A problem says which valuations are feasible, and its
objective what they are worth; neither says how they are searched for. The program evaluates one
complete assignment at a time: on a well-formed problem it never misses a variable, and it agrees
with the meaning of the problem.
-/

namespace Sdaqf

open Guard

/-- A value for every variable. -/
abbrev Valuation := String → Int

variable {σ τ : Valuation} {values : SolverValues} {problem : SolverProblem}

/-! ## The meaning of a problem -/

/-- The value of a linear form. -/
def linearValue (σ : Valuation) (first : Int) (terms : List LinearTerm) : Int :=
  first + (terms.map fun term => σ term.variableId * term.coefficient).sum

theorem linearValue_cons {first : Int} {term : LinearTerm} {terms : List LinearTerm} :
    linearValue σ first (term :: terms) =
      linearValue σ (first + σ term.variableId * term.coefficient) terms := by
  rw [linearValue, linearValue, List.map_cons, List.sum_cons, add_assoc]

/-- A valuation satisfies a constraint. -/
def SolverConstraint.Holds (σ : Valuation) : SolverConstraint → Prop
  | .linear _ terms relation rightHandSide =>
    relation.holds (linearValue σ 0 terms) rightHandSide = true
  | .allDifferent _ variableIds => (variableIds.map σ).Nodup
  | .table _ variableIds .allowed rows => variableIds.map σ ∈ rows
  | .table _ variableIds .forbidden rows => variableIds.map σ ∉ rows
  | .clause _ literals => ∃ literal ∈ literals, σ literal.variableId = literal.equals
  | .nonOverlap _ leftStart leftDuration rightStart rightDuration =>
    σ leftStart + leftDuration ≤ σ rightStart ∨ σ rightStart + rightDuration ≤ σ leftStart

instance : (item : SolverConstraint) → Decidable (item.Holds σ)
  | .linear .. => inferInstanceAs (Decidable (_ = true))
  | .allDifferent .. => inferInstanceAs (Decidable (List.Nodup _))
  | .table _ _ .allowed _ => inferInstanceAs (Decidable (_ ∈ _))
  | .table _ _ .forbidden _ => inferInstanceAs (Decidable (_ ∉ _))
  | .clause .. => inferInstanceAs (Decidable (∃ _ ∈ _, _))
  | .nonOverlap .. => inferInstanceAs (Decidable (_ ∨ _))

/-- The value a valuation has under an objective. -/
def SolverObjective.value (objective : SolverObjective) (σ : Valuation) : Int :=
  linearValue σ objective.constant objective.terms

namespace SolverProblem

variable (problem)

/-- A valuation gives every variable a value of its domain and satisfies every constraint. -/
structure Feasible (σ : Valuation) : Prop where
  domains : ∀ v ∈ problem.vars, σ v.variableId ∈ v.domain.values
  holds : ∀ item ∈ problem.constraints, item.Holds σ

/-- The values of the variables in their order. -/
def choice (σ : Valuation) : List Int := problem.variableIds.map σ

/-- The valuation of an assignment; it is zero outside the problem. -/
def valuation (assignment : List Int) : Valuation :=
  fun variableId => ((problem.variableIds.zip assignment).lookup variableId).getD 0

/-- What the contract of a problem says about its variables. -/
structure WellFormed : Prop where
  sorted : problem.variableIds.Pairwise (· < ·)
  nonempty : ∀ v ∈ problem.vars, v.domain.values ≠ []
  reads : ∀ item ∈ problem.constraints, ∀ id ∈ item.reads, id ∈ problem.variableIds
  terms : ∀ objective, problem.objective = some objective →
    ∀ term ∈ objective.terms, term.variableId ∈ problem.variableIds

end SolverProblem

/-! ## Assignments and valuations -/

theorem lookup_zip_map {ids : List String} {id : String} (h : id ∈ ids) :
    (ids.zip (ids.map σ)).lookup id = some (σ id) := by
  induction ids with
  | nil => cases h
  | cons k ids ih =>
    rw [List.map_cons, List.zip_cons_cons, List.lookup_cons]
    by_cases hk : id = k
    · simp [hk]
    · have hmem : id ∈ ids := (List.mem_cons.mp h).resolve_left hk
      rw [beq_false_of_ne hk]
      exact ih hmem

theorem map_lookup_zip {ids : List String} {assignment : List Int} (hids : ids.Nodup)
    (hlength : assignment.length = ids.length) :
    (ids.map fun id => ((ids.zip assignment).lookup id).getD 0) = assignment := by
  induction ids generalizing assignment with
  | nil => exact (List.length_eq_zero_iff.mp hlength).symm
  | cons k ids ih =>
    obtain ⟨a, rest, rfl⟩ := List.exists_cons_of_length_eq_add_one hlength
    rw [List.nodup_cons] at hids
    have hrest := ih hids.2 (by simpa using hlength)
    rw [List.map_cons, List.zip_cons_cons]
    refine List.cons_eq_cons.mpr ⟨by simp, ?_⟩
    refine Eq.trans (List.map_congr_left fun id hid => ?_) hrest
    have hne : id ≠ k := fun heq => hids.1 (heq ▸ hid)
    rw [List.lookup_cons, beq_false_of_ne hne]

namespace SolverProblem

theorem valuation_choice {id : String} (h : id ∈ problem.variableIds) :
    problem.valuation (problem.choice σ) id = σ id := by
  rw [valuation, choice, lookup_zip_map h, Option.getD_some]

theorem length_of_mem_assignments {assignment : List Int} (h : assignment ∈ problem.assignments) :
    assignment.length = problem.variableIds.length := by
  have hlength := (Enumeration.mem_product.mp h).length_eq
  rw [hlength, domains, variableIds, List.length_map, List.length_map]

theorem WellFormed.nodup (h : problem.WellFormed) : problem.variableIds.Nodup :=
  h.sorted.imp fun hlt => ne_of_lt hlt

theorem WellFormed.choice_valuation (h : problem.WellFormed) {assignment : List Int}
    (hmem : assignment ∈ problem.assignments) :
    problem.choice (problem.valuation assignment) = assignment :=
  map_lookup_zip h.nodup (length_of_mem_assignments hmem)

/-- An assignment pairs every variable with its value. -/
theorem WellFormed.zip_assignment (h : problem.WellFormed) {assignment : List Int}
    (hmem : assignment ∈ problem.assignments) :
    problem.variableIds.zip assignment =
      problem.vars.map fun v => (v.variableId, problem.valuation assignment v.variableId) := by
  conv_lhs => rw [← h.choice_valuation hmem]
  rw [choice, variableIds, List.map_map, List.zip_map']
  rfl

/-- The enumerated assignments are the choices within the domains. -/
theorem choice_mem_assignments :
    problem.choice σ ∈ problem.assignments ↔
      ∀ v ∈ problem.vars, σ v.variableId ∈ v.domain.values := by
  rw [assignments, Enumeration.mem_product, choice, variableIds, domains, List.map_map,
    List.forall₂_map_left_iff, List.forall₂_map_right_iff, List.forall₂_same]
  exact Iff.rfl

theorem Feasible.choice_mem (h : problem.Feasible σ) : problem.choice σ ∈ problem.assignments :=
  choice_mem_assignments.mpr h.domains

/-- The number of assignments is the size of the search space. -/
theorem length_assignments : problem.assignments.length = searchSpaceSize problem := by
  rw [assignments, Enumeration.length_product, domains, List.map_map]
  rfl

theorem WellFormed.searchSpaceSize_pos (h : problem.WellFormed) : 0 < searchSpaceSize problem := by
  rw [← length_assignments]
  refine Enumeration.length_product_pos ?_
  intro domain hdomain
  obtain ⟨v, hv, rfl⟩ := List.mem_map.mp hdomain
  exact h.nonempty v hv

end SolverProblem

/-! ## What evaluation computes -/

/-- The values of an evaluation are those of a valuation on some variables. -/
def Agrees (values : SolverValues) (σ : Valuation) (ids : List String) : Prop :=
  ∀ id ∈ ids, values.value id = .ok (σ id)

theorem agrees_zip_choice : Agrees (problem.variableIds.zip (problem.choice σ)) σ
    problem.variableIds := by
  intro id hid
  rw [SolverValues.value, fromOption_eq_ok]
  exact lookup_zip_map hid

theorem linearSum_eq_ok {terms : List LinearTerm} {first : Int}
    (h : Agrees values σ (terms.map (·.variableId))) :
    linearSum values first terms = .ok (linearValue σ first terms) := by
  induction terms generalizing first with
  | nil => simp [linearSum, linearValue]
  | cons term terms ih =>
    have hhead := h term.variableId (by simp)
    have htail : Agrees values σ (terms.map (·.variableId)) := fun id hid =>
      h id (List.mem_cons_of_mem _ hid)
    have hrest := @ih (first + σ term.variableId * term.coefficient) htail
    rw [linearSum] at hrest
    simp only [linearSum, foldE_cons, bind_eq_ok, hhead, Except.ok.injEq, pure_eq_ok]
    refine ⟨_, ⟨_, rfl, rfl⟩, ?_⟩
    rw [hrest, linearValue_cons]

theorem selectValues_eq_ok {ids : List String} (h : Agrees values σ ids) :
    selectValues values ids = .ok (ids.map σ) := by
  induction ids with
  | nil => rfl
  | cons id ids ih =>
    have hhead := h id List.mem_cons_self
    have htail := ih fun k hk => h k (List.mem_cons_of_mem _ hk)
    simp only [selectValues, bind_eq_ok, pure_eq_ok]
    exact ⟨σ id, hhead, ids.map σ, htail, rfl⟩

theorem anyLiteral_eq_ok {literals : List ClauseLiteral}
    (h : Agrees values σ (literals.map (·.variableId))) :
    anyLiteral values literals =
      .ok (decide (∃ literal ∈ literals, σ literal.variableId = literal.equals)) := by
  induction literals with
  | nil => simp [anyLiteral]
  | cons literal literals ih =>
    have hhead := h literal.variableId (by simp)
    have htail := ih fun id hid => h id (List.mem_cons_of_mem _ hid)
    simp only [anyLiteral, bind_eq_ok]
    refine ⟨σ literal.variableId, hhead, ?_⟩
    by_cases heq : σ literal.variableId = literal.equals
    · simp [heq]
    · simp [heq, htail]

/-- A test that is true exactly when a proposition holds decides it. -/
theorem eq_decide_of_iff {b : Bool} {P : Prop} [Decidable P] (h : b = true ↔ P) : b = decide P := by
  rw [Bool.eq_iff_iff, decide_eq_true_iff, h]

/-- Evaluating a constraint decides it. -/
theorem SolverConstraint.passed_eq_ok {item : SolverConstraint} (h : Agrees values σ item.reads) :
    item.passed values = .ok (decide (item.Holds σ)) := by
  cases item with
  | linear constraintId terms relation rightHandSide =>
    simp only [passed, bind_eq_ok, pure_eq_ok]
    exact ⟨_, linearSum_eq_ok h, eq_decide_of_iff Iff.rfl⟩
  | allDifferent constraintId variableIds =>
    simp only [passed, bind_eq_ok, pure_eq_ok]
    exact ⟨_, selectValues_eq_ok h, eq_decide_of_iff decide_eq_true_iff⟩
  | table constraintId variableIds mode rows =>
    simp only [passed, bind_eq_ok, pure_eq_ok]
    refine ⟨_, selectValues_eq_ok h, ?_⟩
    cases mode with
    | allowed => exact eq_decide_of_iff decide_eq_true_iff
    | forbidden => exact eq_decide_of_iff decide_eq_true_iff
  | clause constraintId literals =>
    rw [passed, anyLiteral_eq_ok h]
    exact congrArg Except.ok (eq_decide_of_iff decide_eq_true_iff)
  | nonOverlap constraintId leftStart leftDuration rightStart rightDuration =>
    simp only [passed, bind_eq_ok, pure_eq_ok]
    exact ⟨_, h leftStart (by simp [reads]), _, h rightStart (by simp [reads]),
      eq_decide_of_iff decide_eq_true_iff⟩

theorem evaluateFrom_eq_ok {items : List SolverConstraint} {checks : Nat}
    (h : ∀ item ∈ items, Agrees values σ item.reads) :
    ∃ more ≤ items.length, evaluateFrom values checks items =
      .ok (decide (∀ item ∈ items, item.Holds σ), checks + more) := by
  induction items generalizing checks with
  | nil => exact ⟨0, Nat.le_refl 0, by simp [evaluateFrom]⟩
  | cons item items ih =>
    have hitem := SolverConstraint.passed_eq_ok (h item List.mem_cons_self)
    obtain ⟨more, hmore, hrest⟩ :=
      @ih (checks + 1) fun k hk => h k (List.mem_cons_of_mem _ hk)
    by_cases hholds : item.Holds σ
    · refine ⟨more + 1, Nat.succ_le_succ hmore, ?_⟩
      simp only [evaluateFrom, bind_eq_ok]
      refine ⟨_, hitem, ?_⟩
      simp [hholds, hrest, Nat.add_assoc, Nat.add_comm 1 more]
    · refine ⟨1, by simp, ?_⟩
      simp only [evaluateFrom, bind_eq_ok]
      exact ⟨_, hitem, by simp [hholds]⟩

namespace SolverProblem

variable {assignment : List Int}

/-- The number of constraints that are checked on an assignment. -/
def checkCount (problem : SolverProblem) (assignment : List Int) : Nat :=
  match evaluateConstraints problem (problem.variableIds.zip assignment) with
  | .ok (_, checks) => checks
  | .error _ => 0

theorem WellFormed.evaluateConstraints_eq_ok (h : problem.WellFormed)
    (hmem : assignment ∈ problem.assignments) :
    evaluateConstraints problem (problem.variableIds.zip assignment) =
        .ok (decide (∀ item ∈ problem.constraints, item.Holds (problem.valuation assignment)),
          problem.checkCount assignment) ∧
      problem.checkCount assignment ≤ problem.constraints.length := by
  have hagrees : Agrees (problem.variableIds.zip assignment) (problem.valuation assignment)
      problem.variableIds := by
    have hzip := @agrees_zip_choice (problem.valuation assignment) problem
    rwa [h.choice_valuation hmem] at hzip
  obtain ⟨more, hmore, heval⟩ := @evaluateFrom_eq_ok _ _ problem.constraints 0
    fun item hitem id hid => hagrees id (h.reads item hitem id hid)
  rw [Nat.zero_add] at heval
  have hcount : problem.checkCount assignment = more := by
    rw [checkCount, evaluateConstraints, heval]
  rw [hcount]
  exact ⟨heval, hmore⟩

theorem WellFormed.evaluateObjective_eq_ok (h : problem.WellFormed)
    (hmem : assignment ∈ problem.assignments) {objective : SolverObjective}
    (hobjective : problem.objective = some objective) :
    evaluateObjective objective (problem.variableIds.zip assignment) =
      .ok (objective.value (problem.valuation assignment)) := by
  have hzip := @agrees_zip_choice (problem.valuation assignment) problem
  rw [h.choice_valuation hmem] at hzip
  refine linearSum_eq_ok fun id hid => ?_
  obtain ⟨term, hterm, rfl⟩ := List.mem_map.mp hid
  exact hzip _ (h.terms objective hobjective term hterm)

/-- An assignment is within the domains, so it is feasible when it satisfies the constraints. -/
theorem WellFormed.feasible_valuation_iff (h : problem.WellFormed)
    (hmem : assignment ∈ problem.assignments) :
    problem.Feasible (problem.valuation assignment) ↔
      ∀ item ∈ problem.constraints, item.Holds (problem.valuation assignment) := by
  refine ⟨Feasible.holds, fun hholds => ⟨?_, hholds⟩⟩
  rw [← choice_mem_assignments, h.choice_valuation hmem]
  exact hmem

end SolverProblem

/-! ## The meaning depends on the variables alone -/

theorem linearValue_congr {first : Int} {terms : List LinearTerm}
    (h : ∀ id ∈ terms.map (·.variableId), σ id = τ id) :
    linearValue σ first terms = linearValue τ first terms := by
  rw [linearValue, linearValue]
  congr 2
  refine List.map_congr_left fun term hterm => ?_
  rw [h term.variableId (List.mem_map_of_mem hterm)]

theorem SolverConstraint.holds_congr {item : SolverConstraint}
    (h : ∀ id ∈ item.reads, σ id = τ id) : item.Holds σ ↔ item.Holds τ := by
  cases item with
  | linear constraintId terms relation rightHandSide =>
    rw [Holds, Holds, linearValue_congr h]
  | allDifferent constraintId variableIds =>
    have hmap : variableIds.map σ = variableIds.map τ := List.map_congr_left h
    rw [Holds, Holds, hmap]
  | table constraintId variableIds mode rows =>
    have hmap : variableIds.map σ = variableIds.map τ := List.map_congr_left h
    cases mode with
    | allowed => rw [Holds, Holds, hmap]
    | forbidden => rw [Holds, Holds, hmap]
  | clause constraintId literals =>
    refine exists_congr fun literal => and_congr_right fun hliteral => ?_
    rw [h literal.variableId (List.mem_map_of_mem hliteral)]
  | nonOverlap constraintId leftStart leftDuration rightStart rightDuration =>
    rw [Holds, Holds, h leftStart (by simp [reads]), h rightStart (by simp [reads])]

namespace SolverProblem

/-- A feasible valuation is feasible as the assignment it chooses. -/
theorem WellFormed.feasible_choice (h : problem.WellFormed) (hσ : problem.Feasible σ) :
    problem.Feasible (problem.valuation (problem.choice σ)) := by
  rw [h.feasible_valuation_iff hσ.choice_mem]
  intro item hitem
  refine (SolverConstraint.holds_congr fun id hid => ?_).mpr (hσ.holds item hitem)
  exact valuation_choice (h.reads item hitem id hid)

theorem WellFormed.value_choice (h : problem.WellFormed) {objective : SolverObjective}
    (hobjective : problem.objective = some objective) :
    objective.value (problem.valuation (problem.choice σ)) = objective.value σ := by
  refine linearValue_congr fun id hid => ?_
  obtain ⟨term, hterm, rfl⟩ := List.mem_map.mp hid
  exact valuation_choice (h.terms objective hobjective term hterm)

end SolverProblem

/-! ## Problems that meet their contract -/

theorem exists_of_forEachIndexed {α : Type} {field : String}
    {check : String → α → Except String Unit} {items : List α}
    (h : forEachIndexed field check items = .ok ()) {item : α} (hitem : item ∈ items) :
    ∃ field, check field item = .ok () := by
  rw [forEachIndexed, forEach_eq_ok] at h
  obtain ⟨i, hi⟩ := List.mem_iff_getElem?.mp hitem
  exact ⟨_, h (item, i) (List.mem_zipIdx_iff_getElem?.mpr hi)⟩

theorem forEachIndexed_of_forall {α : Type} {field : String}
    {check : String → α → Except String Unit} {items : List α}
    (h : ∀ item ∈ items, ∀ field, check field item = .ok ()) :
    forEachIndexed field check items = .ok () := by
  rw [forEachIndexed, forEach_eq_ok]
  exact fun item hitem => h item.1 (List.fst_mem_of_mem_zipIdx hitem) _

theorem patternText_field {field field' message message' : String} {maximum : Nat}
    {pattern : String → Bool} {text : String}
    (h : patternText field maximum pattern message text = .ok ()) :
    patternText field' maximum pattern message' text = .ok () := by
  simpa only [patternText, stringValue, bind_eq_ok, exists_unit, require_eq_ok] using h

theorem artifactReference_field {S : SolverSurroundings} {field field' : String}
    {reference : ArtifactReference} (h : artifactReference S field reference = .ok ()) :
    artifactReference S field' reference = .ok () := by
  simp only [artifactReference, bind_eq_ok, exists_unit, require_eq_ok] at h ⊢
  exact ⟨h.1, patternText_field h.2⟩

theorem references_field {S : SolverSurroundings} {field field' : String} {minimum : Nat}
    {items : List ArtifactReference} (h : references S field minimum items = .ok ()) :
    references S field' minimum items = .ok () := by
  simp only [references, arrayValue, bind_eq_ok, exists_unit, require_eq_ok] at h ⊢
  refine ⟨h.1, forEachIndexed_of_forall fun item hitem field'' => ?_, h.2.2⟩
  obtain ⟨field, hitem⟩ := exists_of_forEachIndexed h.2.1 hitem
  exact artifactReference_field hitem

/-- An integer in the range of scalars. -/
def InScalars (value : Int) : Prop := -(maxScalar : Int) ≤ value ∧ value ≤ maxScalar

theorem scalar_eq_ok {field : String} {value : Int} :
    scalar field value = .ok () ↔ InScalars value := integerValue_eq_ok

/-- What the contract of a linear form says. -/
structure TermsLaw (problem : SolverProblem) (terms : List LinearTerm) : Prop where
  length : terms.length ≤ maxVariables
  known : ∀ term ∈ terms, term.variableId ∈ problem.variableIds
  scalars : ∀ term ∈ terms, InScalars term.coefficient

theorem termsLaw_of_contract {field : String} {terms : List LinearTerm}
    (h : termsContract problem field terms = .ok ()) : TermsLaw problem terms := by
  simp only [termsContract, arrayValue, bind_eq_ok, exists_unit, require_eq_ok] at h
  obtain ⟨hlength, _, hterms, _⟩ := h
  have hitem : ∀ term ∈ terms, term.variableId ∈ problem.variableIds ∧
      InScalars term.coefficient := by
    intro term hterm
    obtain ⟨field, hcheck⟩ := exists_of_forEachIndexed hterms hterm
    simp only [bind_eq_ok, exists_unit, require_eq_ok, scalar_eq_ok] at hcheck
    exact ⟨hcheck.2.1, hcheck.2.2.1⟩
  exact ⟨hlength, fun term hterm => (hitem term hterm).1, fun term hterm => (hitem term hterm).2⟩

theorem variableIds_of_contract {field : String} {minimum : Nat} {ids : List String}
    (h : variableIdsContract problem field minimum ids = .ok ()) :
    ∀ id ∈ ids, id ∈ problem.variableIds := by
  simp only [variableIdsContract, bind_eq_ok, exists_unit, require_eq_ok] at h
  exact h.2.2.2

theorem reads_of_contract {field : String} {item : SolverConstraint}
    (h : constraintContract problem field item = .ok ()) :
    ∀ id ∈ item.reads, id ∈ problem.variableIds := by
  simp only [constraintContract, bind_eq_ok, exists_unit] at h
  obtain ⟨_, h⟩ := h
  cases item with
  | linear constraintId terms relation rightHandSide =>
    simp only [bind_eq_ok, exists_unit] at h
    intro id hid
    obtain ⟨term, hterm, rfl⟩ := List.mem_map.mp hid
    exact (termsLaw_of_contract h.1).known term hterm
  | allDifferent constraintId variableIds => exact variableIds_of_contract h
  | table constraintId variableIds mode rows =>
    simp only [bind_eq_ok, exists_unit] at h
    exact variableIds_of_contract h.1
  | clause constraintId literals =>
    simp only [bind_eq_ok, exists_unit] at h
    intro id hid
    obtain ⟨literal, hliteral, rfl⟩ := List.mem_map.mp hid
    obtain ⟨field, hcheck⟩ := exists_of_forEachIndexed h.2.2.1 hliteral
    simp only [literalContract, bind_eq_ok, exists_unit, require_eq_ok] at hcheck
    exact hcheck.2.1
  | nonOverlap constraintId leftStart leftDuration rightStart rightDuration =>
    simp only [bind_eq_ok, exists_unit, require_eq_ok] at h
    obtain ⟨_, _, _, ⟨_, hleft, hright⟩, _⟩ := h
    intro id hid
    rcases List.mem_pair.mp hid with rfl | rfl
    · exact hleft
    · exact hright

/-- What the contract of a variable says about its domain. -/
structure DomainLaw (item : SolverVariable) : Prop where
  symbol : ∀ field, symbolText field item.variableId = .ok ()
  nonempty : item.domain.values ≠ []
  scalars : ∀ value ∈ item.domain.values, InScalars value

theorem domainLaw_of_contract {field : String} {item : SolverVariable}
    (h : variableContract field item = .ok ()) : DomainLaw item := by
  simp only [variableContract, bind_eq_ok, exists_unit] at h
  obtain ⟨hsymbol, h⟩ := h
  have hsymbol' : ∀ field, symbolText field item.variableId = .ok () :=
    fun _ => patternText_field hsymbol
  cases hdomain : item.domain with
  | integerSet values =>
    rw [hdomain] at h
    simp only [bind_eq_ok, exists_unit, require_eq_ok] at h
    obtain ⟨_, hscalars, hne, _⟩ := h
    refine ⟨hsymbol', by rw [hdomain]; exact hne, fun value hvalue => ?_⟩
    rw [hdomain] at hvalue
    obtain ⟨field', hcheck⟩ := exists_of_forEachIndexed hscalars hvalue
    exact scalar_eq_ok.mp hcheck
  | integerRange lower upper =>
    rw [hdomain] at h
    simp only [bind_eq_ok, exists_unit, require_eq_ok, scalar_eq_ok] at h
    obtain ⟨hlower, hupper, hle, _⟩ := h
    refine ⟨hsymbol', ?_, fun value hvalue => ?_⟩
    · rw [hdomain, IntegerDomain.values, Ne, List.map_eq_nil_iff, List.range_eq_nil]
      omega
    · rw [hdomain, IntegerDomain.values, List.mem_map] at hvalue
      obtain ⟨i, hi, rfl⟩ := hvalue
      rw [List.mem_range] at hi
      unfold InScalars at hlower hupper ⊢
      omega

/-- What the contract of a problem says. -/
structure ProblemLaw (problem : SolverProblem) : Prop where
  wellFormed : problem.WellFormed
  some_variable : problem.vars ≠ []
  few_variables : problem.vars.length ≤ maxVariables
  domains : ∀ v ∈ problem.vars, DomainLaw v
  few_constraints : problem.constraints.length ≤ maxConstraints
  objective : ∀ objective, problem.objective = some objective →
    TermsLaw problem objective.terms ∧ InScalars objective.constant
  kind : problem.problemKind = .feasibility ↔ problem.objective = none
  space : searchSpaceSize problem ≤ maxSearchSpace

theorem problemLaw_of_contract (h : problemContract problem = .ok ()) : ProblemLaw problem := by
  simp only [problemContract, arrayValue, bind_eq_ok, exists_unit, require_eq_ok,
    forEach_eq_ok, Option.mem_toList] at h
  obtain ⟨_, hfew, hsome, hvars, hsorted, _, hconstraints, hitems, _, hobjective, hkind, hspace⟩ :=
    h
  have hdomains : ∀ v ∈ problem.vars, DomainLaw v := by
    intro v hv
    obtain ⟨field, hcheck⟩ := exists_of_forEachIndexed hvars hv
    exact domainLaw_of_contract hcheck
  have hterms : ∀ objective, problem.objective = some objective →
      TermsLaw problem objective.terms ∧ InScalars objective.constant := by
    intro objective ho
    have hcheck := hobjective objective ho
    simp only [objectiveContract, bind_eq_ok, exists_unit, scalar_eq_ok] at hcheck
    exact ⟨termsLaw_of_contract hcheck.1, hcheck.2⟩
  refine ⟨⟨hsorted, fun v hv => (hdomains v hv).nonempty, fun item hitem => ?_,
    fun objective ho => (hterms objective ho).1.known⟩, hsome, hfew, hdomains, hconstraints,
    hterms, hkind, hspace⟩
  obtain ⟨field, hcheck⟩ := exists_of_forEachIndexed hitems hitem
  exact reads_of_contract hcheck

end Sdaqf
