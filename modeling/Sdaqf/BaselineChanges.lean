import Sdaqf.Baselines

/-!
# Changes between two baselines

The comparison of two requirement baselines and the approvals of its changes. A change is named by a
digest of its requirement, its kind and the texts before and after it, joined by a bar. Lists enter
a change as JSON texts, which tell where they end; a statement may hold a bar of its own. Whether a
change needs an approval follows from the fields the comparison looks at, and it looks at the
assumptions and the open questions of a requirement as one list.
-/

namespace Sdaqf

open Guard Payload
open JsonText (Value dumps compact Apart)

/-! ## Changes -/

/-- Supported baseline-change classifications. -/
inductive ChangeKind
  | added
  | removed
  | statementChanged
  | priorityChanged
  | typeChanged
  | acceptanceChanged
  | verificationChanged
  | interpretationChanged
deriving DecidableEq

instance : Enumeration ChangeKind where
  value
    | .added => "added"
    | .removed => "removed"
    | .statementChanged => "statement-changed"
    | .priorityChanged => "priority-changed"
    | .typeChanged => "type-changed"
    | .acceptanceChanged => "acceptance-changed"
    | .verificationChanged => "verification-changed"
    | .interpretationChanged => "interpretation-changed"
  all := [.added, .removed, .statementChanged, .priorityChanged, .typeChanged, .acceptanceChanged,
    .verificationChanged, .interpretationChanged]
  mem_all a := by cases a <;> decide
  value_injective a b h := by cases a <;> cases b <;> first | rfl | exact absurd h (by decide)

inductive ApprovalStatus
  | required
  | notRequired
  | approved
deriving DecidableEq

/-- What a change says: the requirement, the kind and the texts before and after. -/
@[ext]
structure ChangeSubject where
  requirementId : String
  kind : ChangeKind
  previous : Option String
  current : Option String
deriving DecidableEq

/-- One requirement-level baseline change. -/
structure BaselineChange extends ChangeSubject where
  changeId : String
  approvalRequired : Bool
  approvalStatus : ApprovalStatus
deriving DecidableEq

/-- Complete comparison result and approval state. -/
structure BaselineDiff where
  previousBaselineId : String
  currentBaselineId : String
  changes : List BaselineChange
deriving DecidableEq

/-- The required change IDs without explicit approval. -/
def BaselineDiff.unresolvedApprovals (diff : BaselineDiff) : List String :=
  (diff.changes.filter fun item => item.approvalRequired && item.approvalStatus ≠ .approved).map
    (·.changeId)

/-- Explicit Owner approval for named changes between two baselines. -/
structure BaselineChangeApproval where
  approvalId : String
  previousBaselineId : String
  currentBaselineId : String
  changeIds : List String
  rationale : String
  approvedAt : String
  expiresAt : Option String
  approvedBy : String
deriving DecidableEq

/-! ## Comparison -/

def priorityRank : RequirementPriority → Nat
  | .could => 1
  | .should => 2
  | .must => 3

def criteriaValue (criteria : List AcceptanceCriterion) : String :=
  String.ofList (dumps compact 0 (.array (criteria.map AcceptanceCriterion.toDict)))

def tupleValue (values : List String) : String :=
  String.ofList (dumps compact 0 (textArray values))

/-- The text whose digest names a change. -/
def ChangeSubject.stable (subject : ChangeSubject) : String :=
  subject.requirementId ++ "|" ++ Enumeration.value subject.kind ++ "|" ++
    subject.previous.getD "" ++ "|" ++ subject.current.getD ""

section Comparison

variable (R : Runtime)

def change (requirementId : String) (kind : ChangeKind) (previous current : Option String)
    (approvalRequired : Bool) : BaselineChange :=
  let subject : ChangeSubject := { requirementId, kind, previous, current }
  { subject with
    changeId := "CHG-" ++ R.digest 12 subject.stable
    approvalRequired
    approvalStatus := if approvalRequired then .required else .notRequired }

/-- The changes of one requirement identifier. -/
def requirementChanges (identifier : String) :
    Option RequirementRecord → Option RequirementRecord → List BaselineChange
  -- An identifier of the union stands in one of the two baselines.
  | none, none => []
  | none, some present => [change R identifier .added none (some present.statement) false]
  | some prior, none => [change R identifier .removed (some prior.statement) none true]
  | some prior, some present =>
    (if prior.statement ≠ present.statement then
      [change R identifier .statementChanged (some prior.statement) (some present.statement) true]
    else []) ++
    (if prior.priority ≠ present.priority then
      [change R identifier .priorityChanged (some (Enumeration.value prior.priority))
        (some (Enumeration.value present.priority))
        (priorityRank present.priority < priorityRank prior.priority)]
    else []) ++
    (if prior.requirementType ≠ present.requirementType then
      [change R identifier .typeChanged (some (Enumeration.value prior.requirementType))
        (some (Enumeration.value present.requirementType)) true]
    else []) ++
    (if criteriaValue prior.acceptanceCriteria ≠ criteriaValue present.acceptanceCriteria then
      [change R identifier .acceptanceChanged (some (criteriaValue prior.acceptanceCriteria))
        (some (criteriaValue present.acceptanceCriteria)) true]
    else []) ++
    (if tupleValue prior.verificationMethods ≠ tupleValue present.verificationMethods then
      [change R identifier .verificationChanged (some (tupleValue prior.verificationMethods))
        (some (tupleValue present.verificationMethods)) true]
    else []) ++
    (if tupleValue (prior.assumptions ++ prior.openQuestions) ≠
        tupleValue (present.assumptions ++ present.openQuestions) then
      [change R identifier .interpretationChanged
        (some (tupleValue (prior.assumptions ++ prior.openQuestions)))
        (some (tupleValue (present.assumptions ++ present.openQuestions))) true]
    else [])

/-- The record of an identifier. A later record of an identifier replaces an earlier one. -/
def recordOf (requirements : List RequirementRecord) (identifier : String) :
    Option RequirementRecord :=
  requirements.reverse.find? fun item => item.requirementId = identifier

/-- All changes of two baselines, in the order of the requirement identifiers. -/
def baselineChanges (previous current : RequirementBaseline) : List BaselineChange :=
  (Sorting.listed ((previous.requirements.map (·.requirementId)).toFinset ∪
      (current.requirements.map (·.requirementId)).toFinset)).flatMap fun identifier =>
    requirementChanges R identifier (recordOf previous.requirements identifier)
      (recordOf current.requirements identifier)

/-- One approval record, after those whose identifiers and change IDs are given. -/
def applyApproval (previousBaselineId currentBaselineId : String) (knownChangeIds : List String)
    (state : List String × List String) (approval : BaselineChangeApproval) :
    Except String (List String × List String) := do
  require (approval.approvalId ∉ state.1) "Approval records must have unique identifiers."
  require (approval.previousBaselineId = previousBaselineId ∧
      approval.currentBaselineId = currentBaselineId)
    "Approval scope does not match the compared baselines."
  require (∀ id ∈ approval.changeIds, id ∈ knownChangeIds)
    "Approval scope contains an unknown change ID."
  return (state.1 ++ [approval.approvalId], state.2 ++ approval.changeIds)

/-- A change after the approvals of some change IDs. -/
def BaselineChange.settle (item : BaselineChange) (approvedChangeIds : List String) :
    BaselineChange :=
  if item.approvalRequired && decide (item.changeId ∈ approvedChangeIds) then
    { item with approvalStatus := .approved }
  else item

def applyApprovals (previousBaselineId currentBaselineId : String) (changes : List BaselineChange)
    (approvals : List BaselineChangeApproval) : Except String (List BaselineChange) := do
  let state ← approvals.foldlM
    (applyApproval previousBaselineId currentBaselineId (changes.map (·.changeId))) ([], [])
  return changes.map fun item => item.settle state.2

/-- Deterministic additions, removals and material changes, with their approvals. -/
def compareBaselines (previous current : RequirementBaseline)
    (approvals : List BaselineChangeApproval) : Except String BaselineDiff := do
  let changes ← applyApprovals previous.baselineId current.baselineId
    (baselineChanges R previous current) approvals
  return {
    previousBaselineId := previous.baselineId
    currentBaselineId := current.baselineId
    changes }

end Comparison

/-! ## Lists as texts -/

theorem tupleValue_inj {values values' : List String} :
    tupleValue values = tupleValue values' ↔ values = values' := by
  rw [tupleValue, tupleValue, String.ofList_inj, JsonText.dumps_inj, textArray_inj]

theorem AcceptanceCriterion.toDict_injective : Function.Injective AcceptanceCriterion.toDict := by
  intro a b h
  simp only [AcceptanceCriterion.toDict, Value.object.injEq, List.cons.injEq, Prod.mk.injEq,
    Value.text.injEq, textArray_inj, true_and, and_true] at h
  ext1
  · exact h.1
  · exact h.2.1
  · exact h.2.2

theorem criteriaValue_inj {criteria criteria' : List AcceptanceCriterion} :
    criteriaValue criteria = criteriaValue criteria' ↔ criteria = criteria' := by
  rw [criteriaValue, criteriaValue, String.ofList_inj, JsonText.dumps_inj, Value.array.injEq,
    List.map_inj_right fun _ _ h => AcceptanceCriterion.toDict_injective h]

/-! ## The changes of two baselines -/

/-- The requirement identifiers of a baseline. -/
def RequirementBaseline.ids (baseline : RequirementBaseline) : List String :=
  baseline.requirements.map (·.requirementId)

/-- Every change the comparison reports, and whether it needs an approval. -/
inductive Changed (previous current : RequirementBaseline) : ChangeSubject → Bool → Prop
  | added {q : RequirementRecord} (hq : q ∈ current.requirements)
      (h : q.requirementId ∉ previous.ids) :
      Changed previous current ⟨q.requirementId, .added, none, some q.statement⟩ false
  | removed {p : RequirementRecord} (hp : p ∈ previous.requirements)
      (h : p.requirementId ∉ current.ids) :
      Changed previous current ⟨p.requirementId, .removed, some p.statement, none⟩ true
  | statement {p q : RequirementRecord} (hp : p ∈ previous.requirements)
      (hq : q ∈ current.requirements) (hid : p.requirementId = q.requirementId)
      (h : p.statement ≠ q.statement) :
      Changed previous current
        ⟨p.requirementId, .statementChanged, some p.statement, some q.statement⟩ true
  | priority {p q : RequirementRecord} (hp : p ∈ previous.requirements)
      (hq : q ∈ current.requirements) (hid : p.requirementId = q.requirementId)
      (h : p.priority ≠ q.priority) :
      Changed previous current
        ⟨p.requirementId, .priorityChanged, some (Enumeration.value p.priority),
          some (Enumeration.value q.priority)⟩ (priorityRank q.priority < priorityRank p.priority)
  | type {p q : RequirementRecord} (hp : p ∈ previous.requirements)
      (hq : q ∈ current.requirements) (hid : p.requirementId = q.requirementId)
      (h : p.requirementType ≠ q.requirementType) :
      Changed previous current
        ⟨p.requirementId, .typeChanged, some (Enumeration.value p.requirementType),
          some (Enumeration.value q.requirementType)⟩ true
  | acceptance {p q : RequirementRecord} (hp : p ∈ previous.requirements)
      (hq : q ∈ current.requirements) (hid : p.requirementId = q.requirementId)
      (h : p.acceptanceCriteria ≠ q.acceptanceCriteria) :
      Changed previous current
        ⟨p.requirementId, .acceptanceChanged, some (criteriaValue p.acceptanceCriteria),
          some (criteriaValue q.acceptanceCriteria)⟩ true
  | verification {p q : RequirementRecord} (hp : p ∈ previous.requirements)
      (hq : q ∈ current.requirements) (hid : p.requirementId = q.requirementId)
      (h : p.verificationMethods ≠ q.verificationMethods) :
      Changed previous current
        ⟨p.requirementId, .verificationChanged, some (tupleValue p.verificationMethods),
          some (tupleValue q.verificationMethods)⟩ true
  | interpretation {p q : RequirementRecord} (hp : p ∈ previous.requirements)
      (hq : q ∈ current.requirements) (hid : p.requirementId = q.requirementId)
      (h : p.assumptions ++ p.openQuestions ≠ q.assumptions ++ q.openQuestions) :
      Changed previous current
        ⟨p.requirementId, .interpretationChanged,
          some (tupleValue (p.assumptions ++ p.openQuestions)),
          some (tupleValue (q.assumptions ++ q.openQuestions))⟩ true

variable {R : Runtime} {previous current : RequirementBaseline}

theorem recordOf_eq_none {requirements : List RequirementRecord} {identifier : String} :
    recordOf requirements identifier = none ↔
      identifier ∉ requirements.map (·.requirementId) := by
  simp only [recordOf, List.find?_eq_none, List.mem_reverse, decide_eq_true_eq, List.mem_map,
    not_exists, not_and]

theorem recordOf_eq_some {requirements : List RequirementRecord} {identifier : String}
    {item : RequirementRecord} (hunique : (requirements.map (·.requirementId)).Nodup) :
    recordOf requirements identifier = some item ↔
      item ∈ requirements ∧ item.requirementId = identifier := by
  constructor
  · intro h
    exact ⟨List.mem_reverse.mp (List.mem_of_find?_eq_some h), by simpa using List.find?_some h⟩
  · rintro ⟨hmem, rfl⟩
    cases h : recordOf requirements item.requirementId with
    | none => exact absurd (List.mem_map_of_mem hmem) (recordOf_eq_none.mp h)
    | some other =>
      have hother : other ∈ requirements := List.mem_reverse.mp (List.mem_of_find?_eq_some h)
      have hid : other.requirementId = item.requirementId := by simpa using List.find?_some h
      rw [List.inj_on_of_nodup_map hunique hother hmem hid]

/-- The change the comparison makes of a subject. -/
def BaselineChange.ofSubject (R : Runtime) (subject : ChangeSubject) (approvalRequired : Bool) :
    BaselineChange :=
  change R subject.requirementId subject.kind subject.previous subject.current approvalRequired

theorem mem_requirementChanges {identifier : String} {p q : RequirementRecord}
    {item : BaselineChange} :
    item ∈ requirementChanges R identifier (some p) (some q) ↔
      (p.statement ≠ q.statement ∧ item = change R identifier .statementChanged
        (some p.statement) (some q.statement) true) ∨
      (p.priority ≠ q.priority ∧ item = change R identifier .priorityChanged
        (some (Enumeration.value p.priority)) (some (Enumeration.value q.priority))
        (priorityRank q.priority < priorityRank p.priority)) ∨
      (p.requirementType ≠ q.requirementType ∧ item = change R identifier .typeChanged
        (some (Enumeration.value p.requirementType)) (some (Enumeration.value q.requirementType))
        true) ∨
      (p.acceptanceCriteria ≠ q.acceptanceCriteria ∧ item = change R identifier .acceptanceChanged
        (some (criteriaValue p.acceptanceCriteria)) (some (criteriaValue q.acceptanceCriteria))
        true) ∨
      (p.verificationMethods ≠ q.verificationMethods ∧
        item = change R identifier .verificationChanged (some (tupleValue p.verificationMethods))
          (some (tupleValue q.verificationMethods)) true) ∨
      (p.assumptions ++ p.openQuestions ≠ q.assumptions ++ q.openQuestions ∧
        item = change R identifier .interpretationChanged
          (some (tupleValue (p.assumptions ++ p.openQuestions)))
          (some (tupleValue (q.assumptions ++ q.openQuestions))) true) := by
  simp only [requirementChanges, List.mem_append, List.mem_ite_nil_right, List.mem_singleton,
    tupleValue_inj, criteriaValue_inj, ne_eq, or_assoc]

/-- The comparison reports exactly these changes. -/
theorem mem_baselineChanges (hprevious : previous.ids.Nodup) (hcurrent : current.ids.Nodup)
    {item : BaselineChange} :
    item ∈ baselineChanges R previous current ↔
      ∃ subject required, Changed previous current subject required ∧
        item = .ofSubject R subject required := by
  simp only [baselineChanges, List.mem_flatMap, Sorting.mem_listed, Finset.mem_union,
    List.mem_toFinset]
  constructor
  · rintro ⟨identifier, -, h⟩
    cases hp : recordOf previous.requirements identifier with
    | none =>
      have habsent := recordOf_eq_none.mp hp
      cases hq : recordOf current.requirements identifier with
      | none =>
        rw [hp, hq] at h
        cases h
      | some q =>
        obtain ⟨hmem, rfl⟩ := (recordOf_eq_some hcurrent).mp hq
        rw [hp, hq, requirementChanges, List.mem_singleton] at h
        exact ⟨_, _, .added hmem habsent, h⟩
    | some p =>
      obtain ⟨hmem, rfl⟩ := (recordOf_eq_some hprevious).mp hp
      cases hq : recordOf current.requirements p.requirementId with
      | none =>
        rw [hp, hq, requirementChanges, List.mem_singleton] at h
        exact ⟨_, _, .removed hmem (recordOf_eq_none.mp hq), h⟩
      | some q =>
        obtain ⟨hmem', hid⟩ := (recordOf_eq_some hcurrent).mp hq
        rw [hp, hq, mem_requirementChanges] at h
        rcases h with ⟨hne, h⟩ | ⟨hne, h⟩ | ⟨hne, h⟩ | ⟨hne, h⟩ | ⟨hne, h⟩ | ⟨hne, h⟩
        · exact ⟨_, _, .statement hmem hmem' hid.symm hne, h⟩
        · exact ⟨_, _, .priority hmem hmem' hid.symm hne, h⟩
        · exact ⟨_, _, .type hmem hmem' hid.symm hne, h⟩
        · exact ⟨_, _, .acceptance hmem hmem' hid.symm hne, h⟩
        · exact ⟨_, _, .verification hmem hmem' hid.symm hne, h⟩
        · exact ⟨_, _, .interpretation hmem hmem' hid.symm hne, h⟩
  · rintro ⟨subject, required, h, rfl⟩
    have hcommon : ∀ p ∈ previous.requirements, ∀ q ∈ current.requirements,
        p.requirementId = q.requirementId →
        ∀ item ∈ requirementChanges R p.requirementId (some p) (some q), ∃ identifier,
          (identifier ∈ previous.ids ∨ identifier ∈ current.ids) ∧
            item ∈ requirementChanges R identifier (recordOf previous.requirements identifier)
              (recordOf current.requirements identifier) := by
      intro p hp q hq hid item hitem
      refine ⟨p.requirementId, .inl (List.mem_map_of_mem hp), ?_⟩
      rwa [(recordOf_eq_some hprevious).mpr ⟨hp, rfl⟩,
        (recordOf_eq_some hcurrent).mpr ⟨hq, hid.symm⟩]
    cases h with
    | @added q hq habsent =>
      refine ⟨q.requirementId, .inr (List.mem_map_of_mem hq), ?_⟩
      rw [recordOf_eq_none.mpr habsent, (recordOf_eq_some hcurrent).mpr ⟨hq, rfl⟩]
      exact List.mem_singleton_self _
    | @removed p hp habsent =>
      refine ⟨p.requirementId, .inl (List.mem_map_of_mem hp), ?_⟩
      rw [(recordOf_eq_some hprevious).mpr ⟨hp, rfl⟩, recordOf_eq_none.mpr habsent]
      exact List.mem_singleton_self _
    | statement hp hq hid hne =>
      exact hcommon _ hp _ hq hid _ (mem_requirementChanges.mpr (.inl ⟨hne, rfl⟩))
    | priority hp hq hid hne =>
      exact hcommon _ hp _ hq hid _ (mem_requirementChanges.mpr (.inr (.inl ⟨hne, rfl⟩)))
    | type hp hq hid hne =>
      exact hcommon _ hp _ hq hid _ (mem_requirementChanges.mpr (.inr (.inr (.inl ⟨hne, rfl⟩))))
    | acceptance hp hq hid hne =>
      exact hcommon _ hp _ hq hid _
        (mem_requirementChanges.mpr (.inr (.inr (.inr (.inl ⟨hne, rfl⟩)))))
    | verification hp hq hid hne =>
      exact hcommon _ hp _ hq hid _
        (mem_requirementChanges.mpr (.inr (.inr (.inr (.inr (.inl ⟨hne, rfl⟩))))))
    | interpretation hp hq hid hne =>
      exact hcommon _ hp _ hq hid _
        (mem_requirementChanges.mpr (.inr (.inr (.inr (.inr (.inr ⟨hne, rfl⟩))))))

/-! ## Approvals -/

section Approvals

variable {previousId currentId : String} {known : List String}
  {approvals : List BaselineChangeApproval} {state state' : List String × List String}

/-- An approval record that is about the two baselines and lists known changes only. -/
structure InScope (previousId currentId : String) (known : List String)
    (approval : BaselineChangeApproval) : Prop where
  previousId : approval.previousBaselineId = previousId
  currentId : approval.currentBaselineId = currentId
  known : ∀ id ∈ approval.changeIds, id ∈ known

theorem applyApproval_eq_ok {approval : BaselineChangeApproval} :
    applyApproval previousId currentId known state approval = .ok state' ↔
      approval.approvalId ∉ state.1 ∧ InScope previousId currentId known approval ∧
        (state.1 ++ [approval.approvalId], state.2 ++ approval.changeIds) = state' := by
  simp only [applyApproval, bind_eq_ok, exists_unit, require_eq_ok, pure_eq_ok]
  constructor
  · rintro ⟨hfresh, ⟨hprevious, hcurrent⟩, hknown, h⟩
    exact ⟨hfresh, ⟨hprevious, hcurrent, hknown⟩, h⟩
  · rintro ⟨hfresh, h, heq⟩
    exact ⟨hfresh, ⟨h.previousId, h.currentId⟩, h.known, heq⟩

/-- Approval records are accepted together when their identifiers are distinct and each is in scope;
then the approved changes are those they list. -/
theorem foldlM_applyApproval_eq_ok :
    approvals.foldlM (applyApproval previousId currentId known) state = .ok state' ↔
      (approvals.map (·.approvalId)).Nodup ∧ (∀ approval ∈ approvals,
        approval.approvalId ∉ state.1 ∧ InScope previousId currentId known approval) ∧
      (state.1 ++ approvals.map (·.approvalId), state.2 ++ approvals.flatMap (·.changeIds)) =
        state' := by
  induction approvals generalizing state with
  | nil => simp
  | cons approval approvals ih =>
    simp only [List.foldlM_cons, bind_eq_ok, applyApproval_eq_ok, ih, List.map_cons,
      List.nodup_cons, List.mem_map, List.mem_cons, forall_eq_or_imp, List.flatMap_cons]
    constructor
    · rintro ⟨_, ⟨hfresh, hscope, rfl⟩, hnodup, hrest, h⟩
      simp only [List.mem_append, List.mem_singleton, not_or, List.append_assoc,
        List.cons_append, List.nil_append] at hrest h
      refine ⟨⟨?_, hnodup⟩, ⟨⟨hfresh, hscope⟩, fun a ha => ⟨(hrest a ha).1.1, (hrest a ha).2⟩⟩, h⟩
      rintro ⟨a, ha, heq⟩
      exact (hrest a ha).1.2 heq
    · rintro ⟨⟨hne, hnodup⟩, ⟨⟨hfresh, hscope⟩, hrest⟩, h⟩
      refine ⟨_, ⟨hfresh, hscope, rfl⟩, hnodup, ?_, by simpa using h⟩
      intro a ha
      simp only [List.mem_append, List.mem_singleton, not_or]
      exact ⟨⟨(hrest a ha).1, fun heq => hne ⟨a, ha, heq⟩⟩, (hrest a ha).2⟩

end Approvals

/-- Approval records that the comparison accepts. -/
structure AcceptedApprovals (R : Runtime) (previous current : RequirementBaseline)
    (approvals : List BaselineChangeApproval) : Prop where
  unique : (approvals.map (·.approvalId)).Nodup
  inScope : ∀ approval ∈ approvals, InScope previous.baselineId current.baselineId
    ((baselineChanges R previous current).map (·.changeId)) approval

theorem compareBaselines_eq_ok {approvals : List BaselineChangeApproval} {diff : BaselineDiff} :
    compareBaselines R previous current approvals = .ok diff ↔
      AcceptedApprovals R previous current approvals ∧ diff = {
        previousBaselineId := previous.baselineId
        currentBaselineId := current.baselineId
        changes := (baselineChanges R previous current).map fun item =>
          item.settle (approvals.flatMap (·.changeIds)) } := by
  simp only [compareBaselines, applyApprovals, bind_eq_ok, pure_eq_ok,
    foldlM_applyApproval_eq_ok, List.not_mem_nil, not_false_eq_true, true_and, List.nil_append]
  constructor
  · rintro ⟨_, ⟨_, ⟨hunique, hscope, rfl⟩, rfl⟩, rfl⟩
    exact ⟨⟨hunique, hscope⟩, rfl⟩
  · rintro ⟨h, rfl⟩
    exact ⟨_, ⟨_, ⟨h.unique, h.inScope, rfl⟩, rfl⟩, rfl⟩

theorem settle_nil (item : BaselineChange) : item.settle [] = item := by
  simp [BaselineChange.settle]

@[simp] theorem settle_changeId (item : BaselineChange) {ids : List String} :
    (item.settle ids).changeId = item.changeId := by
  unfold BaselineChange.settle
  split <;> rfl

@[simp] theorem settle_subject (item : BaselineChange) {ids : List String} :
    (item.settle ids).toChangeSubject = item.toChangeSubject := by
  unfold BaselineChange.settle
  split <;> rfl

/-- The comparison with no approval record reports the changes as they are. -/
theorem compareBaselines_nil :
    compareBaselines R previous current [] = .ok {
      previousBaselineId := previous.baselineId
      currentBaselineId := current.baselineId
      changes := baselineChanges R previous current } := by
  rw [compareBaselines_eq_ok]
  refine ⟨⟨List.nodup_nil, by simp⟩, ?_⟩
  simp only [List.flatMap_nil, settle_nil, List.map_id']

/-! ## Weakened requirements -/

/-- A requirement that is the same in every field the comparison is about. -/
structure SameRequirement (prior present : RequirementRecord) : Prop where
  statement : prior.statement = present.statement
  priority : prior.priority = present.priority
  requirementType : prior.requirementType = present.requirementType
  acceptanceCriteria : prior.acceptanceCriteria = present.acceptanceCriteria
  verificationMethods : prior.verificationMethods = present.verificationMethods
  assumptions : prior.assumptions = present.assumptions
  openQuestions : prior.openQuestions = present.openQuestions

/-- The same requirement identifiers, and every common requirement the same. -/
def SameRequirements (previous current : RequirementBaseline) : Prop :=
  (∀ id, id ∈ previous.ids ↔ id ∈ current.ids) ∧
    ∀ p ∈ previous.requirements, ∀ q ∈ current.requirements,
      p.requirementId = q.requirementId → SameRequirement p q

/-- A requirement that differs in a field the comparison is about, a raised priority apart. -/
def WeakenedRequirement (prior present : RequirementRecord) : Prop :=
  prior.statement ≠ present.statement ∨
  (prior.priority ≠ present.priority ∧ ¬priorityRank prior.priority < priorityRank present.priority) ∨
  prior.requirementType ≠ present.requirementType ∨
  prior.acceptanceCriteria ≠ present.acceptanceCriteria ∨
  prior.verificationMethods ≠ present.verificationMethods ∨
  prior.assumptions ≠ present.assumptions ∨ prior.openQuestions ≠ present.openQuestions

/-- A previous requirement is removed, or a common one is weakened. -/
def Weakened (previous current : RequirementBaseline) : Prop :=
  (∃ p ∈ previous.requirements, p.requirementId ∉ current.ids) ∨
    ∃ p ∈ previous.requirements, ∃ q ∈ current.requirements,
      p.requirementId = q.requirementId ∧ WeakenedRequirement p q

/-- Without approval records the comparison reports no change exactly between the same requirements,
and it asks for an approval whenever a requirement is weakened. -/
def WeakeningNeedsApproval (R : Runtime) (previous current : RequirementBaseline) : Prop :=
  ∃ diff, compareBaselines R previous current [] = .ok diff ∧
    (diff.changes = [] ↔ SameRequirements previous current) ∧
    (Weakened previous current → diff.unresolvedApprovals ≠ [])

/-- A requirement that differs where the comparison looks: in its statement, type, criteria or
verification methods, in a lowered priority, or in its assumptions and open questions as one list. -/
def VisiblyWeakened (prior present : RequirementRecord) : Prop :=
  prior.statement ≠ present.statement ∨
  priorityRank present.priority < priorityRank prior.priority ∨
  prior.requirementType ≠ present.requirementType ∨
  prior.acceptanceCriteria ≠ present.acceptanceCriteria ∨
  prior.verificationMethods ≠ present.verificationMethods ∨
  prior.assumptions ++ prior.openQuestions ≠ present.assumptions ++ present.openQuestions

/-- A previous requirement is removed, or a common one is visibly weakened. -/
def ApprovalNeeded (previous current : RequirementBaseline) : Prop :=
  (∃ p ∈ previous.requirements, p.requirementId ∉ current.ids) ∨
    ∃ p ∈ previous.requirements, ∃ q ∈ current.requirements,
      p.requirementId = q.requirementId ∧ VisiblyWeakened p q

/-- Items moved between the assumptions and the open questions of a common requirement, at the place
where the two lists meet. -/
def BoundaryMoved (previous current : RequirementBaseline) : Prop :=
  ∃ p ∈ previous.requirements, ∃ q ∈ current.requirements,
    p.requirementId = q.requirementId ∧
    p.assumptions ++ p.openQuestions = q.assumptions ++ q.openQuestions ∧
    p.assumptions ≠ q.assumptions

theorem approvalNeeded_iff :
    ApprovalNeeded previous current ↔ ∃ subject, Changed previous current subject true := by
  constructor
  · rintro (⟨p, hp, habsent⟩ | ⟨p, hp, q, hq, hid, h⟩)
    · exact ⟨_, .removed hp habsent⟩
    · rcases h with h | h | h | h | h | h
      · exact ⟨_, .statement hp hq hid h⟩
      · have hne : p.priority ≠ q.priority := by
          intro heq
          rw [heq] at h
          exact lt_irrefl _ h
        have hchanged := Changed.priority hp hq hid hne
        rw [decide_eq_true h] at hchanged
        exact ⟨_, hchanged⟩
      · exact ⟨_, .type hp hq hid h⟩
      · exact ⟨_, .acceptance hp hq hid h⟩
      · exact ⟨_, .verification hp hq hid h⟩
      · exact ⟨_, .interpretation hp hq hid h⟩
  · rintro ⟨subject, h⟩
    generalize hrequired : true = required at h
    cases h with
    | added hq habsent => cases hrequired
    | removed hp habsent => exact .inl ⟨_, hp, habsent⟩
    | statement hp hq hid h => exact .inr ⟨_, hp, _, hq, hid, .inl h⟩
    | priority hp hq hid h =>
      exact .inr ⟨_, hp, _, hq, hid, .inr (.inl (of_decide_eq_true hrequired.symm))⟩
    | type hp hq hid h => exact .inr ⟨_, hp, _, hq, hid, .inr (.inr (.inl h))⟩
    | acceptance hp hq hid h => exact .inr ⟨_, hp, _, hq, hid, .inr (.inr (.inr (.inl h)))⟩
    | verification hp hq hid h =>
      exact .inr ⟨_, hp, _, hq, hid, .inr (.inr (.inr (.inr (.inl h))))⟩
    | interpretation hp hq hid h =>
      exact .inr ⟨_, hp, _, hq, hid, .inr (.inr (.inr (.inr (.inr h))))⟩

theorem not_boundaryMoved (h : ¬BoundaryMoved previous current) {p q : RequirementRecord}
    (hp : p ∈ previous.requirements) (hq : q ∈ current.requirements)
    (hid : p.requirementId = q.requirementId)
    (hsame : p.assumptions ++ p.openQuestions = q.assumptions ++ q.openQuestions) :
    p.assumptions = q.assumptions ∧ p.openQuestions = q.openQuestions := by
  have hassumptions : p.assumptions = q.assumptions :=
    not_not.mp fun hne => h ⟨p, hp, q, hq, hid, hsame, hne⟩
  rw [hassumptions] at hsame
  exact ⟨hassumptions, List.append_cancel_left hsame⟩

theorem baselineChanges_eq_nil (hprevious : previous.ids.Nodup) (hcurrent : current.ids.Nodup) :
    baselineChanges R previous current = [] ↔
      ∀ subject required, ¬Changed previous current subject required := by
  rw [List.eq_nil_iff_forall_not_mem]
  simp only [mem_baselineChanges hprevious hcurrent]
  constructor
  · intro h subject required hchanged
    exact h _ ⟨subject, required, hchanged, rfl⟩
  · rintro h item ⟨subject, required, hchanged, -⟩
    exact h subject required hchanged

theorem unresolvedApprovals_ne_nil (hprevious : previous.ids.Nodup) (hcurrent : current.ids.Nodup)
    {previousId currentId : String} :
    BaselineDiff.unresolvedApprovals ⟨previousId, currentId, baselineChanges R previous current⟩ ≠
      [] ↔ ApprovalNeeded previous current := by
  rw [approvalNeeded_iff, BaselineDiff.unresolvedApprovals, ne_eq, List.map_eq_nil_iff,
    List.filter_eq_nil_iff]
  simp only [mem_baselineChanges hprevious hcurrent, not_forall, Bool.not_eq_true]
  constructor
  · rintro ⟨item, ⟨subject, required, hchanged, rfl⟩, h⟩
    cases required with
    | false => simp [BaselineChange.ofSubject, change] at h
    | true => exact ⟨subject, hchanged⟩
  · rintro ⟨subject, hchanged⟩
    exact ⟨_, ⟨subject, true, hchanged, rfl⟩, by simp [BaselineChange.ofSubject, change]⟩

theorem ApprovalNeeded.not_same (h : ApprovalNeeded previous current) :
    ¬SameRequirements previous current := by
  rintro ⟨hids, hsame⟩
  rcases h with ⟨p, hp, habsent⟩ | ⟨p, hp, q, hq, hid, h⟩
  · exact habsent ((hids _).mp (List.mem_map_of_mem hp))
  · have hpq := hsame p hp q hq hid
    rcases h with h | h | h | h | h | h
    · exact h hpq.statement
    · rw [hpq.priority] at h
      exact lt_irrefl _ h
    · exact h hpq.requirementType
    · exact h hpq.acceptanceCriteria
    · exact h hpq.verificationMethods
    · rw [hpq.assumptions, hpq.openQuestions] at h
      exact h rfl

theorem SameRequirements.not_changed (h : SameRequirements previous current)
    {subject : ChangeSubject} {required : Bool} : ¬Changed previous current subject required := by
  obtain ⟨hids, hsame⟩ := h
  rintro (⟨hq, h⟩ | ⟨hp, h⟩ | ⟨hp, hq, hid, h⟩ | ⟨hp, hq, hid, h⟩ | ⟨hp, hq, hid, h⟩ |
    ⟨hp, hq, hid, h⟩ | ⟨hp, hq, hid, h⟩ | ⟨hp, hq, hid, h⟩)
  · exact h ((hids _).mpr (List.mem_map_of_mem hq))
  · exact h ((hids _).mp (List.mem_map_of_mem hp))
  · exact h (hsame _ hp _ hq hid).statement
  · exact h (hsame _ hp _ hq hid).priority
  · exact h (hsame _ hp _ hq hid).requirementType
  · exact h (hsame _ hp _ hq hid).acceptanceCriteria
  · exact h (hsame _ hp _ hq hid).verificationMethods
  · have hpq := hsame _ hp _ hq hid
    rw [hpq.assumptions, hpq.openQuestions] at h
    exact h rfl

/-- Where no item moved over the boundary of the two lists, no change is missed. -/
theorem sameRequirements_of_not_changed (hmoved : ¬BoundaryMoved previous current)
    (h : ∀ subject required, ¬Changed previous current subject required) :
    SameRequirements previous current := by
  refine ⟨fun id => ⟨fun hid => ?_, fun hid => ?_⟩, fun p hp q hq hid => ?_⟩
  · obtain ⟨p, hp, rfl⟩ := List.mem_map.mp hid
    exact not_not.mp fun habsent => h _ _ (.removed hp habsent)
  · obtain ⟨q, hq, rfl⟩ := List.mem_map.mp hid
    exact not_not.mp fun habsent => h _ _ (.added hq habsent)
  · have hlists := not_boundaryMoved hmoved hp hq hid
      (not_not.mp fun hne => h _ _ (.interpretation hp hq hid hne))
    exact {
      statement := not_not.mp fun hne => h _ _ (.statement hp hq hid hne)
      priority := not_not.mp fun hne => h _ _ (.priority hp hq hid hne)
      requirementType := not_not.mp fun hne => h _ _ (.type hp hq hid hne)
      acceptanceCriteria := not_not.mp fun hne => h _ _ (.acceptance hp hq hid hne)
      verificationMethods := not_not.mp fun hne => h _ _ (.verification hp hq hid hne)
      assumptions := hlists.1
      openQuestions := hlists.2 }

theorem priorityRank_lt_of_not_lt {a b : RequirementPriority} (hne : a ≠ b)
    (h : ¬priorityRank a < priorityRank b) : priorityRank b < priorityRank a := by
  cases a <;> cases b <;> first | exact absurd rfl hne | revert h; decide

/-- Where no item moved over the boundary of the two lists, a weakened requirement is visibly so. -/
theorem approvalNeeded_of_weakened (hmoved : ¬BoundaryMoved previous current)
    (h : Weakened previous current) : ApprovalNeeded previous current := by
  rcases h with h | ⟨p, hp, q, hq, hid, h⟩
  · exact .inl h
  · refine .inr ⟨p, hp, q, hq, hid, ?_⟩
    have hlists := not_boundaryMoved hmoved hp hq hid
    rcases h with h | h | h | h | h | h | h
    · exact .inl h
    · exact .inr (.inl (priorityRank_lt_of_not_lt h.1 h.2))
    · exact .inr (.inr (.inl h))
    · exact .inr (.inr (.inr (.inl h)))
    · exact .inr (.inr (.inr (.inr (.inl h))))
    · exact .inr (.inr (.inr (.inr (.inr fun heq => h (hlists heq).1))))
    · exact .inr (.inr (.inr (.inr (.inr fun heq => h (hlists heq).2))))

theorem weakeningNeedsApproval_of_unique (hp : previous.ids.Nodup) (hc : current.ids.Nodup) :
    WeakeningNeedsApproval R previous current ↔
      ApprovalNeeded previous current ∨ ¬BoundaryMoved previous current := by
  simp only [WeakeningNeedsApproval, compareBaselines_nil, Except.ok.injEq, exists_eq_left',
    unresolvedApprovals_ne_nil hp hc, baselineChanges_eq_nil hp hc]
  constructor
  · rintro ⟨-, h⟩
    by_cases hmoved : BoundaryMoved previous current
    · obtain ⟨p, hp, q, hq, hid, -, hne⟩ := hmoved
      have hweak : WeakenedRequirement p q := .inr (.inr (.inr (.inr (.inr (.inl hne)))))
      exact .inl (h (.inr ⟨p, hp, q, hq, hid, hweak⟩))
    · exact .inr hmoved
  · rintro (h | h)
    · refine ⟨⟨fun hnone => ?_, fun hsame => absurd hsame h.not_same⟩, fun _ => h⟩
      obtain ⟨subject, hchanged⟩ := approvalNeeded_iff.mp h
      exact absurd hchanged (hnone _ _)
    · exact ⟨⟨sameRequirements_of_not_changed h, fun hsame _ _ => hsame.not_changed⟩,
        approvalNeeded_of_weakened h⟩

/-- Without approval records the comparison sees a weakened requirement exactly when no item moved
over the boundary of the assumptions and the open questions, or something else needs an approval. -/
theorem weakeningNeedsApproval_iff {payload payload' : Value}
    (hprevious : baselineFromDict R payload = .ok previous)
    (hcurrent : baselineFromDict R payload' = .ok current) :
    WeakeningNeedsApproval R previous current ↔
      ApprovalNeeded previous current ∨ ¬BoundaryMoved previous current :=
  weakeningNeedsApproval_of_unique (lawful_of_baselineFromDict hprevious).unique
    (lawful_of_baselineFromDict hcurrent).unique

/-! ### A requirement whose open question became an assumption -/

/-- A run in which every text is a point in time and every digest is the same. -/
def plainRuntime : Runtime where
  hexdigest _ := "0000000000000000"
  casefold text := text
  fromisoformat _ := some ⟨0, true⟩

def plainRequirement (statement : String) (assumptions openQuestions : List String) :
    RequirementRecord where
  requirementId := "R-1"
  title := "Title"
  requirementType := .functional
  priority := .must
  source := ⟨"spec.md", "Scope", 1, 1, "Text", "heading"⟩
  statement
  acceptanceCriteria := [⟨"AC-R-1-1", "It works", ["test"]⟩]
  verificationMethods := ["test"]
  assumptions
  openQuestions
  traceLinks := ⟨[], [], [], [], []⟩
  identifierSource := "explicit"
  status := "baselined"

def plainBaseline (statement : String) (assumptions openQuestions : List String) :
    RequirementBaseline where
  baselineId := "RB-0000000000000000"
  source := ⟨"spec.md", "spec.md", String.ofList (List.replicate 64 '0'), 1,
    "2026-01-01T00:00:00+00:00", "2026-01-01T00:00:00+00:00"⟩
  requirements := [plainRequirement statement assumptions openQuestions]
  sourceAcceptanceCriteria := []
  diagnostics := []
  approvalRequired := []
  approvalGranted := []
  schemaVersion := "1.0"

theorem plainBaseline_unique (statement : String) (assumptions openQuestions : List String) :
    (plainBaseline statement assumptions openQuestions).ids.Nodup := List.nodup_singleton _

theorem plainBaseline_loaded (statement : String) (assumptions openQuestions : List String)
    (hstatement : Written statement) (hassumptions : ∀ text ∈ assumptions, Written text)
    (hquestions : ∀ text ∈ openQuestions, Written text) :
    baselineFromDict plainRuntime (plainBaseline statement assumptions openQuestions).toDict =
      .ok (plainBaseline statement assumptions openQuestions) := by
  have htime (text : String) (h : Written text) : LawfulTimestamp plainRuntime text :=
    ⟨h, ⟨0, true⟩, rfl, rfl⟩
  have hcriterion : LawfulCriterion ⟨"AC-R-1-1", "It works", ["test"]⟩ :=
    ⟨by decide, by decide, by decide⟩
  have htrace : LawfulTrace ⟨"spec.md", "Scope", 1, 1, "Text", "heading"⟩ :=
    ⟨by decide, by decide, by decide, by decide, by decide⟩
  have hnone : ∀ text ∈ ([] : List String), Written text := by decide
  have hmethods : ["test"] ≠ [] ∧ ∀ text ∈ ["test"], Written text := by decide
  have hrequirement : LawfulRequirement plainRuntime
      (plainRequirement statement assumptions openQuestions) := {
    requirementId := (by decide : Written "R-1" ∧ isUpperIdentifier "R-1" = true)
    title := (by decide : Written "Title")
    source := htrace
    statement := hstatement
    criteria := ⟨List.cons_ne_nil _ _, by simpa [plainRequirement] using hcriterion⟩
    criteriaUnique := List.nodup_singleton _
    criteriaLinked := by
      simpa [plainRequirement] using (by decide : linksTo "R-1" "AC-R-1-1" = true)
    methods := hmethods
    assumptions := hassumptions
    openQuestions := hquestions
    traceLinks := ⟨hnone, hnone, hnone, hnone, hnone⟩
    identifierSource := (by decide : Written "explicit" ∧ "explicit" ∈ identifierSources)
    generated := fun h => absurd h (by decide : "explicit" ≠ "generated")
    status := (by decide : Written "baselined" ∧ "baselined" ∈ requirementStatuses) }
  have hsource : LawfulSource plainRuntime (plainBaseline "" [] []).source :=
    ⟨by decide, by decide, by decide, by decide, by decide, by decide,
      htime _ (by decide), htime _ (by decide)⟩
  exact baselineFromDict_toDict {
    schemaVersion := rfl
    baselineId := (by decide : Written "RB-0000000000000000" ∧
      isBaselineMark "RB-0000000000000000" = true)
    source := hsource
    named := (by decide : "RB-0000000000000000" =
      "RB-" ++ String.ofList ((String.ofList (List.replicate 64 '0')).toList.take 16))
    requirements := ⟨List.cons_ne_nil _ _, by simpa [plainBaseline] using hrequirement,
      List.nodup_singleton _, List.nodup_singleton _⟩
    sourceCriteria := List.forall_mem_nil _
    sourceCriteriaUnique := List.nodup_nil
    sourceCriteriaLinked := List.forall_mem_nil _
    diagnostics := List.forall_mem_nil _
    diagnosticsUnique := List.nodup_nil
    diagnosticsKnown := List.forall_mem_nil _
    approvalRequired := List.forall_mem_nil _
    approvalRequiredUnique := List.nodup_nil
    approvalGranted := rfl }

/-- An open question becomes an assumption and no approval is asked for. -/
theorem moved_question_evades_approval :
    ∃ R payload payload' previous current, baselineFromDict R payload = .ok previous ∧
      baselineFromDict R payload' = .ok current ∧ ¬WeakeningNeedsApproval R previous current := by
  refine ⟨plainRuntime, _, _, _, _,
    plainBaseline_loaded "It works" [] ["Offline"] (by decide) (by decide) (by decide),
    plainBaseline_loaded "It works" ["Offline"] [] (by decide) (by decide) (by decide), ?_⟩
  rw [weakeningNeedsApproval_of_unique (plainBaseline_unique _ _ _) (plainBaseline_unique _ _ _),
    not_or, not_not]
  constructor
  · simp [ApprovalNeeded, VisiblyWeakened, RequirementBaseline.ids, plainBaseline, plainRequirement]
  · simp [BoundaryMoved, plainBaseline, plainRequirement]

/-- A baseline against itself. -/
theorem plainBaseline_unchanged :
    WeakeningNeedsApproval plainRuntime (plainBaseline "It works" [] [])
      (plainBaseline "It works" [] []) := by
  have hloaded := plainBaseline_loaded "It works" [] [] (by decide) (by decide) (by decide)
  refine (weakeningNeedsApproval_iff hloaded hloaded).mpr (.inr ?_)
  simp [BoundaryMoved, plainBaseline]

/-! ## The name of a change -/

/-- Two texts without a bar in front of a bar are equal when the whole texts are. -/
theorem append_bar_inj {a b x y : List Char} (ha : '|' ∉ a) (hb : '|' ∉ b)
    (h : a ++ '|' :: x = b ++ '|' :: y) : a = b ∧ x = y := by
  induction a generalizing b with
  | nil =>
    cases b with
    | nil => exact ⟨rfl, (List.cons.inj h).2⟩
    | cons c b => exact absurd ((List.cons.inj h).1 ▸ List.mem_cons_self) hb
  | cons c a ih =>
    cases b with
    | nil => exact absurd ((List.cons.inj h).1 ▸ List.mem_cons_self) ha
    | cons d b =>
      obtain ⟨rfl, htail⟩ := List.cons.inj h
      obtain ⟨rfl, rfl⟩ := ih (fun hmem => ha (List.mem_cons_of_mem _ hmem))
        (fun hmem => hb (List.mem_cons_of_mem _ hmem)) htail
      exact ⟨rfl, rfl⟩

theorem ChangeSubject.toList_stable (subject : ChangeSubject) :
    subject.stable.toList = subject.requirementId.toList ++ '|' ::
      ((Enumeration.value subject.kind).toList ++ '|' ::
        ((subject.previous.getD "").toList ++ '|' :: (subject.current.getD "").toList)) := by
  simp [stable]

theorem barFree_of_isUpperIdentifier {text : String} (h : isUpperIdentifier text = true) :
    '|' ∉ text.toList := by
  unfold isUpperIdentifier at h
  split at h
  · cases h
  · rename_i c cs hcs
    simp only [Bool.and_eq_true, List.all_eq_true] at h
    rw [hcs, List.mem_cons, not_or]
    refine ⟨?_, fun hmem => absurd (h.2 _ hmem) (by decide)⟩
    rintro rfl
    exact absurd h.1 (by decide)

theorem barFree_changeKind (kind : ChangeKind) : '|' ∉ (Enumeration.value kind).toList := by
  cases kind <;> decide

theorem barFree_priority (priority : RequirementPriority) :
    '|' ∉ (Enumeration.value priority).toList := by
  cases priority <;> decide

theorem barFree_type (requirementType : RequirementType) :
    '|' ∉ (Enumeration.value requirementType).toList := by
  cases requirementType <;> decide

/-- Two JSON texts in front of a bar are equal when the whole texts are. -/
theorem dumps_bar_inj {v w : Value} {x y : List Char}
    (h : dumps compact 0 v ++ '|' :: x = dumps compact 0 w ++ '|' :: y) : v = w ∧ x = y := by
  have hbar (z : List Char) : Apart ('|' :: z) := rfl
  obtain ⟨hvalue, hrest⟩ := JsonText.dumps_append_inj (hbar x) (hbar y) h
  exact ⟨hvalue, (List.cons.inj hrest).2⟩

theorem tupleValue_bar_inj {values values' : List String} {x y : List Char}
    (h : (tupleValue values).toList ++ '|' :: x = (tupleValue values').toList ++ '|' :: y) :
    values = values' ∧ x = y := by
  rw [tupleValue, tupleValue, String.toList_ofList, String.toList_ofList] at h
  obtain ⟨hvalue, hrest⟩ := dumps_bar_inj h
  exact ⟨textArray_inj.mp hvalue, hrest⟩

theorem criteriaValue_bar_inj {criteria criteria' : List AcceptanceCriterion} {x y : List Char}
    (h : (criteriaValue criteria).toList ++ '|' :: x =
      (criteriaValue criteria').toList ++ '|' :: y) : criteria = criteria' ∧ x = y := by
  rw [criteriaValue, criteriaValue, String.toList_ofList, String.toList_ofList] at h
  obtain ⟨hvalue, hrest⟩ := dumps_bar_inj h
  exact ⟨AcceptanceCriterion.toDict_injective.list_map (Value.array.inj hvalue), hrest⟩

variable {previous' current' : RequirementBaseline} {subject subject' : ChangeSubject}
  {required required' : Bool}

/-- Requirement identifiers without a bar, as every loaded baseline has them. -/
def BarFree (baseline : RequirementBaseline) : Prop := ∀ id ∈ baseline.ids, '|' ∉ id.toList

theorem barFree_of_lawful (h : LawfulRequirements R previous.requirements) : BarFree previous := by
  intro id hid
  obtain ⟨item, hitem, rfl⟩ := List.mem_map.mp hid
  exact barFree_of_isUpperIdentifier (h.each item hitem).requirementId.2

theorem Changed.barFree (h : Changed previous current subject required) (hp : BarFree previous)
    (hc : BarFree current) : '|' ∉ subject.requirementId.toList := by
  cases h with
  | added hq h => exact hc _ (List.mem_map_of_mem hq)
  | removed hp' h => exact hp _ (List.mem_map_of_mem hp')
  | statement hp' hq hid h => exact hp _ (List.mem_map_of_mem hp')
  | priority hp' hq hid h => exact hp _ (List.mem_map_of_mem hp')
  | type hp' hq hid h => exact hp _ (List.mem_map_of_mem hp')
  | acceptance hp' hq hid h => exact hp _ (List.mem_map_of_mem hp')
  | verification hp' hq hid h => exact hp _ (List.mem_map_of_mem hp')
  | interpretation hp' hq hid h => exact hp _ (List.mem_map_of_mem hp')

/-- Two changes with one name text agree in their requirement and kind, and in both texts unless
these are statements. -/
theorem Changed.stable_inj (h : Changed previous current subject required)
    (h' : Changed previous' current' subject' required') (hp : BarFree previous)
    (hc : BarFree current) (hp' : BarFree previous') (hc' : BarFree current')
    (hstable : subject.stable = subject'.stable) :
    subject.requirementId = subject'.requirementId ∧ subject.kind = subject'.kind ∧
      (subject.kind ≠ .statementChanged → subject = subject') := by
  have htexts : subject.stable.toList = subject'.stable.toList := by rw [hstable]
  rw [ChangeSubject.toList_stable, ChangeSubject.toList_stable] at htexts
  obtain ⟨hid, htexts⟩ := append_bar_inj (h.barFree hp hc) (h'.barFree hp' hc') htexts
  obtain ⟨hkind, htexts⟩ := append_bar_inj (barFree_changeKind _) (barFree_changeKind _) htexts
  replace hid := String.toList_inj.mp hid
  replace hkind := Enumeration.value_injective (String.toList_inj.mp hkind)
  refine ⟨hid, hkind, fun hstatement => ?_⟩
  cases h with
  | statement => exact absurd rfl hstatement
  | added =>
    cases h' <;> cases hkind
    obtain ⟨-, htexts⟩ := append_bar_inj List.not_mem_nil List.not_mem_nil htexts
    exact ChangeSubject.ext hid rfl rfl (congrArg some (String.toList_inj.mp htexts))
  | removed =>
    cases h' <;> cases hkind
    have hsame := List.append_cancel_right htexts
    exact ChangeSubject.ext hid rfl (congrArg some (String.toList_inj.mp hsame)) rfl
  | priority =>
    cases h' <;> cases hkind
    obtain ⟨hprevious, hcurrent⟩ := append_bar_inj (barFree_priority _) (barFree_priority _) htexts
    exact ChangeSubject.ext hid rfl (congrArg some (String.toList_inj.mp hprevious))
      (congrArg some (String.toList_inj.mp hcurrent))
  | type =>
    cases h' <;> cases hkind
    obtain ⟨hprevious, hcurrent⟩ := append_bar_inj (barFree_type _) (barFree_type _) htexts
    exact ChangeSubject.ext hid rfl (congrArg some (String.toList_inj.mp hprevious))
      (congrArg some (String.toList_inj.mp hcurrent))
  | acceptance =>
    cases h' <;> cases hkind
    obtain ⟨hprevious, hcurrent⟩ := criteriaValue_bar_inj htexts
    exact ChangeSubject.ext hid rfl (congrArg (some ∘ criteriaValue) hprevious)
      (congrArg some (String.toList_inj.mp hcurrent))
  | verification =>
    cases h' <;> cases hkind
    obtain ⟨hprevious, hcurrent⟩ := tupleValue_bar_inj htexts
    exact ChangeSubject.ext hid rfl (congrArg (some ∘ tupleValue) hprevious)
      (congrArg some (String.toList_inj.mp hcurrent))
  | interpretation =>
    cases h' <;> cases hkind
    obtain ⟨hprevious, hcurrent⟩ := tupleValue_bar_inj htexts
    exact ChangeSubject.ext hid rfl (congrArg (some ∘ tupleValue) hprevious)
      (congrArg some (String.toList_inj.mp hcurrent))

/-! ## What an approval authorizes -/

/-- Two changes of the two comparisons with one name are one change; and where the records approve
only changes of the first comparison, a change of the second is marked approved exactly when a
record of its baselines lists a change of the first with the same subject. -/
def AuthorizesOnlySeen (R : Runtime) (previous current previous' current' : RequirementBaseline) :
    Prop :=
  ∀ approvals approvals' seen diff,
    compareBaselines R previous current approvals = .ok seen →
    compareBaselines R previous' current' approvals' = .ok diff →
    (∀ a ∈ seen.changes, ∀ b ∈ diff.changes, a.changeId = b.changeId →
      a.toChangeSubject = b.toChangeSubject) ∧
    ((∀ approval ∈ approvals', ∀ id ∈ approval.changeIds, ∃ a ∈ seen.changes, a.changeId = id) →
      ∀ b ∈ diff.changes, b.approvalStatus = .approved ↔ ∃ approval ∈ approvals',
        approval.previousBaselineId = previous'.baselineId ∧
        approval.currentBaselineId = current'.baselineId ∧
        ∃ a ∈ seen.changes, a.changeId ∈ approval.changeIds ∧
          a.toChangeSubject = b.toChangeSubject)

/-- No two changed statements of a requirement, one in each comparison, give the same text when a
bar joins the old statement and the new one. -/
def StatementsApart (previous current previous' current' : RequirementBaseline) : Prop :=
  ∀ p ∈ previous.requirements, ∀ q ∈ current.requirements,
    ∀ p' ∈ previous'.requirements, ∀ q' ∈ current'.requirements,
      p.requirementId = q.requirementId → p'.requirementId = q'.requirementId →
      p.requirementId = p'.requirementId →
      p.statement ≠ q.statement → p'.statement ≠ q'.statement →
      p.statement ++ "|" ++ q.statement = p'.statement ++ "|" ++ q'.statement →
      p.statement = p'.statement

/-- No change that needs no approval is a change of both comparisons. -/
def NoFreeChangeShared (previous current previous' current' : RequirementBaseline) : Prop :=
  ∀ subject, Changed previous current subject false → ¬Changed previous' current' subject false

/-- The texts whose digests name the changes of two baselines. -/
def nameTexts (previous current : RequirementBaseline) : Set String :=
  {text | ∃ subject required, Changed previous current subject required ∧ subject.stable = text}

/-- Whether a change of a subject needs an approval, read off its kind and its texts. -/
def ChangeSubject.needsApproval (subject : ChangeSubject) : Bool :=
  match subject.kind with
  | .added => false
  | .priorityChanged =>
    match subject.previous.bind (ofValue RequirementPriority),
      subject.current.bind (ofValue RequirementPriority) with
    | some p, some q => priorityRank q < priorityRank p
    | _, _ => false
  | _ => true

theorem Changed.required_eq (h : Changed previous current subject required) :
    required = subject.needsApproval := by
  cases h with
  | @priority p q hp hq hid hne =>
    have hprevious : ofValue RequirementPriority (Enumeration.value p.priority) = some p.priority :=
      ofValue_eq_some.mpr rfl
    have hcurrent : ofValue RequirementPriority (Enumeration.value q.priority) = some q.priority :=
      ofValue_eq_some.mpr rfl
    simp [ChangeSubject.needsApproval, hprevious, hcurrent]
  | _ => rfl

theorem ofSubject_changeId : (BaselineChange.ofSubject R subject required).changeId =
    "CHG-" ++ R.digest 12 subject.stable := rfl

theorem ofSubject_subject :
    (BaselineChange.ofSubject R subject required).toChangeSubject = subject := rfl

theorem ofSubject_settle_approved {ids : List String} :
    ((BaselineChange.ofSubject R subject required).settle ids).approvalStatus = .approved ↔
      required = true ∧ "CHG-" ++ R.digest 12 subject.stable ∈ ids := by
  by_cases hmem : "CHG-" ++ R.digest 12 subject.stable ∈ ids <;> cases required <;>
    simp [BaselineChange.settle, BaselineChange.ofSubject, change, hmem]

/-- Changes of one requirement and one kind have one name text when their joined texts are equal. -/
theorem ChangeSubject.stable_eq_iff (hid : subject.requirementId = subject'.requirementId)
    (hkind : subject.kind = subject'.kind) :
    subject.stable = subject'.stable ↔
      subject.previous.getD "" ++ "|" ++ subject.current.getD "" =
        subject'.previous.getD "" ++ "|" ++ subject'.current.getD "" := by
  rw [← String.toList_inj, ← String.toList_inj, toList_stable, toList_stable, hid, hkind]
  simp

/-- One requirement identifier, two changed statements with one name text. -/
theorem Changed.statements_eq (h : Changed previous current subject required)
    (h' : Changed previous' current' subject' required')
    (hapart : StatementsApart previous current previous' current')
    (hid : subject.requirementId = subject'.requirementId) (hkind : subject.kind = subject'.kind)
    (hstatement : subject.kind = .statementChanged) (hstable : subject.stable = subject'.stable) :
    subject = subject' := by
  cases h <;> cases hstatement
  cases h' <;> cases hkind
  rename_i p q hp hq hpq hne p' q' hp' hq' hpq' hne'
  have htexts : p.statement ++ "|" ++ q.statement = p'.statement ++ "|" ++ q'.statement :=
    (ChangeSubject.stable_eq_iff hid rfl).mp hstable
  have hprevious := hapart p hp q hq p' hp' q' hq' hpq hpq' hid hne hne' htexts
  have hcurrent : q.statement = q'.statement := by
    rw [hprevious] at htexts
    exact (String.append_right_inj _).mp htexts
  exact ChangeSubject.ext hid rfl (congrArg some hprevious) (congrArg some hcurrent)

/-- The names of the changes keep the changes apart when the digest does and no two changed
statements meet. -/
theorem Changed.subject_eq (h : Changed previous current subject required)
    (h' : Changed previous' current' subject' required')
    (hp : BarFree previous) (hc : BarFree current) (hp' : BarFree previous')
    (hc' : BarFree current')
    (hdigest : Set.InjOn (R.digest 12) (nameTexts previous current ∪ nameTexts previous' current'))
    (hapart : StatementsApart previous current previous' current')
    (hname : "CHG-" ++ R.digest 12 subject.stable = "CHG-" ++ R.digest 12 subject'.stable) :
    subject = subject' := by
  have hdigits : R.digest 12 subject.stable = R.digest 12 subject'.stable :=
    (String.append_right_inj _).mp hname
  have hstable : subject.stable = subject'.stable :=
    hdigest (.inl ⟨subject, required, h, rfl⟩) (.inr ⟨subject', required', h', rfl⟩) hdigits
  obtain ⟨hid, hkind, hother⟩ := h.stable_inj h' hp hc hp' hc' hstable
  by_cases hstatement : subject.kind = .statementChanged
  · exact h.statements_eq h' hapart hid hkind hstatement hstable
  · exact hother hstatement

/-- An approval record of two baselines that lists one change. -/
def approvalOf (previous current : RequirementBaseline) (changeId : String) :
    BaselineChangeApproval where
  approvalId := "APR-1"
  previousBaselineId := previous.baselineId
  currentBaselineId := current.baselineId
  changeIds := [changeId]
  rationale := "Reviewed"
  approvedAt := "2026-01-01T00:00:00+00:00"
  expiresAt := none
  approvedBy := "Owner"

theorem acceptedApprovals_approvalOf {item : BaselineChange}
    (h : item ∈ baselineChanges R previous current) :
    AcceptedApprovals R previous current [approvalOf previous current item.changeId] := by
  refine ⟨List.nodup_singleton _, ?_⟩
  simp only [List.mem_singleton, forall_eq]
  exact ⟨rfl, rfl, by simpa [approvalOf] using ⟨item, h, rfl⟩⟩

/-- Approvals authorize only what was seen exactly when no two changed statements meet and no change
that needs no approval is shared. -/
theorem authorizesOnlySeen_of_unique (hp : previous.ids.Nodup) (hc : current.ids.Nodup)
    (hp' : previous'.ids.Nodup) (hc' : current'.ids.Nodup) (hbp : BarFree previous)
    (hbc : BarFree current) (hbp' : BarFree previous') (hbc' : BarFree current')
    (hdigest : Set.InjOn (R.digest 12)
      (nameTexts previous current ∪ nameTexts previous' current')) :
    AuthorizesOnlySeen R previous current previous' current' ↔
      StatementsApart previous current previous' current' ∧
        NoFreeChangeShared previous current previous' current' := by
  constructor
  · intro h
    have hnames := (h [] [] _ _ compareBaselines_nil compareBaselines_nil).1
    constructor
    · intro p hpm q hqm p' hpm' q' hqm' hpq hpq' hid hne hne' htexts
      have hstable : ChangeSubject.stable ⟨p.requirementId, .statementChanged, some p.statement,
          some q.statement⟩ = ChangeSubject.stable ⟨p'.requirementId, .statementChanged,
          some p'.statement, some q'.statement⟩ := by
        refine (ChangeSubject.stable_eq_iff ?_ ?_).mpr ?_
        · exact hid
        · rfl
        · exact htexts
      have hsubject := hnames _
        ((mem_baselineChanges hp hc).mpr ⟨_, _, .statement hpm hqm hpq hne, rfl⟩) _
        ((mem_baselineChanges hp' hc').mpr ⟨_, _, .statement hpm' hqm' hpq' hne', rfl⟩)
        (congrArg (fun text => "CHG-" ++ R.digest 12 text) hstable)
      exact Option.some.inj (congrArg ChangeSubject.previous hsubject)
    · intro subject hchanged hchanged'
      have hmem := (mem_baselineChanges (R := R) hp hc).mpr ⟨_, _, hchanged, rfl⟩
      have hmem' := (mem_baselineChanges (R := R) hp' hc').mpr ⟨_, _, hchanged', rfl⟩
      -- The record lists the free change, and the change stays unmarked.
      have hmarked := (h [] _ _ _ compareBaselines_nil
        (compareBaselines_eq_ok.mpr ⟨acceptedApprovals_approvalOf hmem', rfl⟩)).2
      have hlisted : ∀ approval ∈ [approvalOf previous' current'
          (BaselineChange.ofSubject R subject false).changeId], ∀ id ∈ approval.changeIds,
          ∃ a ∈ baselineChanges R previous current, a.changeId = id := by
        simp only [List.mem_singleton, forall_eq, approvalOf]
        exact ⟨_, hmem, rfl⟩
      have happroved := (hmarked hlisted _ (List.mem_map_of_mem hmem')).mpr
        ⟨_, List.mem_singleton_self _, rfl, rfl, _, hmem, List.mem_singleton_self _, by simp⟩
      exact absurd (ofSubject_settle_approved.mp happroved).1 Bool.false_ne_true
  · rintro ⟨hapart, hfree⟩ approvals approvals' seen diff hseen hdiff
    obtain ⟨-, rfl⟩ := compareBaselines_eq_ok.mp hseen
    obtain ⟨haccepted, rfl⟩ := compareBaselines_eq_ok.mp hdiff
    have hnames : ∀ a ∈ baselineChanges R previous current,
        ∀ b ∈ baselineChanges R previous' current', a.changeId = b.changeId →
          a.toChangeSubject = b.toChangeSubject := by
      intro a ha b hb hname
      obtain ⟨subject, required, hchanged, rfl⟩ := (mem_baselineChanges hp hc).mp ha
      obtain ⟨subject', required', hchanged', rfl⟩ := (mem_baselineChanges hp' hc').mp hb
      exact hchanged.subject_eq hchanged' hbp hbc hbp' hbc' hdigest hapart hname
    refine ⟨fun a ha b hb hname => ?_, fun hlisted b hb => ?_⟩
    · obtain ⟨item, hitem, rfl⟩ := List.mem_map.mp ha
      obtain ⟨item', hitem', rfl⟩ := List.mem_map.mp hb
      simpa using hnames item hitem item' hitem' (by simpa using hname)
    · obtain ⟨item', hitem', rfl⟩ := List.mem_map.mp hb
      obtain ⟨subject', required', hchanged', rfl⟩ := (mem_baselineChanges hp' hc').mp hitem'
      rw [ofSubject_settle_approved, List.mem_flatMap, settle_subject]
      constructor
      · rintro ⟨-, approval, happroval, hid⟩
        obtain ⟨a, ha, hname⟩ := hlisted approval happroval _ hid
        have hscope := haccepted.inScope approval happroval
        refine ⟨approval, happroval, hscope.previousId, hscope.currentId, a, ha, ?_, ?_⟩
        · rwa [hname]
        · obtain ⟨item, hitem, rfl⟩ := List.mem_map.mp ha
          rw [settle_changeId] at hname
          rw [settle_subject]
          exact hnames item hitem _ hitem' hname
      · rintro ⟨approval, happroval, -, -, a, ha, hid, hsubject⟩
        obtain ⟨item, hitem, rfl⟩ := List.mem_map.mp ha
        obtain ⟨subject, required, hchanged, rfl⟩ := (mem_baselineChanges hp hc).mp hitem
        rw [settle_subject, ofSubject_subject, ofSubject_subject] at hsubject
        subst hsubject
        rw [settle_changeId, ofSubject_changeId] at hid
        refine ⟨?_, approval, happroval, hid⟩
        by_contra hnot
        rw [Bool.not_eq_true] at hnot
        subst hnot
        rw [hchanged.required_eq, ← hchanged'.required_eq] at hchanged
        exact hfree _ hchanged hchanged'

/-- Approvals authorize only what was seen exactly when no two changed statements of the comparisons
meet over the bar and no change that needs no approval is shared. -/
theorem authorizesOnlySeen_iff {payload₁ payload₂ payload₁' payload₂' : Value}
    (hprevious : baselineFromDict R payload₁ = .ok previous)
    (hcurrent : baselineFromDict R payload₂ = .ok current)
    (hprevious' : baselineFromDict R payload₁' = .ok previous')
    (hcurrent' : baselineFromDict R payload₂' = .ok current')
    (hdigest : Set.InjOn (R.digest 12)
      (nameTexts previous current ∪ nameTexts previous' current')) :
    AuthorizesOnlySeen R previous current previous' current' ↔
      StatementsApart previous current previous' current' ∧
        NoFreeChangeShared previous current previous' current' := by
  have hp := lawful_of_baselineFromDict hprevious
  have hc := lawful_of_baselineFromDict hcurrent
  have hp' := lawful_of_baselineFromDict hprevious'
  have hc' := lawful_of_baselineFromDict hcurrent'
  exact authorizesOnlySeen_of_unique hp.unique hc.unique hp'.unique hc'.unique
    (barFree_of_lawful hp) (barFree_of_lawful hc) (barFree_of_lawful hp') (barFree_of_lawful hc')
    hdigest

/-! ### Two statements that meet over the bar -/

/-- Between two plain baselines only the statement changes. -/
theorem plainBaseline_changed {statement statement' : String}
    (h : Changed (plainBaseline statement [] []) (plainBaseline statement' [] []) subject
      required) :
    subject = ⟨"R-1", .statementChanged, some statement, some statement'⟩ ∧ required = true := by
  cases h <;> simp_all [plainBaseline, plainRequirement, RequirementBaseline.ids]

theorem plainBaseline_digest {a b a' b' : String} (h : a ++ "|" ++ b = a' ++ "|" ++ b') :
    Set.InjOn (plainRuntime.digest 12)
      (nameTexts (plainBaseline a [] []) (plainBaseline b [] []) ∪
        nameTexts (plainBaseline a' [] []) (plainBaseline b' [] [])) := by
  have hsame : ∀ text ∈ nameTexts (plainBaseline a [] []) (plainBaseline b [] []) ∪
      nameTexts (plainBaseline a' [] []) (plainBaseline b' [] []),
      text = ChangeSubject.stable ⟨"R-1", .statementChanged, some a, some b⟩ := by
    rintro text (⟨subject, required, hchanged, rfl⟩ | ⟨subject, required, hchanged, rfl⟩)
    · rw [(plainBaseline_changed hchanged).1]
    · rw [(plainBaseline_changed hchanged).1]
      refine (ChangeSubject.stable_eq_iff ?_ ?_).mpr ?_
      · rfl
      · rfl
      · exact h.symm
  intro text htext text' htext' _
  rw [hsame text htext, hsame text' htext']

theorem plainBaseline_barFree (statement : String) : BarFree (plainBaseline statement [] []) := by
  simp only [BarFree, RequirementBaseline.ids, plainBaseline, plainRequirement, List.map_cons,
    List.map_nil, List.mem_singleton, forall_eq]
  decide

/-- A record for the change of "a" to "b|c" approves the change of "a|b" to "c". -/
theorem approval_authorizes_unseen :
    ∃ R payload₁ payload₂ payload₁' payload₂' previous current previous' current',
      baselineFromDict R payload₁ = .ok previous ∧ baselineFromDict R payload₂ = .ok current ∧
      baselineFromDict R payload₁' = .ok previous' ∧ baselineFromDict R payload₂' = .ok current' ∧
      Set.InjOn (R.digest 12) (nameTexts previous current ∪ nameTexts previous' current') ∧
      ¬AuthorizesOnlySeen R previous current previous' current' := by
  have hloaded (statement : String) (h : Written statement) :=
    plainBaseline_loaded statement [] [] h (by decide) (by decide)
  refine ⟨plainRuntime, _, _, _, _, _, _, _, _, hloaded "a" (by decide), hloaded "b|c" (by decide),
    hloaded "a|b" (by decide), hloaded "c" (by decide), plainBaseline_digest (by decide), ?_⟩
  rw [authorizesOnlySeen_of_unique (plainBaseline_unique _ _ _) (plainBaseline_unique _ _ _)
    (plainBaseline_unique _ _ _) (plainBaseline_unique _ _ _) (plainBaseline_barFree _)
    (plainBaseline_barFree _) (plainBaseline_barFree _) (plainBaseline_barFree _)
    (plainBaseline_digest (by decide)), not_and_or]
  refine .inl fun h => ?_
  have hmeet := h (plainRequirement "a" [] []) (List.mem_singleton_self _)
    (plainRequirement "b|c" [] []) (List.mem_singleton_self _)
    (plainRequirement "a|b" [] []) (List.mem_singleton_self _)
    (plainRequirement "c" [] []) (List.mem_singleton_self _) rfl rfl rfl
    (by decide : "a" ≠ "b|c") (by decide : "a|b" ≠ "c") (by decide : "a" ++ "|" ++ "b|c" = _)
  exact absurd hmeet (by decide : "a" ≠ "a|b")

/-- One comparison and its own approvals. -/
theorem plainBaseline_authorizes :
    AuthorizesOnlySeen plainRuntime (plainBaseline "a" [] []) (plainBaseline "b" [] [])
      (plainBaseline "a" [] []) (plainBaseline "b" [] []) := by
  have hloaded (statement : String) (h : Written statement) :=
    plainBaseline_loaded statement [] [] h (by decide) (by decide)
  refine (authorizesOnlySeen_iff (hloaded "a" (by decide)) (hloaded "b" (by decide))
    (hloaded "a" (by decide)) (hloaded "b" (by decide)) (plainBaseline_digest rfl)).mpr ⟨?_, ?_⟩
  · simp [StatementsApart, plainBaseline, plainRequirement]
  · intro subject hchanged
    exact absurd (plainBaseline_changed hchanged).2 Bool.false_ne_true

end Sdaqf
