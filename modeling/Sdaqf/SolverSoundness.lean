import Sdaqf.AcceptedTexts
import Sdaqf.SolverSearch

/-!
# Soundness of solver verification

Whatever a result claims, a verified outcome makes it true: the replay behind it covered every
assignment that the claim is about. A replay that the step budget cut short is inconclusive, and
every other early exit is a rejection.
-/

namespace Sdaqf

open Guard SolverRequest

variable {request : SolverRequest} {result : SolverResult} {problem : SolverProblem}
variable {σ τ : Valuation} {adapter : SolverAdapterDefinition} {lease : SolverLeaseEvidence}

/-! ## What a result claims -/

/-- One value of an objective is strictly better than another. -/
def SolverObjective.Better (objective : SolverObjective) (a b : Int) : Prop :=
  match objective.direction with
  | .minimize => a < b
  | .maximize => b < a

/-- The witness of a result is a feasible valuation, and its objective value is the one stated. -/
structure Witnessed (problem : SolverProblem) (result : SolverResult) (σ : Valuation) : Prop where
  feasible : problem.Feasible σ
  witness : result.witness =
    some ⟨problem.vars.map fun v => (v.variableId, σ v.variableId)⟩
  objective : result.objectiveValue = problem.objective.map (·.value σ)

/-- No feasible valuation is strictly better, and none is as good with a smaller assignment. -/
structure Optimal (problem : SolverProblem) (objective : SolverObjective) (σ : Valuation) :
    Prop where
  unbeaten : ∀ τ, problem.Feasible τ → ¬objective.Better (objective.value τ) (objective.value σ)
  least : ∀ τ, problem.Feasible τ → objective.value τ = objective.value σ →
    ¬problem.choice τ < problem.choice σ

/-- The statuses that meet a claim: a decision either way, or a positive optimization result of at
least the strength asked for. -/
inductive Meets : SolverRequiredClaim → SolverResultStatus → Prop
  | satisfiable : Meets .decision .satisfiable
  | unsatisfiable : Meets .decision .unsatisfiable
  | feasible : Meets .feasible .feasible
  | bounded {claim : SolverRequiredClaim} (weaker : claim = .feasible ∨ claim = .bounded) :
      Meets claim .bounded
  | optimal {claim : SolverRequiredClaim} (weaker : claim ≠ .decision) : Meets claim .optimal

theorem claimAllows_iff {claim : SolverRequiredClaim} {status : SolverResultStatus} :
    claimAllows claim status = true ↔ Meets claim status := by
  constructor
  · intro h
    cases claim <;> cases status <;> first | exact absurd h (by decide) | constructor <;> simp
  · intro h
    cases h with
    | satisfiable => rfl
    | unsatisfiable => rfl
    | feasible => rfl
    | bounded weaker => rcases weaker with rfl | rfl <;> rfl
    | @optimal claim weaker => cases claim <;> first | rfl | exact absurd rfl weaker

/-- What a verified result has to be true of. -/
structure Sound (request : SolverRequest) (result : SolverResult)
    (verification : SolverVerification) : Prop where
  positive : result.status = .satisfiable ∨ result.status = .feasible →
    ∃ σ, Witnessed request.problem result σ
  negative : result.status = .unsatisfiable ∨ result.status = .infeasible →
    ∀ σ, ¬request.problem.Feasible σ
  optimal : result.status = .optimal → ∃ objective σ,
    request.problem.objective = some objective ∧ Witnessed request.problem result σ ∧
      Optimal request.problem objective σ
  bounded : result.status = .bounded → ∃ objective σ interval,
    request.problem.objective = some objective ∧ Witnessed request.problem result σ ∧
      result.objectiveInterval = some interval ∧ ∀ τ, request.problem.Feasible τ →
        ¬objective.Better (objective.value σ) (objective.value τ) →
          interval.lower ≤ objective.value τ ∧ objective.value τ ≤ interval.upper
  adoption : verification.adoptionAllowed = true → Meets request.requiredClaim result.status

/-! ## Bounds of an objective -/

theorem domain?_of_mem (h : problem.WellFormed) {v : SolverVariable} (hv : v ∈ problem.vars) :
    problem.domain? v.variableId = some v.domain.values := by
  have hfind : problem.vars.find? (fun w => decide (w.variableId = v.variableId)) = some v := by
    rw [List.find?_eq_some_iff_append]
    refine ⟨by simp, ?_⟩
    obtain ⟨pre, post, hsplit⟩ := List.append_of_mem hv
    refine ⟨pre, post, hsplit, fun w hw => ?_⟩
    have hids := h.nodup
    rw [SolverProblem.variableIds, hsplit, List.map_append, List.map_cons] at hids
    have hne : w.variableId ≠ v.variableId := fun heq =>
      (List.nodup_append.mp hids).2.2 _ (List.mem_map_of_mem hw) _ List.mem_cons_self heq
    simpa using hne
  rw [SolverProblem.domain?, hfind, Option.map_some]

/-- The bounds of the terms of an objective hold for every valuation within the domains. -/
theorem boundTerm_bounds (hwf : problem.WellFormed)
    (hdomains : ∀ v ∈ problem.vars, σ v.variableId ∈ v.domain.values) {terms : List LinearTerm}
    (hknown : ∀ term ∈ terms, term.variableId ∈ problem.variableIds)
    {bounds bounds' : ObjectiveInterval} {first : Int} (hlower : bounds.lower ≤ first)
    (hupper : first ≤ bounds.upper) (h : foldE (boundTerm problem) bounds terms = .ok bounds') :
    bounds'.lower ≤ linearValue σ first terms ∧ linearValue σ first terms ≤ bounds'.upper := by
  induction terms generalizing bounds first with
  | nil =>
    simp only [foldE_nil, Except.ok.injEq] at h
    rw [← h]
    simpa [linearValue] using ⟨hlower, hupper⟩
  | cons term terms ih =>
    simp only [foldE_cons, boundTerm, bind_eq_ok, fromOption_eq_ok, pure_eq_ok] at h
    obtain ⟨next, ⟨domain, hdomain, least, hleast, greatest, hgreatest, rfl⟩, h⟩ := h
    obtain ⟨v, hv, hid⟩ := List.mem_map.mp (hknown term List.mem_cons_self)
    rw [← hid, domain?_of_mem hwf hv, Option.some.injEq] at hdomain
    have hmem : term.coefficient * σ term.variableId ∈ domain.map (term.coefficient * ·) := by
      rw [← hdomain, ← hid]
      exact List.mem_map_of_mem (hdomains v hv)
    have hle := (List.min?_eq_some_iff.mp hleast).2 _ hmem
    have hge := (List.max?_eq_some_iff.mp hgreatest).2 _ hmem
    have hcomm : σ term.variableId * term.coefficient = term.coefficient * σ term.variableId :=
      mul_comm _ _
    have hnext := @ih (fun t ht => hknown t (List.mem_cons_of_mem _ ht))
      ⟨bounds.lower + least, bounds.upper + greatest⟩
      (first + σ term.variableId * term.coefficient) (by simp only; omega)
      (by simp only; omega) h
    rwa [← linearValue_cons] at hnext

theorem objectiveDomainBounds_bounds (hwf : problem.WellFormed)
    (hdomains : ∀ v ∈ problem.vars, σ v.variableId ∈ v.domain.values)
    {objective : SolverObjective} (hobjective : problem.objective = some objective)
    {bounds : ObjectiveInterval} (h : objectiveDomainBounds problem objective = .ok bounds) :
    bounds.lower ≤ objective.value σ ∧ objective.value σ ≤ bounds.upper :=
  boundTerm_bounds hwf hdomains (hwf.terms objective hobjective) le_rfl le_rfl h

/-! ## What a verified outcome rests on -/

/-- What a replay found that covers a whole result. -/
structure CompleteReplay (request : SolverRequest) (result : SolverResult) (verdict : ReplayVerdict)
    (early : Option Nat) (expected : Expected) : Prop where
  visited : result.resources.visitedAssignments ≤ searchSpaceSize request.problem
  ended : early = none ∧ request.ClearAt result.resources.visitedAssignments ∨
    early = some result.resources.visitedAssignments ∧
      request.Hit result.resources.visitedAssignments
  expects : expectedEnd request result.resources
    (request.seenAt result.resources.visitedAssignments) early = .ok (some expected)
  checks : verdict.checks =
    expected.compare request result (request.seenAt result.resources.visitedAssignments)

/-- A complete replay with sound accounting went through the whole result, unless the adapter failed
in a controlled way. -/
theorem completeReplay_of_verdict (hwf : request.problem.WellFormed)
    (href : adapter.adapterKind = .reference) {maxVerificationSteps size : Nat}
    {verdict : ReplayVerdict} (h : resourceReplayMatches request result adapter lease
      maxVerificationSteps size = .ok verdict) (hresource : verdict.checks.resource = true)
    (hcomplete : verdict.complete = true)
    (hstatus : result.status ≠ .error)
    (hproof : verdict.checks.proof = true) :
    ∃ early expected, CompleteReplay request result verdict early expected := by
  have hkind : adapter.adapterKind ≠ .externalCli := by simp [href]
  unfold resourceReplayMatches at h
  dsimp only at h
  split at h
  · cases h
    cases hresource
  split at h
  · cases h
    simp only [unusedVerdict, Bool.and_eq_true, decide_eq_true_eq] at hproof
    exact absurd hproof.1.1 hstatus
  split at h
  · cases h
    cases hresource
  next hspace =>
  obtain ⟨search, early, hreplay, hended⟩ := replay_eq_ok hwf
    (min result.resources.visitedAssignments maxVerificationSteps)
  simp only [hreplay, bind_eq_ok, Except.ok.injEq, exists_eq_left'] at h
  split at h
  · cases h
    cases hresource
  split at h
  · cases h
    cases hresource
  next hearly =>
  split at h
  · cases h
    cases hcomplete
  next htarget =>
  split at h
  · cases h
    cases hresource
  simp only [bind_eq_ok] at h
  obtain ⟨expected, hexpected, h⟩ := h
  cases expected with
  | none =>
    cases h
    cases hresource
  | some expected =>
    cases h
    have hvisited : result.resources.visitedAssignments ≤ searchSpaceSize request.problem := by
      omega
    have htarget' : min result.resources.visitedAssignments maxVerificationSteps =
        result.resources.visitedAssignments := by omega
    rw [htarget'] at hended
    cases hended with
    | @stopped n hit hle =>
      have hn : n = result.resources.visitedAssignments := by simpa using hearly
      subst hn
      exact ⟨_, expected, hvisited, .inr ⟨rfl, hit⟩, hexpected, rfl⟩
    | @finished n heq hclear =>
      have hn : n = result.resources.visitedAssignments := by omega
      subst hn
      exact ⟨_, expected, hvisited, .inl ⟨rfl, hclear⟩, hexpected, rfl⟩

/-- The best assignment of a replay, as a valuation with its witness. -/
theorem witnessed_of_best (hwf : request.problem.WellFormed) {n : Nat} {assignment : List Int}
    (hbest : request.best (request.problem.assignments.take n) = some assignment)
    (hwitness : result.witness =
      witnessOf request.problem.variableIds (request.seenAt n).bestAssignment)
    (hobjective : result.objectiveValue = (request.seenAt n).bestObjective) :
    Witnessed request.problem result (request.problem.valuation assignment) := by
  obtain ⟨hmem, hadmits, _⟩ := best_eq_some hbest
  have hall := List.mem_of_mem_take hmem
  have hseen : (request.seenAt n).bestAssignment = some assignment := hbest
  refine ⟨hadmits, ?_, ?_⟩
  · rw [hwitness, hseen, witnessOf, Option.map_some, hwf.zip_assignment hall]
  · rw [hobjective, seenAt, seen, hbest, Option.bind_some, objectiveAt]

/-- A valuation of the least rank is optimal. -/
theorem optimal_of_best (hwf : request.problem.WellFormed) {objective : SolverObjective}
    (hobjective : request.problem.objective = some objective) {assignment : List Int}
    (hbest : request.best request.problem.assignments = some assignment) :
    Optimal request.problem objective (request.problem.valuation assignment) := by
  obtain ⟨hmem, _, hleast⟩ := best_eq_some hbest
  have hrank : ∀ τ, request.problem.Feasible τ →
      request.cost assignment < request.cost (request.problem.choice τ) ∨
        request.cost assignment = request.cost (request.problem.choice τ) ∧
          assignment ≤ request.problem.choice τ := by
    intro τ hτ
    have hle := hleast _ hτ.choice_mem (hwf.feasible_choice hτ)
    rwa [rankKey_le] at hle
  have hvalue : ∀ τ, objective.value (request.problem.valuation (request.problem.choice τ)) =
      objective.value τ := fun τ => hwf.value_choice hobjective
  refine ⟨fun τ hτ => ?_, fun τ hτ heq => ?_⟩
  · have hτ := hrank τ hτ
    simp only [cost, hobjective, hvalue] at hτ
    unfold SolverObjective.Better
    cases hdirection : objective.direction with
    | minimize =>
      simp only [hdirection] at hτ
      omega
    | maximize =>
      simp only [hdirection] at hτ
      omega
  · have hτ := hrank τ hτ
    simp only [cost, hobjective, hvalue, heq, lt_irrefl, false_or] at hτ
    rw [hwf.choice_valuation hmem]
    exact not_lt.mpr hτ.2

/-- A result that its complete replay agrees with is true. -/
theorem sound_of_replay (hwf : request.problem.WellFormed) {verdict : ReplayVerdict}
    {early : Option Nat} {expected : Expected} {verification : SolverVerification}
    (h : CompleteReplay request result verdict early expected)
    (hwitness : verdict.checks.witness = true) (hobjective : verdict.checks.objective = true)
    (hproof : verdict.checks.proof = true)
    (hadoption : verification.adoptionAllowed = true → Meets request.requiredClaim result.status) :
    Sound request result verification := by
  rw [h.checks] at hwitness hobjective hproof
  simp only [Expected.compare, decide_eq_true_eq, Bool.and_eq_true] at hwitness hobjective hproof
  obtain ⟨hvalue, hinterval⟩ := hobjective
  obtain ⟨⟨hstatus, _⟩, _⟩ := hproof
  have hexpects := h.expects
  have hwitnessed : ∀ assignment, request.best (request.problem.assignments.take
      result.resources.visitedAssignments) = some assignment →
      Witnessed request.problem result (request.problem.valuation assignment) :=
    fun assignment hbest => witnessed_of_best hwf hbest hwitness hvalue
  have hnone : (∀ a ∈ request.problem.assignments, ¬request.Admits a) →
      ∀ σ, ¬request.problem.Feasible σ :=
    fun hall σ hσ => hall _ hσ.choice_mem (hwf.feasible_choice hσ)
  have hwhole : result.resources.visitedAssignments = searchSpaceSize request.problem →
      request.problem.assignments.take result.resources.visitedAssignments =
        request.problem.assignments := by
    intro heq
    rw [heq, ← SolverProblem.length_assignments, List.take_length]
  unfold expectedEnd at hexpects
  dsimp only at hexpects
  -- The termination decides what the replay expects; every status other than that one is absurd.
  cases hreason : result.resources.terminationReason with
  | witnessFound =>
    simp only [hreason] at hexpects
    split at hexpects
    · cases hexpects
    next hearly =>
    cases hexpects
    have hhit := (h.ended.resolve_left fun hended => hearly hended.1).2
    obtain ⟨assignment, _, _, hbest⟩ := hhit.best_eq
    refine ⟨fun _ => ⟨_, hwitnessed assignment hbest⟩, ?_, ?_, ?_, hadoption⟩
    all_goals
      intro hother
      rw [hstatus] at hother
      split at hother <;> simp at hother
  | searchExhausted =>
    simp only [hreason] at hexpects
    split at hexpects
    · cases hexpects
    next hguard =>
    simp only [ne_eq, not_or, not_not] at hguard
    obtain ⟨hvisited, hearly⟩ := hguard
    have hclear : request.Clear request.problem.assignments := by
      have hended := h.ended.resolve_right fun hended => by simp [hearly] at hended
      rw [← hwhole hvisited]
      exact hended.2
    split at hexpects
    · next hobjective =>
      cases hexpects
      refine ⟨?_, fun _ => hnone (hclear (.inl hobjective)), ?_, ?_, hadoption⟩
      all_goals
        intro hother
        simp [hstatus] at hother
    · next hobjective =>
      split at hexpects
      · next hbest =>
        cases hexpects
        have hnever : request.best request.problem.assignments = none := by
          rwa [seenAt, hwhole hvisited] at hbest
        refine ⟨?_, fun _ => hnone (best_eq_none.mp hnever), ?_, ?_, hadoption⟩
        all_goals
          intro hother
          simp [hstatus] at hother
      · next hbest =>
        simp only [bind_eq_ok, pure_eq_ok, Option.some.injEq] at hexpects
        obtain ⟨best, _, rfl⟩ := hexpects
        obtain ⟨assignment, hassignment⟩ := Option.ne_none_iff_exists'.mp hbest
        obtain ⟨objective, hsome⟩ := Option.ne_none_iff_exists'.mp hobjective
        have hbest' : request.best (request.problem.assignments.take
            result.resources.visitedAssignments) = some assignment := hassignment
        refine ⟨?_, ?_, fun _ => ⟨objective, _, hsome, hwitnessed assignment hbest',
          optimal_of_best hwf hsome (hwhole hvisited ▸ hbest')⟩, ?_, hadoption⟩
        all_goals
          intro hother
          simp [hstatus] at hother
  | stepLimit =>
    simp only [hreason] at hexpects
    split at hexpects
    · cases hexpects
    split at hexpects
    · next objective assignment hsome hassignment =>
      simp only [bind_eq_ok, fromOption_eq_ok, pure_eq_ok, Option.some.injEq] at hexpects
      obtain ⟨best, hbestValue, bounds, hbounds, rfl⟩ := hexpects
      have hbest : request.best (request.problem.assignments.take
          result.resources.visitedAssignments) = some assignment := hassignment
      have hvalued : best = objective.value (request.problem.valuation assignment) := by
        rw [seenAt, seen, hbest, Option.bind_some, objectiveAt, hsome, Option.map_some,
          Option.some.injEq] at hbestValue
        exact hbestValue.symm
      refine ⟨?_, ?_, ?_, fun _ => ⟨objective, _, _, hsome, hwitnessed assignment hbest, hinterval,
        fun τ hτ hgood => ?_⟩, hadoption⟩
      all_goals try
        intro hother
        simp [hstatus] at hother
      have hrange := objectiveDomainBounds_bounds hwf hτ.domains hsome hbounds
      unfold SolverObjective.Better at hgood
      cases hdirection : objective.direction with
      | minimize =>
        simp only [hdirection, not_lt] at hgood
        simp only [boundedInterval]
        exact ⟨hrange.1, by omega⟩
      | maximize =>
        simp only [hdirection, not_lt] at hgood
        simp only [boundedInterval]
        exact ⟨by omega, hrange.2⟩
    · cases hexpects
      refine ⟨?_, ?_, ?_, ?_, hadoption⟩
      all_goals
        intro hother
        simp [hstatus] at hother
  | requestTimeout =>
    simp only [hreason] at hexpects
    split at hexpects
    · cases hexpects
    split at hexpects
    · cases hexpects
    · cases hexpects
      refine ⟨?_, ?_, ?_, ?_, hadoption⟩
      all_goals
        intro hother
        simp [hstatus] at hother
  | leaseDeadline =>
    simp only [hreason] at hexpects
    split at hexpects
    · cases hexpects
    · cases hexpects
      refine ⟨?_, ?_, ?_, ?_, hadoption⟩
      all_goals
        intro hother
        simp [hstatus] at hother
  | adapterUnavailable =>
    simp [hreason] at hexpects
  | adapterError =>
    simp [hreason] at hexpects

/-! ## Soundness -/

/-- What a verified outcome says about the verdict behind it. -/
structure VerifiedBy (request : SolverRequest) (result : SolverResult)
    (adapter : SolverAdapterDefinition) (lease : SolverLeaseEvidence) (size : Nat)
    (verification : SolverVerification) (verdict : ReplayVerdict) : Prop where
  replay : resourceReplayMatches request result adapter lease
    request.resourcePolicy.maxVerificationSteps size = .ok verdict
  checks : verdict.checks = {}
  complete : verdict.complete = true
  status : ¬result.status.incomplete = true
  adoption : verification.adoptionAllowed = claimAllows request.requiredClaim result.status

theorem verifiedBy_of_ok {S : SolverSurroundings} {request : LoadedSolverArtifact SolverRequest}
    {result : LoadedSolverArtifact SolverResult}
    {requestReference resultReference : ArtifactReference} {size : Nat}
    {verification : LoadedSolverArtifact SolverVerification}
    (h : verifyLoadedSolverResult S request result requestReference resultReference adapter lease
      size = .ok verification) (hverified : verification.value.outcome = .verified) :
    ∃ verdict, VerifiedBy request.value result.value adapter lease size verification.value
      verdict := by
  simp only [verifyLoadedSolverResult, artifactFromValue, bind_eq_ok, exists_unit, pure_eq_ok] at h
  obtain ⟨verdict, hverdict, _, rfl⟩ := h
  simp only [verificationOutcome] at hverified
  split at hverified
  · cases hverified
  next hfailed =>
  split at hverified
  · cases hverified
  next hcomplete =>
  rw [not_or, not_not] at hcomplete
  rw [ne_eq, not_not, List.filter_eq_nil_iff] at hfailed
  have hwitness := hfailed ⟨"witness-feasibility", verdict.checks.witness⟩ (by simp)
  have hresource := hfailed ⟨"resource-accounting", verdict.checks.resource⟩ (by simp)
  have hproof := hfailed ⟨"proof-disposition", verdict.checks.proof⟩ (by simp)
  have hobjective := hfailed ⟨"objective-evidence", verdict.checks.objective⟩ (by simp)
  refine ⟨verdict, hverdict, ?_, hcomplete.2, hcomplete.1, ?_⟩
  · cases hchecks : verdict.checks with
    | mk resource witness objective proof =>
      simp only [hchecks, Bool.and_eq_true, Bool.not_eq_true', bne_iff_ne, ne_eq, not_and,
        not_not] at hwitness hresource hproof hobjective
      simp_all
  · simp [verificationOutcome, List.filter_eq_nil_iff.mpr hfailed, hcomplete]

/-- Every verified result of the reference adapter is true, whatever it claims. -/
theorem verified_sound (S : SolverSurroundings) {request : LoadedSolverArtifact SolverRequest}
    {result : LoadedSolverArtifact SolverResult}
    {requestReference resultReference : ArtifactReference} {size : Nat}
    {verification : LoadedSolverArtifact SolverVerification}
    (hrequest : requestContract S request.value = .ok ())
    (href : adapter.adapterKind = .reference)
    (h : verifyLoadedSolverResult S request result requestReference resultReference adapter lease
      size = .ok verification) (hverified : verification.value.outcome = .verified) :
    Sound request.value result.value verification.value := by
  simp only [requestContract, bind_eq_ok, exists_unit] at hrequest
  have hwf := (problemLaw_of_contract hrequest.2.2.2.2.1).wellFormed
  obtain ⟨verdict, hby⟩ := verifiedBy_of_ok h hverified
  have herror : result.value.status ≠ .error := by
    intro heq
    exact hby.status (by simp [SolverResultStatus.incomplete, heq])
  obtain ⟨early, expected, hreplay⟩ := completeReplay_of_verdict hwf href hby.replay
    (by rw [hby.checks]) hby.complete herror (by rw [hby.checks])
  refine sound_of_replay hwf hreplay (by rw [hby.checks]) (by rw [hby.checks]) (by rw [hby.checks])
    fun hadoption => ?_
  rw [hby.adoption] at hadoption
  exact claimAllows_iff.mp hadoption

/-! ## A capped variable -/

namespace Sample

/-- A digest of zeros. -/
def digest : String := String.ofList (List.replicate 64 '0')

def contractDigest : String := "21D267C9F7CDE6B1324704BC53AFB201A0BE2E8AE0B449881C0F0F8FDFFD3981"

def requestDigest : String := "AFA8A97D9265E3DCD511AB0A0397C46D8D757C91F0BC0E9EAEB37A7AF4075088"

def resultDigest : String := "89BB158FAA60F002D310104A2D5402D2BE5C25E0315AF5320FD7DC4B10D2CD6F"

theorem isDigest_digest : isDigest digest.toList = true :=
  isDigest_replicate (by decide)

/-- The marks and the digests of the identities of the sample. -/
theorem identities_valid :
    (isNativeMark requestMark.toList = true ∧ isDigest requestDigest.toList = true) ∧
      (isNativeMark resultMark.toList = true ∧ isDigest resultDigest.toList = true) ∧
      (isNativeMark contractMark.toList = true ∧ isDigest contractDigest.toList = true) ∧
      (isNativeMark "M6-TASK-GRAPH-".toList = true ∧ isNativeMark "CTX-SNAPSHOT-".toList = true ∧
        isNativeMark "M6-LEASE-".toList = true ∧ isNativeMark "IDEM-".toList = true ∧
        isNativeMark "M6-MESSAGE-".toList = true ∧ isNativeMark registryMark.toList = true) := by
  decide +kernel

theorem requestId_valid {field : String} :
    solverId field requestMark (requestMark ++ requestDigest) = .ok () :=
  solverId_of_digest identities_valid.1.1 identities_valid.1.2

theorem resultId_valid {field : String} :
    solverId field resultMark (resultMark ++ resultDigest) = .ok () :=
  solverId_of_digest identities_valid.2.1.1 identities_valid.2.1.2

/-- The identities of the artifacts of one solve, with safe paths. -/
def solverSurroundings : SolverSurroundings where
  safeRelativePath _ := true
  operationalContractId _ _ _ _ _ := contractMark ++ contractDigest
  requestId _ := requestMark ++ requestDigest
  resultId _ := resultMark ++ resultDigest
  verificationId _ :=
    "M7-SOLVER-VERIFICATION-8495D85D1E874EBFADD7F7A46ACA19623F0A7FAC2A4E857F92E3166884B8EB63"
  requestId_valid _ _ := requestId_valid
  resultId_valid _ _ := resultId_valid

/-- Maximize a variable of three values that is capped at one. -/
def cappedProblem : SolverProblem where
  problemKind := .optimization
  profile := .general
  vars := [⟨"X", .integerRange 0 2⟩]
  constraints := [.linear "CAP" [⟨"X", 1⟩] .le 1]
  objective := some ⟨.maximize, [⟨"X", 1⟩], 0⟩

def solverCandidate : CandidateIdentity where
  sourceSpecSha256 := digest
  gitHead := String.ofList (List.replicate 40 'a')
  repositoryDigest := digest

def graphId : String := "M6-TASK-GRAPH-" ++ digest

def contextSnapshotId : String := "CTX-SNAPSHOT-" ++ digest

def cappedRequest : LoadedSolverArtifact SolverRequest where
  artifactId := requestMark ++ requestDigest
  value :=
    { sensitivity := .isPublic
      registry := ⟨"registry.json", digest⟩
      registryId := registryMark ++ digest
      adapterId := referenceAdapterId
      contractId := contractMark ++ contractDigest
      taskGraph := ⟨"graph.json", digest⟩
      graphId := graphId
      taskId := "TSK-A"
      candidate := solverCandidate
      contextSnapshot := ⟨"context.json", digest⟩
      contextSnapshotId := contextSnapshotId
      problem := cappedProblem
      requiredClaim := .optimal
      resourcePolicy := ⟨5, 5, none, 65536⟩ }

def requestReference : ArtifactReference := ⟨"request.json", digest⟩

def resultReference : ArtifactReference := ⟨"result.json", digest⟩

def solverAdapter : SolverAdapterDefinition where
  adapterId := referenceAdapterId
  adapterKind := .reference
  version := "1.0.0"
  licenseExpression := "Apache-2.0"
  provenance := [⟨"adapter.md", digest⟩]

def solverLease : SolverLeaseEvidence where
  graphId := graphId
  taskId := "TSK-A"
  hostId := "HST-A"
  attempt := 1
  leaseId := "M6-LEASE-" ++ digest
  fence := 1
  idempotencyKey := "IDEM-" ++ digest
  dispatchMessageId := "M6-MESSAGE-" ++ digest
  expiresAt := 1000000
  reservedSolverCalls := 1
  reservedSolverSteps := 10

/-- The optimal result of the request, after all three values were tried. -/
def cappedResult : LoadedSolverArtifact SolverResult where
  artifactId := resultMark ++ resultDigest
  value :=
    { sensitivity := .isPublic
      request := requestReference
      requestId := requestMark ++ requestDigest
      contractId := contractMark ++ contractDigest
      candidate := solverCandidate
      graphId := graphId
      taskId := "TSK-A"
      contextSnapshotId := contextSnapshotId
      adapterId := referenceAdapterId
      adapterVersion := "1.0.0"
      licenseExpression := "Apache-2.0"
      provenance := [⟨"adapter.md", digest⟩]
      lease := solverLease
      status := .optimal
      witness := some ⟨[("X", 1)]⟩
      objectiveValue := some 1
      objectiveInterval := some ⟨1, 1⟩
      proofDisposition := .exhaustiveEnumeration
      resources := ⟨1, 3, 3, 3, 0, 3, 0, 5, none, .searchExhausted⟩
      diagnosticCode := none }

theorem sha256Text_digest {field : String} : sha256Text field digest = .ok () :=
  sha256Text_eq_ok.mpr isDigest_digest

theorem artifactReference_digest {field path : String} :
    artifactReference solverSurroundings field ⟨path, digest⟩ = .ok () := by
  simp only [artifactReference, bind_eq_ok, exists_unit, require_eq_ok]
  exact ⟨rfl, sha256Text_digest⟩

/-- The short texts of the sample and its problem. -/
theorem sample_accepted :
    commitText "" solverCandidate.gitHead = .ok () ∧
      patternId "" "TSK-" isLocalName "TSK-A" = .ok () ∧
      patternId "" "HST-" isLocalName "HST-A" = .ok () ∧
      slugText "content.adapter_id" referenceAdapterId = .ok () ∧
      problemContract cappedProblem = .ok () ∧
      resourcePolicyContract cappedRequest.value.resourcePolicy = .ok () := by
  decide

theorem solverCandidate_valid {field : String} :
    candidateIdentity field solverCandidate = .ok () := by
  simp only [candidateIdentity, bind_eq_ok, exists_unit]
  exact ⟨patternText_field sample_accepted.1, sha256Text_digest, sha256Text_digest⟩

theorem graphId_valid {field : String} :
    patternId field "M6-TASK-GRAPH-" isDigest graphId = .ok () :=
  patternId_of_digest identities_valid.2.2.2.1 isDigest_digest (by decide)

theorem taskAuthority_valid : taskAuthority graphId "TSK-A" contextSnapshotId = .ok () := by
  simp only [taskAuthority, bind_eq_ok, exists_unit]
  exact ⟨graphId_valid, patternText_field sample_accepted.2.1,
    patternId_of_digest identities_valid.2.2.2.2.1 isDigest_digest (by decide)⟩

theorem solverLease_contract : leaseContract solverLease = .ok () := by
  obtain ⟨-, -, -, -, -, hlease, hkey, hmessage, -⟩ := identities_valid
  simp only [leaseContract, bind_eq_ok, exists_unit]
  exact ⟨graphId_valid, patternText_field sample_accepted.2.1,
    patternText_field sample_accepted.2.2.1, by decide,
    patternId_of_digest hlease isDigest_digest (by decide), by decide,
    patternId_of_digest hkey isDigest_digest (by decide),
    patternId_of_digest hmessage isDigest_digest (by decide), by decide, by decide⟩

theorem contractId_valid {field : String} :
    solverId field contractMark (contractMark ++ contractDigest) = .ok () :=
  solverId_of_digest identities_valid.2.2.1.1 identities_valid.2.2.1.2

theorem cappedRequest_contract :
    requestContract solverSurroundings cappedRequest.value = .ok () := by
  obtain ⟨-, -, -, hadapter, hproblem, hpolicy⟩ := sample_accepted
  simp only [requestContract, bind_eq_ok, exists_unit, require_eq_ok]
  exact ⟨solverId_of_digest identities_valid.2.2.2.2.2.2.2.2 isDigest_digest, hadapter,
    contractId_valid, taskAuthority_valid, hproblem, by decide, hpolicy, artifactReference_digest,
    artifactReference_digest, solverCandidate_valid, artifactReference_digest, rfl⟩

def cappedChecks : List SolverVerificationCheck :=
  [⟨"adapter-provenance", true⟩, ⟨"identity-bindings", true⟩, ⟨"lease-authority", true⟩,
    ⟨"objective-evidence", true⟩, ⟨"proof-disposition", true⟩, ⟨"required-claim", true⟩,
    ⟨"resource-accounting", true⟩, ⟨"witness-feasibility", true⟩]

/-- The verification of the optimal result. -/
def cappedVerification : SolverVerification where
  sensitivity := .isPublic
  request := requestReference
  requestId := requestMark ++ requestDigest
  result := resultReference
  resultId := resultMark ++ resultDigest
  contractId := contractMark ++ contractDigest
  candidate := solverCandidate
  graphId := graphId
  taskId := "TSK-A"
  contextSnapshotId := contextSnapshotId
  lease := solverLease
  outcome := .verified
  adoptionAllowed := true
  checks := cappedChecks
  reasons := []
  verificationSteps := 3

theorem cappedVerification_contract :
    verificationContract solverSurroundings cappedVerification = .ok () := by
  simp only [verificationContract, bind_eq_ok, exists_unit, require_eq_ok]
  exact ⟨by decide, by decide, by decide, by decide, by decide, by decide, by decide,
    fun _ => ⟨rfl, by decide⟩, artifactReference_digest, requestId_valid, artifactReference_digest,
    resultId_valid, contractId_valid, solverCandidate_valid, taskAuthority_valid,
    solverLease_contract, by decide⟩

theorem cappedResult_verified :
    verifyLoadedSolverResult solverSurroundings cappedRequest cappedResult requestReference
      resultReference solverAdapter solverLease 2000 =
      .ok ⟨solverSurroundings.verificationId cappedVerification, cappedVerification⟩ := by
  have hverdict : resourceReplayMatches cappedRequest.value cappedResult.value solverAdapter
      solverLease 5 2000 = .ok ⟨{}, true, 3⟩ := by
    decide
  have hauthority : leaseAuthority cappedRequest.value cappedResult.value solverLease = true := by
    simp [leaseAuthority, cappedRequest, cappedResult, solverLease]
  have hbindings : identityBindings cappedRequest cappedResult.value requestReference = true := by
    simp [identityBindings, cappedRequest, cappedResult]
  have hprovenance : adapterProvenance cappedResult.value solverAdapter = true := by
    simp [adapterProvenance, cappedResult, solverAdapter]
  have hclaim : claimAllows cappedRequest.value.requiredClaim cappedResult.value.status = true :=
    rfl
  have houtcome : verificationOutcome cappedChecks true true cappedResult.value.status =
      (.verified, []) := by
    decide
  have hsteps : cappedRequest.value.resourcePolicy.maxVerificationSteps = 5 := rfl
  simp only [verifyLoadedSolverResult, hsteps, hverdict, hauthority, hbindings, hprovenance, hclaim,
    bind_eq_ok, Except.ok.injEq, exists_eq_left', artifactFromValue, exists_unit, pure_eq_ok]
  rw [← cappedChecks, houtcome]
  exact ⟨cappedVerification_contract, rfl⟩

end Sample

theorem verified_sound_capped :
    Sound Sample.cappedRequest.value Sample.cappedResult.value Sample.cappedVerification :=
  verified_sound Sample.solverSurroundings Sample.cappedRequest_contract rfl
    Sample.cappedResult_verified rfl

end Sdaqf
