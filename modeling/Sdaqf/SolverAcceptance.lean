import Sdaqf.SolverConclusions

/-!
# Acceptance of honest solver results

A solve of an accepted request always returns a result, and the verifier never rejects it. A replay
within the verification budget arrives at the conclusion of the search; a shorter budget leaves the
result inconclusive, and so does an adapter that is not run.
-/

namespace Sdaqf

open Guard SolverRequest

/-! ## The result -/

variable {clock : SolverClock} {last : SearchEnd} {n : Nat} {reason : SolverTerminationReason}
variable {expected : Expected}
variable {S : SolverSurroundings} {loaded : LoadedSolverArtifact SolverRequest}
variable {requestReference resultReference : ArtifactReference}
variable {adapter : SolverAdapterDefinition} {lease : SolverLeaseEvidence}

/-- The inputs of an honest solve: a request that its contract accepted, the adapter it names, the
lease that reserved its steps, and a clock that never goes back. -/
structure HonestSolve (S : SolverSurroundings) (loaded : LoadedSolverArtifact SolverRequest)
    (requestReference : ArtifactReference) (adapter : SolverAdapterDefinition)
    (lease : SolverLeaseEvidence) (clock : SolverClock) : Prop where
  request_ok : requestContract S loaded.value = .ok ()
  requestId_eq : loaded.artifactId = S.requestId loaded.value
  reference_ok : artifactReference S "content.request" requestReference = .ok ()
  adapter_ok : adapterContract S adapter = .ok ()
  adapterId_eq : loaded.value.adapterId = adapter.adapterId
  lease_ok : leaseContract lease = .ok ()
  graphId_eq : lease.graphId = loaded.value.graphId
  taskId_eq : lease.taskId = loaded.value.taskId
  steps_eq : lease.reservedSolverSteps = loaded.value.resourcePolicy.maxSolveSteps +
    loaded.value.resourcePolicy.maxVerificationSteps
  nondecreasing : clock.Nondecreasing

namespace HonestSolve

variable (h : HonestSolve S loaded requestReference adapter lease clock)

include h

theorem problemLaw : ProblemLaw loaded.value.problem := by
  have hrequest := h.request_ok
  simp only [requestContract, bind_eq_ok, exists_unit] at hrequest
  exact problemLaw_of_contract hrequest.2.2.2.2.1

theorem policy : resourcePolicyContract loaded.value.resourcePolicy = .ok () := by
  have hrequest := h.request_ok
  simp only [requestContract, bind_eq_ok, exists_unit] at hrequest
  exact hrequest.2.2.2.2.2.2.1

theorem solverCalls : lease.reservedSolverCalls = 1 := by
  have hlease := h.lease_ok
  simp only [leaseContract, bind_eq_ok, exists_unit, integerValue_eq_ok] at hlease
  omega

/-- The timeout of a request is within the largest elapsed time a result reports. -/
theorem timeout_le {timeout : Nat}
    (htimeout : loaded.value.resourcePolicy.timeoutMilliseconds = some timeout) :
    timeout ≤ maxTimeoutMilliseconds := by
  have hpolicy := h.policy
  simp only [resourcePolicyContract, bind_eq_ok, exists_unit, integerValue_eq_ok, forEach_eq_ok,
    Option.mem_toList] at hpolicy
  have hrange := hpolicy.2.2.2.1 timeout htimeout
  omega

theorem maxSolveSteps_ne_zero : loaded.value.resourcePolicy.maxSolveSteps ≠ 0 := by
  have hpolicy := h.policy
  simp only [resourcePolicyContract, bind_eq_ok, exists_unit, integerValue_eq_ok] at hpolicy
  omega

end HonestSolve

/-- A result names what it was solved for. -/
structure Bound (loaded : LoadedSolverArtifact SolverRequest)
    (requestReference : ArtifactReference) (adapter : SolverAdapterDefinition)
    (lease : SolverLeaseEvidence) (result : SolverResult) : Prop where
  bindings : identityBindings loaded result requestReference = true
  lease_eq : result.lease = lease
  provenance : adapterProvenance result adapter = true

/-- What the contract of results says about the evidence alone. -/
structure Evident (result : SolverResult) : Prop where
  witness : ∀ witness, result.witness = some witness → witnessContract witness = .ok ()
  objective : ∀ value, result.objectiveValue = some value → InObjectives value
  interval : ∀ interval, result.objectiveInterval = some interval →
    intervalContract interval = .ok ()
  diagnostic : ∀ code ∈ result.diagnosticCode, code ∈ diagnosticCodes
  resources : resourcesContract result.resources = .ok ()
  shape : validateResultShape result.status result.witness result.objectiveValue
    result.objectiveInterval result.proofDisposition result.diagnosticCode result.resources = .ok ()

/-- The contract of results accepts evidence that is bound to its inputs. -/
theorem Bound.resultContract (h : HonestSolve S loaded requestReference adapter lease clock)
    {result : SolverResult} (hbound : Bound loaded requestReference adapter lease result)
    (hevident : Evident result) : Sdaqf.resultContract S result = .ok () := by
  have hrequest := h.request_ok
  simp only [requestContract, bind_eq_ok, exists_unit] at hrequest
  obtain ⟨_, _, hcontractId, htask, _, _, _, _, _, hcandidate, _⟩ := hrequest
  have hadapter := h.adapter_ok
  simp only [adapterContract, bind_eq_ok, exists_unit] at hadapter
  obtain ⟨hslug, hversion, hlicense, hprovenance, _⟩ := hadapter
  obtain ⟨hbindings, hlease, hnamed⟩ := hbound
  simp only [identityBindings, Bool.and_eq_true, decide_eq_true_eq] at hbindings
  obtain ⟨⟨⟨⟨⟨⟨⟨⟨hreference, hid⟩, hcontract⟩, hcandidate'⟩, hgraph⟩, htask'⟩, hsnapshot⟩, _⟩, _⟩ :=
    hbindings
  simp only [adapterProvenance, Bool.and_eq_true, decide_eq_true_eq] at hnamed
  obtain ⟨⟨⟨hadapterId, hversion'⟩, hlicense'⟩, hprovenance'⟩ := hnamed
  simp only [Sdaqf.resultContract, bind_eq_ok, exists_unit, forEach_eq_ok, Option.mem_toList,
    require_eq_ok]
  rw [hreference, hid, hcontract, hcandidate', hgraph, htask', hsnapshot, hadapterId, hversion',
    hlicense', hprovenance', hlease, h.requestId_eq]
  exact ⟨hevident.witness, fun value hvalue => objectiveBound_eq_ok.mpr (hevident.objective value
    hvalue), hevident.interval, hevident.diagnostic, hevident.resources, hevident.shape,
    patternText_field hversion, patternText_field hlicense, h.reference_ok, S.requestId_valid _ _,
    hcontractId, hcandidate, htask, patternText_field hslug, references_field hprovenance,
    h.lease_ok⟩

/-- The result of a solve that ran, with the accounting it rests on. -/
structure Solved (request : SolverRequest) (n : Nat) (reason : SolverTerminationReason)
    (expected : Expected) (result : SolverResult) : Prop where
  concludes : Concludes request n reason expected
  accounts : Accounts request n reason result.resources
  le_limit : n ≤ request.resourcePolicy.maxSolveSteps
  le_space : n ≤ searchSpaceSize request.problem
  status : result.status = expected.status
  proof : result.proofDisposition = expected.proof
  diagnostic : result.diagnosticCode = expected.diagnostic
  interval : result.objectiveInterval = expected.interval
  witness : result.witness =
    witnessOf request.problem.variableIds (request.seenAt n).bestAssignment
  objective : result.objectiveValue = (request.seenAt n).bestObjective

/-- The evidence of a solve that ran meets the contract of results. -/
theorem Solved.evident {result : SolverResult}
    (h : HonestSolve S loaded requestReference adapter lease clock)
    (hs : Solved loaded.value n reason expected result) : Evident result := by
  have hlaw := h.problemLaw
  refine ⟨fun witness hwitness => ?_, fun value hvalue => ?_, fun interval hinterval => ?_, ?_,
    hs.accounts.contract hlaw h.policy hs.le_limit hs.le_space, ?_⟩
  · rw [hs.witness, witnessOf, Option.map_eq_some_iff] at hwitness
    obtain ⟨a, ha, rfl⟩ := hwitness
    exact witnessContract_eq_ok hlaw (seenAt_best ha).1
  · rw [hs.objective] at hvalue
    obtain ⟨a, _, hadmits, hat⟩ := seenAt_best_of_value hvalue
    obtain ⟨objective, hobjective, rfl⟩ := Option.map_eq_some_iff.mp hat
    obtain ⟨bounds, _, hlower, hle, hge, hupper⟩ := value_bounds hlaw hobjective hadmits
    exact ⟨hlower.trans hle, hge.trans hupper⟩
  · rw [hs.interval] at hinterval
    exact hs.concludes.intervalContract hlaw hinterval
  · rw [hs.diagnostic]
    exact hs.concludes.diagnosticCode
  · rw [hs.status, hs.witness, hs.objective, hs.interval, hs.proof, hs.diagnostic]
    exact hs.concludes.shape hlaw.wellFormed h.maxSolveSteps_ne_zero hs.accounts

/-- A solve that ran reports the end of its search. -/
theorem solved_of_ended {startMs : Int}
    (h : HonestSolve S loaded requestReference adapter lease clock)
    (hended : Ended loaded.value clock (loaded.value.resourcePolicy.timeoutMilliseconds.map
      fun timeout : Nat => startMs + (timeout : Int)) n last)
    (hconcludes : Concludes loaded.value n last.termination expected) :
    Solved loaded.value n last.termination expected
      (solvedResult loaded requestReference adapter lease last
        (if last.termination.timed then
          (clock.monotonicMilliseconds last.reading - startMs).toNat else 0)
        (expected.status, expected.proof, expected.diagnostic) expected.interval) := by
  have hsearch := hended.search
  have hvisited := seenAt_visited hended.le_space
  refine ⟨hconcludes, ⟨rfl, rfl, ?_, rfl, ?_, ?_, ?_, rfl, rfl, Nat.min_le_right _ _,
    fun huntimed => ?_, fun hreason => ?_⟩, hended.le_limit, hended.le_space, rfl, rfl, rfl, rfl,
    ?_, ?_⟩
  · rw [solvedResult, hsearch, hvisited]
  · rw [solvedResult, hsearch, hvisited]
  · rw [solvedResult, hsearch, hvisited]
  · rw [solvedResult, hsearch]
  · simp [solvedResult, huntimed]
  · obtain ⟨timeout, htimeout, hle⟩ := hended.elapsed h.nondecreasing hreason
    refine ⟨timeout, htimeout, ?_⟩
    simp only [solvedResult, hreason, SolverTerminationReason.timed]
    exact Nat.le_min.mpr ⟨hle, h.timeout_le htimeout⟩
  · rw [solvedResult, hsearch]
  · rw [solvedResult, hsearch]

/-- An honest solve of the reference adapter returns the conclusion of its search. -/
theorem solve_eq_ok (h : HonestSolve S loaded requestReference adapter lease clock)
    (href : adapter.adapterKind = .reference) :
    ∃ result n reason expected,
      solve S clock loaded requestReference adapter lease = .ok ⟨S.resultId result, result⟩ ∧
      Bound loaded requestReference adapter lease result ∧
      Solved loaded.value n reason expected result := by
  have hlaw := h.problemLaw
  obtain ⟨n, last, hloop, hended⟩ := search_eq_ok hlaw.wellFormed clock
    (loaded.value.resourcePolicy.timeoutMilliseconds.map
      fun timeout : Nat => clock.monotonicMilliseconds 0 + (timeout : Int)) lease.expiresAt 1
  obtain ⟨expected, hconcludes⟩ := hended.concludes hlaw
  have hdisposition := hconcludes.disposition
  have hinterval := hconcludes.interval
  rw [← hended.search] at hdisposition hinterval
  have hadapterId : adapter.adapterId = referenceAdapterId := by
    have hadapter := h.adapter_ok
    simp only [adapterContract, bind_eq_ok, exists_unit, require_eq_ok] at hadapter
    exact hadapter.2.2.2.2.1 href
  have hsolved := solved_of_ended h hended hconcludes
  have hbound : Bound loaded requestReference adapter lease
      (solvedResult loaded requestReference adapter lease last
        (if last.termination.timed then (clock.monotonicMilliseconds last.reading -
          clock.monotonicMilliseconds 0).toNat else 0)
        (expected.status, expected.proof, expected.diagnostic) expected.interval) :=
    ⟨by simp [identityBindings, solvedResult, h.adapterId_eq], rfl,
      by simp [adapterProvenance, solvedResult]⟩
  refine ⟨_, n, last.termination, expected, ?_, hbound, hsolved⟩
  rw [solve, if_neg (by simp [href])]
  simp only [bind_eq_ok, exists_unit, require_eq_ok, artifactFromValue, pure_eq_ok]
  exact ⟨hadapterId, last, hloop, _, hdisposition, _, hinterval,
    hbound.resultContract h (hsolved.evident h), rfl⟩

/-! ## The verification -/

variable {target : Nat} {search : Search} {early : Option Nat}

theorem Concludes.ended (h : Concludes request n reason expected) :
    request.Hit n ∨ request.ClearAt n := by
  cases h with
  | satisfiable hit decision => exact .inl hit
  | feasible hit optimization => exact .inl hit
  | unsatisfiable whole clear decision => exact .inr clear
  | infeasible whole clear optimization best => exact .inr clear
  | optimal whole clear optimization best => exact .inr clear
  | bounded part clear limit optimization best bounds_eq => exact .inr clear
  | unknown part clear limit nothing => exact .inr clear
  | requestTimeout part clear => exact .inr clear
  | leaseDeadline part clear => exact .inr clear

/-- A replay that is given all the steps of a search ends where the search ended. -/
theorem Replayed.whole (h : Replayed request n search early)
    (hspace : n ≤ searchSpaceSize request.problem) (hended : request.Hit n ∨ request.ClearAt n) :
    search = request.seenAt n ∧
      (request.Hit n ∧ early = some n ∨ request.ClearAt n ∧ early = none) := by
  cases h with
  | @stopped m hit le =>
    rcases hended with hhit | hclear
    · have heq : m = n := hit.unique hhit
      subst heq
      exact ⟨rfl, .inl ⟨hit, rfl⟩⟩
    · exact absurd (hit.not_clearAt hclear) (Nat.not_lt.mpr le)
  | @finished m eq clear =>
    have heq : m = n := eq.trans (Nat.min_eq_left hspace)
    subst heq
    exact ⟨rfl, .inr ⟨clear, rfl⟩⟩

/-- A replay that is given fewer steps uses them all up. -/
theorem Replayed.part (h : Replayed request target search early) (hlt : target < n)
    (hspace : n ≤ searchSpaceSize request.problem) (hended : request.Hit n ∨ request.ClearAt n) :
    search = request.seenAt target ∧ early = none := by
  cases h with
  | @stopped m hit le =>
    rcases hended with hhit | hclear
    · have heq := hit.unique hhit
      omega
    · have hlt' := hit.not_clearAt hclear
      omega
  | @finished m eq clear =>
    have heq : m = target := eq.trans (Nat.min_eq_left (hlt.le.trans hspace))
    subst heq
    exact ⟨rfl, rfl⟩

variable {result : SolverResult} {size : Nat}

/-- The comparison with what the replay expects passes every check. -/
theorem Solved.compare {request : SolverRequest} (h : Solved request n reason expected result) :
    expected.compare request result (request.seenAt n) = {} := by
  have haccounts := h.accounts
  have htimed : (result.resources.terminationReason.timed ||
      decide (result.resources.elapsedMilliseconds = 0)) = true := by
    rw [haccounts.reason]
    cases htimed : reason.timed with
    | true => rfl
    | false => simp [haccounts.untimed htimed]
  rw [Expected.compare, htimed]
  simp [h.status, h.proof, h.diagnostic, h.interval, h.witness, h.objective]

/-- The replay of an honest result passes every check, and is complete when the verification
budget covers the search. -/
theorem Solved.verdict (hsolve : HonestSolve S loaded requestReference adapter lease clock)
    (href : adapter.adapterKind = .reference) (h : Solved loaded.value n reason expected result)
    (hpos : 0 < size) (hsize : size ≤ loaded.value.resourcePolicy.maxResultBytes)
    (maxVerificationSteps : Nat) :
    resourceReplayMatches loaded.value result adapter lease maxVerificationSteps size =
      .ok ⟨{}, decide (n ≤ maxVerificationSteps), min n maxVerificationSteps⟩ := by
  have hwf := hsolve.problemLaw.wellFormed
  have haccounts := h.accounts
  have hcommon : commonAccounting loaded.value result lease size := by
    refine ⟨haccounts.space, haccounts.limit, haccounts.timeout, ?_, ?_, ⟨hpos, hsize⟩, ?_, ?_⟩
    · rw [haccounts.steps, haccounts.visited]
    · rw [haccounts.steps]
      exact h.le_limit
    · rw [haccounts.visited, haccounts.unvisited]
      exact Nat.add_sub_cancel' h.le_space
    · rw [haccounts.calls, hsolve.solverCalls]
  have hkind : adapter.adapterKind ≠ .externalCli := by simp [href]
  have hreason : reason ≠ .adapterError := by
    rintro rfl
    cases h.concludes
  obtain ⟨search, early, hreplay, hreplayed⟩ := replay_eq_ok hwf (min n maxVerificationSteps)
  rw [resourceReplayMatches, if_neg (not_not.mpr hcommon), if_neg hkind,
    if_neg (by rwa [haccounts.reason]),
    if_neg (by rw [haccounts.calls, haccounts.visited]; simpa using h.le_space)]
  simp only [haccounts.visited, haccounts.checks, hreplay, bind_eq_ok, Except.ok.injEq,
    exists_eq_left']
  by_cases hle : n ≤ maxVerificationSteps
  · rw [Nat.min_eq_left hle] at hreplayed ⊢
    obtain ⟨rfl, hend⟩ := hreplayed.whole h.le_space h.concludes.ended
    have hearly : ¬(early ≠ none ∧ early ≠ some n) := by
      rcases hend with ⟨_, rfl⟩ | ⟨_, rfl⟩ <;> simp
    have hexpected : Sdaqf.expectedEnd loaded.value result.resources (loaded.value.seenAt n)
        early = .ok (some expected) := by
      refine h.concludes.expectedEnd haccounts (fun hhit => ?_) fun hclear => ?_
      · rcases hend with ⟨_, rfl⟩ | ⟨hclear, _⟩
        · simp
        · exact absurd (hhit.not_clearAt hclear) (lt_irrefl n)
      · rcases hend with ⟨hhit, _⟩ | ⟨_, rfl⟩
        · exact absurd (hhit.not_clearAt hclear) (lt_irrefl n)
        · rfl
    rw [if_neg (lt_irrefl _), if_neg hearly, if_neg (lt_irrefl n), if_neg (not_not.mpr rfl),
      hexpected, seenAt_visited h.le_space, decide_eq_true hle]
    simp only [bind_eq_ok, Except.ok.injEq, exists_eq_left', h.compare, pure_eq_ok]
  · have hlt := Nat.not_le.mp hle
    rw [Nat.min_eq_right hlt.le] at hreplayed ⊢
    obtain ⟨rfl, rfl⟩ := hreplayed.part hlt h.le_space h.concludes.ended
    rw [if_neg (Nat.not_lt.mpr (seenAt_checks_mono hlt.le)), if_neg (by simp), if_pos hlt,
      seenAt_visited (hlt.le.trans h.le_space), decide_eq_false hle]
    rfl

/-- What the verification of an honest result comes to. -/
structure Accepted (request : SolverRequest) (adapter : SolverAdapterDefinition)
    (result : SolverResult) (verification : SolverVerification) : Prop where
  not_rejected : verification.outcome ≠ .rejected
  verified_iff : adapter.adapterKind = .reference → (verification.outcome = .verified ↔
    result.status ≠ .timeout ∧ result.status ≠ .unknown ∧
      result.resources.visitedAssignments ≤ request.resourcePolicy.maxVerificationSteps)
  unavailable : adapter.adapterKind ≠ .reference →
    result.status = .unavailable ∧ verification.outcome = .inconclusive
  steps_le : result.resources.solverSteps + verification.verificationSteps ≤
    request.resourcePolicy.maxSolveSteps + request.resourcePolicy.maxVerificationSteps

/-- The statuses of an honest result that prove nothing. -/
theorem Concludes.incomplete_iff (h : Concludes request n reason expected) :
    expected.status.incomplete = true ↔
      expected.status = .timeout ∨ expected.status = .unknown := by
  cases h <;> simp [SolverResultStatus.incomplete]

/-- A check that an honest result passes; its claim may be weaker than the one required. -/
def Passes (check : SolverVerificationCheck) : Prop :=
  check.passed = true ∨ check.checkId = "required-claim"

/-- The outcome when no check fails but that of the claim. -/
theorem verificationOutcome_of_passes {checks : List SolverVerificationCheck}
    (h : ∀ check ∈ checks, Passes check) (complete claimAllowed : Bool)
    (status : SolverResultStatus) :
    verificationOutcome checks complete claimAllowed status =
      if status.incomplete ∨ ¬complete then
        (.inconclusive, [if complete then "result-" ++ status.value else "verification-step-limit"])
      else (.verified, if claimAllowed then [] else ["required-claim-unsatisfied"]) := by
  have hnone : checks.filter (fun check => !check.passed && check.checkId != "required-claim") =
      [] := by
    rw [List.filter_eq_nil_iff]
    intro check hcheck
    rcases h check hcheck with hpassed | hid
    · simp [hpassed]
    · simp [hid]
  rw [verificationOutcome, hnone, if_neg (by simp)]

theorem slugText_eq_ok {field text : String} :
    slugText field text = .ok () ↔ slugText "" text = .ok () :=
  ⟨fun h => patternText_field h, fun h => patternText_field h⟩

/-- The outcome states at most one reason, and it is a slug. -/
theorem reasons_of_passes {checks : List SolverVerificationCheck}
    (h : ∀ check ∈ checks, Passes check) (complete claimAllowed : Bool)
    (status : SolverResultStatus) :
    (verificationOutcome checks complete claimAllowed status).2.length ≤ 1 ∧
      (verificationOutcome checks complete claimAllowed status).2.Pairwise (· < ·) ∧
      ∀ reason ∈ (verificationOutcome checks complete claimAllowed status).2, ∀ field,
        slugText field reason = .ok () := by
  rw [verificationOutcome_of_passes h]
  split
  · refine ⟨le_rfl, List.pairwise_singleton _ _, fun reason hreason field =>
      slugText_eq_ok.mpr ?_⟩
    rw [List.mem_singleton.mp hreason]
    cases complete with
    | true => cases status <;> decide
    | false =>
      rw [if_neg (by simp)]
      decide
  · cases claimAllowed with
    | true => exact ⟨Nat.zero_le 1, List.Pairwise.nil, fun reason hreason => by cases hreason⟩
    | false =>
      refine ⟨le_rfl, List.pairwise_singleton _ _, fun reason hreason field =>
        slugText_eq_ok.mpr ?_⟩
      rw [List.mem_singleton.mp hreason]
      decide

/-- The checks of a verification that passes its replay. -/
def acceptedChecks (claimAllowed : Bool) : List SolverVerificationCheck :=
  [⟨"adapter-provenance", true⟩, ⟨"identity-bindings", true⟩, ⟨"lease-authority", true⟩,
    ⟨"objective-evidence", true⟩, ⟨"proof-disposition", true⟩, ⟨"required-claim", claimAllowed⟩,
    ⟨"resource-accounting", true⟩, ⟨"witness-feasibility", true⟩]

theorem acceptedChecks_passes {claimAllowed : Bool} :
    ∀ check ∈ acceptedChecks claimAllowed, Passes check := by
  simp [acceptedChecks, Passes]

theorem acceptedChecks_contract {claimAllowed : Bool} :
    (∀ check ∈ acceptedChecks claimAllowed, ∀ field, slugText field check.checkId = .ok ()) ∧
      ((acceptedChecks claimAllowed).map (·.checkId)).Pairwise (· < ·) := by
  constructor
  · intro check hcheck field
    refine slugText_eq_ok.mpr ?_
    simp only [acceptedChecks, List.mem_cons, List.not_mem_nil, or_false] at hcheck
    rcases hcheck with rfl | rfl | rfl | rfl | rfl | rfl | rfl | rfl <;> dsimp only <;> decide
  · have hids : (acceptedChecks claimAllowed).map (·.checkId) =
        (acceptedChecks true).map (·.checkId) := rfl
    rw [hids]
    decide

/-- The verifier returns on a result whose replay it passes, with the outcome of that replay. -/
theorem verify_of_verdict (hsolve : HonestSolve S loaded requestReference adapter lease clock)
    (hbound : Bound loaded requestReference adapter lease result)
    (hreference : artifactReference S "content.result" resultReference = .ok ())
    {complete : Bool} {steps : Nat} (hverdict : resourceReplayMatches loaded.value result adapter
      lease loaded.value.resourcePolicy.maxVerificationSteps size = .ok ⟨{}, complete, steps⟩)
    (hsteps : steps ≤ loaded.value.resourcePolicy.maxVerificationSteps) :
    ∃ verification, verifyLoadedSolverResult S loaded ⟨S.resultId result, result⟩
        requestReference resultReference adapter lease size = .ok verification ∧
      verification.value.verificationSteps = steps ∧
      verification.value.outcome =
        if result.status.incomplete ∨ ¬complete then .inconclusive else .verified := by
  have hauthority : leaseAuthority loaded.value result lease = true := by
    simp [leaseAuthority, hbound.lease_eq, hsolve.graphId_eq, hsolve.taskId_eq, hsolve.solverCalls,
      hsolve.steps_eq]
  have hrequest := hsolve.request_ok
  simp only [requestContract, bind_eq_ok, exists_unit] at hrequest
  obtain ⟨_, _, hcontractId, htask, _, _, _, _, _, hcandidate, _⟩ := hrequest
  have hpolicy := hsolve.policy
  simp only [resourcePolicyContract, bind_eq_ok, exists_unit, integerValue_eq_ok] at hpolicy
  obtain ⟨_, ⟨_, hmax⟩, _⟩ := hpolicy
  obtain ⟨hslugs, hsorted⟩ :=
    @acceptedChecks_contract (claimAllows loaded.value.requiredClaim result.status)
  obtain ⟨hfew, hordered, hreasons⟩ := reasons_of_passes
    (@acceptedChecks_passes (claimAllows loaded.value.requiredClaim result.status)) complete
    (claimAllows loaded.value.requiredClaim result.status) result.status
  have houtcome := verificationOutcome_of_passes
    (@acceptedChecks_passes (claimAllows loaded.value.requiredClaim result.status)) complete
    (claimAllows loaded.value.requiredClaim result.status) result.status
  simp only [verifyLoadedSolverResult, hverdict, hbound.provenance, hbound.bindings, hauthority,
    bind_eq_ok, Except.ok.injEq, exists_eq_left', artifactFromValue, exists_unit, pure_eq_ok]
  rw [← acceptedChecks]
  refine ⟨_, ⟨?_, rfl⟩, rfl, ?_⟩
  · simp only [verificationContract, arrayValue, bind_eq_ok, exists_unit, require_eq_ok,
      integerValue_eq_ok]
    refine ⟨by simp [acceptedChecks], by simp [acceptedChecks],
      forEachIndexed_of_forall fun check hcheck field => hslugs check hcheck _, hsorted, by omega,
      forEachIndexed_of_forall fun reason hreason field => hreasons reason hreason _, hordered, ?_,
      hsolve.reference_ok, ?_, hreference, S.resultId_valid _ _, hcontractId, hcandidate, htask,
      hsolve.lease_ok, by omega, by omega⟩
    · intro hadoption
      rw [Bool.and_eq_true, decide_eq_true_eq] at hadoption
      refine ⟨hadoption.1, fun check hcheck => ?_⟩
      rw [hadoption.2] at hcheck
      simp only [acceptedChecks, List.mem_cons, List.not_mem_nil, or_false] at hcheck
      rcases hcheck with rfl | rfl | rfl | rfl | rfl | rfl | rfl | rfl <;> rfl
    · rw [hsolve.requestId_eq]
      exact S.requestId_valid _ _
  · rw [houtcome]
    split <;> rfl

/-! ## An adapter that is not run -/

/-- The result of an adapter that is not run. -/
structure Unused (request : SolverRequest) (result : SolverResult) : Prop where
  status : result.status = .unavailable
  witness : result.witness = none
  objective : result.objectiveValue = none
  interval : result.objectiveInterval = none
  proof : result.proofDisposition = .none
  diagnostic : result.diagnosticCode = some "adapter-unavailable"
  resources : result.resources =
    { solverCalls := 0
      solverSteps := 0
      searchSpaceSize := searchSpaceSize request.problem
      visitedAssignments := 0
      unvisitedAssignments := searchSpaceSize request.problem
      constraintChecks := 0
      elapsedMilliseconds := 0
      stepLimit := request.resourcePolicy.maxSolveSteps
      timeoutMilliseconds := request.resourcePolicy.timeoutMilliseconds
      terminationReason := .adapterUnavailable }

/-- The evidence of an adapter that is not run meets the contract of results. -/
theorem Unused.evident (h : HonestSolve S loaded requestReference adapter lease clock)
    (hunused : Unused loaded.value result) : Evident result := by
  have hpos := h.problemLaw.wellFormed.searchSpaceSize_pos
  have hspace := h.problemLaw.space
  have hpolicy := h.policy
  simp only [resourcePolicyContract, bind_eq_ok, exists_unit, integerValue_eq_ok, require_eq_ok,
    forEach_eq_ok] at hpolicy
  obtain ⟨⟨hone, hmax⟩, _, _, htimeout, _⟩ := hpolicy
  refine ⟨by simp [hunused.witness], by simp [hunused.objective], by simp [hunused.interval],
    by simp [hunused.diagnostic, diagnosticCodes], ?_, ?_⟩
  · rw [hunused.resources]
    simp only [resourcesContract, bind_eq_ok, exists_unit, integerValue_eq_ok, require_eq_ok,
      forEach_eq_ok]
    exact ⟨by simp, by simp, by omega, by simp, by omega, ⟨hone, hmax⟩, by simp, by simp, htimeout,
      ⟨le_rfl, Int.natCast_nonneg _⟩, by simp⟩
  · rw [hunused.status, hunused.witness, hunused.objective, hunused.interval, hunused.proof,
      hunused.diagnostic, hunused.resources]
    simp [validateResultShape, SolverResultStatus.positive, SolverResultStatus.negative,
      SolverResultStatus.incomplete, SolverResultStatus.terminations,
      SolverResultStatus.diagnostic?]

/-- A solve with another adapter than the reference one reports that it was not run. -/
theorem solve_eq_ok_of_unavailable
    (h : HonestSolve S loaded requestReference adapter lease clock)
    (href : adapter.adapterKind ≠ .reference) :
    ∃ result, solve S clock loaded requestReference adapter lease =
        .ok ⟨S.resultId result, result⟩ ∧
      Bound loaded requestReference adapter lease result ∧ Unused loaded.value result := by
  obtain ⟨result, hsolve, hbound, hunused⟩ : ∃ result,
      solve S clock loaded requestReference adapter lease =
        artifactFromValue (resultContract S) S.resultId result ∧
      Bound loaded requestReference adapter lease result ∧ Unused loaded.value result := by
    refine ⟨_, if_pos href, ⟨?_, rfl, ?_⟩, rfl, rfl, rfl, rfl, rfl, rfl, rfl⟩
    · simp [identityBindings, h.adapterId_eq]
    · simp [adapterProvenance]
  refine ⟨result, ?_, hbound, hunused⟩
  rw [hsolve]
  simp only [artifactFromValue, bind_eq_ok, exists_unit, pure_eq_ok, and_true]
  exact hbound.resultContract h (hunused.evident h)

/-- The verifier replays nothing of an adapter that is not run. -/
theorem Unused.verdict (href : adapter.adapterKind ≠ .reference)
    (hunused : Unused loaded.value result) (hpos : 0 < size)
    (hsize : size ≤ loaded.value.resourcePolicy.maxResultBytes) (maxVerificationSteps : Nat) :
    resourceReplayMatches loaded.value result adapter lease maxVerificationSteps size =
      .ok ⟨{}, true, 0⟩ := by
  have hexternal : adapter.adapterKind = .externalCli := by
    cases hkind : adapter.adapterKind with
    | reference => exact absurd hkind href
    | externalCli => rfl
  have hcommon : commonAccounting loaded.value result lease size := by
    simp [commonAccounting, hunused.resources, hpos, hsize]
  rw [resourceReplayMatches, if_neg (not_not.mpr hcommon), if_pos hexternal]
  simp [unusedVerdict, hunused.status, hunused.witness, hunused.objective, hunused.interval,
    hunused.proof, hunused.diagnostic, hunused.resources]

/-! ## Acceptance -/

/-- An honest solve returns a result, and its verification never rejects it: the result is verified
when it proves something within the verification budget, and inconclusive otherwise. -/
theorem honest_accepted (h : HonestSolve S loaded requestReference adapter lease clock) :
    ∃ result, solve S clock loaded requestReference adapter lease = .ok result ∧
      ∀ (resultReference : ArtifactReference) (size : Nat),
        artifactReference S "content.result" resultReference = .ok () →
        0 < size → size ≤ loaded.value.resourcePolicy.maxResultBytes →
        ∃ verification, verifyLoadedSolverResult S loaded result requestReference resultReference
            adapter lease size = .ok verification ∧
          Accepted loaded.value adapter result.value verification.value := by
  by_cases href : adapter.adapterKind = .reference
  · obtain ⟨result, n, reason, expected, hsolve, hbound, hsolved⟩ := solve_eq_ok h href
    refine ⟨_, hsolve, fun resultReference size hreference hpos hsize => ?_⟩
    obtain ⟨verification, hverify, hsteps, houtcome⟩ := verify_of_verdict h hbound hreference
      (hsolved.verdict h href hpos hsize _) (Nat.min_le_right _ _)
    have hincomplete := hsolved.concludes.incomplete_iff
    rw [← hsolved.status] at hincomplete
    simp only [hincomplete, decide_eq_true_eq] at houtcome
    refine ⟨verification, hverify, ?_, fun _ => ?_, fun hnot => absurd href hnot, ?_⟩
    · rw [houtcome]
      split <;> simp
    · rw [houtcome, hsolved.accounts.visited]
      split
      · simp only [reduceCtorEq, false_iff]
        tauto
      · simp only [true_iff]
        tauto
    · rw [hsolved.accounts.steps, hsteps]
      exact Nat.add_le_add hsolved.le_limit (Nat.min_le_right _ _)
  · obtain ⟨result, hsolve, hbound, hunused⟩ := solve_eq_ok_of_unavailable h href
    refine ⟨_, hsolve, fun resultReference size hreference hpos hsize => ?_⟩
    obtain ⟨verification, hverify, hsteps', houtcome⟩ := verify_of_verdict h hbound hreference
      (hunused.verdict href hpos hsize _) (Nat.zero_le _)
    rw [if_pos (.inl (by simp [hunused.status, SolverResultStatus.incomplete]))] at houtcome
    refine ⟨verification, hverify, ?_, fun hreference => absurd hreference href,
      fun _ => ⟨hunused.status, houtcome⟩, ?_⟩
    · simp [houtcome]
    · rw [hsteps', hunused.resources]
      exact Nat.zero_le _

namespace Sample

def stillClock : SolverClock := ⟨fun _ => 0, fun _ => 0⟩

theorem solverAdapter_contract : adapterContract solverSurroundings solverAdapter = .ok () := by
  simp only [adapterContract, references, arrayValue, bind_eq_ok, exists_unit, require_eq_ok]
  refine ⟨by decide +kernel, by decide +kernel, by decide +kernel, ⟨by decide, ?_, by decide⟩,
    fun _ => rfl, fun _ => ⟨rfl, rfl⟩⟩
  refine forEachIndexed_of_forall fun reference hreference field => ?_
  rw [List.mem_singleton.mp hreference]
  exact artifactReference_digest

theorem honestSolve :
    HonestSolve solverSurroundings cappedRequest Sample.requestReference solverAdapter solverLease
      stillClock where
  request_ok := cappedRequest_contract
  requestId_eq := rfl
  reference_ok := artifactReference_digest
  adapter_ok := solverAdapter_contract
  adapterId_eq := rfl
  lease_ok := solverLease_contract
  graphId_eq := rfl
  taskId_eq := rfl
  steps_eq := rfl
  nondecreasing := ⟨monotone_const, monotone_const⟩

end Sample

theorem honest_accepted_capped :
    ∃ result, solve Sample.solverSurroundings Sample.stillClock Sample.cappedRequest
        Sample.requestReference Sample.solverAdapter Sample.solverLease = .ok result ∧
      ∃ verification, verifyLoadedSolverResult Sample.solverSurroundings Sample.cappedRequest result
          Sample.requestReference Sample.resultReference Sample.solverAdapter Sample.solverLease
          2000 = .ok verification ∧
        Accepted Sample.cappedRequest.value Sample.solverAdapter result.value
          verification.value := by
  obtain ⟨result, hsolve, haccepted⟩ := honest_accepted Sample.honestSolve
  exact ⟨result, hsolve, haccepted Sample.resultReference 2000 Sample.artifactReference_digest
    (by decide) (by decide)⟩

end Sdaqf
