import Sdaqf.AgentFindings
import Mathlib.Data.Finset.Card

/-!
# What an assessment of agent findings says

The assessment of one finding identifier is read off its reports: they are held open, they agree, or
one of them leads by its evidence. From this follow what an assessment never depends on, when it may
call a finding supported, and what a weaker finding cannot change.
-/

namespace Sdaqf.Orchestration

open Guard

variable {findingId : String} {results results' : List AgentResult} {group : List Report}
  {report leader : Report} {a : WorkflowClaimAssessment}

/-! ## Groups of reports -/

/-- Every report comes from a completed result. -/
def Complete (group : List Report) : Prop := ∀ report ∈ group, report.1.status = .completed

/-- No agent reports twice. -/
def Distinct (group : List Report) : Prop := (group.map (·.1.agentId)).Nodup

def Agree (group : List Report) : Prop :=
  ∀ report ∈ group, ∀ other ∈ group, findingSignature report.2 = findingSignature other.2

/-- A report whose evidence is strictly ahead of all others. -/
def Leads (group : List Report) (leader : Report) : Prop :=
  leader ∈ group ∧ ∀ other ∈ group, other ≠ leader → evidenceKey other < evidenceKey leader

theorem perm_orderedReports : (orderedReports group).Perm group := List.perm_insertionSort _ _

@[simp] theorem mem_orderedReports : report ∈ orderedReports group ↔ report ∈ group :=
  perm_orderedReports.mem_iff

theorem distinct_orderedReports : Distinct (orderedReports group) ↔ Distinct group :=
  (perm_orderedReports.map _).nodup_iff

theorem agree_iff (hne : group ≠ []) : (group.length = 1 ∨
    (group.map fun report => findingSignature report.2).toFinset.card = 1) ↔ Agree group := by
  constructor
  · rintro (hone | hcard) report hreport other hother
    · obtain ⟨only, rfl⟩ := List.length_eq_one_iff.mp hone
      rw [List.mem_singleton.mp hreport, List.mem_singleton.mp hother]
    · obtain ⟨signature, hsignature⟩ := Finset.card_eq_one.mp hcard
      have hsame (report : Report) (h : report ∈ group) :
          findingSignature report.2 = signature := by
        rw [← Finset.mem_singleton, ← hsignature, List.mem_toFinset]
        exact List.mem_map_of_mem h
      rw [hsame report hreport, hsame other hother]
  · intro hagree
    obtain ⟨first, hfirst⟩ := List.exists_mem_of_ne_nil group hne
    refine .inr (Finset.card_eq_one.mpr ⟨findingSignature first.2, ?_⟩)
    refine Finset.eq_singleton_iff_unique_mem.mpr ⟨?_, fun signature hmem => ?_⟩
    · exact List.mem_toFinset.mpr (List.mem_map_of_mem hfirst)
    · obtain ⟨report, hreport, rfl⟩ := List.mem_map.mp (List.mem_toFinset.mp hmem)
      exact hagree report hreport first hfirst

/-- Reports that agree have the same evidence. -/
theorem Agree.evidenceKey_eq (h : Agree group) {other : Report} (hreport : report ∈ group)
    (hother : other ∈ group) : evidenceKey report = evidenceKey other := by
  have hsame := h report hreport other hother
  have hstrength : report.2.evidenceStrength = other.2.evidenceStrength :=
    congrArg FindingSignature.evidenceStrength hsame
  have hseverity : report.2.severity = other.2.severity :=
    congrArg FindingSignature.severity hsame
  have hcounterexample : report.2.counterexample = other.2.counterexample :=
    congrArg FindingSignature.counterexample hsame
  rw [evidenceKey, evidenceKey, hstrength, hseverity, hcounterexample]

theorem Distinct.exists_other (h : Distinct group) (hlength : 2 ≤ group.length)
    (report : Report) : ∃ other ∈ group, other ≠ report := by
  by_contra hall
  push Not at hall
  have hreplicate := List.eq_replicate_of_mem hall
  have hnodup : group.Nodup := h.of_map _
  rw [hreplicate, List.nodup_replicate] at hnodup
  omega

theorem Leads.not_agree (h : Leads group leader) (hdistinct : Distinct group)
    (hlength : 2 ≤ group.length) : ¬Agree group := by
  intro hagree
  obtain ⟨other, hother, hne⟩ := hdistinct.exists_other hlength leader
  exact absurd (hagree.evidenceKey_eq hother h.1) (h.2 other hother hne).ne

theorem two_le_of_not_agree (h : ¬Agree group) : 2 ≤ group.length := by
  by_contra hshort
  apply h
  intro report hreport other hother
  have hone : group.length ≤ 1 := by omega
  rw [List.mem_iff_getElem] at hreport hother
  obtain ⟨i, hi, rfl⟩ := hreport
  obtain ⟨j, hj, rfl⟩ := hother
  obtain rfl : i = j := by omega
  rfl

/-! ## The leader -/

theorem evidenceKey_le {other : Report} (h : rankKey report ≤ rankKey other) :
    evidenceKey report ≤ evidenceKey other := Prod.Lex.monotone_fst_ofLex h

/-- A disagreement of distinct agents is resolved to the report that leads. -/
theorem resolveDisagreement_cases (hgroup : reports findingId results = group)
    (hdistinct : Distinct group) (hlength : 2 ≤ group.length) :
    (∃ leader resolution, Leads group leader ∧
      resolveDisagreement findingId results = .ok resolution ∧
      resolution.selectedAgentId = leader.1.agentId) ∨
    ((∀ leader, ¬Leads group leader) ∧
      resolveDisagreement findingId results = .error equalStrengthMessage) := by
  have hperm : (Ranking.ranked rankKey group).Perm group := Ranking.perm_ranked group
  have hsorted : (Ranking.ranked rankKey group).Pairwise fun a b => rankKey b ≤ rankKey a :=
    Ranking.pairwise_ranked group
  have hnodup : (Ranking.ranked rankKey group).Nodup := hperm.nodup_iff.mpr (hdistinct.of_map _)
  rw [resolveDisagreement, hgroup]
  rcases hranked : Ranking.ranked rankKey group with _ | ⟨winner, _ | ⟨runnerUp, rest⟩⟩
  · have hzero := hperm.length_eq
    rw [hranked, List.length_nil] at hzero
    omega
  · have hone := hperm.length_eq
    rw [hranked, List.length_singleton] at hone
    omega
  · rw [hranked] at hperm hsorted hnodup
    rw [List.pairwise_cons, List.pairwise_cons] at hsorted
    obtain ⟨hwinner, hrunnerUp, -⟩ := hsorted
    have hmem : winner ∈ group := hperm.mem_iff.mp List.mem_cons_self
    by_cases hkey : evidenceKey winner = evidenceKey runnerUp
    · refine .inr ⟨?_, if_pos hkey⟩
      rintro leader ⟨hleader, hlead⟩
      by_cases hsame : winner = leader
      · subst hsame
        have hne : runnerUp ≠ winner := fun h => by simp [h] at hnodup
        have hlt := hlead runnerUp (hperm.mem_iff.mp (by simp)) hne
        exact absurd hkey.symm hlt.ne
      · have hlt := hlead winner hmem hsame
        rcases List.mem_cons.mp (hperm.mem_iff.mpr hleader) with rfl | hrest
        · exact hsame rfl
        · exact absurd (evidenceKey_le (hwinner leader hrest)) (not_le.mpr hlt)
    · refine .inl ⟨winner, _, ⟨hmem, fun other hother hne => ?_⟩, if_neg hkey, rfl⟩
      have hlt : evidenceKey runnerUp < evidenceKey winner :=
        lt_of_le_of_ne (evidenceKey_le (hwinner runnerUp List.mem_cons_self)) (Ne.symm hkey)
      rcases List.mem_cons.mp (hperm.mem_iff.mpr hother) with rfl | hrest
      · exact absurd rfl hne
      · rcases List.mem_cons.mp hrest with rfl | hrest
        · exact hlt
        · exact (evidenceKey_le (hrunnerUp other hrest)).trans_lt hlt

/-- Each report of distinct agents is the only one of its result. -/
theorem reports_orderedReports (h : Distinct (reports findingId results)) :
    reports findingId ((orderedReports (reports findingId results)).map (·.1)) =
      orderedReports (reports findingId results) := by
  have hone : ∀ report ∈ reports findingId results,
      (report.1.findings.filter fun finding => finding.findingId = findingId).map
        (fun finding => (report.1, finding)) = [report] := by
    intro report hreport
    obtain ⟨result, hresult, hmem⟩ := List.mem_flatMap.mp hreport
    have hresultEq : report.1 = result := by
      obtain ⟨finding, -, rfl⟩ := List.mem_map.mp hmem
      rfl
    rw [hresultEq]
    generalize hown : (result.findings.filter fun finding =>
      finding.findingId = findingId).map (fun finding => (result, finding)) = own at hmem ⊢
    have hsub : own.Sublist (reports findingId results) := by
      rw [reports, List.flatMap_def, ← hown]
      exact List.sublist_flatten_of_mem (List.mem_map_of_mem hresult)
    have hnodup : (own.map (·.1.agentId)).Nodup := h.sublist (hsub.map _)
    have hconstant : own.map (·.1.agentId) = List.replicate own.length result.agentId := by
      rw [← hown, List.map_map]
      simp [Function.comp_def]
    rw [hconstant, List.nodup_replicate] at hnodup
    have hlength : own.length = 1 := le_antisymm hnodup (List.length_pos_of_mem hmem)
    obtain ⟨only, rfl⟩ := List.length_eq_one_iff.mp hlength
    rw [List.mem_singleton.mp hmem]
  rw [reports, List.flatMap_map]
  have hsingle : (orderedReports (reports findingId results)).flatMap (fun report =>
      (report.1.findings.filter fun finding => finding.findingId = findingId).map
        fun finding => (report.1, finding)) =
      (orderedReports (reports findingId results)).flatMap fun report => [report] :=
    List.flatMap_congr fun report hreport => hone report (mem_orderedReports.mp hreport)
  exact hsingle.trans (List.flatMap_singleton' _)

/-! ## Assessments -/

/-- An assessment that supports and refutes nothing. -/
structure IsOpen (a : WorkflowClaimAssessment) : Prop where
  conclusion : a.conclusion = .unresolved
  supporting : a.supportingSources = []
  refuting : a.refutingSources = []

/-- How a group of reports is assessed. -/
inductive Assessed (group : List Report) (a : WorkflowClaimAssessment) : Prop
  | held (h : ¬(Complete group ∧ Distinct group)) (hopen : IsOpen a)
  | unverified (hagree : Agree group)
    (hall : ∀ report ∈ group, report.2.evidenceStrength = .unverified) (hopen : IsOpen a)
  | agreed (hcomplete : Complete group) (hdistinct : Distinct group) (hagree : Agree group)
    (hverified : ∃ report ∈ group, report.2.evidenceStrength ≠ .unverified)
    (hconclusion : a.conclusion = .supported)
    (hsupporting : ∀ report ∈ group, agentSource report ∈ a.supportingSources)
    (hrefuting : a.refutingSources = [])
  | tied (hdisagree : ¬Agree group) (hnone : ∀ leader, ¬Leads group leader) (hopen : IsOpen a)
  | ranked (leader : Report) (hcomplete : Complete group) (hdistinct : Distinct group)
    (hlength : 2 ≤ group.length) (hleads : Leads group leader)
    (hconclusion : a.conclusion = .supported)
    (hsupporting : a.supportingSources = [agentSource leader])
    (hrefuting : ∀ source, source ∈ a.refutingSources ↔
      ∃ other ∈ group, other ≠ leader ∧ agentSource other = source)

theorem isOpen_unknown {statement rationale : String} {sources : List WorkflowReportSource} :
    IsOpen (unknownAgentAssessment findingId statement sources rationale) := ⟨rfl, rfl, rfl⟩

theorem EvidenceStrength.value_injective : Function.Injective EvidenceStrength.value := by
  intro strength other h
  cases strength <;> cases other <;> first | rfl | exact absurd h (by decide)

@[simp] theorem mem_sortedSources {source : WorkflowReportSource}
    {sources : List WorkflowReportSource} : source ∈ sortedSources sources ↔ source ∈ sources :=
  List.mem_insertionSort _

/-- Among distinct agents a report is found by its agent. -/
theorem Distinct.agentId_inj (h : Distinct group) {other : Report} (hreport : report ∈ group)
    (hother : other ∈ group) (heq : report.1.agentId = other.1.agentId) : report = other :=
  List.inj_on_of_nodup_map h hreport hother heq

theorem Distinct.filter_agent (h : Distinct group) (hmem : report ∈ group) :
    group.filter (fun other => other.1.agentId = report.1.agentId) = [report] := by
  have hsame : group.filter (fun other => other.1.agentId = report.1.agentId) =
      group.filter (· = report) := by
    refine List.filter_congr fun other hother => decide_eq_decide.mpr ⟨fun heq => ?_, fun heq => ?_⟩
    · exact h.agentId_inj hother hmem heq
    · rw [heq]
  rw [hsame, List.filter_eq, List.count_eq_one_of_mem (h.of_map _) hmem]
  rfl

/-- Every group is assessed, in one of five ways. -/
theorem classifyAgentFinding_assessed (hne : reports findingId results ≠ []) :
    ∃ a, classifyAgentFinding findingId (reports findingId results) = .ok a ∧
      a.claimId = findingId ∧ Assessed (reports findingId results) a := by
  have hown := @reports_orderedReports findingId results
  generalize hgroup : reports findingId results = group at hne hown
  have hne' : orderedReports group ≠ [] := fun h => by
    have hperm := @perm_orderedReports group
    rw [h] at hperm
    exact hne hperm.nil_eq.symm
  simp only [classifyAgentFinding]
  split_ifs with hstatus hagents hsignatures hall
  · refine ⟨_, rfl, rfl, .held (fun h => ?_) isOpen_unknown⟩
    simp only [List.any_eq_true, mem_orderedReports, decide_eq_true_eq] at hstatus
    obtain ⟨report, hreport, hbad⟩ := hstatus
    exact hbad (h.1 report hreport)
  · refine ⟨_, rfl, rfl, .held (fun h => hagents ?_) isOpen_unknown⟩
    rw [List.toFinset_card_of_nodup (distinct_orderedReports.mpr h.2), List.length_map]
  all_goals
    have hcomplete : Complete group := by
      simpa [Complete] using hstatus
    have hdistinct : Distinct group := by
      rw [← distinct_orderedReports, Distinct, ← Multiset.coe_nodup,
        ← Multiset.toFinset_card_eq_card_iff_nodup]
      simpa using hagents
    have hagree : Agree (orderedReports group) ↔ Agree group := by simp [Agree]
    rw [agree_iff hne', hagree] at hsignatures
  · exact ⟨_, rfl, rfl, .unverified hsignatures (by simpa using hall) isOpen_unknown⟩
  · refine ⟨_, rfl, rfl, .agreed hcomplete hdistinct hsignatures ?_ rfl
      (fun report hreport => ?_) rfl⟩
    · simpa using hall
    · exact mem_sortedSources.mpr (List.mem_map_of_mem (mem_orderedReports.mpr hreport))
  · have hlength := two_le_of_not_agree hsignatures
    have hdistinct' := distinct_orderedReports.mpr hdistinct
    have hlength' : 2 ≤ (orderedReports group).length := by
      rwa [perm_orderedReports.length_eq]
    have hleads (leader : Report) : Leads (orderedReports group) leader ↔ Leads group leader := by
      simp [Leads]
    rcases resolveDisagreement_cases (hown hdistinct) hdistinct' hlength' with
      ⟨leader, resolution, hlead, hresolved, hselected⟩ | ⟨hnone, hresolved⟩
    · rw [hleads] at hlead
      rw [hresolved]
      refine ⟨_, rfl, rfl, .ranked leader hcomplete hdistinct hlength hlead rfl ?_ ?_⟩
      · have hone : (orderedReports group).filter (fun report =>
            report.1.agentId = resolution.selectedAgentId) = [leader] := by
          rw [hselected]
          exact hdistinct'.filter_agent (mem_orderedReports.mpr hlead.1)
        simp only [hone, List.map_singleton]
        rfl
      · intro source
        simp only [mem_sortedSources, List.mem_map, List.mem_filter, mem_orderedReports,
          decide_eq_true_eq, hselected, ne_eq, and_assoc]
        refine exists_congr fun other => and_congr_right fun hother => and_congr_left fun _ => ?_
        exact not_congr ⟨hdistinct.agentId_inj hother hlead.1, fun heq => by rw [heq]⟩
    · rw [hresolved]
      refine ⟨_, if_neg (by simp), rfl, .tied hsignatures (fun leader h => ?_) isOpen_unknown⟩
      exact hnone leader ((hleads leader).mpr h)

/-! ## Classification -/

theorem mem_findingIds : findingId ∈ findingIds results ↔ reports findingId results ≠ [] := by
  simp only [findingIds, Sorting.mem_listed, List.mem_toFinset, List.mem_flatMap, List.mem_map,
    reports, ne_eq, List.flatMap_eq_nil_iff, List.map_eq_nil_iff, List.filter_eq_nil_iff,
    decide_eq_true_eq]
  push Not
  rfl

/-- What a traversal returned is what its elements returned. -/
theorem mem_of_mapM_eq_ok {ε α β : Type} {f : α → Except ε β} {l : List α} {out : List β}
    (h : l.mapM f = .ok out) {b : β} : b ∈ out ↔ ∃ a ∈ l, f a = .ok b := by
  induction mapM_eq_ok.mp h with
  | nil => simp
  | cons hb hrest ih =>
    simp only [List.mem_cons, exists_eq_or_imp, hb, Except.ok.injEq, ih (mapM_eq_ok.mpr hrest)]
    rw [eq_comm]

/-- Agent results are always classified, one assessment for each identifier. -/
theorem classifyAgentFindings_eq_ok : ∃ assessments,
    classifyAgentFindings results = .ok assessments ∧ ∀ a, a ∈ assessments ↔
      ∃ findingId, reports findingId results ≠ [] ∧
        classifyAgentFinding findingId (reports findingId results) = .ok a := by
  cases hclassify : classifyAgentFindings results with
  | error message =>
    obtain ⟨findingId, hid, herror⟩ := mapM_eq_error hclassify
    obtain ⟨a, ha, -⟩ := classifyAgentFinding_assessed (mem_findingIds.mp hid)
    rw [ha] at herror
    cases herror
  | ok assessments =>
    refine ⟨assessments, rfl, fun a => ?_⟩
    simp only [mem_of_mapM_eq_ok hclassify, mem_findingIds]

/-! ## Order -/

theorem filter_reports (k : String) : (reports findingId results).filter
      (fun report => report.1.agentId = k) =
    reports findingId (results.filter fun result => result.agentId = k) := by
  induction results with
  | nil => rfl
  | cons result results ih =>
    simp only [reports, List.flatMap_cons, List.filter_append] at ih ⊢
    rw [ih, List.filter_map, List.filter_cons]
    by_cases hk : result.agentId = k
    · simp [hk, Function.comp_def]
    · simp [hk, Function.comp_def]

/-- Reordered results of distinct agents are classified alike. -/
theorem classifyAgentFindings_perm (h : results.Perm results')
    (hnodup : (results.map (·.agentId)).Nodup) :
    classifyAgentFindings results' = classifyAgentFindings results := by
  have hids : findingIds results' = findingIds results := by
    rw [findingIds, findingIds, List.toFinset_eq_of_perm _ _ (h.symm.flatMap_right _)]
  have hordered (findingId : String) : orderedReports (reports findingId results') =
      orderedReports (reports findingId results) := by
    refine Ranking.insertionSort_eq_of_filter_eq fun k => ?_
    rw [filter_reports, filter_reports, Ranking.filter_eq_of_perm h hnodup]
  have hclassify (findingId : String) :
      classifyAgentFinding findingId (reports findingId results') =
        classifyAgentFinding findingId (reports findingId results) := by
    simp only [classifyAgentFinding, hordered]
  rw [classifyAgentFindings, classifyAgentFindings, hids]
  simp only [hclassify]

/-! ## Weaker findings -/

/-- The resolution is read off the keys of the reports. -/
theorem resolveDisagreement_congr (h : ∃ best second rest rest',
      Ranking.ranked id ((reports findingId results).map rankKey) = best :: second :: rest ∧
      Ranking.ranked id ((reports findingId results').map rankKey) = best :: second :: rest') :
    resolveDisagreement findingId results' = resolveDisagreement findingId results := by
  obtain ⟨best, second, rest, rest', hranked, hranked'⟩ := h
  rw [← Ranking.map_ranked] at hranked hranked'
  obtain ⟨winner, tail, hwinner, hkey, htail⟩ := List.map_eq_cons_iff.mp hranked
  obtain ⟨runnerUp, others, rfl, hkey₂, -⟩ := List.map_eq_cons_iff.mp htail
  obtain ⟨winner', tail', hwinner', hkey', htail'⟩ := List.map_eq_cons_iff.mp hranked'
  obtain ⟨runnerUp', others', rfl, hkey₂', -⟩ := List.map_eq_cons_iff.mp htail'
  have hevidence : evidenceKey winner' = evidenceKey winner :=
    congrArg (fun key => (ofLex key).1) (hkey'.trans hkey.symm)
  have hagent : winner'.1.agentId = winner.1.agentId :=
    congrArg (fun key => (ofLex key).2) (hkey'.trans hkey.symm)
  have hevidence₂ : evidenceKey runnerUp' = evidenceKey runnerUp :=
    congrArg (fun key => (ofLex key).1) (hkey₂'.trans hkey₂.symm)
  simp only [resolveDisagreement, hwinner, hwinner', hevidence, hevidence₂, hagent]

variable {before after : List Report} {a' : WorkflowClaimAssessment}

/-- A finding below two others leaves the resolution as it is. -/
theorem resolveDisagreement_insert (hreports : reports findingId results = before ++ after)
    (hreports' : reports findingId results' = before ++ report :: after)
    (hbelow : 2 ≤ (before ++ after).countP fun other => rankKey report < rankKey other) :
    resolveDisagreement findingId results' = resolveDisagreement findingId results := by
  apply resolveDisagreement_congr
  rw [hreports, hreports']
  have hcount : 2 ≤ ((before ++ after).map rankKey).countP (rankKey report < ·) := by
    rwa [List.countP_map]
  obtain ⟨best, second, rest, rest', hbest, hinsert⟩ := Ranking.ranked_insert_below hcount
  refine ⟨best, second, rest, rest', hbest, ?_⟩
  rw [← hinsert, ← List.map_cons]
  exact Ranking.ranked_eq_of_perm (List.perm_middle.map rankKey)

theorem Leads.unique {other : Report} (h : Leads group leader) (hother : Leads group other) :
    leader = other := by
  by_contra hne
  exact lt_asymm (h.2 other hother.1 (Ne.symm hne)) (hother.2 leader h.1 hne)

/-- A finding below another never leads. -/
theorem Leads.of_insert (h : Leads (before ++ report :: after) leader)
    (hbelow : ∃ other ∈ before ++ after, rankKey report < rankKey other) :
    Leads (before ++ after) leader := by
  have hmem (other : Report) : other ∈ before ++ report :: after ↔
      other = report ∨ other ∈ before ++ after := by
    rw [List.perm_middle.mem_iff, List.mem_cons]
  refine ⟨?_, fun other hother => h.2 other ((hmem other).mpr (.inr hother))⟩
  rcases (hmem leader).mp h.1 with rfl | hleader
  · obtain ⟨other, hother, hlt⟩ := hbelow
    have hne : other ≠ leader := fun heq => absurd hlt (heq ▸ lt_irrefl _)
    have hweaker := h.2 other ((hmem other).mpr (.inr hother)) hne
    exact absurd (evidenceKey_le hlt.le) (not_le.mpr hweaker)
  · exact hleader

theorem assessed_of_eq_ok (hne : reports findingId results ≠ [])
    (h : classifyAgentFinding findingId (reports findingId results) = .ok a) :
    a.claimId = findingId ∧ Assessed (reports findingId results) a := by
  obtain ⟨b, hb, hassessed⟩ := classifyAgentFinding_assessed hne
  rw [h] at hb
  cases hb
  exact hassessed

/-- A finding below two others opens no way to a supported conclusion. -/
theorem supported_of_insert (hreports : reports findingId results = before ++ after)
    (hreports' : reports findingId results' = before ++ report :: after)
    (hbelow : 2 ≤ (before ++ after).countP fun other => rankKey report < rankKey other)
    (ha : classifyAgentFinding findingId (reports findingId results) = .ok a)
    (ha' : classifyAgentFinding findingId (reports findingId results') = .ok a')
    (hsupported : a'.conclusion = .supported) :
    a.conclusion = .supported ∧
      (a'.refutingSources ≠ [] → a'.supportingSources = a.supportingSources) := by
  have hlength : 2 ≤ (before ++ after).length := hbelow.trans List.countP_le_length
  have hne : before ++ after ≠ [] := fun h => by simp [h] at hlength
  have hassessed := (assessed_of_eq_ok (hreports ▸ hne) ha).2
  have hassessed' := (assessed_of_eq_ok (by simp [hreports']) ha').2
  rw [hreports] at hassessed
  rw [hreports'] at hassessed'
  have hsub : (before ++ after).Sublist (before ++ report :: after) :=
    List.Sublist.append_left (List.sublist_cons_self _ _) _
  have hkept (hcomplete : Complete (before ++ report :: after))
      (hdistinct : Distinct (before ++ report :: after)) :
      Complete (before ++ after) ∧ Distinct (before ++ after) :=
    ⟨fun other hother => hcomplete other (hsub.subset hother), hdistinct.sublist (hsub.map _)⟩
  cases hassessed' with
  | held _ hopen | unverified _ _ hopen | tied _ _ hopen =>
    rw [hopen.conclusion] at hsupported
    cases hsupported
  | agreed hcomplete hdistinct hagree hverified _ _ hrefuting =>
    have hagree₀ : Agree (before ++ after) := fun r hr r' hr' =>
      hagree r (hsub.subset hr) r' (hsub.subset hr')
    refine ⟨?_, fun h => absurd hrefuting h⟩
    cases hassessed with
    | held h => exact absurd (hkept hcomplete hdistinct) h
    | unverified _ hall =>
      obtain ⟨r, hr, hstrength⟩ := hverified
      obtain ⟨first, hfirst⟩ := List.exists_mem_of_ne_nil _ hne
      have hsame := congrArg FindingSignature.evidenceStrength
        (hagree r hr first (hsub.subset hfirst))
      exact absurd (hsame.trans (hall first hfirst)) hstrength
    | tied hdisagree => exact absurd hagree₀ hdisagree
    | agreed _ _ _ _ hconclusion => exact hconclusion
    | ranked _ _ _ _ _ hconclusion => exact hconclusion
  | ranked leader hcomplete hdistinct _ hleads _ hsupporting =>
    obtain ⟨hcomplete₀, hdistinct₀⟩ := hkept hcomplete hdistinct
    have hexists : ∃ other ∈ before ++ after, rankKey report < rankKey other := by
      simpa using List.countP_pos_iff.mp (by omega : 0 < (before ++ after).countP fun other =>
        rankKey report < rankKey other)
    have hleads₀ := hleads.of_insert hexists
    cases hassessed with
    | held h => exact absurd ⟨hcomplete₀, hdistinct₀⟩ h
    | unverified hagree => exact absurd hagree (hleads₀.not_agree hdistinct₀ hlength)
    | agreed _ _ hagree => exact absurd hagree (hleads₀.not_agree hdistinct₀ hlength)
    | tied _ hnone => exact absurd hleads₀ (hnone leader)
    | ranked other _ _ _ hother hconclusion hsupporting₀ =>
      rw [hsupporting, hsupporting₀, hleads₀.unique hother]
      exact ⟨hconclusion, fun _ => rfl⟩

/-! ## Findings are never upgraded -/

/-- What an assessment of agent results never does. -/
structure NeverUpgraded (results : List AgentResult) : Prop where
  /-- The order of the results does not matter. -/
  order : (results.map (·.agentId)).Nodup → ∀ results', results.Perm results' →
    classifyAgentFindings results' = classifyAgentFindings results
  /-- Support comes from completed results of distinct agents and is verified. -/
  supported : ∃ assessments, classifyAgentFindings results = .ok assessments ∧
    ∀ a ∈ assessments, a.conclusion = .supported →
      Complete (reports a.claimId results) ∧ Distinct (reports a.claimId results) ∧
        ∃ report ∈ reports a.claimId results, agentSource report ∈ a.supportingSources ∧
          report.2.evidenceStrength ≠ .unverified
  /-- A refuting source asserts something else. -/
  refuting : ∃ assessments, classifyAgentFindings results = .ok assessments ∧
    ∀ a ∈ assessments, ∀ source ∈ a.refutingSources, ∀ selected ∈ a.supportingSources,
      source.assertion ≠ selected.assertion
  /-- A finding below the two best ones selects no other agent and supports nothing. -/
  weaker : ∀ findingId results' before report after,
    reports findingId results = before ++ after →
    reports findingId results' = before ++ report :: after →
    2 ≤ (before ++ after).countP (fun other => rankKey report < rankKey other) →
    resolveDisagreement findingId results' = resolveDisagreement findingId results ∧
    ∀ a a', classifyAgentFinding findingId (reports findingId results) = .ok a →
      classifyAgentFinding findingId (reports findingId results') = .ok a' →
      a'.conclusion = .supported → a.conclusion = .supported ∧
        (a'.refutingSources ≠ [] → a'.supportingSources = a.supportingSources)

/-- A leading finding is verified and contradicts all others. -/
def SoundLeader (group : List Report) (leader : Report) : Prop :=
  leader.2.evidenceStrength ≠ .unverified ∧
    ∀ other ∈ group, other ≠ leader → other.2.statement ≠ leader.2.statement

/-- Agent findings are never upgraded exactly if every finding that leads completed results of
distinct agents is verified and stands against other statements only. -/
theorem neverUpgraded_iff (results : List AgentResult) : NeverUpgraded results ↔
    ∀ findingId leader, Complete (reports findingId results) →
      Distinct (reports findingId results) → 2 ≤ (reports findingId results).length →
      Leads (reports findingId results) leader →
      SoundLeader (reports findingId results) leader := by
  obtain ⟨assessments, hclassify, hmem⟩ := @classifyAgentFindings_eq_ok results
  constructor
  · intro h findingId leader hcomplete hdistinct hlength hleads
    have hne : reports findingId results ≠ [] := fun hnil => by simp [hnil] at hlength
    obtain ⟨a, ha, hid, hassessed⟩ := classifyAgentFinding_assessed hne
    have hin : a ∈ assessments := (hmem a).mpr ⟨findingId, hne, ha⟩
    obtain ⟨_, hok, hsupport⟩ := h.supported
    obtain ⟨_, hok', hrefute⟩ := h.refuting
    rw [hclassify] at hok hok'
    cases hok
    cases hok'
    cases hassessed with
    | held h => exact absurd ⟨hcomplete, hdistinct⟩ h
    | unverified hagree => exact absurd hagree (hleads.not_agree hdistinct hlength)
    | agreed _ _ hagree => exact absurd hagree (hleads.not_agree hdistinct hlength)
    | tied _ hnone => exact absurd hleads (hnone leader)
    | ranked other _ _ _ hother hconclusion hsupporting hrefuting =>
      obtain rfl := hleads.unique hother
      subst hid
      refine ⟨fun hunverified => ?_, fun other hreport hne heq => ?_⟩
      · obtain ⟨-, -, report, hreport, hsource, hverified⟩ := hsupport a hin hconclusion
        rw [hsupporting, List.mem_singleton] at hsource
        have hstatus : report.1.status.value ++ ":" ++ report.2.evidenceStrength.value =
            leader.1.status.value ++ ":" ++ leader.2.evidenceStrength.value :=
          congrArg WorkflowReportSource.status hsource
        rw [hcomplete report hreport, hcomplete leader hleads.1, String.append_right_inj] at hstatus
        exact hverified ((EvidenceStrength.value_injective hstatus).trans hunverified)
      · refine hrefute a hin (agentSource other) ?_ (agentSource leader) ?_ ?_
        · exact (hrefuting _).mpr ⟨other, hreport, hne, rfl⟩
        · rw [hsupporting]
          exact List.mem_singleton_self _
        · simp only [agentSource, heq]
  · intro h
    have hcases (a : WorkflowClaimAssessment) (ha : a ∈ assessments) :
        Assessed (reports a.claimId results) a := by
      obtain ⟨findingId, hne, ha⟩ := (hmem a).mp ha
      obtain ⟨rfl, hassessed⟩ := assessed_of_eq_ok hne ha
      exact hassessed
    refine ⟨fun hnodup results' hperm => classifyAgentFindings_perm hperm hnodup,
      ⟨assessments, hclassify, fun a ha hsupported => ?_⟩,
      ⟨assessments, hclassify, fun a ha source hsource selected hselected => ?_⟩,
      fun findingId results' before report after hreports hreports' hbelow =>
        ⟨resolveDisagreement_insert hreports hreports' hbelow, fun a a' ha ha' =>
          supported_of_insert hreports hreports' hbelow ha ha'⟩⟩
    · cases hcases a ha with
      | held _ hopen | unverified _ _ hopen | tied _ _ hopen =>
        rw [hopen.conclusion] at hsupported
        cases hsupported
      | agreed hcomplete hdistinct _ hverified _ hsupporting =>
        obtain ⟨report, hreport, hstrength⟩ := hverified
        exact ⟨hcomplete, hdistinct, report, hreport, hsupporting report hreport, hstrength⟩
      | ranked leader hcomplete hdistinct hlength hleads _ hsupporting =>
        refine ⟨hcomplete, hdistinct, leader, hleads.1, by simp [hsupporting], ?_⟩
        exact (h _ leader hcomplete hdistinct hlength hleads).1
    · cases hcases a ha with
      | held _ hopen | unverified _ _ hopen | tied _ _ hopen =>
        rw [hopen.refuting] at hsource
        cases hsource
      | agreed _ _ _ _ _ _ hrefuting =>
        rw [hrefuting] at hsource
        cases hsource
      | ranked leader hcomplete hdistinct hlength hleads _ hsupporting hrefuting =>
        rw [hsupporting, List.mem_singleton] at hselected
        obtain ⟨other, hother, hne, rfl⟩ := (hrefuting source).mp hsource
        subst hselected
        have hsound := (h _ leader hcomplete hdistinct hlength hleads).2 other hother hne
        simpa [agentSource] using hsound

/-! ## Two unverified findings -/

namespace Sample

/-- A finding without evidence. -/
def unverifiedFinding (severity : FindingSeverity) : AgentFinding where
  findingId := "FND-1"
  severity
  statement := "The path is isolated."
  specificationRefs := []
  evidenceRefs := []
  evidenceStrength := .unverified
  counterexample := none

/-- Two agents that report one statement without evidence, at different severities. -/
def unverifiedResults : List AgentResult :=
  [⟨"AGT-1", .completed, [unverifiedFinding .high]⟩,
    ⟨"AGT-2", .completed, [unverifiedFinding .low]⟩]

end Sample

/-- Two unverified findings of one statement are a supported conclusion against itself. -/
theorem unverified_findings_upgraded : ¬NeverUpgraded Sample.unverifiedResults := by
  intro h
  have hrun : (classifyAgentFindings Sample.unverifiedResults).map (List.map (·.conclusion)) =
      .ok [.supported] := by decide +kernel
  obtain ⟨assessments, hclassify, hall⟩ := h.supported
  rw [hclassify, Except.map, Except.ok.injEq] at hrun
  obtain ⟨a, rfl, hconclusion⟩ := List.map_eq_singleton_iff.mp hrun
  obtain ⟨-, -, report, hreport, -, hverified⟩ := hall a List.mem_cons_self hconclusion
  obtain ⟨result, hresult, hmem⟩ := List.mem_flatMap.mp hreport
  obtain ⟨finding, hfinding, rfl⟩ := List.mem_map.mp hmem
  have hunverified : ∀ result ∈ Sample.unverifiedResults, ∀ finding ∈ result.findings,
      finding.evidenceStrength = .unverified := by decide
  exact hverified (hunverified result hresult finding (List.mem_of_mem_filter hfinding))

end Sdaqf.Orchestration
