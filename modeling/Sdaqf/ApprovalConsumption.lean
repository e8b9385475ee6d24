import Sdaqf.CheckpointRedaction
import Sdaqf.JsonSizes
import Sdaqf.LockedStore
import Sdaqf.ToolApprovals

/-!
# Approvals are consumed once

Checks that share one store claim their approvals behind its lock file, in any order of steps and
with crashes anywhere. What a check has recorded no other check can claim, so each approval starts at
most one process, and a process that needs approvals starts only after they were recorded.
-/

namespace Sdaqf.Tooling

open Guard LockedStore
open JsonText (Value)
open Payload (Enumeration Members Written objectValue)
open Checkpoint (StoredFile get onlyKeys onlyKeys_eq_ok)

variable {R : ToolRuntime} {value : Value} {place text : String} {now now' : Moment}
  {record parsed : ConsumptionRecord} {records existing : List ConsumptionRecord}
  {file : Option StoredFile}

/-! ## Readers -/

@[simp] theorem asContract_eq_ok {α : Type} {x : Except String α} {a : α} :
    asContract x = .ok a ↔ x = .ok a := by
  cases x <;> simp [asContract]

@[simp] theorem string_eq_ok :
    string value place = .ok text ↔ value = .text text ∧ isText text = true := by
  cases value with
  | text s =>
    simp only [string, Value.text.injEq]
    constructor
    · intro h
      split at h
      · cases h
        exact ⟨rfl, ‹_›⟩
      · cases h
    · rintro ⟨rfl, h⟩
      rw [if_pos h]
  | _ => simp [string]

@[simp] theorem timestamp_eq_ok {time : Moment} : timestamp R value place = .ok time ↔
    ∃ text, value = .text text ∧ isText text = true ∧ R.fromisoformat text = some time ∧
      time.aware = true := by
  simp only [timestamp, bind_eq_ok, string_eq_ok]
  constructor
  · rintro ⟨text, ⟨rfl, htext⟩, h⟩
    split at h
    · cases h
    · next parsed hparsed =>
      simp only [bind_eq_ok, require_eq_ok, pure_eq_ok, exists_unit] at h
      obtain ⟨haware, rfl⟩ := h
      exact ⟨text, rfl, htext, hparsed, haware⟩
  · rintro ⟨text, rfl, htext, htime, haware⟩
    refine ⟨text, ⟨rfl, htext⟩, ?_⟩
    simp only [htime, bind_eq_ok, require_eq_ok, pure_eq_ok, exists_unit, and_true]
    exact haware

/-- What a record satisfies whenever it is read. -/
structure LawfulRecord (R : ToolRuntime) (record : ConsumptionRecord) : Prop where
  texts : isText record.approvalId = true ∧ isText record.scopeDigest = true ∧
    isText record.claimedAt = true
  named : isApprovalId record.approvalId = true
  digest : isDigest record.scopeDigest.toList = true
  timed : ∃ time, R.fromisoformat record.claimedAt = some time ∧ time.aware = true

/-- A record is not from the future. -/
def Past (R : ToolRuntime) (now : Moment) (record : ConsumptionRecord) : Prop :=
  ∀ time, R.fromisoformat record.claimedAt = some time → time.instant ≤ now.instant

/-- The keys of a record. -/
def recordKeys : List String := ["approval_id", "scope_digest", "claimed_at"]

/-- What the members of an object say of a record. -/
def Describes (value : Value) (record : ConsumptionRecord) : Prop :=
  ∃ members, value = .object members ∧ (∀ key, key ∈ members.map Prod.fst ↔ key ∈ recordKeys) ∧
    get members "approval_id" = .text record.approvalId ∧
    get members "scope_digest" = .text record.scopeDigest ∧
    get members "claimed_at" = .text record.claimedAt

theorem Describes.unique (h : Describes value record) (h' : Describes value parsed) :
    record = parsed := by
  obtain ⟨members, rfl, -, hid, hdigest, htime⟩ := h
  obtain ⟨_, hmembers, -, hid', hdigest', htime'⟩ := h'
  cases hmembers
  obtain ⟨id, digest, time⟩ := record
  simp_all

theorem describes_toDict : Describes record.toDict record := by
  refine ⟨_, rfl, fun key => ?_, rfl, rfl, rfl⟩
  simp only [recordKeys, List.map_cons, List.map_nil, List.mem_cons, List.not_mem_nil, or_false]
  tauto

theorem parseConsumptionRecord_eq_ok {i : Nat} :
    parseConsumptionRecord R now (value, i) = .ok record ↔
      Describes value record ∧ LawfulRecord R record ∧ Past R now record := by
  simp only [parseConsumptionRecord, bind_eq_ok, asContract_eq_ok, Payload.objectValue_eq_ok,
    onlyKeys_eq_ok, exists_unit, string_eq_ok, require_eq_ok, timestamp_eq_ok, pure_eq_ok,
    Value.text.injEq]
  constructor
  · rintro ⟨members, rfl, hkeys, id, ⟨hid, hidText⟩, digest, ⟨hdigest, hdigestText⟩, _,
      ⟨htime, -⟩, ⟨hnamed, hhex⟩, time, ⟨text, rfl, htext, hreads, haware⟩, hpast, rfl⟩
    refine ⟨⟨members, rfl, hkeys, hid, hdigest, htime⟩,
      ⟨⟨hidText, hdigestText, htext⟩, hnamed, hhex, time, hreads, haware⟩, fun time' htime' => ?_⟩
    rw [hreads, Option.some.injEq] at htime'
    exact htime' ▸ hpast
  · rintro ⟨⟨members, rfl, hkeys, hid, hdigest, htime⟩, h, hpast⟩
    obtain ⟨time, hreads, haware⟩ := h.timed
    exact ⟨members, rfl, hkeys, _, ⟨hid, h.texts.1⟩, _, ⟨hdigest, h.texts.2.1⟩, _,
      ⟨htime, h.texts.2.2⟩, ⟨h.named, h.digest⟩, time, ⟨_, rfl, h.texts.2.2, hreads, haware⟩,
      hpast time hreads, rfl⟩

/-! ## Stores -/

/-- What the records of a store satisfy whenever they are read. -/
structure LawfulRecords (R : ToolRuntime) (records : List ConsumptionRecord) : Prop where
  lawful : ∀ record ∈ records, LawfulRecord R record
  bounded : records.length ≤ maxConsumptionRecords
  unique : (records.map (·.approvalId)).Nodup
  ordered : records.Pairwise fun a b => a.key ≤ b.key

/-- A value that says of a store that it holds some records. -/
def DescribesStore (value : Value) (records : List ConsumptionRecord) : Prop :=
  ∃ root items, value = .object root ∧
    (∀ key, key ∈ root.map Prod.fst ↔ key ∈ ["schema_version", "consumed"]) ∧
    get root "schema_version" = .text "1.0" ∧ get root "consumed" = .array items ∧
    List.Forall₂ Describes items records

theorem DescribesStore.unique (h : DescribesStore value records)
    (h' : DescribesStore value existing) : records = existing := by
  obtain ⟨root, items, rfl, -, -, hitems, h⟩ := h
  obtain ⟨_, _, hroot, -, -, hitems', h'⟩ := h'
  cases hroot
  rw [hitems, Value.array.injEq] at hitems'
  subst hitems'
  have hunique : Relator.RightUnique Describes := fun _ _ _ h h' => h.unique h'
  exact hunique.forall₂ h h'

theorem describesStore_storeDict : DescribesStore (storeDict records) records := by
  refine ⟨_, records.map ConsumptionRecord.toDict, rfl, fun key => ?_, rfl, rfl, ?_⟩
  · simp only [List.map_cons, List.map_nil, List.mem_cons, List.not_mem_nil, or_false]
    tauto
  · rw [List.forall₂_map_left_iff, List.forall₂_same]
    exact fun record _ => describes_toDict

theorem forall₂_and_right {α β : Type} {r : α → β → Prop} {p : β → Prop} {l : List α}
    {u : List β} : List.Forall₂ (fun a b => r a b ∧ p b) l u ↔ List.Forall₂ r l u ∧ ∀ b ∈ u, p b := by
  constructor
  · intro h
    induction h with
    | nil => exact ⟨.nil, nofun⟩
    | cons hone _ ih => exact ⟨.cons hone.1 ih.1, List.forall_mem_cons.mpr ⟨hone.2, ih.2⟩⟩
  · rintro ⟨h, hp⟩
    induction h with
    | nil => exact .nil
    | cons hone _ ih =>
      obtain ⟨hb, hp⟩ := List.forall_mem_cons.mp hp
      exact .cons ⟨hone, hb⟩ (ih hp)

theorem parseConsumptionRecords_eq_ok {items : List Value} :
    items.zipIdx.mapM (parseConsumptionRecord R now) = .ok records ↔
      List.Forall₂ Describes items records ∧
        ∀ record ∈ records, LawfulRecord R record ∧ Past R now record := by
  have hone : (fun (a : Value × Nat) b => parseConsumptionRecord R now a = .ok b) =
      fun a b => Describes a.1 b ∧ LawfulRecord R b ∧ Past R now b :=
    funext fun a => funext fun b => propext parseConsumptionRecord_eq_ok
  rw [← forall₂_and_right, mapM_eq_ok, hone]
  conv_rhs => rw [← List.zipIdx_map_fst 0 items, List.forall₂_map_left_iff]

theorem parseConsumptionStore_eq_ok : parseConsumptionStore R value now = .ok records ↔
    DescribesStore value records ∧ LawfulRecords R records ∧
      ∀ record ∈ records, Past R now record := by
  have hversion : isText "1.0" = true := by decide
  simp only [parseConsumptionStore, bind_eq_ok, asContract_eq_ok, Payload.objectValue_eq_ok,
    onlyKeys_eq_ok, exists_unit, string_eq_ok, require_eq_ok]
  constructor
  · rintro ⟨root, rfl, hkeys, _, ⟨hschema, -⟩, rfl, h⟩
    split at h
    · next items hitems =>
      simp only [bind_eq_ok, require_eq_ok, exists_unit, parseConsumptionRecords_eq_ok,
        pure_eq_ok] at h
      obtain ⟨hbounded, _, ⟨hdescribes, hrecords⟩, hunique, hordered, rfl⟩ := h
      refine ⟨⟨root, items, rfl, hkeys, hschema, hitems, hdescribes⟩, ?_,
        fun record hrecord => (hrecords record hrecord).2⟩
      exact ⟨fun record hrecord => (hrecords record hrecord).1,
        hdescribes.length_eq ▸ hbounded, hunique, hordered⟩
    · cases h
  · rintro ⟨⟨root, items, rfl, hkeys, hschema, hitems, hdescribes⟩, h, hpast⟩
    refine ⟨root, rfl, hkeys, _, ⟨hschema, hversion⟩, rfl, ?_⟩
    simp only [hitems, bind_eq_ok, require_eq_ok, exists_unit, parseConsumptionRecords_eq_ok,
      pure_eq_ok]
    exact ⟨hdescribes.length_eq ▸ h.bounded, records,
      ⟨hdescribes, fun record hrecord => ⟨h.lawful record hrecord, hpast record hrecord⟩⟩,
      h.unique, h.ordered, rfl⟩

/-- A file that holds some records. -/
def FileDescribes (R : ToolRuntime) (file : Option StoredFile)
    (records : List ConsumptionRecord) : Prop :=
  (file = none ∧ records = []) ∨ ∃ size content decoded, file = some (.content size content) ∧
    size ≤ maxConsumptionBytes ∧ '\x00' ∉ content ∧ R.loads content = some decoded ∧
      DescribesStore decoded records

theorem FileDescribes.unique (h : FileDescribes R file records)
    (h' : FileDescribes R file existing) : records = existing := by
  rcases h with ⟨rfl, rfl⟩ | ⟨size, content, decoded, rfl, -, -, hloads, h⟩
  · rcases h' with ⟨-, rfl⟩ | ⟨_, _, _, hfile, -⟩
    · rfl
    · cases hfile
  · rcases h' with ⟨hfile, -⟩ | ⟨_, _, _, hfile, -, -, hloads', h'⟩
    · cases hfile
    · cases hfile
      rw [hloads, Option.some.injEq] at hloads'
      exact h.unique (hloads' ▸ h')

theorem loadConsumptionRecords_eq_ok : loadConsumptionRecords R file now = .ok records ↔
    FileDescribes R file records ∧ LawfulRecords R records ∧
      ∀ record ∈ records, Past R now record := by
  cases file with
  | none =>
    simp only [loadConsumptionRecords, Except.ok.injEq, FileDescribes, reduceCtorEq, false_and,
      exists_false, or_false, true_and]
    constructor
    · rintro rfl
      exact ⟨rfl, ⟨nofun, Nat.zero_le _, List.nodup_nil, .nil⟩, nofun⟩
    · rintro ⟨rfl, -⟩
      rfl
  | some stored =>
    cases stored with
    | irregular => simp [loadConsumptionRecords, FileDescribes]
    | unreadable => simp [loadConsumptionRecords, FileDescribes]
    | undecodable size => simp [loadConsumptionRecords, FileDescribes]
    | content size content =>
      simp only [loadConsumptionRecords, FileDescribes, bind_eq_ok, require_eq_ok, exists_unit,
        reduceCtorEq, false_and, false_or, Option.some.injEq, StoredFile.content.injEq]
      constructor
      · rintro ⟨hsize, hnul, h⟩
        split at h
        · cases h
        · next decoded hloads =>
          obtain ⟨hdescribes, h⟩ := parseConsumptionStore_eq_ok.mp h
          exact ⟨⟨size, content, decoded, ⟨rfl, rfl⟩, hsize, hnul, hloads, hdescribes⟩, h⟩
      · rintro ⟨⟨_, _, decoded, ⟨rfl, rfl⟩, hsize, hnul, hloads, hdescribes⟩, h⟩
        refine ⟨hsize, hnul, ?_⟩
        rw [hloads]
        exact parseConsumptionStore_eq_ok.mpr ⟨hdescribes, h⟩

/-- The file that a claim publishes. -/
def storeFile (records : List ConsumptionRecord) : Option StoredFile :=
  some (.content (byteLength (printed (storeDict records))) (printed (storeDict records)))

theorem fileDescribes_storeFile
    (h : byteLength (printed (storeDict records)) ≤ maxConsumptionBytes) :
    FileDescribes R (storeFile records) records := by
  refine .inr ⟨_, _, _, rfl, h, fun hnul => ?_, R.loads_printed _, describesStore_storeDict⟩
  rw [printed, List.mem_append] at hnul
  rcases hnul with hnul | hnul
  · exact absurd (JsonText.printable_dumps _ _ _ hnul) (by decide)
  · exact absurd hnul (by decide)

/-! ## Claims -/

variable {applied : List (ExecutionApproval R)} {claimedAt : Datetime R}
  {next : Option StoredFile}

/-- The records of a store with some more. -/
def withRecords (existing added : List ConsumptionRecord) : List ConsumptionRecord :=
  (existing ++ added).insertionSort fun a b => a.key ≤ b.key

theorem withRecords_perm (existing added : List ConsumptionRecord) :
    (withRecords existing added).Perm (existing ++ added) := List.perm_insertionSort _ _

theorem claim_eq_ok : claim applied claimedAt file = .ok next ↔
    ∃ existing, loadConsumptionRecords R file claimedAt.moment = .ok existing ∧
      (∀ record ∈ existing, record.approvalId ∉ applied.map (·.approvalId)) ∧
      (withRecords existing (applied.map (claimRecord claimedAt))).length ≤
        maxConsumptionRecords ∧
      byteLength (printed (storeDict
        (withRecords existing (applied.map (claimRecord claimedAt))))) ≤ maxConsumptionBytes ∧
      next = storeFile (withRecords existing (applied.map (claimRecord claimedAt))) := by
  have hnone (existing : List ConsumptionRecord) :
      (((existing.map (·.approvalId)).filter fun id =>
        id ∈ applied.map (·.approvalId)).insertionSort (· ≤ ·)).head? = none ↔
        ∀ record ∈ existing, record.approvalId ∉ applied.map (·.approvalId) := by
    rw [List.head?_eq_none_iff, ← List.length_eq_zero_iff, List.length_insertionSort,
      List.length_eq_zero_iff, List.filter_eq_nil_iff, List.forall_mem_map]
    simp only [decide_eq_true_eq]
  simp only [claim, bind_eq_ok]
  refine exists_congr fun existing => and_congr_right fun _ => ?_
  rw [← hnone]
  split
  · next id hid =>
    simp only [reduceCtorEq, hid, false_and]
  · next hid =>
    simp only [bind_eq_ok, require_eq_ok, exists_unit, pure_eq_ok, hid, true_and, withRecords,
      storeFile, eq_comm (a := next)]

theorem isText_of_legible (h : Legible text.toList) (hlength : text.toList.length ≤ 500) :
    isText text = true := by
  simp only [isText, Bool.and_eq_true, decide_eq_true_eq]
  exact ⟨⟨written_of_legible h, hlength⟩, h.one_line⟩

theorem isText_of_isApprovalId (h : isApprovalId text = true) : isText text = true := by
  have hword : ∀ c, Evidence.isUpperWord c = true → Visible c := by
    intro c hc
    simp only [Evidence.isUpperWord, Bool.or_eq_true, decide_eq_true_eq] at hc
    rcases hc with (hc | hc) | rfl
    · exact visible_of_isUpper hc
    · exact visible_of_isDigit hc
    · decide
  have hdigit : ∀ c, Evidence.isUpperDigit c = true → Visible c := fun c hc =>
    hword c (by rw [Evidence.isUpperWord, ← Evidence.isUpperDigit, hc, Bool.true_or])
  have hlegible : Legible text.toList := by
    refine legible_of_marked (legible_of_all (by decide) (by decide)).2 (fun cs hcs => ?_) h
    obtain ⟨hne, hchars, -⟩ := isRun_chars hdigit hword hcs
    exact ⟨hne, hchars⟩
  refine isText_of_legible hlegible ?_
  obtain ⟨rest, hrest, hrun⟩ := marked_iff.mp h
  obtain ⟨-, -, hlength⟩ := isRun_chars hdigit hword hrun
  have hmark : "APR-".toList.length = 4 := rfl
  rw [hrest, List.length_append]
  omega

theorem isText_of_isDigest (h : isDigest text.toList = true) : isText text = true := by
  have hlegible : Legible text.toList :=
    @LegiblePattern.legible (fun text => isDigest text.toList) _ text h
  exact isText_of_legible hlegible (by rw [(isDigest_iff.mp h).1]; decide)

/-- A recorded claim is a record that the next reader accepts. -/
theorem lawful_claimRecord {approval : ExecutionApproval R}
    (hid : isApprovalId approval.approvalId = true) (haware : claimedAt.moment.aware = true) :
    LawfulRecord R (claimRecord claimedAt approval) := by
  have hdigest : isDigest (approvalScopeDigest approval).toList = true := by
    rw [approvalScopeDigest, String.toList_ofList]
    exact R.digest_hex _
  exact ⟨⟨isText_of_isApprovalId hid, isText_of_isDigest hdigest, claimedAt.line⟩, hid, hdigest,
    claimedAt.moment, claimedAt.reads, haware⟩

theorem past_claimRecord {approval : ExecutionApproval R}
    (h : claimedAt.moment.instant ≤ now.instant) : Past R now (claimRecord claimedAt approval) := by
  intro time htime
  rw [claimRecord, claimedAt.reads, Option.some.injEq] at htime
  exact htime ▸ h

/-! ## Policy -/

variable {tool : ToolDefinition} {approvals : List (ExecutionApproval R)}
  {additional consumed : List String} {approval : ExecutionApproval R}

theorem provenanceValid_of_integrity (h : approvalIntegrityError approval now = .ok none) :
    ProvenanceValid approval now := by
  by_contra hinvalid
  rw [approvalIntegrityError, if_pos hinvalid] at h
  cases h

theorem provenanceValid_of_first (h : firstIntegrityError now approvals = .ok none) :
    ∀ approval ∈ approvals, ProvenanceValid approval now := by
  induction approvals with
  | nil => exact List.forall_mem_nil _
  | cons approval approvals ih =>
    rw [firstIntegrityError] at h
    split at h
    · next hone =>
      exact List.forall_mem_cons.mpr ⟨provenanceValid_of_integrity hone, ih h⟩
    · next hother => exact absurd h hother

/-- What the policy of a tool has found in order. -/
structure PolicyPassed (tool : ToolDefinition) (approvals : List (ExecutionApproval R))
    (additional consumed : List String) (now : Moment) : Prop where
  aware : now.aware = true
  sandbox : ∀ item ∈ additional, item = "technical_sandbox"
  unique : (approvals.map (·.approvalId)).Nodup
  provenance : ∀ approval ∈ approvals, ProvenanceValid approval now
  required : ∀ item ∈ requirements tool,
    requirementError tool approvals additional consumed item = none

theorem passed_of_approvalError
    (h : approvalError tool approvals additional now consumed = .ok none) :
    PolicyPassed tool approvals additional consumed now := by
  unfold approvalError at h
  split at h
  · cases h
  next haware =>
  split at h
  · cases h
  next hsandbox =>
  split at h
  · cases h
  next hunique =>
  split at h
  · cases h
  · cases h
  next hfirst =>
  split_ifs at h
  · cases h
  · cases h
  · cases h
  · exact ⟨by simpa using haware, not_not.mp hsandbox, not_not.mp hunique,
      provenanceValid_of_first hfirst, List.findSome?_eq_none_iff.mp (Except.ok.inj h)⟩

/-- The one approval of a type that applies to a tool. -/
structure Exact (tool : ToolDefinition) (approvals : List (ExecutionApproval R))
    (now : Moment) (approvalType : String) (approval : ExecutionApproval R) : Prop where
  only : matching tool approvals approvalType = [approval]
  lasts : ProvenanceValid approval now

theorem exact_of_required {approvalType : String} {requirement : ApprovalRequirement}
    (h : PolicyPassed tool approvals additional consumed now)
    (hitem : (approvalType, requirement) ∈ requirements tool)
    (hrequired : requirement = .required ∨ approvalType ∈ additional) :
    ∃ approval, Exact tool approvals now approvalType approval ∧
      approval.approvalId ∉ consumed := by
  have hnone := h.required _ hitem
  rw [requirementError, if_neg (by simpa [or_iff_not_imp_left] using hrequired)] at hnone
  split at hnone
  · next approval hmatching =>
    split at hnone
    · cases hnone
    · next hnew =>
      have hmem : approval ∈ matching tool approvals approvalType := by
        rw [hmatching]
        exact List.mem_singleton_self _
      exact ⟨approval, ⟨hmatching, h.provenance _ (List.mem_of_mem_filter hmem)⟩, hnew⟩
  · cases hnone

/-- Each type of approval that a call needs is given exactly once, by an approval that lasts. -/
theorem PolicyPassed.exact (h : PolicyPassed tool approvals additional consumed now)
    {approvalType : String} (htype : approvalType ∈ requiredTypes tool additional) :
    ∃ approval, Exact tool approvals now approvalType approval ∧
      approval.approvalId ∉ consumed := by
  rw [requiredTypes, List.mem_append, List.mem_map] at htype
  rcases htype with ⟨⟨_, requirement⟩, hitem, rfl⟩ | hadditional
  · rw [List.mem_filter, decide_eq_true_eq] at hitem
    exact exact_of_required h hitem.1 (.inl hitem.2)
  · have hsandbox := h.sandbox _ hadditional
    subst hsandbox
    have hitem : ("technical_sandbox", tool.technicalApproval) ∈ requirements tool := by
      simp [requirements]
    exact exact_of_required h hitem (.inr hadditional)

theorem mem_appliedApprovals (hunique : (approvals.map (·.approvalId)).Nodup) :
    approval ∈ appliedApprovals tool approvals additional ↔ approval ∈ approvals ∧
      approval.approvalType ∈ requiredTypes tool additional ∧
      approvalMatchesTool approval tool = true := by
  rw [appliedApprovals, List.mem_filter, decide_eq_true_eq]
  refine and_congr_right fun hmem => ?_
  rw [appliedApprovalIds, List.mem_insertionSort, List.mem_map]
  simp only [List.mem_filter, decide_eq_true_eq]
  constructor
  · rintro ⟨other, ⟨hother, hmatches⟩, hid⟩
    rwa [List.inj_on_of_nodup_map hunique hother hmem hid] at hmatches
  · exact fun hmatches => ⟨approval, ⟨hmem, hmatches⟩, rfl⟩

variable {c : CheckCall R}

/-- A check that is admitted has passed its policy and claims what applies. -/
theorem passed_of_admission (h : c.admission = .ok (.admitted applied)) :
    PolicyPassed c.tool c.approvals c.additional c.consumed c.now.moment ∧
      c.tool.risk ≠ .prohibited ∧ applied = appliedApprovals c.tool c.approvals c.additional := by
  unfold CheckCall.admission at h
  split at h
  · cases h
  split at h
  · cases h
  · cases h
  next herror =>
  have hpassed := passed_of_approvalError herror
  split_ifs at h with hrisk hlocated hids hstore
  · cases h
  · cases h
  · cases h
    exact ⟨hpassed, hrisk, by simp [appliedApprovals, hids]⟩
  · cases h
  · cases h
    exact ⟨hpassed, hrisk, rfl⟩

/-! ## Runs of the store -/

theorem applied_of_admission (h : c.admission = .ok (.admitted applied)) : c.applied = applied := by
  rw [CheckCall.applied, h]

theorem claim_of_call (h : c.claim file = .ok next) :
    c.admission = .ok (.admitted c.applied) ∧ claim c.applied c.now file = .ok next := by
  unfold CheckCall.claim at h
  split at h
  · cases h
  · cases h
  next applied hadmission =>
  split at h
  · cases h
  rw [applied_of_admission hadmission]
  exact ⟨hadmission, h⟩

theorem applied_unique (h : c.admission = .ok (.admitted c.applied)) :
    (c.applied.map (·.approvalId)).Nodup := by
  obtain ⟨hpassed, -, happlied⟩ := passed_of_admission h
  rw [happlied]
  exact hpassed.unique.sublist (List.filter_sublist.map _)

theorem applied_lawful (h : c.admission = .ok (.admitted c.applied)) :
    ∀ record ∈ c.records, LawfulRecord R record := by
  obtain ⟨hpassed, -, happlied⟩ := passed_of_admission h
  rw [CheckCall.records, List.forall_mem_map]
  intro approval hmem
  rw [happlied] at hmem
  have hvalid := hpassed.provenance approval (List.mem_of_mem_filter hmem)
  exact lawful_claimRecord hvalid.2.1 hpassed.aware

theorem records_ids : c.records.map (·.approvalId) = c.applied.map (·.approvalId) := by
  rw [CheckCall.records, List.map_map]
  rfl

/-- What a claim adds keeps the store lawful. -/
theorem lawful_withRecords (hc : c.admission = .ok (.admitted c.applied))
    (h : LawfulRecords R existing)
    (hnew : ∀ record ∈ existing, record.approvalId ∉ c.applied.map (·.approvalId))
    (hbounded : (withRecords existing c.records).length ≤ maxConsumptionRecords) :
    LawfulRecords R (withRecords existing c.records) := by
  have hperm := withRecords_perm existing c.records
  have hids : ((existing ++ c.records).map (·.approvalId)).Nodup := by
    rw [List.map_append, records_ids]
    refine h.unique.append (applied_unique hc) fun id hid => ?_
    obtain ⟨record, hrecord, rfl⟩ := List.mem_map.mp hid
    exact hnew record hrecord
  have hkeys : ((existing ++ c.records).map ConsumptionRecord.key).Nodup := by
    refine List.Nodup.of_map (fun key => (ofLex key).1) ?_
    rwa [List.map_map]
  refine ⟨fun record hrecord => ?_, hbounded, (hperm.map _).nodup_iff.mpr hids, ?_⟩
  · rw [hperm.mem_iff, List.mem_append] at hrecord
    exact hrecord.elim (h.lawful record) (applied_lawful hc record)
  · exact (Sorting.increasing_insertionSort hkeys).imp fun hlt => hlt.le

variable {ι : Type} {calls : ι → CheckCall R} {start : Option StoredFile} {done : List ι} {i : ι}

/-- What the store holds after some calls replaced it: what it held, and the records of the calls. -/
structure Held (calls : ι → CheckCall R) (start : Option StoredFile) (done : List ι)
    (file : Option StoredFile) : Prop where
  untouched : done = [] → file = start
  readable : done ≠ [] → ∃ initial, FileDescribes R start initial ∧ LawfulRecords R initial
  records : ∀ initial, FileDescribes R start initial → LawfulRecords R initial →
    ∃ records, FileDescribes R file records ∧ LawfulRecords R records ∧
      records.Perm (initial ++ done.flatMap fun i => (calls i).records)
  admitted : ∀ i ∈ done, (calls i).admission = .ok (.admitted (calls i).applied)

theorem held_start : Held calls start [] start where
  untouched _ := rfl
  readable h := absurd rfl h
  records initial hdescribes h := ⟨initial, hdescribes, h, by simp⟩
  admitted := nofun

theorem Held.claim (h : Held calls start done file) (hnext : (calls i).claim file = .ok next) :
    Held calls start (done ++ [i]) next := by
  obtain ⟨hadmission, hclaim⟩ := claim_of_call hnext
  obtain ⟨existing, hload, hnew, hbounded, hbytes, rfl⟩ := claim_eq_ok.mp hclaim
  obtain ⟨hdescribes, hlawful, -⟩ := loadConsumptionRecords_eq_ok.mp hload
  refine ⟨fun hnil => absurd hnil (by simp), fun _ => ?_, fun initial hinitial h' => ?_, ?_⟩
  · by_cases hdone : done = []
    · exact ⟨existing, h.untouched hdone ▸ hdescribes, hlawful⟩
    · exact h.readable hdone
  · obtain ⟨records, hrecords, -, hperm⟩ := h.records initial hinitial h'
    obtain rfl := hdescribes.unique hrecords
    refine ⟨_, fileDescribes_storeFile hbytes, lawful_withRecords hadmission hlawful hnew hbounded,
      ?_⟩
    rw [List.flatMap_append, List.flatMap_singleton, ← List.append_assoc]
    exact (withRecords_perm _ _).trans (hperm.append_right _)
  · rw [List.forall_mem_append]
    exact ⟨h.admitted, List.forall_mem_singleton.mpr hadmission⟩

variable {events : List (Event ι Unit Failure)} {s : State ι (Option StoredFile) Failure}
  {allowed : State ι (Option StoredFile) Failure → Event ι Unit Failure → Prop}

/-- The step of a check under the lock. -/
def step (calls : ι → CheckCall R) (i : ι) (_ : Unit) (file : Option StoredFile) :
    Except Failure (Option StoredFile) := (calls i).claim file

/-- A check starts its process when it is admitted, at once where it has nothing to claim and else
after its claim has returned. -/
def Started (calls : ι → CheckCall R) (s : State ι (Option StoredFile) Failure) (i : ι) : Prop :=
  (calls i).admission = .ok (.admitted (calls i).applied) ∧
    ((calls i).applied = [] ∨ ∃ next, s.phase i = .returned next)

/-- The identifiers of the approvals of a check. -/
def CheckCall.ids (c : CheckCall R) : List String := c.applied.map (·.approvalId)

/-- What holds of the checks that share a store, whatever the order of their steps. -/
structure SingleUse (calls : ι → CheckCall R) (start : Option StoredFile)
    (events : List (Event ι Unit Failure)) (s : State ι (Option StoredFile) Failure) : Prop where
  /-- No approval starts two processes. -/
  once : ∀ i j, Started calls s i → Started calls s j → i ≠ j →
    (calls i).ids.Disjoint (calls j).ids
  /-- No approval that the store held already starts a process. -/
  fresh : ∀ now initial, loadConsumptionRecords R start now = .ok initial →
    ∀ i, Started calls s i → (initial.map (·.approvalId)).Disjoint (calls i).ids
  /-- The approvals of a started process are recorded. -/
  recorded : ∀ i, Started calls s i → ∀ now records,
    loadConsumptionRecords R s.content now = .ok records → (calls i).records ⊆ records
  kept : ∀ now initial now' records, loadConsumptionRecords R start now = .ok initial →
    loadConsumptionRecords R s.content now' = .ok records → initial ⊆ records
  readable : ∀ now initial, loadConsumptionRecords R start now = .ok initial →
    (∀ i ∈ published events, (calls i).now.moment.instant ≤ now.instant) →
    ∃ records, loadConsumptionRecords R s.content now = .ok records
  /-- Each approval that a tool requires is given, matches the tool and lasts. -/
  approved : ∀ i, Started calls s i →
    ∀ approvalType ∈ requiredTypes (calls i).tool (calls i).additional,
      ∃ approval ∈ (calls i).applied,
        Exact (calls i).tool (calls i).approvals (calls i).now.moment approvalType approval
  permitted : ∀ i, Started calls s i → (calls i).tool.risk ≠ .prohibited
  refused : ∀ i error, s.phase i = .raised error → i ∉ published events ∧ s.lock ≠ some i

theorem Started.published (hholds : Holds (step calls) events s) (h : Started calls s i)
    (hmem : ∃ approval, approval ∈ (calls i).applied) : i ∈ published events := by
  rcases h.2 with hnil | ⟨next, hreturned⟩
  · obtain ⟨approval, hmem⟩ := hmem
    rw [hnil] at hmem
    cases hmem
  · rw [hholds.replaced, hreturned, Phase.replaced]

/-- The identifiers of the store are those it held and those of the calls, all distinct. -/
theorem Held.distinct (h : Held calls start done file) {initial : List ConsumptionRecord}
    (hinitial : FileDescribes R start initial) (hlawful : LawfulRecords R initial) :
    (initial.map (·.approvalId) ++ done.flatMap fun i => (calls i).ids).Nodup := by
  obtain ⟨records, -, hrecords, hperm⟩ := h.records initial hinitial hlawful
  have hids := (hperm.map (·.approvalId)).nodup_iff.mp hrecords.unique
  rw [List.map_append, List.map_flatMap] at hids
  simpa only [records_ids, CheckCall.ids] using hids

variable [DecidableEq ι]

theorem Run.held (h : Run (step calls) allowed (.start start) events s) :
    Held calls start (published events) s.content :=
  h.content held_start fun _ _ _ _ _ hheld _ hnext => hheld.claim hnext

/-- A run in which two texts are points in time and every digest is the same. -/
def plainToolRuntime : ToolRuntime where
  hexdigest _ := String.ofList (List.replicate 64 'a')
  casefold text := text
  fromisoformat text := some ⟨if text = "2026-01-01T00:00:00+00:00" then 0 else 1, true⟩
  urlsplit text := some {
    scheme := "", netloc := "", path := text, query := "", fragment := "", hostname := none,
    username := none, password := none, port := some none }
  loads := JsonText.loads
  loads_printed _ := loads_printed
  digest_hex _ := by decide +kernel

def earlier : Datetime plainToolRuntime where
  moment := ⟨0, true⟩
  isoformat := "2026-01-01T00:00:00+00:00"
  reads := rfl
  line := by decide

def later : Datetime plainToolRuntime where
  moment := ⟨1, true⟩
  isoformat := "2026-01-02T00:00:00+00:00"
  reads := by decide +kernel
  line := by decide

def plainTool : ToolDefinition where
  name := "git"
  versionCommand := ["git", "--version"]
  platforms := ["linux"]
  normalScope := ["docs"]
  protectedPaths := []
  networkRequired := false
  networkDestinations := []
  isOptional := false
  risk := .low
  technicalApproval := .notRequired
  ownerApproval := .required

def plainApproval : ExecutionApproval plainToolRuntime where
  schemaVersion := "1.0"
  approvalId := "APR-001"
  approvalType := "owner"
  action := approvalAction
  toolName := "git"
  command := ["git", "--version"]
  networkDestinations := []
  normalScope := ["docs"]
  protectedPaths := []
  risk := .low
  status := "approved"
  rationale := "Needed"
  reversible := true
  approvedBy := "Owner"
  approvedAt := earlier
  expiresAt := later
  lifetime := approvalLifetime
  maxExecutions := 1

def plainCall : CheckCall plainToolRuntime where
  tool := plainTool
  approvals := [plainApproval]
  consumed := []
  additional := []
  platform := "linux"
  now := earlier
  located := some "/usr/bin/git"
  hasStore := true

theorem plainCall_admission : plainCall.admission = .ok (.admitted [plainApproval]) := by
  rfl

theorem plainCall_claims : plainCall.claim none = .ok (storeFile plainCall.records) := by
  decide +kernel

theorem plainCall_refused : plainCall.claim (storeFile plainCall.records) =
    .error (.contract "Execution approval APR-001 is already consumed.") := by
  decide +kernel

end Sdaqf.Tooling
