import Sdaqf.EvidenceGate
import Sdaqf.JsonFiles
import Sdaqf.LockedStore
import Sdaqf.Sorting

/-!
# The store of the evidence ledger

Records are added to the ledger file behind a lock file, and every addition replaces the file at
once. The loader bounds the bytes and the values of the file, and the writer bounds neither: as long
as what is published fits, the file stays loadable and holds the initial evidence and what was
added. Two records of long texts outside ASCII, which the writer escapes, give a file that no later
call can load.
-/

namespace Sdaqf.Evidence

open Guard Payload LockedStore
open JsonText (Value)

section Files

variable (R : Runtime)

/-- Load and validate one versioned Claim-Evidence Ledger. -/
def loadEvidenceLedger (content : List Char) : Except String EvidenceLedger := do
  let decoded ← parseJsonBytes content "Evidence ledger" (256 * 1024)
  let root ← objectValue decoded "Evidence ledger"
  parseEvidenceLedger R (.object root)

/-- The ledger with one more record, in the order of the identifiers. -/
def EvidenceLedger.withRecord (ledger : EvidenceLedger) (record : EvidenceRecord) :
    EvidenceLedger where
  baselineId := ledger.baselineId
  sourceSpecSha256 := ledger.sourceSpecSha256
  gitHead := ledger.gitHead
  repositoryDigest := ledger.repositoryDigest
  claims := ledger.claims
  evidence := (ledger.evidence ++ [record]).insertionSort fun a b => a.evidenceId ≤ b.evidenceId
  diffReviewEvidenceId := ledger.diffReviewEvidenceId
  schemaVersion := "1.0"

/-- The updated ledger, validated as the loader will validate it. -/
def updatedLedger (ledger : EvidenceLedger) (record : EvidenceRecord) :
    Except String EvidenceLedger := do
  require (record.evidenceId ∉ ledger.evidence.map (·.evidenceId))
    "Evidence identifier already exists."
  require (∀ id ∈ record.claimIds, id ∈ ledger.claims.map (·.claimId))
    "Evidence record references an unknown claim."
  require (record.commit = ledger.gitHead ∧ record.repositoryDigest = ledger.repositoryDigest)
    "Evidence record does not match the ledger candidate."
  let _ ← parseEvidenceLedger R (ledger.withRecord record).toDict
  return ledger.withRecord record

/-- What a call of `add` computes from the file it reads. -/
def add {ι : Type} (records : ι → EvidenceRecord) (i : ι) (_ : Unit) (content : List Char) :
    Except String (List Char) := do
  let ledger ← loadEvidenceLedger R content
  let updated ← updatedLedger R ledger (records i)
  return printed updated.toDict

/-- A record that the loader of standalone records returns. -/
def IsRecord (record : EvidenceRecord) : Prop :=
  ∃ payload, JsonText.Strict payload ∧ parseEvidenceRecord R payload = .ok record

/-- The steps after which the file fits its loader: a call that replaces the file has a ledger that
fits with its record, and no call fails to remove its lock file. -/
def Fitting {ι : Type} (records : ι → EvidenceRecord) (s : State ι (List Char) String) :
    Event ι Unit String → Prop
  | .publish i => ∀ ledger, loadEvidenceLedger R s.content = .ok ledger →
      Fits (256 * 1024) (ledger.withRecord (records i)).toDict
  | .halt _ => False
  | _ => True

end Files

/-- The ledger with some more records. -/
def EvidenceLedger.withRecords (ledger : EvidenceLedger) (records : List EvidenceRecord) :
    EvidenceLedger :=
  { ledger with
    evidence := (ledger.evidence ++ records).insertionSort fun a b => a.evidenceId ≤ b.evidenceId }

/-! ## The loader reads what the writer prints -/

variable {R : Runtime} {ledger updated : EvidenceLedger} {record : EvidenceRecord}
  {content : List Char}

theorem strict_textArray (texts : List String) : JsonText.Strict (textArray texts) := by
  rw [textArray, JsonText.strict_array, List.forall_mem_map]
  exact fun _ _ => JsonText.strict_text

theorem shallow_textArray {n : Nat} (texts : List String) :
    JsonText.Shallow (n + 1) (textArray texts) := by
  rw [textArray, JsonText.shallow_array, List.forall_mem_map]
  exact fun _ _ => JsonText.shallow_text

theorem strict_claim (claim : LedgerClaim) : JsonText.Strict claim.toDict := by
  rw [LedgerClaim.toDict, JsonText.strict_object]
  refine ⟨by simp, ?_⟩
  simp only [List.forall_mem_cons, strict_textArray, JsonText.strict_text, true_and]
  exact List.forall_mem_nil _

theorem shallow_claim (claim : LedgerClaim) : JsonText.Shallow 2 claim.toDict := by
  rw [LedgerClaim.toDict, JsonText.shallow_object]
  simp only [List.forall_mem_cons, shallow_textArray, JsonText.shallow_text, true_and]
  exact List.forall_mem_nil _

theorem strict_reference (reference : ArtifactReference) : JsonText.Strict reference.toDict := by
  rw [ArtifactReference.toDict, JsonText.strict_object]
  refine ⟨by simp, ?_⟩
  simp only [List.forall_mem_cons, JsonText.strict_text, true_and]
  exact List.forall_mem_nil _

theorem shallow_reference {n : Nat} (reference : ArtifactReference) :
    JsonText.Shallow (n + 1) reference.toDict := by
  rw [ArtifactReference.toDict, JsonText.shallow_object]
  simp only [List.forall_mem_cons, JsonText.shallow_text, true_and]
  exact List.forall_mem_nil _

theorem strict_evidence (h : LawfulEvidence R record) : JsonText.Strict record.toDict := by
  have hartifacts : JsonText.Strict (.array (record.artifacts.map ArtifactReference.toDict)) := by
    rw [JsonText.strict_array, List.forall_mem_map]
    exact fun reference _ => strict_reference reference
  have henvironment : JsonText.Strict
      (.object (record.environment.map fun item => (item.1, .text item.2))) := by
    rw [JsonText.strict_object, List.map_map, List.forall_mem_map]
    refine ⟨?_, fun _ _ => JsonText.strict_text⟩
    have hkeys : (record.environment.map Prod.fst).Pairwise (· < ·) :=
      List.pairwise_map.mpr h.environmentSorted
    exact hkeys.imp ne_of_lt
  rw [EvidenceRecord.toDict, JsonText.strict_object]
  refine ⟨by simp, ?_⟩
  simp only [List.forall_mem_cons, hartifacts, henvironment, strict_textArray, JsonText.strict_text,
    true_and]
  exact List.forall_mem_nil _

theorem shallow_evidence (record : EvidenceRecord) : JsonText.Shallow 3 record.toDict := by
  have hartifacts : JsonText.Shallow 2
      (.array (record.artifacts.map ArtifactReference.toDict)) := by
    rw [JsonText.shallow_array, List.forall_mem_map]
    exact fun reference _ => shallow_reference reference
  have henvironment : JsonText.Shallow 2
      (.object (record.environment.map fun item => (item.1, .text item.2))) := by
    rw [JsonText.shallow_object, List.forall_mem_map]
    exact fun _ _ => JsonText.shallow_text
  rw [EvidenceRecord.toDict, JsonText.shallow_object]
  simp only [List.forall_mem_cons, hartifacts, henvironment, shallow_textArray,
    JsonText.shallow_text, true_and]
  exact List.forall_mem_nil _

/-- A written record that stands alone. -/
def EvidenceRecord.standalone (record : EvidenceRecord) : Value :=
  match record.toDict with
  | .object members => .object (("schema_version", .text "1.0") :: members)
  | value => value

theorem parseEvidenceRecord_standalone (h : LawfulEvidence R record) :
    parseEvidenceRecord R record.standalone = .ok record := by
  have hartifacts (field : String) : mapIndexed field artifactReferenceOf
      (record.artifacts.map ArtifactReference.toDict) = .ok record.artifacts :=
    mapIndexed_map fun reference hmem _ =>
      artifactReferenceOf_toDict (h.artifacts.2 reference hmem)
  have henvironment := environment_toDict "evidence_record" h.environmentSorted h.environmentItems
  have hversion : BoundedText 10 "1.0" := by decide
  simp [parseEvidenceRecord, parseEvidenceFields, EvidenceRecord.standalone, EvidenceRecord.toDict,
    onlyKeys_of_keys, evidenceKeys, hversion,
    enumOf_value (bounded_evidenceType _), enumOf_value (bounded_status _), h.environment,
    henvironment, hartifacts, h.artifacts.1, h.artifactsUnique, h.unverified,
    stringTupleOf_textArray h.claimIds, h.evidenceId, commandArgv_textArray h.command
    h.commandTexts, commitOf_eq_ok, h.commit, sha256Of_eq_ok, h.repositoryDigest,
    timestampValue_text h.recordedAt]
  exact ⟨h.artifactsPresent, h.claimNames⟩

theorem isRecord_of_lawful (h : LawfulEvidence R record) : IsRecord R record := by
  refine ⟨record.standalone, ?_, parseEvidenceRecord_standalone h⟩
  have hstrict := strict_evidence h
  rw [EvidenceRecord.toDict, JsonText.strict_object] at hstrict
  rw [EvidenceRecord.standalone, EvidenceRecord.toDict, JsonText.strict_object, List.map_cons,
    List.nodup_cons, List.forall_mem_cons]
  exact ⟨⟨by simp, hstrict.1⟩, JsonText.strict_text, hstrict.2⟩
theorem strict_ledger (h : LawfulLedger R ledger) : JsonText.Strict ledger.toDict := by
  have hclaims : JsonText.Strict (.array (ledger.claims.map LedgerClaim.toDict)) := by
    rw [JsonText.strict_array, List.forall_mem_map]
    exact fun claim _ => strict_claim claim
  have hevidence : JsonText.Strict (.array (ledger.evidence.map EvidenceRecord.toDict)) := by
    rw [JsonText.strict_array, List.forall_mem_map]
    exact fun record hrecord => strict_evidence (h.evidenceLawful record hrecord)
  rw [EvidenceLedger.toDict, JsonText.strict_object]
  refine ⟨by simp, ?_⟩
  simp only [List.forall_mem_cons, hclaims, hevidence, JsonText.strict_text, true_and]
  exact List.forall_mem_nil _

theorem shallow_ledger (ledger : EvidenceLedger) : JsonText.Shallow 64 ledger.toDict := by
  have hclaims : JsonText.Shallow 63 (.array (ledger.claims.map LedgerClaim.toDict)) := by
    rw [JsonText.shallow_array, List.forall_mem_map]
    exact fun claim _ w hw => (shallow_claim claim w hw).trans (by decide)
  have hevidence : JsonText.Shallow 63 (.array (ledger.evidence.map EvidenceRecord.toDict)) := by
    rw [JsonText.shallow_array, List.forall_mem_map]
    exact fun record _ w hw => (shallow_evidence record w hw).trans (by decide)
  rw [EvidenceLedger.toDict, JsonText.shallow_object]
  simp only [List.forall_mem_cons, hclaims, hevidence, JsonText.shallow_text, true_and]
  exact List.forall_mem_nil _

theorem lawful_of_load (h : loadEvidenceLedger R content = .ok ledger) : LawfulLedger R ledger := by
  simp only [loadEvidenceLedger, bind_eq_ok, parseJsonBytes_eq_ok, objectValue_eq_ok] at h
  obtain ⟨_, ⟨-, -, hstrict, -, -⟩, root, rfl, h⟩ := h
  exact lawful_of_parseEvidenceLedger hstrict h

/-- The loader reads the text of a lawful ledger back exactly if it fits. -/
theorem load_printed (h : LawfulLedger R ledger) :
    loadEvidenceLedger R (printed ledger.toDict) = .ok ledger ↔
      Fits (256 * 1024) ledger.toDict := by
  have hparse := parseEvidenceLedger_toDict h
  have hprinted : parseJsonBytes (printed ledger.toDict) "Evidence ledger" (256 * 1024) =
      .ok ledger.toDict ↔ Fits (256 * 1024) ledger.toDict :=
    parseJsonBytes_printed (strict_ledger h) (shallow_ledger ledger)
  obtain ⟨root, hroot⟩ : ∃ root, ledger.toDict = .object root := ⟨_, rfl⟩
  rw [hroot] at hparse hprinted ⊢
  rw [← hprinted]
  simp only [loadEvidenceLedger, bind_eq_ok, objectValue_eq_ok]
  constructor
  · rintro ⟨value, hvalue, -⟩
    have hloads := (parseJsonBytes_eq_ok.mp hvalue).2.1
    rw [loads_printed, Option.some.injEq] at hloads
    rwa [← hloads] at hvalue
  · intro hvalue
    exact ⟨.object root, hvalue, root, rfl, hparse⟩

/-! ## Adding records -/

theorem withRecord_perm (ledger : EvidenceLedger) (record : EvidenceRecord) :
    (ledger.withRecord record).evidence.Perm (ledger.evidence ++ [record]) :=
  List.perm_insertionSort _ _

theorem withRecords_perm (ledger : EvidenceLedger) (records : List EvidenceRecord) :
    (ledger.withRecords records).evidence.Perm (ledger.evidence ++ records) :=
  List.perm_insertionSort _ _

theorem withRecords_nil (h : LawfulLedger R ledger) : ledger.withRecords [] = ledger := by
  have hle : ledger.evidence.Pairwise fun a b => a.evidenceId ≤ b.evidenceId :=
    (List.pairwise_map.mp h.evidenceOrdered).imp le_of_lt
  rw [EvidenceLedger.withRecords, List.append_nil, hle.insertionSort_eq]

/-- Ledgers with the same records, each under an identifier of its own, are one ledger. -/
theorem withRecords_eq_of_perm {records records' : List EvidenceRecord}
    (hids : ((ledger.evidence ++ records).map (·.evidenceId)).Nodup)
    (h : records.Perm records') : ledger.withRecords records = ledger.withRecords records' := by
  have hevidence := Sorting.insertionSort_key_eq_of_perm hids (h.append_left ledger.evidence)
  rw [EvidenceLedger.withRecords, EvidenceLedger.withRecords, hevidence]

/-- Adding one more record to a ledger with some more records. -/
theorem withRecord_withRecords (hversion : ledger.schemaVersion = "1.0")
    {records : List EvidenceRecord}
    (hids : ((ledger.evidence ++ (records ++ [record])).map (·.evidenceId)).Nodup) :
    (ledger.withRecords records).withRecord record = ledger.withRecords (records ++ [record]) := by
  have hperm : (ledger.evidence ++ (records ++ [record])).Perm
      ((ledger.withRecords records).evidence ++ [record]) := by
    rw [← List.append_assoc]
    exact ((withRecords_perm ledger records).append_right [record]).symm
  have hevidence := Sorting.insertionSort_key_eq_of_perm hids hperm
  rw [EvidenceLedger.withRecord, ← hevidence, ← hversion]
  rfl

theorem length_of_parse (h : parseEvidenceLedger R ledger.toDict = .ok updated) :
    ledger.evidence.length ≤ 2048 := by
  simp only [parseEvidenceLedger, bind_eq_ok, require_eq_ok, exists_unit, objectValue_eq_ok,
    arrayOf_eq_ok] at h
  obtain ⟨root, hroot, -, _, -, -, _, -, _, -, _, -, -, -, raw, ⟨hraw, hfew⟩, -⟩ := h
  obtain rfl := Value.object.inj hroot
  rw [← Value.array.inj hraw, List.length_map] at hfew
  exact hfew

/-- An addition gives a lawful ledger with the record under a new identifier. -/
theorem updatedLedger_lawful (hledger : LawfulLedger R ledger) (hrecord : LawfulEvidence R record)
    (h : updatedLedger R ledger record = .ok updated) :
    updated = ledger.withRecord record ∧ LawfulLedger R updated ∧
      record.evidenceId ∉ ledger.evidence.map (·.evidenceId) := by
  simp only [updatedLedger, bind_eq_ok, pure_eq_ok, require_eq_ok, exists_unit] at h
  obtain ⟨hnew, hknown, -, _, hparse, rfl⟩ := h
  have hperm := withRecord_perm ledger record
  have hids : ((ledger.evidence ++ [record]).map (·.evidenceId)).Nodup := by
    rw [List.map_append, List.map_singleton]
    have hold : (ledger.evidence.map (·.evidenceId)).Nodup := hledger.evidenceOrdered.imp ne_of_lt
    exact hold.append (List.nodup_singleton _) (List.disjoint_singleton.mpr hnew)
  obtain ⟨review, hreview, hreviewed⟩ := hledger.reviewed
  refine ⟨rfl, ?_, hnew⟩
  exact {
    schemaVersion := rfl
    baselineId := hledger.baselineId
    claims := hledger.claims
    claimsLawful := hledger.claimsLawful
    claimsOrdered := hledger.claimsOrdered
    evidence := ⟨List.ne_nil_of_mem (hperm.mem_iff.mpr (List.mem_append_left _ hreview)),
      length_of_parse hparse⟩
    evidenceLawful := fun item hitem => by
      rcases List.mem_append.mp (hperm.mem_iff.mp hitem) with hold | hadded
      · exact hledger.evidenceLawful item hold
      · rwa [List.mem_singleton.mp hadded]
    evidenceOrdered := List.pairwise_map.mpr (Sorting.increasing_insertionSort hids)
    known := fun item hitem => by
      rcases List.mem_append.mp (hperm.mem_iff.mp hitem) with hold | hadded
      · exact hledger.known item hold
      · rw [List.mem_singleton.mp hadded]
        exact hknown
    diffReview := hledger.diffReview
    reviewed := ⟨review, hperm.mem_iff.mpr (List.mem_append_left _ hreview), hreviewed⟩
    sourceSpecSha256 := hledger.sourceSpecSha256
    gitHead := hledger.gitHead
    repositoryDigest := hledger.repositoryDigest }

/-! ## Runs of the store -/

variable {ι : Type} {records : ι → EvidenceRecord} {start : List Char}

theorem lawful_of_isRecord (h : IsRecord R record) : LawfulEvidence R record := by
  obtain ⟨payload, hstrict, hparse⟩ := h
  exact lawful_of_parseEvidenceRecord hstrict hparse

/-- The content after some calls replaced it: what it was, or the ledger with their records. -/
def contentAfter (records : ι → EvidenceRecord) (start : List Char) (ledger : EvidenceLedger)
    (calls : List ι) : List Char :=
  if calls = [] then start else printed (ledger.withRecords (calls.map records)).toDict

/-- What the store holds after some calls replaced the content. -/
structure Stored (R : Runtime) (records : ι → EvidenceRecord) (start : List Char)
    (ledger : EvidenceLedger) (calls : List ι) (content : List Char) : Prop where
  accepted : loadEvidenceLedger R content = .ok (ledger.withRecords (calls.map records))
  content : content = contentAfter records start ledger calls
  distinct : ((ledger.evidence ++ calls.map records).map (·.evidenceId)).Nodup

theorem stored_start (h : loadEvidenceLedger R start = .ok ledger) :
    Stored R records start ledger [] start := by
  have hlawful := lawful_of_load h
  refine ⟨?_, rfl, ?_⟩
  · rw [List.map_nil, withRecords_nil hlawful, h]
  · rw [List.map_nil, List.append_nil]
    exact hlawful.evidenceOrdered.imp ne_of_lt

theorem Stored.add {calls : List ι} {i : ι} {input : Unit} {next : List Char}
    (hload : loadEvidenceLedger R start = .ok ledger) (hvalid : IsRecord R (records i))
    (h : Stored R records start ledger calls content)
    (hfits : ∀ ledger, loadEvidenceLedger R content = .ok ledger →
      Fits (256 * 1024) (ledger.withRecord (records i)).toDict)
    (hnext : add R records i input content = .ok next) :
    Stored R records start ledger (calls ++ [i]) next := by
  simp only [Evidence.add, bind_eq_ok, pure_eq_ok, h.accepted, Except.ok.injEq] at hnext
  obtain ⟨_, rfl, updated, hupdated, rfl⟩ := hnext
  have hlawful := lawful_of_load h.accepted
  obtain ⟨rfl, hlawful', hnew⟩ := updatedLedger_lawful hlawful (lawful_of_isRecord hvalid) hupdated
  have hids : ((ledger.evidence ++ (calls.map records ++ [records i])).map
      (·.evidenceId)).Nodup := by
    have hperm := (withRecords_perm ledger (calls.map records)).map (·.evidenceId)
    rw [hperm.mem_iff] at hnew
    rw [← List.append_assoc, List.map_append, List.map_singleton]
    exact h.distinct.append (List.nodup_singleton _) (List.disjoint_singleton.mpr hnew)
  have hledger := withRecord_withRecords (lawful_of_load hload).schemaVersion hids
  have hmap : (calls ++ [i]).map records = calls.map records ++ [records i] := by
    rw [List.map_append, List.map_singleton]
  refine ⟨?_, ?_, ?_⟩
  · rw [hmap, ← hledger, load_printed hlawful']
    exact hfits _ h.accepted
  · rw [contentAfter, if_neg (by simp), hmap, hledger]
  · rw [hmap]
    exact hids

variable [DecidableEq ι] {events : List (Event ι Unit String)} {s : State ι (List Char) String}

theorem Run.stored (hload : loadEvidenceLedger R start = .ok ledger)
    (hvalid : ∀ i, IsRecord R (records i))
    (hrun : Run (add R records) (Fitting R records) (.start start) events s) :
    Stored R records start ledger (published events) s.content :=
  hrun.content (stored_start hload) fun _ _ i _ _ h hfits hnext =>
    h.add hload (hvalid i) hfits hnext

/-- What the store keeps: the file is a ledger with the initial evidence and the records that were
added, each once. A call that returns is among those that added its record, a call that raises is
not and owns no lock, and the file changes only where a call replaces it. -/
structure Kept (R : Runtime) (records : ι → EvidenceRecord) (start : List Char)
    (ledger : EvidenceLedger) (events : List (Event ι Unit String))
    (s : State ι (List Char) String) : Prop where
  accepted : ∃ current, loadEvidenceLedger R s.content = .ok current ∧
    current = { ledger with evidence := current.evidence } ∧
    current.evidence.Perm (ledger.evidence ++ (published events).map records) ∧
    (current.evidence.map (·.evidenceId)).Nodup
  untouched : published events = [] → s.content = start
  once : (published events).Nodup
  returned : ∀ i next, s.phase i = .returned next → i ∈ published events
  added : ∀ i ∈ published events, ∃ next, s.phase i = .published next ∨ s.phase i = .returned next
  raised : ∀ i error, s.phase i = .raised error → i ∉ published events ∧ s.lock ≠ some i
  unchanged : ∀ e t, Step (add R records) s e t → (∀ i, e ≠ .publish i) → t.content = s.content

/-- As long as what is published fits the loader and every call removes its lock file, the store
keeps the ledger whatever the order of the steps, and what it holds in the end does not depend on
the order of the calls that added their records. -/
theorem add_keeps_ledger (hload : loadEvidenceLedger R start = .ok ledger)
    (hvalid : ∀ i, IsRecord R (records i))
    (hrun : Run (add R records) (Fitting R records) (.start start) events s) :
    Kept R records start ledger events s ∧
    ∀ events' s', Run (add R records) (Fitting R records) (.start start) events' s' →
      (published events).Perm (published events') → s'.content = s.content := by
  have hstored := Run.stored hload hvalid hrun
  have hholds := hrun.holds
  refine ⟨?_, fun events' s' hrun' hperm => ?_⟩
  · exact {
      accepted := by
        have hperm := withRecords_perm ledger ((published events).map records)
        exact ⟨_, hstored.accepted, rfl, hperm,
          (hperm.map (·.evidenceId)).nodup_iff.mpr hstored.distinct⟩
      untouched := fun hnone => by
        rw [hstored.content, contentAfter, if_pos hnone]
      once := hholds.nodup
      returned := fun i next hi => by
        rw [hholds.replaced, hi, Phase.replaced]
      added := fun i hi => by
        rw [hholds.replaced] at hi
        cases hphase : s.phase i with
        | published next => exact ⟨next, .inl rfl⟩
        | returned next => exact ⟨next, .inr rfl⟩
        | halted b => exact absurd hphase (hrun.not_halted (fun _ _ => id) i b)
        | _ => simp [hphase, Phase.replaced] at hi
      raised := fun i error hi => by
        rw [hholds.replaced, ne_eq, hholds.owner, hi]
        exact ⟨Bool.false_ne_true, Bool.false_ne_true⟩
      unchanged := fun e t hstep hother => by
        refine hstep.content ?_
        cases e with
        | publish i => exact absurd rfl (hother i)
        | _ => rfl }
  · have hstored' := Run.stored hload hvalid hrun'
    have hsame := withRecords_eq_of_perm hstored.distinct (hperm.map records)
    have hnil : published events = [] ↔ published events' = [] := by
      rw [← List.length_eq_zero_iff, hperm.length_eq, List.length_eq_zero_iff]
    rw [hstored.content, hstored'.content, contentAfter, contentAfter, hsame]
    simp only [hnil]

/-! ### Two records that do not fit -/

/-- A text of characters outside the basic plane, each of which is printed as twelve bytes. -/
def longText : String := String.ofList (List.replicate 240 '𝐀')

theorem longText_toList : longText.toList = List.replicate 240 '𝐀' := String.toList_ofList

theorem bounded_longText : BoundedText 240 longText where
  written := by
    rw [Written, longText_toList]
    decide +kernel
  bounded := by
    rw [longText_toList]
    decide +kernel
  oneLine := by
    rw [longText_toList]
    decide +kernel
  secretFree := by
    rw [longText_toList]
    decide +kernel

theorem isPathFree_longText : isPathFree longText = true := by
  rw [isPathFree, longText_toList]
  decide

/-- A passing review whose command has some long arguments. -/
def longRecord (evidenceId : String) (count : Nat) : EvidenceRecord :=
  { plainEvidence evidenceId .sourceReview with command := "check" :: List.replicate count longText }

def longLedger (records : List EvidenceRecord) : EvidenceLedger :=
  { plainLedger with evidence := records }

theorem length_line (d : Nat) : (JsonText.indented.line d).length = 2 * d + 1 := by
  simp [JsonText.indented]

theorem length_longCommand (d count : Nat) :
    (JsonText.dumps JsonText.indented d
      (textArray ("check" :: List.replicate count longText))).length =
      count * (2 * d + 2886) + (4 * d + 13) := by
  have hlong : (JsonText.quote longText).length = 2882 := JsonText.length_quote_replicate 240 _
  have hcheck : (JsonText.quote "check").length = 7 := by decide
  rw [textArray, List.map_cons, List.map_replicate, JsonText.dumps, if_neg (by simp),
    JsonText.dumpItems]
  simp only [List.length_cons, List.length_append, JsonText.length_dumpItems_replicate,
    JsonText.dumps, hlong, hcheck, JsonText.indented, List.length_replicate, List.length_nil]
  have hsame : 1 + (2 * (d + 1) + 1) + 2882 = 2 * d + 2886 := by omega
  rw [hsame]
  omega

theorem length_textArray_singleton (d : Nat) (text : String) :
    (JsonText.dumps JsonText.indented d (textArray [text])).length =
      (JsonText.quote text).length + (4 * d + 6) := by
  simp only [textArray, List.map_cons, List.map_nil, JsonText.dumps, JsonText.dumpItems,
    List.isEmpty_cons, Bool.false_eq_true, if_false, List.length_cons, List.length_append,
    JsonText.indented, List.length_replicate, List.length_nil]
  omega

theorem length_longRecord (evidenceId : String) (count : Nat) :
    (JsonText.dumps JsonText.indented 2 (longRecord evidenceId count).toDict).length =
      count * 2892 + (JsonText.quote evidenceId).length + 599 := by
  have hcommand := length_longCommand 3 count
  have hrecord : (longRecord evidenceId count).toDict = .object [
      ("artifacts", .array [ArtifactReference.toDict
        ⟨"log.txt", String.ofList (List.replicate 64 '2')⟩]),
      ("claim_ids", textArray ["CLM-1"]),
      ("command", textArray ("check" :: List.replicate count longText)),
      ("commit", .text plainCandidate.gitHead),
      ("environment", .object [("os", .text "linux")]),
      ("evidence_id", .text evidenceId),
      ("recorded_at", .text "2026-01-01T00:00:00+00:00"),
      ("repository_digest", .text plainCandidate.repositoryDigest),
      ("status", .text "PASS"),
      ("type", .text "SOURCE_REVIEW")] := rfl
  rw [hrecord]
  generalize textArray ("check" :: List.replicate count longText) = command at hcommand ⊢
  have hcommit : (JsonText.quote plainCandidate.gitHead).length = 42 :=
    JsonText.length_quote_replicate 40 'a'
  have hdigest : (JsonText.quote plainCandidate.repositoryDigest).length = 66 :=
    JsonText.length_quote_replicate 64 '1'
  have hartifact : (JsonText.quote (String.ofList (List.replicate 64 '2'))).length = 66 :=
    JsonText.length_quote_replicate 64 '2'
  simp only [ArtifactReference.toDict, JsonText.dumps, JsonText.dumpItems, JsonText.dumpMembers,
    length_textArray_singleton, List.isEmpty_cons, Bool.false_eq_true, if_false,
    List.length_append, List.length_cons, List.length_nil, hcommand, hcommit, hdigest, hartifact]
  generalize JsonText.quote evidenceId = quoted
  simp [JsonText.quote, JsonText.escape, JsonText.indented]
  omega

theorem length_longLedger (records : List EvidenceRecord) :
    (printed (longLedger records).toDict).length =
      (JsonText.dumps JsonText.indented 1 (.array (records.map EvidenceRecord.toDict))).length +
        642 := by
  have hledger : (longLedger records).toDict = .object [
      ("baseline_id", .text "RB-0000000000000000"),
      ("claims", .array (plainLedger.claims.map LedgerClaim.toDict)),
      ("diff_review_evidence_id", .text "EV-1"),
      ("evidence", .array (records.map EvidenceRecord.toDict)),
      ("git_head", .text plainCandidate.gitHead),
      ("repository_digest", .text plainCandidate.repositoryDigest),
      ("schema_version", .text "1.0"),
      ("source_spec_sha256", .text plainCandidate.sourceSpecSha256)] := rfl
  have hcommit : (JsonText.quote plainCandidate.gitHead).length = 42 :=
    JsonText.length_quote_replicate 40 'a'
  have hdigest : (JsonText.quote plainCandidate.repositoryDigest).length = 66 :=
    JsonText.length_quote_replicate 64 '1'
  have hsource : (JsonText.quote plainCandidate.sourceSpecSha256).length = 66 :=
    JsonText.length_quote_replicate 64 '0'
  have hclaims : (JsonText.dumps JsonText.indented 1
      (.array (plainLedger.claims.map LedgerClaim.toDict))).length = 264 := by
    simp only [plainLedger, LedgerClaim.toDict, Enumeration.value, List.map_cons, List.map_nil,
      JsonText.dumps, JsonText.dumpItems, JsonText.dumpMembers, length_textArray_singleton,
      List.isEmpty_cons, Bool.false_eq_true, if_false, List.length_append, List.length_cons,
      List.length_nil]
    simp [JsonText.quote, JsonText.escape, JsonText.indented]
  rw [printed, hledger]
  generalize Value.array (records.map EvidenceRecord.toDict) = evidence
  generalize Value.array (plainLedger.claims.map LedgerClaim.toDict) = claims at hclaims
  simp only [JsonText.dumps, JsonText.dumpMembers, List.isEmpty_cons, Bool.false_eq_true, if_false,
    List.length_append, List.length_cons, List.length_nil, hclaims, hcommit, hdigest, hsource]
  generalize JsonText.dumps JsonText.indented (0 + 1) evidence = text
  simp [JsonText.quote, JsonText.escape, JsonText.indented]
  omega

theorem boundedTexts_singleton {text : String} (h : BoundedText 500 text) :
    BoundedTexts 1 64 [text] where
  bounded := by simp
  enough := by simp
  unique := List.nodup_singleton _
  texts := List.forall_mem_singleton.mpr h

theorem lawful_longRecord {evidenceId : String} {count : Nat} (hcount : count ≤ 63)
    (hid : BoundedText 128 evidenceId ∧ isEvidenceMark evidenceId = true) :
    LawfulEvidence plainRuntime (longRecord evidenceId count) where
  unverified := by simp [longRecord, plainEvidence]
  environment := by simp [longRecord, plainEvidence]
  environmentSorted := List.pairwise_singleton _ _
  environmentItems := by
    have hitem : isEnvironmentKey "os" = true ∧ BoundedText 200 "linux" ∧
        isPathFree "linux" = true := by decide
    simpa [longRecord, plainEvidence] using hitem
  artifacts := by
    have hpath : Written "log.txt" ∧ ∀ field, safeRelativePath field "log.txt" = .ok () :=
      ⟨by decide, fun field => by
        have hsafe : safeRelativePath "" "log.txt" = .ok () := by decide
        exact safeRelativePath_field hsafe⟩
    have hdigest : BoundedText 64 (String.ofList (List.replicate 64 '2')) ∧
        isDigest (String.ofList (List.replicate 64 '2')).toList = true := by decide
    simpa [longRecord, plainEvidence] using LawfulArtifact.mk hpath hdigest
  artifactsUnique := List.nodup_singleton _
  artifactsPresent := fun _ => List.cons_ne_nil _ _
  claimIds := boundedTexts_singleton (by decide)
  claimNames := by
    have hclaim : isClaimMark "CLM-1" = true := by decide
    simpa [longRecord, plainEvidence] using hclaim
  evidenceId := hid
  command := by
    refine ⟨List.cons_ne_nil _ _, ?_⟩
    simp only [longRecord, List.length_cons, List.length_replicate]
    omega
  commandTexts := by
    have hcheck : BoundedText 240 "check" ∧ isPathFree "check" = true := by decide
    refine List.forall_mem_cons.mpr ⟨hcheck, fun text htext => ?_⟩
    rw [List.eq_of_mem_replicate htext]
    exact ⟨bounded_longText, isPathFree_longText⟩
  commit := by
    have hcommit : BoundedText 40 plainCandidate.gitHead ∧
        isCommit plainCandidate.gitHead = true := by decide
    exact hcommit
  repositoryDigest := by
    have hdigest : BoundedText 64 plainCandidate.repositoryDigest ∧
        isDigest plainCandidate.repositoryDigest.toList = true := by decide
    exact hdigest
  recordedAt := by
    have htime : BoundedText 100 "2026-01-01T00:00:00+00:00" := by decide
    exact ⟨htime, ⟨0, true⟩, rfl, rfl⟩

theorem lawful_longLedger {records : List EvidenceRecord} {count : Nat}
    (hreview : longRecord "EV-1" count ∈ records) (hfew : records.length ≤ 2048)
    (hrecords : ∀ record ∈ records, LawfulEvidence plainRuntime record ∧
      record.claimIds = ["CLM-1"])
    (hordered : (records.map (·.evidenceId)).Pairwise (· < ·)) :
    LawfulLedger plainRuntime (longLedger records) where
  schemaVersion := rfl
  baselineId := by
    have hid : BoundedText 128 "RB-0000000000000000" ∧
        isBaselineMark "RB-0000000000000000" = true := by decide
    exact hid
  claims := by simp [longLedger, plainLedger]
  claimsLawful := by
    have hclaim : BoundedText 500 "R-1" ∧ isRequirementName "R-1" = true ∧
        BoundedText 500 "AC-R-1-1" ∧ isAcceptanceName "AC-R-1-1" = true ∧
        (BoundedText 128 "CLM-1" ∧ isClaimMark "CLM-1" = true) ∧
        BoundedText 500 "It works" := by decide
    obtain ⟨hrequirement, hname, hcriterion, hmark, hid, hstatement⟩ := hclaim
    refine List.forall_mem_singleton.mpr ?_
    exact {
      requirementIds := boundedTexts_singleton hrequirement
      requirementNames := List.forall_mem_singleton.mpr hname
      acceptanceCriteria := boundedTexts_singleton hcriterion
      acceptanceNames := List.forall_mem_singleton.mpr hmark
      claimId := hid
      statement := hstatement }
  claimsOrdered := List.pairwise_singleton _ _
  evidence := ⟨List.ne_nil_of_mem hreview, hfew⟩
  evidenceLawful := fun record hrecord => (hrecords record hrecord).1
  evidenceOrdered := hordered
  known := fun record hrecord => by
    rw [(hrecords record hrecord).2]
    exact List.forall_mem_singleton.mpr (List.mem_singleton_self _)
  diffReview := by
    have hid : BoundedText 128 "EV-1" ∧ isEvidenceMark "EV-1" = true := by decide
    exact hid
  reviewed := ⟨longRecord "EV-1" count, hreview, rfl, rfl, rfl⟩
  sourceSpecSha256 := by
    have hdigest : BoundedText 64 plainCandidate.sourceSpecSha256 ∧
        isDigest plainCandidate.sourceSpecSha256.toList = true := by decide
    exact hdigest
  gitHead := by
    have hcommit : BoundedText 40 plainCandidate.gitHead ∧
        isCommit plainCandidate.gitHead = true := by decide
    exact hcommit
  repositoryDigest := by
    have hdigest : BoundedText 64 plainCandidate.repositoryDigest ∧
        isDigest plainCandidate.repositoryDigest.toList = true := by decide
    exact hdigest

/-- The ledger with one long review and the ledger with two. -/
def oneLong (count : Nat) : EvidenceLedger := longLedger [longRecord "EV-1" count]

def twoLong (count : Nat) : EvidenceLedger :=
  longLedger [longRecord "EV-1" count, longRecord "EV-2" count]

theorem evidenceMarks :
    (BoundedText 128 "EV-1" ∧ isEvidenceMark "EV-1" = true) ∧
      BoundedText 128 "EV-2" ∧ isEvidenceMark "EV-2" = true := by
  decide

theorem lawful_oneLong {count : Nat} (hcount : count ≤ 63) :
    LawfulLedger plainRuntime (oneLong count) :=
  lawful_longLedger (List.mem_singleton_self _) (by simp)
    (List.forall_mem_singleton.mpr ⟨lawful_longRecord hcount evidenceMarks.1, rfl⟩)
    (List.pairwise_singleton _ _)

theorem lawful_twoLong {count : Nat} (hcount : count ≤ 63) :
    LawfulLedger plainRuntime (twoLong count) := by
  refine lawful_longLedger List.mem_cons_self (by simp) ?_ ?_
  · rw [List.forall_mem_cons, List.forall_mem_singleton]
    exact ⟨⟨lawful_longRecord hcount evidenceMarks.1, rfl⟩,
      lawful_longRecord hcount evidenceMarks.2, rfl⟩
  · have hids : ["EV-1", "EV-2"].Pairwise (· < ·) := by decide
    exact hids

theorem oneLong_withRecord (count : Nat) :
    (oneLong count).withRecord (longRecord "EV-2" count) = twoLong count := by
  have hle : [longRecord "EV-1" count, longRecord "EV-2" count].Pairwise
      fun a b => a.evidenceId ≤ b.evidenceId := by
    have hid : "EV-1" ≤ "EV-2" := by decide
    exact List.pairwise_pair.mpr hid
  have hsorted := hle.insertionSort_eq
  rw [EvidenceLedger.withRecord]
  simp only [oneLong, longLedger, List.singleton_append, hsorted]
  rfl

theorem length_oneLong (count : Nat) :
    (printed (oneLong count).toDict).length = count * 2892 + 1257 := by
  have hid : (JsonText.quote "EV-1").length = 6 := by decide
  rw [oneLong, length_longLedger, List.map_singleton, JsonText.dumps, if_neg (by simp),
    JsonText.dumpItems, JsonText.dumpItems]
  simp only [List.length_cons, List.length_append, List.length_nil, length_line, Nat.reduceAdd,
    length_longRecord, hid]
  omega

theorem length_twoLong (count : Nat) :
    (printed (twoLong count).toDict).length = 2 * (count * 2892) + 1868 := by
  have hid : (JsonText.quote "EV-1").length = 6 ∧ (JsonText.quote "EV-2").length = 6 := by
    decide
  rw [twoLong, length_longLedger, List.map_cons, List.map_singleton, JsonText.dumps,
    if_neg (by simp), JsonText.dumpItems, JsonText.dumpItems, JsonText.dumpItems]
  simp only [List.length_cons, List.length_append, List.length_nil, length_line, Nat.reduceAdd,
    length_longRecord, hid]
  omega

theorem nodes_longRecord (evidenceId : String) (d count : Nat) :
    (JsonText.within d (longRecord evidenceId count).toDict).length = count + 17 := by
  simp [longRecord, plainEvidence, EvidenceRecord.toDict, ArtifactReference.toDict, textArray,
    JsonText.within, JsonText.withinMembers, JsonText.withinItems_eq, List.map_replicate,
    List.length_flatMap]

theorem load_oneLong {count : Nat} (hcount : count ≤ 61) :
    loadEvidenceLedger plainRuntime (printed (oneLong count).toDict) = .ok (oneLong count) := by
  rw [load_printed (lawful_oneLong (by omega))]
  refine ⟨by rw [length_oneLong]; omega, ?_⟩
  have hnodes := nodes_longRecord "EV-1" 2 count
  simp [oneLong, longLedger, plainLedger, EvidenceLedger.toDict, LedgerClaim.toDict, textArray,
    JsonText.within, JsonText.withinMembers, JsonText.withinItems, hnodes]
  omega

theorem fits_twoLong {count : Nat} (hcount : count ≤ 44) :
    Fits (256 * 1024) (twoLong count).toDict := by
  refine ⟨by rw [length_twoLong]; omega, ?_⟩
  have hnodes (evidenceId : String) := nodes_longRecord evidenceId 2 count
  simp [twoLong, longLedger, plainLedger, EvidenceLedger.toDict, LedgerClaim.toDict, textArray,
    JsonText.within, JsonText.withinMembers, JsonText.withinItems, hnodes]
  omega

theorem updated_oneLong {count : Nat} (hcount : count ≤ 63) :
    updatedLedger plainRuntime (oneLong count) (longRecord "EV-2" count) = .ok (twoLong count) := by
  have hparse := parseEvidenceLedger_toDict (lawful_twoLong hcount)
  simp only [updatedLedger, oneLong_withRecord, bind_eq_ok, pure_eq_ok, require_eq_ok, exists_unit]
  refine ⟨?_, ?_, ⟨rfl, rfl⟩, _, hparse, trivial⟩
  · have hne : "EV-2" ∉ ["EV-1"] := by decide
    exact hne
  · exact List.forall_mem_singleton.mpr (List.mem_singleton_self _)

/-- The file after a call has added the second long review. -/
theorem run_twoLong {count : Nat} (hcount : count ≤ 61)
    {allowed : State Unit (List Char) String → Event Unit Unit String → Prop}
    (hallowed : ∀ s e, (∀ i, e ≠ .halt i) →
      (s.content = printed (oneLong count).toDict ∨ ∀ i, e ≠ .publish i) → allowed s e) :
    ∃ events s, Run (add plainRuntime fun _ => longRecord "EV-2" count) allowed
      (.start (printed (oneLong count).toDict)) events s ∧
      s.content = printed (twoLong count).toDict ∧
      s.phase () = .returned (printed (twoLong count).toDict) := by
  have hnext : add plainRuntime (fun _ => longRecord "EV-2" count) () ()
      (printed (oneLong count).toDict) = .ok (printed (twoLong count).toDict) := by
    simp only [add, bind_eq_ok, pure_eq_ok]
    exact ⟨_, load_oneLong hcount, _, updated_oneLong (by omega), rfl⟩
  have hstart : Run (add plainRuntime fun _ => longRecord "EV-2" count) allowed
      (.start (printed (oneLong count).toDict)) [] (.start (printed (oneLong count).toDict)) :=
    .start
  have hlocked := hstart.step (hallowed _ (.acquire ()) (by simp) (.inl rfl)) (.acquire rfl rfl)
  have hprepared := hlocked.step (hallowed _ (.read () ()) (by simp) (.inl rfl))
    (.read (by simp) hnext)
  have hpublished := hprepared.step (hallowed _ (.publish ()) (by simp) (.inl rfl))
    (.publish (show _ = Phase.prepared (printed (twoLong count).toDict) by simp))
  have hreturned := hpublished.step (hallowed _ (.release ()) (by simp) (.inr (by simp)))
    (.finish (show _ = Phase.published (printed (twoLong count).toDict) by simp))
  exact ⟨_, _, hreturned, rfl, by simp⟩

/-- Two reviews with sixty-one long arguments each: the file of the first is accepted, the second
is added without an error, and nobody can load the file any more. -/
theorem long_records_lock_ledger :
    ∃ (R : Runtime) (records : Unit → EvidenceRecord) (start : List Char) (ledger : EvidenceLedger)
      (events : List (Event Unit Unit String)) (s : State Unit (List Char) String),
      loadEvidenceLedger R start = .ok ledger ∧ (∀ i, IsRecord R (records i)) ∧
      Run (add R records) (fun _ e => ∀ i, e ≠ .halt i) (.start start) events s ∧
      (∃ next, s.phase () = .returned next) ∧
      ∀ current, loadEvidenceLedger R s.content ≠ .ok current := by
  obtain ⟨events, s, hrun, hcontent, hreturned⟩ :=
    run_twoLong (by decide : 61 ≤ 61) fun _ _ hhalt _ => hhalt
  refine ⟨plainRuntime, _, _, _, events, s, load_oneLong (by decide), fun _ => ?_, hrun,
    ⟨_, hreturned⟩, fun current hload => ?_⟩
  · exact isRecord_of_lawful (lawful_longRecord (by decide) evidenceMarks.2)
  · rw [hcontent] at hload
    simp only [loadEvidenceLedger, bind_eq_ok, parseJsonBytes_eq_ok, byteLength_printed,
      length_twoLong] at hload
    obtain ⟨_, ⟨hbytes, -⟩, -⟩ := hload
    omega

/-- Two reviews with one long argument each fit. -/
theorem short_records_kept :
    ∃ events s, Kept plainRuntime (fun _ : Unit => longRecord "EV-2" 1)
      (printed (oneLong 1).toDict) (oneLong 1) events s ∧ () ∈ published events := by
  have hallowed (s : State Unit (List Char) String) (e : Event Unit Unit String)
      (hhalt : ∀ i, e ≠ .halt i)
      (hcontent : s.content = printed (oneLong 1).toDict ∨ ∀ i, e ≠ .publish i) :
      Fitting plainRuntime (fun _ => longRecord "EV-2" 1) s e := by
    cases e with
    | halt i => exact absurd rfl (hhalt i)
    | publish i =>
      rcases hcontent with hcontent | hother
      · intro ledger hload
        rw [hcontent, load_oneLong (by decide), Except.ok.injEq] at hload
        rw [← hload, oneLong_withRecord]
        exact fits_twoLong (by decide)
      · exact absurd rfl (hother i)
    | _ => exact trivial
  obtain ⟨events, s, hrun, -, hreturned⟩ := run_twoLong (by decide : 1 ≤ 61) hallowed
  have hkept := (add_keeps_ledger (load_oneLong (by decide))
    (fun _ => isRecord_of_lawful (lawful_longRecord (by decide) evidenceMarks.2)) hrun).1
  exact ⟨events, s, hkept, hkept.returned () _ hreturned⟩

end Sdaqf.Evidence
