import Mathlib.Logic.Relation
import Sdaqf.CheckpointRedaction

/-!
# Recovery of checkpoints

A save writes the new text beside the two files, copies the checkpoint before it to the backup and
then puts the new file in its place. A crash leaves what one of these steps left. As long as the
checkpoint before it is valid or missing, the loader finds the old or the new checkpoint at every
step; a checkpoint that cannot be read takes the place of the backup it was to be recovered from.
-/

namespace Sdaqf

namespace Checkpoint

open TextSearch (found)

/-! ## The steps of a save -/

/-- How far a save has come: the text is written, the backup is replaced, the checkpoint is. -/
inductive SavePhase
  | written
  | rotated
  | installed
deriving DecidableEq

inductive SaveStep (new : StoredFile) : SavePhase × StoredFiles → SavePhase × StoredFiles → Prop
  | rotate {files : StoredFiles} {old : StoredFile} (hold : files.primary = some old)
      (hcopied : old.copied = true) :
      SaveStep new (.written, files) (.rotated, { files with backup := some old })
  | fresh {files : StoredFiles} (hnone : files.primary = none) :
      SaveStep new (.written, files) (.rotated, files)
  | install {files : StoredFiles} :
      SaveStep new (.rotated, files) (.installed, { files with primary := some new })

/-- A crash of a save can leave these files. -/
def Leaves (new : StoredFile) (files files' : StoredFiles) : Prop :=
  ∃ phase, Relation.ReflTransGen (SaveStep new) (.written, files) (phase, files')

/-- The file of a checkpoint. -/
def savedFile (c : ExecutionCheckpoint) : StoredFile :=
  .content (printed c.toDict).length (printed c.toDict)

/-- A checkpoint that the store accepts. -/
structure Publishable (c : ExecutionCheckpoint) : Prop where
  bytes : (printed c.toDict).length ≤ maxCheckpointBytes
  clean : found redactionPatterns (printed c.toDict) = false
  parsed : parseCheckpointObject c.toDict = .ok c

/-- The checkpoint before a save is valid, or nothing is copied. -/
def PrimarySound (files : StoredFiles) : Prop :=
  ∀ old ∈ files.primary, old.copied = true → ∃ c, loadCheckpointFile old = .ok c

variable {new : StoredFile} {target : Except String Unit} {files files' : StoredFiles}
  {c c' d : ExecutionCheckpoint}

theorem Publishable.load (h : Publishable c) : loadCheckpointFile (savedFile c) = .ok c :=
  loadCheckpointFile_printed h.bytes h.clean h.parsed

/-- Where the steps of a save lead. -/
theorem leaves_iff : Leaves new files files' ↔ files' = files ∨
    ∃ backup, (files.primary = none ∧ backup = files.backup ∨
        ∃ old, files.primary = some old ∧ old.copied = true ∧ backup = some old) ∧
      (files' = ⟨files.primary, backup⟩ ∨ files' = ⟨some new, backup⟩) := by
  constructor
  · rintro ⟨phase, hsteps⟩
    rcases Relation.ReflTransGen.cases_head hsteps with heq | ⟨middle, hfirst, hsteps⟩
    · cases heq
      exact .inl rfl
    · obtain ⟨backup, hbackup, rfl⟩ : ∃ backup, (files.primary = none ∧ backup = files.backup ∨
          ∃ old, files.primary = some old ∧ old.copied = true ∧ backup = some old) ∧
          middle = (.rotated, ⟨files.primary, backup⟩) := by
        cases hfirst with
        | rotate hold hcopied => exact ⟨_, .inr ⟨_, hold, hcopied, rfl⟩, rfl⟩
        | fresh hnone => exact ⟨_, .inl ⟨hnone, rfl⟩, rfl⟩
      refine .inr ⟨backup, hbackup, ?_⟩
      rcases Relation.ReflTransGen.cases_head hsteps with heq | ⟨last, hsecond, hsteps⟩
      · cases heq
        exact .inl rfl
      · cases hsecond
        rcases Relation.ReflTransGen.cases_head hsteps with heq | ⟨_, hthird, -⟩
        · cases heq
          exact .inr rfl
        · cases hthird
  · rintro (rfl | ⟨backup, hbackup, hfiles⟩)
    · exact ⟨.written, .refl⟩
    · have hrotate : SaveStep new (.written, files) (.rotated, ⟨files.primary, backup⟩) := by
        rcases hbackup with ⟨hnone, rfl⟩ | ⟨old, hold, hcopied, rfl⟩
        · exact .fresh hnone
        · exact .rotate hold hcopied
      rcases hfiles with rfl | rfl
      · exact ⟨.rotated, .single hrotate⟩
      · exact ⟨.installed, (Relation.ReflTransGen.single hrotate).tail .install⟩

theorem installed_iff :
    Relation.ReflTransGen (SaveStep new) (.written, files) (.installed, files') ↔
      (∀ file ∈ files.primary, file.copied = true) ∧
        files' = ⟨some new, files.primary.orElse fun _ => files.backup⟩ := by
  constructor
  · intro hsteps
    rcases Relation.ReflTransGen.cases_head hsteps with heq | ⟨middle, hfirst, hsteps⟩
    · cases heq
    obtain ⟨hcopied, rfl⟩ : (∀ file ∈ files.primary, file.copied = true) ∧
        middle = (.rotated, ⟨files.primary, files.primary.orElse fun _ => files.backup⟩) := by
      cases hfirst with
      | rotate hold hcopied => simp [hold, hcopied]
      | fresh hnone =>
        obtain ⟨primary, backup⟩ := files
        cases hnone
        simp
    rcases Relation.ReflTransGen.cases_head hsteps with heq | ⟨last, hsecond, hsteps⟩
    · cases heq
    cases hsecond
    rcases Relation.ReflTransGen.cases_head hsteps with heq | ⟨_, hthird, -⟩
    · cases heq
      exact ⟨hcopied, rfl⟩
    · cases hthird
  · rintro ⟨hcopied, rfl⟩
    cases hold : files.primary with
    | none => exact (Relation.ReflTransGen.single (.fresh hold)).tail .install
    | some old => exact (Relation.ReflTransGen.single (.rotate hold (hcopied old hold))).tail .install

/-- A save that returns has taken all its steps. -/
theorem save_iff_steps : save target files c = .ok files' ↔ target = .ok () ∧ Publishable c ∧
    Relation.ReflTransGen (SaveStep (savedFile c)) (.written, files) (.installed, files') := by
  rw [save_eq_ok, installed_iff]
  constructor
  · rintro ⟨htarget, hbytes, hclean, hparse, hcopied, hfiles⟩
    exact ⟨htarget, ⟨hbytes, hclean, hparse⟩, hcopied, hfiles⟩
  · rintro ⟨htarget, hc, hcopied, hfiles⟩
    exact ⟨htarget, hc.bytes, hc.clean, hc.parsed, hcopied, hfiles⟩

/-! ## What the loader finds -/

theorem load_of_primary {file : StoredFile} (htarget : target = .ok ())
    (hfile : files.primary = some file) (hload : loadCheckpointFile file = .ok c) :
    load target files = .ok c := by
  refine load_eq_ok.mpr ⟨htarget, ?_⟩
  rw [hfile, Option.toList_some, List.singleton_append, List.findSome?_cons, hload]
  rfl

/-- The loader returns the checkpoint of a valid file, and that of the backup otherwise. -/
theorem load_iff : load target files = .ok c ↔ target = .ok () ∧
    ((∃ file ∈ files.primary, loadCheckpointFile file = .ok c) ∨
      (∀ file ∈ files.primary, ∀ d, loadCheckpointFile file ≠ .ok d) ∧
        ∃ file ∈ files.backup, loadCheckpointFile file = .ok c) := by
  rw [load_eq_ok]
  refine and_congr_right fun _ => ?_
  obtain ⟨primary, backup⟩ := files
  cases primary with
  | none => cases backup <;> simp [toOption_eq_some]
  | some file =>
    cases hfile : loadCheckpointFile file with
    | ok d => simp [hfile, Except.toOption]
    | error e =>
      have hnone : (loadCheckpointFile file).toOption = none := by rw [hfile]; rfl
      rw [Option.toList_some, List.singleton_append, List.findSome?_cons, hnone]
      cases backup <;> simp [hfile, List.findSome?_singleton, toOption_eq_some]

/-- At every point of a save the loader finds the old or the new checkpoint, and afterwards the new
one, exactly if the checkpoint before the save is valid or not copied. -/
theorem save_recovers (target : Except String Unit) (files : StoredFiles)
    (c c' : ExecutionCheckpoint) (hload : load target files = .ok c) (hc' : Publishable c') :
    ((∀ files', Leaves (savedFile c') files files' →
        load target files' = .ok c ∨ load target files' = .ok c') ∧
      ∀ files', save target files c' = .ok files' → load target files' = .ok c') ↔
    PrimarySound files := by
  constructor
  · rintro ⟨hleaves, -⟩ old hold hcopied
    have hrotated : Leaves (savedFile c') files ⟨files.primary, some old⟩ :=
      leaves_iff.mpr (.inr ⟨some old, .inr ⟨old, hold, hcopied, rfl⟩, .inl rfl⟩)
    -- In this state both files are the old one.
    have hvalid {d : ExecutionCheckpoint} (h : load target ⟨files.primary, some old⟩ = .ok d) :
        ∃ c, loadCheckpointFile old = .ok c := by
      rcases (load_iff.mp h).2 with ⟨file, hfile, hd⟩ | ⟨-, file, hfile, hd⟩
      · cases Option.mem_unique hfile hold
        exact ⟨d, hd⟩
      · cases hfile
        exact ⟨d, hd⟩
    exact (hleaves _ hrotated).elim hvalid hvalid
  · intro hsound
    have htarget := (load_iff.mp hload).1
    refine ⟨fun files' hleaves => ?_, fun files' hsave => load_saved hsave⟩
    rcases leaves_iff.mp hleaves with rfl | ⟨backup, hbackup, rfl | rfl⟩
    · exact .inl hload
    · left
      rcases hbackup with ⟨hnone, rfl⟩ | ⟨old, hold, hcopied, rfl⟩
      · exact hload
      · obtain ⟨d, hd⟩ := hsound old hold hcopied
        have hsame := (load_of_primary htarget hold hd).symm.trans hload
        cases hsame
        exact load_of_primary htarget hold hd
    · exact .inr (load_of_primary htarget rfl hc'.load)

/-! ## Runs of saves -/

/-- The files that saves leave one after the other, each ended or crashed, and the checkpoints that
were tried, the last one first. -/
inductive Runs (target : Except String Unit) (start : StoredFiles) :
    StoredFiles → List ExecutionCheckpoint → Prop
  | start : Runs target start start []
  | save {files files' : StoredFiles} {tried : List ExecutionCheckpoint} {c : ExecutionCheckpoint}
      (h : Runs target start files tried) (hc : Publishable c)
      (hleaves : Leaves (savedFile c) files files') : Runs target start files' (c :: tried)

/-- A save keeps the checkpoint sound. -/
theorem PrimarySound.leaves (hsound : PrimarySound files) (hc : Publishable c)
    (h : Leaves (savedFile c) files files') : PrimarySound files' := by
  rcases leaves_iff.mp h with rfl | ⟨backup, -, rfl | rfl⟩
  · exact hsound
  · exact hsound
  · intro old hold _
    cases hold
    exact ⟨c, hc.load⟩

/-- However many saves end or crash, the loader finds the checkpoint of the start or one that was
tried. -/
theorem runs_recover (hsound : PrimarySound files) (hload : load target files = .ok c)
    {tried : List ExecutionCheckpoint} (h : Runs target files files' tried) :
    PrimarySound files' ∧ ∃ d ∈ c :: tried, load target files' = .ok d := by
  induction h with
  | start => exact ⟨hsound, c, List.mem_cons_self, hload⟩
  | @save files files' tried c' hrun hc' hleaves ih =>
    obtain ⟨hbefore, d, hd, hfound⟩ := ih
    refine ⟨hbefore.leaves hc' hleaves, ?_⟩
    rcases ((save_recovers target files d c' hfound hc').mpr hbefore).1 files' hleaves with h | h
    · refine ⟨d, ?_, h⟩
      rcases List.mem_cons.mp hd with rfl | hd
      · exact List.mem_cons_self
      · exact List.mem_cons_of_mem _ (List.mem_cons_of_mem _ hd)
    · exact ⟨c', List.mem_cons_of_mem _ List.mem_cons_self, h⟩

end Checkpoint

/-! ## A torn checkpoint -/

namespace Sample

open Checkpoint

theorem publishable_probe : Publishable (probeCheckpoint plainLine) := by
  obtain ⟨hbytes, hclean⟩ := probeCheckpoint_printed plainLine (by simp)
  exact ⟨hbytes, hclean, probeCheckpoint_parsed plainLine (by simp)⟩

/-- A checkpoint that a crash of another program tore, and its backup. -/
def tornFiles : StoredFiles :=
  ⟨some (.content 1 ['{']), some (savedFile (probeCheckpoint plainLine))⟩

theorem torn_invalid (d : ExecutionCheckpoint) : loadCheckpointFile (.content 1 ['{']) ≠ .ok d := by
  intro h
  obtain ⟨_, _, value, heq, -, -, hloads, -⟩ := loadCheckpointFile_eq_ok.mp h
  cases heq
  cases hloads

end Sample

open Checkpoint in
/-- The backup of a torn checkpoint is recovered, and lost when a save crashes after it has copied the
torn file. -/
theorem torn_checkpoint_lost :
    load (.ok ()) Sample.tornFiles = .ok (Sample.probeCheckpoint Sample.plainLine) ∧
    Publishable (Sample.probeCheckpoint Sample.plainLine) ∧
    ∃ files', Leaves (savedFile (Sample.probeCheckpoint Sample.plainLine)) Sample.tornFiles files' ∧
      ∀ d, load (.ok ()) files' ≠ .ok d := by
  refine ⟨load_iff.mpr ⟨rfl, .inr ⟨?_, _, rfl, Sample.publishable_probe.load⟩⟩,
    Sample.publishable_probe, ⟨some (.content 1 ['{']), some (.content 1 ['{'])⟩, ?_, fun d h => ?_⟩
  · rintro file hfile
    cases hfile
    exact Sample.torn_invalid
  · exact leaves_iff.mpr (.inr ⟨_, .inr ⟨_, rfl, rfl, rfl⟩, .inl rfl⟩)
  · rcases (load_iff.mp h).2 with ⟨file, hfile, hd⟩ | ⟨-, file, hfile, hd⟩
    all_goals
      cases hfile
      exact Sample.torn_invalid d hd

open Checkpoint in
/-- A valid checkpoint is found again however far a save of it comes. -/
theorem valid_checkpoint_recovered :
    load (.ok ()) ⟨some (savedFile (Sample.probeCheckpoint Sample.plainLine)), none⟩ =
        .ok (Sample.probeCheckpoint Sample.plainLine) ∧
      ∀ files', Leaves (savedFile (Sample.probeCheckpoint Sample.plainLine))
        ⟨some (savedFile (Sample.probeCheckpoint Sample.plainLine)), none⟩ files' →
        load (.ok ()) files' = .ok (Sample.probeCheckpoint Sample.plainLine) := by
  have hvalid := Sample.publishable_probe.load
  have hload := @load_of_primary (.ok ())
    ⟨some (savedFile (Sample.probeCheckpoint Sample.plainLine)), none⟩ _ _ rfl rfl hvalid
  refine ⟨hload, fun files' h => ?_⟩
  refine (((save_recovers (.ok ()) _ _ _ hload Sample.publishable_probe).mpr ?_).1 files' h).elim
    id id
  intro old hold _
  cases hold
  exact ⟨_, hvalid⟩

end Sdaqf
