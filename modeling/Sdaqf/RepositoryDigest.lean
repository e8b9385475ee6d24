import Sdaqf.ByteFrames
import Sdaqf.ContractLaws
import Sdaqf.Sorting
import Mathlib.Data.List.Lex
import Mathlib.Data.Prod.Lex

/-!
# Repository digest

The digest of a publication candidate is taken over one byte string: for each file its relative
path, its size and its content, in an order that forgets case first. The byte string is read back to
the map from paths to contents, and it is the same for every enumeration of the same files.
-/

namespace Sdaqf

open Guard ByteFrames

/-! ## Candidates -/

/-- Directories that are never part of a candidate. -/
def excludedParts : List String :=
  [".git", ".venv", ".coverage", "__pycache__", ".pytest_cache", ".pytest-tmp", ".mypy_cache",
    ".ruff_cache", ".tox", ".eggs", "build", "dist", "htmlcov", ".local", ".sdaqf"]

/-- The names from the root of the repository to a file. -/
abbrev RelativePath := List String

/-- A name a file system can give to an entry of a directory. -/
structure IsName (name : String) : Prop where
  nonempty : name ≠ ""
  noDot : name ≠ "."
  noSlash : '/' ∉ name.toList

/-- What a file system answers about one path. -/
inductive FileState
  | missing
  -- A directory or another entry without bytes to read.
  | irregular (size : Nat)
  | unreadable (size : Nat)
  | content (size : Nat) (bytes : List UInt8)

/-- The answers of a file system below the root of a repository. -/
structure Repository where
  /-- What a walk through all directories finds, in the order of the file system. -/
  walk : List RelativePath
  /-- A symbolic link or a reparse point. -/
  isLink : RelativePath → Bool
  state : RelativePath → FileState
  named : ∀ path ∈ walk, path ≠ [] ∧ ∀ name ∈ path, IsName name

/-- The POSIX text of a relative path. -/
def asPosix (path : RelativePath) : String := "/".intercalate path

/-- The names in a POSIX text of a relative path. -/
def posixParts (text : String) : RelativePath :=
  ((text.toList.splitOn '/').filter fun part => part ≠ [] ∧ part ≠ ['.']).map String.ofList

theorem toList_asPosix {path : RelativePath} :
    (asPosix path).toList = ['/'].intercalate (path.map String.toList) :=
  String.toList_intercalate

/-- The text of a path names its parts again. -/
theorem posixParts_asPosix {path : RelativePath} (hne : path ≠ [])
    (hnames : ∀ name ∈ path, IsName name) : posixParts (asPosix path) = path := by
  have hsplit : (asPosix path).toList.splitOn '/' = path.map String.toList := by
    rw [toList_asPosix, List.splitOn_intercalate]
    · simpa using fun name hname => (hnames name hname).noSlash
    · simpa using hne
  have hkeep : ∀ part ∈ path.map String.toList, part ≠ [] ∧ part ≠ ['.'] := by
    rintro _ hpart
    obtain ⟨name, hname, rfl⟩ := List.mem_map.mp hpart
    refine ⟨fun h => (hnames name hname).nonempty (String.toList_eq_nil_iff.mp h), fun h => ?_⟩
    exact (hnames name hname).noDot (String.toList_inj.mp h)
  rw [posixParts, hsplit, List.filter_eq_self.mpr (by simpa using hkeep), List.map_map]
  exact (List.map_congr_left fun name _ => String.ofList_toList).trans (List.map_id path)

variable (casefold : String → String)

/-- The historical order without case, with the exact parts against a tie. -/
def candidateOrderKey (path : RelativePath) : List String ×ₗ List String :=
  toLex ((posixParts (asPosix path)).map casefold, posixParts (asPosix path))

/-- Keep the first path of each text. -/
def byRelative (files : List RelativePath) : List RelativePath :=
  files.foldl (fun kept path => if asPosix path ∈ kept.map asPosix then kept else kept ++ [path]) []

def portableUniqueCandidates (files : List RelativePath) : List RelativePath :=
  (byRelative files).insertionSort fun path other =>
    candidateOrderKey casefold path ≤ candidateOrderKey casefold other

namespace Repository

variable (repository : Repository)

def isFile (path : RelativePath) : Bool :=
  match repository.state path with
  | .unreadable _ | .content _ _ => true
  | .missing | .irregular _ => false

/-- The files of a candidate as they are found, before they are made unique. -/
def enumerated (publicationPaths : Option (List String)) : Except String (List RelativePath) :=
  match publicationPaths with
  | some paths => paths.mapM fun relative => do
      safeRelativePath "publication path" relative
      pure (posixParts relative)
  | none => pure (repository.walk.filter fun path =>
      !path.any excludedParts.contains && (repository.isFile path || repository.isLink path))

/-- The bounded publication set in portable relative-path order. -/
def candidateFiles (publicationPaths : Option (List String)) : Except String (List RelativePath) :=
  portableUniqueCandidates casefold <$> repository.enumerated publicationPaths

/-- A link at a component of a path below the root. -/
def pathOrParentIsLinked (path : RelativePath) : Bool :=
  path.inits.any fun parent => parent ≠ [] && repository.isLink parent

/-- The size of an entry, where the file system tells it. -/
def statSize (path : RelativePath) : Except String Nat :=
  match repository.state path with
  | .missing => .error "Repository candidate could not be hashed."
  | .irregular size | .unreadable size | .content size _ => .ok size

def readBytes (path : RelativePath) : Except String (List UInt8) :=
  match repository.state path with
  | .content _ bytes => .ok bytes
  | .missing | .irregular _ | .unreadable _ => .error "Repository candidate could not be hashed."

/-- What the files write into the digest, after `totalBytes` bytes of content. -/
def digestUpdates (totalBytes : Nat) : List RelativePath → Except String (List UInt8)
  | [] => pure []
  | path :: files => do
    require (repository.pathOrParentIsLinked path = false) "Repository candidate contains a link."
    let size ← repository.statSize path
    require (size ≤ 1000000) "Repository candidate contains an oversized file."
    require (totalBytes + size ≤ 64000000) "Repository candidate exceeds the byte limit."
    let content ← repository.readBytes path
    let rest ← digestUpdates (totalBytes + size) files
    pure (frame (encoded (asPosix path)) size content ++ rest)

/-- The bytes a repository digest is taken of. -/
def hashedBytes (publicationPaths : Option (List String)) : Except String (List UInt8) := do
  let files ← repository.candidateFiles casefold publicationPaths
  require (files.length ≤ 4096) "Repository candidate exceeds the file-count limit."
  repository.digestUpdates 0 files

/-- The digest of the publication candidate, for a hash of bytes in upper-case digits. -/
def repositoryDigest (sha256 : List UInt8 → String) (publicationPaths : Option (List String)) :
    Except String String :=
  sha256 <$> repository.hashedBytes casefold publicationPaths

end Repository

/-! ## Enumerations -/

theorem byRelative_concat {files : List RelativePath} {path : RelativePath} :
    byRelative (files ++ [path]) =
      if asPosix path ∈ (byRelative files).map asPosix then byRelative files
      else byRelative files ++ [path] := by
  rw [byRelative, List.foldl_append]
  rfl

theorem nodup_byRelative {files : List RelativePath} :
    ((byRelative files).map asPosix).Nodup := by
  induction files using List.reverseRecOn with
  | nil => exact List.nodup_nil
  | append_singleton files path ih =>
    rw [byRelative_concat]
    split_ifs with hpath
    · exact ih
    · rw [List.map_append, List.map_singleton, ← List.concat_eq_append, List.nodup_concat]
      exact ⟨hpath, ih⟩

theorem subset_byRelative {files : List RelativePath} : byRelative files ⊆ files := by
  induction files using List.reverseRecOn with
  | nil => exact List.Subset.refl _
  | append_singleton files path ih =>
    rw [byRelative_concat]
    split_ifs with hpath
    · exact fun other hother => List.mem_append_left _ (ih hother)
    · exact List.append_subset.mpr ⟨fun other hother => List.mem_append_left _ (ih hother),
        List.subset_append_right _ _⟩

theorem asPosix_mem_byRelative {files : List RelativePath} {path : RelativePath}
    (h : path ∈ files) : asPosix path ∈ (byRelative files).map asPosix := by
  induction files using List.reverseRecOn with
  | nil => cases h
  | append_singleton files last ih =>
    rw [byRelative_concat]
    rcases List.mem_append.mp h with hpath | hlast
    · split_ifs with hmem
      · exact ih hpath
      · rw [List.map_append]
        exact List.mem_append_left _ (ih hpath)
    · obtain rfl := List.mem_singleton.mp hlast
      split_ifs with hmem
      · exact hmem
      · simp

/-- Every path of a list is made of names. -/
def NamedPaths (files : List RelativePath) : Prop :=
  ∀ path ∈ files, path ≠ [] ∧ ∀ name ∈ path, IsName name

variable {files files' : List RelativePath} {path path' : RelativePath}

theorem asPosix_inj (hpath : path ≠ [] ∧ ∀ name ∈ path, IsName name)
    (hpath' : path' ≠ [] ∧ ∀ name ∈ path', IsName name) (h : asPosix path = asPosix path') :
    path = path' := by
  rw [← posixParts_asPosix hpath.1 hpath.2, h, posixParts_asPosix hpath'.1 hpath'.2]

theorem mem_byRelative (hnamed : NamedPaths files) : path ∈ byRelative files ↔ path ∈ files := by
  constructor
  · exact fun h => subset_byRelative h
  · intro h
    obtain ⟨other, hother, heq⟩ := List.mem_map.mp (asPosix_mem_byRelative h)
    rwa [← asPosix_inj (hnamed other (subset_byRelative hother)) (hnamed path h) heq]

variable {casefold : String → String}

@[simp] theorem mem_portableUniqueCandidates (hnamed : NamedPaths files) :
    path ∈ portableUniqueCandidates casefold files ↔ path ∈ files := by
  rw [portableUniqueCandidates, List.mem_insertionSort, mem_byRelative hnamed]

/-- Two paths that stand for one key are one path, also where only their case differs. -/
theorem candidateOrderKey_inj (hpath : path ≠ [] ∧ ∀ name ∈ path, IsName name)
    (hpath' : path' ≠ [] ∧ ∀ name ∈ path', IsName name)
    (h : candidateOrderKey casefold path = candidateOrderKey casefold path') : path = path' := by
  have hparts : posixParts (asPosix path) = posixParts (asPosix path') :=
    congrArg (fun key => (ofLex key).2) h
  rwa [posixParts_asPosix hpath.1 hpath.2, posixParts_asPosix hpath'.1 hpath'.2] at hparts

theorem nodup_candidateOrderKey (hnamed : NamedPaths files) :
    ((byRelative files).map (candidateOrderKey casefold)).Nodup := by
  have hnodup : (byRelative files).Nodup := nodup_byRelative.of_map asPosix
  refine hnodup.map_on ?_
  intro a ha b hb hab
  exact candidateOrderKey_inj (hnamed a (subset_byRelative ha))
    (hnamed b (subset_byRelative hb)) hab

/-- The order of an enumeration and what it repeats are forgotten. -/
theorem portableUniqueCandidates_eq (hnamed : NamedPaths files) (hnamed' : NamedPaths files')
    (hsame : ∀ path, path ∈ files ↔ path ∈ files') :
    portableUniqueCandidates casefold files = portableUniqueCandidates casefold files' := by
  have hperm : (byRelative files).Perm (byRelative files') := by
    rw [List.perm_ext_iff_of_nodup (nodup_byRelative.of_map asPosix)
      (nodup_byRelative.of_map asPosix)]
    intro path
    rw [mem_byRelative hnamed, mem_byRelative hnamed', hsame]
  exact Sorting.insertionSort_key_eq_of_perm (nodup_candidateOrderKey hnamed) hperm

namespace Repository

variable {repository repository' : Repository}
  {publicationPaths publicationPaths' : Option (List String)} {field : String}

theorem slash_notMem_splitOn {cs : List Char} : ∀ part ∈ cs.splitOn '/', '/' ∉ part := by
  induction cs with
  | nil => simp
  | cons c cs ih =>
    rw [List.splitOn_cons_eq_if_modifyHead]
    split_ifs with hc
    · simpa using ih
    · obtain ⟨part, parts, hparts⟩ := List.exists_cons_of_ne_nil (List.splitOn_ne_nil '/' cs)
      rw [hparts, List.forall_mem_cons] at ih
      rw [hparts, List.modifyHead_cons, List.forall_mem_cons]
      refine ⟨fun hmem => ?_, ih.2⟩
      rcases List.mem_cons.mp hmem with heq | htail
      · exact hc (by rw [heq, beq_self_eq_true])
      · exact ih.1 htail

/-- The names of an accepted publication path are names of a file system. -/
theorem named_posixParts {text : String} (h : safeRelativePath field text = .ok ()) :
    posixParts text ≠ [] ∧ ∀ name ∈ posixParts text, IsName name := by
  obtain ⟨-, -, hparts, -⟩ := safeRelativePath_eq_ok.mp h
  have hall : ((text.toList.splitOn '/').filter fun part => part ≠ [] ∧ part ≠ ['.']) =
      text.toList.splitOn '/' :=
    List.filter_eq_self.mpr fun part hpart =>
      decide_eq_true ⟨(hparts part hpart).1, (hparts part hpart).2.1⟩
  rw [posixParts, hall]
  refine ⟨by simp, ?_⟩
  intro name hname
  obtain ⟨part, hpart, rfl⟩ := List.mem_map.mp hname
  refine ⟨fun heq => (hparts part hpart).1 ?_, fun heq => (hparts part hpart).2.1 ?_, ?_⟩
  · simpa using congrArg String.toList heq
  · simpa using congrArg String.toList heq
  · simpa using slash_notMem_splitOn part hpart

theorem named_enumerated (h : repository.enumerated publicationPaths = .ok files) :
    NamedPaths files := by
  rcases publicationPaths with _ | paths
  · obtain rfl := Except.ok.inj h
    exact fun path hpath => repository.named path (List.mem_of_mem_filter hpath)
  · rw [enumerated, mapM_eq_ok] at h
    induction h with
    | nil => exact fun path hpath => absurd hpath List.not_mem_nil
    | cons hpath hpaths ih =>
      simp only [bind_eq_ok, exists_unit, pure_eq_ok] at hpath
      obtain ⟨hsafe, rfl⟩ := hpath
      exact List.forall_mem_cons.mpr ⟨named_posixParts hsafe, ih⟩

/-! ## What the digest says -/

/-- The bytes of a file that can be read. -/
def bytesOf (repository : Repository) (path : RelativePath) : Option (List UInt8) :=
  match repository.state path with
  | .content _ bytes => some bytes
  | .missing | .irregular _ | .unreadable _ => none

/-- The map from publication paths to file contents. -/
def publicationMap (repository : Repository) (files : List RelativePath) (text : String) :
    Option (List UInt8) :=
  (files.find? fun path => asPosix path = text).bind repository.bytesOf

/-- The size of a file is the length of its content. -/
def Sized (repository : Repository) : Prop :=
  ∀ path size bytes, repository.state path = .content size bytes → size = bytes.length

theorem publicationMap_eq_some (hnamed : NamedPaths files) {text : String} {bytes : List UInt8} :
    repository.publicationMap files text = some bytes ↔
      ∃ path ∈ files, asPosix path = text ∧ repository.bytesOf path = some bytes := by
  rw [publicationMap, Option.bind_eq_some_iff]
  constructor
  · rintro ⟨path, hpath, hbytes⟩
    exact ⟨path, List.mem_of_find?_eq_some hpath, by simpa using List.find?_some hpath, hbytes⟩
  · rintro ⟨path, hpath, rfl, hbytes⟩
    obtain ⟨other, hother⟩ := Option.isSome_iff_exists.mp
      (List.find?_isSome (p := fun other => asPosix other = asPosix path).mpr
        ⟨path, hpath, decide_eq_true rfl⟩)
    have hsame : other = path := asPosix_inj (hnamed other (List.mem_of_find?_eq_some hother))
      (hnamed path hpath) (by simpa using List.find?_some hother)
    exact ⟨other, hother, hsame ▸ hbytes⟩

/-- A file as it is framed. -/
def framed (repository : Repository) (path : RelativePath) : List UInt8 × List UInt8 :=
  (encoded (asPosix path), (repository.bytesOf path).getD [])

/-- A pass through the files reads each of them and writes its frame. -/
theorem digestUpdates_eq_ok (hsized : repository.Sized) {totalBytes : Nat} {bytes : List UInt8}
    (h : repository.digestUpdates totalBytes files = .ok bytes) :
    bytes = frames (files.map repository.framed) ∧
      ∀ path ∈ files, (repository.bytesOf path).isSome := by
  induction files generalizing totalBytes bytes with
  | nil => exact ⟨(Except.ok.inj h).symm, fun path hpath => absurd hpath List.not_mem_nil⟩
  | cons path files ih =>
    simp only [digestUpdates, bind_eq_ok, exists_unit, require_eq_ok, pure_eq_ok] at h
    obtain ⟨-, size, hsize, -, -, content, hcontent, rest, hrest, rfl⟩ := h
    obtain ⟨rfl, hfiles⟩ := ih hrest
    cases hstate : repository.state path with
    | content size' bytes =>
      simp only [statSize, hstate, Except.ok.injEq] at hsize
      simp only [readBytes, hstate, Except.ok.injEq] at hcontent
      obtain rfl := hsize
      obtain rfl := hcontent
      obtain rfl := hsized path _ _ hstate
      have hbytes : repository.bytesOf path = some bytes := by simp only [bytesOf, hstate]
      refine ⟨?_, List.forall_mem_cons.mpr ⟨by rw [hbytes]; rfl, hfiles⟩⟩
      simp only [frames, List.map_cons, List.flatMap_cons, framed, hbytes, Option.getD_some]
    | missing | irregular | unreadable => simp [readBytes, hstate] at hcontent

/-- The texts of named paths without a null character are framed without a zero byte. -/
theorem zero_notMem_asPosix (h : ∀ name ∈ path, '\x00' ∉ name.toList) :
    0 ∉ encoded (asPosix path) := by
  refine zero_notMem_encoded fun hmem => ?_
  have hfree : ∀ c ∈ ['/'].intercalate (path.map String.toList), c ≠ '\x00' := by
    refine forall_mem_intercalate (by decide) ?_
    rintro part hpart c hc rfl
    obtain ⟨name, hname, rfl⟩ := List.mem_map.mp hpart
    exact h name hname hc
  rw [toList_asPosix] at hmem
  exact hfree _ hmem rfl

/-- What an accepted candidate hashes. -/
theorem hashedBytes_eq_ok (hsized : repository.Sized) {bytes : List UInt8}
    (hfiles : repository.enumerated publicationPaths = .ok files)
    (h : repository.hashedBytes casefold publicationPaths = .ok bytes) :
    bytes = frames ((portableUniqueCandidates casefold files).map repository.framed) ∧
      ∀ path ∈ files, (repository.bytesOf path).isSome := by
  simp only [hashedBytes, candidateFiles, hfiles, bind_eq_ok, map_eq_ok, Except.ok.injEq,
    exists_eq_left', exists_unit, require_eq_ok] at h
  obtain ⟨hbytes, hread⟩ := digestUpdates_eq_ok hsized h.2
  refine ⟨hbytes, fun path hpath => hread path ?_⟩
  rwa [mem_portableUniqueCandidates (named_enumerated hfiles)]

/-- Equal frames hold each file of the other candidate, with its content. -/
theorem publicationMap_of_framed (hnamed : NamedPaths files) (hnamed' : NamedPaths files')
    (hread' : ∀ path ∈ files', (repository'.bytesOf path).isSome)
    (h : (portableUniqueCandidates casefold files).map repository.framed =
      (portableUniqueCandidates casefold files').map repository'.framed)
    {text : String} {bytes : List UInt8}
    (hbytes : repository.publicationMap files text = some bytes) :
    repository'.publicationMap files' text = some bytes := by
  obtain ⟨path, hpath, rfl, hcontent⟩ := (publicationMap_eq_some hnamed).mp hbytes
  have hmem := List.mem_map_of_mem (f := repository.framed)
    ((@mem_portableUniqueCandidates _ _ casefold hnamed).mpr hpath)
  rw [h] at hmem
  obtain ⟨path', hpath', hframed⟩ := List.mem_map.mp hmem
  rw [mem_portableUniqueCandidates hnamed'] at hpath'
  obtain ⟨content', hcontent'⟩ := Option.isSome_iff_exists.mp (hread' path' hpath')
  simp only [framed, Prod.mk.injEq, hcontent, hcontent', Option.getD_some] at hframed
  obtain ⟨htext, rfl⟩ := hframed
  exact (publicationMap_eq_some hnamed').mpr ⟨path', hpath', encoded_injective htext, hcontent'⟩

/-- Equal maps hold the same paths with the same contents. -/
theorem framed_of_publicationMap (hnamed : NamedPaths files) (hnamed' : NamedPaths files')
    (hread : ∀ path ∈ files, (repository.bytesOf path).isSome)
    (h : repository.publicationMap files = repository'.publicationMap files') :
    ∀ path ∈ files, path ∈ files' ∧ repository.framed path = repository'.framed path := by
  intro path hpath
  obtain ⟨bytes, hbytes⟩ := Option.isSome_iff_exists.mp (hread path hpath)
  have hmap := (publicationMap_eq_some hnamed).mpr ⟨path, hpath, rfl, hbytes⟩
  rw [h] at hmap
  obtain ⟨path', hpath', htext, hbytes'⟩ := (publicationMap_eq_some hnamed').mp hmap
  obtain rfl := asPosix_inj (hnamed' path' hpath') (hnamed path hpath) htext
  exact ⟨hpath', by rw [framed, framed, hbytes, hbytes']⟩

theorem digestUpdates_congr (hlink : repository.isLink = repository'.isLink)
    (hstate : repository.state = repository'.state) (totalBytes : Nat) :
    repository.digestUpdates totalBytes files = repository'.digestUpdates totalBytes files := by
  induction files generalizing totalBytes with
  | nil => rfl
  | cons path files ih =>
    have hlinked :
        repository.pathOrParentIsLinked path = repository'.pathOrParentIsLinked path := by
      rw [pathOrParentIsLinked, pathOrParentIsLinked, hlink]
    have hsize : repository.statSize path = repository'.statSize path := by
      rw [statSize, statSize, hstate]
    have hread : repository.readBytes path = repository'.readBytes path := by
      rw [readBytes, readBytes, hstate]
    rw [digestUpdates, digestUpdates, hsize, hread]
    simp only [hlinked, ih]

/-- The digest identifies the candidate: two enumerations of the same files are hashed alike, and
what two candidates hash is the same exactly when they publish the same contents at the same
paths. -/
theorem repositoryDigest_identifies (hsized : repository.Sized) (hsized' : repository'.Sized)
    (hfiles : repository.enumerated publicationPaths = .ok files)
    (hfiles' : repository'.enumerated publicationPaths' = .ok files')
    (hnul : ∀ path ∈ files, ∀ name ∈ path, '\x00' ∉ name.toList)
    (hnul' : ∀ path ∈ files', ∀ name ∈ path, '\x00' ∉ name.toList) :
    (repository.isLink = repository'.isLink → repository.state = repository'.state →
      (∀ path, path ∈ files ↔ path ∈ files') →
      repository.hashedBytes casefold publicationPaths =
        repository'.hashedBytes casefold publicationPaths') ∧
    ∀ bytes bytes', repository.hashedBytes casefold publicationPaths = .ok bytes →
      repository'.hashedBytes casefold publicationPaths' = .ok bytes' →
      (bytes = bytes' ↔ repository.publicationMap files = repository'.publicationMap files') := by
  have hnamed := named_enumerated hfiles
  have hnamed' := named_enumerated hfiles'
  constructor
  · intro hlink hstate hsame
    have hcandidates : portableUniqueCandidates casefold files =
        portableUniqueCandidates casefold files' :=
      portableUniqueCandidates_eq hnamed hnamed' hsame
    simp only [hashedBytes, candidateFiles, hfiles, hfiles', Except.map_ok, hcandidates,
      digestUpdates_congr hlink hstate]
  · intro bytes bytes' hbytes hbytes'
    obtain ⟨rfl, hread⟩ := hashedBytes_eq_ok hsized hfiles hbytes
    obtain ⟨rfl, hread'⟩ := hashedBytes_eq_ok hsized' hfiles' hbytes'
    constructor
    · intro heq
      have hframed : (portableUniqueCandidates casefold files).map repository.framed =
          (portableUniqueCandidates casefold files').map repository'.framed := by
        refine frames_inj ?_ ?_ heq
        · intro file hfile
          obtain ⟨path, hpath, rfl⟩ := List.mem_map.mp hfile
          exact zero_notMem_asPosix (hnul path ((mem_portableUniqueCandidates hnamed).mp hpath))
        · intro file hfile
          obtain ⟨path, hpath, rfl⟩ := List.mem_map.mp hfile
          exact zero_notMem_asPosix (hnul' path ((mem_portableUniqueCandidates hnamed').mp hpath))
      funext text
      refine Option.ext fun bytes => ⟨?_, ?_⟩
      · exact publicationMap_of_framed hnamed hnamed' hread' hframed
      · exact publicationMap_of_framed hnamed' hnamed hread hframed.symm
    · intro hmap
      have hsame := framed_of_publicationMap hnamed hnamed' hread hmap
      have hsame' := framed_of_publicationMap hnamed' hnamed hread' hmap.symm
      rw [portableUniqueCandidates_eq hnamed hnamed' fun path =>
        ⟨fun h => (hsame path h).1, fun h => (hsame' path h).1⟩]
      refine congrArg frames (List.map_congr_left fun path hpath => ?_)
      rw [mem_portableUniqueCandidates hnamed'] at hpath
      exact (hsame' path hpath).2.symm

end Repository

/-! ## Two names that differ in case -/

namespace Sample

open Repository

def loweredText (text : String) : String := String.ofList (text.toList.map Char.toLower)

/-- A repository with two files whose names differ in case only. -/
def twoCases (upper lower : List UInt8) : Repository where
  walk := [["b"], ["B"]]
  isLink := fun _ => false
  state := fun path =>
    if path = ["B"] then .content upper.length upper
    else if path = ["b"] then .content lower.length lower
    else .missing
  named := by
    have hb : IsName "b" := ⟨by decide, by decide, by decide⟩
    have hB : IsName "B" := ⟨by decide, by decide, by decide⟩
    simp [hb, hB]

theorem sized_twoCases {upper lower : List UInt8} : (twoCases upper lower).Sized := by
  intro path size bytes h
  change (if path = ["B"] then FileState.content _ _ else if _ then _ else _) = _ at h
  split_ifs at h
  · cases h
    rfl
  · cases h
    rfl

end Sample

/-- Naming the files in another order and twice changes nothing, and exchanging the contents of two
names that differ in case only is seen. -/
theorem two_cases_identified :
    (Sample.twoCases [1] [2]).hashedBytes Sample.loweredText none =
      (Sample.twoCases [1] [2]).hashedBytes Sample.loweredText (some ["B", "b", "B"]) ∧
    (Sample.twoCases [1] [2]).hashedBytes Sample.loweredText none ≠
      (Sample.twoCases [2] [1]).hashedBytes Sample.loweredText none := by
  have hnul : ∀ path ∈ [["b"], ["B"]], ∀ name ∈ path, '\x00' ∉ name.toList := by decide
  have hfiles : (Sample.twoCases [1] [2]).enumerated none = .ok [["b"], ["B"]] := rfl
  constructor
  · have hnul' : ∀ path ∈ [["B"], ["b"], ["B"]], ∀ name ∈ path, '\x00' ∉ name.toList := by decide
    have hfiles' : (Sample.twoCases [1] [2]).enumerated (some ["B", "b", "B"]) =
        .ok [["B"], ["b"], ["B"]] := by decide +kernel
    refine (Repository.repositoryDigest_identifies Sample.sized_twoCases Sample.sized_twoCases
      hfiles hfiles' hnul hnul').1 rfl rfl fun path => ?_
    simp [or_comm]
  · intro heq
    have hbytes : (Sample.twoCases [1] [2]).hashedBytes Sample.loweredText none =
        .ok [66, 0, 49, 0, 1, 0, 98, 0, 49, 0, 2, 0] := by decide +kernel
    have hbytes' : (Sample.twoCases [2] [1]).hashedBytes Sample.loweredText none =
        .ok [66, 0, 49, 0, 1, 0, 98, 0, 49, 0, 2, 0] := heq ▸ hbytes
    have hfiles' : (Sample.twoCases [2] [1]).enumerated none = .ok [["b"], ["B"]] := rfl
    have hmap := ((Repository.repositoryDigest_identifies Sample.sized_twoCases
      Sample.sized_twoCases hfiles hfiles' hnul hnul).2 _ _ hbytes hbytes').mp rfl
    exact absurd (congrFun hmap "b") (by decide +kernel)

end Sdaqf
