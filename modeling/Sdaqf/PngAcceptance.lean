import Sdaqf.PngGrammar

/-!
# The PNG validator and the documented subset

The validator answers for every content. It is true exactly for the documented files that have one
ancillary chunk at most behind the image data; it refuses the others, although the documentation
allows any number of such chunks.
-/

namespace Sdaqf.Png

open Guard BigEndian

variable {Z : Zlib} {content : Bytes} {d : Document} {scan : Scan}

/-! ## The end of the walk -/

/-- The image data is one stream of rows that begin with a filter byte. -/
def IsImage (Z : Zlib) (compressed : Bytes) (height rowSize : Nat) : Prop :=
  ∃ rows : List Bytes, Z.inflate compressed = .complete rows.flatten [] ∧ rows.length = height ∧
    ∀ row ∈ rows, row.length = rowSize ∧ ∃ filter ∈ row.head?, filter ≤ 4

/-- The scan shows a complete file. -/
structure Scan.Complete (Z : Zlib) (scan : Scan) : Prop where
  sawHeader : scan.sawHeader = true
  compressed : scan.compressed ≠ []
  image : IsImage Z scan.compressed scan.height (1 + scan.width * scan.channels)

theorem all_heads_iff {rows : List Bytes} {rowSize : Nat}
    (hrows : ∀ row ∈ rows, row.length = 1 + rowSize) :
    ((rows.map (·.headD 0)).all fun filter => filter ≤ 4) = true ↔
      ∀ row ∈ rows, row.length = 1 + rowSize ∧ ∃ filter ∈ row.head?, filter ≤ 4 := by
  rw [List.all_map, List.all_eq_true]
  refine forall₂_congr fun row hrow => ?_
  obtain ⟨first, row, rfl⟩ := List.exists_cons_of_length_eq_add_one
    ((hrows row hrow).trans (Nat.add_comm 1 rowSize))
  have hlength := hrows _ hrow
  simp only [List.headD_cons, List.head?_cons, Option.mem_some_iff, exists_eq_left', hlength,
    true_and, Function.comp_apply]
  exact decide_eq_true_iff

/-- The rows of an image are told from its pixels. -/
theorem isImage_flatten {compressed : Bytes} {rows : List Bytes} {rowSize : Nat}
    (hinflate : Z.inflate compressed = .complete rows.flatten [])
    (hrows : ∀ row ∈ rows, row.length = 1 + rowSize) :
    IsImage Z compressed rows.length (1 + rowSize) ↔
      ((rows.map (·.headD 0)).all fun filter => filter ≤ 4) = true := by
  rw [all_heads_iff hrows]
  constructor
  · rintro ⟨rows', hinflate', hlength, hrows'⟩
    rw [hinflate, Inflated.complete.injEq] at hinflate'
    have hsame : rows = rows' :=
      List.eq_iff_flatten_eq.mpr ⟨hinflate'.1, by
        rw [List.map_congr_left hrows, List.map_congr_left fun row hrow => (hrows' row hrow).1,
          List.map_const', List.map_const', hlength]⟩
    exact hsame ▸ hrows'
  · exact fun h => ⟨rows, hinflate, rfl, h⟩

/-- What the walk leaves decides the answer. -/
theorem validPng_of_walk {r : Option Scan} (hlength : 45 ≤ content.length)
    (hsignature : signature <+: content) (hwalk : walk Z content content.length 8 {} = .ok r) :
    ∃ b, validPng Z content = .ok b ∧
      (b = true ↔ ∃ final, r.filter (·.sawEnd) = some final ∧ final.Complete Z) := by
  have hstart : ¬(content.length < 45 ∨ signature.isPrefixOf content = false) := by
    rw [List.isPrefixOf_iff_prefix.mpr hsignature]
    simp only [Bool.true_eq_false, or_false]
    omega
  simp only [validPng, if_neg hstart, hwalk, bind, Except.bind, pure, Except.pure]
  cases r with
  | none => exact ⟨false, rfl, by simp⟩
  | some scan =>
    dsimp only
    split_ifs with hsaw
    · obtain ⟨hheader, hcompressed, hend⟩ := hsaw
      have hcomplete : (∃ final, (some scan).filter (·.sawEnd) = some final ∧ final.Complete Z) ↔
          IsImage Z scan.compressed scan.height (1 + scan.width * scan.channels) := by
        rw [Option.filter_some, if_pos hend]
        constructor
        · rintro ⟨_, ⟨⟩, h⟩
          exact h.image
        · exact fun h => ⟨scan, rfl, hheader, hcompressed, h⟩
      rw [hcomplete]
      cases hpixels :
          pixelsOf Z scan.compressed (scan.height * (1 + scan.width * scan.channels)) with
      | none =>
        refine ⟨false, rfl, by simp, ?_⟩
        rintro ⟨rows, hinflate, hheight, hrows⟩
        have hsize : rows.flatten.length = scan.height * (1 + scan.width * scan.channels) := by
          rw [List.length_flatten, List.map_congr_left fun row hrow => (hrows row hrow).1,
            List.map_const', List.sum_replicate_nat, hheight]
        cases hpixels.symm.trans (pixelsOf_eq_some.mpr ⟨hinflate, hsize⟩)
      | some pixels =>
        obtain ⟨hinflate, hsize⟩ := pixelsOf_eq_some.mp hpixels
        obtain ⟨rows, rfl, hheight, hrows⟩ := exists_rows hsize
        refine ⟨_, by simp only [filterBytes_flatten hrows]; rfl, ?_⟩
        rw [← hheight]
        exact (isImage_flatten hinflate hrows).symm
    · refine ⟨false, rfl, by simp, ?_⟩
      rintro ⟨final, hfinal, hcomplete⟩
      obtain ⟨hsame, hend⟩ := Option.filter_eq_some_iff.mp hfinal
      cases hsame
      exact absurd ⟨hcomplete.sawHeader, hcomplete.compressed, hend⟩ hsaw

/-! ## Documented files -/

/-- Every type of the subset is four letters, of which the third is upper case. -/
theorem types_sound {chunkType : Bytes}
    (h : chunkType ∈ headerType :: imageType :: endType :: ancillaryBeforeImage) :
    chunkType.length = 4 ∧ chunkType.all isLetter = true ∧ chunkType[2]?.all isUpper = true := by
  have hall : ((headerType :: imageType :: endType :: ancillaryBeforeImage).all fun t =>
      t.length = 4 ∧ t.all isLetter = true ∧ t[2]?.all isUpper = true) = true := by
    decide +kernel
  exact of_decide_eq_true (List.all_eq_true.mp hall chunkType h)

theorem Document.Valid.sound (hd : d.Valid Z) : ∀ c ∈ d.header :: d.body, c.Sound := by
  refine List.forall_mem_cons.mpr ⟨?_, fun c hc => ?_⟩
  · obtain ⟨hfour, hletters, hreserved⟩ := types_sound (List.mem_cons_self ..)
    exact ⟨hfour, hletters, hreserved, show 13 ≤ maxChunkBytes by decide⟩
  · have htype : c.type ∈ headerType :: imageType :: endType :: ancillaryBeforeImage := by
      rcases List.mem_append.mp hc with hbefore | hc
      · simp [hd.before c hbefore]
      rcases List.mem_append.mp hc with himage | hc
      · obtain ⟨data, -, rfl⟩ := List.mem_map.mp himage
        simp
      rcases List.mem_append.mp hc with hafter | hend
      · simp [ancillaryAfterImage_subset (hd.after c hafter)]
      · rw [List.mem_singleton.mp hend]
        simp
    obtain ⟨hfour, hletters, hreserved⟩ := types_sound htype
    exact ⟨hfour, hletters, hreserved, hd.small c hc⟩

/-- The scan after the image data of a document. -/
def Document.scanned (d : Document) : Scan :=
  (({} : Scan).withHeader d.width d.height d.alpha).withImage d.image.flatten

theorem runChunks_document (hd : d.Valid Z) :
    runChunks {} (d.header :: d.body) = d.scanned.finish d.after := by
  have hheader : runChunks {} (d.header :: d.body) =
      runChunks (({} : Scan).withHeader d.width d.height d.alpha) d.body := by
    have htaken :=
      @acceptHeader_documented {} d.width d.height d.alpha ⟨hd.width, hd.height, hd.area⟩
    simp only [runChunks, accept, Document.header, List.append_assoc, Bool.false_eq_true, if_false]
    rw [htaken]
  rw [hheader, Document.body, runChunks_append_before rfl rfl hd.before]
  have himage := @runChunks_append_image (({} : Scan).withHeader d.width d.height d.alpha)
    (d.after ++ [endChunk]) d.image rfl (.inl rfl) hd.image hd.total.2
  exact himage.trans (runChunks_append_after rfl rfl hd.after)

/-- The walk over the bytes of a document. -/
theorem walk_document (hd : d.Valid Z) :
    ∃ r, walk Z (d.encoded Z) (d.encoded Z).length 8 {} = .ok r ∧
      r.filter (·.sawEnd) = runChunks {} (d.header :: d.body) := by
  have hlength : 8 ≤ (d.encoded Z).length := by
    rw [Document.encoded, List.length_append]
    exact Nat.le_add_right _ _
  exact walk_chunks hd.sound hlength rfl rfl (by omega)

/-- A documented file is accepted exactly if at most one chunk stands behind its image data. -/
theorem validPng_document (hd : d.Valid Z) :
    ∃ b, validPng Z (d.encoded Z) = .ok b ∧ (b = true ↔ d.after.length ≤ 1) := by
  have hlength : 45 ≤ (d.encoded Z).length := by
    have hheader : (d.header.encoded Z).length = 25 := rfl
    have hend : (Chunk.encoded Z ⟨endType, []⟩).length = 12 := rfl
    have hsignature : signature.length = 8 := rfl
    simp only [Document.encoded, Document.body, List.length_append, List.flatMap_cons,
      List.flatMap_append, List.flatMap_nil, hheader, hend, hsignature]
    omega
  obtain ⟨r, hwalk, hr⟩ := walk_document hd
  obtain ⟨b, hb, hiff⟩ := validPng_of_walk hlength (List.prefix_append _ _) hwalk
  refine ⟨b, hb, hiff.trans ?_⟩
  rw [hr, runChunks_document hd]
  have hcomplete : ∀ scan : Scan, scan.sawHeader = true → scan.compressed = d.image.flatten →
      scan.height = d.height → scan.width = d.width → scan.channels = d.channels →
      scan.Complete Z := by
    rintro scan hheader hcompressed hheight hwidth hchannels
    refine ⟨hheader, ?_, ?_⟩
    · rw [hcompressed, ← List.length_pos_iff]
      exact hd.total.1
    · rw [hcompressed, hheight, hwidth, hchannels]
      exact hd.pixels
  rcases d.after with _ | ⟨c, _ | ⟨c', after⟩⟩
  · exact iff_of_true ⟨_, rfl, hcomplete _ rfl rfl rfl rfl rfl⟩ (Nat.zero_le 1)
  · exact iff_of_true ⟨_, rfl, hcomplete _ rfl rfl rfl rfl rfl⟩ le_rfl
  · refine iff_of_false ?_ (by simp)
    rintro ⟨_, ⟨⟩, -⟩

/-! ## Accepted files -/

/-- What an accepted content is made of. -/
theorem exists_document {r : Option Scan} {final : Scan}
    (hsignature : signature <+: content) (hwalk : walk Z content content.length 8 {} = .ok r)
    (hfinal : r.filter (·.sawEnd) = some final) (hcomplete : final.Complete Z) :
    ∃ d : Document, d.Valid Z ∧ d.encoded Z = content ∧ d.after.length ≤ 1 := by
  obtain ⟨rest, rfl⟩ := hsignature
  have hlength : 8 ≤ (signature ++ rest).length := by
    rw [List.length_append]
    exact Nat.le_add_right _ _
  obtain ⟨r', hr', hchunks⟩ := @walk_cases Z (signature ++ rest) 8 _ {} hlength rfl
    (by omega : (signature ++ rest).length < 8 + 12 * (signature ++ rest).length)
  cases hwalk.symm.trans hr'
  obtain ⟨chunks, hsound, hrest, hrun⟩ := hchunks final hfinal
  cases chunks with
  | nil => cases hrun
  | cons c chunks =>
    obtain ⟨chunkType, data⟩ := c
    rw [runChunks, accept, if_neg Bool.false_ne_true] at hrun
    rcases acceptHeader_cases {} chunkType data with
      hc | ⟨width, height, alpha, hbounded, rfl, rfl, hc⟩
    · rw [hc] at hrun
      cases hrun
    · rw [hc] at hrun
      obtain ⟨before, image, after, rfl, hbefore, himage, hone, hafter, hkeeps, hcompressed,
        htotal⟩ := runChunks_beforeImage rfl rfl rfl hrun hcomplete.compressed
      refine ⟨⟨width, height, alpha, before, image, after⟩, ?_, ?_, hone⟩
      · have hpixels := hcomplete.image
        have hsome := List.length_pos_iff.mpr hcomplete.compressed
        rw [hcompressed] at hpixels hsome htotal
        rw [hkeeps.height, hkeeps.width, hkeeps.channels] at hpixels
        exact {
          width := hbounded.wide
          height := hbounded.high
          area := hbounded.area
          before := hbefore
          after := hafter
          small := fun c hc => (hsound c (List.mem_cons_of_mem _ hc)).small
          image := himage
          total := ⟨hsome, htotal⟩
          pixels := hpixels }
      · refine congrArg (signature ++ ·) (Eq.trans ?_ hrest.symm)
        simp only [Document.header, Document.body, Document.imageChunks, List.append_assoc]
        rfl

/-- The validator answers for every content. -/
theorem exists_validPng (Z : Zlib) (content : Bytes) :
    ∃ b, validPng Z content = .ok b ∧
      (b = true ↔ ∃ d : Document, d.Valid Z ∧ d.encoded Z = content ∧ d.after.length ≤ 1) := by
  by_cases hstart : 45 ≤ content.length ∧ signature <+: content
  · have hlength := hstart.1
    obtain ⟨r, hwalk, -⟩ := @walk_cases Z content 8 _ {} (by omega) rfl
      (by omega : content.length < 8 + 12 * content.length)
    obtain ⟨b, hb, hiff⟩ := validPng_of_walk hlength hstart.2 hwalk
    refine ⟨b, hb, hiff.trans ⟨?_, ?_⟩⟩
    · rintro ⟨final, hfinal, hcomplete⟩
      exact exists_document hstart.2 hwalk hfinal hcomplete
    · rintro ⟨d, hd, rfl, hone⟩
      obtain ⟨b', hb', hiff'⟩ := validPng_document hd
      cases hb.symm.trans hb'
      exact hiff.mp (hiff'.mpr hone)
  · have hfalse : validPng Z content = .ok false := by
      have hcond : content.length < 45 ∨ signature.isPrefixOf content = false := by
        rw [not_and_or, not_le, ← List.isPrefixOf_iff_prefix, Bool.not_eq_true] at hstart
        exact hstart
      rw [validPng, if_pos hcond]
      rfl
    refine ⟨false, hfalse, by simp, ?_⟩
    rintro ⟨d, hd, rfl, hone⟩
    obtain ⟨b', hb', hiff'⟩ := validPng_document hd
    cases hfalse.symm.trans hb'
    exact hiff'.mpr hone

/-- The answer for every content, and the documented files it is true of. -/
theorem validPng_exact_iff (Z : Zlib) (content : Bytes) :
    ((∃ b, validPng Z content = .ok b) ∧ (validPng Z content = .ok true ↔ Documented Z content)) ↔
      ¬∃ d : Document, d.Valid Z ∧ d.encoded Z = content ∧ 2 ≤ d.after.length := by
  obtain ⟨b, hb, hiff⟩ := exists_validPng Z content
  have htrue : validPng Z content = .ok true ↔
      ∃ d : Document, d.Valid Z ∧ d.encoded Z = content ∧ d.after.length ≤ 1 := by
    rw [hb, Except.ok.injEq, hiff]
  constructor
  · rintro ⟨-, hdocumented⟩ ⟨d, hd, rfl, htwo⟩
    obtain ⟨b', hb', hiff'⟩ := validPng_document hd
    rw [hdocumented.mpr ⟨d, hd, rfl⟩, Except.ok.injEq] at hb'
    have hone := hiff'.mp hb'.symm
    omega
  · intro hnone
    refine ⟨⟨b, hb⟩, htrue.trans ⟨?_, ?_⟩⟩
    · rintro ⟨d, hd, hcontent, -⟩
      exact ⟨d, hd, hcontent⟩
    · rintro ⟨d, hd, hcontent⟩
      exact ⟨d, hd, hcontent, Nat.le_of_not_lt fun htwo => hnone ⟨d, hd, hcontent, htwo⟩⟩

/-! ## Two chunks behind the image data -/

/-- One bit of the CRC-32 of a PNG. -/
def crcStep (register : Nat) : Nat :=
  if register % 2 = 1 then (register / 2) ^^^ 0xedb88320 else register / 2

def crc32 (content : Bytes) : Nat :=
  content.foldl (fun register b => (List.range 8).foldl (fun register _ => crcStep register)
    (register ^^^ b.toNat)) 0xffffffff ^^^ 0xffffffff

/-- A stream that stores four bytes that are zero. -/
def storedRow : Bytes := [0x78, 1, 1, 4, 0, 0xfb, 0xff, 0, 0, 0, 0, 0, 4, 0, 1]

def sampleZlib : Zlib where
  crc32 := crc32
  inflate content := if content = storedRow then .complete [0, 0, 0, 0] [] else .invalid []
  held _ _ := []

/-- One pixel, with two texts behind it. -/
def twoTexts : Document where
  width := 1
  height := 1
  alpha := false
  before := []
  image := [storedRow]
  after := [⟨ascii "tEXt", [65, 0]⟩, ⟨ascii "tEXt", [66, 0]⟩]

theorem twoTexts_valid : twoTexts.Valid sampleZlib where
  width := by decide
  height := by decide
  area := by decide
  before := by simp [twoTexts]
  after := by decide +kernel
  small := by decide +kernel
  image := by simp [twoTexts]
  total := by decide
  pixels := ⟨[[0, 0, 0, 0]], rfl, rfl, by decide⟩

/-- A documented file is refused. -/
theorem two_texts_refused :
    ¬∀ (Z : Zlib) (content : Bytes), (∃ b, validPng Z content = .ok b) ∧
      (validPng Z content = .ok true ↔ Documented Z content) := by
  intro h
  have hfalse : validPng sampleZlib (twoTexts.encoded sampleZlib) = .ok false := by decide +kernel
  have htrue := (h sampleZlib (twoTexts.encoded sampleZlib)).2.mpr ⟨twoTexts, twoTexts_valid, rfl⟩
  rw [hfalse] at htrue
  cases htrue

end Sdaqf.Png
