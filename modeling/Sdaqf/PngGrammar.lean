import Sdaqf.PngValidation
import Mathlib.Data.List.Range
import Mathlib.Data.Option.Basic

/-!
# What the PNG validator accepts

The walk over the bytes is a walk over chunks, because a chunk is read back from what was written
and nothing else is read as a chunk. The walk over chunks accepts the documented order, except that it
takes one ancillary chunk at most after the image data. It never raises and never runs out of fuel.
-/

namespace Sdaqf.Png

open Guard BigEndian

variable {Z : Zlib} {content rest : Bytes} {offset fuel n : Nat} {scan final : Scan} {c : Chunk}

/-! ## Reading a chunk -/

/-- A chunk that a reader does not refuse by itself. -/
structure Chunk.Sound (c : Chunk) : Prop where
  four : c.type.length = 4
  letters : c.type.all isLetter = true
  reserved : c.type[2]?.all isUpper = true
  small : c.data.length ≤ maxChunkBytes

theorem unpackNumber_written (hn : n < 2 ^ 32) : unpackNumber (written n) = .ok n :=
  congrArg Except.ok (read_written hn)

theorem slice_of_drop {part : Bytes} (h : content.drop offset = part ++ rest) :
    slice content offset (offset + part.length) = part := by
  rw [slice, List.drop_take, Nat.add_sub_cancel_left, h, List.take_left]

theorem drop_of_drop {part : Bytes} (h : content.drop offset = part ++ rest) :
    content.drop (offset + part.length) = rest := by
  rw [← List.drop_drop, h, List.drop_left]

theorem length_encoded : (c.encoded Z).length = c.data.length + c.type.length + 8 := by
  simp only [Chunk.encoded, List.length_append, length_written]
  omega

/-- Reading at four parts that stand one after the other. -/
theorem readChunk_of_drop {chunkType data : Bytes} {crc : Nat} (hn : data.length < 2 ^ 32)
    (hcrc : crc < 2 ^ 32) (htype : chunkType.length = 4)
    (h : content.drop offset =
      written data.length ++ (chunkType ++ (data ++ (written crc ++ rest)))) :
    readChunk Z content offset =
      if maxChunkBytes < data.length ∨ Z.crc32 (chunkType ++ data) % 2 ^ 32 ≠ crc ∨
        chunkType.all isLetter = false ∨ chunkType[2]?.all isUpper = false then .ok none
      else .ok (some (chunkType, data, offset + 12 + data.length)) := by
  have htypeDrop := drop_of_drop h
  rw [length_written] at htypeDrop
  have hdataDrop := drop_of_drop htypeDrop
  rw [htype] at hdataDrop
  have hcrcDrop := drop_of_drop hdataDrop
  have hnumber : slice content offset (offset + 4) = written data.length := slice_of_drop h
  have hchunkType : slice content (offset + 4) (offset + 8) = chunkType := by
    have hslice := slice_of_drop htypeDrop
    rwa [htype] at hslice
  have hdata : slice content (offset + 8) (offset + 8 + data.length) = data :=
    slice_of_drop hdataDrop
  have hchecksum : slice content (offset + 8 + data.length) (offset + 12 + data.length) =
      written crc := by
    have hslice := slice_of_drop hcrcDrop
    rwa [length_written, show offset + 4 + 4 + data.length + 4 = offset + 12 + data.length by omega]
      at hslice
  have hstop : ¬content.length < offset + 12 + data.length := by
    have hlength := congrArg List.length hcrcDrop
    simp only [List.length_drop, List.length_append, length_written] at hlength
    omega
  simp only [readChunk, hnumber, unpackNumber_written hn, hchunkType, hdata, hchecksum,
    unpackNumber_written hcrc, hstop, htype, or_false, bind, Except.bind, pure, Except.pure]
  obtain ⟨third, hthird⟩ : ∃ third, chunkType[2]? = some third :=
    ⟨chunkType[2], List.getElem?_eq_getElem (by omega)⟩
  simp only [hthird, Option.all_some, ne_eq, not_true_eq_false, false_or]
  by_cases hsmall : maxChunkBytes < data.length
  · simp only [hsmall, if_true, true_or]
  by_cases hsum : Z.crc32 (chunkType ++ data) % 2 ^ 32 = crc
  · by_cases hletters : chunkType.all isLetter = false
    · simp only [hsmall, hsum, hletters, not_true_eq_false, if_true, if_false, true_or, or_true]
    · by_cases hupper : isUpper third = true <;>
        simp [hsmall, hletters, hupper]
  · simp only [hsmall, hsum, not_false_eq_true, if_true, if_false, true_or, false_or]

/-- A sound chunk is read back. -/
theorem readChunk_encoded (hc : c.Sound) (h : content.drop offset = c.encoded Z ++ rest) :
    readChunk Z content offset = .ok (some (c.type, c.data, offset + 12 + c.data.length)) := by
  have hsmall : c.data.length ≤ 1000000 := hc.small
  have hparts : content.drop offset = written c.data.length ++ (c.type ++ (c.data ++
      (written (Z.crc32 (c.type ++ c.data) % 2 ^ 32) ++ rest))) := by
    rw [h, Chunk.encoded]
    simp only [List.append_assoc]
  rw [readChunk_of_drop (by omega) (Nat.mod_lt _ (by decide)) hc.four hparts]
  simp [hc.letters, hc.reserved, hc.small]

/-- What is read as a chunk is a sound one. -/
theorem readChunk_cases (hoffset : offset + 12 ≤ content.length) :
    readChunk Z content offset = .ok none ∨
      ∃ c rest, Chunk.Sound c ∧ content.drop offset = c.encoded Z ++ rest := by
  have hlength : 12 ≤ (content.drop offset).length := by
    rw [List.length_drop]
    omega
  obtain ⟨n, hn, tail, htail⟩ := exists_written (by omega : 4 ≤ (content.drop offset).length)
  by_cases hfits : maxChunkBytes < n ∨ content.length < offset + 12 + n
  · refine .inl ?_
    have hnumber : slice content offset (offset + 4) = written n := slice_of_drop htail
    simp only [readChunk, hnumber, unpackNumber_written hn, hfits, if_true, bind, Except.bind, pure,
      Except.pure]
  · have htailLength : tail.length = content.length - offset - 4 := by
      have hboth := congrArg List.length htail
      rw [List.length_drop, List.length_append, length_written] at hboth
      omega
    obtain ⟨crc, hcrc, rest, hrest⟩ := exists_written
      (by rw [List.length_drop]; omega : 4 ≤ (tail.drop (4 + n)).length)
    have hparts : tail = tail.take 4 ++ ((tail.drop 4).take n ++ (written crc ++ rest)) := by
      rw [← hrest, ← List.drop_drop, List.take_append_drop, List.take_append_drop]
    have htype : (tail.take 4).length = 4 := by
      rw [List.length_take]
      omega
    have hdata : ((tail.drop 4).take n).length = n := by
      rw [List.length_take, List.length_drop]
      omega
    rw [hparts] at htail
    have hread := readChunk_of_drop (Z := Z) (by rw [hdata]; exact hn) hcrc htype
      (by rw [hdata]; exact htail)
    split_ifs at hread with hrefused
    · exact .inl hread
    · simp only [not_or, not_lt, Bool.not_eq_false, ne_eq, not_not] at hrefused
      obtain ⟨hsmall, hsum, hletters, hupper⟩ := hrefused
      refine .inr ⟨⟨tail.take 4, (tail.drop 4).take n⟩, rest, ⟨htype, hletters, hupper, hsmall⟩, ?_⟩
      rw [htail, Chunk.encoded, hdata, hsum]
      simp only [List.append_assoc]

/-! ## Walking over chunks -/

/-- The walk over a list of chunks. -/
def runChunks (scan : Scan) : List Chunk → Option Scan
  | [] => none
  | c :: chunks =>
    match accept scan c.type c.data (chunks = []) with
    | .ok (.continued scan) => runChunks scan chunks
    | .ok (.ended scan) => some scan
    | .ok .rejected | .error _ => none

/-- The bounds of an image. -/
structure Bounded (width height : Nat) : Prop where
  wide : 0 < width ∧ width ≤ 8192
  high : 0 < height ∧ height ≤ 8192
  area : width * height ≤ 16000000

instance {width height : Nat} : Decidable (Bounded width height) :=
  decidable_of_iff ((0 < width ∧ width ≤ 8192) ∧ (0 < height ∧ height ≤ 8192) ∧
    width * height ≤ 16000000) ⟨fun h => ⟨h.1, h.2.1, h.2.2⟩, fun h => ⟨h.wide, h.high, h.area⟩⟩

/-- The scan after a header. -/
def Scan.withHeader (scan : Scan) (width height : Nat) (alpha : Bool) : Scan :=
  { scan with width, height, channels := if alpha then 4 else 3, sawHeader := true,
              phase := .beforeImage }

/-- Taking a header whose data has its five parts. -/
theorem acceptHeader_of_parts {width height : Nat} {bitDepth colorType compression filtering
      interlace : UInt8} (hwidth : width < 2 ^ 32) (hheight : height < 2 ^ 32) :
    acceptHeader scan headerType (written width ++ (written height ++
        [bitDepth, colorType, compression, filtering, interlace])) =
      if Bounded width height ∧ bitDepth = 8 ∧ (colorType = 2 ∨ colorType = 6) ∧ compression = 0 ∧
        filtering = 0 ∧ interlace = 0 then
        .ok (.continued (scan.withHeader width height (colorType = 6)))
      else .ok .rejected := by
  generalize hdata : written width ++ (written height ++
    [bitDepth, colorType, compression, filtering, interlace]) = data
  have hlength : data.length = 13 := hdata ▸ rfl
  have hfirst : slice data 0 4 = written width := hdata ▸ rfl
  have hsecond : slice data 4 8 = written height := hdata ▸ rfl
  have hrest : data.drop 8 = [bitDepth, colorType, compression, filtering, interlace] := hdata ▸ rfl
  simp only [acceptHeader, hfirst, hsecond, hrest, hlength, unpackNumber_written hwidth,
    unpackNumber_written hheight, bind, Except.bind, pure, Except.pure, ne_eq, not_true_eq_false,
    or_self, if_false]
  by_cases h : Bounded width height ∧ bitDepth = 8 ∧ (colorType = 2 ∨ colorType = 6) ∧
      compression = 0 ∧ filtering = 0 ∧ interlace = 0
  · rw [if_pos h]
    obtain ⟨hbounded, rfl, hcolor, rfl, rfl, rfl⟩ := h
    have harea := not_lt.mpr hbounded.area
    rcases hcolor with rfl | rfl
    · simp [channelsOf, hbounded.wide, hbounded.high, harea, Scan.withHeader]
    · simp [channelsOf, hbounded.wide, hbounded.high, harea, Scan.withHeader]
  · rw [if_neg h, if_pos]
    by_contra hcond
    simp only [not_or, not_not, not_lt, and_assoc] at hcond
    obtain ⟨hw, hw', hh, hh', harea, hdepth, hchannels, hcompression, hfiltering, hinterlace⟩ :=
      hcond
    refine h ⟨⟨⟨hw, hw'⟩, ⟨hh, hh'⟩, harea⟩, hdepth, ?_, hcompression, hfiltering, hinterlace⟩
    by_contra hcolor
    rw [not_or] at hcolor
    exact hchannels (by rw [channelsOf, if_neg hcolor.1, if_neg hcolor.2])

/-- A header is refused, or it is one of the documented headers. -/
theorem acceptHeader_cases (scan : Scan) (chunkType data : Bytes) :
    acceptHeader scan chunkType data = .ok .rejected ∨ ∃ width height alpha, Bounded width height ∧
      chunkType = headerType ∧ data = written width ++ (written height ++
        [8, if alpha then 6 else 2, 0, 0, 0]) ∧
      acceptHeader scan chunkType data = .ok (.continued (scan.withHeader width height alpha)) := by
  by_cases hshape : chunkType ≠ headerType ∨ data.length ≠ 13
  · refine .inl ?_
    simp only [acceptHeader, hshape, if_true]
    rfl
  · simp only [not_or, not_not, ne_eq] at hshape
    obtain ⟨rfl, hlength⟩ := hshape
    obtain ⟨width, hwidth, tail, rfl⟩ := exists_written (by omega : 4 ≤ data.length)
    rw [List.length_append, length_written] at hlength
    obtain ⟨height, hheight, five, rfl⟩ := exists_written (by omega : 4 ≤ tail.length)
    rw [List.length_append, length_written] at hlength
    match five, (by omega : five.length = 5) with
    | [bitDepth, colorType, compression, filtering, interlace], _ =>
      rw [acceptHeader_of_parts hwidth hheight]
      split_ifs with h
      · obtain ⟨hbounded, rfl, hcolor, rfl, rfl, rfl⟩ := h
        refine .inr ⟨width, height, colorType = 6, hbounded, rfl, ?_, rfl⟩
        rcases hcolor with rfl | rfl <;> rfl
      · exact .inl rfl

theorem acceptHeader_documented {width height : Nat} {alpha : Bool} (h : Bounded width height) :
    acceptHeader scan headerType (written width ++ (written height ++
        [8, if alpha then 6 else 2, 0, 0, 0])) =
      .ok (.continued (scan.withHeader width height alpha)) := by
  have hwidth := h.wide
  have hheight := h.high
  rw [acceptHeader_of_parts (by omega) (by omega), if_pos]
  · cases alpha <;> rfl
  · cases alpha <;> simp [h]

theorem accept_eq_ok {chunkType data : Bytes} {atEnd : Bool} :
    ∃ outcome, accept scan chunkType data atEnd = .ok outcome := by
  unfold accept
  split_ifs
  · exact ⟨_, rfl⟩
  · rcases acceptHeader_cases scan chunkType data with h | ⟨_, _, _, -, -, -, h⟩
    · exact ⟨_, h⟩
    · exact ⟨_, h⟩

theorem encoded_ne_nil : c.encoded Z ≠ [] := by
  intro h
  have hlength := congrArg List.length h
  rw [length_encoded, List.length_nil] at hlength
  omega

/-- What a step leaves of the content is the end exactly if no chunk follows. -/
theorem stop_eq_iff {chunks : List Chunk} (hc : c.Sound)
    (h : content.drop offset = c.encoded Z ++ chunks.flatMap (Chunk.encoded Z)) :
    offset + 12 + c.data.length = content.length ↔ chunks = [] := by
  have hlength := congrArg List.length h
  rw [List.length_drop, List.length_append, length_encoded, hc.four] at hlength
  constructor
  · intro hstop
    cases chunks with
    | nil => rfl
    | cons c' chunks =>
      rw [List.flatMap_cons, List.length_append, length_encoded] at hlength
      omega
  · rintro rfl
    rw [List.flatMap_nil, List.length_nil] at hlength
    omega

theorem drop_stop (hc : c.Sound)
    (h : content.drop offset = c.encoded Z ++ rest) :
    content.drop (offset + 12 + c.data.length) = rest := by
  have hdrop := drop_of_drop h
  rwa [length_encoded, hc.four,
    show offset + (c.data.length + 4 + 8) = offset + 12 + c.data.length by omega] at hdrop

/-- The types of the structure are told apart, and none of them is ancillary. -/
theorem types_distinct : headerType ≠ imageType ∧ headerType ≠ endType ∧ imageType ≠ endType ∧
    headerType ∉ ancillaryBeforeImage ∧ imageType ∉ ancillaryBeforeImage ∧
    endType ∉ ancillaryBeforeImage := by
  decide +kernel

theorem ancillaryAfterImage_subset : ancillaryAfterImage ⊆ ancillaryBeforeImage := by
  decide +kernel

/-- What becomes of a chunk after the header. -/
theorem acceptChunk_cases (scan : Scan) (chunkType data : Bytes) (atEnd : Bool) :
    acceptChunk scan chunkType data atEnd = .rejected ∨
    (chunkType = imageType ∧ (scan.phase = .beforeImage ∨ scan.phase = .image) ∧
      (scan.compressed ++ data).length ≤ maxChunkBytes ∧ acceptChunk scan chunkType data atEnd =
        .continued { scan with phase := .image, compressed := scan.compressed ++ data }) ∨
    (chunkType = endType ∧ data = [] ∧ atEnd = true ∧
      acceptChunk scan chunkType data atEnd = .ended { scan with sawEnd := true }) ∨
    (chunkType ∈ ancillaryAfterImage ∧ scan.phase = .image ∧
      acceptChunk scan chunkType data atEnd = .continued { scan with phase := .afterImage }) ∨
    (chunkType ∈ ancillaryBeforeImage ∧ scan.phase = .beforeImage ∧
      acceptChunk scan chunkType data atEnd = .continued scan) := by
  unfold acceptChunk
  split_ifs with h₁ h₂ h₃ h₄ h₅ h₆ h₇ h₈ h₉ h₁₀
  · exact .inl rfl
  · exact .inl rfl
  · exact .inl rfl
  · refine .inr (.inl ⟨h₂, ?_, not_lt.mp h₄, rfl⟩)
    simpa only [ne_eq, not_and_or, not_not] using h₃
  · exact .inl rfl
  · simp only [ne_eq, not_or, not_not, Bool.not_eq_false, List.length_eq_zero_iff] at h₆
    exact .inr (.inr (.inl ⟨h₅, h₆.1, h₆.2, rfl⟩))
  · exact .inr (.inr (.inr (.inl ⟨h₉, h₈, rfl⟩)))
  · exact .inl rfl
  · exact .inl rfl
  · exact .inr (.inr (.inr (.inr ⟨h₇, not_not.mp h₁₀, rfl⟩)))
  · exact .inl rfl

/-- A chunk that is taken leaves the end to be seen. -/
theorem accept_continued {chunkType data : Bytes} {atEnd : Bool} {scan' : Scan}
    (h : accept scan chunkType data atEnd = .ok (.continued scan')) :
    scan'.sawEnd = scan.sawEnd := by
  unfold accept at h
  split_ifs at h
  · rw [Except.ok.injEq] at h
    rcases acceptChunk_cases scan chunkType data atEnd with
      hc | ⟨-, -, -, hc⟩ | ⟨-, -, -, hc⟩ | ⟨-, -, hc⟩ | ⟨-, -, hc⟩ <;> cases hc.symm.trans h <;> rfl
  · rcases acceptHeader_cases scan chunkType data with hc | ⟨_, _, _, -, -, -, hc⟩ <;>
      cases hc.symm.trans h
    rfl

/-- The last chunk ends the content. -/
theorem accept_ended {chunkType data : Bytes} {atEnd : Bool} {scan' : Scan}
    (h : accept scan chunkType data atEnd = .ok (.ended scan')) :
    atEnd = true ∧ scan'.sawEnd = true := by
  unfold accept at h
  split_ifs at h
  · rw [Except.ok.injEq] at h
    rcases acceptChunk_cases scan chunkType data atEnd with
      hc | ⟨-, -, -, hc⟩ | ⟨-, -, hlast, hc⟩ | ⟨-, -, hc⟩ | ⟨-, -, hc⟩ <;> cases hc.symm.trans h
    exact ⟨hlast, rfl⟩
  · rcases acceptHeader_cases scan chunkType data with hc | ⟨_, _, _, -, -, -, hc⟩ <;>
      cases hc.symm.trans h

/-- The walk over the bytes of sound chunks is the walk over the chunks. -/
theorem walk_chunks {chunks : List Chunk} (hsound : ∀ c ∈ chunks, Chunk.Sound c)
    (hoffset : offset ≤ content.length) (hend : scan.sawEnd = false)
    (h : content.drop offset = chunks.flatMap (Chunk.encoded Z))
    (hfuel : content.length < offset + 12 * fuel) :
    ∃ r, walk Z content fuel offset scan = .ok r ∧ r.filter (·.sawEnd) = runChunks scan chunks := by
  induction chunks generalizing offset fuel scan with
  | nil =>
    obtain ⟨fuel, rfl⟩ := Nat.exists_eq_succ_of_ne_zero (by omega : fuel ≠ 0)
    have hlength := List.drop_eq_nil_iff.mp h
    refine ⟨some scan, if_neg (by omega), ?_⟩
    simp [runChunks, hend]
  | cons c chunks ih =>
    rw [List.forall_mem_cons] at hsound
    rw [List.flatMap_cons] at h
    obtain ⟨fuel, rfl⟩ := Nat.exists_eq_succ_of_ne_zero (by omega : fuel ≠ 0)
    have hlength := congrArg List.length h
    rw [List.length_drop, List.length_append, length_encoded, hsound.1.four] at hlength
    have hread := readChunk_encoded hsound.1 h
    have hstop : decide (offset + 12 + c.data.length = content.length) = decide (chunks = []) :=
      decide_eq_decide.mpr (stop_eq_iff hsound.1 h)
    obtain ⟨outcome, houtcome⟩ := @accept_eq_ok scan c.type c.data (chunks = [])
    simp only [walk, if_pos (by omega : offset + 12 ≤ content.length), hread, hstop, houtcome,
      runChunks, bind, Except.bind]
    cases outcome with
    | rejected => exact ⟨none, rfl, rfl⟩
    | ended scan' =>
      exact ⟨some scan', rfl, by simp [(accept_ended houtcome).2]⟩
    | continued scan' =>
      exact ih hsound.2 (by omega) ((accept_continued houtcome).trans hend)
        (drop_stop hsound.1 h) (by omega)

/-- The walk over any bytes returns, and what it accepts are sound chunks. -/
theorem walk_cases (hoffset : offset ≤ content.length) (hend : scan.sawEnd = false)
    (hfuel : content.length < offset + 12 * fuel) :
    ∃ r, walk Z content fuel offset scan = .ok r ∧ ∀ final, r.filter (·.sawEnd) = some final →
      ∃ chunks : List Chunk, (∀ c ∈ chunks, c.Sound) ∧
        content.drop offset = chunks.flatMap (Chunk.encoded Z) ∧
        runChunks scan chunks = some final := by
  induction fuel generalizing offset scan with
  | zero => omega
  | succ fuel ih =>
    by_cases hroom : offset + 12 ≤ content.length
    · simp only [walk, if_pos hroom, bind, Except.bind]
      rcases readChunk_cases (Z := Z) hroom with hread | ⟨c, rest, hc, hdrop⟩
      · exact ⟨none, by simp only [hread]; rfl, fun final h => by cases h⟩
      · have hlength := congrArg List.length hdrop
        rw [List.length_drop, List.length_append, length_encoded, hc.four] at hlength
        simp only [readChunk_encoded hc hdrop]
        have hrest := drop_stop hc hdrop
        generalize hatEnd : decide (offset + 12 + c.data.length = content.length) = atEnd
        obtain ⟨outcome, houtcome⟩ := @accept_eq_ok scan c.type c.data atEnd
        simp only [houtcome]
        cases outcome with
        | rejected => exact ⟨none, rfl, fun final h => by cases h⟩
        | ended scan' =>
          refine ⟨some scan', rfl, fun final hfinal => ?_⟩
          obtain ⟨hsame, -⟩ := Option.filter_eq_some_iff.mp hfinal
          cases hsame
          have hatEnd' := (accept_ended houtcome).1
          subst hatEnd'
          have hnil : rest = [] := by
            have hstop := of_decide_eq_true hatEnd
            rw [← hrest, hstop, List.drop_length]
          subst hnil
          refine ⟨[c], by simpa using hc, by simpa using hdrop, ?_⟩
          rw [runChunks, decide_eq_true rfl, houtcome]
        | continued scan' =>
          obtain ⟨r, hr, hfinal⟩ := @ih (offset + 12 + c.data.length) scan' (by omega)
            ((accept_continued houtcome).trans hend) (by omega)
          refine ⟨r, hr, fun final h => ?_⟩
          obtain ⟨chunks, hsound, hchunks, hrun⟩ := hfinal final h
          have hall : content.drop offset = (c :: chunks).flatMap (Chunk.encoded Z) := by
            rw [hdrop, List.flatMap_cons, ← hchunks, hrest]
          refine ⟨c :: chunks, List.forall_mem_cons.mpr ⟨hc, hsound⟩, hall, ?_⟩
          rw [List.flatMap_cons] at hall
          have hstop : decide (chunks = []) = atEnd :=
            (decide_eq_decide.mpr (stop_eq_iff hc hall)).symm.trans hatEnd
          rw [runChunks, hstop, houtcome]
          exact hrun
    · refine ⟨some scan, if_neg hroom, fun final h => ?_⟩
      obtain ⟨hsame, hfinal⟩ := Option.filter_eq_some_iff.mp h
      cases hsame
      rw [hend] at hfinal
      cases hfinal

/-! ## The order of the chunks -/

/-- The measures of the header, which no later chunk changes. -/
structure Scan.Keeps (scan final : Scan) : Prop where
  width : final.width = scan.width
  height : final.height = scan.height
  channels : final.channels = scan.channels
  sawHeader : final.sawHeader = scan.sawHeader

def endChunk : Chunk := ⟨endType, []⟩

def imageChunk (data : Bytes) : Chunk := ⟨imageType, data⟩

variable {chunks before after : List Chunk} {image : List Bytes}

/-- The scan after a piece of image data. -/
def Scan.withImage (scan : Scan) (data : Bytes) : Scan :=
  { scan with phase := .image, compressed := scan.compressed ++ data }

/-- The scan after an ancillary chunk behind the image data. -/
def Scan.closed (scan : Scan) : Scan := { scan with phase := .afterImage }

/-- The first step of an accepted walk after the header. -/
theorem runChunks_cons (hheader : scan.sawHeader = true)
    (h : runChunks scan (c :: chunks) = some final) :
    (∃ data, c = imageChunk data ∧ (scan.phase = .beforeImage ∨ scan.phase = .image) ∧
      (scan.compressed ++ data).length ≤ maxChunkBytes ∧
      runChunks (scan.withImage data) chunks = some final) ∨
    (c = endChunk ∧ chunks = [] ∧ final = { scan with sawEnd := true }) ∨
    (c.type ∈ ancillaryAfterImage ∧ scan.phase = .image ∧
      runChunks scan.closed chunks = some final) ∨
    (c.type ∈ ancillaryBeforeImage ∧ scan.phase = .beforeImage ∧
      runChunks scan chunks = some final) := by
  obtain ⟨chunkType, data⟩ := c
  simp only [runChunks, accept, hheader, if_true] at h
  rcases acceptChunk_cases scan chunkType data (chunks = []) with
    hc | ⟨rfl, hphase, htotal, hc⟩ | ⟨rfl, rfl, hlast, hc⟩ | ⟨htype, hphase, hc⟩ |
      ⟨htype, hphase, hc⟩
  all_goals simp only [hc, Option.some.injEq, reduceCtorEq] at h
  · exact .inl ⟨data, rfl, hphase, htotal, h⟩
  · exact .inr (.inl ⟨rfl, of_decide_eq_true hlast, h.symm⟩)
  · exact .inr (.inr (.inl ⟨htype, hphase, h⟩))
  · exact .inr (.inr (.inr ⟨htype, hphase, h⟩))

/-- After an ancillary chunk behind the image data only the end is left. -/
theorem runChunks_afterImage (hheader : scan.sawHeader = true) (hphase : scan.phase = .afterImage)
    (h : runChunks scan chunks = some final) :
    chunks = [endChunk] ∧ final = { scan with sawEnd := true } := by
  cases chunks with
  | nil => cases h
  | cons c chunks =>
    rcases runChunks_cons hheader h with
      ⟨_, -, hp, -⟩ | ⟨rfl, rfl, hfinal⟩ | ⟨-, hp, -⟩ | ⟨-, hp, -⟩
    · simp [hphase] at hp
    · exact ⟨rfl, hfinal⟩
    · simp [hphase] at hp
    · simp [hphase] at hp

/-- Inside the image data: more of it, at most one ancillary chunk, and the end. -/
theorem runChunks_image (hheader : scan.sawHeader = true) (hphase : scan.phase = .image)
    (hbound : scan.compressed.length ≤ maxChunkBytes) (h : runChunks scan chunks = some final) :
    ∃ (image : List Bytes) (after : List Chunk),
      chunks = image.map imageChunk ++ (after ++ [endChunk]) ∧ after.length ≤ 1 ∧
      (∀ c ∈ after, c.type ∈ ancillaryAfterImage) ∧ scan.Keeps final ∧
      final.compressed = scan.compressed ++ image.flatten ∧
      final.compressed.length ≤ maxChunkBytes := by
  induction chunks generalizing scan with
  | nil => cases h
  | cons c chunks ih =>
    rcases runChunks_cons hheader h with
      ⟨data, rfl, -, htotal, hrest⟩ | ⟨rfl, rfl, rfl⟩ | ⟨htype, -, hrest⟩ | ⟨-, hp, -⟩
    · obtain ⟨image, after, rfl, hafter, htypes, hkeeps, hcompressed, hfinal⟩ :=
        @ih (scan.withImage data) hheader rfl htotal hrest
      refine ⟨data :: image, after, rfl, hafter, htypes, ⟨hkeeps.1, hkeeps.2, hkeeps.3, hkeeps.4⟩,
        ?_, hfinal⟩
      rw [hcompressed, Scan.withImage, List.flatten_cons, List.append_assoc]
    · exact ⟨[], [], rfl, by simp, by simp, ⟨rfl, rfl, rfl, rfl⟩, by simp, hbound⟩
    · obtain ⟨rfl, rfl⟩ := @runChunks_afterImage scan.closed _ _ hheader rfl hrest
      exact ⟨[], [c], rfl, by simp, by simpa using htype, ⟨rfl, rfl, rfl, rfl⟩,
        by simp [Scan.closed], hbound⟩
    · simp [hphase] at hp

/-- After the header: ancillary chunks, then the image data. -/
theorem runChunks_beforeImage (hheader : scan.sawHeader = true) (hphase : scan.phase = .beforeImage)
    (hempty : scan.compressed = []) (h : runChunks scan chunks = some final)
    (hsome : final.compressed ≠ []) :
    ∃ (before : List Chunk) (image : List Bytes) (after : List Chunk),
      chunks = before ++ (image.map imageChunk ++ (after ++ [endChunk])) ∧
      (∀ c ∈ before, c.type ∈ ancillaryBeforeImage) ∧ image ≠ [] ∧ after.length ≤ 1 ∧
      (∀ c ∈ after, c.type ∈ ancillaryAfterImage) ∧ scan.Keeps final ∧
      final.compressed = image.flatten ∧ final.compressed.length ≤ maxChunkBytes := by
  induction chunks with
  | nil => cases h
  | cons c chunks ih =>
    rcases runChunks_cons hheader h with
      ⟨data, rfl, -, htotal, hrest⟩ | ⟨-, -, rfl⟩ | ⟨-, hp, -⟩ | ⟨htype, -, hrest⟩
    · obtain ⟨image, after, rfl, hafter, htypes, hkeeps, hcompressed, hfinal⟩ :=
        @runChunks_image (scan.withImage data) _ _ hheader rfl htotal hrest
      refine ⟨[], data :: image, after, rfl, by simp, by simp, hafter, htypes,
        ⟨hkeeps.1, hkeeps.2, hkeeps.3, hkeeps.4⟩, ?_, hfinal⟩
      rw [hcompressed, Scan.withImage, hempty, List.nil_append, List.flatten_cons]
    · exact absurd hempty hsome
    · simp [hphase] at hp
    · obtain ⟨before, image, after, rfl, hbefore, hrest⟩ := ih hrest
      exact ⟨c :: before, image, after, rfl, List.forall_mem_cons.mpr ⟨htype, hbefore⟩, hrest⟩

/-! ## Documented chunks are walked over -/

theorem ne_of_ancillary {chunkType : Bytes} (h : chunkType ∈ ancillaryBeforeImage) :
    chunkType ≠ headerType ∧ chunkType ≠ imageType ∧ chunkType ≠ endType := by
  obtain ⟨-, -, -, hheader, himage, hend⟩ := types_distinct
  exact ⟨fun heq => hheader (heq ▸ h), fun heq => himage (heq ▸ h), fun heq => hend (heq ▸ h)⟩

theorem runChunks_append_before (hheader : scan.sawHeader = true)
    (hphase : scan.phase = .beforeImage) (hbefore : ∀ c ∈ before, c.type ∈ ancillaryBeforeImage) :
    runChunks scan (before ++ chunks) = runChunks scan chunks := by
  induction before with
  | nil => rfl
  | cons c before ih =>
    rw [List.forall_mem_cons] at hbefore
    obtain ⟨h₁, h₂, h₃⟩ := ne_of_ancillary hbefore.1
    simp only [List.cons_append, runChunks, accept, hheader, if_true, acceptChunk, h₁, h₂, h₃,
      if_false, hbefore.1, hphase, reduceCtorEq, ne_eq, not_true_eq_false]
    exact ih hbefore.2

theorem runChunks_append_image (hheader : scan.sawHeader = true)
    (hphase : scan.phase = .beforeImage ∨ scan.phase = .image) (hne : image ≠ [])
    (hbound : (scan.compressed ++ image.flatten).length ≤ maxChunkBytes) :
    runChunks scan (image.map imageChunk ++ chunks) =
      runChunks (scan.withImage image.flatten) chunks := by
  induction image generalizing scan with
  | nil => exact absurd rfl hne
  | cons data image ih =>
    have htotal : ¬maxChunkBytes < (scan.compressed ++ data).length := by
      simp only [List.flatten_cons, List.length_append] at hbound ⊢
      omega
    have hallowed : ¬(scan.phase ≠ .beforeImage ∧ scan.phase ≠ .image) := by
      rcases hphase with hphase | hphase <;> simp [hphase]
    have hstep : runChunks scan ((data :: image).map imageChunk ++ chunks) =
        runChunks (scan.withImage data) (image.map imageChunk ++ chunks) := by
      simp only [List.map_cons, List.cons_append, runChunks, accept, hheader, if_true, acceptChunk,
        imageChunk, types_distinct.1.symm, if_false, hallowed, htotal, Scan.withImage]
    rw [hstep]
    cases image with
    | nil => simp
    | cons next image =>
      rw [@ih (scan.withImage data) hheader (.inr rfl) (by simp) (by
        simpa only [Scan.withImage, List.flatten_cons, List.append_assoc] using hbound)]
      simp only [Scan.withImage, List.flatten_cons, List.append_assoc]

theorem runChunks_end (hheader : scan.sawHeader = true) :
    runChunks scan [endChunk] = some { scan with sawEnd := true } := by
  obtain ⟨-, hheaderEnd, himageEnd, -⟩ := types_distinct
  simp [runChunks, accept, hheader, acceptChunk, endChunk, hheaderEnd.symm, himageEnd.symm]

/-- The scan after the chunks behind the image data and the end: one such chunk at most. -/
def Scan.finish (scan : Scan) : List Chunk → Option Scan
  | [] => some { scan with sawEnd := true }
  | [_] => some { scan.closed with sawEnd := true }
  | _ :: _ :: _ => none

theorem runChunks_append_after (hheader : scan.sawHeader = true) (hphase : scan.phase = .image)
    (hafter : ∀ c ∈ after, c.type ∈ ancillaryAfterImage) :
    runChunks scan (after ++ [endChunk]) = scan.finish after := by
  cases after with
  | nil => exact runChunks_end hheader
  | cons c after =>
    rw [List.forall_mem_cons] at hafter
    have hbefore := ancillaryAfterImage_subset hafter.1
    obtain ⟨h₁, h₂, h₃⟩ := ne_of_ancillary hbefore
    have hstep : runChunks scan (c :: (after ++ [endChunk])) =
        runChunks scan.closed (after ++ [endChunk]) := by
      simp only [runChunks, accept, hheader, if_true, acceptChunk, h₁, h₂, h₃, if_false, hbefore,
        hphase, hafter.1, not_true_eq_false, Scan.closed]
    rw [List.cons_append, hstep]
    cases after with
    | nil => exact runChunks_end hheader
    | cons next after =>
      have hnext := ancillaryAfterImage_subset (hafter.2 next List.mem_cons_self)
      obtain ⟨h₁, h₂, h₃⟩ := ne_of_ancillary hnext
      simp [runChunks, accept, Scan.closed, Scan.finish, hheader, acceptChunk, h₁, h₂, h₃, hnext]

/-! ## Pixels -/

/-- What is inflated: a complete stream of the size that is expected, with nothing after it. -/
theorem pixelsOf_eq_some {compressed pixels : Bytes} {expectedSize : Nat} :
    pixelsOf Z compressed expectedSize = some pixels ↔
      Z.inflate compressed = .complete pixels [] ∧ pixels.length = expectedSize := by
  simp only [pixelsOf, Option.bind_eq_bind, Option.bind_eq_some_iff, Prod.exists, Option.pure_def,
    Option.some.injEq, Option.guard_eq_some']
  unfold decompress flush isExactStream
  cases hinflate : Z.inflate compressed with
  | invalid output => simp
  | truncated output => simp
  | complete output unused =>
    simp only [Inflated.output, Inflated.complete.injEq, Option.some.injEq, exists_eq_left']
    by_cases hlimit : output.length < expectedSize + 1
    · simp only [hlimit, if_true, Option.some.injEq, Prod.mk.injEq]
      constructor
      · rintro ⟨_, _, ⟨rfl, rfl⟩, -, -, -, ⟨hsize, hunused⟩, rfl⟩
        rw [List.drop_eq_nil_of_le hlimit.le, List.append_nil] at hsize ⊢
        exact ⟨⟨rfl, of_decide_eq_true hunused⟩, hsize⟩
      · rintro ⟨⟨rfl, rfl⟩, hsize⟩
        refine ⟨output, [], ⟨rfl, rfl⟩, (), rfl, (), ?_⟩
        rw [List.drop_eq_nil_of_le hlimit.le, List.append_nil]
        exact ⟨⟨hsize, decide_eq_true rfl⟩, rfl⟩
    · simp only [hlimit, if_false, Option.some.injEq, Prod.mk.injEq]
      constructor
      · rintro ⟨_, _, ⟨rfl, rfl⟩, -, -, -, ⟨hsize, -⟩, -⟩
        rw [List.take_append_drop] at hsize
        omega
      · rintro ⟨⟨rfl, -⟩, hsize⟩
        omega

variable {rows : List Bytes} {rowSize : Nat}

/-- The filter bytes of rows of one size are their first bytes. -/
theorem filterBytes_flatten (hrows : ∀ row ∈ rows, row.length = 1 + rowSize) :
    filterBytes rows.flatten (1 + rowSize) = .ok (rows.map (·.headD 0)) := by
  have hcount : (rows.flatten.length + (1 + rowSize) - 1) / (1 + rowSize) = rows.length := by
    have hlength : rows.flatten.length = rows.length * (1 + rowSize) := by
      rw [List.length_flatten, List.map_congr_left hrows, List.map_const', List.sum_replicate_nat]
    rw [hlength, show rows.length * (1 + rowSize) + (1 + rowSize) - 1 =
      rowSize + (1 + rowSize) * rows.length by rw [Nat.mul_comm]; omega]
    rw [Nat.add_mul_div_left _ _ (by omega), Nat.div_eq_of_lt (by omega), Nat.zero_add]
  rw [filterBytes, hcount]
  -- Rows before the offset stay in front.
  suffices ∀ front : Bytes, (List.range' front.length rows.length (1 + rowSize)).mapM
      (fun offset => fromOption (front ++ rows.flatten)[offset]? Fault.indexError) =
        .ok (rows.map (·.headD 0)) from this []
  clear hcount
  induction rows with
  | nil => exact fun front => rfl
  | cons row rows ih =>
    intro front
    rw [List.forall_mem_cons] at hrows
    obtain ⟨first, row, rfl⟩ := List.exists_cons_of_length_eq_add_one
      (hrows.1.trans (Nat.add_comm 1 rowSize))
    have hnext := ih hrows.2 (front ++ first :: row)
    rw [List.length_append, hrows.1] at hnext
    have hfirst : (front ++ ((first :: row) :: rows).flatten)[front.length]? = some first := by
      simp
    rw [List.length_cons, List.range'_succ, List.mapM_cons, hfirst]
    rw [List.flatten_cons, ← List.append_assoc, hnext]
    rfl

/-- Bytes for rows of one size are rows. -/
theorem exists_rows {pixels : Bytes} {height : Nat} (h : pixels.length = height * rowSize) :
    ∃ rows : List Bytes, pixels = rows.flatten ∧ rows.length = height ∧
      ∀ row ∈ rows, row.length = rowSize := by
  induction height generalizing pixels with
  | zero =>
    rw [Nat.zero_mul] at h
    exact ⟨[], List.eq_nil_of_length_eq_zero h, rfl, by simp⟩
  | succ height ih =>
    rw [Nat.succ_mul] at h
    obtain ⟨rows, hrest, hlength, hrows⟩ := @ih (pixels.drop rowSize) (by
      rw [List.length_drop]
      omega)
    refine ⟨pixels.take rowSize :: rows, ?_, congrArg (· + 1) hlength,
      List.forall_mem_cons.mpr ⟨?_, hrows⟩⟩
    · rw [List.flatten_cons, ← hrest, List.take_append_drop]
    · rw [List.length_take]
      omega

end Sdaqf.Png
