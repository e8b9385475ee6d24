import Sdaqf.BigEndian
import Sdaqf.Guard

/-!
# PNG validation

A screenshot is adopted only if its bytes are a PNG of a documented subset. The validator walks over
the chunks with a phase, collects the image data and inflates it at the end. Checksums and inflation
are given functions; an index or an unpacking that goes wrong is an error of the model.
-/

namespace Sdaqf.Png

open Guard

abbrev Bytes := List UInt8

/-- What a run of the validator could raise. -/
inductive Fault
  | structError
  | indexError
  | outOfFuel
deriving DecidableEq

/-! ## Given functions -/

/-- What inflating a list of bytes leads to. -/
inductive Inflated
  -- The data goes wrong after some output.
  | invalid (output : Bytes)
  -- The data ends inside the stream.
  | truncated (output : Bytes)
  -- The stream is complete, and bytes may follow it.
  | complete (output unused : Bytes)

/-- Checksums and inflation. `held` is the input that is not read yet when an output limit is
hit. -/
structure Zlib where
  crc32 : Bytes → Nat
  inflate : Bytes → Inflated
  held : Bytes → Nat → Bytes

def Inflated.output : Inflated → Bytes
  | .invalid output | .truncated output | .complete output _ => output

/-! ## Bytes -/

def ascii (text : String) : Bytes := text.toList.map fun c => UInt8.ofNat c.toNat

def signature : Bytes := [0x89, 0x50, 0x4e, 0x47, 0x0d, 0x0a, 0x1a, 0x0a]

def headerType : Bytes := [0x49, 0x48, 0x44, 0x52]

def imageType : Bytes := [0x49, 0x44, 0x41, 0x54]

def endType : Bytes := [0x49, 0x45, 0x4e, 0x44]

def ancillaryBeforeImage : List Bytes :=
  ["cHRM", "eXIf", "gAMA", "iCCP", "iTXt", "pHYs", "sBIT", "sRGB", "tEXt", "tIME", "zTXt"].map ascii

def ancillaryAfterImage : List Bytes := ["eXIf", "iTXt", "tEXt", "tIME", "zTXt"].map ascii

def slice (content : Bytes) (start stop : Nat) : Bytes := (content.take stop).drop start

/-- Unpack one big-endian number of four bytes. -/
def unpackNumber : Bytes → Except Fault Nat
  | [a, b, c, d] => .ok (BigEndian.read a b c d)
  | _ => .error .structError

def isUpper (b : UInt8) : Bool := 0x41 ≤ b && b ≤ 0x5a

def isLetter (b : UInt8) : Bool := isUpper b || (0x61 ≤ b && b ≤ 0x7a)

/-! ## Chunks -/

def maxChunkBytes : Nat := 1000000

/-- Read the chunk at an offset: its type, its data and the offset after it. -/
def readChunk (Z : Zlib) (content : Bytes) (offset : Nat) :
    Except Fault (Option (Bytes × Bytes × Nat)) := do
  let length ← unpackNumber (slice content offset (offset + 4))
  let chunkType := slice content (offset + 4) (offset + 8)
  let stop := offset + 12 + length
  if maxChunkBytes < length ∨ content.length < stop then
    return none
  let data := slice content (offset + 8) (offset + 8 + length)
  let expectedCrc ← unpackNumber (slice content (offset + 8 + length) stop)
  if Z.crc32 (chunkType ++ data) % 2 ^ 32 ≠ expectedCrc then
    return none
  if chunkType.length ≠ 4 ∨ chunkType.all isLetter = false then
    return none
  match chunkType[2]? with
  | none => throw .indexError
  | some third => return if isUpper third then some (chunkType, data, stop) else none

inductive Phase
  | header
  | beforeImage
  | image
  | afterImage
deriving DecidableEq

/-- The variables of the walk. -/
structure Scan where
  width : Nat := 0
  height : Nat := 0
  channels : Nat := 0
  sawHeader : Bool := false
  compressed : Bytes := []
  sawEnd : Bool := false
  phase : Phase := .header
deriving DecidableEq

inductive Outcome
  | rejected
  | continued (scan : Scan)
  | ended (scan : Scan)

/-- The color channels of a color type that is supported. -/
def channelsOf (colorType : UInt8) : Nat :=
  if colorType = 2 then 3 else if colorType = 6 then 4 else 0

/-- Take the header chunk. -/
def acceptHeader (scan : Scan) (chunkType data : Bytes) : Except Fault Outcome := do
  if chunkType ≠ headerType ∨ data.length ≠ 13 then
    return .rejected
  let width ← unpackNumber (slice data 0 4)
  let height ← unpackNumber (slice data 4 8)
  match data.drop 8 with
  | [bitDepth, colorType, compression, filtering, interlace] =>
    let channels := channelsOf colorType
    if ¬(0 < width ∧ width ≤ 8192 ∧ 0 < height ∧ height ≤ 8192) ∨ 16000000 < width * height ∨
        bitDepth ≠ 8 ∨ channels = 0 ∨ compression ≠ 0 ∨ filtering ≠ 0 ∨ interlace ≠ 0 then
      return .rejected
    return .continued
      { scan with width, height, channels, sawHeader := true, phase := .beforeImage }
  | _ => throw .structError

/-- Take a chunk after the header. -/
def acceptChunk (scan : Scan) (chunkType data : Bytes) (atEnd : Bool) : Outcome :=
  if chunkType = headerType then .rejected
  else if chunkType = imageType then
    if scan.phase ≠ .beforeImage ∧ scan.phase ≠ .image then .rejected
    else if maxChunkBytes < (scan.compressed ++ data).length then .rejected
    else .continued { scan with phase := .image, compressed := scan.compressed ++ data }
  else if chunkType = endType then
    if data.length ≠ 0 ∨ atEnd = false then .rejected
    else .ended { scan with sawEnd := true }
  else if chunkType ∈ ancillaryBeforeImage then
    if scan.phase = .image then
      if chunkType ∉ ancillaryAfterImage then .rejected
      else .continued { scan with phase := .afterImage }
    -- A second chunk after the image data ends here as well.
    else if scan.phase ≠ .beforeImage then .rejected
    else .continued scan
  else .rejected

def accept (scan : Scan) (chunkType data : Bytes) (atEnd : Bool) : Except Fault Outcome :=
  if scan.sawHeader then .ok (acceptChunk scan chunkType data atEnd)
  else acceptHeader scan chunkType data

/-- Walk over the chunks from an offset; nothing is returned where a chunk is rejected. -/
def walk (Z : Zlib) (content : Bytes) : Nat → Nat → Scan → Except Fault (Option Scan)
  | 0, _, _ => .error .outOfFuel
  | fuel + 1, offset, scan =>
    if offset + 12 ≤ content.length then do
      match ← readChunk Z content offset with
      | none => return none
      | some (chunkType, data, stop) =>
        match ← accept scan chunkType data (stop = content.length) with
        | .rejected => return none
        | .ended scan => return some scan
        | .continued scan => walk Z content fuel stop scan
    else return some scan

/-! ## Pixels -/

/-- The output up to a limit, with the input that is not read yet; bad data is an error. -/
def decompress (Z : Zlib) (compressed : Bytes) (limit : Nat) : Option (Bytes × Bytes) :=
  let inflated := Z.inflate compressed
  if inflated.output.length < limit then
    match inflated with
    | .invalid _ => none
    | .truncated output | .complete output _ => some (output, [])
  else some (inflated.output.take limit, Z.held compressed limit)

/-- The output after a limit; bad data is an error. -/
def flush (Z : Zlib) (compressed : Bytes) (limit : Nat) : Option Bytes :=
  match Z.inflate compressed with
  | .invalid _ => none
  | .truncated output | .complete output _ => some (output.drop limit)

/-- The end of the stream is reached, and no byte follows it. -/
def isExactStream (Z : Zlib) (compressed : Bytes) : Bool :=
  match Z.inflate compressed with
  | .complete _ unused => unused = []
  | .invalid _ | .truncated _ => false

/-- Inflate the collected data, up to one byte more than the image needs. -/
def pixelsOf (Z : Zlib) (compressed : Bytes) (expectedSize : Nat) : Option Bytes := do
  let (pixels, unconsumedTail) ← decompress Z compressed (expectedSize + 1)
  guard (unconsumedTail = [])
  let rest ← flush Z compressed (expectedSize + 1)
  guard ((pixels ++ rest).length = expectedSize ∧ isExactStream Z compressed)
  return pixels ++ rest

/-- The bytes at the beginning of the rows. -/
def filterBytes (pixels : Bytes) (rowSize : Nat) : Except Fault Bytes :=
  (List.range' 0 ((pixels.length + rowSize - 1) / rowSize) rowSize).mapM fun offset =>
    fromOption pixels[offset]? .indexError

/-- Validate a bounded, complete PNG with positive dimensions and CRCs. -/
def validPng (Z : Zlib) (content : Bytes) : Except Fault Bool := do
  if content.length < 45 ∨ signature.isPrefixOf content = false then
    return false
  match ← walk Z content content.length 8 {} with
  | none => return false
  | some scan =>
    if ¬(scan.sawHeader ∧ scan.compressed ≠ [] ∧ scan.sawEnd) then
      return false
    let rowSize := 1 + scan.width * scan.channels
    match pixelsOf Z scan.compressed (scan.height * rowSize) with
    | none => return false
    | some pixels =>
      let filters ← filterBytes pixels rowSize
      return filters.all fun filter => filter ≤ 4

/-! ## The documented subset -/

structure Chunk where
  type : Bytes
  data : Bytes
deriving DecidableEq

/-- A chunk as it stands in a file. -/
def Chunk.encoded (Z : Zlib) (chunk : Chunk) : Bytes :=
  BigEndian.written chunk.data.length ++ chunk.type ++ chunk.data ++
    BigEndian.written (Z.crc32 (chunk.type ++ chunk.data) % 2 ^ 32)

/-- What a documented file is made of. -/
structure Document where
  width : Nat
  height : Nat
  alpha : Bool
  before : List Chunk
  image : List Bytes
  after : List Chunk

namespace Document

variable (Z : Zlib) (d : Document)

def channels : Nat := if d.alpha then 4 else 3

/-- The header: eight bits for each channel, RGB or RGBA, not interlaced. -/
def header : Chunk :=
  ⟨headerType, BigEndian.written d.width ++ BigEndian.written d.height ++
    [8, if d.alpha then 6 else 2, 0, 0, 0]⟩

def imageChunks : List Chunk := d.image.map fun data => ⟨imageType, data⟩

/-- The chunks after the header. -/
def body : List Chunk := d.before ++ (d.imageChunks ++ (d.after ++ [⟨endType, []⟩]))

def encoded : Bytes := signature ++ (d.header :: d.body).flatMap (Chunk.encoded Z)

/-- What the documentation asks of a file. -/
structure Valid : Prop where
  width : 0 < d.width ∧ d.width ≤ 8192
  height : 0 < d.height ∧ d.height ≤ 8192
  area : d.width * d.height ≤ 16000000
  before : ∀ chunk ∈ d.before, chunk.type ∈ ancillaryBeforeImage
  after : ∀ chunk ∈ d.after, chunk.type ∈ ancillaryAfterImage
  small : ∀ chunk ∈ d.body, chunk.data.length ≤ maxChunkBytes
  image : d.image ≠ []
  total : 1 ≤ d.image.flatten.length ∧ d.image.flatten.length ≤ maxChunkBytes
  /-- The image data is one stream of rows that begin with a filter byte. -/
  pixels : ∃ rows : List Bytes, Z.inflate d.image.flatten = .complete rows.flatten [] ∧
    rows.length = d.height ∧ ∀ row ∈ rows, row.length = 1 + d.width * d.channels ∧
      ∃ filter ∈ row.head?, filter ≤ 4

end Document

/-- A file of the documented subset. -/
def Documented (Z : Zlib) (content : Bytes) : Prop :=
  ∃ d : Document, d.Valid Z ∧ d.encoded Z = content

end Sdaqf.Png
