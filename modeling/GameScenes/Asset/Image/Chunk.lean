import GameScenes.Asset.Image.Packed

/-!
# Images in chunks

After a signature the bytes are divided into chunks, each with a length, a type and a checksum.
The first chunk is the header, which gives the size.  The size counts as soon as the start of the
content is met; everything on the way there has to be in order, apart from most ancillary chunks,
which may hold anything.

A reader works within a ceiling of memory.  A line of pixels has to fit below it, together with
what the reader keeps of the chunks in front of the content.
-/

set_option autoImplicit false

namespace GameScenes.Image

/-! ## Checksums -/

/-- The remainder of a checksum after one more bit. -/
def checkBit (remainder : UInt32) : UInt32 :=
  if remainder &&& 1 = 1 then (remainder >>> 1) ^^^ 0xEDB88320 else remainder >>> 1

/-- The remainder of a checksum after one more byte. -/
def checkByte (remainder : UInt32) (byte : UInt8) : UInt32 :=
  checkBit (checkBit (checkBit (checkBit (checkBit (checkBit (checkBit (checkBit
    (remainder ^^^ byte.toUInt32))))))))

/-- The cyclic redundancy checksum of bytes. -/
def checksum (bytes : ByteArray) : Nat :=
  (bytes.toList.foldl checkByte 0xFFFFFFFF ^^^ 0xFFFFFFFF).toNat

/-! ## Chunks -/

/-- The bytes in front of the first chunk. -/
def signature : List Nat := [0x89, 0x50, 0x4E, 0x47, 0x0D, 0x0A, 0x1A, 0x0A]

inductive ChunkKind where
  | header
  | palette
  /-- Which color is seen through, or how far each color of the palette is. -/
  | transparency
  /-- The color behind the image. -/
  | background
  /-- What the numbers of colors stand for. -/
  | colorSpace
  /-- A packed description of the colors. -/
  | profile
  /-- A text about the image. -/
  | note
  /-- How the image was taken. -/
  | circumstances
  /-- How a frame of an animation is shown. -/
  | frameControl
  | content
  /-- Something that a reader may pass over. -/
  | ancillary
  /-- Something that no reader can go on from: the end, the content of a frame before that of the
  image, or something unknown. -/
  | closing
  deriving DecidableEq, Repr

/-- The kinds of the chunks with certain types. -/
def knownKinds : List (Nat × ChunkKind) :=
  [(0x49484452, .header), (0x504C5445, .palette), (0x74524E53, .transparency),
    (0x624B4744, .background), (0x63494350, .colorSpace), (0x69434350, .profile),
    (0x74455874, .note), (0x7A545874, .note), (0x69545874, .note), (0x65584966, .circumstances),
    (0x6663544C, .frameControl), (0x49444154, .content), (0x66644154, .closing)]

/-- The kind of a chunk with a type; a small first letter tells that it is ancillary. -/
def ChunkKind.ofType (type : Nat) : ChunkKind :=
  match knownKinds.lookup type with
  | some kind => kind
  | none => if type / 536870912 % 2 = 1 then .ancillary else .closing

/-- Whether a chunk of a kind must not be passed over. -/
def ChunkKind.isNeeded : ChunkKind → Bool
  | header => true
  | palette => true
  | frameControl => true
  | content => true
  | closing => true
  | _ => false

/-- Whether a reader looks into a chunk of a kind that has a length. -/
def ChunkKind.reads : ChunkKind → Nat → Bool
  | header, length => length = 13
  | palette, length => 3 ≤ length && length ≤ 768
  | transparency, length => 1 ≤ length && length ≤ 256
  | background, length => 1 ≤ length && length ≤ 6
  | colorSpace, length => length = 4
  | profile, _ => true
  | note, _ => true
  | circumstances, _ => true
  | frameControl, length => length = 26
  | content, _ => false
  | ancillary, _ => false
  | closing, _ => false

structure Chunk where
  kind : ChunkKind
  /-- Where the data starts. -/
  data : Nat
  length : Nat

def chunkAt? (bytes : ByteArray) (offset : Nat) : Option Chunk :=
  match quad? bytes offset, quad? bytes (offset + 4) with
  | some length, some type => some ⟨ChunkKind.ofType type, offset + 8, length⟩
  | _, _ => none

namespace Chunk

/-- Where the next chunk starts. -/
def next (chunk : Chunk) : Nat := chunk.data + chunk.length + 4

/-- Whether the bytes reach up to the next chunk. -/
def isComplete (bytes : ByteArray) (chunk : Chunk) : Bool := chunk.next ≤ bytes.size

/-- Whether a chunk is complete and has the checksum that stands behind it. -/
def isIntact (bytes : ByteArray) (chunk : Chunk) : Bool :=
  match quad? bytes (chunk.data + chunk.length) with
  | some expected =>
      checksum (bytes.extract (chunk.data - 4) (chunk.data + chunk.length)) == expected
  | none => false

end Chunk

/-! ## Headers -/

/-- What a header says about the pixels. -/
structure Header where
  size : UInt32 × UInt32
  /-- The number of bits of a sample. -/
  depth : Nat
  /-- The number of the kind of pixels. -/
  colorType : Nat

/-- The kind of pixels that stand for colors of a palette. -/
def indexedColors : Nat := 3

/-- The numbers of bits that a sample may have, and the number of samples that a pixel has once
palettes are resolved, for a kind of pixels. -/
def pixelForm? : Nat → Option (List Nat × Nat)
  | 0 => some ([1, 2, 4, 8, 16], 1)
  | 2 => some ([8, 16], 3)
  | 3 => some ([1, 2, 4, 8], 3)
  | 4 => some ([8, 16], 2)
  | 6 => some ([8, 16], 4)
  | _ => none

/-- Whether pixels of a kind may have a number of bits for each sample. -/
def allowsPixels (colorType depth : Nat) : Bool :=
  (pixelForm? colorType).any fun (depths, _) => depths.contains depth

def header? (bytes : ByteArray) (chunk : Chunk) : Option Header :=
  match quad? bytes chunk.data, quad? bytes (chunk.data + 4), run bytes (chunk.data + 8) 5 with
  | some width, some height, [depth, colorType, packing, filtering, interlacing] =>
      if chunk.kind = .header ∧ chunk.kind.reads chunk.length ∧ chunk.isIntact bytes ∧
          allowsPixels colorType depth ∧ packing = 0 ∧ filtering = 0 ∧ interlacing ≤ 1 then
        (sized width height).map fun size => ⟨size, depth, colorType⟩
      else none
  | _, _, _ => none

/-- The number of bytes that a line of pixels needs, each sample in bytes of its own;
transparency adds a sample. -/
def Header.lineBytes (header : Header) (transparent : Bool) : Nat :=
  let samples := ((pixelForm? header.colorType).map (·.2)).getD 0
  header.size.1.toNat * (samples + if transparent then 1 else 0) *
    (if header.depth = 16 then 2 else 1)

/-! ## The way to the content -/

/-- The greatest number of bytes that a reader may keep. -/
def memoryCeiling : Nat := 536870912

/-- What was met between the header and a chunk. -/
structure Passed where
  palette : Bool
  transparent : Bool
  colorSpace : Bool
  profile : Bool
  circumstances : Bool
  /-- The number of frames announced. -/
  frames : Nat
  /-- The number of bytes that the reader has room for in one chunk. -/
  room : Nat
  /-- The number of bytes that the reader keeps, added room included. -/
  kept : Nat

/-- What was met before the first chunk after the header. -/
def Passed.nothing : Passed := ⟨false, false, false, false, false, 0, 128, 0⟩

/-- The room after doubling it as often as a length asks for. -/
def roomFor (length : Nat) : Nat → Nat → Nat
  | 0, room => room
  | bound + 1, room => if length ≤ room then room else roomFor length bound (2 * room)

namespace Passed

def makeRoom (passed : Passed) (length : Nat) : Passed :=
  let room := roomFor length length passed.room
  { passed with room, kept := passed.kept + (room - passed.room) }

/-- With more bytes kept. -/
def keep (passed : Passed) (count : Nat) : Passed := { passed with kept := passed.kept + count }

/-- Whether the frame that a chunk announces is the next one in number and covers an image of a
size. -/
def announcesFrame (passed : Passed) (bytes : ByteArray) (size : UInt32 × UInt32)
    (chunk : Chunk) : Bool :=
  quad? bytes chunk.data == some passed.frames &&
    quad? bytes (chunk.data + 4) == some size.1.toNat &&
    quad? bytes (chunk.data + 8) == some size.2.toNat &&
    quad? bytes (chunk.data + 12) == some 0 && quad? bytes (chunk.data + 16) == some 0 &&
    (byte? bytes (chunk.data + 24)).any (· ≤ 2) && (byte? bytes (chunk.data + 25)).any (· ≤ 1)

/-- Whether a chunk that tells transparency fits the pixels: it names a color, or it follows the
palette. -/
def acceptsTransparency (passed : Passed) (header : Header) (chunk : Chunk) : Bool :=
  match header.colorType with
  | 0 => 2 ≤ chunk.length
  | 2 => 6 ≤ chunk.length
  | 3 => passed.palette
  | _ => false

/-- Whether a chunk on the color space is one that a reader can follow; only the first one in
front of the palette counts. -/
def acceptsColorSpace (passed : Passed) (bytes : ByteArray) (chunk : Chunk) : Bool :=
  passed.palette || passed.colorSpace ||
    (byte? bytes (chunk.data + 2) == some 0 && (byte? bytes (chunk.data + 3)).any (· ≤ 1))

end Passed

/-- The packed profile in a chunk.  In front of it stand a name of 1 to 80 bytes, the end of the
name and the number of the packing. -/
def profile? (bytes : ByteArray) (chunk : Chunk) : Option ByteArray :=
  let name := (run bytes chunk.data (min 81 chunk.length)).takeWhile (· ≠ 0)
  let start := chunk.data + name.length + 2
  let stop := chunk.data + chunk.length
  if name ≠ [] ∧ name.length ≤ 80 ∧ start ≤ stop ∧ byte? bytes (start - 1) = some 0 then
    unpack? (bytes.extract start stop)
  else none

/-- What was met up to the chunk after an intact chunk, if a reader can go on there. -/
def look? (bytes : ByteArray) (header : Header) (passed : Passed) (chunk : Chunk) :
    Option Passed :=
  match chunk.kind with
  | .palette => if passed.palette then none else some { passed with palette := true }
  | .transparency =>
      some { passed with
        transparent := passed.transparent || passed.acceptsTransparency header chunk }
  | .background =>
      if header.colorType = indexedColors ∧ !passed.palette then none else some passed
  | .colorSpace =>
      if passed.acceptsColorSpace bytes chunk then
        some { passed with colorSpace := passed.colorSpace || !passed.palette }
      else none
  | .profile =>
      if passed.profile then some passed
      else
        some ({ passed with profile := true }.keep
          (((profile? bytes chunk).map ByteArray.size).getD 0))
  | .note => some (passed.keep chunk.length)
  | .circumstances =>
      if passed.circumstances then some passed
      else some ({ passed with circumstances := true }.keep chunk.length)
  | .frameControl =>
      if passed.announcesFrame bytes header.size chunk then
        some { passed with frames := passed.frames + 1 }
      else none
  | .header => none
  | .content => none
  | .ancillary => some passed
  | .closing => none

/-- What was met up to the chunk after a chunk, if a reader can go on there.  A broken ancillary
chunk is passed over. -/
def pass? (bytes : ByteArray) (header : Header) (passed : Passed) (chunk : Chunk) :
    Option Passed :=
  if !chunk.isComplete bytes then none
  else if !chunk.kind.reads chunk.length then
    if chunk.kind.isNeeded then none else some passed
  else
    let passed := passed.makeRoom chunk.length
    if chunk.isIntact bytes then look? bytes header passed chunk
    else if chunk.kind = .palette ∨ chunk.kind = .header then none
    else some passed

/-- What was met up to the content, when chunks from an offset on lead there. -/
def passToContent? (bytes : ByteArray) (header : Header) : Nat → Passed → Nat → Option Passed
  | 0, _, _ => none
  | bound + 1, passed, offset =>
      match chunkAt? bytes offset with
      | none => none
      | some chunk =>
          if chunk.kind = .content then some passed
          else
            match pass? bytes header passed chunk with
            | some passed => passToContent? bytes header bound passed chunk.next
            | none => none

def chunkedSize? (bytes : ByteArray) : Option (UInt32 × UInt32) :=
  if run bytes 0 8 = signature then
    match chunkAt? bytes 8 with
    | none => none
    | some chunk =>
        match header? bytes chunk with
        | none => none
        | some header =>
            match passToContent? bytes header bytes.size Passed.nothing chunk.next with
            | none => none
            | some passed =>
                if header.lineBytes passed.transparent + passed.kept ≤ memoryCeiling then
                  some header.size
                else none
  else none

end GameScenes.Image
