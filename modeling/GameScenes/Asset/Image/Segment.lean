import GameScenes.Asset.Image.Bytes

/-!
# Images in segments

After two bytes that open the image the bytes are divided into segments, each of which starts with
the byte 255 and a marker.  A frame gives the size, tables say how the content is packed, and the
first scan starts the content.  The size counts when the scan is met and everything before it is
in order.
-/

set_option autoImplicit false

namespace GameScenes.Image

/-- What a segment with a marker holds. -/
inductive SegmentKind where
  | frame
  /-- Tables of divisors for the samples. -/
  | divisors
  /-- Tables of codes of different lengths. -/
  | codes
  | scan
  /-- How often the content can be entered anew. -/
  | interval
  /-- How the colors are to be taken, among other uses. -/
  | colors
  /-- What wrote the image, among other uses. -/
  | opening
  /-- A description of the image, which may be a part of a longer one. -/
  | description
  /-- Nothing that an image can go on with. -/
  | forbidden
  | other
  deriving DecidableEq, Repr

def SegmentKind.ofMarker (marker : Nat) : SegmentKind :=
  if 0xC0 ≤ marker ∧ marker ≤ 0xC2 then .frame
  else if marker = 0xC4 then .codes
  else if marker = 0xDA then .scan
  else if marker = 0xDB then .divisors
  else if marker = 0xDD then .interval
  else if marker = 0xE0 then .opening
  else if marker = 0xE1 then .description
  else if marker = 0xEE then .colors
  else if marker = 0xCC ∨ marker = 0xD9 ∨ marker = 0xDC then .forbidden
  else .other

/-! ## Frames -/

/-- What a frame says about its image. -/
structure Frame where
  size : UInt32 × UInt32
  components : List Nat

/-- Whether samples can be taken with a factor along the lines. -/
def isFactorAlong (factor : Nat) : Bool := [1, 2, 4].contains factor

/-- Whether samples can be taken with a factor across the lines. -/
def isFactorAcross (factor : Nat) : Bool := 1 ≤ factor && factor ≤ 4

/-- Whether the component at an offset has usable factors and one of the four tables. -/
def isComponent (bytes : ByteArray) (offset : Nat) : Bool :=
  match byte? bytes (offset + 1), byte? bytes (offset + 2) with
  | some factors, some table =>
      isFactorAlong (factors / 16) && isFactorAcross (factors % 16) && table < 4
  | _, _ => false

/-- The frame whose length is at an offset. -/
def frame? (bytes : ByteArray) (offset : Nat) : Option Frame :=
  match pair? bytes offset, byte? bytes (offset + 2), pair? bytes (offset + 3),
      pair? bytes (offset + 5), byte? bytes (offset + 7) with
  | some length, some precision, some height, some width, some count =>
      let places := (List.range count).map fun i => offset + 8 + 3 * i
      if precision = 8 ∧ count ≠ 0 ∧ count ≤ 4 ∧ length = 8 + 3 * count ∧
          places.all (isComponent bytes) then
        (sized width height).map fun size => ⟨size, places.filterMap (byte? bytes)⟩
      else none
  | _, _, _, _, _ => none

/-! ## Tables -/

/-- Whether tables of divisors fill a number of bytes from an offset on. -/
def areDivisors (bytes : ByteArray) : Nat → Nat → Nat → Bool
  | 0, _, left => left == 0
  | bound + 1, offset, left =>
      if left = 0 then true
      else
        match byte? bytes offset with
        | none => false
        | some form =>
            let used := 1 + 64 * (form / 16 + 1)
            form / 16 ≤ 1 && form % 16 < 4 && used ≤ left && offset + used ≤ bytes.size &&
              areDivisors bytes bound (offset + used) (left - used)

/-- Whether codes can be given out when so many have each length from `length` on and the next
code is `code`; the code of ones only stays free. -/
def codesFit (length code : Nat) : List Nat → Bool
  | [] => true
  | count :: rest =>
      code + count < Nat.pow 2 length && codesFit (length + 1) (2 * (code + count)) rest

/-- Whether tables of codes fill a number of bytes from an offset on. -/
def areCodes (bytes : ByteArray) : Nat → Nat → Nat → Bool
  | 0, _, left => left == 0
  | bound + 1, offset, left =>
      if left ≤ 16 then left == 0
      else
        match byte? bytes offset with
        | none => false
        | some form =>
            let counts := run bytes (offset + 1) 16
            let total := counts.foldl (· + ·) 0
            let symbols := run bytes (offset + 17) total
            let used := 17 + total
            form / 16 ≤ 1 && form % 16 < 4 && total ≤ 256 && used ≤ left &&
              offset + used ≤ bytes.size && codesFit 1 0 counts &&
              (form / 16 == 1 || symbols.all (· ≤ 15)) &&
              areCodes bytes bound (offset + used) (left - used)

/-! ## Other segments -/

def namesColors (bytes : ByteArray) (offset : Nat) : Bool :=
  run bytes offset 5 = [0x41, 0x64, 0x6F, 0x62, 0x65]

/-- Whether a segment on colors says nothing unknown. -/
def areColors (bytes : ByteArray) (offset : Nat) : Bool :=
  !namesColors bytes offset || (byte? bytes (offset + 11)).any (· ≤ 2)

/-- The name of a part of a long description. -/
def partName : List Nat :=
  [0x68, 0x74, 0x74, 0x70, 0x3A, 0x2F, 0x2F, 0x6E, 0x73, 0x2E, 0x61, 0x64, 0x6F, 0x62, 0x65, 0x2E,
    0x63, 0x6F, 0x6D, 0x2F, 0x78, 0x6D, 0x70, 0x2F, 0x65, 0x78, 0x74, 0x65, 0x6E, 0x73, 0x69, 0x6F,
    0x6E, 0x2F, 0x00]

/-- The number of bytes that tell where a part belongs. -/
def partPlaceBytes : Nat := 40

/-- Whether a description of so many bytes tells where it belongs, if it is named as a part. -/
def isDescription (bytes : ByteArray) (offset count : Nat) : Bool :=
  count ≤ partName.length || run bytes offset partName.length ≠ partName ||
    partName.length + partPlaceBytes ≤ count

/-- Whether a segment that is neither a frame nor a scan is in order; its length is at an
offset. -/
def SegmentKind.accepts (kind : SegmentKind) (bytes : ByteArray) (offset length : Nat) : Bool :=
  match kind with
  | .divisors => areDivisors bytes length (offset + 2) (length - 2)
  | .codes => areCodes bytes length (offset + 2) (length - 2)
  | .interval => length = 4
  | .colors => areColors bytes (offset + 2)
  | .description => isDescription bytes (offset + 2) (length - 2)
  | _ => true

/-- The number of bytes that a segment takes from its length on.  An opening of four bytes is read
together with the byte behind it, and what is named as a segment on colors is read up to what it
says, however short it is. -/
def SegmentKind.span (kind : SegmentKind) (bytes : ByteArray) (offset length : Nat) : Nat :=
  match kind with
  | .opening => if length = 6 then 7 else length
  | .colors => if namesColors bytes (offset + 2) then max length 14 else length
  | _ => length

/-! ## Scans -/

/-- Whether a scan of a frame, whose length is at an offset, starts properly: it names different
components of the frame and keeps within the ranges of its parameters. -/
def isScan (frame : Frame) (bytes : ByteArray) (offset : Nat) : Bool :=
  match pair? bytes offset, byte? bytes (offset + 2) with
  | some length, some count =>
      let components :=
        (List.range count).filterMap fun i => byte? bytes (offset + 3 + 2 * i)
      let inRange :=
        match run bytes (offset + 3 + 2 * count) 3 with
        | [first, last, steps] =>
            first ≤ 63 && last ≤ 63 && steps / 16 ≤ 13 && steps % 16 ≤ 13
        | _ => false
      count ≠ 0 && count ≤ 4 && length = 6 + 2 * count && inRange &&
        components.all frame.components.contains && components.eraseDups.length == count
  | _, _ => false

/-! ## The way to the scan -/

/-- The offset of the first byte from an offset on that is neither 0 nor 255. -/
def skipFilling (bytes : ByteArray) : Nat → Nat → Nat
  | 0, offset => offset
  | bound + 1, offset =>
      if byte? bytes offset = some 0xFF ∨ byte? bytes offset = some 0 then
        skipFilling bytes bound (offset + 1)
      else offset

/-- The size of an image whose segments go on at an offset.  `marked` says that the byte before
is 255, which announces a marker unless bytes that fill end with 0; `found` is the frame met so
far, which the first scan makes valid. -/
def segmentedSizeFrom (bytes : ByteArray) :
    Nat → Bool → Option Frame → Nat → Option (UInt32 × UInt32)
  | 0, _, _, _ => none
  | bound + 1, marked, found, offset =>
      let start := if marked then skipFilling bytes bytes.size offset else offset
      match byte? bytes start with
      | none => none
      | some marker =>
          if !marked || byte? bytes (start - 1) ≠ some 0xFF then
            segmentedSizeFrom bytes bound (marker == 0xFF) found (start + 1)
          else
            match SegmentKind.ofMarker marker, found, pair? bytes (start + 1) with
            | .forbidden, _, _ => none
            | .scan, some frame, _ =>
                if isScan frame bytes (start + 1) then some frame.size else none
            | .scan, none, _ => none
            | .frame, none, some length =>
                match frame? bytes (start + 1) with
                | some frame =>
                    segmentedSizeFrom bytes bound false (some frame) (start + 1 + length)
                | none => none
            | .frame, _, _ => none
            | kind, found, some length =>
                if 2 ≤ length ∧ kind.accepts bytes (start + 1) length then
                  segmentedSizeFrom bytes bound false found
                    (start + 1 + kind.span bytes (start + 1) length)
                else none
            | _, _, none => none

def segmentedSize? (bytes : ByteArray) : Option (UInt32 × UInt32) :=
  if pair? bytes 0 = some 0xFFD8 then segmentedSizeFrom bytes bytes.size false none 2 else none

end GameScenes.Image
