import GameScenes.Asset.Image.Bytes

/-!
# Packed bytes

Bytes are packed in blocks.  A block holds them as they are, or as symbols with codes of different
lengths: a symbol is a byte, the end of the block, or a reference to bytes further back.  The code
of a symbol follows from the lengths of all codes, which are fixed or stand in front of the block.
Two bytes come before the blocks, and a checksum of the unpacked bytes comes after them.

Bits are taken from the less significant end of a byte, and so are numbers; only the bits of a
code come the other way round.
-/

set_option autoImplicit false

namespace GameScenes.Image

/-! ## Bits -/

def bit? (bytes : ByteArray) (position : Nat) : Option Nat :=
  (byte? bytes (position / 8)).map fun byte => byte / Nat.pow 2 (position % 8) % 2

def bits? (bytes : ByteArray) (position : Nat) : Nat → Option Nat
  | 0 => some 0
  | count + 1 =>
      match bit? bytes position, bits? bytes (position + 1) count with
      | some low, some rest => some (low + 2 * rest)
      | _, _ => none

/-! ## Codes -/

def maxCodeLength : Nat := 15

/-- Codes of symbols: how many there are of each length from 1 on, and their symbols in the order
of the codes. -/
structure Codes where
  counts : List Nat
  symbols : Array Nat
  deriving Repr

namespace Codes

/-- The codes of symbols that are counted from zero and have the given lengths; no length is no
code. -/
def ofLengths (lengths : List Nat) : Codes :=
  let ofLength := fun n => (lengths.zipIdx.filter (·.1 = n)).map (·.2)
  let places := (List.range maxCodeLength).map fun n => ofLength (n + 1)
  ⟨places.map List.length, places.flatten.toArray⟩

/-- The number of longest codes that the codes leave no room for. -/
def mass (codes : Codes) : Nat :=
  codes.counts.zipIdx.foldl (fun total (count, n) =>
    total + count * Nat.pow 2 (maxCodeLength - 1 - n)) 0

/-- Whether the codes leave no room and do not overlap. -/
def isComplete (codes : Codes) : Bool := codes.mass = Nat.pow 2 maxCodeLength

/-- Whether the codes are complete, or there is none, or only one of a single bit. -/
def isUsable (codes : Codes) : Bool :=
  codes.isComplete || codes.symbols.isEmpty ||
    (codes.symbols.size = 1 && codes.mass = Nat.pow 2 (maxCodeLength - 1))

/-- The symbol whose code goes on at a position, and the position after it.  `code` is what was
read so far, `first` the first code of the next length and `index` the place of its symbol. -/
def symbolFrom? (codes : Codes) (bytes : ByteArray) (code first index position : Nat) :
    List Nat → Option (Nat × Nat)
  | [] => none
  | count :: rest =>
      match bit? bytes position with
      | none => none
      | some bit =>
          let code := 2 * code + bit
          if code < first + count then
            (codes.symbols[index + (code - first)]?).map fun symbol => (symbol, position + 1)
          else
            symbolFrom? codes bytes code (2 * (first + count)) (index + count) (position + 1) rest

/-- The symbol whose code starts at a position, and the position after it. -/
def symbol? (codes : Codes) (bytes : ByteArray) (position : Nat) : Option (Nat × Nat) :=
  codes.symbolFrom? bytes 0 0 0 position codes.counts

end Codes

/-! ## Symbols -/

def endSymbol : Nat := 256

/-- The least length, and the number of bits to be added to it, of the references with each symbol
after the end's. -/
def lengthForms : List (Nat × Nat) :=
  [(3, 0), (4, 0), (5, 0), (6, 0), (7, 0), (8, 0), (9, 0), (10, 0), (11, 1), (13, 1), (15, 1),
    (17, 1), (19, 2), (23, 2), (27, 2), (31, 2), (35, 3), (43, 3), (51, 3), (59, 3), (67, 4),
    (83, 4), (99, 4), (115, 4), (131, 5), (163, 5), (195, 5), (227, 5), (258, 0)]

/-- The least distance, and the number of bits to be added to it, with each symbol. -/
def distanceForms : List (Nat × Nat) :=
  [(1, 0), (2, 0), (3, 0), (4, 0), (5, 1), (7, 1), (9, 2), (13, 2), (17, 3), (25, 3), (33, 4),
    (49, 4), (65, 5), (97, 5), (129, 6), (193, 6), (257, 7), (385, 7), (513, 8), (769, 8),
    (1025, 9), (1537, 9), (2049, 10), (3073, 10), (4097, 11), (6145, 11), (8193, 12),
    (12289, 12), (16385, 13), (24577, 13)]

/-- The number with a symbol whose further bits stand at a position, and the position after
them. -/
def formed? (bytes : ByteArray) (forms : List (Nat × Nat)) (symbol position : Nat) :
    Option (Nat × Nat) :=
  match forms[symbol]? with
  | none => none
  | some (least, extra) =>
      (bits? bytes position extra).map fun more => (least + more, position + extra)

/-- How a block packs bytes. -/
structure Packing where
  symbols : Codes
  distances : Codes

/-- The length and the distance of the reference with a symbol, and the position after it. -/
def Packing.reference? (packing : Packing) (bytes : ByteArray) (symbol position : Nat) :
    Option (Nat × Nat × Nat) :=
  match formed? bytes lengthForms (symbol - endSymbol - 1) position with
  | none => none
  | some (length, position) =>
      match packing.distances.symbol? bytes position with
      | none => none
      | some (symbol, position) =>
          (formed? bytes distanceForms symbol position).map fun (distance, position) =>
            (length, distance, position)

/-- Bytes with some more of them, each the one that lies a distance before its place. -/
def repeatBack (out : ByteArray) (distance : Nat) : Nat → ByteArray
  | 0 => out
  | count + 1 => repeatBack (out.push (out[out.size - distance]?.getD 0)) distance count

/-- The bytes with those of a block whose symbols go on at a position, and the position after it.
Every symbol takes at least one bit. -/
def Packing.unpackFrom? (packing : Packing) (bytes : ByteArray) :
    Nat → ByteArray → Nat → Option (ByteArray × Nat)
  | 0, _, _ => none
  | bound + 1, out, position =>
      match packing.symbols.symbol? bytes position with
      | none => none
      | some (symbol, position) =>
          if symbol < endSymbol then
            packing.unpackFrom? bytes bound (out.push (UInt8.ofNat symbol)) position
          else if symbol = endSymbol then some (out, position)
          else
            match packing.reference? bytes symbol position with
            | none => none
            | some (length, distance, position) =>
                if distance ≤ out.size then
                  packing.unpackFrom? bytes bound (repeatBack out distance length) position
                else none

/-! ## Lengths of codes -/

/-- The packing of blocks that do not bring their own. -/
def Packing.fixed : Packing :=
  { symbols := Codes.ofLengths
      (List.replicate 144 8 ++ List.replicate 112 9 ++ List.replicate 24 7 ++ List.replicate 8 8)
    distances := Codes.ofLengths (List.replicate 32 5) }

/-- The order in which the lengths of the codes for lengths are given. -/
def lengthOrder : List Nat :=
  [16, 17, 18, 0, 8, 7, 9, 6, 10, 5, 11, 4, 12, 3, 13, 2, 14, 1, 15]

/-- The codes for lengths, some lengths of which stand at a position in three bits each. -/
def lengthCodes? (bytes : ByteArray) (position count : Nat) : Option Codes :=
  let given := (List.range count).filterMap fun i => bits? bytes (position + 3 * i) 3
  let codes := Codes.ofLengths
    ((List.range lengthOrder.length).map fun n => ((lengthOrder.zip given).lookup n).getD 0)
  if given.length = count ∧ codes.isComplete then some codes else none

/-- What a symbol says about lengths, of which the last one is given: the length and how often it
comes next, and the position after the symbol's further bits. -/
def lengthRun? (bytes : ByteArray) (last : Option Nat) (symbol position : Nat) :
    Option (Nat × Nat × Nat) :=
  if symbol < 16 then some (symbol, 1, position)
  else if symbol = 16 then
    match last, bits? bytes position 2 with
    | some last, some more => some (last, 3 + more, position + 2)
    | _, _ => none
  else if symbol = 17 then
    (bits? bytes position 3).map fun more => (0, 3 + more, position + 3)
  else (bits? bytes position 7).map fun more => (0, 11 + more, position + 7)

/-- So many lengths of codes, the ones before which are given in reverse, and the position after
them. -/
def codeLengths? (codes : Codes) (bytes : ByteArray) (total : Nat) :
    Nat → List Nat → Nat → Option (List Nat × Nat)
  | 0, _, _ => none
  | bound + 1, done, position =>
      if total ≤ done.length then
        if done.length = total then some (done.reverse, position) else none
      else
        match codes.symbol? bytes position with
        | none => none
        | some (symbol, position) =>
            match lengthRun? bytes done.head? symbol position with
            | none => none
            | some (length, count, position) =>
                codeLengths? codes bytes total bound (List.replicate count length ++ done) position

/-- The packing that stands at a position, and the position after it. -/
def packing? (bytes : ByteArray) (position : Nat) : Option (Packing × Nat) :=
  match bits? bytes position 5, bits? bytes (position + 5) 5, bits? bytes (position + 10) 4 with
  | some symbols, some distances, some lengths =>
      let symbols := symbols + 257
      let distances := distances + 1
      let lengths := lengths + 4
      match lengthCodes? bytes (position + 14) lengths with
      | none => none
      | some codes =>
          let total := symbols + distances
          match codeLengths? codes bytes total (total + 1) [] (position + 14 + 3 * lengths) with
          | none => none
          | some (all, position) =>
              let packing : Packing :=
                ⟨Codes.ofLengths (all.take symbols), Codes.ofLengths (all.drop symbols)⟩
              if symbols ≤ 286 ∧ distances ≤ 30 ∧ (all[endSymbol]?.getD 0) ≠ 0 ∧
                  packing.symbols.isComplete ∧ packing.distances.isUsable then
                some (packing, position)
              else none
  | _, _, _ => none

/-! ## Blocks -/

/-- The bytes with those of a block that holds them as they are, from the next whole byte on, and
the position after it. -/
def storedBlock? (bytes out : ByteArray) (position : Nat) : Option (ByteArray × Nat) :=
  let start := (position + 7) / 8
  match bits? bytes (8 * start) 16, bits? bytes (8 * start + 16) 16 with
  | some length, some inverse =>
      if length + inverse = 65535 ∧ start + 4 + length ≤ bytes.size then
        some (out ++ bytes.extract (start + 4) (start + 4 + length), 8 * (start + 4 + length))
      else none
  | _, _ => none

/-- The bytes with those of a block of a kind, and the position after it. -/
def block? (bytes out : ByteArray) (kind position : Nat) : Option (ByteArray × Nat) :=
  let bound := 8 * bytes.size + 1
  match kind with
  | 0 => storedBlock? bytes out position
  | 1 => Packing.fixed.unpackFrom? bytes bound out position
  | 2 =>
      match packing? bytes position with
      | none => none
      | some (packing, position) => packing.unpackFrom? bytes bound out position
  | _ => none

/-- The bytes with those of the blocks from a position on, and the position after the last one. -/
def blocks? (bytes : ByteArray) : Nat → ByteArray → Nat → Option (ByteArray × Nat)
  | 0, _, _ => none
  | bound + 1, out, position =>
      match bits? bytes position 1, bits? bytes (position + 1) 2 with
      | some last, some kind =>
          match block? bytes out kind (position + 3) with
          | none => none
          | some (out, position) =>
              if last = 1 then some (out, position) else blocks? bytes bound out position
      | _, _ => none

/-- The two sums of bytes, each less than 65521, as one number. -/
def doubleSum (bytes : ByteArray) : Nat :=
  let (a, b) := bytes.toList.foldl (fun (a, b) byte =>
    let a := (a + byte.toNat) % 65521
    (a, (b + a) % 65521)) (1, 0)
  b * 65536 + a

/-- Whether two bytes may come before blocks. -/
def isPackedStart (first second : Nat) : Bool :=
  first % 16 = 8 && first / 16 ≤ 7 && second / 32 % 2 = 0 && (first * 256 + second) % 31 = 0

/-- The bytes that are packed in front of other bytes. -/
def unpack? (bytes : ByteArray) : Option ByteArray :=
  match byte? bytes 0, byte? bytes 1 with
  | some first, some second =>
      if isPackedStart first second then
        match blocks? bytes (8 * bytes.size + 1) ByteArray.empty 16 with
        | none => none
        | some (out, position) =>
            if quad? bytes ((position + 7) / 8) = some (doubleSum out) then some out else none
      else none
  | _, _ => none

end GameScenes.Image
