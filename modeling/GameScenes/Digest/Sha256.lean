/-!
# SHA-256

The digest of a byte sequence by the rules of the Secure Hash Standard: the message is padded to
whole blocks of 64 bytes, and each block is mixed into a state of eight words.
-/

set_option autoImplicit false

namespace GameScenes.Sha256

/-- The first bits of the fractional parts of the cube roots of the first 64 primes. -/
def roundConstants : List UInt32 := [
  0x428a2f98, 0x71374491, 0xb5c0fbcf, 0xe9b5dba5, 0x3956c25b, 0x59f111f1, 0x923f82a4, 0xab1c5ed5,
  0xd807aa98, 0x12835b01, 0x243185be, 0x550c7dc3, 0x72be5d74, 0x80deb1fe, 0x9bdc06a7, 0xc19bf174,
  0xe49b69c1, 0xefbe4786, 0x0fc19dc6, 0x240ca1cc, 0x2de92c6f, 0x4a7484aa, 0x5cb0a9dc, 0x76f988da,
  0x983e5152, 0xa831c66d, 0xb00327c8, 0xbf597fc7, 0xc6e00bf3, 0xd5a79147, 0x06ca6351, 0x14292967,
  0x27b70a85, 0x2e1b2138, 0x4d2c6dfc, 0x53380d13, 0x650a7354, 0x766a0abb, 0x81c2c92e, 0x92722c85,
  0xa2bfe8a1, 0xa81a664b, 0xc24b8b70, 0xc76c51a3, 0xd192e819, 0xd6990624, 0xf40e3585, 0x106aa070,
  0x19a4c116, 0x1e376c08, 0x2748774c, 0x34b0bcb5, 0x391c0cb3, 0x4ed8aa4a, 0x5b9cca4f, 0x682e6ff3,
  0x748f82ee, 0x78a5636f, 0x84c87814, 0x8cc70208, 0x90befffa, 0xa4506ceb, 0xbef9a3f7, 0xc67178f2]

/-- The chaining value of eight words. -/
structure State where
  a : UInt32
  b : UInt32
  c : UInt32
  d : UInt32
  e : UInt32
  f : UInt32
  g : UInt32
  h : UInt32
  deriving DecidableEq, Repr

/-- The first bits of the fractional parts of the square roots of the first eight primes. -/
def State.initial : State :=
  ⟨0x6a09e667, 0xbb67ae85, 0x3c6ef372, 0xa54ff53a, 0x510e527f, 0x9b05688c, 0x1f83d9ab, 0x5be0cd19⟩

/-- The words of a state, one by one added to those of another. -/
def State.add (s t : State) : State :=
  ⟨s.a + t.a, s.b + t.b, s.c + t.c, s.d + t.d, s.e + t.e, s.f + t.f, s.g + t.g, s.h + t.h⟩

def State.words (s : State) : List UInt32 := [s.a, s.b, s.c, s.d, s.e, s.f, s.g, s.h]

/-- A word turned to the right. -/
def rotate (x : UInt32) (places : UInt32) : UInt32 :=
  (x >>> places) ||| (x <<< (32 - places))

/-- One round with a round constant and a word of the schedule. -/
def round (s : State) (constant word : UInt32) : State :=
  let sum1 := rotate s.e 6 ^^^ rotate s.e 11 ^^^ rotate s.e 25
  let choice := (s.e &&& s.f) ^^^ ((~~~ s.e) &&& s.g)
  let first := s.h + sum1 + choice + constant + word
  let sum0 := rotate s.a 2 ^^^ rotate s.a 13 ^^^ rotate s.a 22
  let majority := (s.a &&& s.b) ^^^ (s.a &&& s.c) ^^^ (s.b &&& s.c)
  ⟨first + (sum0 + majority), s.a, s.b, s.c, s.d + first, s.e, s.f, s.g⟩

/-- The word that starts at a byte, the most significant byte first. -/
def wordAt (bytes : ByteArray) (start : Nat) : UInt32 :=
  let byte := fun i => (bytes.get! (start + i)).toUInt32
  (byte 0 <<< 24) ||| (byte 1 <<< 16) ||| (byte 2 <<< 8) ||| byte 3

/-- The next word of a schedule that has at least sixteen words. -/
def nextWord (schedule : Array UInt32) : UInt32 :=
  let back := fun i => schedule.getD (schedule.size - i) 0
  let x := back 15
  let y := back 2
  let sigma0 := rotate x 7 ^^^ rotate x 18 ^^^ (x >>> 3)
  let sigma1 := rotate y 17 ^^^ rotate y 19 ^^^ (y >>> 10)
  back 16 + sigma0 + back 7 + sigma1

/-- The 64 words of the block that starts at a byte. -/
def schedule (bytes : ByteArray) (start : Nat) : Array UInt32 :=
  let words := Array.ofFn fun i : Fin 16 => wordAt bytes (start + 4 * i)
  (List.range 48).foldl (fun ws _ => ws.push (nextWord ws)) words

/-- The state after one block. -/
def compress (s : State) (bytes : ByteArray) (start : Nat) : State :=
  let words := (schedule bytes start).toList
  s.add ((roundConstants.zip words).foldl (fun t (constant, word) => round t constant word) s)

/-- The state after the next `blocks` blocks. -/
def absorb (bytes : ByteArray) (s : State) (start : Nat) : Nat → State
  | 0 => s
  | blocks + 1 => absorb bytes (compress s bytes start) (start + 64) blocks

/-- The bytes of a word, the most significant one first. -/
def wordBytes (w : UInt32) : List UInt8 :=
  [(w >>> 24).toUInt8, (w >>> 16).toUInt8, (w >>> 8).toUInt8, w.toUInt8]

/-- The bits of a length of `size` bytes, in eight bytes. -/
def lengthBytes (size : Nat) : List UInt8 :=
  let bits := UInt64.ofNat (8 * size)
  wordBytes (bits >>> 32).toUInt32 ++ wordBytes bits.toUInt32

/-- A message with one closing bit, zeros and its length, in whole blocks. -/
def pad (message : ByteArray) : ByteArray :=
  let zeros := (119 - message.size % 64) % 64
  message ++ ⟨(0x80 :: (List.replicate zeros 0 ++ lengthBytes message.size)).toArray⟩

def digest (message : ByteArray) : List UInt8 :=
  let padded := pad message
  (absorb padded State.initial 0 (padded.size / 64)).words.flatMap wordBytes

/-- A digit in base sixteen. -/
def hexDigit (n : Nat) : Char :=
  if n < 10 then Char.ofNat (48 + n) else Char.ofNat (87 + n)

/-- A byte in base sixteen. -/
def hexByte (b : UInt8) : List Char := [hexDigit (b.toNat / 16), hexDigit (b.toNat % 16)]

/-- The digest of a text, as 64 digits in base sixteen. -/
def hexDigest (text : String) : String :=
  String.ofList ((digest text.toUTF8).flatMap hexByte)

end GameScenes.Sha256
