/-!
# Numbers in bytes

Images keep their numbers in one, two or four bytes, the more significant ones first.
-/

set_option autoImplicit false

namespace GameScenes.Image

def byte? (bytes : ByteArray) (offset : Nat) : Option Nat :=
  bytes[offset]?.map UInt8.toNat

/-- A number of two bytes. -/
def pair? (bytes : ByteArray) (offset : Nat) : Option Nat :=
  match byte? bytes offset, byte? bytes (offset + 1) with
  | some high, some low => some (high * 256 + low)
  | _, _ => none

/-- A number of four bytes. -/
def quad? (bytes : ByteArray) (offset : Nat) : Option Nat :=
  match pair? bytes offset, pair? bytes (offset + 2) with
  | some high, some low => some (high * 65536 + low)
  | _, _ => none

/-- The bytes from an offset on, at most as many as asked for. -/
def run (bytes : ByteArray) (offset count : Nat) : List Nat :=
  (bytes.extract offset (offset + count)).toList.map UInt8.toNat

def sized (width height : Nat) : Option (UInt32 × UInt32) :=
  if width = 0 ∨ height = 0 then none else some (UInt32.ofNat width, UInt32.ofNat height)

end GameScenes.Image
