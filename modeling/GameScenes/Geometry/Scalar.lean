/-!
# Scalars of the scene geometry

All geometry is done with floats of 32 bits, every operation rounded.  Of two numbers one of which
is not-a-number, the smaller and the greater are both the other one.
-/

set_option autoImplicit false

namespace GameScenes.Geometry

/-- The smaller of two numbers; of equal ones the first. -/
def smaller (a b : Float32) : Float32 :=
  if a.isNaN then b else if b < a then b else a

/-- The greater of two numbers; of equal ones the first. -/
def greater (a b : Float32) : Float32 :=
  if a.isNaN then b else if a < b then b else a

/-- Whether a number is finite and above zero. -/
def isPositive (a : Float32) : Bool :=
  a.isFinite && 0 < a

/-- The gap between one and the next greater number. -/
def epsilon : Float32 := Float32.ofBits 0x34000000

/-- A quotient, which is zero when the divisor is about zero. -/
def quotient (a b : Float32) : Float32 :=
  if b.abs ≤ epsilon then 0 else a / b

/-- The angle in radians of an angle in degrees. -/
def radians (degrees : Float32) : Float32 :=
  degrees * (Float32.ofBits 0x40490FDB / 180)

/-- The place of a number in a total order of all numbers: negative zero stands before zero, and
what is not a number stands before everything else. -/
def rank (a : Float32) : Int :=
  let bits : Int := a.toBits.toNat
  if a.isNaN then -4294967296
  else if 2147483648 ≤ bits then 2147483647 - bits
  else bits

end GameScenes.Geometry
