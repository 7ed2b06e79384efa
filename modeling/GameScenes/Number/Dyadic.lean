/-!
# Binary floats as exact numbers

A finite binary float is a whole number times a power of two.  `Layout.dyadic?` reads that
number off the bits and `Layout.encode` rounds a number of this form to the nearest float of a
layout, a tie going to the even significand.  Narrowing a double to a single is decoding in one
layout and encoding in the other.
-/

set_option autoImplicit false

namespace GameScenes.Number

/-- The number `significand * 2 ^ exponent`, with a sign that zero keeps too. -/
structure Dyadic where
  negative : Bool
  significand : Nat
  exponent : Int
  deriving Repr, DecidableEq

/-- How a binary float is laid out: the widths of its fraction and of its exponent. -/
structure Layout where
  fractionBits : Nat
  exponentBits : Nat
  deriving Repr, DecidableEq

namespace Layout

/-- Floats of 32 bits. -/
def single : Layout := ⟨23, 8⟩

/-- Floats of 64 bits. -/
def double : Layout := ⟨52, 11⟩

/-- The largest value of the exponent field, which infinities and not-a-number have. -/
def topField (l : Layout) : Nat := Nat.pow 2 l.exponentBits - 1

/-- The exponent of the lowest bit of the smallest floats. -/
def lowestExponent (l : Layout) : Int :=
  2 - Nat.pow 2 (l.exponentBits - 1) - l.fractionBits

def infinityBits (l : Layout) : Nat := l.topField * Nat.pow 2 l.fractionBits

def signBit (l : Layout) : Nat := Nat.pow 2 (l.fractionBits + l.exponentBits)

/-- The number that finite bits stand for. -/
def dyadic? (l : Layout) (bits : Nat) : Option Dyadic :=
  let fraction := bits % Nat.pow 2 l.fractionBits
  let field := bits / Nat.pow 2 l.fractionBits % Nat.pow 2 l.exponentBits
  let negative := bits / l.signBit % 2 == 1
  if field = l.topField then none
  else if field = 0 then some ⟨negative, fraction, l.lowestExponent⟩
  else
    some ⟨negative, Nat.pow 2 l.fractionBits + fraction, l.lowestExponent + (field - 1 : Nat)⟩

/-- A quotient by a power of two, rounded to the nearest whole number and from the middle to
the even one. -/
def halve (n places : Nat) : Nat :=
  let quotient := n / Nat.pow 2 places
  let rest := n % Nat.pow 2 places
  if 2 * rest < Nat.pow 2 places then quotient
  else if Nat.pow 2 places < 2 * rest then quotient + 1
  else quotient + quotient % 2

/-- The bits of the float nearest to a number; beyond the largest float they are infinity's. -/
def encode (l : Layout) (d : Dyadic) : Nat :=
  let sign := if d.negative then l.signBit else 0
  if d.significand = 0 then sign
  else
    let width : Int := Nat.log2 d.significand + 1
    let exponent := max (d.exponent + width - (l.fractionBits + 1)) l.lowestExponent
    let significand :=
      if exponent ≤ d.exponent then d.significand * Nat.pow 2 (d.exponent - exponent).toNat
      else halve d.significand (exponent - d.exponent).toNat
    let magnitude := (exponent - l.lowestExponent).toNat * Nat.pow 2 l.fractionBits + significand
    sign + min magnitude l.infinityBits

end Layout

/-- The exact value of a finite double. -/
def ofDouble? (x : Float) : Option Dyadic :=
  Layout.double.dyadic? x.toBits.toNat

/-- The exact value of a finite single. -/
def ofSingle? (x : Float32) : Option Dyadic :=
  Layout.single.dyadic? x.toBits.toNat

/-- The single nearest to a double. -/
def narrow (x : Float) : Float32 :=
  match ofDouble? x with
  | some d => Float32.ofBits (UInt32.ofNat (Layout.single.encode d))
  | none =>
      if x.isNaN then Float32.ofBits 0x7FC00000
      else if x < 0 then Float32.ofBits 0xFF800000 else Float32.ofBits 0x7F800000

/-- The single nearest to a whole number of at most 64 bits. -/
def singleOfInt (n : Int) : Float32 :=
  if n < 0 then -(UInt64.ofNat n.natAbs).toFloat32 else (UInt64.ofNat n.natAbs).toFloat32

def Dyadic.toInt? (d : Dyadic) : Option Int :=
  let magnitude : Option Nat :=
    if 0 ≤ d.exponent then some (d.significand * Nat.pow 2 d.exponent.toNat)
    else if d.significand % Nat.pow 2 (-d.exponent).toNat = 0 then
      some (d.significand / Nat.pow 2 (-d.exponent).toNat)
    else none
  magnitude.map fun n => if d.negative then -(n : Int) else n

end GameScenes.Number
