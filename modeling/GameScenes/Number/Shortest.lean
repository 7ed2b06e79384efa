import GameScenes.Number.Digits
import GameScenes.Number.Dyadic

/-!
# The shortest decimal of a float

The numbers that round to a float form an interval around it.  `shortest` looks at coarser and
then finer decimal grids: the first grid with a point in the interval wins, of two neighbours of
the float the nearer one is taken, and a tie goes to the even digit.  All comparisons are between
whole numbers.
-/

set_option autoImplicit false

namespace GameScenes.Number

/-- The number `digits * 10 ^ exponent`. -/
structure Decimal where
  digits : Nat
  exponent : Int
  deriving Repr, DecidableEq

/-- A positive quotient of whole numbers with the ends of the interval of numbers that round to
the same float, over one denominator. -/
structure Interval where
  low : Nat
  value : Nat
  high : Nat
  denominator : Nat
  /-- Whether the ends themselves round to the float. -/
  closed : Bool
  deriving Repr, DecidableEq

/-- The interval of a positive float.  The gap below a power of two is half of the gap above. -/
def Interval.of (l : Layout) (d : Dyadic) : Interval :=
  let narrowBelow := d.significand = Nat.pow 2 l.fractionBits ∧ l.lowestExponent < d.exponent
  let below := if narrowBelow then 1 else 2
  let scale := if 2 ≤ d.exponent then Nat.pow 2 (d.exponent - 2).toNat else 1
  let denominator := if 2 ≤ d.exponent then 1 else Nat.pow 2 (2 - d.exponent).toNat
  { low := (4 * d.significand - below) * scale
    value := 4 * d.significand * scale
    high := (4 * d.significand + 2) * scale
    denominator := denominator
    closed := d.significand % 2 == 0 }

namespace Interval

/-- The power of ten that the leading digit of the value has. -/
def magnitude (i : Interval) : Int :=
  if i.denominator ≤ i.value then (decimalLength (i.value / i.denominator) : Int) - 1
  else -(decimalLength ((i.denominator - 1) / i.value) : Int)

/-- Whether the quotient of two whole numbers lies in the interval. -/
def holds (i : Interval) (numerator denominator : Nat) : Bool :=
  let x := numerator * i.denominator
  let low := i.low * denominator
  let high := i.high * denominator
  if i.closed then low ≤ x && x ≤ high else low < x && x < high

/-- The point of the grid of step `10 ^ exponent` that stands for the value, if one of the two
points around the value lies in the interval. -/
def onGrid? (i : Interval) (exponent : Int) : Option Decimal :=
  let up := Nat.pow 10 exponent.toNat
  let down := Nat.pow 10 (-exponent).toNat
  let scaled := i.value * down
  let step := i.denominator * up
  let below := scaled / step
  let rest := scaled % step
  let fitsBelow := i.holds (below * up) down
  let fitsAbove := i.holds ((below + 1) * up) down
  let belowIsNearer := 2 * rest < step || (2 * rest == step && below % 2 == 0)
  if fitsBelow && (belowIsNearer || !fitsAbove) then some ⟨below, exponent⟩
  else if fitsAbove then some ⟨below + 1, exponent⟩
  else none

/-- The first grid with a point in the interval, with at most `more` digits after the `used`
ones. -/
def firstGrid (i : Interval) (magnitude : Int) (used : Nat) : Nat → Decimal
  | 0 => ⟨i.value / i.denominator, 0⟩
  | more + 1 =>
      match i.onGrid? (magnitude - used) with
      | some decimal => decimal
      | none => firstGrid i magnitude (used + 1) more

end Interval

/-- A decimal with its trailing zeros moved into the exponent. -/
def Decimal.withoutZeros (d : Decimal) : Nat → Decimal
  | 0 => d
  | fuel + 1 =>
      if d.digits ≠ 0 ∧ d.digits % 10 = 0 then
        Decimal.withoutZeros ⟨d.digits / 10, d.exponent + 1⟩ fuel
      else d

/-- The shortest decimal that rounds to a positive float; seventeen digits always suffice. -/
def shortest (l : Layout) (d : Dyadic) : Decimal :=
  let i := Interval.of l d
  let found := i.firstGrid i.magnitude 0 17
  found.withoutZeros 20

end GameScenes.Number
