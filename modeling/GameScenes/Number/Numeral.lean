import GameScenes.Number.Digits
import GameScenes.Number.Dyadic

/-!
# Numerals given as text

`readInt?` reads a whole number of 64 bits: a sign or none, then digits.  `readFloat?` reads a
decimal with an optional point and exponent, or the words for infinity and not-a-number, and
rounds it to the nearest double.  Neither accepts blanks, separators or other bases.
-/

set_option autoImplicit false

namespace GameScenes.Number

/-- The least whole number of 64 bits with a sign. -/
def minInt64 : Int := -9223372036854775808

/-- The greatest whole number of 64 bits with a sign. -/
def maxInt64 : Int := 9223372036854775807

/-- A sign in front of a text, and what follows it. -/
def splitSign : List Char → Bool × List Char
  | '-' :: rest => (true, rest)
  | '+' :: rest => (false, rest)
  | cs => (false, cs)

/-- A whole number of 64 bits. -/
def readInt? (s : String) : Option Int :=
  let (negative, ds) := splitSign s.toList
  if ds.isEmpty || !ds.all isDigit then none
  else
    let magnitude : Int := natOfDigits 0 ds
    let n := if negative then -magnitude else magnitude
    if minInt64 ≤ n ∧ n ≤ maxInt64 then some n else none

/-- The exponent part of a decimal: nothing, or `e`, a sign or none and digits. -/
def readExponent? : List Char → Option Int
  | [] => some 0
  | c :: rest =>
      if c = 'e' ∨ c = 'E' then
        let (negative, ds) := splitSign rest
        if ds.isEmpty || !ds.all isDigit then none
        else
          let n : Int := natOfDigits 0 ds
          some (if negative then -n else n)
      else none

/-- The double nearest to `digits * 10 ^ exponent`; numbers far outside the range of doubles are
settled by their magnitude alone. -/
def nearestDouble (digits : Nat) (exponent : Int) : Float :=
  let magnitude : Int := decimalLength digits + exponent
  if digits = 0 then 0.0
  else if 400 < magnitude then Float.ofBits 0x7FF0000000000000
  else if magnitude < -400 then 0.0
  else Float.ofScientific digits (exponent < 0) exponent.natAbs

/-- The magnitude of an unsigned decimal. -/
def readDecimal? (cs : List Char) : Option Float :=
  let whole := cs.takeWhile isDigit
  let afterWhole := cs.dropWhile isDigit
  let (fraction, afterFraction) := match afterWhole with
    | '.' :: rest => (rest.takeWhile isDigit, rest.dropWhile isDigit)
    | rest => ([], rest)
  let digits := whole ++ fraction
  if digits.isEmpty then none
  else
    match readExponent? afterFraction with
    | none => none
    | some exponent =>
        some (nearestDouble (natOfDigits 0 digits) (exponent - fraction.length))

/-- The words that stand for values that no digits denote. -/
def readWord? (cs : List Char) : Option Float :=
  let word := String.ofList (cs.map Char.toLower)
  if word = "inf" ∨ word = "infinity" then some (Float.ofBits 0x7FF0000000000000)
  else if word = "nan" then some (Float.ofBits 0x7FF8000000000000)
  else none

/-- A double given as text. -/
def readFloat? (s : String) : Option Float :=
  let (negative, cs) := splitSign s.toList
  let magnitude := match readWord? cs with
    | some x => some x
    | none => readDecimal? cs
  magnitude.map fun x => if negative then -x else x

end GameScenes.Number
