/-!
# Decimal digits

Whole numbers and the digits that write them.
-/

set_option autoImplicit false

namespace GameScenes.Number

/-- The value of a decimal digit. -/
def digit? (c : Char) : Option Nat :=
  if '0' ≤ c ∧ c ≤ '9' then some (c.toNat - 48) else none

/-- Whether a character is a decimal digit. -/
def isDigit (c : Char) : Bool := (digit? c).isSome

/-- The number that decimal digits denote, continuing from `start`. -/
def natOfDigits (start : Nat) (cs : List Char) : Nat :=
  cs.foldl (fun n c => n * 10 + (c.toNat - 48)) start

/-- The decimal digits of a whole number. -/
def digitsOf (n : Nat) : List Char := Nat.toDigits 10 n

/-- The number of decimal digits of a whole number; zero has none. -/
def decimalLength (n : Nat) : Nat :=
  if n = 0 then 0 else (digitsOf n).length

def natText (n : Nat) : String := String.ofList (digitsOf n)

/-- A whole number with its sign as text. -/
def intText (n : Int) : String :=
  String.ofList (if n < 0 then '-' :: digitsOf n.natAbs else digitsOf n.natAbs)

end GameScenes.Number
