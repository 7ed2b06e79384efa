import GameScenes.Json.Basic
import GameScenes.Json.Fault

/-!
# Words, numerals and texts of Json

Each function reads one lexeme from the front of a character list.  A numeral keeps a significand
of 64 bits: digits that no longer fit only scale the number.  The loop over the characters of a
text takes a bound on their number, which any bound on the whole text is.
-/

set_option autoImplicit false

namespace GameScenes.Json

open GameScenes.Number (isDigit)

/-- The blanks between lexemes. -/
def isSpace (c : Char) : Bool :=
  c = ' ' || c = '\n' || c = '\t' || c = '\r'

/-- The characters after the blanks in front. -/
def skipSpace (cs : List Char) : List Char := cs.dropWhile isSpace

/-- The rest of a word whose first letter was read. -/
def readWord : List Char → List Char → Except Fault (List Char)
  | [], cs => .ok cs
  | _ :: _, [] => faultAtEnd .endInValue
  | w :: word, c :: cs => if c = w then readWord word cs else faultHere .expectedWord (c :: cs)

/-! ## Numerals -/

def maxSignificand : Nat := 18446744073709551615

/-- The greatest exponent that is read digit by digit. -/
def maxExponent : Nat := 2147483647

/-- Digits of a numeral: the significand that fits, and how often the number is to be scaled by
ten. -/
structure Significand where
  value : Nat
  scale : Int
  deriving DecidableEq, Repr

/-- One more digit before the point.  After the first digit that does not fit all digits only
scale. -/
def Significand.pushWhole (s : Significand) (c : Char) : Significand :=
  let grown := s.value * 10 + (c.toNat - 48)
  if s.scale = 0 ∧ grown ≤ maxSignificand then ⟨grown, 0⟩ else ⟨s.value, s.scale + 1⟩

/-- The digits after the point.  From the first digit that does not fit they are left out. -/
def Significand.pushFraction (s : Significand) : List Char → Significand
  | [] => s
  | c :: cs =>
      let grown := s.value * 10 + (c.toNat - 48)
      if grown ≤ maxSignificand then pushFraction ⟨grown, s.scale - 1⟩ cs else s

def powerOfTen (n : Nat) : Float := Float.ofScientific 1 false n

/-- A double times a power of ten, in steps that stay within the range of doubles; none when the
result is too large. -/
def scaled (x : Float) (exponent : Int) : Nat → Option Float
  | 0 => some x
  | fuel + 1 =>
      if exponent.natAbs ≤ 308 then
        if 0 ≤ exponent then
          let y := x * powerOfTen exponent.natAbs
          if y.isInf then none else some y
        else some (x / powerOfTen exponent.natAbs)
      else if x == 0.0 then some x
      else if 0 ≤ exponent then none
      else scaled (x / powerOfTen 308) (exponent + 308) fuel

/-- The double of a significand and an exponent; four steps reach zero from any significand. -/
def Significand.toFloat? (s : Significand) (negative : Bool) : Option Float :=
  (scaled (UInt64.ofNat s.value).toFloat s.scale 4).map fun x => if negative then -x else x

/-- The number of a numeral that has a point, an exponent or too many digits. -/
def floatOf (s : Significand) (negative : Bool) (rest : List Char) : Reading JsonNumber :=
  match s.toFloat? negative with
  | some x => .ok (.float x, rest)
  | none => faultBefore .numberOutOfRange rest

/-- A significand scaled by the power of ten of an exponent part. -/
def Significand.scaleBy (s : Significand) (smaller : Bool) (exponent : Nat) : Significand :=
  ⟨s.value, if smaller then s.scale - exponent else s.scale + exponent⟩

/-- The digits of an exponent after its first; an exponent beyond `maxExponent` settles the
number at once. -/
def readExponentDigits (s : Significand) (negative smaller : Bool) (exponent : Nat) :
    List Char → Reading JsonNumber
  | [] => floatOf (s.scaleBy smaller exponent) negative []
  | c :: cs =>
      if isDigit c then
        let grown := exponent * 10 + (c.toNat - 48)
        if grown ≤ maxExponent then readExponentDigits s negative smaller grown cs
        else if s.value ≠ 0 ∧ !smaller then faultBefore .numberOutOfRange cs
        else .ok (.float (if negative then -0.0 else 0.0), cs.dropWhile isDigit)
      else floatOf (s.scaleBy smaller exponent) negative (c :: cs)

/-- An exponent after its `e`. -/
def readExponent (s : Significand) (negative : Bool) (cs : List Char) : Reading JsonNumber :=
  let (smaller, digits) := match cs with
    | '+' :: rest => (false, rest)
    | '-' :: rest => (true, rest)
    | rest => (false, rest)
  match digits with
  | [] => faultAtEnd .endInValue
  | c :: rest =>
      if isDigit c then readExponentDigits s negative smaller (c.toNat - 48) rest
      else faultHere .invalidNumber (c :: rest)

/-- What may follow the digits of a numeral that is known to be a float. -/
def readFloatEnd (s : Significand) (negative : Bool) (cs : List Char) : Reading JsonNumber :=
  match cs with
  | 'e' :: rest => readExponent s negative rest
  | 'E' :: rest => readExponent s negative rest
  | rest => floatOf s negative rest

/-- A fraction after its point. -/
def readFraction (s : Significand) (negative : Bool) (cs : List Char) : Reading JsonNumber :=
  match cs.takeWhile isDigit, cs.dropWhile isDigit with
  | [], [] => faultAtEnd .endInValue
  | [], c :: rest => faultHere .invalidNumber (c :: rest)
  | digits, rest => readFloatEnd (s.pushFraction digits) negative rest

/-- A whole numeral, which is an `int` unless it is too large or a negative zero. -/
def wholeNumber (n : Nat) (negative : Bool) : JsonNumber :=
  if !negative then .int n
  else if n = 0 ∨ 9223372036854775808 < n then .float (-(UInt64.ofNat n).toFloat)
  else .int (-n)

/-- What follows the digits before the point. -/
def readNumeralEnd (s : Significand) (negative : Bool) (cs : List Char) : Reading JsonNumber :=
  match cs with
  | '.' :: rest => readFraction s negative rest
  | 'e' :: rest => readExponent s negative rest
  | 'E' :: rest => readExponent s negative rest
  | rest =>
      if s.scale = 0 then .ok (wholeNumber s.value negative, rest) else floatOf s negative rest

/-- A numeral after its sign.  A zero in front is followed by no digit. -/
def readNumeral (negative : Bool) (cs : List Char) : Reading JsonNumber :=
  match cs with
  | [] => faultAtEnd .endInValue
  | '0' :: rest =>
      match rest with
      | c :: _ => if isDigit c then faultHere .invalidNumber rest
          else readNumeralEnd ⟨0, 0⟩ negative rest
      | [] => readNumeralEnd ⟨0, 0⟩ negative rest
  | c :: rest =>
      if isDigit c then
        readNumeralEnd ((cs.takeWhile isDigit).foldl Significand.pushWhole ⟨0, 0⟩) negative
          (cs.dropWhile isDigit)
      else faultHere .invalidNumber (c :: rest)

/-! ## Texts -/

/-- The value of a digit in base sixteen. -/
def hexDigit? (c : Char) : Option Nat :=
  if '0' ≤ c ∧ c ≤ '9' then some (c.toNat - 48)
  else if 'a' ≤ c ∧ c ≤ 'f' then some (c.toNat - 87)
  else if 'A' ≤ c ∧ c ≤ 'F' then some (c.toNat - 55)
  else none

/-- The number of bytes that characters take. -/
def byteLength (cs : List Char) : Nat :=
  cs.foldl (fun n c => n + c.utf8Size) 0

/-- The fault of four bytes that are no code unit; fewer than four bytes are an unfinished
text. -/
def faultInUnit {α : Type} (cs : List Char) : Except Fault α :=
  if byteLength (cs.take 4) < 4 then faultAtEnd .endInText
  else .error ⟨.invalidEscape, cs, 4⟩

/-- A code unit of four digits. -/
def readUnit (cs : List Char) : Reading Nat :=
  match cs with
  | a :: b :: c :: d :: rest =>
      match hexDigit? a, hexDigit? b, hexDigit? c, hexDigit? d with
      | some a, some b, some c, some d => .ok (((a * 16 + b) * 16 + c) * 16 + d, rest)
      | _, _, _, _ => faultInUnit cs
  | _ => faultInUnit cs

/-- The second code unit of a pair, whose first is `high`. -/
def readLowUnit (high : Nat) (cs : List Char) : Reading Char :=
  match cs with
  | [] => faultAtEnd .endInText
  | ['\\'] => faultAtEnd .endInText
  | '\\' :: 'u' :: rest =>
      match readUnit rest with
      | .error fault => .error fault
      | .ok (low, after) =>
          if 0xDC00 ≤ low ∧ low ≤ 0xDFFF then
            .ok (Char.ofNat ((high - 0xD800) * 0x400 + (low - 0xDC00) + 0x10000), after)
          else faultBefore .loneSurrogate after
  | '\\' :: rest => faultHere .unfinishedSurrogate rest
  | rest => faultHere .unfinishedSurrogate rest

/-- A character given by code units, after `\u`. -/
def readCodeUnits (cs : List Char) : Reading Char :=
  match readUnit cs with
  | .error fault => .error fault
  | .ok (unit, rest) =>
      if 0xDC00 ≤ unit ∧ unit ≤ 0xDFFF then faultBefore .loneSurrogate rest
      else if 0xD800 ≤ unit ∧ unit ≤ 0xDBFF then readLowUnit unit rest
      else .ok (Char.ofNat unit, rest)

/-- An escape after its backslash. -/
def readEscape (cs : List Char) : Reading Char :=
  match cs with
  | [] => faultAtEnd .endInText
  | '"' :: rest => .ok ('"', rest)
  | '\\' :: rest => .ok ('\\', rest)
  | '/' :: rest => .ok ('/', rest)
  | 'b' :: rest => .ok ('\x08', rest)
  | 'f' :: rest => .ok ('\x0c', rest)
  | 'n' :: rest => .ok ('\n', rest)
  | 'r' :: rest => .ok ('\r', rest)
  | 't' :: rest => .ok ('\t', rest)
  | 'u' :: rest => readCodeUnits rest
  | c :: rest => faultHere .invalidEscape (c :: rest)

/-- The characters of a text up to its closing quote, after the ones in `done`, which stand in
reverse. -/
def readCharacters (done : List Char) : Nat → List Char → Reading (List Char)
  | 0, _ => faultAtEnd .endInText
  | _ + 1, [] => faultAtEnd .endInText
  | bound + 1, c :: cs =>
      if c = '"' then .ok (done.reverse, cs)
      else if c = '\\' then
        match readEscape cs with
        | .error fault => .error fault
        | .ok (e, rest) => readCharacters (e :: done) bound rest
      else if c.toNat < 0x20 then faultHere .controlCharacter (c :: cs)
      else readCharacters (c :: done) bound cs

/-- A text after its opening quote. -/
def readText (bound : Nat) (cs : List Char) : Reading String :=
  match readCharacters [] bound cs with
  | .error fault => .error fault
  | .ok (characters, rest) => .ok (String.ofList characters, rest)

end GameScenes.Json
