/-!
# Texts up to ASCII case

Names are compared exactly first and then up to the case of the letters `A` to `Z`; other
letters have no case here.
-/

set_option autoImplicit false

namespace GameScenes.Text

/-- A character with `A` to `Z` made small. -/
def lowerChar (c : Char) : Char :=
  if 'A' ≤ c ∧ c ≤ 'Z' then Char.ofNat (c.toNat + 32) else c

/-- A text with `A` to `Z` made small. -/
def lower (s : String) : String :=
  String.ofList (s.toList.map lowerChar)

/-- Whether two texts differ at most in the case of ASCII letters. -/
def sameLetters (s t : String) : Bool :=
  s.toList.map lowerChar == t.toList.map lowerChar

/-- Whether `part` stands somewhere in the characters `cs`. -/
def occursIn (part : List Char) : List Char → Bool
  | [] => part.isEmpty
  | c :: cs => part.isPrefixOf (c :: cs) || occursIn part cs

/-- Whether `part` stands somewhere in `s`. -/
def mentions (s part : String) : Bool :=
  occursIn part.toList s.toList

end GameScenes.Text
