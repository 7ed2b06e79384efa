import GameScenes.Json.Lexeme

/-!
# Passing over Json values

A value that nobody asks for is passed over without being built.  Its shape is still checked, but
numbers may be of any size, escaped code units need not form characters, and containers may be
nested to any depth.

The loops over characters take a bound on their number, which is that of the whole text.
-/

set_option autoImplicit false

namespace GameScenes.Json

/-- Whether a character makes an escape on its own after a backslash. -/
def isShortEscape (c : Char) : Bool :=
  c = '"' || c = '\\' || c = '/' || c = 'b' || c = 'f' || c = 'n' || c = 'r' || c = 't'

/-- The rest after an escape whose backslash was read. -/
def skipEscape : List Char → Except Fault (List Char)
  | [] => faultAtEnd .endInText
  | c :: cs =>
      if isShortEscape c then .ok cs
      else if c = 'u' then (readUnit cs).map (·.2)
      else faultHere .invalidEscape (c :: cs)

/-- The rest after the closing quote of a text. -/
def skipText : Nat → List Char → Except Fault (List Char)
  | 0, _ => faultAtEnd .endInText
  | _ + 1, [] => faultAtEnd .endInText
  | bound + 1, c :: cs =>
      if c = '"' then .ok cs
      else if c = '\\' then
        match skipEscape cs with
        | .error fault => .error fault
        | .ok rest => skipText bound rest
      else if c.toNat < 0x20 then faultHere .controlCharacter (c :: cs)
      else skipText bound cs

/-- The rest after digits, the first of which has to be there. -/
def skipDigits : List Char → Except Fault (List Char)
  | [] => faultHere .invalidNumber []
  | c :: cs =>
      if Number.isDigit c then .ok (cs.dropWhile Number.isDigit)
      else faultHere .invalidNumber (c :: cs)

/-- The rest after an exponent whose `e` was read. -/
def skipExponent : List Char → Except Fault (List Char)
  | '+' :: cs => skipDigits cs
  | '-' :: cs => skipDigits cs
  | cs => skipDigits cs

/-- The rest after an exponent, if there is one. -/
def skipExponent? : List Char → Except Fault (List Char)
  | 'e' :: cs => skipExponent cs
  | 'E' :: cs => skipExponent cs
  | cs => .ok cs

/-- The rest after a fraction and an exponent, as far as they are there. -/
def skipNumeralEnd : List Char → Except Fault (List Char)
  | '.' :: cs =>
      match skipDigits cs with
      | .error fault => .error fault
      | .ok rest => skipExponent? rest
  | cs => skipExponent? cs

/-- The rest after a numeral whose sign was read.  A zero in front is followed by no digit. -/
def skipNumeral : List Char → Except Fault (List Char)
  | '0' :: cs =>
      match cs with
      | c :: rest => if Number.isDigit c then faultHere .invalidNumber (c :: rest)
          else skipNumeralEnd cs
      | [] => .ok []
  | cs =>
      match skipDigits cs with
      | .error fault => .error fault
      | .ok rest => skipNumeralEnd rest

mutual

/-- The rest after a value; `length` is a bound on the characters of the text. -/
def skipValue (length : Nat) : Nat → List Char → Except Fault (List Char)
  | 0, _ => faultAtEnd .endInValue
  | bound + 1, cs =>
      match skipSpace cs with
      | [] => faultAtEnd .endInValue
      | '[' :: rest =>
          match skipSpace rest with
          | [] => faultAtEnd .endInArray
          | ']' :: after => .ok after
          | items => skipItems length bound items
      | '\x7b' :: rest =>
          match skipSpace rest with
          | [] => faultAtEnd .endInObject
          | '\x7d' :: after => .ok after
          | members => skipMembers length bound members
      | 'n' :: rest => readWord ['u', 'l', 'l'] rest
      | 't' :: rest => readWord ['r', 'u', 'e'] rest
      | 'f' :: rest => readWord ['a', 'l', 's', 'e'] rest
      | '"' :: rest => skipText length rest
      | '-' :: rest => skipNumeral rest
      | c :: rest =>
          if Number.isDigit c then skipNumeral (c :: rest)
          else faultHere .expectedValue (c :: rest)

/-- The rest after the items of an array, the first of which has to be there. -/
def skipItems (length : Nat) : Nat → List Char → Except Fault (List Char)
  | 0, _ => faultAtEnd .endInArray
  | bound + 1, cs =>
      match skipValue length bound cs with
      | .error fault => .error fault
      | .ok rest =>
          match skipSpace rest with
          | [] => faultAtEnd .endInArray
          | ']' :: after => .ok after
          | ',' :: after => skipItems length bound after
          | other => faultHere .expectedCommaOrBracket other

/-- The rest after the members of an object, the first of which has to be there. -/
def skipMembers (length : Nat) : Nat → List Char → Except Fault (List Char)
  | 0, _ => faultAtEnd .endInObject
  | bound + 1, cs =>
      match skipSpace cs with
      | [] => faultAtEnd .endInObject
      | '"' :: rest =>
          match skipText length rest with
          | .error fault => .error fault
          | .ok rest =>
              match skipSpace rest with
              | [] => faultAtEnd .endInObject
              | ':' :: after =>
                  match skipValue length bound after with
                  | .error fault => .error fault
                  | .ok rest =>
                      match skipSpace rest with
                      | [] => faultAtEnd .endInObject
                      | '\x7d' :: after => .ok after
                      | ',' :: after => skipMembers length bound after
                      | other => faultHere .expectedCommaOrBrace other
              | other => faultHere .expectedColon other
      | other => faultHere .keyNotText other

end

/-- The rest after a value of at most `length` characters.  Every level of a value takes two
steps and at least one character. -/
def skip (length : Nat) (cs : List Char) : Except Fault (List Char) :=
  skipValue (length + 1) (2 * length + 2) cs

end GameScenes.Json
