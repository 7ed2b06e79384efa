import GameScenes.Json.Basic
import GameScenes.Number.Written

/-!
# Printing Json

`compact` writes a value without blanks, as messages show it.  `pretty` gives every item and
member a line of its own, indented by two blanks per level, as files hold it.  Empty containers
stay on one line in both.
-/

set_option autoImplicit false

namespace GameScenes.Json

/-- A digit in base sixteen. -/
def hexDigit (n : Nat) : Char :=
  if n < 10 then Char.ofNat (48 + n) else Char.ofNat (87 + n)

/-- How one character stands in a text. -/
def escapeChar (c : Char) : List Char :=
  match c with
  | '"' => ['\\', '"']
  | '\\' => ['\\', '\\']
  | '\x08' => ['\\', 'b']
  | '\x0c' => ['\\', 'f']
  | '\n' => ['\\', 'n']
  | '\r' => ['\\', 'r']
  | '\t' => ['\\', 't']
  | c =>
      if c.toNat < 0x20 then
        ['\\', 'u', '0', '0', hexDigit (c.toNat / 16), hexDigit (c.toNat % 16)]
      else [c]

/-- A text between its quotes. -/
def textChars (s : String) : List Char :=
  '"' :: s.toList.flatMap escapeChar ++ ['"']

/-- A number; a float that is not finite has no numeral. -/
def numberChars : JsonNumber → List Char
  | .int n => (Number.intText n).toList
  | .float x => ((Number.doubleText? x).getD "null").toList
  | .single x => ((Number.singleText? x).getD "null").toList

mutual

/-- The characters of a value without blanks. -/
def compactChars : Json → List Char
  | null => ['n', 'u', 'l', 'l']
  | bool true => ['t', 'r', 'u', 'e']
  | bool false => ['f', 'a', 'l', 's', 'e']
  | number n => numberChars n
  | text s => textChars s
  | array [] => ['[', ']']
  | array (item :: rest) => '[' :: compactChars item ++ compactItems rest
  | object [] => ['\x7b', '\x7d']
  | object ((key, value) :: rest) =>
      '\x7b' :: textChars key ++ ':' :: compactChars value ++ compactMembers rest

/-- Further items up to the closing bracket. -/
def compactItems : List Json → List Char
  | [] => [']']
  | item :: rest => ',' :: compactChars item ++ compactItems rest

/-- Further members up to the closing brace. -/
def compactMembers : List (String × Json) → List Char
  | [] => ['\x7d']
  | (key, value) :: rest =>
      ',' :: textChars key ++ ':' :: compactChars value ++ compactMembers rest

end

def newLine (depth : Nat) : List Char :=
  '\n' :: List.replicate (2 * depth) ' '

mutual

/-- The characters of a value that stands at a depth. -/
def prettyChars (depth : Nat) : Json → List Char
  | null => ['n', 'u', 'l', 'l']
  | bool true => ['t', 'r', 'u', 'e']
  | bool false => ['f', 'a', 'l', 's', 'e']
  | number n => numberChars n
  | text s => textChars s
  | array [] => ['[', ']']
  | array (item :: rest) =>
      '[' :: newLine (depth + 1) ++ prettyChars (depth + 1) item ++ prettyItems depth rest
  | object [] => ['\x7b', '\x7d']
  | object ((key, value) :: rest) =>
      '\x7b' :: newLine (depth + 1) ++ textChars key ++ ':' :: ' ' ::
        prettyChars (depth + 1) value ++ prettyMembers depth rest

/-- Further items up to the closing bracket of an array at a depth. -/
def prettyItems (depth : Nat) : List Json → List Char
  | [] => newLine depth ++ [']']
  | item :: rest =>
      ',' :: newLine (depth + 1) ++ prettyChars (depth + 1) item ++ prettyItems depth rest

/-- Further members up to the closing brace of an object at a depth. -/
def prettyMembers (depth : Nat) : List (String × Json) → List Char
  | [] => newLine depth ++ ['\x7d']
  | (key, value) :: rest =>
      ',' :: newLine (depth + 1) ++ textChars key ++ ':' :: ' ' ::
        prettyChars (depth + 1) value ++ prettyMembers depth rest

end

/-- A value on one line without blanks. -/
def compact (j : Json) : String := String.ofList j.compactChars

/-- A value with a line for every entry. -/
def pretty (j : Json) : String := String.ofList (j.prettyChars 0)

end GameScenes.Json
