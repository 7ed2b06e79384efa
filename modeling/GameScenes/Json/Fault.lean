import GameScenes.Number.Digits

/-!
# Faults of Json text

A fault names what is wrong and where reading stopped: the unread characters and the number of
bytes that were looked at beyond them.  Lines count from one; a column is the number of bytes
since the last line feed.
-/

set_option autoImplicit false

namespace GameScenes.Json

/-- What is wrong with a text. -/
inductive FaultKind where
  | endInValue
  | endInArray
  | endInObject
  | endInText
  | expectedColon
  | expectedCommaOrBracket
  | expectedCommaOrBrace
  | expectedValue
  | expectedWord
  | invalidEscape
  | invalidNumber
  | numberOutOfRange
  | controlCharacter
  | keyNotText
  | loneSurrogate
  | unfinishedSurrogate
  | trailingComma
  | trailingCharacters
  | nestedTooDeeply
  deriving DecidableEq, Repr

/-- Whether the text ended before the value did. -/
def FaultKind.isEnd : FaultKind → Bool
  | endInValue | endInArray | endInObject | endInText => true
  | _ => false

def FaultKind.message : FaultKind → String
  | endInValue => "EOF while parsing a value"
  | endInArray => "EOF while parsing a list"
  | endInObject => "EOF while parsing an object"
  | endInText => "EOF while parsing a string"
  | expectedColon => "expected `:`"
  | expectedCommaOrBracket => "expected `,` or `]`"
  | expectedCommaOrBrace => "expected `,` or `\x7d`"
  | expectedValue => "expected value"
  | expectedWord => "expected ident"
  | invalidEscape => "invalid escape"
  | invalidNumber => "invalid number"
  | numberOutOfRange => "number out of range"
  | controlCharacter => "control character (\\u0000-\\u001F) found while parsing a string"
  | keyNotText => "key must be a string"
  | loneSurrogate => "lone leading surrogate in hex escape"
  | unfinishedSurrogate => "unexpected end of hex escape"
  | trailingComma => "trailing comma"
  | trailingCharacters => "trailing characters"
  | nestedTooDeeply => "recursion limit exceeded"

/-- A fault with the place where reading stopped. -/
structure Fault where
  kind : FaultKind
  /-- The characters that were not read. -/
  unread : List Char
  /-- The bytes of `unread` that were looked at. -/
  seen : Nat

/-- The result of reading one thing from the front of a text, with the characters after it. -/
abbrev Reading (α : Type) := Except Fault (α × List Char)

/-- A fault of the first unread character. -/
def faultHere {α : Type} (kind : FaultKind) (unread : List Char) : Except Fault α :=
  .error ⟨kind, unread, 1⟩

/-- A fault found when everything before the unread characters had been read. -/
def faultBefore {α : Type} (kind : FaultKind) (unread : List Char) : Except Fault α :=
  .error ⟨kind, unread, 0⟩

/-- The fault of a text that ends too early. -/
def faultAtEnd {α : Type} (kind : FaultKind) : Except Fault α :=
  .error ⟨kind, [], 0⟩

/-- A place in a text. -/
structure Location where
  line : Nat
  column : Nat
  deriving DecidableEq, Repr

namespace Location

/-- The place before the first character. -/
def start : Location := ⟨1, 0⟩

/-- The place after one more character. -/
def after (place : Location) (c : Char) : Location :=
  if c = '\n' then ⟨place.line + 1, 0⟩ else ⟨place.line, place.column + c.utf8Size⟩

/-- The place `bytes` bytes further on in `cs`. -/
def afterBytes (place : Location) (bytes : Nat) : List Char → Location
  | [] => place
  | c :: cs =>
      if bytes = 0 then place
      else if bytes < c.utf8Size then ⟨place.line, place.column + bytes⟩
      else (place.after c).afterBytes (bytes - c.utf8Size) cs

def text (place : Location) : String :=
  "line " ++ Number.natText place.line ++ ", column " ++ Number.natText place.column

end Location

/-- The place of a fault in the text `cs`. -/
def Fault.location (fault : Fault) (cs : List Char) : Location :=
  let read := cs.take (cs.length - fault.unread.length)
  (read.foldl Location.after Location.start).afterBytes fault.seen fault.unread

/-- A fault in words, with its place. -/
def Fault.message (fault : Fault) (cs : List Char) : String :=
  let place := fault.location cs
  fault.kind.message ++ " at line " ++ Number.natText place.line ++ " column " ++
    Number.natText place.column

end GameScenes.Json
