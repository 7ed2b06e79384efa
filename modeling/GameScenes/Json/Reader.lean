import GameScenes.Json.Lexeme

/-!
# Reading Json text

`Json.read` reads a whole text as a value.  `Json.readBounded` reads it with a ceiling on the
number of items of an array and of members of an object and stops at the first container beyond
it: an array when the item after the ceiling has been read, an object when the key after the
ceiling has been read.  Both go through one reader, for which having no ceiling is a ceiling that
is never reached.  At most `nestingLimit` containers may be open at once.
-/

set_option autoImplicit false

namespace GameScenes.Json

/-- A step from a container to one of its entries. -/
inductive Step where
  | key (name : String)
  | index (position : Nat)
  deriving DecidableEq, Repr

/-- Why a text was not read: its Json is faulty, or a container holds too many entries.  The path
of the container starts with the last step. -/
inductive Trouble where
  | faulty (fault : Fault)
  | crowded (path : List Step)

/-- The result of reading one thing under a ceiling. -/
abbrev BoundedReading (α : Type) := Except Trouble (α × List Char)

/-- The number of containers that may be open at once. -/
def nestingLimit : Nat := 127

/-- Whether one more entry after `count` others is beyond the ceiling. -/
def beyond (ceiling : Option Nat) (count : Nat) : Bool :=
  match ceiling with
  | none => false
  | some limit => limit ≤ count

/-- A result of a reader that knows no ceiling. -/
def lift {α : Type} : Except Fault α → Except Trouble α
  | .ok result => .ok result
  | .error fault => .error (.faulty fault)

/-- The items of an array from one that has to be there, after the ones in `done`, which stand in
reverse. -/
def readItems (ceiling : Option Nat) (readEntry : List Step → List Char → BoundedReading Json)
    (path : List Step) (count : Nat) (done : List Json) :
    Nat → List Char → BoundedReading (List Json)
  | 0, _ => lift (faultAtEnd .endInArray)
  | bound + 1, cs =>
      match readEntry (.index count :: path) cs with
      | .error trouble => .error trouble
      | .ok (item, rest) =>
          if beyond ceiling count then .error (.crowded path)
          else
            match skipSpace rest with
            | [] => lift (faultAtEnd .endInArray)
            | ']' :: after => .ok ((item :: done).reverse, after)
            | ',' :: after =>
                match skipSpace after with
                | [] => lift (faultAtEnd .endInValue)
                | ']' :: more => lift (faultHere .trailingComma (']' :: more))
                | next =>
                    readItems ceiling readEntry path (count + 1) (item :: done) bound next
            | other => lift (faultHere .expectedCommaOrBracket other)

/-- The members of an object from one whose key has to be there. -/
def readMembers (ceiling : Option Nat) (length : Nat)
    (readEntry : List Step → List Char → BoundedReading Json)
    (path : List Step) (count : Nat) (done : List (String × Json)) :
    Nat → List Char → BoundedReading (List (String × Json))
  | 0, _ => lift (faultAtEnd .endInObject)
  | bound + 1, '"' :: cs =>
      match readText length cs with
      | .error fault => .error (.faulty fault)
      | .ok (key, rest) =>
          if beyond ceiling count then .error (.crowded path)
          else
            match skipSpace rest with
            | [] => lift (faultAtEnd .endInObject)
            | ':' :: after =>
                match readEntry (.key key :: path) after with
                | .error trouble => .error trouble
                | .ok (value, rest) =>
                    match skipSpace rest with
                    | [] => lift (faultAtEnd .endInObject)
                    | '\x7d' :: after => .ok (((key, value) :: done).reverse, after)
                    | ',' :: after =>
                        match skipSpace after with
                        | [] => lift (faultAtEnd .endInValue)
                        | '\x7d' :: more => lift (faultHere .trailingComma ('\x7d' :: more))
                        | next =>
                            readMembers ceiling length readEntry path (count + 1)
                              ((key, value) :: done) bound next
                    | other => lift (faultHere .expectedCommaOrBrace other)
            | other => lift (faultHere .expectedColon other)
  | _ + 1, other => lift (faultHere .keyNotText other)

/-- A value from the front of a text.  `room` is the number of containers that may still be
opened, `length` a bound on the characters of the text. -/
def readValue (ceiling : Option Nat) (length : Nat) (room : Nat) (path : List Step)
    (cs : List Char) : BoundedReading Json :=
  match skipSpace cs with
  | [] => lift (faultAtEnd .endInValue)
  | '[' :: rest =>
      match room with
      | 0 => lift (faultHere .nestedTooDeeply ('[' :: rest))
      | room + 1 =>
          match skipSpace rest with
          | [] => lift (faultAtEnd .endInArray)
          | ']' :: after => .ok (.array [], after)
          | next =>
              match readItems ceiling (readValue ceiling length room) path 0 [] length next with
              | .error trouble => .error trouble
              | .ok (items, after) => .ok (.array items, after)
  | '\x7b' :: rest =>
      match room with
      | 0 => lift (faultHere .nestedTooDeeply ('\x7b' :: rest))
      | room + 1 =>
          match skipSpace rest with
          | [] => lift (faultAtEnd .endInObject)
          | '\x7d' :: after => .ok (.object [], after)
          | next =>
              match readMembers ceiling length (readValue ceiling length room) path 0 [] length
                  next with
              | .error trouble => .error trouble
              | .ok (members, after) => .ok (.object members, after)
  | 'n' :: rest => lift ((readWord ['u', 'l', 'l'] rest).map fun after => (.null, after))
  | 't' :: rest => lift ((readWord ['r', 'u', 'e'] rest).map fun after => (.bool true, after))
  | 'f' :: rest =>
      lift ((readWord ['a', 'l', 's', 'e'] rest).map fun after => (.bool false, after))
  | '"' :: rest => lift ((readText length rest).map fun (s, after) => (.text s, after))
  | '-' :: rest => lift ((readNumeral true rest).map fun (n, after) => (.number n, after))
  | c :: rest =>
      if Number.isDigit c then
        lift ((readNumeral false (c :: rest)).map fun (n, after) => (.number n, after))
      else lift (faultHere .expectedValue (c :: rest))

/-- A whole text as the value that is written there. -/
def readWhole (ceiling : Option Nat) (cs : List Char) : Except Trouble Json :=
  match readValue ceiling (cs.length + 1) nestingLimit [] cs with
  | .error trouble => .error trouble
  | .ok (value, rest) =>
      match skipSpace rest with
      | [] => .ok value
      | other => lift (faultHere .trailingCharacters other)

/-- A text as a value in canonical form. -/
def read (cs : List Char) : Except Fault Json :=
  match readWhole none cs with
  | .ok value => .ok value.canonical
  | .error (.faulty fault) => .error fault
  | .error (.crowded _) => faultAtEnd .endInValue

/-- A text as a value in canonical form, no container of which has more than `limit` entries. -/
def readBounded (limit : Nat) (cs : List Char) : Except Trouble Json :=
  (readWhole (some limit) cs).map canonical

end GameScenes.Json
