/-!
# Json values

A value keeps the members of an object in the order in which they were written, repetitions
included.  Its canonical form has the members of every object in ascending order of their keys,
and of several members with one key only the last.  Whole numbers are kept apart from other
numbers: a numeral is an `int` exactly when it is written without point and exponent and fits
into 64 bits, with or without a sign.  Any other numeral is read as a double; singles occur in
values that are going to be written.
-/

set_option autoImplicit false

namespace GameScenes

/-- A number: a whole number of 64 bits, a finite double or a finite single. -/
inductive JsonNumber where
  | int (value : Int)
  | float (value : Float)
  | single (value : Float32)

/-- A Json value as written. -/
inductive Json where
  | null
  | bool (value : Bool)
  | number (value : JsonNumber)
  | text (value : String)
  | array (items : List Json)
  | object (members : List (String × Json))

namespace Json

/-- The kind of a value, with its article. -/
def kind : Json → String
  | null => "null"
  | bool _ => "a boolean"
  | number _ => "a number"
  | text _ => "a string"
  | array _ => "an array"
  | object _ => "an object"

/-- Of neighbouring members with one key only the last. -/
def keepLast {α : Type} : List (String × α) → List (String × α)
  | [] => []
  | [m] => [m]
  | m :: next :: rest =>
      if m.1 = next.1 then keepLast (next :: rest) else m :: keepLast (next :: rest)

/-- Members in ascending order of their keys; of several members with one key the one written
last. -/
def sortMembers {α : Type} (members : List (String × α)) : List (String × α) :=
  keepLast (members.mergeSort fun a b => !decide (b.1 < a.1))

mutual

/-- The canonical form of a value. -/
def canonical : Json → Json
  | null => null
  | bool b => bool b
  | number n => number n
  | text s => text s
  | array items => array (canonicalItems items)
  | object members => object (sortMembers (canonicalMembers members))

def canonicalItems : List Json → List Json
  | [] => []
  | item :: rest => canonical item :: canonicalItems rest

/-- Members with their values in canonical form. -/
def canonicalMembers : List (String × Json) → List (String × Json)
  | [] => []
  | (key, value) :: rest => (key, canonical value) :: canonicalMembers rest

end

/-- The value of a member of an object. -/
def get? (j : Json) (key : String) : Option Json :=
  match j with
  | object members => members.lookup key
  | _ => none

def text? : Json → Option String
  | text s => some s
  | _ => none

def isNull : Json → Bool
  | null => true
  | _ => false

def isObject : Json → Bool
  | object _ => true
  | _ => false

end Json

end GameScenes
