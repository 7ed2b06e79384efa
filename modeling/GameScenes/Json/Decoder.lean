import GameScenes.Json.Reader
import GameScenes.Json.Printer
import GameScenes.Text.Quoted

/-!
# Decoding values into records

A decoder turns a value into something else or says what is wrong and where.  A record is decoded
by its list of fields: from an object, whose members are taken in their order and whose unknown
keys are passed over, or from an array, whose items fill the fields in their order.  Fields that
do not occur keep the value of the record that decoding starts from.
-/

set_option autoImplicit false

namespace GameScenes.Json

/-- What a value is, as a fault names it. -/
def described : Json → String
  | null => "null"
  | bool true => "boolean `true`"
  | bool false => "boolean `false`"
  | number (.int n) => "integer `" ++ Number.intText n ++ "`"
  | number float => "floating point `" ++ String.ofList (numberChars float) ++ "`"
  | text s => "string " ++ Text.quote s
  | array _ => "sequence"
  | object _ => "map"

/-- Why a value is not what it is decoded as. -/
inductive Cause where
  | wrongKind (found : Json) (wanted : String)
  | outOfRange (found : Int) (wanted : String)
  | duplicateField (name : String)
  | missingField (name : String)
  | tooManyItems (count : Nat)
  | tooFewItems (count : Nat) (record : String) (fields : Nat)
  | noForm (name : String)

def Cause.message : Cause → String
  | wrongKind found wanted => "invalid type: " ++ found.described ++ ", expected " ++ wanted
  | outOfRange found wanted =>
      "invalid value: integer `" ++ Number.intText found ++ "`, expected " ++ wanted
  | duplicateField name => "duplicate field `" ++ name ++ "`"
  | missingField name => "missing field `" ++ name ++ "`"
  | tooManyItems count =>
      "invalid length " ++ Number.natText count ++ ", expected fewer elements in array"
  | tooFewItems count record fields =>
      "invalid length " ++ Number.natText count ++ ", expected struct " ++ record ++ " with " ++
        Number.natText fields ++ (if fields = 1 then " element" else " elements")
  | noForm name => "data did not match any variant of untagged enum " ++ name

/-- A cause and the steps to the value that it concerns. -/
structure DecodeFault where
  path : List Step
  cause : Cause

/-- A path as text: keys after points, positions in brackets. -/
def pathText : List Step → String
  | [] => ""
  | .index position :: rest => "[" ++ Number.natText position ++ "]" ++ pathText rest
  | .key name :: rest => "." ++ name ++ pathText rest

/-- A turn of a value into something else. -/
abbrev Decoder (α : Type) := Json → Except DecodeFault α

/-- The fault of the value itself. -/
def fail {α : Type} (cause : Cause) : Except DecodeFault α := .error ⟨[], cause⟩

/-- A result whose faults lie one step further in. -/
def under {α : Type} (step : Step) : Except DecodeFault α → Except DecodeFault α
  | .ok a => .ok a
  | .error fault => .error ⟨step :: fault.path, fault.cause⟩

namespace Decoder

def value : Decoder Json := fun j => .ok j

def text : Decoder String
  | .text s => .ok s
  | j => fail (.wrongKind j "a string")

/-- A truth value. -/
def flag : Decoder Bool
  | .bool b => .ok b
  | j => fail (.wrongKind j "a boolean")

/-- A number, rounded to a single. -/
def single : Decoder Float32
  | .number (.int n) => .ok (Number.singleOfInt n)
  | .number (.float x) => .ok (Number.narrow x)
  | .number (.single x) => .ok x
  | j => fail (.wrongKind j "f32")

def whole (low high : Int) (wanted : String) : Decoder Int
  | .number (.int n) =>
      if low ≤ n ∧ n ≤ high then .ok n else fail (.outOfRange n wanted)
  | j => fail (.wrongKind j wanted)

/-- A whole number of 32 bits without a sign. -/
def word : Decoder UInt32 := fun j =>
  (whole 0 4294967295 "u32" j).map fun n => UInt32.ofNat n.toNat

/-- A whole number of 32 bits with a sign. -/
def signedWord : Decoder Int := whole (-2147483648) 2147483647 "i32"

/-- A value that `null` leaves out. -/
def optional {α : Type} (decode : Decoder α) : Decoder (Option α)
  | .null => .ok none
  | j => (decode j).map some

/-- A value that is turned into another one. -/
def mapped {α β : Type} (decode : Decoder α) (f : α → β) : Decoder β := fun j =>
  (decode j).map f

/-- The items of an array from a position on. -/
def items {α : Type} (decode : Decoder α) : Nat → List Json → Except DecodeFault (List α)
  | _, [] => .ok []
  | position, j :: rest =>
      match under (.index position) (decode j) with
      | .error fault => .error fault
      | .ok a => (items decode (position + 1) rest).map (a :: ·)

def list {α : Type} (decode : Decoder α) : Decoder (List α)
  | .array js => items decode 0 js
  | j => fail (.wrongKind j "a sequence")

/-- The members of an object in their order. -/
def members {α : Type} (decode : Decoder α) :
    List (String × Json) → Except DecodeFault (List (String × α))
  | [] => .ok []
  | (key, j) :: rest =>
      match under (.key key) (decode j) with
      | .error fault => .error fault
      | .ok a => (members decode rest).map ((key, a) :: ·)

/-- An object with keys of any spelling. -/
def dictionary {α : Type} (decode : Decoder α) : Decoder (List (String × α))
  | .object ms => members decode ms
  | j => fail (.wrongKind j "a map")

end Decoder

/-! ## Records -/

/-- A field of a record: its name, further keys that stand for it, and how a value is put into
the record. -/
structure RecordField (ρ : Type) where
  name : String
  aliases : List String
  /-- Whether the record is faulty without the field. -/
  required : Bool
  assign : Json → ρ → Except DecodeFault ρ

namespace RecordField

/-- A field that may be left out. -/
def of {ρ α : Type} (name : String) (decode : Decoder α) (put : α → ρ → ρ) : RecordField ρ :=
  ⟨name, [], false, fun j r => (decode j).map fun a => put a r⟩

def needed {ρ α : Type} (name : String) (decode : Decoder α) (put : α → ρ → ρ) : RecordField ρ :=
  ⟨name, [], true, fun j r => (decode j).map fun a => put a r⟩

/-- A field with further keys that stand for it. -/
def orElse {ρ : Type} (field : RecordField ρ) (aliases : List String) : RecordField ρ :=
  { field with aliases := aliases }

def answersTo {ρ : Type} (field : RecordField ρ) (key : String) : Bool :=
  field.name == key || field.aliases.contains key

end RecordField

namespace Decoder

variable {ρ : Type}

/-- Puts members into a record.  `seen` holds the names of the fields that were met. -/
def fillMembers (fields : List (RecordField ρ)) :
    List String → ρ → List (String × Json) → Except DecodeFault (List String × ρ)
  | seen, r, [] => .ok (seen, r)
  | seen, r, (key, j) :: rest =>
      match fields.find? (·.answersTo key) with
      | none => fillMembers fields seen r rest
      | some field =>
          if seen.contains field.name then fail (.duplicateField field.name)
          else
            match under (.key key) (field.assign j r) with
            | .error fault => .error fault
            | .ok next => fillMembers fields (field.name :: seen) next rest

/-- Puts items into the fields of a record in their order. -/
def fillItems (name : String) (count : Nat) :
    Nat → List (RecordField ρ) → ρ → List Json → Except DecodeFault ρ
  | _, [], r, [] => .ok r
  | position, [], _, rest => fail (.tooManyItems (position + rest.length))
  | position, field :: fields, r, [] =>
      if field.required then fail (.tooFewItems position name count)
      else fillItems name count (position + 1) fields r []
  | position, field :: fields, r, j :: rest =>
      match under (.index position) (field.assign j r) with
      | .error fault => .error fault
      | .ok next => fillItems name count (position + 1) fields next rest

/-- A record with the given fields, which starts as `blank`. -/
def record (name : String) (fields : List (RecordField ρ)) (blank : ρ) : Decoder ρ
  | .object ms =>
      match fillMembers fields [] blank ms with
      | .error fault => .error fault
      | .ok (seen, r) =>
          match fields.find? fun field => field.required && !seen.contains field.name with
          | some field => fail (.missingField field.name)
          | none => .ok r
  | .array js => fillItems name fields.length 0 fields blank js
  | j => fail (.wrongKind j ("struct " ++ name))

end Decoder

end GameScenes.Json
