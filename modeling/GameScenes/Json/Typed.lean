import GameScenes.Json.Decoder
import GameScenes.Json.Skipped

/-!
# Reading records from text

A typed reader turns the front of a text into a record without building the value that is written
there, so that a fault of the text and a fault of the record are found in the order of the text.
A record is read from an object, whose unknown members are passed over and whose known members
occur once, or from an array, whose items fill the fields in their order.
-/

set_option autoImplicit false

namespace GameScenes.Json

/-- Why a text is no record. -/
inductive TypedFault where
  | text (fault : Fault)
  | value (cause : Cause)

def TypedFault.message : TypedFault → String
  | text fault => fault.kind.message
  | value cause => cause.message

/-- A reader of the front of a text.  Its first argument is a bound on the length of the text. -/
abbrev TypedReader (α : Type) := Nat → List Char → Except TypedFault (α × List Char)

def typedFault {α : Type} (kind : FaultKind) (unread : List Char) : Except TypedFault α :=
  .error (.text ⟨kind, unread, 1⟩)

namespace TypedReader

/-- A value without entries; a container is only opened. -/
def head (length : Nat) (cs : List Char) : Except TypedFault (Json × List Char) :=
  match skipSpace cs with
  | '[' :: rest => .ok (.array [], rest)
  | '\x7b' :: rest => .ok (.object [], rest)
  | other =>
      match readValue none length 0 [] other with
      | .ok result => .ok result
      | .error (.faulty fault) => .error (.text fault)
      | .error (.crowded _) => typedFault .expectedValue other

/-- What a decoder turns a value without entries into. -/
def ofDecoder {α : Type} (decode : Decoder α) : TypedReader α := fun length cs =>
  match head length cs with
  | .error fault => .error fault
  | .ok (value, rest) =>
      match decode value with
      | .ok a => .ok (a, rest)
      | .error fault => .error (.value fault.cause)

def text : TypedReader String := ofDecoder Decoder.text

/-- A truth value. -/
def flag : TypedReader Bool := ofDecoder Decoder.flag

/-- A whole number of 32 bits without a sign. -/
def word : TypedReader UInt32 := ofDecoder Decoder.word

/-- Something that `null` leaves out. -/
def optional {α : Type} (reader : TypedReader α) : TypedReader (Option α) := fun length cs =>
  match skipSpace cs with
  | 'n' :: rest =>
      match readWord ['u', 'l', 'l'] rest with
      | .ok after => .ok (none, after)
      | .error fault => .error (.text fault)
  | other => (reader length other).map fun (a, rest) => (some a, rest)

/-- Something that is turned into another thing. -/
def mapped {α β : Type} (reader : TypedReader α) (f : α → β) : TypedReader β := fun length cs =>
  (reader length cs).map fun (a, rest) => (f a, rest)

/-! ## Arrays -/

/-- The way on in an array: whether there is one more item, and the characters after the comma or
the bracket. -/
def nextItem (first : Bool) (cs : List Char) : Except TypedFault (Bool × List Char) :=
  match skipSpace cs with
  | [] => typedFault .endInArray []
  | ']' :: rest => .ok (false, rest)
  | other =>
      if first then .ok (true, other)
      else
        match other with
        | ',' :: rest =>
            match skipSpace rest with
            | [] => typedFault .endInValue []
            | ']' :: more => typedFault .trailingComma (']' :: more)
            | item => .ok (true, item)
        | _ => typedFault .expectedCommaOrBracket other

/-- The end of an array no more items of which are asked for. -/
def closeArray (cs : List Char) : Except TypedFault (List Char) :=
  match skipSpace cs with
  | [] => typedFault .endInArray []
  | ']' :: rest => .ok rest
  | ',' :: rest =>
      match skipSpace rest with
      | ']' :: more => typedFault .trailingComma (']' :: more)
      | other => typedFault .trailingCharacters other
  | other => typedFault .trailingCharacters other

/-- The items of an array from the place of one on. -/
def items {α : Type} (reader : TypedReader α) (length : Nat) (first : Bool) :
    Nat → List Char → Except TypedFault (List α × List Char)
  | 0, _ => typedFault .endInArray []
  | bound + 1, cs =>
      match nextItem first cs with
      | .error fault => .error fault
      | .ok (false, rest) => .ok ([], rest)
      | .ok (true, item) =>
          match reader length item with
          | .error fault => .error fault
          | .ok (a, rest) =>
              (items reader length false bound rest).map fun (as, rest) => (a :: as, rest)

def list {α : Type} (reader : TypedReader α) : TypedReader (List α) := fun length cs =>
  match head length cs with
  | .error fault => .error fault
  | .ok (.array _, rest) => items reader length true (length + 1) rest
  | .ok (other, _) => .error (.value (.wrongKind other "a sequence"))

end TypedReader

/-! ## Records -/

/-- A field of a record that is read from text. -/
structure TypedField (ρ : Type) where
  name : String
  /-- Whether the record is faulty without the field. -/
  required : Bool
  assign : ρ → TypedReader ρ

namespace TypedField

/-- A field that may be left out. -/
def of {ρ α : Type} (name : String) (reader : TypedReader α) (put : α → ρ → ρ) : TypedField ρ :=
  ⟨name, false, fun r => reader.mapped fun a => put a r⟩

def needed {ρ α : Type} (name : String) (reader : TypedReader α) (put : α → ρ → ρ) :
    TypedField ρ :=
  ⟨name, true, fun r => reader.mapped fun a => put a r⟩

end TypedField

namespace TypedReader

variable {ρ : Type}

/-- The way on in an object: whether there is one more member, and the characters after the quote
of its key or after the brace. -/
def nextKey (first : Bool) (cs : List Char) : Except TypedFault (Bool × List Char) :=
  match skipSpace cs with
  | [] => typedFault .endInObject []
  | '\x7d' :: rest => .ok (false, rest)
  | '"' :: rest =>
      if first then .ok (true, rest) else typedFault .expectedCommaOrBrace ('"' :: rest)
  | ',' :: rest =>
      if first then typedFault .keyNotText (',' :: rest)
      else
        match skipSpace rest with
        | [] => typedFault .endInValue []
        | '"' :: key => .ok (true, key)
        | '\x7d' :: more => typedFault .trailingComma ('\x7d' :: more)
        | other => typedFault .keyNotText other
  | other => typedFault (if first then .keyNotText else .expectedCommaOrBrace) other

/-- A key after its quote, with the characters before the colon. -/
def key (length : Nat) (cs : List Char) : Except TypedFault (String × List Char) :=
  match readText (length + 1) cs with
  | .ok result => .ok result
  | .error fault => .error (.text fault)

/-- The characters after a colon. -/
def colon (cs : List Char) : Except TypedFault (List Char) :=
  match skipSpace cs with
  | [] => typedFault .endInObject []
  | ':' :: rest => .ok rest
  | other => typedFault .expectedColon other

/-- The value of a member with a key: put into the record if the key is a field's, else passed
over. -/
def memberValue (fields : List (TypedField ρ)) (length : Nat) (seen : List String) (r : ρ)
    (name : String) (cs : List Char) : Except TypedFault ((List String × ρ) × List Char) :=
  match fields.find? (·.name == name) with
  | none =>
      match colon cs with
      | .error fault => .error fault
      | .ok value =>
          match skip length value with
          | .ok rest => .ok ((seen, r), rest)
          | .error fault => .error (.text fault)
  | some field =>
      if seen.contains name then .error (.value (.duplicateField name))
      else
        match colon cs with
        | .error fault => .error fault
        | .ok value => (field.assign r length value).map fun (r, rest) => ((name :: seen, r), rest)

/-- The members of an object from the place of one on, put into a record; `seen` holds the names
of the fields that were met. -/
def fillMembers (fields : List (TypedField ρ)) (length : Nat) :
    Bool → List String → ρ → Nat → List Char →
      Except TypedFault ((List String × ρ) × List Char)
  | _, _, _, 0, _ => typedFault .endInObject []
  | first, seen, r, bound + 1, cs =>
      match nextKey first cs with
      | .error fault => .error fault
      | .ok (false, rest) => .ok ((seen, r), rest)
      | .ok (true, text) =>
          match key length text with
          | .error fault => .error fault
          | .ok (name, rest) =>
              match memberValue fields length seen r name rest with
              | .error fault => .error fault
              | .ok ((seen, r), rest) => fillMembers fields length false seen r bound rest

/-- The items of an array, put into the fields of a record in their order.  Once the array has
ended, the fields left over must not be required. -/
def fillItems (name : String) (count length : Nat) :
    Nat → List (TypedField ρ) → ρ → List Char → Except TypedFault (ρ × List Char)
  | _, [], r, cs => (closeArray cs).map fun rest => (r, rest)
  | position, field :: fields, r, cs =>
      match nextItem (position = 0) cs with
      | .error fault => .error fault
      | .ok (false, rest) =>
          match ((field :: fields).zipIdx position).find? (·.1.required) with
          | some (_, missing) => .error (.value (.tooFewItems missing name count))
          | none => .ok (r, rest)
      | .ok (true, item) =>
          match field.assign r length item with
          | .error fault => .error fault
          | .ok (r, rest) => fillItems name count length (position + 1) fields r rest

/-- A record with the given fields, which starts as `blank`. -/
def record (name : String) (fields : List (TypedField ρ)) (blank : ρ) : TypedReader ρ :=
  fun length cs =>
    match head length cs with
    | .error fault => .error fault
    | .ok (.object _, rest) =>
        match fillMembers fields length true [] blank (length + 1) rest with
        | .error fault => .error fault
        | .ok ((seen, r), rest) =>
            match fields.find? fun field => field.required && !seen.contains field.name with
            | some field => .error (.value (.missingField field.name))
            | none => .ok (r, rest)
    | .ok (.array _, rest) => fillItems name fields.length length 0 fields blank rest
    | .ok (other, _) => .error (.value (.wrongKind other ("struct " ++ name)))

/-- A whole text as a record. -/
def whole {α : Type} (reader : TypedReader α) (s : String) : Except TypedFault α :=
  let cs := s.toList
  match reader (cs.length + 1) cs with
  | .error fault => .error fault
  | .ok (a, rest) =>
      match skipSpace rest with
      | [] => .ok a
      | other => typedFault .trailingCharacters other

end TypedReader

end GameScenes.Json
