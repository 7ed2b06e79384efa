import GameScenes.Proofs.Json.Numerals
import GameScenes.Proofs.Json.Readable

/-!
# Entries of containers

The items of an array and the members of an object are read in the same way: entries stand between
commas up to a closing character.  `readEntries` is this way of reading, of which those of the items
(`readItems_eq`) and of the members (`readMembers_eq`) are cases.
-/

set_option autoImplicit false

namespace GameScenes.Json

open GameScenes.Number (isDigit)

/-- What tells arrays from objects where their entries are read. -/
structure Bracket where
  close : Char
  /-- The fault of a text that ends before the container does. -/
  unfinished : FaultKind
  /-- The fault of an entry that something else follows. -/
  unseparated : FaultKind
  isEnd : unfinished.isEnd = true
  noComma : close ≠ ','

namespace Bracket

def array : Bracket := ⟨']', .endInArray, .expectedCommaOrBracket, rfl, by decide⟩

def object : Bracket := ⟨'\x7d', .endInObject, .expectedCommaOrBrace, rfl, by decide⟩

end Bracket

section
variable {α : Type}

/-- What follows an entry: the end of the container, or a comma with further entries behind it. -/
def afterEntry (bracket : Bracket) (all : List α)
    (further : List Char → BoundedReading (List α)) (cs : List Char) : BoundedReading (List α) :=
  match skipSpace cs with
  | [] => lift (faultAtEnd bracket.unfinished)
  | c :: after =>
      if c = bracket.close then .ok (all, after)
      else if c = ',' then
        match skipSpace after with
        | [] => lift (faultAtEnd .endInValue)
        | d :: next =>
            if d = bracket.close then lift (faultHere .trailingComma (d :: next))
            else further (d :: next)
      else lift (faultHere bracket.unseparated (c :: after))

/-- Entries from one that has to be there, after the ones in `done`, which stand in reverse. -/
def readEntries (bracket : Bracket) (entry : Nat → List Char → BoundedReading α) (count : Nat)
    (done : List α) : Nat → List Char → BoundedReading (List α)
  | 0, _ => lift (faultAtEnd bracket.unfinished)
  | bound + 1, cs =>
      match entry count cs with
      | .error trouble => .error trouble
      | .ok (a, rest) =>
          afterEntry bracket (a :: done).reverse
            (fun next => readEntries bracket entry (count + 1) (a :: done) bound next) rest

/-- A container after the character that opens it. -/
def readContainer (bracket : Bracket) (entry : Nat → List Char → BoundedReading α) (bound : Nat)
    (cs : List Char) : BoundedReading (List α) :=
  match skipSpace cs with
  | [] => lift (faultAtEnd bracket.unfinished)
  | c :: next =>
      if c = bracket.close then .ok ([], next) else readEntries bracket entry 0 [] bound (c :: next)

section
variable {bracket : Bracket} {all result : List α}
  {further : List Char → BoundedReading (List α)} {cs after next rest : List Char} {d : Char}

theorem afterEntry_comma (comma : skipSpace cs = ',' :: after) (start : skipSpace after = d :: next)
    (open_ : d ≠ bracket.close) : afterEntry bracket all further cs = further (d :: next) := by
  unfold afterEntry
  simp only [comma, start, if_neg bracket.noComma.symm, if_neg open_, if_true]

theorem afterEntry_ok (read : afterEntry bracket all further cs = .ok (result, rest)) :
    skipSpace cs = bracket.close :: rest ∨
      ∃ after d next, skipSpace cs = ',' :: after ∧ skipSpace after = d :: next ∧
        further (d :: next) = .ok (result, rest) := by
  unfold afterEntry at read
  split at read
  case h_1 => cases read
  case h_2 c after found =>
    split at read
    case isTrue closed =>
      cases read
      exact .inl (closed ▸ found)
    case isFalse =>
      split at read
      case isFalse => cases read
      case isTrue comma =>
        split at read
        case h_1 => cases read
        case h_2 d next start =>
          split at read
          case isTrue => cases read
          case isFalse => exact .inr ⟨after, d, next, comma ▸ found, start, read⟩

end

end

section
variable (ceiling : Option Nat) (length : Nat)
  (readEntry : List Step → List Char → BoundedReading Json) (path : List Step)

/-- An item of an array, which is read before it is counted. -/
def readItem (count : Nat) (cs : List Char) : BoundedReading Json :=
  match readEntry (.index count :: path) cs with
  | .error trouble => .error trouble
  | .ok (item, rest) => if beyond ceiling count then .error (.crowded path) else .ok (item, rest)

/-- A member of an object, which is counted when its key has been read. -/
def readMember (count : Nat) : List Char → BoundedReading (String × Json)
  | '"' :: cs =>
      match readText length cs with
      | .error fault => .error (.faulty fault)
      | .ok (key, rest) =>
          if beyond ceiling count then .error (.crowded path)
          else
            match skipSpace rest with
            | [] => lift (faultAtEnd .endInObject)
            | c :: after =>
                if c = ':' then
                  (readEntry (.key key :: path) after).map fun (value, rest) => ((key, value), rest)
                else lift (faultHere .expectedColon (c :: after))
  | other => lift (faultHere .keyNotText other)

variable (count : Nat) (bound : Nat) (cs : List Char)

/-- What follows an item. -/
theorem afterEntry_array (all : List Json) (further : List Char → BoundedReading (List Json)) :
    (match skipSpace cs with
      | [] => lift (faultAtEnd .endInArray)
      | ']' :: after => .ok (all, after)
      | ',' :: after =>
          match skipSpace after with
          | [] => lift (faultAtEnd .endInValue)
          | ']' :: more => lift (faultHere .trailingComma (']' :: more))
          | next => further next
      | other => lift (faultHere .expectedCommaOrBracket other)) =
      afterEntry .array all further cs := by
  unfold afterEntry
  generalize skipSpace cs = behind
  split
  · rfl
  · rfl
  next after =>
    dsimp only
    rw [if_neg Bracket.array.noComma.symm, if_pos rfl]
    generalize skipSpace after = next
    split
    · rfl
    · rfl
    next other noEnd noClose =>
      cases next with
      | nil => exact absurd rfl noEnd
      | cons d next => exact (if_neg fun same => noClose next (congrArg (· :: next) same)).symm
  next other noEnd noClose noComma =>
    cases behind with
    | nil => exact absurd rfl noEnd
    | cons c after =>
        have open_ : c ≠ Bracket.array.close :=
          fun same => noClose after (congrArg (· :: after) same)
        dsimp only
        rw [if_neg open_, if_neg fun same => noComma after (congrArg (· :: after) same)]
        rfl

theorem readItems_eq (done : List Json) :
    readItems ceiling readEntry path count done bound cs =
      readEntries .array (readItem ceiling readEntry path) count done bound cs := by
  induction bound generalizing count done cs with
  | zero => rfl
  | succ bound ih =>
      rw [readItems, readEntries, readItem]
      cases readEntry (.index count :: path) cs with
      | error trouble => rfl
      | ok result =>
          dsimp only
          split
          case isTrue => rfl
          case isFalse =>
            simp only [ih]
            exact afterEntry_array _ _ _

theorem readMember_quote : readMember ceiling length readEntry path count ('"' :: cs) =
    match readText length cs with
    | .error fault => .error (.faulty fault)
    | .ok (key, rest) =>
        if beyond ceiling count then .error (.crowded path)
        else
          match skipSpace rest with
          | [] => lift (faultAtEnd .endInObject)
          | c :: after =>
              if c = ':' then
                (readEntry (.key key :: path) after).map fun (value, rest) => ((key, value), rest)
              else lift (faultHere .expectedColon (c :: after)) := rfl

theorem readMember_noQuote (noQuote : ∀ tail, cs ≠ '"' :: tail) :
    readMember ceiling length readEntry path count cs = lift (faultHere .keyNotText cs) := by
  unfold readMember
  split
  · exact absurd rfl (noQuote _)
  · rfl

variable {ceiling length readEntry path count}

theorem readItem_eq (fits : beyond ceiling count = false) :
    readItem ceiling readEntry path count cs = readEntry (.index count :: path) cs := by
  unfold readItem
  cases readEntry (.index count :: path) cs with
  | error trouble => rfl
  | ok result => rw [fits]; rfl

theorem readItem_ok {item : Json} {rest : List Char}
    (read : readItem ceiling readEntry path count cs = .ok (item, rest)) :
    readEntry (.index count :: path) cs = .ok (item, rest) := by
  unfold readItem at read
  split at read
  · cases read
  next first =>
    split at read
    · cases read
    · rw [first, ← read]

variable {quoted behind after tail : List Char} {key : String}

theorem readMember_eq (text : readText length quoted = .ok (key, behind))
    (fits : beyond ceiling count = false) (colon : skipSpace behind = ':' :: after) :
    readMember ceiling length readEntry path count ('"' :: quoted) =
      (readEntry (.key key :: path) after).map fun (value, rest) => ((key, value), rest) := by
  rw [readMember_quote, text]
  simp only [fits, colon, Bool.false_eq_true, if_false, if_true]

theorem readMember_ok {member : String × Json}
    (read : readMember ceiling length readEntry path count cs = .ok (member, tail)) :
    ∃ quoted key behind after value, cs = '"' :: quoted ∧
      readText length quoted = .ok (key, behind) ∧ skipSpace behind = ':' :: after ∧
      readEntry (.key key :: path) after = .ok (value, tail) ∧ member = (key, value) := by
  unfold readMember at read
  split at read
  next quoted =>
    split at read
    · cases read
    next key behind text =>
      split at read
      · cases read
      · split at read
        · cases read
        next c after colon =>
          split at read
          case isTrue same =>
            subst same
            cases first : readEntry (.key key :: path) after with
            | error trouble =>
                rw [first] at read
                cases read
            | ok result =>
                rw [first] at read
                cases read
                exact ⟨quoted, key, behind, after, result.1, rfl, text, colon, first, rfl⟩
          case isFalse => cases read
  · cases read

variable (ceiling length readEntry path count)

/-- What follows a member. -/
theorem afterEntry_object (all : List (String × Json))
    (further : List Char → BoundedReading (List (String × Json))) :
    (match skipSpace cs with
      | [] => lift (faultAtEnd .endInObject)
      | '\x7d' :: after => .ok (all, after)
      | ',' :: after =>
          match skipSpace after with
          | [] => lift (faultAtEnd .endInValue)
          | '\x7d' :: more => lift (faultHere .trailingComma ('\x7d' :: more))
          | next => further next
      | other => lift (faultHere .expectedCommaOrBrace other)) =
      afterEntry .object all further cs := by
  unfold afterEntry
  generalize skipSpace cs = behind
  split
  · rfl
  · rfl
  next after =>
    dsimp only
    rw [if_neg Bracket.object.noComma.symm, if_pos rfl]
    generalize skipSpace after = next
    split
    · rfl
    · rfl
    next other noEnd noClose =>
      cases next with
      | nil => exact absurd rfl noEnd
      | cons d next => exact (if_neg fun same => noClose next (congrArg (· :: next) same)).symm
  next other noEnd noClose noComma =>
    cases behind with
    | nil => exact absurd rfl noEnd
    | cons c after =>
        have open_ : c ≠ Bracket.object.close :=
          fun same => noClose after (congrArg (· :: after) same)
        dsimp only
        rw [if_neg open_, if_neg fun same => noComma after (congrArg (· :: after) same)]
        rfl

theorem readMembers_eq (done : List (String × Json)) :
    readMembers ceiling length readEntry path count done bound cs =
      readEntries .object (readMember ceiling length readEntry path) count done bound cs := by
  induction bound generalizing count done cs with
  | zero => rfl
  | succ bound ih =>
      rw [readEntries]
      unfold readMembers
      split
      case h_1 => contradiction
      case h_2 start =>
        cases start
        rw [readMember_quote]
        generalize readText length _ = text
        split
        next => rfl
        next key rest =>
          dsimp only
          split
          case isTrue => rfl
          case isFalse =>
            generalize skipSpace rest = opened
            split
            · rfl
            next after =>
              dsimp only
              rw [if_pos rfl]
              cases readEntry (.key key :: path) after with
              | error trouble => rfl
              | ok result =>
                  simp only [ih]
                  exact afterEntry_object _ _ _
            next other noEnd noColon =>
              cases opened with
              | nil => exact absurd rfl noEnd
              | cons c after =>
                  dsimp only
                  rw [if_neg fun same => noColon after (congrArg (· :: after) same)]
                  rfl
      case h_3 noQuote =>
        rw [readMember_noQuote _ _ _ _ _ _ noQuote]
        rfl

end

/-! ## Values -/

section
variable {ceiling : Option Nat} {length room : Nat} {path : List Step} {cs tail : List Char}

theorem readValue_of_blank (blank : skipSpace cs = []) :
    readValue ceiling length room path cs = lift (faultAtEnd .endInValue) := by
  unfold readValue
  rw [blank]

section
variable (start : skipSpace cs = '[' :: tail)
include start

theorem readValue_of_array_deep :
    readValue ceiling length 0 path cs = lift (faultHere .nestedTooDeeply ('[' :: tail)) := by
  unfold readValue
  simp only [start]

theorem readValue_of_array : readValue ceiling length (room + 1) path cs =
    (readContainer .array (readItem ceiling (readValue ceiling length room) path) length tail).map
      fun (items, after) => (.array items, after) := by
  rw [readValue, readContainer]
  simp only [start]
  generalize skipSpace tail = next
  split
  · rfl
  · rfl
  next other noEnd noClose =>
    cases next with
    | nil => exact absurd rfl noEnd
    | cons c next =>
        have open_ : c ≠ Bracket.array.close :=
          fun same => noClose next (congrArg (· :: next) same)
        dsimp only
        rw [if_neg open_, readItems_eq]
        split
        next stopped => rw [stopped]; rfl
        next read => rw [read]; rfl

end

section
variable (start : skipSpace cs = '\x7b' :: tail)
include start

theorem readValue_of_object_deep :
    readValue ceiling length 0 path cs = lift (faultHere .nestedTooDeeply ('\x7b' :: tail)) := by
  unfold readValue
  simp only [start]

theorem readValue_of_object : readValue ceiling length (room + 1) path cs =
    (readContainer .object (readMember ceiling length (readValue ceiling length room) path) length
      tail).map fun (members, after) => (.object members, after) := by
  rw [readValue, readContainer]
  simp only [start]
  generalize skipSpace tail = next
  split
  · rfl
  · rfl
  next other noEnd noClose =>
    cases next with
    | nil => exact absurd rfl noEnd
    | cons c next =>
        have open_ : c ≠ Bracket.object.close :=
          fun same => noClose next (congrArg (· :: next) same)
        dsimp only
        rw [if_neg open_, readMembers_eq]
        split
        next stopped => rw [stopped]; rfl
        next read => rw [read]; rfl

end

end

end GameScenes.Json
