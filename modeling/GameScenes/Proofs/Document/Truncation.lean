import GameScenes.Proofs.Document.Acceptance
import GameScenes.Proofs.Json.CutObjects

/-!
# Documents that are cut off

A document that is cut off before the brace that closes its root object is truncated, except where
the cut leaves a numeral out of range at its end: numerals are evaluated where they end, and the
fault of the numeral is found before the end of the text is (`read_cut`, `read_cut_exponent`).
-/

set_option autoImplicit false

namespace GameScenes.Document

open Json

/-- The place behind the last character of a text. -/
def endOf (cs : List Char) : Location := cs.foldl Location.after Location.start

theorem location_atEnd (kind : FaultKind) (cs : List Char) :
    Fault.location ⟨kind, [], 0⟩ cs = endOf cs := by
  unfold Fault.location endOf
  rw [List.length_nil, Nat.sub_zero, List.take_length]
  rfl

/-- That a text ends inside its value in a numeral out of range. -/
def EndsOutOfRange (cs : List Char) : Prop := Overruns (cs.length + 1) nestingLimit cs

/-- The root object of an accepted text, with the blanks behind it. -/
theorem read_ok_object {raw : String} {game : Game} (accepted : Game.read raw = .ok game) :
    raw.length ≤ maxCharacters ∧ ∃ members blanks,
      readValue (some maxEntries) (raw.toList.length + 1) nestingLimit [] raw.toList =
        .ok (.object members, blanks) ∧ skipSpace blanks = [] := by
  unfold Game.read at accepted
  split at accepted
  case isTrue => cases accepted
  case isFalse short =>
    refine ⟨Nat.le_of_not_lt short, ?_⟩
    split at accepted
    · cases accepted
    next root bounded =>
      obtain ⟨written, whole, rfl⟩ := (readBounded_ok_iff _ _ _).mp bounded
      obtain ⟨_, _, holds, -⟩ := (ofJson_ok_iff _ _).mp accepted
      obtain ⟨members, rfl⟩ : ∃ members, written = .object members := by
        have isObject := holds.rootIsObject
        cases written with
        | object members => exact ⟨members, rfl⟩
        | _ => cases isObject
      unfold readWhole at whole
      split at whole
      · cases whole
      next value rest read =>
        split at whole
        next blank =>
          cases whole
          exact ⟨members, rest, read, blank⟩
        · cases whole

/-- A text at which the reader stops is rejected. -/
theorem read_of_trouble {p : String} {trouble : Trouble} (short : p.length ≤ maxCharacters)
    (stopped : readValue (some maxEntries) (p.toList.length + 1) nestingLimit [] p.toList =
      .error trouble) : Game.read p = .error (Game.rejectionOf p.toList trouble) := by
  unfold Game.read readBounded readWhole
  rw [if_neg (Nat.not_lt.mpr short), stopped]
  rfl

/-- A document that is cut off before its last brace is truncated, unless the cut leaves a numeral
out of range at its end. -/
theorem read_cut {raw : String} {game : Game} (accepted : Game.read raw = .ok game) :
    ∃ members body blanks,
      readValue (some maxEntries) (raw.toList.length + 1) nestingLimit [] raw.toList =
        .ok (.object members, blanks) ∧
      raw.toList = body ++ '\x7d' :: blanks ∧ skipSpace blanks = [] ∧
      ∀ p : String, p.toList <+: body →
        (¬ EndsOutOfRange p.toList → Game.read p = .error (.truncated (endOf p.toList))) ∧
        (EndsOutOfRange p.toList →
          Game.read p = .error (.malformed (endOf p.toList)
            ("number out of range at line " ++ Number.natText (endOf p.toList).line ++ " column " ++
              Number.natText (endOf p.toList).column)) ∧
          ∃ numeral, numeral <:+ p.toList ∧ NumeralOverruns numeral) := by
  obtain ⟨short, members, blanks, whole, blank⟩ := read_ok_object accepted
  obtain ⟨body, split⟩ := readValue_closed (Nat.lt_succ_self _) whole
  refine ⟨members, body, blanks, whole, split.symm, blank, fun p inside => ?_⟩
  obtain ⟨tail, rfl⟩ := inside
  have parts : p.toList ++ (tail ++ '\x7d' :: blanks) = raw.toList := by
    rw [← split, List.append_assoc]
  have fits : p.length ≤ maxCharacters := by
    have lengths := congrArg List.length parts
    rw [List.length_append, String.length_toList, String.length_toList] at lengths
    omega
  have unread : blanks.length < (tail ++ '\x7d' :: blanks).length := by
    rw [List.length_append, List.length_cons]
    omega
  rw [← parts] at whole
  have broken := readValue_object_breaks whole (Nat.lt_succ_self _) unread
  constructor
  · intro other
    obtain ⟨kind, isEnd, stopped⟩ := broken.unfinished_of_not_overruns other
    rw [read_of_trouble fits stopped, Game.rejectionOf, if_pos isEnd, location_atEnd]
  · intro reached
    have stopped := broken.outOfRange_of_overruns (Nat.lt_succ_self _) reached
    refine ⟨?_, (reached.stops p.toList (Nat.lt_succ_self _)).2⟩
    have noEnd : ¬ FaultKind.numberOutOfRange.isEnd = true := by decide
    rw [read_of_trouble fits stopped, Game.rejectionOf, if_neg noEnd, Fault.message, location_atEnd]
    rfl

theorem front_unique {front body blanks : List Char}
    (split : front ++ ['\x7d'] = body ++ '\x7d' :: blanks) (blank : skipSpace blanks = []) :
    body = front := by
  rcases blanks.eq_nil_or_concat with rfl | ⟨before, last, rfl⟩
  · exact (List.append_cancel_right split).symm
  · -- the last character would be the brace and a blank
    have lasts : last = '\x7d' := by
      have ends := congrArg List.getLast? split
      rw [List.concat_eq_append, ← List.cons_append, ← List.append_assoc] at ends
      simpa only [List.getLast?_concat, Option.some_inj] using ends.symm
    subst lasts
    have all := List.dropWhile_eq_nil_iff.mp blank '\x7d' (by simp)
    cases all

theorem exists_ok {α : Type} {r : Except Rejection α} (ok : r.isOk = true) : ∃ a, r = .ok a := by
  cases r with
  | error rejection => cases ok
  | ok a => exact ⟨a, rfl⟩

/-- A cut through the key of the only member. -/
theorem read_cut_key :
    (∃ game, Game.read "\x7b\"scenes\":[]\x7d" = .ok game) ∧
      ¬ EndsOutOfRange "\x7b\"sc".toList ∧
      Game.read "\x7b\"sc" = .error (.truncated ⟨1, 4⟩) := by
  obtain ⟨game, accepted⟩ : ∃ game, Game.read "\x7b\"scenes\":[]\x7d" = .ok game :=
    exists_ok (by decide +kernel)
  have unfinished : ¬ EndsOutOfRange "\x7b\"sc".toList := by
    intro reached
    have stopped := (reached.stops _ (Nat.lt_succ_self _)).1
    have text : readValue none ("\x7b\"sc".toList.length + 1) nestingLimit []
        "\x7b\"sc".toList = lift (faultAtEnd .endInText) := by cbv
    rw [text] at stopped
    cases stopped
  obtain ⟨members, body, blanks, -, split, blank, cut⟩ := read_cut accepted
  have same : body = "\x7b\"scenes\":[]".toList := front_unique split blank
  have inside : "\x7b\"sc".toList <+: body := same ▸ by decide
  exact ⟨⟨game, accepted⟩, unfinished, (cut _ inside).1 unfinished⟩

theorem read_ofList (cs : List Char) : Game.read (String.ofList cs) =
    if maxCharacters < cs.length then .error (.oversized cs.length)
    else ((readBounded maxEntries cs).mapError (Game.rejectionOf cs)).bind Game.ofJson := by
  rw [Game.read, String.toList_ofList, String.length_ofList]
  cases readBounded maxEntries cs <;> rfl

/-- A document that breaks off inside a numeral, of which one and 310 zeros are left. -/
def cutDocument : List Char := "\x7b\"scenes\":[1".toList ++ List.replicate 310 '0'

/-- A cut before the exponent that keeps a number within the range. -/
theorem read_cut_exponent :
    (∃ game, Game.read (String.ofList (cutDocument ++ "e-3]\x7d".toList)) = .ok game) ∧
      Game.read (String.ofList cutDocument) =
        .error (.malformed ⟨1, 322⟩ "number out of range at line 1 column 322") := by
  constructor
  · refine exists_ok ?_
    rw [read_ofList]
    decide +kernel
  · have rejected : (match Game.read (String.ofList cutDocument) with
        | .error (.malformed place message) => decide (place = ⟨1, 322⟩ ∧
            message = "number out of range at line 1 column 322")
        | _ => false) = true := by
      rw [read_ofList]
      decide +kernel
    split at rejected
    next place message read =>
      obtain ⟨rfl, rfl⟩ := of_decide_eq_true rejected
      exact read
    · cases rejected

end GameScenes.Document
