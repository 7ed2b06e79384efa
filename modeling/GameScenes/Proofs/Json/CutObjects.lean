import GameScenes.Proofs.Json.Overruns

/-!
# Objects that are cut off

An object ends with the brace that closes it (`readValue_closed`), and where it is cut off before
that brace the reading breaks off (`readValue_object_breaks`).
-/

set_option autoImplicit false

namespace GameScenes.Json

section
variable {ceiling : Option Nat} {length room : Nat} {path : List Step} {p cs rest more : List Char}

/-! ## The brace that closes an object -/

theorem readEntries_closed {α : Type} {bracket : Bracket}
    {entry : Nat → List Char → BoundedReading α} {count bound : Nat} {done all : List α}
    (suffix : ∀ count p a rest, p.length < length → entry count p = .ok (a, rest) → rest <:+ p)
    (short : cs.length < length)
    (read : readEntries bracket entry count done bound cs = .ok (all, rest)) :
    bracket.close :: rest <:+ cs := by
  induction bound generalizing cs count done with
  | zero => cases read
  | succ bound ih =>
      rw [readEntries] at read
      split at read
      case h_1 => cases read
      case h_2 a behind first =>
        have behindIn : behind <:+ cs := suffix _ _ _ _ short first
        rcases afterEntry_ok read with closed | ⟨after, d, next, comma, start, further⟩
        · exact closed ▸ (List.dropWhile_suffix isSpace).trans behindIn
        · obtain ⟨nextIn, less⟩ := skipSpace_suffix_of_skipSpace behindIn comma
          rw [start] at nextIn less
          exact (ih (Nat.lt_trans less short) further).trans nextIn

theorem readContainer_closed {α : Type} {bracket : Bracket}
    {entry : Nat → List Char → BoundedReading α} {all : List α}
    (suffix : ∀ count p a rest, p.length < length → entry count p = .ok (a, rest) → rest <:+ p)
    (short : cs.length < length) (read : readContainer bracket entry length cs = .ok (all, rest)) :
    bracket.close :: rest <:+ cs := by
  have shown : skipSpace cs <:+ cs := List.dropWhile_suffix isSpace
  unfold readContainer at read
  split at read
  case h_1 => cases read
  case h_2 c next start =>
    rw [start] at shown
    split at read
    case isTrue closed =>
      cases read
      exact closed ▸ shown
    case isFalse =>
      have less := Nat.lt_of_le_of_lt shown.length_le short
      exact (readEntries_closed suffix less read).trans shown

theorem readValue_object_start {members : List (String × Json)}
    (read : readValue ceiling length room path cs = .ok (.object members, rest)) :
    ∃ fewer tail, room = fewer + 1 ∧ skipSpace cs = '\x7b' :: tail := by
  rcases readValue_ok read with ⟨plain, -⟩ | ⟨fewer, tail, level, ⟨_, -, same, -⟩ | ⟨_, opens, -⟩⟩
  · cases plain
  · cases same
  · exact ⟨fewer, tail, level, opens⟩

theorem readValue_closed {members : List (String × Json)} (short : cs.length < length)
    (read : readValue ceiling length room path cs = .ok (.object members, rest)) :
    '\x7d' :: rest <:+ cs := by
  obtain ⟨fewer, tail, rfl, opens⟩ := readValue_object_start read
  obtain ⟨behind, less⟩ := suffix_of_skipSpace List.suffix_rfl opens
  rw [readValue_of_object opens] at read
  cases all : readContainer .object
      (readMember ceiling length (readValue ceiling length fewer) path) length tail with
  | error trouble =>
      rw [all] at read
      cases read
  | ok result =>
      rw [all] at read
      cases read
      have closed := readContainer_closed (fun _ _ _ _ => readMember_suffix)
        (Nat.lt_trans less short) all
      exact closed.trans behind

/-! ## Objects that are cut off -/

/-- An object that is cut off before its brace breaks off. -/
theorem readValue_object_breaks {length' : Nat} {members : List (String × Json)}
    (whole : readValue ceiling length' room path (p ++ more) = .ok (.object members, rest))
    (short : p.length < length) (open_ : rest.length < more.length) :
    Breaks (Overruns length room p) (readValue ceiling length room path p) := by
  have cut := readValue_cut ceiling length' room path short more
  rw [whole] at cut
  generalize begun : readValue ceiling length room path p = reading at cut
  cases cut with
  | @kept _ q inside same =>
      rw [List.length_append] at open_
      omega
  | ends ended =>
      cases ended with
      | breaks broken => exact broken
      | taken isNumber =>
          -- what starts with a brace is not a number
          exfalso
          obtain ⟨n, rfl⟩ := isNumber
          rcases skipSpace_cut p more with blank | ⟨c, q, start, -, continued⟩
          · rw [readValue_of_blank blank] at begun
            cases begun
          · obtain ⟨_, tail, -, opens⟩ := readValue_object_start whole
            rw [continued] at opens
            cases opens
            rcases readValue_ok begun with ⟨-, plain⟩ | ⟨_, _, -, ⟨_, _, same, -⟩ | ⟨_, _, same, -⟩⟩
            · exact (plain q).2 start
            · cases same
            · cases same

/-- A reading that breaks off finds a numeral out of range exactly where there is one. -/
theorem Breaks.outOfRange_of_overruns
    (broken : Breaks (Overruns length room p) (readValue ceiling length room path p))
    (short : p.length < length) (reached : Overruns length room p) :
    readValue ceiling length room path p = lift (faultBefore .numberOutOfRange []) := by
  rcases agrees_readValue ceiling length room path [] p with
    ⟨same, -⟩ | ⟨_, _, -, stopped, -⟩
  · rw [same, (reached.stops p short).1]
  · rw [stopped] at broken
    cases broken

theorem Breaks.unfinished_of_not_overruns
    (broken : Breaks (Overruns length room p) (readValue ceiling length room path p))
    (other : ¬ Overruns length room p) : ∃ kind : FaultKind, kind.isEnd = true ∧
      readValue ceiling length room path p = lift (faultAtEnd kind) := by
  generalize readValue ceiling length room path p = reading at broken
  cases broken with
  | unfinished kind isEnd => exact ⟨kind, isEnd, rfl⟩
  | outOfRange reached => exact absurd reached other

end

end GameScenes.Json
