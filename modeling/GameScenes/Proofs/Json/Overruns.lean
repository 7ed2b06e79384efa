import GameScenes.Proofs.Json.CutValues

/-!
# Texts that end in a numeral out of range

A text that ends inside a value in a numeral out of range is not read, and the numeral is the reason
(`Overruns.stops`).
-/

set_option autoImplicit false

namespace GameScenes.Json

/-! ## What is left of a text -/

section
variable {ceiling : Option Nat} {length room : Nat} {path : List Step} {c : Char}
  {p q cs rest : List Char}

theorem readText_suffix {s : String} (short : p.length < length)
    (read : readText length p = .ok (s, rest)) : rest <:+ p := by
  have cut := readText_cut short length []
  rw [List.append_nil, read] at cut
  cases cut with
  | @kept _ q inside same =>
      rw [List.append_nil]
      exact inside
  | ends ended =>
      obtain ⟨kind, isEnd, same⟩ := ended
      cases same

theorem readValue_suffix {value : Json} (short : p.length < length)
    (read : readValue ceiling length room path p = .ok (value, rest)) : rest <:+ p := by
  have cut := readValue_cut ceiling length room path short []
  rw [List.append_nil, read] at cut
  cases cut with
  | @kept _ q inside same =>
      rw [List.append_nil]
      exact inside
  | ends ended =>
      cases ended with
      | taken => exact List.nil_suffix
      | breaks broken => cases broken

/-- What follows behind blanks and one more character. -/
theorem suffix_of_skipSpace (inside : rest <:+ p) (found : skipSpace rest = c :: q) :
    q <:+ p ∧ q.length < p.length := by
  have behind : c :: q <:+ p := found ▸ (List.dropWhile_suffix isSpace).trans inside
  exact ⟨(List.suffix_cons c q).trans behind, behind.length_le⟩

theorem skipSpace_suffix_of_skipSpace (inside : rest <:+ p) (found : skipSpace rest = c :: q) :
    skipSpace q <:+ p ∧ (skipSpace q).length < p.length := by
  obtain ⟨behind, less⟩ := suffix_of_skipSpace inside found
  have shown : skipSpace q <:+ q := List.dropWhile_suffix isSpace
  exact ⟨shown.trans behind, Nat.lt_of_le_of_lt shown.length_le less⟩

theorem readMember_suffix {member : String × Json} {count : Nat} (short : p.length < length)
    (read : readMember ceiling length (readValue ceiling length room) path count p =
      .ok (member, rest)) : rest <:+ p := by
  obtain ⟨quoted, key, behind, after, value, rfl, text, colon, first, -⟩ := readMember_ok _ read
  have textFits : quoted.length < length := Nat.lt_of_succ_lt short
  obtain ⟨valueIn, less⟩ := suffix_of_skipSpace (readText_suffix textFits text) colon
  have restIn := readValue_suffix (Nat.lt_trans less textFits) first
  exact restIn.trans (valueIn.trans (List.suffix_cons '"' quoted))

end

/-! ## Entries that overrun -/

/-- What holds of the entries of a container when one of them ends with the text in a numeral out of
range. -/
structure Overrunning {α : Type} (bracket : Bracket) (length : Nat)
    (read : List Char → BoundedReading α) (overruns : List Char → Prop) : Prop where
  stops : ∀ p, p.length < length → overruns p → read p = lift (faultBefore .numberOutOfRange [])
  numeral : ∀ p, p.length < length → overruns p → ∃ ds, ds <:+ p ∧ NumeralOverruns ds
  suffix : ∀ p a rest, p.length < length → read p = .ok (a, rest) → rest <:+ p
  starts : ∀ p, overruns p ∨ (∃ result, read p = .ok result) →
    ∃ c tail, skipSpace p = c :: tail ∧ c ≠ bracket.close

section
variable {α : Type} {bracket : Bracket} {length : Nat} {read : List Char → BoundedReading α}
  {overruns : List Char → Prop} {cs : List Char}

theorem EntriesOverrun.start (reached : EntriesOverrun read overruns cs)
    (entries : Overrunning bracket length read overruns) :
    ∃ c tail, skipSpace cs = c :: tail ∧ c ≠ bracket.close := by
  cases reached with
  | inside reached => exact entries.starts cs (.inl reached)
  | later first => exact entries.starts cs (.inr ⟨_, first⟩)

theorem EntriesOverrun.stops (reached : EntriesOverrun read overruns cs)
    (entries : Overrunning bracket length read overruns)
    {entry : Nat → List Char → BoundedReading α} (alike : ∀ count p, entry count p = read p)
    (short : cs.length < length) (count : Nat) (done : List α) {bound : Nat}
    (enough : cs.length < bound) :
    readEntries bracket entry count done bound cs = lift (faultBefore .numberOutOfRange []) := by
  induction reached generalizing count done bound with
  | inside reached =>
      obtain ⟨bound, rfl⟩ : ∃ b, bound = b + 1 := ⟨bound - 1, by omega⟩
      rw [readEntries, alike, entries.stops _ short reached]
      rfl
  | later first comma further ih =>
      obtain ⟨bound, rfl⟩ : ∃ b, bound = b + 1 := ⟨bound - 1, by omega⟩
      obtain ⟨c, next, start, open_⟩ := further.start entries
      rw [skipSpace_skipSpace] at start
      have less := (skipSpace_suffix_of_skipSpace (entries.suffix _ _ _ short first) comma).2
      rw [readEntries, alike, first]
      dsimp only
      rw [afterEntry_comma comma start open_, ← start]
      exact ih (Nat.lt_trans less short) _ _ (Nat.lt_of_lt_of_le less (Nat.le_of_lt_succ enough))

theorem EntriesOverrun.numeral (reached : EntriesOverrun read overruns cs)
    (entries : Overrunning bracket length read overruns) (short : cs.length < length) :
    ∃ ds, ds <:+ cs ∧ NumeralOverruns ds := by
  induction reached with
  | inside reached => exact entries.numeral _ short reached
  | later first comma _ ih =>
      obtain ⟨behind, less⟩ :=
        skipSpace_suffix_of_skipSpace (entries.suffix _ _ _ short first) comma
      obtain ⟨ds, inside, spelled⟩ := ih (Nat.lt_trans less short)
      exact ⟨ds, inside.trans behind, spelled⟩

end

/-- A container whose entries overrun. -/
theorem readContainer_overrun {α : Type} {bracket : Bracket} {length : Nat} {cs : List Char}
    {read : List Char → BoundedReading α} {overruns : List Char → Prop}
    (entries : Overrunning bracket length read overruns)
    {entry : Nat → List Char → BoundedReading α} (alike : ∀ count p, entry count p = read p)
    (short : cs.length < length) (reached : EntriesOverrun read overruns (skipSpace cs)) :
    readContainer bracket entry length cs = lift (faultBefore .numberOutOfRange []) ∧
      ∃ ds, ds <:+ cs ∧ NumeralOverruns ds := by
  have shown : skipSpace cs <:+ cs := List.dropWhile_suffix isSpace
  have less : (skipSpace cs).length < length := Nat.lt_of_le_of_lt shown.length_le short
  constructor
  · obtain ⟨c, next, start, open_⟩ := reached.start entries
    rw [skipSpace_skipSpace] at start
    rw [readContainer, start]
    dsimp only
    rw [if_neg open_, ← start]
    exact reached.stops entries alike less 0 [] less
  · obtain ⟨ds, inside, spelled⟩ := reached.numeral entries less
    exact ⟨ds, inside.trans shown, spelled⟩

/-! ## Values that overrun -/

section
variable {length room : Nat}

theorem readItem_alike (path : List Step) (count : Nat) (p : List Char) :
    readItem none (readValue none length room) path count p = readValue none length room [] p := by
  rw [readItem_eq p (beyond_none count), readValue_path]

theorem readMember_alike (path : List Step) (count : Nat) (p : List Char) :
    readMember none length (readValue none length room) path count p =
      readMember none length (readValue none length room) [] 0 p := by
  unfold readMember
  simp only [beyond_none, readValue_path length room (_ :: _), Bool.false_eq_true, if_false]

theorem NumeralOverruns.stops {ds : List Char} (reached : NumeralOverruns ds) (room : Nat) :
    readValue none length room [] ds = lift (faultBefore .numberOutOfRange []) := by
  cases reached with
  | negative stops => rw [readValue_minus, stops]; rfl
  | positive digit stops => rw [readValue_digit _ _ _ _ _ digit, stops]; rfl

theorem Overruns.start {cs : List Char} (reached : Overruns length room cs) :
    ∃ c tail, skipSpace cs = c :: tail ∧ c ≠ ']' := by
  have numeral {ds : List Char} (reached : NumeralOverruns ds) :
      ∃ c tail, ds = c :: tail ∧ c ≠ ']' := by
    cases reached with
    | negative => exact ⟨'-', _, rfl, by decide⟩
    | positive digit =>
        refine ⟨_, _, rfl, ?_⟩
        rintro rfl
        cases digit
  cases room with
  | zero => exact numeral reached
  | succ room =>
      rcases reached with reached | ⟨tail, opens, -⟩ | ⟨tail, opens, -⟩
      · exact numeral reached
      · exact ⟨_, tail, opens, by decide⟩
      · exact ⟨_, tail, opens, by decide⟩

variable (value : ∀ p, p.length < length → Overruns length room p →
    readValue none length room [] p = lift (faultBefore .numberOutOfRange []) ∧
      ∃ ds, ds <:+ p ∧ NumeralOverruns ds)
include value

theorem items_overrunning :
    Overrunning .array length (readValue none length room []) (Overruns length room) where
  stops p short reached := (value p short reached).1
  numeral p short reached := (value p short reached).2
  suffix _ _ _ := readValue_suffix
  starts p h := by
    rcases h with reached | ⟨result, read⟩
    · exact reached.start
    · cases start : skipSpace p with
      | nil =>
          rw [readValue_of_blank start] at read
          cases read
      | cons c tail =>
          refine ⟨c, tail, rfl, ?_⟩
          rintro rfl
          rw [← readValue_skipSpace, start] at read
          exact readValue_close none [] _ read

theorem members_overrunning :
    Overrunning .object length (readMember none length (readValue none length room) [] 0)
      (MemberOverruns length (Overruns length room)) where
  stops p short reached := by
    obtain ⟨quoted, key, behind, after, rfl, text, colon, reached⟩ := reached
    have textFits : quoted.length < length := Nat.lt_of_succ_lt short
    obtain ⟨-, less⟩ := suffix_of_skipSpace (readText_suffix textFits text) colon
    have stops := (value _ (Nat.lt_trans less textFits) reached).1
    rw [readMember_eq text rfl colon, readValue_path, stops]
    rfl
  numeral p short reached := by
    obtain ⟨quoted, key, behind, after, rfl, text, colon, reached⟩ := reached
    have textFits : quoted.length < length := Nat.lt_of_succ_lt short
    obtain ⟨afterIn, less⟩ := suffix_of_skipSpace (readText_suffix textFits text) colon
    obtain ⟨-, ds, inside, spelled⟩ := value _ (Nat.lt_trans less textFits) reached
    exact ⟨ds, inside.trans (afterIn.trans (List.suffix_cons '"' quoted)), spelled⟩
  suffix _ _ _ := readMember_suffix
  starts p h := by
    obtain ⟨quoted, rfl⟩ : ∃ quoted, p = '"' :: quoted := by
      rcases h with ⟨quoted, _, _, _, rfl, -⟩ | ⟨⟨member, rest⟩, read⟩
      · exact ⟨quoted, rfl⟩
      · obtain ⟨quoted, _, _, _, _, rfl, -⟩ := readMember_ok _ read
        exact ⟨quoted, rfl⟩
    exact ⟨'"', quoted, rfl, by decide⟩

end

/-- A text that ends inside a value in a numeral out of range is not read because of it. -/
theorem Overruns.stops {length room : Nat} (p : List Char) (short : p.length < length)
    (reached : Overruns length room p) :
    readValue none length room [] p = lift (faultBefore .numberOutOfRange []) ∧
      ∃ ds, ds <:+ p ∧ NumeralOverruns ds := by
  have shown : skipSpace p <:+ p := List.dropWhile_suffix isSpace
  induction room generalizing p with
  | zero =>
      rw [← readValue_skipSpace]
      exact ⟨NumeralOverruns.stops reached 0, _, shown, reached⟩
  | succ room ih =>
      have value := fun p short reached => ih p short reached (List.dropWhile_suffix isSpace)
      rcases reached with reached | ⟨tail, opens, reached⟩ | ⟨tail, opens, reached⟩
      · rw [← readValue_skipSpace]
        exact ⟨reached.stops _, _, shown, reached⟩
      · obtain ⟨behind, less⟩ := suffix_of_skipSpace List.suffix_rfl opens
        obtain ⟨stops, ds, inside, spelled⟩ := readContainer_overrun (items_overrunning value)
          (readItem_alike []) (Nat.lt_trans less short) reached
        rw [readValue_of_array opens, stops]
        exact ⟨rfl, ds, inside.trans behind, spelled⟩
      · obtain ⟨behind, less⟩ := suffix_of_skipSpace List.suffix_rfl opens
        obtain ⟨stops, ds, inside, spelled⟩ := readContainer_overrun (members_overrunning value)
          (readMember_alike []) (Nat.lt_trans less short) reached
        rw [readValue_of_object opens, stops]
        exact ⟨rfl, ds, inside.trans behind, spelled⟩

end GameScenes.Json
