import GameScenes.Proofs.Json.Ceiling
import GameScenes.Proofs.Json.CutLexemes
import GameScenes.Proofs.Json.Entries

/-!
# Values that are cut off

A text that is cut off inside a value is unfinished, except where the cut leaves a numeral out of
range at its end (`readValue_cut`).
-/

set_option autoImplicit false

namespace GameScenes.Json

open GameScenes.Number (isDigit)

/-! ## Numerals at the end of a text -/

/-- That a text is a numeral out of range. -/
inductive NumeralOverruns : List Char → Prop where
  | negative {cs : List Char} : readNumeral true cs = faultBefore .numberOutOfRange [] →
      NumeralOverruns ('-' :: cs)
  | positive {c : Char} {cs : List Char} : isDigit c = true →
      readNumeral false (c :: cs) = faultBefore .numberOutOfRange [] → NumeralOverruns (c :: cs)

/-- That one of the entries of a container ends with the text in a numeral out of range.  The
entries in front of it are read one by one. -/
inductive EntriesOverrun {α : Type} (read : List Char → BoundedReading α)
    (overruns : List Char → Prop) : List Char → Prop where
  | inside {cs : List Char} : overruns cs → EntriesOverrun read overruns cs
  | later {cs rest more : List Char} {a : α} : read cs = .ok (a, rest) →
      skipSpace rest = ',' :: more → EntriesOverrun read overruns (skipSpace more) →
        EntriesOverrun read overruns cs

/-- That the value of a member ends with the text in a numeral out of range. -/
def MemberOverruns (length : Nat) (overruns : List Char → Prop) (cs : List Char) : Prop :=
  ∃ quoted key behind after, cs = '"' :: quoted ∧ readText length quoted = .ok (key, behind) ∧
    skipSpace behind = ':' :: after ∧ overruns after

/-- That a text ends inside a value in a numeral out of range. -/
def Overruns (length : Nat) : Nat → List Char → Prop
  | 0, cs => NumeralOverruns (skipSpace cs)
  | room + 1, cs => NumeralOverruns (skipSpace cs) ∨
      (∃ rest, skipSpace cs = '[' :: rest ∧
        EntriesOverrun (readValue none length room []) (Overruns length room) (skipSpace rest)) ∨
      ∃ rest, skipSpace cs = '\x7b' :: rest ∧
        EntriesOverrun (readMember none length (readValue none length room) [] 0)
          (MemberOverruns length (Overruns length room)) (skipSpace rest)

/-! ## Breaking off -/

/-- How a reading breaks off where the text ends: the text is unfinished, or it ends in a numeral
out of range. -/
inductive Breaks {α : Type} (overrun : Prop) : Except Trouble α → Prop where
  | unfinished (kind : FaultKind) : kind.isEnd = true → Breaks overrun (lift (faultAtEnd kind))
  | outOfRange : overrun → Breaks overrun (lift (faultBefore .numberOutOfRange []))

/-- How a reading ends with the text: it breaks off, or it takes the whole text for what is only the
beginning of the thing that stood there. -/
inductive BreaksOrShort {α : Type} (short : α → Prop) (overrun : Prop) :
    BoundedReading α → Prop where
  | breaks {reading : BoundedReading α} : Breaks overrun reading →
      BreaksOrShort short overrun reading
  | taken {a : α} : short a → BreaksOrShort short overrun (.ok (a, []))

section
variable {α β : Type} {overrun overrun' : Prop}

theorem Breaks.imp {reading : Except Trouble α} (breaks : Breaks overrun reading)
    (imp : overrun → overrun') : Breaks overrun' reading := by
  cases breaks with
  | unfinished kind isEnd => exact .unfinished kind isEnd
  | outOfRange inside => exact .outOfRange (imp inside)

theorem Breaks.map {reading : Except Trouble α} (breaks : Breaks overrun reading) (f : α → β) :
    Breaks overrun (reading.map f) := by
  cases breaks with
  | unfinished kind isEnd => exact .unfinished kind isEnd
  | outOfRange inside => exact .outOfRange inside

variable {short : α → Prop} {reading : BoundedReading α}

theorem BreaksOrShort.any (ended : BreaksOrShort short overrun reading) :
    BreaksOrShort (fun _ => True) overrun reading := by
  cases ended with
  | breaks broken => exact .breaks broken
  | taken => exact .taken trivial

theorem BreaksOrShort.map (ended : BreaksOrShort short overrun reading)
    (imp : overrun → overrun') (f : α → β) :
    BreaksOrShort (fun _ => True) overrun' (reading.map fun (a, rest) => (f a, rest)) := by
  cases ended with
  | breaks broken => exact .breaks ((broken.imp imp).map _)
  | taken => exact .taken trivial

theorem Unfinished.breaks {reading : Except Fault α} (unfinished : Unfinished reading) :
    Breaks overrun (lift reading) := by
  obtain ⟨kind, isEnd, rfl⟩ := unfinished
  exact .unfinished kind isEnd

end

theorem skipSpace_cut (p more : List Char) :
    skipSpace p = [] ∨ ∃ c q, skipSpace p = c :: q ∧ c :: q <:+ p ∧
      skipSpace (p ++ more) = c :: (q ++ more) := by
  rcases dropWhile_cut isSpace p more with all | ⟨c, q, found, inside, same, -⟩
  · exact .inl all
  · exact .inr ⟨c, q, found, inside, same⟩

/-! ## Entries of containers -/

section
variable {α : Type} {bracket : Bracket} {length : Nat} {p more : List Char}
  {begun whole : Nat → List Char → BoundedReading α} {plain : List Char → BoundedReading α}
  {overruns : List Char → Prop}

/-- What follows an entry is read alike up to the cut if the further entries are. -/
theorem afterEntry_cut {all : List α} {further go : List Char → BoundedReading (List α)}
    {overrun : Prop} {q : List Char} (inside : q <:+ p)
    (next : ∀ after d next, d :: next <:+ p → (d :: next).length < p.length →
      skipSpace q = ',' :: after → skipSpace after = d :: next →
      Cut (Breaks overrun) (d :: next) more (further (d :: next)) (go (d :: next ++ more))) :
    Cut (Breaks overrun) p more (afterEntry bracket all further q)
      (afterEntry bracket all go (q ++ more)) := by
  unfold afterEntry
  rcases skipSpace_cut q more with blank | ⟨c, after, found, within, continued⟩
  · rw [blank]
    exact .ends (.unfinished bracket.unfinished bracket.isEnd)
  have afterIn : after <:+ p := ((List.suffix_cons c after).trans within).trans inside
  rw [found, continued]
  dsimp only
  split
  case isTrue => exact .kept afterIn rfl
  case isFalse =>
    split
    case isFalse => exact .failed _
    case isTrue comma =>
      subst comma
      rcases skipSpace_cut after more with blank | ⟨d, behind, start, inner, goesOn⟩
      · rw [blank]
        exact .ends (.unfinished .endInValue rfl)
      have less : (d :: behind).length < p.length :=
        Nat.lt_of_le_of_lt inner.length_le (within.trans inside).length_le
      rw [start, goesOn]
      dsimp only
      split
      case isTrue => exact .failed _
      case isFalse =>
        have behindIn := inner.trans afterIn
        exact (next after d behind behindIn less found start).mono behindIn id

theorem readEntries_cut
    (entry : ∀ count c p, (c :: p).length < length →
      Cut (BreaksOrShort (fun _ => True) (overruns (c :: p))) (c :: p) more (begun count (c :: p))
        (whole count (c :: p ++ more)))
    (alike : ∀ count p a rest, begun count p = .ok (a, rest) → plain p = .ok (a, rest))
    {c : Char} (short : (c :: p).length < length) (count : Nat) (done : List α) {bound : Nat}
    (enough : (c :: p).length < bound) (bound' : Nat) :
    Cut (Breaks (EntriesOverrun plain overruns (c :: p))) (c :: p) more
      (readEntries bracket begun count done bound (c :: p))
      (readEntries bracket whole count done bound' (c :: p ++ more)) := by
  induction bound' generalizing c p count done bound with
  | zero => exact .failed _
  | succ bound' ih =>
      obtain ⟨bound, rfl⟩ : ∃ b, bound = b + 1 := ⟨bound - 1, by omega⟩
      have cut := entry count c p short
      rw [readEntries, readEntries]
      generalize started : begun count (c :: p) = start at cut ⊢
      generalize whole count (c :: p ++ more) = all at cut ⊢
      cases cut with
      | failed trouble => exact .failed trouble
      | ends ended =>
          cases ended with
          | taken => exact .ends (.unfinished bracket.unfinished bracket.isEnd)
          | breaks broken =>
              cases broken with
              | unfinished kind isEnd => exact .ends (.unfinished kind isEnd)
              | outOfRange reached => exact .ends (.outOfRange (.inside reached))
      | @kept a q inside same =>
          subst same
          refine afterEntry_cut inside fun after d next nextIn less comma start => ?_
          have rest := ih (Nat.lt_trans less short) (count + 1) (a :: done)
            (Nat.lt_of_lt_of_le less (Nat.le_of_lt_succ enough))
          refine rest.mono List.suffix_rfl fun broken => broken.imp fun reached => ?_
          exact .later (alike _ _ _ _ started) comma (start ▸ reached)

theorem readContainer_cut
    (entry : ∀ count c p, (c :: p).length < length →
      Cut (BreaksOrShort (fun _ => True) (overruns (c :: p))) (c :: p) more (begun count (c :: p))
        (whole count (c :: p ++ more)))
    (alike : ∀ count p a rest, begun count p = .ok (a, rest) → plain p = .ok (a, rest))
    (short : p.length < length) (length' : Nat) :
    Cut (Breaks (EntriesOverrun plain overruns (skipSpace p))) p more
      (readContainer bracket begun length p)
      (readContainer bracket whole length' (p ++ more)) := by
  unfold readContainer
  rcases skipSpace_cut p more with blank | ⟨c, next, first, within, continued⟩
  · rw [blank]
    exact .ends (.unfinished bracket.unfinished bracket.isEnd)
  · rw [first, continued]
    dsimp only
    split
    · exact .kept ((List.suffix_cons c next).trans within) rfl
    · have less : (c :: next).length < length := Nat.lt_of_le_of_lt within.length_le short
      exact (readEntries_cut entry alike less 0 [] less length').mono within id

end

section
variable {ceiling : Option Nat} {length : Nat} {path : List Step} {p more : List Char}
  {begun whole : List Step → List Char → BoundedReading Json} {count : Nat} {part : Json → Prop}

theorem readItem_cut {overrun : Prop} (entry : ∀ path,
      Cut (BreaksOrShort part overrun) p more (begun path p) (whole path (p ++ more))) :
    Cut (BreaksOrShort (fun _ => True) overrun) p more (readItem ceiling begun path count p)
      (readItem ceiling whole path count (p ++ more)) := by
  have cut := entry (.index count :: path)
  by_cases full : beyond ceiling count = true
  · -- a container that is full is full in the whole text, too
    unfold readItem
    cases whole (.index count :: path) (p ++ more) with
    | error trouble => exact .failed trouble
    | ok result =>
        simp only [full, if_true]
        exact .failed _
  · have fits : beyond ceiling count = false := by simpa using full
    rw [readItem_eq _ fits, readItem_eq _ fits]
    exact cut.mono List.suffix_rfl .any

theorem readMember_cut {overruns : List Char → Prop}
    (entry : ∀ path p, p.length < length →
      Cut (BreaksOrShort part (overruns p)) p more (begun path p) (whole path (p ++ more)))
    {c : Char} (short : (c :: p).length < length) (length' : Nat) :
    Cut (BreaksOrShort (fun _ => True) (MemberOverruns length overruns (c :: p))) (c :: p) more
      (readMember ceiling length begun path count (c :: p))
      (readMember ceiling length' whole path count (c :: p ++ more)) := by
  by_cases quote : c = '"'
  case neg =>
    rw [readMember_noQuote _ _ _ _ _ (c :: p ++ more) fun tail same => quote (List.cons.inj same).1]
    exact .failed _
  case pos =>
    subst quote
    have shorter : p.length < length := Nat.lt_of_succ_lt short
    have text := readText_cut shorter length' more
    rw [List.cons_append, readMember_quote, readMember_quote]
    generalize opened : readText length p = start at text ⊢
    generalize readText length' (p ++ more) = all at text ⊢
    cases text with
    | failed fault => exact .failed _
    | ends ended =>
        obtain ⟨kind, isEnd, rfl⟩ := ended
        exact .ends (.breaks (.unfinished kind isEnd))
    | @kept key q inside same =>
        subst same
        dsimp only
        split
        case isTrue => exact .failed _
        case isFalse =>
          rcases skipSpace_cut q more with blank | ⟨d, after, found, within, continued⟩
          · rw [blank]
            exact .ends (.breaks (.unfinished .endInObject rfl))
          rw [found, continued]
          dsimp only
          split
          case isFalse => exact .failed _
          case isTrue colon =>
            subst colon
            have afterIn : after <:+ p := ((List.suffix_cons ':' after).trans within).trans inside
            have value := entry (.key key :: path) after
              (Nat.lt_of_le_of_lt afterIn.length_le shorter)
            have inner (reached : overruns after) : MemberOverruns length overruns ('"' :: p) :=
              ⟨p, key, q, after, rfl, opened, found, reached⟩
            exact (value.map (fun v => (key, v)) fun ended => ended.map inner _).mono
              (afterIn.trans (List.suffix_cons '"' p)) id

end

/-! ## Values -/

section
variable {ceiling : Option Nat} {length room : Nat} {path : List Step} {p q more cs : List Char}
  {c : Char} {overrun : Prop}

/-- Whether a value is a number. -/
def IsNumber (j : Json) : Prop := ∃ n, j = .number n

theorem skipSpace_skipSpace (cs : List Char) : skipSpace (skipSpace cs) = skipSpace cs :=
  List.dropWhile_idempotent isSpace cs

theorem readValue_skipSpace (ceiling : Option Nat) (length room : Nat) (path : List Step)
    (cs : List Char) :
    readValue ceiling length room path (skipSpace cs) = readValue ceiling length room path cs := by
  unfold readValue
  rw [skipSpace_skipSpace]

/-- The first letters of words with the rest of the word and what it means. -/
def words : List (Char × List Char × Json) :=
  [('n', ['u', 'l', 'l'], .null), ('t', ['r', 'u', 'e'], .bool true),
    ('f', ['a', 'l', 's', 'e'], .bool false)]

theorem readValue_word {word : List Char} {value : Json} (listed : (c, word, value) ∈ words)
    (cs : List Char) : readValue ceiling length room path (c :: cs) =
      lift ((readWord word cs).map fun after => (value, after)) := by
  unfold readValue
  simp only [words, List.mem_cons, Prod.mk.injEq, List.not_mem_nil, or_false] at listed
  rcases listed with ⟨rfl, rfl, rfl⟩ | ⟨rfl, rfl, rfl⟩ | ⟨rfl, rfl, rfl⟩
  all_goals
    rw [skipSpace_cons cs (by decide)]
    rfl

/-- What a value without entries starts with. -/
theorem start_cases {value : Json} {rest : List Char}
    (read : readValue ceiling length room path (c :: cs) = .ok (value, rest))
    (start : skipSpace (c :: cs) = c :: cs) (plain : c ≠ '[' ∧ c ≠ '\x7b') :
    (∃ word value, (c, word, value) ∈ words) ∨ c = '"' ∨ c = '-' ∨ isDigit c = true := by
  unfold readValue at read
  rw [start] at read
  split at read
  next => cases read
  next same => exact absurd (List.cons.inj same).1 plain.1
  next same => exact absurd (List.cons.inj same).1 plain.2
  next same => exact .inl ⟨['u', 'l', 'l'], .null, by simp [words, (List.cons.inj same).1]⟩
  next same => exact .inl ⟨['r', 'u', 'e'], .bool true, by simp [words, (List.cons.inj same).1]⟩
  next same =>
    exact .inl ⟨['a', 'l', 's', 'e'], .bool false, by simp [words, (List.cons.inj same).1]⟩
  next same => exact .inr (.inl (List.cons.inj same).1)
  next same => exact .inr (.inr (.inl (List.cons.inj same).1))
  next same =>
    cases same
    split at read
    · exact .inr (.inr (.inr ‹_›))
    · cases read

theorem Cut.lifted {α : Type} {E : Reading α → Prop} {F : BoundedReading α → Prop}
    {begun whole : Reading α} (cut : Cut E p more begun whole)
    (ends : E begun → F (lift begun)) : Cut F p more (lift begun) (lift whole) := by
  cases cut with
  | failed fault => exact .failed _
  | kept inside read =>
      subst read
      exact .kept inside rfl
  | ends ended => exact .ends (ends ended)

theorem numeral_cut {negative : Bool}
    (outOfRange : readNumeral negative p = faultBefore .numberOutOfRange [] → overrun)
    (more : List Char) :
    Cut (BreaksOrShort IsNumber overrun) p more
      (lift ((readNumeral negative p).map fun (n, after) => (.number n, after)))
      (lift ((readNumeral negative (p ++ more)).map fun (n, after) => (.number n, after))) := by
  have cut := readNumeral_cut negative p more
  generalize readNumeral negative p = begun at cut outOfRange ⊢
  refine (cut.map (F := fun r => BreaksOrShort IsNumber overrun (lift r)) Json.number ?_).lifted id
  intro ended
  cases ended with
  | number n => exact .taken ⟨n, rfl⟩
  | unfinished => exact .breaks (.unfinished .endInValue rfl)
  | outOfRange => exact .breaks (.outOfRange (outOfRange rfl))

theorem readValue_first_cut (short : (c :: q).length < length) (length' : Nat)
    (start : skipSpace (c :: (q ++ more)) = c :: (q ++ more)) (plain : c ≠ '[' ∧ c ≠ '\x7b')
    (overruns : NumeralOverruns (c :: q) → overrun) :
    Cut (BreaksOrShort IsNumber overrun) (c :: q) more
      (readValue ceiling length room path (c :: q))
      (readValue ceiling length' room path (c :: (q ++ more))) := by
  have behind : q <:+ c :: q := List.suffix_cons c q
  cases read : readValue ceiling length' room path (c :: (q ++ more)) with
  | error trouble => exact .failed trouble
  | ok result =>
      rw [← read]
      rcases start_cases read start plain with ⟨word, value, listed⟩ | rfl | rfl | digit
      · rw [readValue_word listed, readValue_word listed]
        exact ((readWord_cut value word q more).mono behind id).lifted fun r => .breaks r.breaks
      · rw [readValue_text, readValue_text]
        have cut := readText_cut (Nat.lt_of_succ_lt short) length' more
        refine ((cut.mono behind id).map (F := Unfinished) Json.text ?_).lifted
          fun r => .breaks r.breaks
        rintro ⟨kind, isEnd, same⟩
        exact ⟨kind, isEnd, by rw [same]; rfl⟩
      · rw [readValue_minus, readValue_minus]
        refine (numeral_cut (fun reached => ?_) more).mono behind id
        exact overruns (.negative reached)
      · rw [readValue_digit _ _ _ _ _ digit, readValue_digit _ _ _ _ _ digit]
        refine numeral_cut (fun reached => ?_) more
        exact overruns (.positive digit reached)

/-- A value without entries that is cut off. -/
theorem readValue_plain_cut (short : p.length < length) (length' : Nat)
    (start : skipSpace p = c :: q) (inside : c :: q <:+ p)
    (continued : skipSpace (p ++ more) = c :: (q ++ more)) (plain : c ≠ '[' ∧ c ≠ '\x7b')
    (overruns : NumeralOverruns (skipSpace p) → overrun) :
    Cut (BreaksOrShort IsNumber overrun) p more (readValue ceiling length room path p)
      (readValue ceiling length' room path (p ++ more)) := by
  have again := skipSpace_skipSpace (p ++ more)
  rw [continued] at again
  rw [start] at overruns
  rw [← readValue_skipSpace _ _ _ _ p, ← readValue_skipSpace _ _ _ _ (p ++ more), start,
    continued]
  have less : (c :: q).length < length := Nat.lt_of_le_of_lt inside.length_le short
  exact (readValue_first_cut less length' again plain overruns).mono inside id

/-- A value that is read under a ceiling is read alike without one. -/
theorem readValue_none_of_ok {value : Json} {rest : List Char}
    (read : readValue ceiling length room path cs = .ok (value, rest)) :
    readValue none length room [] cs = .ok (value, rest) := by
  rcases agrees_readValue ceiling length room path [] cs with ⟨same, -⟩ | ⟨_, _, -, stopped, -⟩
  · rw [← same, read]
  · rw [read] at stopped
    cases stopped

theorem readMember_none_of_ok {member : String × Json} {rest : List Char} {count : Nat}
    (read : readMember ceiling length (readValue ceiling length room) path count cs =
      .ok (member, rest)) :
    readMember none length (readValue none length room) [] 0 cs = .ok (member, rest) := by
  obtain ⟨quoted, key, behind, after, value, rfl, text, colon, first, rfl⟩ := readMember_ok _ read
  rw [readMember_eq text rfl colon, readValue_path, readValue_none_of_ok first]
  rfl

end

/-- A text that is cut off inside a value breaks off, unless the value is a number. -/
theorem readValue_cut (ceiling : Option Nat) {length : Nat} (length' room : Nat) (path : List Step)
    {p : List Char} (short : p.length < length) (more : List Char) :
    Cut (BreaksOrShort IsNumber (Overruns length room p)) p more
      (readValue ceiling length room path p)
      (readValue ceiling length' room path (p ++ more)) := by
  induction room generalizing path p with
  | zero =>
      rcases skipSpace_cut p more with blank | ⟨c, q, start, inside, continued⟩
      · rw [readValue_of_blank blank]
        exact .ends (.breaks (.unfinished .endInValue rfl))
      by_cases array : c = '['
      · subst array
        rw [readValue_of_array_deep continued]
        exact .failed _
      by_cases object : c = '\x7b'
      · subst object
        rw [readValue_of_object_deep continued]
        exact .failed _
      exact readValue_plain_cut short length' start inside continued ⟨array, object⟩ id
  | succ room ih =>
      rcases skipSpace_cut p more with blank | ⟨c, q, start, inside, continued⟩
      · rw [readValue_of_blank blank]
        exact .ends (.breaks (.unfinished .endInValue rfl))
      have behind : q <:+ p := (List.suffix_cons c q).trans inside
      have less : q.length < length := Nat.lt_of_lt_of_le inside.length_le (Nat.le_of_lt short)
      by_cases array : c = '['
      · subst array
        rw [readValue_of_array start, readValue_of_array continued]
        have items : Cut (Breaks (EntriesOverrun (readValue none length room [])
            (Overruns length room) (skipSpace q))) q more
            (readContainer .array (readItem ceiling (readValue ceiling length room) path) length q)
            (readContainer .array (readItem ceiling (readValue ceiling length' room) path) length'
              (q ++ more)) :=
          readContainer_cut (fun count c p short => readItem_cut fun path => ih path short)
            (fun _ _ _ _ read => readValue_none_of_ok (readItem_ok _ read)) less length'
        refine (items.map Json.array fun broken => .breaks ((broken.imp ?_).map _)).mono behind id
        exact fun reached => .inr (.inl ⟨q, start, reached⟩)
      by_cases object : c = '\x7b'
      · subst object
        rw [readValue_of_object start, readValue_of_object continued]
        have members : Cut (Breaks (EntriesOverrun
            (readMember none length (readValue none length room) [] 0)
            (MemberOverruns length (Overruns length room)) (skipSpace q))) q more
            (readContainer .object (readMember ceiling length (readValue ceiling length room) path)
              length q)
            (readContainer .object
              (readMember ceiling length' (readValue ceiling length' room) path) length'
              (q ++ more)) :=
          readContainer_cut
            (fun count c p short => readMember_cut (fun path p => ih path) short length')
            (fun _ _ _ _ => readMember_none_of_ok) less length'
        refine (members.map Json.object fun broken => .breaks ((broken.imp ?_).map _)).mono
          behind id
        exact fun reached => .inr (.inr ⟨q, start, reached⟩)
      exact readValue_plain_cut short length' start inside continued ⟨array, object⟩ .inl

end GameScenes.Json
