import GameScenes.Json.Lexeme
import Mathlib.Data.List.Basic
import Mathlib.Data.List.Infix
import Mathlib.Data.List.TakeWhile

/-!
# Lexemes that are cut off

A lexeme of a text is read alike from the beginning of the text as long as it ends there.  Where the
cut goes through it, a word or a text is unfinished.  What is left of a numeral is unfinished too,
or a numeral by itself, or one out of range (`readNumeral_cut`): a numeral is evaluated where it
ends.
-/

set_option autoImplicit false

namespace GameScenes.Json

open GameScenes.Number (isDigit)

variable {p q more : List Char}

/-! ## Beginnings -/

/-- How the reading of the beginning `p` of a text goes along with that of the whole text, of which
`more` is the rest: it is the same up to the cut, or it ends there; nothing is said about texts that
are not read. -/
inductive Cut {ε α : Type} (E : Except ε (α × List Char) → Prop) (p more : List Char)
    (begun : Except ε (α × List Char)) : Except ε (α × List Char) → Prop where
  | failed (trouble : ε) : Cut E p more begun (.error trouble)
  | kept {a : α} {q : List Char} : q <:+ p → begun = .ok (a, q) →
      Cut E p more begun (.ok (a, q ++ more))
  | ends {whole : Except ε (α × List Char)} : E begun → Cut E p more begun whole

namespace Cut

variable {ε α β : Type} {E F : Except ε (α × List Char) → Prop}
  {begun whole : Except ε (α × List Char)}

theorem mono (cut : Cut E q more begun whole) (suffix : q <:+ p)
    (ends : E begun → F begun) : Cut F p more begun whole := by
  cases cut with
  | failed trouble => exact .failed trouble
  | kept inside read => exact .kept (inside.trans suffix) read
  | ends ended => exact .ends (ends ended)

/-- A reading is the same up to the cut, whatever is made of what was read. -/
theorem map (cut : Cut E p more begun whole) (f : α → β)
    {F : Except ε (β × List Char) → Prop}
    (ends : E begun → F (begun.map fun (a, rest) => (f a, rest))) :
    Cut F p more (begun.map fun (a, rest) => (f a, rest))
      (whole.map fun (a, rest) => (f a, rest)) := by
  cases cut with
  | failed trouble => exact .failed trouble
  | kept inside read =>
      subst read
      exact .kept inside rfl
  | ends ended => exact .ends (ends ended)

end Cut

/-- A search through the beginning of a text ends with it, or finds what it finds in the text. -/
theorem dropWhile_cut (f : Char → Bool) (p more : List Char) :
    p.dropWhile f = [] ∨ ∃ c q, p.dropWhile f = c :: q ∧ c :: q <:+ p ∧
      (p ++ more).dropWhile f = c :: q ++ more ∧ (p ++ more).takeWhile f = p.takeWhile f := by
  cases found : p.dropWhile f with
  | nil => exact .inl rfl
  | cons c q =>
      have short : (p.takeWhile f).length ≠ p.length := by
        intro all
        have parts := congrArg List.length (List.takeWhile_append_dropWhile (p := f) (l := p))
        rw [List.length_append, found, all, List.length_cons] at parts
        omega
      refine .inr ⟨c, q, rfl, found ▸ List.dropWhile_suffix f, ?_, ?_⟩
      · rw [List.dropWhile_append, found]
        rfl
      · rw [List.takeWhile_append, if_neg short]

/-- That a reading stopped because the text ended. -/
def Unfinished {α : Type} (r : Except Fault α) : Prop :=
  ∃ kind : FaultKind, kind.isEnd = true ∧ r = faultAtEnd kind

/-! ## Words -/

theorem readWord_cut {α : Type} (a : α) (word p more : List Char) :
    Cut Unfinished p more ((readWord word p).map fun after => (a, after))
      ((readWord word (p ++ more)).map fun after => (a, after)) := by
  induction word generalizing p with
  | nil => exact .kept List.suffix_rfl rfl
  | cons w word ih =>
      cases p with
      | nil => exact .ends ⟨.endInValue, rfl, rfl⟩
      | cons c p =>
          rw [List.cons_append, readWord, readWord]
          split
          · exact (ih p).mono (List.suffix_cons c p) id
          · exact .failed _

/-! ## Numerals -/

/-- How the numeral at the end of a text may be read. -/
inductive NumeralEnds : Reading JsonNumber → Prop where
  | number (n : JsonNumber) : NumeralEnds (.ok (n, []))
  | unfinished : NumeralEnds (faultAtEnd .endInValue)
  | outOfRange : NumeralEnds (faultBefore .numberOutOfRange [])

section
variable (s : Significand) (negative smaller : Bool)

theorem floatOf_ends : NumeralEnds (floatOf s negative []) := by
  unfold floatOf
  split
  · exact .number _
  · exact .outOfRange

theorem floatOf_cut (p more : List Char) :
    Cut NumeralEnds p more (floatOf s negative p) (floatOf s negative (p ++ more)) := by
  unfold floatOf
  split
  · exact .kept List.suffix_rfl rfl
  · exact .failed _

theorem readExponentDigits_cut (exponent : Nat) (p more : List Char) :
    Cut NumeralEnds p more (readExponentDigits s negative smaller exponent p)
      (readExponentDigits s negative smaller exponent (p ++ more)) := by
  induction p generalizing exponent with
  | nil => exact .ends (floatOf_ends _ negative)
  | cons c p ih =>
      rw [List.cons_append, readExponentDigits, readExponentDigits]
      split
      case isFalse => exact floatOf_cut _ negative (c :: p) more
      case isTrue =>
        dsimp only
        split
        case isTrue => exact (ih _).mono (List.suffix_cons c p) id
        case isFalse =>
          split
          case isTrue => exact .failed _
          case isFalse =>
            rcases dropWhile_cut isDigit p more with all | ⟨d, q, found, inside, same, -⟩
            · rw [all]
              exact .ends (.number _)
            · rw [found, same]
              exact .kept (inside.trans (List.suffix_cons c p)) rfl

/-- An exponent from its first digit on. -/
def readUnsignedExponent (cs : List Char) : Reading JsonNumber :=
  match cs with
  | [] => faultAtEnd .endInValue
  | c :: rest =>
      if isDigit c then readExponentDigits s negative smaller (c.toNat - 48) rest
      else faultHere .invalidNumber (c :: rest)

theorem readUnsignedExponent_cut (p more : List Char) :
    Cut NumeralEnds p more (readUnsignedExponent s negative smaller p)
      (readUnsignedExponent s negative smaller (p ++ more)) := by
  cases p with
  | nil => exact .ends .unfinished
  | cons c p =>
      rw [List.cons_append, readUnsignedExponent, readUnsignedExponent]
      split
      · exact (readExponentDigits_cut s negative smaller _ p more).mono (List.suffix_cons c p) id
      · exact .failed _

theorem readExponent_cons (c : Char) (cs : List Char) : readExponent s negative (c :: cs) =
    if c = '+' then readUnsignedExponent s negative false cs
    else if c = '-' then readUnsignedExponent s negative true cs
    else readUnsignedExponent s negative false (c :: cs) := by
  unfold readExponent
  split
  next rest digits same =>
    split at same
    next tail start =>
      cases start
      cases same
      rfl
    next tail start =>
      cases start
      cases same
      rfl
    next plus minus =>
      cases same
      rw [if_neg fun same => plus cs (by rw [same]), if_neg fun same => minus cs (by rw [same])]
      rfl

theorem readExponent_cut (p more : List Char) :
    Cut NumeralEnds p more (readExponent s negative p) (readExponent s negative (p ++ more)) := by
  cases p with
  | nil => exact .ends .unfinished
  | cons c p =>
      rw [List.cons_append, readExponent_cons, readExponent_cons]
      split
      · exact (readUnsignedExponent_cut s negative false p more).mono (List.suffix_cons c p) id
      · split
        · exact (readUnsignedExponent_cut s negative true p more).mono (List.suffix_cons c p) id
        · exact readUnsignedExponent_cut s negative false (c :: p) more

theorem readFloatEnd_cons (c : Char) (cs : List Char) : readFloatEnd s negative (c :: cs) =
    if c = 'e' ∨ c = 'E' then readExponent s negative cs else floatOf s negative (c :: cs) := by
  unfold readFloatEnd
  split
  next start =>
    cases start
    rfl
  next start =>
    cases start
    rfl
  next small large =>
    rw [if_neg]
    rintro (rfl | rfl)
    · exact small cs rfl
    · exact large cs rfl

theorem readFloatEnd_cut (p more : List Char) :
    Cut NumeralEnds p more (readFloatEnd s negative p) (readFloatEnd s negative (p ++ more)) := by
  cases p with
  | nil => exact .ends (floatOf_ends s negative)
  | cons c p =>
      rw [List.cons_append, readFloatEnd_cons, readFloatEnd_cons]
      split
      · exact (readExponent_cut s negative p more).mono (List.suffix_cons c p) id
      · exact floatOf_cut s negative (c :: p) more

/-- A fraction whose digits and what follows them are known. -/
theorem readFraction_eq_of_digits {cs ds rest : List Char} (digits : cs.takeWhile isDigit = ds)
    (behind : cs.dropWhile isDigit = rest) : readFraction s negative cs =
      if ds = [] then (if rest = [] then faultAtEnd .endInValue else faultHere .invalidNumber rest)
      else readFloatEnd (s.pushFraction ds) negative rest := by
  unfold readFraction
  rw [digits, behind]
  cases ds with
  | nil => cases rest <;> rfl
  | cons d ds => rfl

theorem readFraction_cut (p more : List Char) :
    Cut NumeralEnds p more (readFraction s negative p) (readFraction s negative (p ++ more)) := by
  rcases dropWhile_cut isDigit p more with all | ⟨c, q, found, inside, same, digits⟩
  · refine .ends ?_
    rw [readFraction_eq_of_digits s negative rfl all]
    split
    · exact .unfinished
    · exact floatOf_ends _ negative
  · rw [readFraction_eq_of_digits s negative rfl found,
      readFraction_eq_of_digits s negative digits same]
    split
    · exact .failed _
    · exact (readFloatEnd_cut _ negative (c :: q) more).mono inside id

theorem readNumeralEnd_cons (c : Char) (cs : List Char) : readNumeralEnd s negative (c :: cs) =
    if c = '.' then readFraction s negative cs
    else if c = 'e' ∨ c = 'E' then readExponent s negative cs
    else if s.scale = 0 then .ok (wholeNumber s.value negative, c :: cs)
    else floatOf s negative (c :: cs) := by
  unfold readNumeralEnd
  split
  next start =>
    cases start
    rfl
  next start =>
    cases start
    rfl
  next start =>
    cases start
    rfl
  next point small large =>
    have notPoint : c ≠ '.' := by
      rintro rfl
      exact point cs rfl
    have noExponent : ¬ (c = 'e' ∨ c = 'E') := by
      rintro (rfl | rfl)
      · exact small cs rfl
      · exact large cs rfl
    rw [if_neg notPoint, if_neg noExponent]

theorem readNumeralEnd_ends : NumeralEnds (readNumeralEnd s negative []) := by
  unfold readNumeralEnd
  dsimp only
  split
  · exact .number _
  · exact floatOf_ends s negative

theorem readNumeralEnd_cut (p more : List Char) :
    Cut NumeralEnds p more (readNumeralEnd s negative p)
      (readNumeralEnd s negative (p ++ more)) := by
  cases p with
  | nil => exact .ends (readNumeralEnd_ends s negative)
  | cons c p =>
      have shorter : p <:+ c :: p := List.suffix_cons c p
      rw [List.cons_append, readNumeralEnd_cons, readNumeralEnd_cons]
      split
      · exact (readFraction_cut s negative p more).mono shorter id
      · split
        · exact (readExponent_cut s negative p more).mono shorter id
        · split
          · exact .kept List.suffix_rfl rfl
          · exact floatOf_cut s negative (c :: p) more

theorem readNumeral_cons (c : Char) (cs : List Char) : readNumeral negative (c :: cs) =
    if c = '0' then
      match cs with
      | d :: _ => if isDigit d then faultHere .invalidNumber cs
          else readNumeralEnd ⟨0, 0⟩ negative cs
      | [] => readNumeralEnd ⟨0, 0⟩ negative []
    else if isDigit c then
      readNumeralEnd (((c :: cs).takeWhile isDigit).foldl Significand.pushWhole ⟨0, 0⟩) negative
        ((c :: cs).dropWhile isDigit)
    else faultHere .invalidNumber (c :: cs) := by
  unfold readNumeral
  split
  next start => cases start
  next start =>
    cases start
    rw [if_pos rfl]
    cases cs <;> rfl
  next other start =>
    cases start
    rw [if_neg other]

/-- What a numeral becomes that is cut off: it is unfinished, or it is evaluated as it stands. -/
theorem readNumeral_cut (p more : List Char) :
    Cut NumeralEnds p more (readNumeral negative p) (readNumeral negative (p ++ more)) := by
  cases p with
  | nil => exact .ends .unfinished
  | cons c p =>
      have whole := dropWhile_cut isDigit (c :: p) more
      rw [List.cons_append] at whole ⊢
      rw [readNumeral_cons, readNumeral_cons]
      split
      · -- a zero in front is all there is of the digits
        cases p with
        | nil => exact .ends (readNumeralEnd_ends _ negative)
        | cons d p =>
            dsimp only [List.cons_append]
            split
            · exact .failed _
            · exact (readNumeralEnd_cut _ negative (d :: p) more).mono
                (List.suffix_cons c (d :: p)) id
      · split
        · rcases whole with all | ⟨d, q, found, inside, same, digits⟩
          · rw [all]
            exact .ends (readNumeralEnd_ends _ negative)
          · rw [found, same, digits]
            exact (readNumeralEnd_cut _ negative (d :: q) more).mono inside id
        · exact .failed _

end

/-! ## Texts -/

theorem hexDigit_le {c : Char} (digit : (hexDigit? c).isSome = true) : c ≤ 'f' := by
  unfold hexDigit? at digit
  split at digit
  case isTrue decimal => exact Char.le_trans decimal.2 (by decide)
  case isFalse =>
    split at digit
    case isTrue small => exact small.2
    case isFalse =>
      split at digit
      case isTrue large => exact Char.le_trans large.2 (by decide)
      case isFalse => cases digit

theorem utf8Size_hexDigit {c : Char} (digit : (hexDigit? c).isSome = true) : c.utf8Size = 1 := by
  have small : c.val ≤ 0x7f := UInt32.le_trans (hexDigit_le digit) (by decide)
  exact if_pos small

theorem byteLength_hexDigits {cs : List Char} (digits : ∀ c ∈ cs, (hexDigit? c).isSome = true) :
    byteLength cs = cs.length := by
  have counted : ∀ n, cs.foldl (fun n c => n + c.utf8Size) n = n + cs.length := by
    induction cs with
    | nil => exact fun n => rfl
    | cons c cs ih =>
        intro n
        rw [List.foldl_cons, ih (fun d inside => digits d (List.mem_cons_of_mem c inside)),
          utf8Size_hexDigit (digits c List.mem_cons_self), List.length_cons]
        omega
  exact (counted 0).trans (Nat.zero_add _)

theorem faultInUnit_unfinished {α : Type} {cs : List Char} (short : cs.length < 4)
    (digits : ∀ c ∈ cs, (hexDigit? c).isSome = true) :
    Unfinished (faultInUnit cs : Except Fault α) := by
  have few : byteLength (cs.take 4) < 4 := by
    rw [List.take_of_length_le (Nat.le_of_lt short), byteLength_hexDigits digits]
    exact short
  exact ⟨.endInText, rfl, if_pos few⟩

theorem readUnit_ok {cs rest : List Char} {unit : Nat} (read : readUnit cs = .ok (unit, rest)) :
    ∃ a b c d, cs = a :: b :: c :: d :: rest ∧
      (∀ x ∈ [a, b, c, d], (hexDigit? x).isSome = true) ∧
      ∀ other, readUnit (a :: b :: c :: d :: other) = .ok (unit, other) := by
  have faulty : ∀ cs : List Char, (faultInUnit cs : Reading Nat) ≠ .ok (unit, rest) := by
    intro cs same
    unfold faultInUnit at same
    split at same <;> cases same
  unfold readUnit at read
  split at read
  next a b c d behind =>
    split at read
    next first second third fourth =>
      obtain ⟨rfl, rfl⟩ := Prod.mk.inj (Except.ok.inj read)
      refine ⟨a, b, c, d, rfl, ?_, fun other => ?_⟩
      · simp [first, second, third, fourth]
      · simp only [readUnit, first, second, third, fourth]
    · exact absurd read (faulty _)
  · exact absurd read (faulty _)

theorem readUnit_cut (p more : List Char) :
    Cut Unfinished p more (readUnit p) (readUnit (p ++ more)) := by
  cases whole : readUnit (p ++ more) with
  | error fault => exact .failed fault
  | ok result =>
      obtain ⟨unit, rest⟩ := result
      obtain ⟨a, b, c, d, spelled, digits, again⟩ := readUnit_ok whole
      by_cases short : p.length < 4
      · -- what is left of the unit are digits, each of one byte
        have first : p <+: [a, b, c, d] := by
          have inside : p <+: [a, b, c, d] ++ rest := ⟨more, spelled⟩
          exact List.prefix_of_prefix_length_le inside (List.prefix_append _ _) short.le
        have faulty : readUnit p = faultInUnit p := by
          unfold readUnit
          split
          · simp at short
            omega
          · rfl
        rw [faulty]
        exact .ends (faultInUnit_unfinished short fun x inside => digits x (first.subset inside))
      · obtain ⟨q, rfl⟩ : ∃ q, p = a :: b :: c :: d :: q := by
          have inside : [a, b, c, d] <+: p :=
            List.prefix_of_prefix_length_le (⟨rest, spelled.symm⟩ : [a, b, c, d] <+: p ++ more)
              (List.prefix_append _ _) (Nat.le_of_not_lt short)
          exact ⟨inside.choose, inside.choose_spec.symm⟩
        obtain rfl : q ++ more = rest := by simpa using spelled
        exact .kept ⟨[a, b, c, d], rfl⟩ (again q)

theorem readLowUnit_escape (high : Nat) (c : Char) (cs : List Char) :
    readLowUnit high ('\\' :: c :: cs) =
      if c = 'u' then
        match readUnit cs with
        | .error fault => .error fault
        | .ok (low, after) =>
            if 0xDC00 ≤ low ∧ low ≤ 0xDFFF then
              .ok (Char.ofNat ((high - 0xD800) * 0x400 + (low - 0xDC00) + 0x10000), after)
            else faultBefore .loneSurrogate after
      else faultHere .unfinishedSurrogate (c :: cs) := by
  by_cases unit : c = 'u'
  · subst unit
    rfl
  · rw [if_neg unit]
    unfold readLowUnit
    split
    next start => cases start
    next start => cases start
    next start =>
      cases start
      exact absurd rfl unit
    next start =>
      cases start
      rfl
    next other => exact absurd rfl (other (c :: cs))

theorem readLowUnit_of_ne (high : Nat) {c : Char} (other : c ≠ '\\') (cs : List Char) :
    readLowUnit high (c :: cs) = faultHere .unfinishedSurrogate (c :: cs) := by
  unfold readLowUnit
  split
  next start => cases start
  next start =>
    cases start
    exact absurd rfl other
  next start =>
    cases start
    exact absurd rfl other
  next start =>
    cases start
    exact absurd rfl other
  next => rfl

theorem readLowUnit_cut (high : Nat) (p more : List Char) :
    Cut Unfinished p more (readLowUnit high p) (readLowUnit high (p ++ more)) := by
  cases p with
  | nil => exact .ends ⟨.endInText, rfl, rfl⟩
  | cons c p =>
      by_cases escape : c = '\\'
      case neg =>
        rw [List.cons_append, readLowUnit_of_ne high escape (p ++ more)]
        exact .failed _
      case pos =>
        subst escape
        cases p with
        | nil => exact .ends ⟨.endInText, rfl, rfl⟩
        | cons c p =>
            rw [List.cons_append, List.cons_append, readLowUnit_escape, readLowUnit_escape]
            split
            case isFalse => exact .failed _
            case isTrue =>
              have unit := readUnit_cut p more
              generalize readUnit p = begun at unit ⊢
              generalize readUnit (p ++ more) = whole at unit ⊢
              cases unit with
              | failed fault => exact .failed fault
              | ends stopped =>
                  obtain ⟨kind, isEnd, rfl⟩ := stopped
                  exact .ends ⟨kind, isEnd, rfl⟩
              | kept inside same =>
                  subst same
                  dsimp only
                  split
                  · exact .kept (inside.trans ⟨['\\', c], rfl⟩) rfl
                  · exact .failed _

theorem readCodeUnits_cut (p more : List Char) :
    Cut Unfinished p more (readCodeUnits p) (readCodeUnits (p ++ more)) := by
  have unit := readUnit_cut p more
  unfold readCodeUnits
  generalize readUnit p = begun at unit ⊢
  generalize readUnit (p ++ more) = whole at unit ⊢
  cases unit with
  | failed fault => exact .failed fault
  | ends stopped =>
      obtain ⟨kind, isEnd, rfl⟩ := stopped
      exact .ends ⟨kind, isEnd, rfl⟩
  | @kept unit q inside same =>
      subst same
      dsimp only
      split
      · exact .failed _
      · split
        · exact (readLowUnit_cut unit q more).mono inside id
        · exact .kept inside rfl

theorem readEscape_cut (p more : List Char) :
    Cut Unfinished p more (readEscape p) (readEscape (p ++ more)) := by
  unfold readEscape
  split
  case h_1 => exact .ends ⟨.endInText, rfl, rfl⟩
  case h_10 rest => exact (readCodeUnits_cut rest more).mono (List.suffix_cons 'u' rest) id
  case h_11 c rest _ _ _ _ _ _ _ _ _ =>
    rw [List.cons_append]
    split
    all_goals
      first
        | exact .failed _
        | next start => cases start; contradiction
  all_goals
    next rest => exact .kept (List.suffix_cons _ rest) rfl

/-- The bounds on the characters of the text and of its beginning need not be the same. -/
theorem readCharacters_cut (done : List Char) {bound : Nat} (enough : p.length < bound)
    (bound' : Nat) (more : List Char) :
    Cut Unfinished p more (readCharacters done bound p)
      (readCharacters done bound' (p ++ more)) := by
  induction bound' generalizing done bound p with
  | zero => exact .failed _
  | succ bound' ih =>
      obtain ⟨bound, rfl⟩ : ∃ b, bound = b + 1 := ⟨bound - 1, by omega⟩
      cases p with
      | nil => exact .ends ⟨.endInText, rfl, rfl⟩
      | cons c p =>
          have shorter : p <:+ c :: p := List.suffix_cons c p
          have fits : p.length < bound := Nat.lt_of_succ_lt_succ enough
          rw [List.cons_append, readCharacters, readCharacters]
          split
          · exact .kept shorter rfl
          · split
            · have escape := readEscape_cut p more
              generalize readEscape p = begun at escape ⊢
              generalize readEscape (p ++ more) = whole at escape ⊢
              cases escape with
              | failed fault => exact .failed fault
              | ends stopped =>
                  obtain ⟨kind, isEnd, rfl⟩ := stopped
                  exact .ends ⟨kind, isEnd, rfl⟩
              | kept inside same =>
                  subst same
                  exact (ih _ (Nat.lt_of_le_of_lt inside.length_le fits)).mono
                    (inside.trans shorter) id
            · split
              · exact .failed _
              · exact (ih _ fits).mono shorter id

/-- A text that is cut off is unfinished. -/
theorem readText_cut {bound : Nat} (enough : p.length < bound) (bound' : Nat) (more : List Char) :
    Cut Unfinished p more (readText bound p) (readText bound' (p ++ more)) := by
  have characters := readCharacters_cut [] enough bound' more
  unfold readText
  generalize readCharacters [] bound p = begun at characters ⊢
  generalize readCharacters [] bound' (p ++ more) = whole at characters ⊢
  cases characters with
  | failed fault => exact .failed fault
  | ends stopped =>
      obtain ⟨kind, isEnd, rfl⟩ := stopped
      exact .ends ⟨kind, isEnd, rfl⟩
  | kept inside same =>
      subst same
      exact .kept inside rfl

end GameScenes.Json
