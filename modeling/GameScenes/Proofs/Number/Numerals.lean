import GameScenes.Proofs.Json.Readable
import GameScenes.Proofs.Number.Doubles

/-!
# The numerals that are read

A numeral has a sign or none, digits with a point or none among them, and a power of ten or none
(`Numeral`).  A text is read as a finite double exactly when it is a numeral, and then as a double
that approximates the number that the numeral denotes; it is read as a whole number exactly when the
numeral is plain and the number is one of 64 bits.
-/

set_option autoImplicit false

namespace GameScenes.Number

variable {c : Char} {cs ds rest : List Char} {s : String}

/-! ## Signs -/

/-- A sign in front of a numeral, or none. -/
inductive NumeralSign where
  | none
  | plus
  | minus
  deriving DecidableEq, Repr

namespace NumeralSign

def chars : NumeralSign → List Char
  | none => []
  | plus => ['+']
  | minus => ['-']

def negative : NumeralSign → Bool
  | minus => true
  | _ => false

end NumeralSign

theorem splitSign_chars (sign : NumeralSign) (bare : ∀ c ∈ cs.head?, c ≠ '-' ∧ c ≠ '+') :
    splitSign (sign.chars ++ cs) = (sign.negative, cs) := by
  cases sign with
  | plus | minus => rfl
  | none =>
      simp only [NumeralSign.chars, List.nil_append, NumeralSign.negative]
      unfold splitSign
      split
      · exact absurd rfl (bare '-' rfl).1
      · exact absurd rfl (bare '+' rfl).2
      · rfl

theorem exists_sign (cs : List Char) :
    ∃ sign : NumeralSign, cs = sign.chars ++ (splitSign cs).2 ∧ sign.negative = (splitSign cs).1 := by
  unfold splitSign
  split
  · exact ⟨.minus, rfl, rfl⟩
  · exact ⟨.plus, rfl, rfl⟩
  · exact ⟨.none, rfl, rfl⟩

/-! ## Digits -/

theorem all_takeWhile (cs : List Char) : (cs.takeWhile isDigit).all isDigit = true :=
  List.all_eq_true.mpr fun _ member => List.mem_takeWhile_imp member

theorem not_sign (digit : isDigit c = true) : c ≠ '-' ∧ c ≠ '+' :=
  Json.isDigit_cases (P := fun c => c ≠ '-' ∧ c ≠ '+') (by decide) digit

/-! ## Powers of ten -/

/-- The power of ten at the end of a numeral. -/
structure PowerPart where
  mark : Char
  sign : NumeralSign
  digits : List Char
  marked : mark = 'e' ∨ mark = 'E'
  nonempty : digits ≠ []
  decimal : digits.all isDigit = true

namespace PowerPart

def chars (p : PowerPart) : List Char := p.mark :: (p.sign.chars ++ p.digits)

def value (p : PowerPart) : Int :=
  if p.sign.negative then -(natOfDigits 0 p.digits : Int) else natOfDigits 0 p.digits

end PowerPart

theorem splitSign_digits (sign : NumeralSign) (digits : ds.all isDigit = true) :
    splitSign (sign.chars ++ ds) = (sign.negative, ds) := by
  refine splitSign_chars sign fun c member => not_sign ?_
  exact List.all_eq_true.mp digits c (List.mem_of_mem_head? member)

theorem readExponent?_chars (p : PowerPart) : readExponent? p.chars = some p.value := by
  simp only [readExponent?, PowerPart.chars, p.marked, if_true, splitSign_digits p.sign p.decimal,
    List.isEmpty_eq_false_iff.mpr p.nonempty, p.decimal, Bool.not_true, Bool.or_self,
    Bool.false_eq_true, if_false, PowerPart.value]

theorem exists_power {k : Int} (read : readExponent? cs = some k) :
    ∃ p : Option PowerPart, cs = p.elim [] PowerPart.chars := by
  cases cs with
  | nil => exact ⟨none, rfl⟩
  | cons mark rest =>
      simp only [readExponent?] at read
      split at read
      case isFalse => cases read
      case isTrue marked =>
        split at read
        case isTrue => cases read
        case isFalse valid =>
          obtain ⟨sign, spelled, -⟩ := exists_sign rest
          simp only [Bool.or_eq_true, Bool.not_eq_true', not_or, List.isEmpty_iff,
            Bool.not_eq_false] at valid
          exact ⟨some ⟨mark, sign, _, marked, valid.1, valid.2⟩, congrArg _ spelled⟩

/-! ## Numerals -/

/-- A decimal numeral. -/
structure Numeral where
  sign : NumeralSign
  whole : List Char
  fraction : Option (List Char)
  power : Option PowerPart
  nonempty : whole ++ fraction.getD [] ≠ []
  decimal : (whole ++ fraction.getD []).all isDigit = true

namespace Numeral

variable (n : Numeral)

def pointPart : List Char := n.fraction.elim [] ('.' :: ·)

def powerPart : List Char := n.power.elim [] PowerPart.chars

/-- The characters after the sign. -/
def body : List Char := n.whole ++ (n.pointPart ++ n.powerPart)

def chars : List Char := n.sign.chars ++ n.body

/-- The whole number that all digits write. -/
def significand : Nat := natOfDigits 0 (n.whole ++ n.fraction.getD [])

/-- The power of ten that the significand is multiplied by. -/
def exponent : Int := n.power.elim 0 PowerPart.value - (n.fraction.getD []).length

/-- The number that a numeral denotes. -/
def value : ℚ :=
  if n.sign.negative then -(n.significand * 10 ^ n.exponent) else n.significand * 10 ^ n.exponent

/-- That a numeral has neither a point nor a power of ten. -/
def IsPlain : Prop := n.fraction = none ∧ n.power = none

/-- The double that a numeral is read as. -/
def double : Float :=
  if n.sign.negative then -(nearestDouble n.significand n.exponent)
  else nearestDouble n.significand n.exponent

theorem double_approximates : Approximates n.value n.double := by
  have magnitude := nearestDouble_approximates n.significand n.exponent
  unfold value double
  split
  · exact magnitude.neg
  · exact magnitude

/-- The number of a plain numeral is whole. -/
theorem value_of_isPlain (plain : n.IsPlain) :
    n.value = (if n.sign.negative then -(n.significand : Int) else n.significand : Int) := by
  unfold value exponent
  rw [plain.1, plain.2]
  split <;> simp

theorem exists_whole (plain : n.IsPlain) : ∃ j : Int, n.value = j :=
  ⟨_, n.value_of_isPlain plain⟩

end Numeral

/-! ## Reading a numeral -/

variable {n : Numeral} {x : Float} {v : ℚ} {k : Int}

theorem noDigit_powerPart (n : Numeral) : NoDigit n.powerPart := by
  unfold Numeral.powerPart
  cases n.power with
  | none => simp [NoDigit]
  | some p =>
      rintro c ⟨⟩
      rcases p.marked with mark | mark <;> rw [mark] <;> decide

theorem noDigit_pointPart (n : Numeral) : NoDigit (n.pointPart ++ n.powerPart) := by
  unfold Numeral.pointPart
  cases n.fraction with
  | none => exact noDigit_powerPart n
  | some ds =>
      rintro c ⟨⟩
      decide

theorem readExponent?_powerPart (n : Numeral) :
    readExponent? n.powerPart = some (n.power.elim 0 PowerPart.value) := by
  unfold Numeral.powerPart
  cases n.power with
  | none => rfl
  | some p => exact readExponent?_chars p

/-- The digits after a point, if there is one, and what follows them. -/
def splitFraction : List Char → List Char × List Char
  | '.' :: rest => (rest.takeWhile isDigit, rest.dropWhile isDigit)
  | rest => ([], rest)

/-- The double of the digits before and after the point and of what follows them. -/
def doubleOfParts? (whole fraction rest : List Char) : Option Float :=
  if (whole ++ fraction).isEmpty then none
  else
    match readExponent? rest with
    | none => none
    | some exponent =>
        some (nearestDouble (natOfDigits 0 (whole ++ fraction)) (exponent - fraction.length))

theorem readDecimal?_eq (cs : List Char) :
    readDecimal? cs =
      doubleOfParts? (cs.takeWhile isDigit) (splitFraction (cs.dropWhile isDigit)).1
        (splitFraction (cs.dropWhile isDigit)).2 :=
  rfl

theorem splitFraction_parts (n : Numeral) :
    splitFraction (n.pointPart ++ n.powerPart) = (n.fraction.getD [], n.powerPart) := by
  have digits := n.decimal
  rw [List.all_append, Bool.and_eq_true] at digits
  have fraction := takeWhile_digits digits.2 (noDigit_powerPart n)
  unfold Numeral.pointPart
  cases present : n.fraction with
  | some ds =>
      rw [present] at fraction
      exact Prod.ext fraction.1 fraction.2
  | none =>
      unfold Numeral.powerPart
      cases n.power with
      | none => rfl
      | some p =>
          simp only [Option.elim, PowerPart.chars, List.nil_append]
          rcases p.marked with mark | mark <;> rw [mark] <;> rfl

theorem readDecimal?_body (n : Numeral) :
    readDecimal? n.body = some (nearestDouble n.significand n.exponent) := by
  have digits := n.decimal
  rw [List.all_append, Bool.and_eq_true] at digits
  obtain ⟨front, behind⟩ := takeWhile_digits digits.1 (noDigit_pointPart n)
  simp only [readDecimal?_eq, Numeral.body, front, behind, splitFraction_parts, doubleOfParts?,
    List.isEmpty_eq_false_iff.mpr n.nonempty, readExponent?_powerPart, Bool.false_eq_true, if_false]
  rfl

theorem head_body (n : Numeral) : ∃ c cs, n.body = c :: cs ∧ (isDigit c = true ∨ c = '.') := by
  have digits := n.decimal
  have some := n.nonempty
  rw [List.all_append, Bool.and_eq_true] at digits
  unfold Numeral.body Numeral.pointPart
  cases whole : n.whole with
  | cons c cs =>
      rw [whole, List.all_cons, Bool.and_eq_true] at digits
      exact ⟨c, _, rfl, .inl digits.1.1⟩
  | nil =>
      cases fraction : n.fraction with
      | none => simp [whole, fraction] at some
      | some ds => exact ⟨'.', _, rfl, .inr rfl⟩

/-- A numeral does not start with the sign of another or with a letter. -/
theorem not_sign_or_letter (first : isDigit c = true ∨ c = '.') :
    (c ≠ '-' ∧ c ≠ '+') ∧ c.toLower ≠ 'i' ∧ c.toLower ≠ 'n' := by
  rcases first with digit | rfl
  · exact Json.isDigit_cases
      (P := fun c => (c ≠ '-' ∧ c ≠ '+') ∧ c.toLower ≠ 'i' ∧ c.toLower ≠ 'n') (by decide) digit
  · decide

theorem readWord?_eq_none (first : c.toLower ≠ 'i' ∧ c.toLower ≠ 'n') :
    readWord? (c :: cs) = none := by
  have other : ∀ word : String, (word.toList.head? = some 'i' ∨ word.toList.head? = some 'n') →
      String.ofList ((c :: cs).map Char.toLower) ≠ word := by
    rintro word start rfl
    simp only [List.map_cons, String.toList_ofList, List.head?_cons, Option.some_inj] at start
    exact start.elim first.1 first.2
  unfold readWord?
  rw [if_neg (not_or.mpr ⟨other "inf" (.inl rfl), other "infinity" (.inl rfl)⟩),
    if_neg (other "nan" (.inr rfl))]

theorem splitSign_numeral (n : Numeral) : splitSign n.chars = (n.sign.negative, n.body) := by
  obtain ⟨c, cs, body, first⟩ := head_body n
  refine splitSign_chars n.sign ?_
  rw [body]
  rintro _ ⟨⟩
  exact (not_sign_or_letter first).1

theorem readFloat?_numeral (spelled : s.toList = n.chars) : readFloat? s = some n.double := by
  obtain ⟨c, cs, body, first⟩ := head_body n
  have word : readWord? n.body = none := by
    rw [body]
    exact readWord?_eq_none (not_sign_or_letter first).2
  simp only [readFloat?, spelled, splitSign_numeral, word, readDecimal?_body, Option.map_some]
  rfl

/-! ## What is read is a numeral -/

theorem exists_fraction (cs : List Char) : ∃ fraction : Option (List Char),
    cs = fraction.elim [] ('.' :: ·) ++ (splitFraction cs).2 ∧
      fraction.getD [] = (splitFraction cs).1 ∧ (fraction.getD []).all isDigit = true := by
  unfold splitFraction
  split
  case h_1 rest =>
    exact ⟨some (rest.takeWhile isDigit), congrArg _ List.takeWhile_append_dropWhile.symm, rfl,
      all_takeWhile rest⟩
  case h_2 => exact ⟨none, rfl, rfl, rfl⟩

theorem exists_body (read : readDecimal? cs = some x) (sign : NumeralSign) :
    ∃ n : Numeral, n.sign = sign ∧ n.body = cs := by
  rw [readDecimal?_eq, doubleOfParts?] at read
  obtain ⟨fraction, spelled, digits, decimal⟩ := exists_fraction (cs.dropWhile isDigit)
  split at read
  case isTrue => cases read
  case isFalse nonempty =>
    rw [List.isEmpty_iff] at nonempty
    cases exponent : readExponent? (splitFraction (cs.dropWhile isDigit)).2 with
    | none =>
        rw [exponent] at read
        cases read
    | some k =>
        obtain ⟨power, rest⟩ := exists_power exponent
        refine ⟨⟨sign, cs.takeWhile isDigit, fraction, power, digits ▸ nonempty, ?_⟩, rfl, ?_⟩
        · rw [List.all_append, all_takeWhile, decimal, Bool.and_self]
        · calc cs.takeWhile isDigit ++ (fraction.elim [] ('.' :: ·) ++ power.elim [] PowerPart.chars)
              = cs.takeWhile isDigit ++ cs.dropWhile isDigit := by rw [← rest, ← spelled]
            _ = cs := List.takeWhile_append_dropWhile

theorem not_finite_of_readWord? (read : readWord? cs = some x) : doubleValue? x = none := by
  have infinity : ofDouble? (Float.ofBits 0x7FF0000000000000) = none := by decide +kernel
  have notANumber : ofDouble? (Float.ofBits 0x7FF8000000000000) = none := by decide +kernel
  simp only [readWord?] at read
  split at read
  case isTrue =>
    cases read
    rw [doubleValue?, infinity, Option.map_none]
  case isFalse =>
    split at read
    case isTrue =>
      cases read
      rw [doubleValue?, notANumber, Option.map_none]
    case isFalse => cases read

theorem exists_numeral (read : readFloat? s = some x) (finite : doubleValue? x = some v) :
    ∃ n : Numeral, n.chars = s.toList := by
  obtain ⟨sign, spelled, -⟩ := exists_sign s.toList
  simp only [readFloat?, Option.map_eq_some_iff] at read
  obtain ⟨y, magnitude, signed⟩ := read
  cases word : readWord? (splitSign s.toList).2 with
  | some z =>
      rw [word] at magnitude
      cases magnitude
      have infinite := not_finite_of_readWord? word
      rw [← signed] at finite
      split at finite
      · rw [doubleValue?_neg, infinite] at finite
        cases finite
      · rw [infinite] at finite
        cases finite
  | none =>
      rw [word] at magnitude
      obtain ⟨n, same, body⟩ := exists_body magnitude sign
      exact ⟨n, by rw [Numeral.chars, same, body, ← spelled]⟩

/-! ## Whole numbers -/

theorem all_body_iff (n : Numeral) : n.body.all isDigit = true ↔ n.IsPlain := by
  have digits := n.decimal
  rw [List.all_append, Bool.and_eq_true] at digits
  have point : isDigit '.' = false := by decide
  unfold Numeral.body Numeral.IsPlain Numeral.pointPart Numeral.powerPart
  cases n.fraction with
  | some ds => simp [point]
  | none =>
      cases n.power with
      | none => simpa using digits.1
      | some p =>
          have mark : isDigit p.mark = false := by
            rcases p.marked with mark | mark <;> rw [mark] <;> decide
          simp [PowerPart.chars, mark]

theorem natOfDigits_body (plain : n.IsPlain) : natOfDigits 0 n.body = n.significand := by
  unfold Numeral.body Numeral.significand Numeral.pointPart Numeral.powerPart
  rw [plain.1, plain.2]
  rfl

theorem readInt?_numeral (spelled : s.toList = n.chars) :
    readInt? s = some k ↔ n.IsPlain ∧ n.value = k ∧ minInt64 ≤ k ∧ k ≤ maxInt64 := by
  obtain ⟨c, cs, body, -⟩ := head_body n
  have some : n.body.isEmpty = false := by rw [body]; rfl
  simp only [readInt?, spelled, splitSign_numeral, some, Bool.false_or, Bool.not_eq_true']
  by_cases plain : n.IsPlain
  · rw [(all_body_iff n).mpr plain, if_neg (by decide), natOfDigits_body plain,
      n.value_of_isPlain plain, Int.cast_inj]
    generalize (if n.sign.negative then -(n.significand : Int) else n.significand : Int) = number
    split
    case isTrue inside =>
      rw [Option.some_inj]
      exact ⟨fun same => ⟨plain, same, same ▸ inside⟩, fun same => same.2.1⟩
    case isFalse outside =>
      exact iff_of_false (Option.some_ne_none k).symm fun same => outside (same.2.1 ▸ same.2.2)
  · rw [Bool.eq_false_iff.mpr fun all => plain ((all_body_iff n).mp all), if_pos rfl]
    exact iff_of_false (Option.some_ne_none k).symm fun same => plain same.1

theorem exists_numeral_of_readInt? (read : readInt? s = some k) :
    ∃ n : Numeral, n.chars = s.toList := by
  obtain ⟨sign, spelled, -⟩ := exists_sign s.toList
  simp only [readInt?] at read
  split at read
  case isTrue => cases read
  case isFalse valid =>
    simp only [Bool.or_eq_true, Bool.not_eq_true', not_or, List.isEmpty_iff,
      Bool.not_eq_false] at valid
    refine ⟨⟨sign, (splitSign s.toList).2, none, none, ?_, ?_⟩, ?_⟩
    · simpa using valid.1
    · simpa using valid.2
    · simpa [Numeral.chars, Numeral.body, Numeral.pointPart, Numeral.powerPart] using spelled.symm

end GameScenes.Number
