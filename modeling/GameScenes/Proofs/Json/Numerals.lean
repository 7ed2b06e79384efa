import GameScenes.Json.Reader
import GameScenes.Proofs.Number.Numerals

/-!
# Numerals of a document

The reader of documents rounds more than once where the digits of a numeral or its power of ten are
not doubles.  A numeral that it keeps whole (`Kept`) is read as the number that it denotes, when it
is plain, and as the double that it is read as in a text, when it is not (`number_of_read`).
-/

set_option autoImplicit false

namespace GameScenes.Json

open Number (isDigit natOfDigits nearestDouble doubleValue? Numeral NumeralSign PowerPart)

variable {n : Numeral} {m : Nat} {e : Int} {cs ds rest : List Char}

/-! ## Doubles -/

theorem powerOfTen_eq :
    ∀ places : Fin Float.exactlyRepresentablePowersOfTen.size,
      Float.exactlyRepresentablePowersOfTen[places.val]? = some (powerOfTen places) := by
  decide +kernel

theorem ofScientific_zero :
    ∀ places : Fin Float.exactlyRepresentablePowersOfTen.size,
      Float.ofScientific 0 false places = 0.0 ∧ Float.ofScientific 0 true places = 0.0 := by
  decide +kernel

/-- A significand and a power of ten that are doubles are read as in a text. -/
theorem nearestDouble_eq (short : m < 2 ^ 53) (near : e.natAbs ≤ 22) :
    nearestDouble m e = Float.ofScientific m (e < 0) e.natAbs := by
  have inside : e.natAbs < Float.exactlyRepresentablePowersOfTen.size := Nat.lt_succ_of_le near
  unfold nearestDouble
  dsimp only
  split
  case isTrue zero =>
    subst zero
    obtain ⟨above, below⟩ := ofScientific_zero ⟨e.natAbs, inside⟩
    cases decide (e < 0) with
    | true => exact below.symm
    | false => exact above.symm
  case isFalse some =>
    have few : Number.decimalLength m ≤ 53 := by
      have log := Number.decimalLength_le_log2 (Nat.pos_of_ne_zero some)
      have := (Nat.log2_lt some).mpr short
      omega
    rw [if_neg (by omega), if_neg (by omega)]

theorem isInf_nearestDouble (short : m < 2 ^ 53) (near : e.natAbs ≤ 22) :
    (nearestDouble m e).isInf = false := by
  have small : |(m : ℚ) * 10 ^ e| < 2 ^ 1023 := by
    rw [abs_of_nonneg (by positivity)]
    calc (m : ℚ) * 10 ^ e ≤ 2 ^ 53 * 10 ^ ((22 : Nat) : Int) := by
          gcongr
          · exact mod_cast short.le
          · norm_num
          · omega
      _ = 2 ^ 53 * 10 ^ 22 := by rw [zpow_natCast]
      _ < 2 ^ 256 := by norm_num
      _ ≤ 2 ^ 1023 := pow_le_pow_right₀ one_le_two (by decide)
  obtain ⟨v, value⟩ := (Number.nearestDouble_approximates m e).finite small
  exact Number.isInf_eq_false value

theorem toFloat?_eq (short : m < 2 ^ 53) (near : e.natAbs ≤ 22) (negative : Bool) :
    Significand.toFloat? ⟨m, e⟩ negative =
      some (if negative then -(nearestDouble m e) else nearestDouble m e) := by
  have inside : e.natAbs < Float.exactlyRepresentablePowersOfTen.size := Nat.lt_succ_of_le near
  have power : powerOfTen e.natAbs = Float.exactlyRepresentablePowersOfTen[e.natAbs] := by
    have read := powerOfTen_eq ⟨e.natAbs, inside⟩
    rw [Array.getElem?_eq_getElem inside] at read
    exact (Option.some_inj.mp read).symm
  have finite := isInf_nearestDouble short near
  have nearest : nearestDouble m e = if e < 0 then (UInt64.ofNat m).toFloat / powerOfTen e.natAbs
      else (UInt64.ofNat m).toFloat * powerOfTen e.natAbs := by
    rw [nearestDouble_eq short near, Float.ofScientific, dif_pos ⟨short, near⟩, power]
    simp only [decide_eq_true_iff]
  have result : scaled (UInt64.ofNat m).toFloat e 4 = some (nearestDouble m e) := by
    have close : e.natAbs ≤ 308 := by omega
    by_cases above : 0 ≤ e
    · rw [if_neg above.not_gt] at nearest
      simp only [scaled, if_pos close, if_pos above, ← nearest, finite, if_neg Bool.false_ne_true]
    · rw [if_pos (not_le.mp above)] at nearest
      simp only [scaled, if_pos close, if_neg above, ← nearest]
  rw [Significand.toFloat?, result, Option.map_some]

/-! ## Parts of a numeral -/

theorem pushFraction_eq (value : Nat) (scale : Int)
    (small : natOfDigits value ds ≤ maxSignificand) :
    Significand.pushFraction ⟨value, scale⟩ ds = ⟨natOfDigits value ds, scale - ds.length⟩ := by
  induction ds generalizing value scale with
  | nil => simp [Significand.pushFraction, natOfDigits]
  | cons c ds ih =>
      have step : natOfDigits value (c :: ds) = natOfDigits (value * 10 + (c.toNat - 48)) ds := rfl
      rw [step] at small ⊢
      have fits := Number.le_natOfDigits (value * 10 + (c.toNat - 48)) ds
      simp only [Significand.pushFraction]
      rw [if_pos (fits.trans small), ih _ _ small, List.length_cons, Nat.cast_succ]
      congr 1
      omega

theorem natOfDigits_append (start : Nat) (cs ds : List Char) :
    natOfDigits start (cs ++ ds) = natOfDigits (natOfDigits start cs) ds :=
  List.foldl_append

theorem readExponentDigits_eq (s : Significand) (negative smaller : Bool) (exponent : Nat)
    (digits : ds.all isDigit = true) (small : natOfDigits exponent ds ≤ maxExponent) :
    readExponentDigits s negative smaller exponent ds =
      floatOf (s.scaleBy smaller (natOfDigits exponent ds)) negative [] := by
  induction ds generalizing exponent with
  | nil => rfl
  | cons c ds ih =>
      have step : natOfDigits exponent (c :: ds) =
          natOfDigits (exponent * 10 + (c.toNat - 48)) ds := rfl
      rw [step] at small ⊢
      have fits := Number.le_natOfDigits (exponent * 10 + (c.toNat - 48)) ds
      rw [List.all_cons, Bool.and_eq_true] at digits
      simp only [readExponentDigits]
      rw [if_pos digits.1, if_pos (fits.trans small), ih _ digits.2 small]

theorem readExponent_digits (s : Significand) (negative : Bool) (sign : NumeralSign) {c : Char}
    (digit : isDigit c = true) (ds : List Char) :
    readExponent s negative (sign.chars ++ c :: ds) =
      readExponentDigits s negative sign.negative (c.toNat - 48) ds := by
  have bare := Number.not_sign digit
  have start : readExponent s negative (sign.chars ++ c :: ds) =
      if isDigit c then readExponentDigits s negative sign.negative (c.toNat - 48) ds
      else faultHere .invalidNumber (c :: ds) := by
    cases sign with
    | plus | minus => rfl
    | none =>
        simp only [NumeralSign.chars, List.nil_append, NumeralSign.negative]
        unfold readExponent
        split
        next smaller digits parts =>
          split at parts
          · next same => exact absurd (List.cons.inj same).1 bare.2
          · next same => exact absurd (List.cons.inj same).1 bare.1
          · cases parts
            rfl
  rw [start, if_pos digit]

theorem readExponent_eq (s : Significand) (negative : Bool) (p : PowerPart)
    (small : natOfDigits 0 p.digits ≤ maxExponent) :
    readExponent s negative (p.sign.chars ++ p.digits) =
      floatOf (s.scaleBy p.sign.negative (natOfDigits 0 p.digits)) negative [] := by
  obtain ⟨mark, sign, digits, marked, nonempty, decimal⟩ := p
  cases digits with
  | nil => exact absurd rfl nonempty
  | cons c ds =>
      rw [List.all_cons, Bool.and_eq_true] at decimal
      have start : natOfDigits 0 (c :: ds) = natOfDigits (c.toNat - 48) ds := by
        simp [natOfDigits]
      rw [readExponent_digits s negative sign decimal.1]
      simp only [start] at small ⊢
      exact readExponentDigits_eq s negative sign.negative _ decimal.2 small

/-! ## Whole numerals -/

/-- That the significand of a numeral and its power of ten are doubles, and its exponent is read to
the end. -/
structure Exact (n : Numeral) : Prop where
  short : n.significand < 2 ^ 53
  near : n.exponent.natAbs ≤ 22
  read : ∀ p ∈ n.power, natOfDigits 0 p.digits ≤ maxExponent

/-- That a numeral is a whole number that fits into 64 bits, or exact. -/
def Kept (n : Numeral) : Prop := (n.IsPlain ∧ n.significand ≤ maxSignificand) ∨ Exact n

variable {number : JsonNumber} {negative : Bool}

theorem Kept.significand_le (kept : Kept n) : n.significand ≤ maxSignificand := by
  rcases kept with ⟨-, small⟩ | exact
  · exact small
  · have := exact.short
    unfold maxSignificand
    omega

theorem floatOf_eq (short : m < 2 ^ 53) (near : e.natAbs ≤ 22) (negative : Bool) :
    floatOf ⟨m, e⟩ negative rest =
      .ok (.float (if negative then -(nearestDouble m e) else nearestDouble m e), rest) := by
  rw [floatOf, toFloat?_eq short near]

theorem readPower_eq (s : Significand) (negative : Bool) {p : PowerPart}
    (small : natOfDigits 0 p.digits ≤ maxExponent) :
    readExponent s negative (p.sign.chars ++ p.digits) =
      floatOf ⟨s.value, s.scale + p.value⟩ negative [] := by
  rw [readExponent_eq s negative p small]
  unfold Significand.scaleBy PowerPart.value
  split <;> rfl

theorem readFloatEnd_powerPart (exact : Exact n) (s : Significand) (negative : Bool) :
    readFloatEnd s negative n.powerPart =
      floatOf ⟨s.value, s.scale + n.power.elim 0 PowerPart.value⟩ negative [] := by
  have small := exact.read
  unfold Numeral.powerPart
  cases present : n.power with
  | none =>
      rw [Option.elim, Option.elim, Int.add_zero]
      rfl
  | some p =>
      have parts := readPower_eq s negative (small p present)
      simp only [Option.elim, PowerPart.chars]
      rcases p.marked with mark | mark <;> rw [mark] <;> exact parts

theorem readFraction_eq (exact : Exact n) (fraction : n.fraction = some ds)
    (read : readFraction ⟨natOfDigits 0 n.whole, 0⟩ negative (ds ++ n.powerPart) =
      .ok (number, rest)) :
    floatOf ⟨n.significand, n.exponent⟩ negative [] = .ok (number, rest) := by
  have digits := n.decimal
  rw [List.all_append, Bool.and_eq_true, fraction] at digits
  obtain ⟨front, behind⟩ := Number.takeWhile_digits digits.2 (Number.noDigit_powerPart n)
  have all : natOfDigits (natOfDigits 0 n.whole) ds = n.significand := by
    rw [← natOfDigits_append, Numeral.significand, fraction]
    rfl
  have fits : natOfDigits (natOfDigits 0 n.whole) ds ≤ maxSignificand :=
    all ▸ Kept.significand_le (.inr exact)
  have power : (0 - (ds.length : Int)) + n.power.elim 0 PowerPart.value = n.exponent := by
    rw [Numeral.exponent, fraction, Option.getD_some]
    omega
  simp only [Option.getD_some] at front behind
  unfold readFraction at read
  rw [front, behind] at read
  split at read
  · cases read
  · cases read
  · rwa [pushFraction_eq _ _ fits, readFloatEnd_powerPart exact, all, power] at read

theorem readNumeralEnd_eq (exact : Exact n) (other : ¬ n.IsPlain)
    (read : readNumeralEnd ⟨natOfDigits 0 n.whole, 0⟩ negative (n.pointPart ++ n.powerPart) =
      .ok (number, rest)) :
    floatOf ⟨n.significand, n.exponent⟩ negative [] = .ok (number, rest) := by
  unfold Numeral.pointPart at read
  cases fraction : n.fraction with
  | some ds =>
      rw [fraction] at read
      exact readFraction_eq exact fraction read
  | none =>
      unfold Numeral.powerPart at read
      cases present : n.power with
      | none => exact absurd ⟨fraction, present⟩ other
      | some p =>
          have parts := readPower_eq ⟨natOfDigits 0 n.whole, 0⟩ negative (exact.read p present)
          have all : natOfDigits 0 n.whole = n.significand := by
            rw [Numeral.significand, fraction, Option.getD_none, List.append_nil]
          have power : 0 + p.value = n.exponent := by
            rw [Numeral.exponent, fraction, present, Option.getD_none, List.length_nil]
            simp
          rw [fraction, present] at read
          simp only [Option.elim, PowerPart.chars, List.nil_append] at read
          rw [all, power] at parts
          rcases p.marked with mark | mark <;> rw [mark] at read <;>
            exact parts.symm.trans (all ▸ read)

theorem readNumeral_ok {result : JsonNumber × List Char}
    (read : readNumeral negative cs = .ok result) :
    readNumeralEnd ((cs.takeWhile isDigit).foldl Significand.pushWhole ⟨0, 0⟩) negative
      (cs.dropWhile isDigit) = .ok result := by
  unfold readNumeral at read
  split at read
  case h_1 => cases read
  case h_2 rest =>
    cases rest with
    | nil => exact read
    | cons c rest =>
        cases digit : isDigit c with
        | true =>
            simp only [digit, if_true] at read
            cases read
        | false =>
            have zero : isDigit '0' = true := by decide
            simpa [List.takeWhile, List.dropWhile, digit, zero, Significand.pushWhole] using read
  case h_3 c rest other =>
    split at read
    · exact read
    · cases read

/-- What the reader gives for a numeral that it keeps. -/
theorem number_of_body (kept : Kept n)
    (read : readNumeral n.sign.negative n.body = .ok (number, rest)) :
    (n.IsPlain → number = wholeNumber n.significand n.sign.negative) ∧
      (¬ n.IsPlain → number = .float n.double) := by
  have digits := n.decimal
  rw [List.all_append, Bool.and_eq_true] at digits
  obtain ⟨front, behind⟩ := Number.takeWhile_digits digits.1 (Number.noDigit_pointPart n)
  have parts := readNumeral_ok read
  have fits : natOfDigits 0 n.whole ≤ maxSignificand := by
    have grown := Number.le_natOfDigits (natOfDigits 0 n.whole) (n.fraction.getD [])
    rw [← natOfDigits_append] at grown
    exact grown.trans kept.significand_le
  rw [Numeral.body, front, behind, foldl_pushWhole 0 n.whole fits] at parts
  refine ⟨fun plain => ?_, fun other => ?_⟩
  · rw [← Number.natOfDigits_body plain]
    unfold Numeral.body
    unfold Numeral.pointPart Numeral.powerPart at *
    rw [plain.1, plain.2] at *
    simp only [Option.elim, List.append_nil] at *
    cases parts
    rfl
  · have exact := kept.resolve_left fun plain => other plain.1
    have result := readNumeralEnd_eq exact other parts
    rw [floatOf_eq exact.short exact.near] at result
    cases result
    rfl

theorem readValue_minus (ceiling : Option Nat) (length room : Nat) (path : List Step)
    (cs : List Char) :
    readValue ceiling length room path ('-' :: cs) =
      lift ((readNumeral true cs).map fun (found, after) => (.number found, after)) := by
  unfold readValue
  rw [skipSpace_cons cs (by decide)]
  rfl

theorem readValue_noNumber {c : Char} (start : c = '+' ∨ c = '.') (ceiling : Option Nat)
    (length room : Nat) (path : List Step) (cs : List Char) :
    readValue ceiling length room path (c :: cs) = lift (faultHere .expectedValue (c :: cs)) := by
  unfold readValue
  rcases start with rfl | rfl <;> rw [skipSpace_cons cs (by decide)] <;> rfl

theorem readValue_chars {json : Json} {ceiling : Option Nat} {length room : Nat} {path : List Step}
    (read : readValue ceiling length room path n.chars = .ok (json, rest)) :
    ∃ number, readNumeral n.sign.negative n.body = .ok (number, rest) ∧ json = .number number := by
  have lifted : ∀ {r : Reading JsonNumber},
      lift (r.map fun (found, after) => (Json.number found, after)) = .ok (json, rest) →
        ∃ number, r = .ok (number, rest) ∧ json = .number number := by
    rintro (fault | ⟨found, after⟩) same
    · cases same
    · cases same
      exact ⟨found, rfl, rfl⟩
  obtain ⟨c, cs, body, first⟩ := Number.head_body n
  unfold Numeral.chars at read
  cases sign : n.sign with
  | plus =>
      rw [sign, NumeralSign.chars, List.singleton_append, readValue_noNumber (.inl rfl)] at read
      cases read
  | minus =>
      rw [sign, NumeralSign.chars, List.singleton_append, readValue_minus] at read
      exact lifted read
  | none =>
      rw [sign, NumeralSign.chars, List.nil_append, body] at read
      rw [body]
      rcases first with digit | rfl
      · rw [readValue_digit _ _ _ _ _ digit] at read
        exact lifted read
      · rw [readValue_noNumber (.inr rfl)] at read
        cases read

/-- A document's numeral that is kept is read as the number that it denotes, when it is plain, and
otherwise as the double that it is read as in a text. -/
theorem number_of_read {json : Json} (kept : Kept n) (read : Json.read n.chars = .ok json) :
    ∃ number, json = .number number ∧
      (n.IsPlain → number = wholeNumber n.significand n.sign.negative) ∧
      (¬ n.IsPlain → number = .float n.double) := by
  unfold Json.read readWhole at read
  split at read
  case h_1 value whole =>
    split at whole
    case h_1 => cases whole
    case h_2 value' rest parts =>
      obtain ⟨number, numeral, rfl⟩ := readValue_chars parts
      refine ⟨number, ?_, number_of_body kept numeral⟩
      split at whole
      · cases whole
        cases read
        rfl
      · cases whole
  case h_2 => cases read
  case h_3 => cases read

end GameScenes.Json
