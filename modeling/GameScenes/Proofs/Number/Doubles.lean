import GameScenes.Number.Numeral
import GameScenes.Proofs.Number.Arithmetic

/-!
# Floats of 64 bits as numbers

A double approximates a number when it stands for one of the nearest numbers that doubles hold, or
is infinite because the number is large (`Approximates`).  Whole numbers of up to 53 bits and the
first powers of ten are doubles, so that a product or a quotient of the two is rounded only once.

A whole number times a power of ten is rounded to a nearest double (`nearestDouble_approximates`):
by one operation on doubles where both are doubles, by a quotient or a product of whole numbers
otherwise, and by its magnitude alone far outside the range of doubles.
-/

set_option autoImplicit false

namespace GameScenes.Number

open Float.Model (Format UnpackedFloat totalExponent)
open Float.Model.UnpackedFloat

variable {x y : Float} {u : UnpackedFloat} {q r v w : ℚ}

/-- A float of 64 bits taken apart. -/
def unpackDouble (x : Float) : UnpackedFloat := x.toModel.unpack

/-- The rational number that a finite float of 64 bits stands for. -/
def doubleValue? (x : Float) : Option ℚ := (ofDouble? x).map Dyadic.value

theorem canonical_unpackDouble (x : Float) : Canonical .binary64 (unpackDouble x) :=
  unpack_canonical (by decide) _

theorem doubleValue?_eq (x : Float) : doubleValue? x = value? (unpackDouble x) :=
  value_dyadic? (S := .binary64) x.toBits.toBitVec

theorem isInf_eq_false (value : doubleValue? x = some v) : x.isInf = false := by
  rw [doubleValue?_eq] at value
  change (unpackDouble x).isInf = false
  cases shape : unpackDouble x with
  | infinity | notANumber =>
      rw [shape] at value
      cases value
  | zero | finite => rfl

/-! ## Whole numbers -/

/-- The whole number read off a dyadic number is the number itself. -/
theorem Dyadic.toInt?_eq_some {d : Dyadic} {k : Int} : d.toInt? = some k ↔ d.value = k := by
  obtain ⟨negative, n, e⟩ := d
  have signed : ∀ m : Nat, ((if negative then -(m : Int) else m : Int) : ℚ) =
      if negative then -(m : ℚ) else m := by
    intro m
    split <;> simp
  have scaled : ∀ x : ℚ, (if negative then -(n : ℚ) else n) * x =
      if negative then -(n * x) else n * x := by
    intro x
    split <;> ring
  simp only [Dyadic.toInt?, Dyadic.value, Nat.pow_eq, scaled, Option.bind_eq_bind, Option.pure_def]
  by_cases above : 0 ≤ e
  · obtain ⟨places, rfl⟩ : ∃ places : Nat, e = places := ⟨e.toNat, by omega⟩
    rw [if_pos above, Option.bind_some, Option.map_some, Option.some_inj, ← @Int.cast_inj ℚ, signed,
      Int.toNat_natCast, zpow_natCast]
    push_cast
    rfl
  · obtain ⟨places, rfl⟩ : ∃ places : Nat, e = -(places : Int) := ⟨(-e).toNat, by omega⟩
    have power : (0 : ℚ) < 2 ^ places := by positivity
    simp only [above, if_false, neg_neg, Int.toNat_natCast, zpow_neg, zpow_natCast,
      ← div_eq_mul_inv]
    by_cases divides : n % 2 ^ places = 0
    · rw [if_pos divides]
      obtain ⟨m, rfl⟩ := Nat.dvd_of_mod_eq_zero divides
      have whole : ((2 ^ places * m : Nat) : ℚ) / 2 ^ places = m := by
        push_cast
        field_simp
      rw [whole, Nat.mul_div_cancel_left _ (Nat.two_pow_pos places), Option.bind_some,
        Option.map_some, Option.some_inj, ← @Int.cast_inj ℚ, signed]
    · rw [if_neg divides, Option.bind_none, Option.map_none]
      refine iff_of_false (Option.some_ne_none k).symm fun same => divides ?_
      -- a whole quotient would make the power divide the significand
      have product : (n : ℚ) = |(k : ℚ)| * 2 ^ places := by
        rw [← same]
        split <;> simp [abs_div, abs_of_pos power, power.ne']
      have : n = k.natAbs * 2 ^ places := by
        rw [← Int.cast_abs, Int.abs_eq_natAbs] at product
        exact mod_cast product
      rw [this, Nat.mul_mod_left]

theorem whole_iff {k : Int} :
    (ofDouble? x).bind Dyadic.toInt? = some k ↔ doubleValue? x = some (k : ℚ) := by
  simp only [doubleValue?, Option.bind_eq_some_iff, Option.map_eq_some_iff, Dyadic.toInt?_eq_some]

/-! ## Rounding to doubles -/

/-- That a double is a number rounded: it stands for one of the nearest numbers, and is finite
unless the number is large. -/
structure Approximates (q : ℚ) (x : Float) : Prop where
  nearest : ∀ v, doubleValue? x = some v → Nearest .binary64 q v
  finite : |q| < 2 ^ 1023 → ∃ v, doubleValue? x = some v

theorem Approximates.exact (approximates : Approximates q x) (held : Held .binary64 q)
    (small : |q| < 2 ^ 1023) : doubleValue? x = some q := by
  obtain ⟨v, value⟩ := approximates.finite small
  rw [value, (approximates.nearest v value).eq_of_held held]

theorem RoundsTo.approximates (rounds : RoundsTo .binary64 q u) :
    Approximates q (.ofModel (.pack u)) := by
  have packed : doubleValue? (.ofModel (.pack u)) = value? (unpack .binary64 (pack .binary64 u)) :=
    doubleValue?_eq _
  refine ⟨fun v value => rounds.nearest_of_packed (packed ▸ value), fun small => ?_⟩
  obtain ⟨v, value, -⟩ := rounds.nearest
  refine ⟨v, ?_⟩
  rw [packed, rounds.unpack_pack (by decide) small, value]

theorem doubleValue?_neg (x : Float) : doubleValue? (-x) = (doubleValue? x).map (-·) := by
  rw [doubleValue?_eq, doubleValue?_eq]
  have packed : unpackDouble (-x) = unpack .binary64 (pack .binary64 (unpackDouble x).neg) := rfl
  rw [packed, unpack_pack _ (canonical_unpackDouble x).neg]
  cases value : value? (unpackDouble x) with
  | some v => exact value?_neg value
  | none =>
      cases shape : unpackDouble x with
      | infinity | notANumber => rfl
      | zero | finite =>
          rw [shape] at value
          cases value

theorem Approximates.neg (approximates : Approximates q x) : Approximates (-q) (-x) := by
  refine ⟨fun v value => ?_, fun small => ?_⟩
  · rw [doubleValue?_neg, Option.map_eq_some_iff] at value
    obtain ⟨w, value, rfl⟩ := value
    exact (approximates.nearest w value).neg
  · rw [abs_neg] at small
    obtain ⟨v, value⟩ := approximates.finite small
    exact ⟨-v, by rw [doubleValue?_neg, value]; rfl⟩

theorem Approximates.mul (left : doubleValue? x = some v) (right : doubleValue? y = some w) :
    Approximates (v * w) (x * y) := by
  rw [doubleValue?_eq] at left right
  exact (mul_roundsTo (canonical_unpackDouble x) (canonical_unpackDouble y) left right).approximates

theorem Approximates.div (left : doubleValue? x = some v) (right : doubleValue? y = some w)
    (nonzero : w ≠ 0) : Approximates (v / w) (x / y) := by
  rw [doubleValue?_eq] at left right
  exact (div_roundsTo left right nonzero).approximates

/-- A whole number of up to 53 bits is a double. -/
theorem held_whole {k : Int} (short : |k| < 2 ^ 53) : Held .binary64 k :=
  ⟨k, 0, by simp, short, by decide⟩

theorem ofNat_approximates {n : Nat} (fits : n < 2 ^ 64) :
    Approximates n (UInt64.ofNat n).toFloat := by
  have rounds : RoundsTo .binary64 n (ofUInt64 .binary64 (UInt64.ofNat n)) := by
    have same : (UInt64.ofNat n).toNat = n := by
      rw [UInt64.toNat_ofNat', Nat.mod_eq_of_lt fits]
    have := normalize_roundsTo (S := .binary64) n 0 .positive
    rw [zpow_zero, mul_one, Int.cast_natCast] at this
    rwa [ofUInt64, same]
  exact rounds.approximates

theorem doubleValue?_ofNat {n : Nat} (short : n < 2 ^ 53) :
    doubleValue? (UInt64.ofNat n).toFloat = some (n : ℚ) := by
  refine (ofNat_approximates (by omega)).exact
    (held_whole (k := n) (by rw [Nat.abs_cast]; exact mod_cast short)) ?_
  rw [Nat.abs_cast]
  calc (n : ℚ) < 2 ^ 53 := mod_cast short
    _ ≤ 2 ^ 1023 := pow_le_pow_right₀ one_le_two (by decide)

theorem whole_exactlyRepresentable :
    ∀ e : Fin Float.exactlyRepresentablePowersOfTen.size,
      (ofDouble? Float.exactlyRepresentablePowersOfTen[e]).bind Dyadic.toInt? =
        some (10 ^ e.val) := by
  decide +kernel

theorem doubleValue?_powerOfTen {e : Nat} (less : e < Float.exactlyRepresentablePowersOfTen.size) :
    doubleValue? Float.exactlyRepresentablePowersOfTen[e] = some (10 ^ e) := by
  have value := whole_iff.mp (whole_exactlyRepresentable ⟨e, less⟩)
  push_cast at value
  exact value

/-! ## Decimals rounded to doubles -/

section
variable {S : Format} {m : Nat} {e : Int}

/-! ## A quotient or a product of whole numbers -/

theorem ofScientific_roundsTo (positive : 0 < m) (few : e ≤ 2 ^ S.exponentBits)
    (many : -((2 ^ S.exponentBits : Int) + m.log2) ≤ e) :
    RoundsTo S (m * 10 ^ e) (UnpackedFloat.ofScientific S m e) := by
  rw [UnpackedFloat.ofScientific, dif_neg positive.ne', if_neg (not_lt.mpr few),
    if_neg (not_lt.mpr many)]
  split
  case isTrue above =>
    obtain ⟨places, rfl⟩ : ∃ places : Nat, e = places := ⟨e.toNat, by omega⟩
    -- the significand of the left factor is too long for a float, so that `mul_roundsTo` is no use
    have product : 0 < m * 10 ^ places := by positivity
    have long : (m <<< S.mantissaBits * 10 ^ places).log2 = (m * 10 ^ places).log2 + S.mantissaBits := by
      rw [← log2_shiftLeft product, Nat.shiftLeft_eq, Nat.shiftLeft_eq, mul_right_comm]
    have low : (-S.mantissaBits + 0 : Int) ≤
        S.targetExponent (totalExponent (m <<< S.mantissaBits * 10 ^ places) (-S.mantissaBits + 0)) := by
      unfold Format.targetExponent totalExponent
      omega
    have value : Sign.apply .positive 1 * (((m <<< S.mantissaBits * 10 ^ places : Nat) : ℚ) *
        2 ^ (-S.mantissaBits + 0 : Int)) = m * 10 ^ (places : Int) := by
      rw [Nat.shiftLeft_eq, add_zero, zpow_neg, zpow_natCast, zpow_natCast]
      push_cast
      rw [Sign.apply, Int.cast_one, one_mul]
      field_simp
    rw [← value]
    exact roundWithAccuracy_roundsTo (.positive * .positive) (describes_exact _) low
  case isFalse below =>
    obtain ⟨places, rfl⟩ : ∃ places : Nat, e = -(places : Int) := ⟨(-e).toNat, by omega⟩
    have value : (m : ℚ) * 10 ^ (-(places : Int)) = m / 10 ^ places := by
      rw [zpow_neg, zpow_natCast, div_eq_mul_inv]
    rw [value]
    refine div_roundsTo ?_ ?_ (by positivity)
    · simp [value?, Sign.apply]
    · simp [value?, Sign.apply]

/-! ## Scientific notation -/

/-- Scientific notation is rounded where its exponent alone does not decide. -/
theorem ofScientific_approximates (positive : 0 < m) (few : e ≤ 2048)
    (many : -(2048 + m.log2 : Int) ≤ e) :
    Approximates (m * 10 ^ e) (Float.ofScientific m (e < 0) e.natAbs) := by
  unfold Float.ofScientific
  split
  case isTrue short =>
    have whole := doubleValue?_ofNat short.1
    have power := doubleValue?_powerOfTen (e := e.natAbs) (by
      have := short.2
      exact Nat.lt_succ_of_le this)
    split
    case isTrue below =>
      have value : (m : ℚ) * 10 ^ e = m / 10 ^ e.natAbs := by
        rw [decide_eq_true_iff] at below
        obtain ⟨places, rfl⟩ : ∃ places : Nat, e = -(places : Int) := ⟨(-e).toNat, by omega⟩
        rw [zpow_neg, zpow_natCast, Int.natAbs_neg, Int.natAbs_natCast, div_eq_mul_inv]
      rw [value]
      exact Approximates.div whole power (by positivity)
    case isFalse above =>
      have value : (m : ℚ) * 10 ^ e = m * 10 ^ e.natAbs := by
        rw [decide_eq_true_iff] at above
        obtain ⟨places, rfl⟩ : ∃ places : Nat, e = places := ⟨e.toNat, by omega⟩
        rw [zpow_natCast, Int.natAbs_natCast]
      rw [value]
      exact Approximates.mul whole power
  case isFalse long =>
    have signed : (if decide (e < 0) then Int.negOfNat e.natAbs else Int.ofNat e.natAbs) = e := by
      split
      case isTrue below =>
        rw [decide_eq_true_iff] at below
        rw [Int.negOfNat_eq]
        exact (by omega : -((e.natAbs : Nat) : Int) = e)
      case isFalse above =>
        rw [decide_eq_true_iff] at above
        exact (by omega : ((e.natAbs : Nat) : Int) = e)
    simp only [signed]
    exact (ofScientific_roundsTo positive few many).approximates

/-! ## Numerals of any magnitude -/

theorem le_decimalLength (positive : 0 < m) : 10 ^ (decimalLength m - 1) ≤ m := by
  have some : 0 < (digitsOf m).length := Nat.length_toDigits_pos
  rw [decimalLength, if_neg positive.ne']
  by_contra less
  by_cases one : (digitsOf m).length = 1
  · rw [one] at less
    omega
  · have := (Nat.length_toDigits_le_iff (by decide) (by omega)).mpr (not_le.mp less)
    unfold digitsOf at *
    omega

theorem lt_decimalLength (positive : 0 < m) : m < 10 ^ decimalLength m := by
  have some : 0 < (digitsOf m).length := Nat.length_toDigits_pos
  rw [decimalLength, if_neg positive.ne']
  exact (Nat.length_toDigits_le_iff (by decide) some).mp le_rfl

theorem decimalLength_le_log2 (positive : 0 < m) : decimalLength m ≤ m.log2 + 1 := by
  have : 2 ^ (decimalLength m - 1) ≤ m :=
    (Nat.pow_le_pow_left (by decide) _).trans (le_decimalLength positive)
  have := (Nat.le_log2 positive.ne').mpr this
  omega

theorem two_pow_le_ten_pow {a b : Nat} (le : a ≤ 3 * b) : (2 : ℚ) ^ a ≤ 10 ^ b :=
  calc (2 : ℚ) ^ a ≤ 2 ^ (3 * b) := pow_le_pow_right₀ one_le_two le
    _ = 8 ^ b := by rw [pow_mul]; norm_num
    _ ≤ 10 ^ b := by gcongr; norm_num

/-- What is smaller than half of the smallest double is rounded to zero. -/
theorem approximates_zero (small : |q| < 2 ^ (-1075 : Int)) : Approximates q 0.0 := by
  have zero : doubleValue? 0.0 = some 0 := by
    have := whole_iff.mp (by decide +kernel : (ofDouble? 0.0).bind Dyadic.toInt? = some 0)
    exact mod_cast this
  refine ⟨fun v value => ?_, fun _ => ⟨0, zero⟩⟩
  obtain rfl : 0 = v := Option.some_inj.mp (zero.symm.trans value)
  have least : Format.binary64.minExponent = -1074 := by decide
  refine ⟨-1074, 0, ⟨least.le, ?_, .inl least.symm⟩, by simp, ?_⟩
  · exact small.trans_le (zpow_le_zpow_right₀ one_le_two (by decide))
  · have half : (2 : ℚ) ^ (-1075 : Int) = 2 ^ (-1074 : Int) / 2 := by
      rw [div_eq_mul_inv, ← zpow_sub_one₀ two_ne_zero]
      rfl
    rw [zero_sub, abs_neg, ← half]
    exact small.le

theorem approximates_infinity (large : 2 ^ 1023 ≤ |q|) :
    Approximates q (Float.ofBits 0x7FF0000000000000) := by
  have infinite : doubleValue? (Float.ofBits 0x7FF0000000000000) = none := by
    rw [doubleValue?, (by decide +kernel : ofDouble? (Float.ofBits 0x7FF0000000000000) = none),
      Option.map_none]
  refine ⟨fun v value => ?_, fun small => absurd small large.not_gt⟩
  rw [infinite] at value
  cases value

/-- A decimal is rounded to a nearest double, whatever its digits and its exponent. -/
theorem nearestDouble_approximates (m : Nat) (e : Int) :
    Approximates (m * 10 ^ e) (nearestDouble m e) := by
  unfold nearestDouble
  dsimp only
  split
  case isTrue none =>
    rw [none, Nat.cast_zero, zero_mul]
    exact approximates_zero (by rw [abs_zero]; positivity)
  case isFalse some =>
    have positive : 0 < m := Nat.pos_of_ne_zero some
    have above := le_decimalLength positive
    have below := lt_decimalLength positive
    have log := decimalLength_le_log2 positive
    have nonneg : (0 : ℚ) ≤ m * 10 ^ e := by positivity
    split
    case isTrue large =>
      apply approximates_infinity
      rw [abs_of_nonneg nonneg]
      calc (2 : ℚ) ^ 1023 ≤ 10 ^ 400 := two_pow_le_ten_pow (by decide)
        _ = 10 ^ ((400 : Nat) : Int) := (zpow_natCast 10 400).symm
        _ ≤ 10 ^ ((decimalLength m - 1 : Nat) + e) := zpow_le_zpow_right₀ (by norm_num) (by omega)
        _ = 10 ^ (decimalLength m - 1) * 10 ^ e := by rw [zpow_add₀ (by norm_num), zpow_natCast]
        _ ≤ m * 10 ^ e := by
            gcongr
            exact mod_cast above
    case isFalse notLarge =>
      split
      case isTrue small =>
        apply approximates_zero
        rw [abs_of_nonneg nonneg]
        calc (m : ℚ) * 10 ^ e < 10 ^ decimalLength m * 10 ^ e := by
              gcongr
              exact mod_cast below
          _ = 10 ^ (decimalLength m + e) := by rw [zpow_add₀ (by norm_num), zpow_natCast]
          _ ≤ 10 ^ (-400 : Int) := zpow_le_zpow_right₀ (by norm_num) (by omega)
          _ ≤ 2 ^ (-1075 : Int) := inv_anti₀ (by positivity) (two_pow_le_ten_pow (by decide))
      case isFalse notSmall => exact ofScientific_approximates positive (by omega) (by omega)

end

end GameScenes.Number
