import GameScenes.Geometry.Scalar
import GameScenes.Proofs.Number.Unpacked

/-!
# Comparing floats

The floats of a format are numbered in their order (`key`), negative zero and zero having one number.
Comparing floats is comparing these numbers (`compare_eq_compare_key`), and so is comparing the
rational numbers they stand for (`value_lt_iff`).  The place that the geometry gives a float agrees
with this order but sets negative zero before zero (`le_of_rank_le`).
-/

set_option autoImplicit false

namespace GameScenes.Number

open Float.Model (Format UnpackedFloat)
open Float.Model.UnpackedFloat

variable {S : Format} {s s' : Sign} {m m' : Nat} {e e' : Int} {u w : UnpackedFloat}

/-! ## The number of a float -/

/-- The number of a float's magnitude: its bits without the sign. -/
def magnitude (S : Format) : UnpackedFloat → Int
  | .finite _ m e _ => (e - S.minExponent) * 2 ^ S.mantissaBitsWithoutImplicit + m
  | .infinity _ => (2 ^ S.exponentBits - 1) * 2 ^ S.mantissaBitsWithoutImplicit
  | .zero _ => 0
  | .notANumber => 0

/-- The sign of a float; what is not a number has none of its own. -/
def signOf : UnpackedFloat → Sign
  | .finite s _ _ _ => s
  | .infinity s => s
  | .zero s => s
  | .notANumber => .positive

/-- The number of a float in the order of its format. -/
def key (S : Format) (u : UnpackedFloat) : Int := (signOf u).apply (magnitude S u)

/-- The number of a finite float grows with its exponent first, as the float itself does. -/
theorem Fits.lt_of_exponent_lt (fits : Fits S m e) (fits' : Fits S m' e') (less : e < e') :
    (e - S.minExponent) * 2 ^ S.mantissaBitsWithoutImplicit + m <
        (e' - S.minExponent) * 2 ^ S.mantissaBitsWithoutImplicit + m' ∧
      (m : ℚ) * 2 ^ e < m' * 2 ^ e' := by
  have above := fits.above
  have full : 2 ^ S.mantissaBitsWithoutImplicit ≤ m' := fits'.full.resolve_right (by omega)
  have short : m < 2 * 2 ^ S.mantissaBitsWithoutImplicit := two_pow_mantissaBits S ▸ fits.short
  obtain ⟨places, rfl⟩ : ∃ places : Nat, e' = e + 1 + places := ⟨(e' - e - 1).toNat, by omega⟩
  constructor
  · zify at full short
    have : (0 : Int) ≤ places * 2 ^ S.mantissaBitsWithoutImplicit := by positivity
    linarith
  · have positive : (0 : ℚ) < 2 ^ e := zpow_pos two_pos e
    have one : (1 : ℚ) ≤ 2 ^ places := one_le_pow₀ one_le_two
    have shortQ : (m : ℚ) < 2 * 2 ^ S.mantissaBitsWithoutImplicit := mod_cast short
    have fullQ : (2 : ℚ) ^ S.mantissaBitsWithoutImplicit ≤ m' := mod_cast full
    calc (m : ℚ) * 2 ^ e < 2 * 2 ^ S.mantissaBitsWithoutImplicit * 2 ^ e := by gcongr
      _ ≤ 2 * m' * 2 ^ e * 2 ^ places := by
          rw [← mul_one (2 * _ * _)]
          gcongr
      _ = m' * 2 ^ (e + 1 + places) := by
          rw [zpow_add₀ two_ne_zero, zpow_add_one₀ two_ne_zero, zpow_natCast]
          ring

/-- Of two finite floats without a sign one is less in every respect, or they are the same. -/
theorem Fits.trichotomy (fits : Fits S m e) (fits' : Fits S m' e') :
    (compare e e').then (compare m m') = .lt ∧
        (e - S.minExponent) * 2 ^ S.mantissaBitsWithoutImplicit + m <
          (e' - S.minExponent) * 2 ^ S.mantissaBitsWithoutImplicit + m' ∧
        (m : ℚ) * 2 ^ e < m' * 2 ^ e' ∨
      (e = e' ∧ m = m') ∨
      (compare e e').then (compare m m') = .gt ∧
        (e' - S.minExponent) * 2 ^ S.mantissaBitsWithoutImplicit + m' <
          (e - S.minExponent) * 2 ^ S.mantissaBitsWithoutImplicit + m ∧
        (m' : ℚ) * 2 ^ e' < m * 2 ^ e := by
  rcases lt_trichotomy e e' with less | rfl | greater
  · refine .inl ⟨?_, fits.lt_of_exponent_lt fits' less⟩
    rw [Int.compare_eq_lt.mpr less]
    rfl
  · have same : compare e e = .eq := Int.compare_eq_eq.mpr rfl
    rcases lt_trichotomy m m' with less | rfl | greater
    · refine .inl ⟨?_, by omega, by gcongr⟩
      rw [same, Nat.compare_eq_lt.mpr less]
      rfl
    · exact .inr (.inl ⟨rfl, rfl⟩)
    · refine .inr (.inr ⟨?_, by omega, by gcongr⟩)
      rw [same, Nat.compare_eq_gt.mpr greater]
      rfl
  · refine .inr (.inr ⟨?_, fits'.lt_of_exponent_lt fits greater⟩)
    rw [Int.compare_eq_gt.mpr greater]
    rfl

theorem Fits.compare_eq (fits : Fits S m e) (fits' : Fits S m' e') :
    (compare e e').then (compare m m') =
      compare ((e - S.minExponent) * 2 ^ S.mantissaBitsWithoutImplicit + m)
        ((e' - S.minExponent) * 2 ^ S.mantissaBitsWithoutImplicit + m') := by
  rcases fits.trichotomy fits' with ⟨order, less, -⟩ | ⟨rfl, rfl⟩ | ⟨order, greater, -⟩
  · rw [order, Int.compare_eq_lt.mpr less]
  · rw [Int.compare_eq_eq.mpr rfl, Nat.compare_eq_eq.mpr rfl, Int.compare_eq_eq.mpr rfl]
    rfl
  · rw [order, Int.compare_eq_gt.mpr greater]

/-- The number of infinity. -/
def top (S : Format) : Int := (2 ^ S.exponentBits - 1) * 2 ^ S.mantissaBitsWithoutImplicit

theorem key_zero (s : Sign) : key S (.zero s) = 0 := by
  cases s <;> rfl

theorem top_pos (S : Format) : 0 < top S := by
  have fields := two_pow_exponentBits S
  zify at fields
  have : (0 : Int) < 2 * S.exponentBias + 2 - 1 := by omega
  rw [top, fields]
  positivity

theorem magnitude_finite {positive : 0 < m} (canonical : Canonical S (.finite s m e positive)) :
    0 < magnitude S (.finite s m e positive) ∧ magnitude S (.finite s m e positive) < top S := by
  have above := canonical.1.above
  have below := canonical.2
  have low := minExponent_eq S
  have fields := two_pow_exponentBits S
  have short : m < 2 * 2 ^ S.mantissaBitsWithoutImplicit := two_pow_mantissaBits S ▸ canonical.1.short
  unfold maxExponent at below
  zify at fields short
  simp only [magnitude, top, fields]
  constructor
  · have : 0 ≤ e - S.minExponent := by omega
    positivity
  · calc (e - S.minExponent) * 2 ^ S.mantissaBitsWithoutImplicit + m
        < (e - S.minExponent + 2) * 2 ^ S.mantissaBitsWithoutImplicit := by linarith
      _ ≤ (2 * S.exponentBias + 2 - 1) * 2 ^ S.mantissaBitsWithoutImplicit := by
          gcongr
          omega

theorem key_finite {positive : 0 < m} (canonical : Canonical S (.finite s m e positive)) :
    -top S < key S (.finite s m e positive) ∧ key S (.finite s m e positive) < top S ∧
      (s = .positive → 0 < key S (.finite s m e positive)) ∧
      (s = .negative → key S (.finite s m e positive) < 0) := by
  obtain ⟨above, below⟩ := magnitude_finite canonical
  cases s <;> simp only [key, signOf, Sign.apply] <;> simp <;> omega

/-! ## Order -/

theorem compare_neg_neg (a b : Int) : compare (-a) (-b) = (compare a b).swap := by
  rcases lt_trichotomy a b with less | rfl | greater
  · rw [Int.compare_eq_lt.mpr less, Int.compare_eq_gt.mpr (by omega)]
    rfl
  · rw [Int.compare_eq_eq.mpr rfl, Int.compare_eq_eq.mpr rfl]
    rfl
  · rw [Int.compare_eq_gt.mpr greater, Int.compare_eq_lt.mpr (by omega)]
    rfl

/-- Comparing floats is comparing their numbers. -/
theorem compare_eq_compare_key (left : Canonical S u) (right : Canonical S w)
    (number : u ≠ .notANumber) (number' : w ≠ .notANumber) :
    u.compare w = some (compare (key S u) (key S w)) := by
  have less : ∀ {a b : Int}, a < b → some .lt = some (compare a b) := fun h =>
    congrArg some (Int.compare_eq_lt.mpr h).symm
  have equal : ∀ {a b : Int}, a = b → some .eq = some (compare a b) := fun h =>
    congrArg some (Int.compare_eq_eq.mpr h).symm
  have greater : ∀ {a b : Int}, b < a → some .gt = some (compare a b) := fun h =>
    congrArg some (Int.compare_eq_gt.mpr h).symm
  have positiveTop := top_pos S
  have zero := key_zero (S := S)
  have most : key S (.infinity .positive) = top S := rfl
  have least : key S (.infinity .negative) = -top S := rfl
  rcases u with s | _ | s | ⟨s, m, e, positive⟩
  case notANumber => exact absurd rfl number
  all_goals rcases w with s' | _ | s' | ⟨s', m', e', positive'⟩
  case infinity.notANumber | zero.notANumber | finite.notANumber => exact absurd rfl number'
  case infinity.infinity =>
    cases s <;> cases s'
    · exact equal rfl
    · exact less (by omega)
    · exact greater (by omega)
    · exact equal rfl
  case infinity.zero =>
    have := zero s'
    cases s
    · exact less (by omega)
    · exact greater (by omega)
  case zero.infinity =>
    have := zero s
    cases s'
    · exact greater (by omega)
    · exact less (by omega)
  case zero.zero => exact equal ((zero s).trans (zero s').symm)
  case infinity.finite =>
    obtain ⟨above, below, -⟩ := key_finite right
    cases s
    · exact less (by omega)
    · exact greater (by omega)
  case finite.infinity =>
    obtain ⟨above, below, -⟩ := key_finite left
    cases s'
    · exact greater (by omega)
    · exact less (by omega)
  case zero.finite =>
    obtain ⟨-, -, above, below⟩ := key_finite right
    have := zero s
    cases s'
    · exact greater (by have := below rfl; omega)
    · exact less (by have := above rfl; omega)
  case finite.zero =>
    obtain ⟨-, -, above, below⟩ := key_finite left
    have := zero s'
    cases s
    · exact less (by have := below rfl; omega)
    · exact greater (by have := above rfl; omega)
  case finite.finite =>
    obtain ⟨-, -, above, below⟩ := key_finite left
    obtain ⟨-, -, above', below'⟩ := key_finite right
    have order := left.1.compare_eq right.1
    cases s <;> cases s'
    · change some _ = some (compare (-_) (-_))
      rw [compare_neg_neg]
      exact congrArg (some ∘ Ordering.swap) order
    · exact less (by have := below rfl; have := above' rfl; omega)
    · exact greater (by have := above rfl; have := below' rfl; omega)
    · exact congrArg some order

theorem Fits.lt_iff (fits : Fits S m e) (fits' : Fits S m' e') :
    (m : ℚ) * 2 ^ e < m' * 2 ^ e' ↔
      (e - S.minExponent) * 2 ^ S.mantissaBitsWithoutImplicit + m <
        (e' - S.minExponent) * 2 ^ S.mantissaBitsWithoutImplicit + m' := by
  rcases fits.trichotomy fits' with ⟨-, less, lessValue⟩ | ⟨rfl, rfl⟩ | ⟨-, greater, greaterValue⟩
  · exact iff_of_true lessValue less
  · exact iff_of_false (lt_irrefl _) (lt_irrefl _)
  · exact iff_of_false greaterValue.not_gt greater.not_gt

/-- Finite floats have the order of the numbers they stand for. -/
theorem value_lt_iff {x y : ℚ} (left : Canonical S u) (right : Canonical S w)
    (valueLeft : value? u = some x) (valueRight : value? w = some y) :
    x < y ↔ key S u < key S w := by
  have sign : ∀ (m : Nat) (e : Int), 0 < m → (0 : ℚ) < m * 2 ^ e := fun m e positive => by
    positivity
  have zero := key_zero (S := S)
  rcases u with s | _ | s | ⟨s, m, e, positive⟩ <;> cases valueLeft <;>
    rcases w with s' | _ | s' | ⟨s', m', e', positive'⟩ <;> cases valueRight
  case zero.refl.zero.refl => simp [zero]
  case zero.refl.finite.refl =>
    obtain ⟨-, -, above, below⟩ := key_finite right
    have := sign m' e' positive'
    rw [zero]
    cases s'
    · exact iff_of_false (by simp [Sign.apply]; linarith) (below rfl).not_gt
    · exact iff_of_true (by simpa [Sign.apply]) (above rfl)
  case finite.refl.zero.refl =>
    obtain ⟨-, -, above, below⟩ := key_finite left
    have := sign m e positive
    rw [zero]
    cases s
    · exact iff_of_true (by simpa [Sign.apply]) (below rfl)
    · exact iff_of_false (by simp [Sign.apply]; linarith) (above rfl).not_gt
  case finite.refl.finite.refl =>
    obtain ⟨-, -, above, below⟩ := key_finite left
    obtain ⟨-, -, above', below'⟩ := key_finite right
    have := sign m e positive
    have := sign m' e' positive'
    cases s <;> cases s'
    · have order := right.1.lt_iff left.1
      simp only [Sign.apply, Int.cast_neg, Int.cast_natCast, neg_mul, key, signOf, neg_lt_neg_iff]
      exact order
    · exact iff_of_true (by simp [Sign.apply]; linarith) (by linarith [below rfl, above' rfl])
    · exact iff_of_false (by simp [Sign.apply]; linarith) (by linarith [above rfl, below' rfl])
    · exact left.1.lt_iff right.1

/-! ## The bits of a float -/

theorem magnitude_unpack (b : BitVec S.numBits) (number : unpack S b ≠ .notANumber) :
    magnitude S (unpack S b) =
      (b.toNat % 2 ^ (S.mantissaBitsWithoutImplicit + S.exponentBits) : Nat) := by
  have low := minExponent_eq S
  have split : b.toNat % 2 ^ (S.mantissaBitsWithoutImplicit + S.exponentBits) =
      (unpackExponent b).toNat * 2 ^ S.mantissaBitsWithoutImplicit + (unpackMantissa b).toNat := by
    rw [toNat_unpackMantissa, toNat_unpackExponent, pow_add, Nat.mod_mul, add_comm, mul_comm]
  rw [split]
  have two := two_pow_exponentBits S
  fun_cases unpack S b with
  | case1 _ _ _ _ top zero =>
      have field := (congrArg BitVec.toNat top).trans (toNat_neg_one _)
      have nothing : (unpackMantissa b).toNat = 0 := toNat_of_eq_zero zero
      rw [field, nothing, magnitude]
      push_cast [Nat.one_le_two_pow]
      ring
  | case2 _ _ top nonzero =>
      exact absurd (by simp only [unpack]; rw [if_pos top, if_neg nonzero]) number
  | case3 _ _ _ _ _ bottom zero =>
      have none : (unpackExponent b).toNat = 0 := toNat_of_eq_zero bottom
      have nothing : (unpackMantissa b).toNat = 0 := toNat_of_eq_zero zero
      rw [none, nothing]
      simp [magnitude]
  | case4 fractionBits fieldBits e signBits sign _ bottom _ =>
      have none : (unpackExponent b).toNat = 0 := toNat_of_eq_zero bottom
      have least : e + 1 = S.minExponent := by
        simp only [e, fieldBits, none]
        omega
      rw [none, magnitude, least]
      simp [fractionBits]
  | case5 fractionBits fieldBits e signBits sign notTop notBottom =>
      have same : e - S.minExponent = (unpackExponent b).toNat - 1 := by
        simp only [e, fieldBits]
        omega
      rw [magnitude, toNat_implicit, same]
      push_cast
      ring

theorem signOf_unpack (b : BitVec S.numBits) (number : unpack S b ≠ .notANumber) :
    signOf (unpack S b) = Sign.ofBitVec (unpackSign b) := by
  revert number
  fun_cases unpack S b with
  | case1 | case3 | case4 | case5 => exact fun _ => rfl
  | case2 _ _ top nonzero => exact fun number => absurd rfl number

/-! ## Floats of 32 bits -/

variable {a b : Float32}

theorem isNaN_eq_false_iff : a.isNaN = false ↔ unpackSingle a ≠ .notANumber := by
  change (unpackSingle a).isNaN = false ↔ _
  cases unpackSingle a <;> simp [UnpackedFloat.isNaN]

theorem compare_single (number : a.isNaN = false) (number' : b.isNaN = false) :
    (unpackSingle a).compare (unpackSingle b) =
      some (compare (key .binary32 (unpackSingle a)) (key .binary32 (unpackSingle b))) :=
  compare_eq_compare_key (canonical_unpackSingle a) (canonical_unpackSingle b)
    (isNaN_eq_false_iff.mp number) (isNaN_eq_false_iff.mp number')

theorem single_le_iff (number : a.isNaN = false) (number' : b.isNaN = false) :
    a ≤ b ↔ key .binary32 (unpackSingle a) ≤ key .binary32 (unpackSingle b) := by
  have unfolded : a ≤ b ↔ ((unpackSingle a).compare (unpackSingle b)).any (·.isLE) = true :=
    decide_eq_true_iff
  rw [unfolded, compare_single number number']
  exact Int.isLE_compare

theorem single_lt_iff (number : a.isNaN = false) (number' : b.isNaN = false) :
    a < b ↔ key .binary32 (unpackSingle a) < key .binary32 (unpackSingle b) := by
  have unfolded : a < b ↔ ((unpackSingle a).compare (unpackSingle b) == some .lt) = true :=
    decide_eq_true_iff
  rw [unfolded, compare_single number number', beq_iff_eq, Option.some_inj, Int.compare_eq_lt]

/-- The place of a float is its number, but that negative floats stand one further down. -/
theorem rank_eq (number : a.isNaN = false) :
    Geometry.rank a = key .binary32 (unpackSingle a) ∧ 0 ≤ Geometry.rank a ∨
      Geometry.rank a = key .binary32 (unpackSingle a) - 1 ∧ Geometry.rank a < 0 := by
  have bound : a.toBits.toNat < 4294967296 := a.toBits.toNat_lt
  have size := magnitude_unpack _ (isNaN_eq_false_iff.mp number)
  have sign := signOf_unpack _ (isNaN_eq_false_iff.mp number)
  have bit := toNat_unpackSign (S := .binary32) a.toBits.toBitVec
  change magnitude .binary32 (unpackSingle a) = (a.toBits.toNat % 2147483648 : Nat) at size
  change signOf (unpackSingle a) = Sign.ofBitVec (@unpackSign .binary32 a.toBits.toBitVec) at sign
  change _ = a.toBits.toNat / 2147483648 % 2 at bit
  simp only [Geometry.rank, number, Bool.false_eq_true, if_false, key, size, sign, ofBitVec_eq, bit]
  by_cases negative : 2147483648 ≤ a.toBits.toNat
  · have one : a.toBits.toNat / 2147483648 % 2 = 1 := by omega
    rw [if_pos (mod_cast negative), if_pos one]
    simp only [Sign.apply]
    omega
  · have zero : a.toBits.toNat / 2147483648 % 2 ≠ 1 := by omega
    rw [if_neg (mod_cast negative), if_neg zero]
    simp only [Sign.apply]
    omega

/-- A float whose place is not before that of a number is a number and not less. -/
theorem le_of_rank_le (number : a.isNaN = false) (le : Geometry.rank a ≤ Geometry.rank b) :
    b.isNaN = false ∧ a ≤ b := by
  have number' : b.isNaN = false := by
    by_contra none
    rw [Bool.not_eq_false] at none
    have bound : a.toBits.toNat < 4294967296 := a.toBits.toNat_lt
    simp only [Geometry.rank, number, none, if_true, Bool.false_eq_true, if_false] at le
    split at le <;> omega
  refine ⟨number', (single_le_iff number number').mpr ?_⟩
  rcases rank_eq number with ⟨same, sign⟩ | ⟨same, sign⟩ <;>
    rcases rank_eq number' with ⟨same', sign'⟩ | ⟨same', sign'⟩ <;> omega

end GameScenes.Number
