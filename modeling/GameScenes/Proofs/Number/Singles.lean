import GameScenes.Proofs.Number.Arithmetic
import GameScenes.Proofs.Number.Comparison

/-!
# Floats of 32 bits as numbers

What the operations of the geometry do to the rational numbers that floats stand for.  A result of
magnitude less than `2 ^ k` is at most `2 ^ (k - 25)` off, and its operands are finite.
-/

set_option autoImplicit false

namespace GameScenes.Number

open Float.Model.UnpackedFloat

variable {a b : Float32} {x y v : ℚ} {k : Int}

/-! ## Order -/

theorem isNaN_eq_false (value : singleValue? a = some x) : a.isNaN = false := by
  rw [isNaN_eq_false_iff]
  intro none
  rw [singleValue?_eq, none] at value
  cases value

theorem single_lt_iff_value (left : singleValue? a = some x) (right : singleValue? b = some y) :
    a < b ↔ x < y := by
  rw [single_lt_iff (isNaN_eq_false left) (isNaN_eq_false right)]
  rw [singleValue?_eq] at left right
  exact (value_lt_iff (canonical_unpackSingle a) (canonical_unpackSingle b) left right).symm

theorem single_le_iff_value (left : singleValue? a = some x) (right : singleValue? b = some y) :
    a ≤ b ↔ x ≤ y := by
  rw [single_le_iff (isNaN_eq_false left) (isNaN_eq_false right), ← not_lt, ← not_lt, not_iff_not]
  rw [singleValue?_eq] at left right
  exact (value_lt_iff (canonical_unpackSingle b) (canonical_unpackSingle a) right left).symm

theorem singleValue?_smaller (left : singleValue? a = some x) (right : singleValue? b = some y) :
    singleValue? (Geometry.smaller a b) = some (min x y) := by
  rw [Geometry.smaller, isNaN_eq_false left, if_neg Bool.false_ne_true]
  by_cases less : b < a
  · rw [if_pos less, right, min_eq_right ((single_lt_iff_value right left).mp less).le]
  · rw [if_neg less, left, min_eq_left (not_lt.mp fun below =>
      less ((single_lt_iff_value right left).mpr below))]

theorem singleValue?_abs (value : singleValue? a = some x) : singleValue? a.abs = some |x| := by
  rw [singleValue?_eq] at *
  have packed : unpackSingle a.abs = unpack .binary32 (pack .binary32 (unpackSingle a).abs) := rfl
  rw [packed, unpack_pack _ (canonical_unpackSingle a).abs, value?_abs value]

/-! ## Rounded results -/

theorem single_add_nearest (value : singleValue? (a + b) = some v) :
    ∃ x y, singleValue? a = some x ∧ singleValue? b = some y ∧ Nearest .binary32 (x + y) v := by
  simp only [singleValue?_eq] at *
  exact add_nearest (canonical_unpackSingle a) (canonical_unpackSingle b) value

theorem single_mul_nearest (value : singleValue? (a * b) = some v) :
    ∃ x y, singleValue? a = some x ∧ singleValue? b = some y ∧ Nearest .binary32 (x * y) v := by
  simp only [singleValue?_eq] at *
  exact mul_nearest (canonical_unpackSingle a) (canonical_unpackSingle b) value

theorem single_div_nearest (divisor : singleValue? b = some y) (nonzero : y ≠ 0)
    (value : singleValue? (a / b) = some v) :
    ∃ x, singleValue? a = some x ∧ Nearest .binary32 (x / y) v := by
  simp only [singleValue?_eq] at *
  exact div_nearest divisor nonzero value

/-- That a float is finite and of magnitude less than a power of two. -/
def Below (k : Int) (a : Float32) : Prop := ∃ x, singleValue? a = some x ∧ |x| < 2 ^ k

/-- How far a result of magnitude less than a power of two can be off. -/
def margin (k : Int) : ℚ := 2 ^ (k - 25)

theorem margin_pos (k : Int) : 0 < margin k := zpow_pos two_pos _

theorem margin_add (k i : Int) : margin k * 2 ^ i = margin (k + i) := by
  rw [margin, margin, ← zpow_add₀ two_ne_zero]
  congr 1
  omega

theorem margin_succ (k : Int) : margin (k + 1) = 2 * margin k := by
  rw [← margin_add, zpow_one, mul_comm]

theorem Nearest.single_error_of_exact {q : ℚ} (nearest : Nearest .binary32 q v)
    (less : |q| < 2 ^ k) (normal : -125 ≤ k) : |v - q| ≤ margin k := by
  have least : Float.Model.Format.binary32.minExponent = -149 := by decide
  have bits : (Float.Model.Format.binary32.mantissaBits : Int) = 24 := by decide
  have error := nearest.error_le less (by omega)
  rwa [bits, sub_sub] at error

theorem Nearest.single_error {q : ℚ} (nearest : Nearest .binary32 q v) (less : |v| < 2 ^ k)
    (normal : -125 ≤ k) : |v - q| ≤ margin k ∧ |q| < 2 ^ k := by
  have least : Float.Model.Format.binary32.minExponent = -149 := by decide
  have small := nearest.lt_of_lt less (by omega)
  exact ⟨nearest.single_error_of_exact small normal, small⟩

/-- Whether the bits of a float show that it is of magnitude less than a power of two. -/
def isBelow (k : Int) (a : Float32) : Bool :=
  (ofSingle? a).any fun d => d.significand < 2 ^ 24 && d.exponent ≤ k - 24

theorem below_of_isBelow (shown : isBelow k a = true) : Below k a := by
  simp only [isBelow, Option.any_eq_true, Bool.and_eq_true, decide_eq_true_iff] at shown
  obtain ⟨d, found, small⟩ := shown
  refine ⟨d.value, by rw [singleValue?, found]; rfl, ?_⟩
  have magnitude : |d.value| = d.significand * 2 ^ d.exponent := by
    rw [Dyadic.value, abs_mul_zpow]
    split <;> simp
  calc |d.value| = d.significand * 2 ^ d.exponent := magnitude
    _ < 2 ^ 24 * 2 ^ d.exponent := by
        gcongr
        exact mod_cast small.1
    _ ≤ 2 ^ 24 * 2 ^ (k - 24) := by
        gcongr
        · exact one_le_two
        · exact small.2
    _ = 2 ^ k := by
        rw [← zpow_natCast, ← zpow_add₀ two_ne_zero]
        congr 1
        push_cast
        omega

theorem Below.add (below : Below k (a + b)) (normal : -125 ≤ k) :
    ∃ x y v, singleValue? a = some x ∧ singleValue? b = some y ∧ singleValue? (a + b) = some v ∧
      |v - (x + y)| ≤ margin k ∧ |x + y| < 2 ^ k := by
  obtain ⟨v, value, less⟩ := below
  obtain ⟨x, y, left, right, nearest⟩ := single_add_nearest value
  exact ⟨x, y, v, left, right, value, nearest.single_error less normal⟩

end GameScenes.Number
