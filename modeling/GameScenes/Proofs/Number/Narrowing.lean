import GameScenes.Proofs.Number.Doubles
import GameScenes.Proofs.Number.Singles

/-!
# Narrowing doubles

A finite double becomes a finite single unless it is so large that it is rounded beyond the singles;
then it becomes infinite, and never what is no number (`isFinite_narrow_iff`, `isNaN_narrow`).
-/

set_option autoImplicit false

namespace GameScenes.Number

open Float.Model (Format UnpackedFloat)
open Float.Model.UnpackedFloat

variable {x : Float} {q : ℚ} {N : Nat}

/-- The least number that is rounded beyond the singles: it stands in the middle between the
greatest of them and the next power of two. -/
def singleLimit : ℚ := 2 ^ 128 - 2 ^ 103

/-! ## Rounding a significand -/

/-- A quotient is rounded below an even number exactly when it is nearer to the number before it. -/
theorem halve_lt_iff (n places : Nat) (even : N % 2 = 0) :
    Layout.halve n places < N ↔ 2 * n + 2 ^ places < 2 * N * 2 ^ places := by
  have positive : 0 < 2 ^ places := Nat.two_pow_pos places
  have parts : 2 ^ places * (n / 2 ^ places) + n % 2 ^ places = n := Nat.div_add_mod ..
  have below : n % 2 ^ places < 2 ^ places := Nat.mod_lt _ positive
  simp only [Layout.halve, Nat.pow_eq]
  generalize 2 ^ places = power at *
  generalize n / power = quotient at *
  generalize n % power = rest at *
  subst parts
  rcases Nat.lt_trichotomy (quotient + 1) N with less | rfl | greater
  · have room : power * (quotient + 2) ≤ power * N := Nat.mul_le_mul_left _ less
    refine iff_of_true (by split_ifs <;> omega) (by nlinarith)
  · -- between an odd quotient and an even number the middle goes to the number
    have odd : quotient % 2 = 1 := by omega
    have expand : 2 * (quotient + 1) * power = 2 * (power * quotient) + 2 * power := by ring
    rw [expand, odd]
    split_ifs <;> omega
  · have room : power * N ≤ power * quotient := Nat.mul_le_mul_left _ (by omega)
    refine iff_of_false (by split_ifs <;> omega) (by nlinarith)

/-- A significand moved to another exponent, rounded where it gets shorter. -/
def significandAt (m : Nat) (e t : Int) : Nat :=
  if t ≤ e then m * Nat.pow 2 (e - t).toNat else Layout.halve m (t - e).toNat

theorem significandAt_lt_iff (m : Nat) (e t : Int) (even : N % 2 = 0) :
    significandAt m e t < N ↔ 2 * ((m : ℚ) * 2 ^ e) + 2 ^ t < 2 * N * 2 ^ t := by
  unfold significandAt
  split
  case isTrue le =>
    obtain ⟨places, rfl⟩ : ∃ places : Nat, e = t + places := ⟨(e - t).toNat, by omega⟩
    have unit : (0 : ℚ) < 2 ^ t := zpow_pos two_pos t
    rw [add_sub_cancel_left, Int.toNat_natCast, Nat.pow_eq, zpow_add₀ two_ne_zero, zpow_natCast]
    calc m * 2 ^ places < N ↔ 2 * (m * 2 ^ places) + 1 < 2 * N := by omega
      _ ↔ (2 * (m * 2 ^ places) + 1 : ℚ) < 2 * N := by exact_mod_cast Iff.rfl
      _ ↔ (2 * (m * 2 ^ places) + 1 : ℚ) * 2 ^ t < 2 * N * 2 ^ t :=
          (mul_lt_mul_iff_left₀ unit).symm
      _ ↔ 2 * ((m : ℚ) * (2 ^ t * 2 ^ places)) + 2 ^ t < 2 * N * 2 ^ t := by ring_nf
  case isFalse greater =>
    obtain ⟨places, rfl⟩ : ∃ places : Nat, t = e + places := ⟨(t - e).toNat, by omega⟩
    have unit : (0 : ℚ) < 2 ^ e := zpow_pos two_pos e
    rw [add_sub_cancel_left, Int.toNat_natCast, halve_lt_iff _ _ even, zpow_add₀ two_ne_zero,
      zpow_natCast]
    calc 2 * m + 2 ^ places < 2 * N * 2 ^ places
        ↔ (2 * m + 2 ^ places : ℚ) < 2 * N * 2 ^ places := by exact_mod_cast Iff.rfl
      _ ↔ (2 * m + 2 ^ places : ℚ) * 2 ^ e < 2 * N * 2 ^ places * 2 ^ e :=
          (mul_lt_mul_iff_left₀ unit).symm
      _ ↔ 2 * ((m : ℚ) * 2 ^ e) + 2 ^ e * 2 ^ places < 2 * N * (2 ^ e * 2 ^ places) := by ring_nf

/-! ## The bits of a single -/

/-- The bits of a single without the sign, before those beyond infinity are cut off. -/
def magnitudeOf (m : Nat) (e : Int) : Nat :=
  let t := max (e + (m.log2 + 1 : Nat) - 24) (-149)
  (t + 149).toNat * 2 ^ 23 + significandAt m e t

theorem encode_single {d : Dyadic} (nonzero : d.significand ≠ 0) :
    Layout.single.encode d = (if d.negative then 2 ^ 31 else 0) +
      min (magnitudeOf d.significand d.exponent) (255 * 2 ^ 23) := by
  simp only [Layout.encode, if_neg nonzero]
  rfl

/-- The bits stay below those of infinity exactly when the number is below the limit. -/
theorem magnitudeOf_lt_iff {m : Nat} (positive : 0 < m) (e : Int) :
    magnitudeOf m e < 255 * 2 ^ 23 ↔ (m : ℚ) * 2 ^ e < singleLimit := by
  have unit : (0 : ℚ) < 2 ^ e := zpow_pos two_pos e
  obtain ⟨k, width⟩ : ∃ k : Int, k = e + (m.log2 + 1 : Nat) := ⟨_, rfl⟩
  have above : (2 : ℚ) ^ (k - 1) ≤ m * 2 ^ e := by
    have least : (2 : ℚ) ^ m.log2 ≤ m := mod_cast Nat.log2_self_le positive.ne'
    rw [width, (by push_cast; ring : e + ((m.log2 + 1 : Nat) : Int) - 1 = m.log2 + e),
      zpow_add₀ two_ne_zero, zpow_natCast]
    gcongr
  have below : (m : ℚ) * 2 ^ e < 2 ^ k := by
    have less : (m : ℚ) < 2 ^ (m.log2 + 1) := mod_cast Nat.lt_log2_self
    rw [width, add_comm, zpow_add₀ two_ne_zero, zpow_natCast]
    gcongr
  obtain ⟨t, exponent⟩ : ∃ t : Int, t = max (k - 24) (-149) := ⟨_, rfl⟩
  have step : (0 : ℚ) < 2 ^ t := zpow_pos two_pos t
  unfold magnitudeOf singleLimit
  simp only [← width, ← exponent]
  rcases lt_trichotomy k 128 with small | rfl | large
  · -- even a carry stays below the exponent of infinity
    have short : significandAt m e t < 2 ^ 24 + 2 := by
      have reach : (2 : ℚ) ^ k ≤ 2 ^ 24 * 2 ^ t := by
        rw [← zpow_natCast, ← zpow_add₀ two_ne_zero]
        exact zpow_le_zpow_right₀ one_le_two (by push_cast; omega)
      rw [significandAt_lt_iff _ _ _ (by decide)]
      push_cast
      linarith
    have bound : (2 : ℚ) ^ k ≤ 2 ^ (127 : Int) := zpow_le_zpow_right₀ one_le_two (by omega)
    refine iff_of_true (by omega) (below.trans_le (bound.trans ?_))
    norm_num
  · have top : t = 104 := by omega
    have rounded := significandAt_lt_iff (N := 2 ^ 24) m e 104 (by decide)
    norm_num at rounded
    rw [top]
    constructor
    · intro less
      have := rounded.mp (by omega)
      norm_num
      linarith
    · intro less
      norm_num at less
      have := rounded.mpr (by linarith)
      omega
  · have long : ¬ significandAt m e t < 2 ^ 23 := by
      have reach : (2 : ℚ) ^ (k - 1) = 2 ^ 23 * 2 ^ t := by
        rw [← zpow_natCast, ← zpow_add₀ two_ne_zero]
        congr 1
        push_cast
        omega
      rw [significandAt_lt_iff _ _ _ (by decide)]
      push_cast
      linarith
    have bound : (2 : ℚ) ^ (128 : Int) ≤ 2 ^ (k - 1) := zpow_le_zpow_right₀ one_le_two (by omega)
    refine iff_of_false (by omega) (not_lt.mpr (le_trans ?_ (bound.trans above)))
    norm_num

theorem Dyadic.abs_value (d : Dyadic) : |d.value| = d.significand * 2 ^ d.exponent := by
  rw [Dyadic.value, abs_mul, abs_of_pos (zpow_pos two_pos d.exponent : (0 : ℚ) < _)]
  split <;> simp

theorem encode_single_cases (d : Dyadic) : ∃ magnitude, magnitude ≤ 255 * 2 ^ 23 ∧
    (Layout.single.encode d = magnitude ∨ Layout.single.encode d = 2 ^ 31 + magnitude) ∧
    (magnitude < 255 * 2 ^ 23 ↔ |d.value| < singleLimit) := by
  rw [d.abs_value]
  by_cases zero : d.significand = 0
  · refine ⟨0, by decide, ?_, iff_of_true (by decide) ?_⟩
    · simp only [Layout.encode, if_pos zero]
      cases d.negative
      · exact .inl rfl
      · exact .inr rfl
    · rw [zero, singleLimit]
      norm_num
  · refine ⟨min (magnitudeOf d.significand d.exponent) (255 * 2 ^ 23), min_le_right .., ?_, ?_⟩
    · rw [encode_single zero]
      cases d.negative
      · exact .inl (Nat.zero_add _)
      · exact .inr rfl
    · rw [← magnitudeOf_lt_iff (Nat.pos_of_ne_zero zero)]
      omega

/-! ## Singles made of bits -/

theorem unpackSingle_ofBits (b : UInt32) :
    unpackSingle (Float32.ofBits b) = unpack .binary32 b.toBitVec :=
  unpack_pack _ (unpack_canonical (S := .binary32) (by decide) b.toBitVec)

theorem isFinite_iff_isSome (u : UnpackedFloat) : u.isFinite = (value? u).isSome := by
  cases u <;> rfl

theorem isFinite_ofBits (b : UInt32) :
    (Float32.ofBits b).isFinite = true ↔ b.toNat / 2 ^ 23 % 2 ^ 8 ≠ 255 := by
  have taken : (Float32.ofBits b).isFinite = (unpack .binary32 b.toBitVec).isFinite :=
    congrArg UnpackedFloat.isFinite (unpackSingle_ofBits b)
  rw [taken, isFinite_iff_isSome, ← value_dyadic?, Option.isSome_map]
  change (Layout.single.dyadic? b.toNat).isSome = true ↔ _
  simp only [Layout.dyadic?]
  split
  case isTrue top => exact iff_of_false (by simp) (not_not.mpr top)
  case isFalse inside =>
    refine iff_of_true ?_ inside
    split <;> rfl

theorem isNaN_ofBits {b : UInt32} (whole : b.toNat / 2 ^ 23 % 2 ^ 8 = 255 → b.toNat % 2 ^ 23 = 0) :
    (Float32.ofBits b).isNaN = false := by
  rw [isNaN_eq_false_iff, unpackSingle_ofBits]
  fun_cases unpack with
  | case2 fraction field top some =>
      have fields := toNat_unpackExponent (S := .binary32) b.toBitVec
      have none : fraction.toNat = 0 := by
        rw [toNat_unpackMantissa]
        exact whole (fields.symm.trans ((congrArg BitVec.toNat top).trans (toNat_neg_one _)))
      exact absurd (BitVec.eq_of_toNat_eq none) some
  | case1 | case3 | case4 | case5 => exact nofun

/-! ## Narrowed doubles -/

theorem narrow_cases (value : doubleValue? x = some q) : ∃ b : UInt32, narrow x = Float32.ofBits b ∧
    (b.toNat / 2 ^ 23 % 2 ^ 8 = 255 → b.toNat % 2 ^ 23 = 0) ∧
    (b.toNat / 2 ^ 23 % 2 ^ 8 ≠ 255 ↔ |q| < singleLimit) := by
  obtain ⟨d, found, rfl⟩ := Option.map_eq_some_iff.mp value
  obtain ⟨magnitude, bound, bits, less⟩ := encode_single_cases d
  have kept : (UInt32.ofNat (Layout.single.encode d)).toNat = Layout.single.encode d := by
    rw [UInt32.toNat_ofNat', Nat.mod_eq_of_lt (by omega)]
  refine ⟨UInt32.ofNat (Layout.single.encode d), ?_, ?_, ?_⟩
  · simp only [narrow, found]
  · rw [kept]
    omega
  · rw [kept, ← less]
    omega

/-- A double stays finite exactly when it is not rounded beyond the singles. -/
theorem isFinite_narrow_iff (value : doubleValue? x = some q) :
    (narrow x).isFinite = true ↔ |q| < singleLimit := by
  obtain ⟨b, same, -, inside⟩ := narrow_cases value
  rw [same, isFinite_ofBits, inside]

theorem isNaN_narrow (value : doubleValue? x = some q) : (narrow x).isNaN = false := by
  obtain ⟨b, same, whole, -⟩ := narrow_cases value
  rw [same, isNaN_ofBits whole]

end GameScenes.Number
