import GameScenes.Proofs.Number.Unpacked

/-!
# Rounding

A significand that was shifted carries two bits about what it lost (`Describes`).  Rounding it gives
a multiple of the step between the floats around a number that is at most half a step away
(`Nearest`); a number that a format holds is its own nearest one (`Nearest.eq_of_held`).
-/

set_option autoImplicit false

namespace GameScenes.Number

open Float.Model (Format UnpackedFloat totalExponent)
open Float.Model.UnpackedFloat

variable {S : Format} {s : Sign} {m : Nat} {e t : Int} {q v x : ℚ}

/-! ## Lost bits -/

/-- What a significand with the two bits for what was lost says about a number. -/
def Describes : ExtendedMantissa → ℚ → Prop
  | ⟨m, false, false⟩, x => x = m
  | ⟨m, false, true⟩, x => m < x ∧ x < m + 1 / 2
  | ⟨m, true, false⟩, x => x = m + 1 / 2
  | ⟨m, true, true⟩, x => m + 1 / 2 < x ∧ x < m + 1

variable {em : ExtendedMantissa}

theorem Describes.le (describes : Describes em x) : em.mantissa ≤ x := by
  rcases em with ⟨m, _ | _, _ | _⟩ <;> simp only [Describes] at describes ⊢ <;> linarith

theorem Describes.lt (describes : Describes em x) : x < em.mantissa + 1 := by
  rcases em with ⟨m, _ | _, _ | _⟩ <;> simp only [Describes] at describes ⊢ <;> linarith

theorem Describes.shiftRightOne (describes : Describes em x) :
    Describes em.shiftRightOne (x / 2) := by
  rcases em with ⟨m, round, sticky⟩
  obtain ⟨half, lost, rfl, less⟩ : ∃ half lost : Nat, m = 2 * half + lost ∧ lost < 2 :=
    ⟨m / 2, m % 2, by omega, by omega⟩
  have whole : (2 * half + lost) / 2 = half := by omega
  have rest : (2 * half + lost) % 2 = lost := by omega
  interval_cases lost <;> cases round <;> cases sticky <;>
    simp [Describes, ExtendedMantissa.shiftRightOne, whole, rest] at describes ⊢ <;>
    (try constructor) <;> linarith

theorem Describes.shiftRight (describes : Describes em x) (places : Nat) :
    Describes (em >>> places) (x / 2 ^ places) := by
  change Describes (places.repeat ExtendedMantissa.shiftRightOne em) _
  induction places with
  | zero => simpa [Nat.repeat] using describes
  | succ places ih =>
      rw [pow_succ, ← div_div]
      exact ih.shiftRightOne

theorem Describes.near (describes : Describes em x) : |(em.roundedMantissa : ℚ) - x| ≤ 1 / 2 := by
  rcases em with ⟨m, _ | _, _ | _⟩ <;>
    simp only [Describes, ExtendedMantissa.roundedMantissa, ExtendedMantissa.accuracy,
      Accuracy.roundToNearestEven] at describes ⊢
  · simp [describes]
  · rw [abs_le]
    constructor <;> linarith
  · rcases Nat.mod_two_eq_zero_or_one m with even | odd
    · simp [describes, even]
    · norm_num [describes, odd, abs_le]
  · rw [abs_le]
    push_cast
    constructor <;> linarith

theorem describes_exact (m : Nat) : Describes (.ofMantissaAndAccuracy m .exact) m := rfl

theorem describes_fraction (n d : Nat) (positive : 0 < d) :
    Describes (.ofMantissaAndAccuracy (n / d) (accuracyOfFraction (n % d) d)) (n / d) := by
  have value : (n / d : ℚ) = (n / d : Nat) + (n % d : Nat) / d := by
    have whole : (n : ℚ) = d * (n / d : Nat) + (n % d : Nat) := mod_cast (Nat.div_add_mod n d).symm
    rw [whole, add_div, mul_div_cancel_left₀ _ (by positivity)]
  have less : ((n % d : Nat) : ℚ) / d < 1 := by
    rw [div_lt_one (by positivity)]
    exact mod_cast Nat.mod_lt n positive
  unfold accuracyOfFraction
  split
  case isTrue exact =>
    exact value.trans (by rw [exact, Nat.cast_zero, zero_div, add_zero])
  case isFalse inexact =>
    have some : 0 < ((n % d : Nat) : ℚ) / d := by
      have : 0 < n % d := Nat.pos_of_ne_zero inexact
      positivity
    cases order : compare (2 * (n % d)) d with
    | lt =>
        have half : ((n % d : Nat) : ℚ) / d < 1 / 2 := by
          rw [div_lt_div_iff₀ (by positivity) two_pos]
          exact mod_cast (by have := Nat.compare_eq_lt.mp order; omega)
        exact ⟨by linarith, by linarith⟩
    | eq =>
        have half : ((n % d : Nat) : ℚ) / d = 1 / 2 := by
          rw [div_eq_div_iff (by positivity) two_ne_zero]
          exact mod_cast (by have := Nat.compare_eq_eq.mp order; omega)
        exact value.trans (by rw [half])
    | gt =>
        have half : 1 / 2 < ((n % d : Nat) : ℚ) / d := by
          rw [div_lt_div_iff₀ two_pos (by positivity)]
          exact mod_cast (by have := Nat.compare_eq_gt.mp order; omega)
        exact ⟨by linarith, by linarith⟩

/-! ## The nearest number -/

theorem abs_mul_zpow (x : ℚ) (e : Int) : |x * 2 ^ e| = |x| * 2 ^ e := by
  have positive : (0 : ℚ) < 2 ^ e := zpow_pos two_pos e
  rw [abs_mul, abs_of_pos positive]

/-- That the floats around a number stand `2 ^ t` apart. -/
structure Step (S : Format) (q : ℚ) (t : Int) : Prop where
  least : S.minExponent ≤ t
  below : |q| < 2 ^ (t + S.mantissaBits)
  full : t = S.minExponent ∨ 2 ^ (t + S.mantissaBitsWithoutImplicit) ≤ |q|

/-- That a number is one of the nearest to another among those with room in a format, were its
exponents unbounded above. -/
def Nearest (S : Format) (q v : ℚ) : Prop :=
  ∃ (t r : Int), Step S q t ∧ v = r * 2 ^ t ∧ |v - q| ≤ 2 ^ t / 2

/-- The numbers that a format holds, were its exponents unbounded above. -/
def Held (S : Format) (q : ℚ) : Prop :=
  ∃ n e : Int, q = n * 2 ^ e ∧ |n| < 2 ^ S.mantissaBits ∧ S.minExponent ≤ e

theorem Step.le {k : Int} (step : Step S q t) (less : |q| < 2 ^ k)
    (normal : S.minExponent + S.mantissaBits ≤ k) : t + S.mantissaBits ≤ k := by
  rcases step.full with least | full
  · omega
  · have : t + S.mantissaBitsWithoutImplicit < k :=
      (zpow_lt_zpow_iff_right₀ one_lt_two).mp (full.trans_lt less)
    unfold Format.mantissaBits
    omega

theorem Step.of_abs {q' : ℚ} (step : Step S q t) (same : |q'| = |q|) : Step S q' t :=
  ⟨step.least, same ▸ step.below, same ▸ step.full⟩

/-- A significand rounded to is not too long, but for a carry. -/
theorem Step.significand {r : Nat} (step : Step S (x * 2 ^ t) t) (nonneg : 0 ≤ x)
    (near : |(r : ℚ) - x| ≤ 1 / 2) :
    r ≤ 2 ^ S.mantissaBits ∧ (t = S.minExponent ∨ 2 ^ S.mantissaBitsWithoutImplicit ≤ r) := by
  obtain ⟨least, below, full⟩ := step
  have positive : (0 : ℚ) < 2 ^ t := zpow_pos two_pos t
  rw [abs_mul_zpow, abs_of_nonneg nonneg, zpow_add₀ two_ne_zero, zpow_natCast, mul_comm] at below full
  rw [abs_le] at near
  constructor
  · have less : x < 2 ^ S.mantissaBits := lt_of_mul_lt_mul_left below positive.le
    have : (r : ℚ) < (2 ^ S.mantissaBits + 1 : Nat) := by
      push_cast
      linarith
    exact Nat.lt_succ_iff.mp (mod_cast this)
  · refine full.imp_right fun full => ?_
    have large : (2 : ℚ) ^ S.mantissaBitsWithoutImplicit ≤ x :=
      le_of_mul_le_mul_right (by linarith) positive
    have : ((2 ^ S.mantissaBitsWithoutImplicit : Nat) : ℚ) < (r + 1 : Nat) := by
      push_cast
      linarith
    exact Nat.lt_succ_iff.mp (mod_cast this)

theorem Nearest.error_le {k : Int} (nearest : Nearest S q v) (less : |q| < 2 ^ k)
    (normal : S.minExponent + S.mantissaBits ≤ k) :
    |v - q| ≤ 2 ^ (k - S.mantissaBits - 1) := by
  obtain ⟨t, r, step, rfl, near⟩ := nearest
  have bound := step.le less normal
  refine near.trans ?_
  rw [zpow_sub_one₀ two_ne_zero, ← div_eq_mul_inv]
  gcongr
  · exact one_le_two
  · omega

theorem Nearest.abs_le {k : Int} (nearest : Nearest S q v) (less : |q| < 2 ^ k)
    (normal : S.minExponent + S.mantissaBits ≤ k) : |v| ≤ 2 ^ k := by
  obtain ⟨t, r, step, rfl, near⟩ := nearest
  have bound := step.le less normal
  obtain ⟨places, rfl⟩ : ∃ places : Nat, k = t + places := ⟨(k - t).toNat, by omega⟩
  have positive : (0 : ℚ) < 2 ^ t := zpow_pos two_pos t
  have apart : |(r : ℚ) * 2 ^ t| < (2 : ℚ) ^ (t + places : Int) + 2 ^ t / 2 := by
    linarith [abs_sub_abs_le_abs_sub ((r : ℚ) * 2 ^ t) q]
  rw [abs_mul_zpow, zpow_add₀ two_ne_zero, zpow_natCast, mul_comm, ← Int.cast_abs] at *
  have few : ((|r| : Int) : ℚ) < (2 ^ places + 1 : Int) := by
    push_cast at *
    nlinarith
  have : |r| ≤ 2 ^ places := Int.lt_add_one_iff.mp (mod_cast few)
  gcongr
  exact mod_cast this

/-- A number is as small as the one that it is rounded to. -/
theorem Nearest.lt_of_lt {k : Int} (nearest : Nearest S q v) (less : |v| < 2 ^ k)
    (normal : S.minExponent ≤ k) : |q| < 2 ^ k := by
  obtain ⟨t, r, step, rfl, near⟩ := nearest
  have positive : (0 : ℚ) < 2 ^ t := zpow_pos two_pos t
  have apart := abs_sub_abs_le_abs_sub q ((r : ℚ) * 2 ^ t)
  rw [abs_sub_comm q] at apart
  by_cases finer : t ≤ k
  · obtain ⟨places, rfl⟩ : ∃ places : Nat, k = t + places := ⟨(k - t).toNat, by omega⟩
    rw [abs_mul_zpow] at less apart
    rw [zpow_add₀ two_ne_zero, zpow_natCast, mul_comm ((2 : ℚ) ^ t)] at less ⊢
    have few : |r| < 2 ^ places := by
      have : |(r : ℚ)| < 2 ^ places := lt_of_mul_lt_mul_right less positive.le
      exact mod_cast this
    have gap : (|(r : ℚ)| + 1) * 2 ^ t ≤ 2 ^ places * 2 ^ t :=
      mul_le_mul_of_nonneg_right (mod_cast few) positive.le
    linarith
  · -- a number smaller than its own step is rounded to zero and was smaller than half of it
    have zero : r = 0 := by
      by_contra nonzero
      have one : (1 : ℚ) ≤ |(r : ℚ)| := mod_cast Int.one_le_abs nonzero
      have : (2 : ℚ) ^ k ≤ 2 ^ t := zpow_le_zpow_right₀ one_le_two (by omega)
      rw [abs_mul_zpow] at less
      linarith [mul_le_mul_of_nonneg_right one positive.le]
    have full := step.full.resolve_left (by omega)
    have : (2 : ℚ) ^ t ≤ 2 ^ (t + S.mantissaBitsWithoutImplicit) :=
      zpow_le_zpow_right₀ one_le_two (by omega)
    rw [zero, Int.cast_zero, zero_mul, abs_zero] at apart
    rw [zero, Int.cast_zero, zero_mul, zero_sub, abs_neg] at near
    linarith

theorem Nearest.neg (nearest : Nearest S q v) : Nearest S (-q) (-v) := by
  obtain ⟨t, r, step, rfl, near⟩ := nearest
  refine ⟨t, -r, step.of_abs (abs_neg q), by push_cast; ring, ?_⟩
  rwa [neg_sub_neg, abs_sub_comm]

theorem Held.neg {w : ℚ} (held : Held S w) : Held S (-w) := by
  obtain ⟨n, e, rfl, short, above⟩ := held
  exact ⟨-n, e, by push_cast; ring, by rwa [abs_neg], above⟩

/-- Between a number and a smaller one that the format holds stands a multiple of the step. -/
theorem Step.exists_multiple {w : ℚ} (step : Step S q t) (held : Held S w) (le : w ≤ q) :
    ∃ m : Int, w ≤ m * 2 ^ t ∧ (m : ℚ) * 2 ^ t ≤ q := by
  obtain ⟨n, e, rfl, short, above⟩ := held
  by_cases finer : t ≤ e
  · obtain ⟨places, rfl⟩ : ∃ places : Nat, e = t + places := ⟨(e - t).toNat, by omega⟩
    have multiple : (n : ℚ) * 2 ^ (t + places) = (n * 2 ^ places : Int) * 2 ^ t := by
      rw [zpow_add₀ two_ne_zero, zpow_natCast]
      push_cast
      ring
    exact ⟨n * 2 ^ places, multiple.le, multiple ▸ le⟩
  · have full := step.full.resolve_left (by omega)
    have magnitude : |(n : ℚ) * 2 ^ e| < 2 ^ (t + S.mantissaBitsWithoutImplicit) := by
      rw [abs_mul_zpow]
      calc |(n : ℚ)| * 2 ^ e < 2 ^ S.mantissaBits * 2 ^ e := by
            gcongr
            exact mod_cast short
        _ = 2 ^ (S.mantissaBits + e : Int) := by rw [zpow_add₀ two_ne_zero, zpow_natCast]
        _ ≤ _ := zpow_le_zpow_right₀ one_le_two (by unfold Format.mantissaBits; omega)
    have nonneg : 0 ≤ q := by
      by_contra negative
      rw [abs_of_neg (not_le.mp negative)] at full
      linarith [neg_abs_le ((n : ℚ) * 2 ^ e)]
    have power : ((2 ^ S.mantissaBitsWithoutImplicit : Int) : ℚ) * 2 ^ t =
        2 ^ (t + S.mantissaBitsWithoutImplicit) := by
      rw [zpow_add₀ two_ne_zero, zpow_natCast, mul_comm]
      push_cast
      rfl
    rw [abs_of_nonneg nonneg] at full
    exact ⟨2 ^ S.mantissaBitsWithoutImplicit, by rw [power]; linarith [le_abs_self ((n : ℚ) * 2 ^ e)],
      power.trans_le full⟩

/-- Rounding does not pass a number that the format holds. -/
theorem Nearest.le_of_le {w : ℚ} (nearest : Nearest S q v) (held : Held S w) (le : w ≤ q) :
    w ≤ v := by
  obtain ⟨t, r, step, rfl, near⟩ := nearest
  obtain ⟨m, above, below⟩ := step.exists_multiple held le
  have positive : (0 : ℚ) < 2 ^ t := zpow_pos two_pos t
  refine above.trans ?_
  gcongr
  by_contra less
  have gap : ((r : ℚ) + 1) * 2 ^ t ≤ m * 2 ^ t := by
    gcongr
    exact mod_cast not_le.mp less
  linarith [neg_abs_le ((r : ℚ) * 2 ^ t - q)]

theorem Nearest.ge_of_ge {w : ℚ} (nearest : Nearest S q v) (held : Held S w) (ge : q ≤ w) :
    v ≤ w :=
  neg_le_neg_iff.mp (nearest.neg.le_of_le held.neg (neg_le_neg ge))

theorem Nearest.eq_of_held (nearest : Nearest S q v) (held : Held S q) : v = q :=
  le_antisymm (nearest.ge_of_ge held le_rfl) (nearest.le_of_le held le_rfl)

theorem exists_step (S : Format) (q : ℚ) : ∃ t, Step S q t := by
  by_cases zero : q = 0
  · exact ⟨S.minExponent, le_rfl, by rw [zero, abs_zero]; positivity, .inl rfl⟩
  · have positive : 0 < |q| := abs_pos.mpr zero
    have low := Int.zpow_log_le_self one_lt_two positive
    have high := Int.lt_zpow_succ_log_self one_lt_two |q|
    generalize Int.log 2 |q| = l at low high
    push_cast at low high
    refine ⟨max (l - S.mantissaBitsWithoutImplicit) S.minExponent, le_max_right _ _, ?_, ?_⟩
    · refine high.trans_le (zpow_le_zpow_right₀ one_le_two ?_)
      unfold Format.mantissaBits
      omega
    · rcases le_total (l - S.mantissaBitsWithoutImplicit : Int) S.minExponent with least | above
      · exact .inl (max_eq_right least)
      · right
        rwa [max_eq_left above, sub_add_cancel]

/-- Every number has a nearest one. -/
theorem exists_nearest (S : Format) (q : ℚ) : ∃ v, Nearest S q v := by
  obtain ⟨t, step⟩ := exists_step S q
  have positive : (0 : ℚ) < 2 ^ t := zpow_pos two_pos t
  obtain ⟨r, near⟩ : ∃ r : Int, |(r : ℚ) - q / 2 ^ t| ≤ 1 / 2 := by
    have below := Int.floor_le (q / 2 ^ t + 1 / 2)
    have above := Int.lt_floor_add_one (q / 2 ^ t + 1 / 2)
    exact ⟨⌊q / 2 ^ t + 1 / 2⌋, abs_le.mpr ⟨by linarith, by linarith⟩⟩
  have scaled : (r : ℚ) * 2 ^ t - q = (r - q / 2 ^ t) * 2 ^ t := by field_simp
  refine ⟨r * 2 ^ t, t, r, step, rfl, ?_⟩
  rw [scaled, abs_mul_zpow]
  linarith [mul_le_mul_of_nonneg_right near positive.le]

/-! ## Rounding a significand -/

/-- That a float taken apart has room in a format, were its exponents unbounded above. -/
def Rounded (S : Format) : UnpackedFloat → Prop
  | .finite _ m e _ => Fits S m e
  | .zero _ => True
  | _ => False

/-- That a float taken apart is a number rounded to a format. -/
structure RoundsTo (S : Format) (q : ℚ) (u : UnpackedFloat) : Prop where
  rounded : Rounded S u
  nearest : ∃ v, value? u = some v ∧ Nearest S q v

theorem apply_eq_mul (s : Sign) (n : Int) : s.apply n = s.apply 1 * n := by
  cases s <;> simp [Sign.apply]

theorem apply_zero (s : Sign) : s.apply 0 = 0 := by
  cases s <;> rfl

theorem abs_apply_one (s : Sign) : |(s.apply 1 : ℚ)| = 1 := by
  cases s <;> simp [Sign.apply]

theorem abs_apply_mul_zpow (s : Sign) (m : Nat) (e : Int) : |(s.apply m : ℚ) * 2 ^ e| = m * 2 ^ e := by
  rw [abs_mul_zpow, apply_eq_mul, Int.cast_mul, abs_mul, abs_apply_one, one_mul, Int.cast_natCast,
    Nat.abs_cast]

theorem step_targetExponent (le : m ≤ x) (lt : x < m + 1)
    (low : e ≤ S.targetExponent (totalExponent m e)) :
    Step S (x * 2 ^ e) (S.targetExponent (totalExponent m e)) := by
  have positive : 0 < S.mantissaBitsWithoutImplicit := S.hm
  have nonneg : 0 ≤ x := (Nat.cast_nonneg m).trans le
  unfold Format.targetExponent totalExponent at *
  refine ⟨le_max_right _ _, ?_, ?_⟩
  · rw [abs_mul_zpow, abs_of_nonneg nonneg]
    have short : x < 2 ^ (m.log2 + 1) := by
      have : m + 1 ≤ 2 ^ (m.log2 + 1) := Nat.lt_log2_self
      exact lt.trans_le (mod_cast this)
    calc x * 2 ^ e < 2 ^ (m.log2 + 1) * 2 ^ e := by gcongr
      _ = 2 ^ (m.log2 + 1 + e : Int) := by
          rw [zpow_add₀ two_ne_zero]
          norm_cast
      _ ≤ _ := zpow_le_zpow_right₀ one_le_two (by omega)
  · rw [abs_mul_zpow, abs_of_nonneg nonneg]
    by_cases least : (m.log2 + 1 + e : Int) - S.mantissaBits ≤ S.minExponent
    · exact .inl (max_eq_right least)
    · right
      have nonzero : m ≠ 0 := by
        rintro rfl
        simp only [Nat.log2_zero, Format.mantissaBits] at low least
        omega
      have long : (2 : ℚ) ^ m.log2 ≤ x := le.trans' (mod_cast Nat.log2_self_le nonzero)
      calc (2 : ℚ) ^ (max (m.log2 + 1 + e - S.mantissaBits : Int) S.minExponent +
              S.mantissaBitsWithoutImplicit) = 2 ^ (m.log2 + e : Int) := by
            congr 1
            unfold Format.mantissaBits at *
            omega
        _ = 2 ^ m.log2 * 2 ^ e := by rw [zpow_add₀ two_ne_zero, zpow_natCast]
        _ ≤ x * 2 ^ e := by gcongr

/-- A significand one bit too long, as a carry leaves it, is shifted without loss. -/
theorem shiftToTargetExponent_carry {r : Nat} (short : r ≤ 2 ^ S.mantissaBits)
    (above : S.minExponent ≤ t) (full : t = S.minExponent ∨ 2 ^ S.mantissaBitsWithoutImplicit ≤ r) :
    Fits S (shiftToTargetExponent S r t .exact).1.mantissa (shiftToTargetExponent S r t .exact).2 ∧
      ((shiftToTargetExponent S r t .exact).1.mantissa : ℚ) *
        2 ^ (shiftToTargetExponent S r t .exact).2 = r * 2 ^ t := by
  have two := two_pow_mantissaBits S
  rcases short.lt_or_eq with less | rfl
  · have stays : (S.targetExponent (totalExponent r t) - t).toNat = 0 := by
      have : r.log2 < S.mantissaBits := by
        by_cases zero : r = 0
        · simp [zero, Format.mantissaBits]
        · exact (Nat.log2_lt zero).mpr less
      unfold Format.targetExponent totalExponent
      omega
    simp only [shiftToTargetExponent, shiftToExponent, stays, Nat.cast_zero, add_zero]
    exact ⟨⟨less, above, full.symm⟩, rfl⟩
  · have once : (S.targetExponent (totalExponent (2 ^ S.mantissaBits) t) - t).toNat = 1 := by
      simp only [Format.targetExponent, totalExponent, Nat.log2_two_pow]
      omega
    have half : 2 ^ S.mantissaBits / 2 = 2 ^ S.mantissaBitsWithoutImplicit := by omega
    simp only [shiftToTargetExponent, shiftToExponent, once]
    change Fits S (2 ^ S.mantissaBits / 2) (t + 1) ∧
      ((2 ^ S.mantissaBits / 2 : Nat) : ℚ) * 2 ^ (t + 1) = _
    rw [half, two, zpow_add_one₀ two_ne_zero]
    refine ⟨⟨by rw [two]; have := Nat.two_pow_pos S.mantissaBitsWithoutImplicit; omega, by omega,
      .inl le_rfl⟩, ?_⟩
    push_cast
    ring

theorem roundWithAccuracy_roundsTo (s : Sign) {accuracy : Accuracy}
    (describes : Describes (.ofMantissaAndAccuracy m accuracy) x)
    (low : e ≤ S.targetExponent (totalExponent m e)) :
    RoundsTo S (s.apply 1 * (x * 2 ^ e)) (roundWithAccuracy S s m e accuracy) := by
  have mantissa : (ExtendedMantissa.ofMantissaAndAccuracy m accuracy).mantissa = m := by
    rcases accuracy with _ | _ | _ | _ <;> rfl
  have step := step_targetExponent (mantissa ▸ describes.le) (mantissa ▸ describes.lt) low
  obtain ⟨places, exact⟩ : ∃ places : Nat, S.targetExponent (totalExponent m e) = e + places :=
    ⟨(S.targetExponent (totalExponent m e) - e).toNat, by omega⟩
  have shifted : shiftToTargetExponent S m e accuracy =
      (ExtendedMantissa.ofMantissaAndAccuracy m accuracy >>> places, e + places) := by
    simp only [shiftToTargetExponent, shiftToExponent, exact, add_sub_cancel_left, Int.toNat_natCast]
  rw [exact] at step
  have near := (describes.shiftRight places).near
  generalize ExtendedMantissa.ofMantissaAndAccuracy m accuracy >>> places = em at shifted near
  generalize result : em.roundedMantissa = r at near
  have scaled : x * 2 ^ e = x / 2 ^ places * 2 ^ (e + places : Int) := by
    rw [zpow_add₀ two_ne_zero, zpow_natCast]
    field_simp
  rw [scaled] at step ⊢
  have nonneg : 0 ≤ x / 2 ^ places := by
    have := (Nat.cast_nonneg m).trans (mantissa ▸ describes.le : (m : ℚ) ≤ x)
    positivity
  obtain ⟨short, full⟩ := step.significand nonneg near
  obtain ⟨fits, same⟩ := shiftToTargetExponent_carry short step.least full
  have value : value? (roundWithAccuracy S s m e accuracy) =
      some ((s.apply r : ℚ) * 2 ^ (e + places : Int)) := by
    rw [apply_eq_mul, Int.cast_mul, Int.cast_natCast, mul_assoc, ← same, ← mul_assoc,
      ← Int.cast_natCast, ← Int.cast_mul, ← apply_eq_mul]
    simp only [roundWithAccuracy, shifted, result]
    split
    case isTrue zero => simp [value?, zero, apply_zero]
    case isFalse positive => rfl
  refine ⟨?_, _, value, e + places, s.apply r, step.of_abs ?_, rfl, ?_⟩
  · simp only [roundWithAccuracy, shifted, result]
    split
    case isTrue zero => trivial
    case isFalse positive => exact fits
  · rw [abs_mul, abs_apply_one, one_mul]
  · rw [apply_eq_mul, Int.cast_mul, mul_assoc, ← mul_sub, abs_mul, abs_apply_one, one_mul, ← sub_mul,
      abs_mul_zpow, Int.cast_natCast]
    have positive : (0 : ℚ) < 2 ^ (e + places : Int) := zpow_pos two_pos _
    nlinarith

theorem Nearest.zero (S : Format) : Nearest S 0 0 :=
  ⟨S.minExponent, 0, ⟨le_rfl, by rw [abs_zero]; positivity, .inl rfl⟩, by simp, by
    rw [sub_self, abs_zero]
    positivity⟩

theorem RoundsTo.zero (S : Format) (s : Sign) : RoundsTo S 0 (.zero s) :=
  ⟨trivial, 0, rfl, Nearest.zero S⟩

theorem log2_shiftLeft (positive : 0 < m) (places : Nat) :
    (m <<< places).log2 = m.log2 + places := by
  rw [Nat.shiftLeft_eq, Nat.log2_eq_iff (by positivity), add_right_comm, pow_add, pow_add _ _ places]
  have := Nat.log2_self_le positive.ne'
  have : m < 2 ^ (m.log2 + 1) := Nat.lt_log2_self
  constructor <;> gcongr

theorem decreaseExponent_value (m : Nat) (e t : Int) :
    ((decreaseExponent m e t).1 : ℚ) * 2 ^ (decreaseExponent m e t).2 = m * 2 ^ e := by
  simp only [decreaseExponent, Nat.shiftLeft_eq]
  generalize (e - t).toNat = places
  rw [zpow_sub₀ two_ne_zero, zpow_natCast]
  push_cast
  field_simp

theorem round_roundsTo (s : Sign) (positive : 0 < m) (e : Int) :
    RoundsTo S (s.apply m * 2 ^ e) (UnpackedFloat.round S s m e) := by
  have value := decreaseExponent_value m e (S.targetExponent (totalExponent m e))
  rw [apply_eq_mul, Int.cast_mul, mul_assoc, Int.cast_natCast, ← value]
  refine roundWithAccuracy_roundsTo s (describes_exact _) ?_
  simp only [decreaseExponent, totalExponent, log2_shiftLeft positive, Format.targetExponent]
  omega

theorem normalize_roundsTo (n e : Int) (zeroSign : Sign) :
    RoundsTo S (n * 2 ^ e) (UnpackedFloat.normalize S n e zeroSign) := by
  unfold UnpackedFloat.normalize
  cases order : compare n 0 with
  | lt =>
      have negative : n < 0 := Int.compare_eq_lt.mp order
      have same : Sign.apply .negative (-n).toNat = n := by
        simp only [Sign.apply]
        omega
      simpa only [same] using round_roundsTo (S := S) .negative (m := (-n).toNat) (by omega) e
  | eq =>
      rw [Int.compare_eq_eq.mp order, Int.cast_zero, zero_mul]
      exact RoundsTo.zero S zeroSign
  | gt =>
      have above : 0 < n := Int.compare_eq_gt.mp order
      have same : Sign.apply .positive n.toNat = n := by
        simp only [Sign.apply]
        omega
      simpa only [same] using round_roundsTo (S := S) .positive (m := n.toNat) (by omega) e

/-! ## Packing -/

/-- A rounded number that is still finite when it was packed has not changed. -/
theorem RoundsTo.nearest_of_packed {u : UnpackedFloat} (rounds : RoundsTo S q u)
    (finite : value? (unpack S (pack S u)) = some v) : Nearest S q v := by
  obtain ⟨rounded, w, value, nearest⟩ := rounds
  have canonical : Canonical S u := by
    cases u with
    | infinity | notANumber | zero => trivial
    | finite s m e positive =>
        refine ⟨rounded, ?_⟩
        by_contra large
        have fields := two_pow_exponentBits S
        have packed : pack S (.finite s m e positive) = packedInfinity S s := by
          unfold maxExponent at large
          rw [pack, if_pos (by omega)]
        rw [packed, unpack_packedInfinity] at finite
        cases finite
  rw [Number.unpack_pack u canonical, value] at finite
  cases finite
  exact nearest

theorem RoundsTo.unpack_pack {u : UnpackedFloat} (rounds : RoundsTo S q u)
    (wide : 0 < S.exponentBias) (small : |q| < 2 ^ S.exponentBias) : unpack S (pack S u) = u := by
  have low := minExponent_eq S
  apply Number.unpack_pack
  obtain ⟨rounded, v, value, nearest⟩ := rounds
  cases u with
  | infinity | notANumber | zero => trivial
  | finite s m e positive =>
      refine ⟨rounded, ?_⟩
      have bound : |v| ≤ 2 ^ (S.exponentBias : Int) :=
        nearest.abs_le (mod_cast small) (by unfold Format.mantissaBits; omega)
      rcases rounded.full with full | least
      · obtain rfl : (s.apply m : ℚ) * 2 ^ e = v := Option.some_inj.mp value
        have large : (2 : ℚ) ^ (S.mantissaBitsWithoutImplicit + e : Int) ≤ 2 ^ (S.exponentBias : Int) := by
          refine le_trans ?_ bound
          rw [abs_apply_mul_zpow, zpow_add₀ two_ne_zero, zpow_natCast]
          gcongr
          exact mod_cast full
        have := (zpow_le_zpow_iff_right₀ (one_lt_two : (1 : ℚ) < 2)).mp large
        unfold maxExponent
        omega
      · unfold maxExponent
        omega

end GameScenes.Number
