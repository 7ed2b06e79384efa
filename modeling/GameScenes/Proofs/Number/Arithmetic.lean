import GameScenes.Proofs.Number.Rounding

/-!
# Sums, products and quotients

Every operation on floats gives the rounded result of the operation on the numbers they stand for,
as long as it stays clear of the largest floats.
-/

set_option autoImplicit false

namespace GameScenes.Number

open Float.Model (Format UnpackedFloat totalExponent)
open Float.Model.UnpackedFloat

variable {S : Format} {s : Sign} {m : Nat} {e : Int} {u w : UnpackedFloat} {x y : ℚ}

/-! ## Floats of a format -/

theorem Fits.step (fits : Fits S m e) (s : Sign) : Step S (s.apply m * 2 ^ e) e := by
  have positive : (0 : ℚ) < 2 ^ e := zpow_pos two_pos e
  refine ⟨fits.above, ?_, fits.full.symm.imp_right fun full => ?_⟩ <;>
    rw [abs_apply_mul_zpow, zpow_add₀ two_ne_zero, zpow_natCast, mul_comm] <;> gcongr
  · exact mod_cast fits.short
  · exact mod_cast full

theorem Fits.roundsTo (fits : Fits S m e) (s : Sign) (positive : 0 < m) :
    RoundsTo S (s.apply m * 2 ^ e) (.finite s m e positive) :=
  ⟨fits, _, rfl, e, s.apply m, fits.step s, rfl, by rw [sub_self, abs_zero]; positivity⟩

theorem Canonical.roundsTo (canonical : Canonical S u) (value : value? u = some x) :
    RoundsTo S x u := by
  cases u with
  | infinity | notANumber => cases value
  | zero s =>
      cases value
      exact RoundsTo.zero S s
  | finite s m e positive =>
      cases value
      exact canonical.1.roundsTo s positive

theorem Canonical.held (canonical : Canonical S u) (value : value? u = some x) : Held S x := by
  cases u with
  | infinity | notANumber => cases value
  | zero s =>
      cases value
      exact ⟨0, S.minExponent, by simp, by simp, le_rfl⟩
  | finite s m e positive =>
      cases value
      refine ⟨s.apply m, e, rfl, ?_, canonical.1.above⟩
      have := canonical.1.short
      cases s <;> simp only [Sign.apply, abs_neg, Nat.abs_cast] <;> exact mod_cast this

/-! ## Signs -/

theorem Canonical.abs (canonical : Canonical S u) : Canonical S u.abs := by
  cases u <;> exact canonical

theorem Canonical.neg (canonical : Canonical S u) : Canonical S u.neg := by
  cases u <;> exact canonical

theorem value?_abs (value : value? u = some x) : value? u.abs = some |x| := by
  cases u with
  | infinity | notANumber => cases value
  | zero s =>
      cases value
      rw [abs_zero]
      rfl
  | finite s m e positive =>
      cases value
      rw [abs_apply_mul_zpow]
      rfl

theorem value?_neg (value : value? u = some x) : value? u.neg = some (-x) := by
  cases u with
  | infinity | notANumber => cases value
  | zero s =>
      cases value
      rw [neg_zero]
      rfl
  | finite s m e positive =>
      cases value
      rw [← neg_mul, ← Int.cast_neg]
      cases s
      · simp only [Sign.apply, neg_neg]
        rfl
      · rfl

/-! ## Sums -/

theorem apply_decreaseExponent (s : Sign) (m : Nat) {e t : Int} (le : t ≤ e) :
    ((s.apply (decreaseExponent m e t).1 : Int) : ℚ) * 2 ^ t = s.apply m * 2 ^ e := by
  have value := decreaseExponent_value m e t
  have exponent : (decreaseExponent m e t).2 = t := by
    simp only [decreaseExponent]
    omega
  rw [exponent] at value
  rw [apply_eq_mul, apply_eq_mul s m, Int.cast_mul, Int.cast_mul, mul_assoc, mul_assoc,
    Int.cast_natCast, Int.cast_natCast, value]

theorem add_roundsTo (left : Canonical S u) (right : Canonical S w) (valueLeft : value? u = some x)
    (valueRight : value? w = some y) : RoundsTo S (x + y) (add S u w) := by
  cases u with
  | infinity | notANumber => cases valueLeft
  | zero s =>
      cases valueLeft
      rw [zero_add]
      cases w with
      | infinity | notANumber => cases valueRight
      | zero s' =>
          cases valueRight
          simp only [add]
          split <;> exact RoundsTo.zero S _
      | finite => exact right.roundsTo valueRight
  | finite s m e positive =>
      cases w with
      | infinity | notANumber => cases valueRight
      | zero s' =>
          cases valueRight
          rw [add_zero]
          exact left.roundsTo valueLeft
      | finite s' m' e' positive' =>
          cases valueLeft
          cases valueRight
          rw [← apply_decreaseExponent s m (min_le_left e e'),
            ← apply_decreaseExponent s' m' (min_le_right e e'), ← add_mul, ← Int.cast_add]
          exact normalize_roundsTo _ _ _

/-! ## Products -/

theorem apply_mul_one (s s' : Sign) : (s * s').apply 1 = s.apply 1 * s'.apply 1 := by
  cases s <;> cases s' <;> rfl

theorem apply_div_one (s s' : Sign) : (s / s').apply 1 = s.apply 1 * s'.apply 1 := by
  cases s <;> cases s' <;> rfl

theorem Fits.product_low {m' : Nat} {e' : Int} (fits : Fits S m e) (fits' : Fits S m' e')
    (positive : 0 < m) (positive' : 0 < m') :
    e + e' ≤ S.targetExponent (totalExponent (m * m') (e + e')) := by
  have nonzero : m * m' ≠ 0 := by positivity
  have low := minExponent_eq S
  have large : 2 ^ S.mantissaBitsWithoutImplicit ≤ m ∨ 2 ^ S.mantissaBitsWithoutImplicit ≤ m' →
      S.mantissaBitsWithoutImplicit ≤ (m * m').log2 := by
    intro full
    rw [Nat.le_log2 nonzero]
    rcases full with full | full <;> nlinarith
  unfold Format.targetExponent totalExponent Format.mantissaBits
  rcases fits.full with full | least
  · have := large (.inl full)
    omega
  · rcases fits'.full with full | least'
    · have := large (.inr full)
      omega
    · omega

theorem mul_roundsTo (left : Canonical S u) (right : Canonical S w) (valueLeft : value? u = some x)
    (valueRight : value? w = some y) : RoundsTo S (x * y) (mul S u w) := by
  cases u with
  | infinity | notANumber => cases valueLeft
  | zero s =>
      cases valueLeft
      rw [zero_mul]
      cases w with
      | infinity | notANumber => cases valueRight
      | zero | finite => exact RoundsTo.zero S _
  | finite s m e positive =>
      cases w with
      | infinity | notANumber => cases valueRight
      | zero s' =>
          cases valueRight
          rw [mul_zero]
          exact RoundsTo.zero S _
      | finite s' m' e' positive' =>
          cases valueLeft
          cases valueRight
          have rounds := roundWithAccuracy_roundsTo (s * s') (describes_exact (m * m'))
            (left.1.product_low right.1 positive positive')
          have same : ((s.apply m : ℚ) * 2 ^ e) * (s'.apply m' * 2 ^ e') =
              (s * s').apply 1 * (((m * m' : Nat) : ℚ) * 2 ^ (e + e')) := by
            rw [apply_mul_one, apply_eq_mul s m, apply_eq_mul s' m', zpow_add₀ two_ne_zero]
            push_cast
            ring
          rw [same]
          exact rounds

/-! ## Quotients -/

theorem log2_le_log2_div {n d : Nat} (positive : 0 < n) (divides : 0 < d) :
    n.log2 ≤ d.log2 + (n / d).log2 + 1 := by
  rw [← Nat.lt_succ_iff, Nat.log2_lt positive.ne']
  calc n < d * (n / d + 1) := Nat.lt_mul_div_succ n divides
    _ ≤ 2 ^ (d.log2 + 1) * 2 ^ ((n / d).log2 + 1) :=
        Nat.mul_le_mul Nat.lt_log2_self.le Nat.lt_log2_self
    _ = _ := by rw [← pow_add]; congr 1; omega

/-- The significand of a quotient, with what the division left over, is long enough to be rounded. -/
theorem divCore_spec {m' : Nat} (positive : 0 < m) (positive' : 0 < m') (e e' : Int) :
    ∃ x, Describes (.ofMantissaAndAccuracy (divCore S m e m' e').1 (divCore S m e m' e').2.2) x ∧
      x * 2 ^ (divCore S m e m' e').2.1 = (m * 2 ^ e) / (m' * 2 ^ e') ∧
      (divCore S m e m' e').2.1 ≤
        S.targetExponent (totalExponent (divCore S m e m' e').1 (divCore S m e m' e').2.1) := by
  generalize target : min (e - e') (S.targetExponent (totalExponent m e - totalExponent m' e')) = t
  obtain ⟨places, exact⟩ : ∃ places : Nat, e - e' = t + places := ⟨(e - e' - t).toNat, by omega⟩
  have core : divCore S m e m' e' = (m <<< places / m', t,
      accuracyOfFraction (m <<< places % m') m') := by
    have same : (e - e' - t).toNat = places := by omega
    simp only [divCore, target, same]
  rw [core]
  refine ⟨_, describes_fraction _ m' positive', ?_, ?_⟩
  · obtain rfl : e = t + places + e' := by omega
    rw [Nat.shiftLeft_eq, zpow_add₀ two_ne_zero, zpow_add₀ two_ne_zero, zpow_natCast]
    push_cast
    field_simp
  · have long := log2_le_log2_div (n := m <<< places) (by rw [Nat.shiftLeft_eq]; positivity) positive'
    rw [log2_shiftLeft positive] at long
    dsimp only
    unfold Format.targetExponent totalExponent at *
    omega

theorem div_roundsTo (valueLeft : value? u = some x) (valueRight : value? w = some y)
    (nonzero : y ≠ 0) : RoundsTo S (x / y) (div S u w) := by
  cases u with
  | infinity | notANumber => cases valueLeft
  | zero s =>
      cases valueLeft
      rw [zero_div]
      cases w with
      | infinity | notANumber => cases valueRight
      | zero =>
          cases valueRight
          exact absurd rfl nonzero
      | finite => exact RoundsTo.zero S _
  | finite s m e positive =>
      cases w with
      | infinity | notANumber => cases valueRight
      | zero =>
          cases valueRight
          exact absurd rfl nonzero
      | finite s' m' e' positive' =>
          cases valueLeft
          cases valueRight
          obtain ⟨q, describes, value, low⟩ := divCore_spec (S := S) positive positive' e e'
          have rounds := roundWithAccuracy_roundsTo (s / s') describes low
          have same : ((s.apply m : ℚ) * 2 ^ e) / (s'.apply m' * 2 ^ e') =
              (s / s').apply 1 * (q * 2 ^ (divCore S m e m' e').2.1) := by
            rw [value, apply_div_one, apply_eq_mul s m, apply_eq_mul s' m']
            cases s' <;> simp [Sign.apply] <;> ring
          rw [same]
          exact rounds

/-! ## Packed results -/

theorem value?_ne_none_of_packed {v : ℚ} (finite : value? (unpack S (pack S u)) = some v) :
    value? u ≠ none := by
  intro none
  have canonical : Canonical S u := by
    cases u with
    | infinity | notANumber => trivial
    | zero | finite => cases none
  rw [unpack_pack u canonical, none] at finite
  cases finite

theorem add_nearest {v : ℚ} (left : Canonical S u) (right : Canonical S w)
    (finite : value? (unpack S (pack S (add S u w))) = some v) :
    ∃ x y, value? u = some x ∧ value? w = some y ∧ Nearest S (x + y) v := by
  have some := value?_ne_none_of_packed finite
  obtain ⟨x, y, first, second⟩ : ∃ x y, value? u = .some x ∧ value? w = .some y := by
    rcases u with s | _ | s | ⟨s, m, e, positive⟩ <;>
      rcases w with s' | _ | s' | ⟨s', m', e', positive'⟩ <;>
      first
      | exact ⟨_, _, rfl, rfl⟩
      | exact absurd (by simp only [add]; (try split) <;> rfl) some
  exact ⟨x, y, first, second, (add_roundsTo left right first second).nearest_of_packed finite⟩

theorem mul_nearest {v : ℚ} (left : Canonical S u) (right : Canonical S w)
    (finite : value? (unpack S (pack S (mul S u w))) = some v) :
    ∃ x y, value? u = some x ∧ value? w = some y ∧ Nearest S (x * y) v := by
  have some := value?_ne_none_of_packed finite
  obtain ⟨x, y, first, second⟩ : ∃ x y, value? u = .some x ∧ value? w = .some y := by
    rcases u with s | _ | s | ⟨s, m, e, positive⟩ <;>
      rcases w with s' | _ | s' | ⟨s', m', e', positive'⟩ <;>
      first
      | exact ⟨_, _, rfl, rfl⟩
      | exact absurd rfl some
  exact ⟨x, y, first, second, (mul_roundsTo left right first second).nearest_of_packed finite⟩

theorem div_nearest {v y : ℚ} (second : value? w = some y) (nonzero : y ≠ 0)
    (finite : value? (unpack S (pack S (div S u w))) = some v) :
    ∃ x, value? u = some x ∧ Nearest S (x / y) v := by
  have some := value?_ne_none_of_packed finite
  obtain ⟨x, first⟩ : ∃ x, value? u = .some x := by
    rcases u with s | _ | s | ⟨s, m, e, positive⟩ <;>
      rcases w with s' | _ | s' | ⟨s', m', e', positive'⟩ <;>
      first
      | exact ⟨_, rfl⟩
      | exact absurd rfl some
  exact ⟨x, first, (div_roundsTo first second nonzero).nearest_of_packed finite⟩

end GameScenes.Number
