import GameScenes.Number.Dyadic
import Mathlib

/-!
# Floats taken apart

A float taken apart is a sign, a significand and an exponent; a finite one stands for a rational
number (`value?`).  A format holds the numbers `m * 2 ^ e` whose significand is short enough and whose
exponent is in range (`Fits`).  Every float of a format is one of these (`unpack_canonical`), and what
is one of these comes back unchanged from being packed (`unpack_pack`).  The model reads the same
number off the bits (`value_dyadic?`).
-/

set_option autoImplicit false

namespace GameScenes.Number

open Float.Model (Format UnpackedFloat)
open Float.Model.UnpackedFloat

variable {S : Format} {s : Sign} {m : Nat} {e : Int}

/-! ## Values -/

/-- The rational number that a finite float stands for. -/
def value? : UnpackedFloat → Option ℚ
  | .zero _ => some 0
  | .finite s m e _ => some (s.apply m * 2 ^ e)
  | .infinity _ => none
  | .notANumber => none

/-- The exact value of a decoded float. -/
def Dyadic.value (d : Dyadic) : ℚ :=
  (if d.negative then -(d.significand : ℚ) else d.significand) * 2 ^ d.exponent

/-! ## Formats -/

/-- The greatest exponent of a finite float. -/
def maxExponent (S : Format) : Int := S.exponentBias - S.mantissaBitsWithoutImplicit

/-- That a format has room for a significand with an exponent. -/
structure Fits (S : Format) (m : Nat) (e : Int) : Prop where
  short : m < 2 ^ S.mantissaBits
  above : S.minExponent ≤ e
  full : 2 ^ S.mantissaBitsWithoutImplicit ≤ m ∨ e = S.minExponent

/-- That a float taken apart is one of a format. -/
def Canonical (S : Format) : UnpackedFloat → Prop
  | .finite _ m e _ => Fits S m e ∧ e ≤ maxExponent S
  | _ => True

theorem minExponent_eq (S : Format) :
    S.minExponent = 1 - S.exponentBias - S.mantissaBitsWithoutImplicit := by
  have one : 1 ≤ 2 ^ (S.exponentBits - 1) := Nat.one_le_two_pow
  unfold Format.minExponent Format.exponentBias Format.mantissaBits
  push_cast [one]
  ring

theorem two_pow_exponentBits (S : Format) : 2 ^ S.exponentBits = 2 * S.exponentBias + 2 := by
  have one : 1 ≤ 2 ^ (S.exponentBits - 1) := Nat.one_le_two_pow
  have split : 2 ^ S.exponentBits = 2 * 2 ^ (S.exponentBits - 1) := by
    rw [← pow_succ', Nat.sub_add_cancel S.he]
  unfold Format.exponentBias
  omega

theorem two_pow_mantissaBits (S : Format) :
    2 ^ S.mantissaBits = 2 * 2 ^ S.mantissaBitsWithoutImplicit := by
  rw [Format.mantissaBits, Nat.add_comm, pow_succ']

/-! ## Taking bits apart -/

theorem toNat_implicit {width : Nat} (fraction : BitVec width) :
    (1#1 ++ fraction).toNat = 2 ^ width + fraction.toNat := by
  rw [BitVec.toNat_append, ← Nat.shiftLeft_add_eq_or_of_lt fraction.isLt, Nat.shiftLeft_eq]
  simp

theorem toNat_neg_one (width : Nat) : (-1#_ : BitVec width).toNat = 2 ^ width - 1 := by
  rw [BitVec.neg_one_eq_allOnes, BitVec.toNat_allOnes]

theorem toNat_of_eq_zero {width : Nat} {bits : BitVec width} (zero : bits = 0#_) :
    bits.toNat = 0 := by
  rw [zero, BitVec.toNat_ofNat, Nat.zero_mod]

theorem unpack_canonical (wide : 0 < S.exponentBias) (b : BitVec S.numBits) :
    Canonical S (unpack S b) := by
  have bias := two_pow_exponentBits S
  have low := minExponent_eq S
  have two := two_pow_mantissaBits S
  fun_cases unpack with
  | case1 | case2 | case3 => trivial
  | case4 fraction field e sign _ _ zero _ =>
      have below := fraction.isLt
      simp only [field, zero, e, BitVec.toNat_ofNat, Nat.zero_mod, Canonical, maxExponent]
      refine ⟨⟨by omega, by push_cast; omega, .inr (by push_cast; omega)⟩, by push_cast; omega⟩
  | case5 fraction field e sign _ top zero =>
      have below := fraction.isLt
      have positive : field.toNat ≠ 0 := fun h => zero (BitVec.eq_of_toNat_eq (by simpa using h))
      have bounded := field.isLt
      have inside : field.toNat ≠ 2 ^ S.exponentBits - 1 := fun h =>
        top (BitVec.eq_of_toNat_eq (h.trans (toNat_neg_one _).symm))
      simp only [Canonical, maxExponent, toNat_implicit, e]
      refine ⟨⟨by omega, by omega, .inl (by omega)⟩, by omega⟩

/-! ## Putting together -/

theorem unpack_packedInfinity (s : Sign) : unpack S (packedInfinity S s) = .infinity s := by
  simp [unpack, packedInfinity]

/-- A significand has the leading bit of a normal number exactly when it reaches that bit. -/
theorem Fits.log2_iff (fits : Fits S m e) (positive : 0 < m) :
    m.log2 + 1 = S.mantissaBits ↔ 2 ^ S.mantissaBitsWithoutImplicit ≤ m := by
  rw [← Nat.le_log2 positive.ne']
  have below := (Nat.log2_lt positive.ne').mpr fits.short
  unfold Format.mantissaBits at *
  omega

theorem unpack_pack_finite (positive : 0 < m) (fits : Fits S m e) (bounded : e ≤ maxExponent S) :
    unpack S (pack S (.finite s m e positive)) = .finite s m e positive := by
  have bias := two_pow_exponentBits S
  have low := minExponent_eq S
  have two := two_pow_mantissaBits S
  have above := fits.above
  have short := fits.short
  unfold maxExponent at bounded
  obtain ⟨field, exact⟩ : ∃ field : Nat,
      (field : Int) = e + S.exponentBias + S.mantissaBitsWithoutImplicit :=
    ⟨_, Int.toNat_of_nonneg (by omega)⟩
  have inside : field + 1 < 2 ^ S.exponentBits := by omega
  have kept : (BitVec.ofNat S.exponentBits field).toNat = field := by
    rw [BitVec.toNat_ofNat, Nat.mod_eq_of_lt (by omega)]
  have notTop : ∀ b : BitVec S.exponentBits, b.toNat + 1 < 2 ^ S.exponentBits → b ≠ -1#_ := by
    rintro b less rfl
    rw [toNat_neg_one] at less
    omega
  have normal : BitVec.ofNat S.exponentBits field ≠ 0#_ := by
    intro zero
    rw [zero, BitVec.toNat_ofNat, Nat.zero_mod] at kept
    omega
  have fraction : (BitVec.ofNat S.mantissaBitsWithoutImplicit m).toNat =
      m % 2 ^ S.mantissaBitsWithoutImplicit := BitVec.toNat_ofNat ..
  simp only [pack, ← exact, Int.toNat_natCast, Nat.not_le.mpr inside, if_false,
    fits.log2_iff positive]
  split
  case isTrue large =>
    have implicit : (1#1 ++ BitVec.ofNat S.mantissaBitsWithoutImplicit m).toNat = m := by
      rw [toNat_implicit, fraction, Nat.mod_eq_sub_mod large, Nat.mod_eq_of_lt (by omega)]
      omega
    simp only [unpack, unpackExponent_packComponents, unpackMantissa_packComponents,
      unpackSign_packComponents, Sign.ofBitVec_toBitVec, notTop _ (kept.symm ▸ inside), normal,
      if_false, kept, implicit]
    congr 1
    omega
  case isFalse small =>
    have whole : m % 2 ^ S.mantissaBitsWithoutImplicit = m := Nat.mod_eq_of_lt (by omega)
    have nonzero : BitVec.ofNat S.mantissaBitsWithoutImplicit m ≠ 0#_ := by
      intro zero
      rw [zero, whole, BitVec.toNat_ofNat, Nat.zero_mod] at fraction
      omega
    have least := fits.full.resolve_left small
    have lowest : (0#_ : BitVec S.exponentBits).toNat + 1 < 2 ^ S.exponentBits := by
      rw [BitVec.toNat_ofNat, Nat.zero_mod]
      omega
    simp only [unpack, unpackExponent_packComponents, unpackMantissa_packComponents,
      unpackSign_packComponents, Sign.ofBitVec_toBitVec, notTop 0#_ lowest, if_false,
      if_true, nonzero, dite_false, fraction, whole, BitVec.toNat_ofNat, Nat.zero_mod]
    congr 1
    push_cast
    omega

theorem unpack_pack (u : UnpackedFloat) (canonical : Canonical S u) :
    unpack S (pack S u) = u := by
  cases u with
  | infinity s => exact unpack_packedInfinity s
  | notANumber => exact unpack_packedNaN
  | zero s => exact unpack_packedZero
  | finite s m e positive => exact unpack_pack_finite positive canonical.1 canonical.2

/-! ## Reading the bits -/

/-- The layout of a format. -/
def layout (S : Format) : Layout := ⟨S.mantissaBitsWithoutImplicit, S.exponentBits⟩

theorem lowestExponent_layout (S : Format) : (layout S).lowestExponent = S.minExponent := by
  simp only [layout, Layout.lowestExponent, Format.minExponent, Format.mantissaBits, Nat.pow_eq]
  push_cast
  ring

theorem toNat_unpackMantissa (b : BitVec S.numBits) :
    (unpackMantissa b).toNat = b.toNat % 2 ^ S.mantissaBitsWithoutImplicit := by
  rw [unpackMantissa_def, BitVec.extractLsb'_toNat, Nat.shiftRight_zero]

theorem toNat_unpackExponent (b : BitVec S.numBits) :
    (unpackExponent b).toNat =
      b.toNat / 2 ^ S.mantissaBitsWithoutImplicit % 2 ^ S.exponentBits := by
  rw [unpackExponent_def, BitVec.extractLsb'_toNat, Nat.shiftRight_eq_div_pow]

theorem toNat_unpackSign (b : BitVec S.numBits) :
    (unpackSign b).toNat =
      b.toNat / 2 ^ (S.mantissaBitsWithoutImplicit + S.exponentBits) % 2 := by
  rw [unpackSign_def, BitVec.extractLsb'_toNat, Nat.shiftRight_eq_div_pow, pow_one]

theorem ofBitVec_eq (b : BitVec 1) :
    Sign.ofBitVec b = if b.toNat = 1 then .negative else .positive := by
  obtain rfl | rfl : b = 0#1 ∨ b = 1#1 := by decide +revert
  · rfl
  · rfl

theorem apply_ofBitVec (b : BitVec 1) (n : Nat) :
    (((Sign.ofBitVec b).apply n : Int) : ℚ) = if b.toNat == 1 then -(n : ℚ) else n := by
  rw [ofBitVec_eq]
  split <;> simp_all [Sign.apply]

/-- The model reads off the bits the number that the float taken apart stands for. -/
theorem value_dyadic? (b : BitVec S.numBits) :
    ((layout S).dyadic? b.toNat).map Dyadic.value = value? (unpack S b) := by
  have lowest := lowestExponent_layout S
  have low := minExponent_eq S
  have bias := two_pow_exponentBits S
  have fraction := toNat_unpackMantissa b
  have field := toNat_unpackExponent b
  have signed := toNat_unpackSign b
  simp only [layout] at lowest
  simp only [Layout.dyadic?, Layout.topField, Layout.signBit, layout, lowest, Nat.pow_eq,
    ← fraction, ← field, ← signed]
  fun_cases unpack S b with
  | case1 _ _ _ _ top _ | case2 _ _ top _ =>
      rw [if_pos ((congrArg BitVec.toNat top).trans (toNat_neg_one _))]
      rfl
  | case3 _ _ _ _ _ bottom zero =>
      have none : (unpackExponent b).toNat = 0 := toNat_of_eq_zero bottom
      have nothing : (unpackMantissa b).toNat = 0 := toNat_of_eq_zero zero
      rw [if_neg (by omega), if_pos none]
      simp [Dyadic.value, value?, nothing]
  | case4 fractionBits fieldBits e signBits sign _ bottom _ =>
      have none : (unpackExponent b).toNat = 0 := toNat_of_eq_zero bottom
      have least : e + 1 = S.minExponent := by
        simp only [e, fieldBits, none]
        omega
      rw [if_neg (by omega), if_pos none]
      simp only [Option.map_some, Dyadic.value, value?, least, sign, signBits, fractionBits,
        apply_ofBitVec]
  | case5 fractionBits fieldBits e signBits sign notTop notBottom =>
      have positive : (unpackExponent b).toNat ≠ 0 := fun none =>
        notBottom (BitVec.eq_of_toNat_eq (by simpa using none))
      have inside : (unpackExponent b).toNat ≠ 2 ^ S.exponentBits - 1 := fun top =>
        notTop (BitVec.eq_of_toNat_eq (top.trans (toNat_neg_one _).symm))
      have same : S.minExponent + ((unpackExponent b).toNat - 1 : Nat) = e := by
        simp only [e, fieldBits]
        omega
      rw [if_neg inside, if_neg positive]
      simp only [Option.map_some, Dyadic.value, value?, same, sign, signBits, fractionBits,
        toNat_implicit, apply_ofBitVec]

/-! ## Floats of 32 bits -/

/-- A float of 32 bits taken apart. -/
def unpackSingle (a : Float32) : UnpackedFloat := a.toModel.unpack

/-- The rational number that a finite float of 32 bits stands for. -/
def singleValue? (a : Float32) : Option ℚ := (ofSingle? a).map Dyadic.value

theorem canonical_unpackSingle (a : Float32) : Canonical .binary32 (unpackSingle a) :=
  unpack_canonical (by decide) _

theorem singleValue?_eq (a : Float32) : singleValue? a = value? (unpackSingle a) :=
  value_dyadic? (S := .binary32) a.toBits.toBitVec

end GameScenes.Number
