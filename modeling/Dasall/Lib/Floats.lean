import Mathlib

/-!
# Single-precision floats in the unit interval

Comparisons of a `float` are read on the number it stands for. A NaN compares false with
everything, so that it passes a clamp unchanged.
-/

open Float.Model

namespace Dasall.Lib.Floats

/-- The number that a float stands for, where it stands for one. -/
def finiteValue : UnpackedFloat → Option ℚ
  | .zero _ => some 0
  | .finite .positive mantissa exponent _ => some (mantissa * 2 ^ exponent)
  | .finite .negative mantissa exponent _ => some (-(mantissa * 2 ^ exponent))
  | .infinity _ | .notANumber => none

/-- `std::max`: the first of the two unless it is less. -/
def stdMax (first second : Float32) : Float32 := if first < second then second else first

/-- `std::clamp`. -/
def clamp (value low high : Float32) : Float32 :=
  if value < low then low else if high < value then high else value

/-- A number from 0 to 1. -/
def InUnit (x : Float32) : Prop :=
  ∃ value, finiteValue x.toModel.unpack = some value ∧ 0 ≤ value ∧ value ≤ 1

theorem unpack_zero : (0 : Float32).toModel.unpack = .zero .positive := rfl

theorem unpack_one :
    (1 : Float32).toModel.unpack = .finite .positive (2 ^ 23) (-23) (by decide) := rfl

theorem inUnit_zero : InUnit 0 := ⟨0, rfl, le_refl 0, zero_le_one⟩

theorem inUnit_one : InUnit 1 := by
  refine ⟨1, ?_, zero_le_one, le_refl 1⟩
  rw [unpack_one, finiteValue]
  norm_num

theorem lt_iff (x y : Float32) : x < y ↔ x.toModel.unpack.compare y.toModel.unpack = some .lt := by
  have hlt : x < y ↔ x.lt y = true := Iff.rfl
  rw [hlt, Float32.lt, decide_eq_true_eq]
  exact beq_iff_eq

variable (x : Float32)

theorem isNaN_iff : x.isNaN = true ↔ x.toModel.unpack = .notANumber := by
  have hsame : x.isNaN = x.toModel.unpack.isNaN := rfl
  rw [hsame]
  rcases x.toModel.unpack with _ | _ | _ | _ <;> simp [UnpackedFloat.isNaN]

/-- The mantissa has 24 bits, the implicit one included. -/
theorem mantissa_lt {sign : UnpackedFloat.Sign} {mantissa : Nat} {exponent : Int}
    {hpos : 0 < mantissa} (h : x.toModel.unpack = .finite sign mantissa exponent hpos) :
    mantissa < 2 ^ 24 := by
  unfold Float32.Model.unpack UnpackedFloat.unpack at h
  simp only at h
  split at h
  · split at h <;> exact UnpackedFloat.noConfusion h
  · split at h
    · split at h
      · exact UnpackedFloat.noConfusion h
      · rw [UnpackedFloat.finite.injEq] at h
        rw [← h.2.1]
        exact lt_of_lt_of_le (BitVec.isLt _) (by decide)
    · rw [UnpackedFloat.finite.injEq] at h
      rw [← h.2.1]
      exact lt_of_lt_of_le (BitVec.isLt _) (by decide)

/-- What is not above one is at most one: the exponent decides, and then the mantissa. -/
theorem value_le_one {mantissa : Nat} {exponent : Int} (hmantissa : mantissa < 2 ^ 24)
    (h : ((compare (-23) exponent).then (compare (2 ^ 23) mantissa)) ≠ .lt) :
    (mantissa : ℚ) * 2 ^ exponent ≤ 1 := by
  have hsmall : exponent ≤ -24 ∨ (exponent = -23 ∧ mantissa ≤ 2 ^ 23) := by
    rcases lt_trichotomy (-23) exponent with hlt | heq | hgt
    · rw [compare_lt_iff_lt.mpr hlt] at h
      exact absurd rfl h
    · right
      refine ⟨heq.symm, ?_⟩
      rw [compare_eq_iff_eq.mpr heq, Ordering.then] at h
      exact Nat.not_lt.mp fun hbig => h (compare_lt_iff_lt.mpr hbig)
    · left
      omega
  rcases hsmall with hexponent | ⟨rfl, hle⟩
  · have hpow : (2 : ℚ) ^ exponent ≤ 2 ^ (-24 : ℤ) := zpow_le_zpow_right₀ (by norm_num) hexponent
    have hcast : (mantissa : ℚ) ≤ 2 ^ 24 := by exact_mod_cast hmantissa.le
    calc (mantissa : ℚ) * 2 ^ exponent ≤ 2 ^ 24 * 2 ^ (-24 : ℤ) := by
          apply mul_le_mul hcast hpow <;> positivity
      _ = 1 := by norm_num
  · have hcast : (mantissa : ℚ) ≤ 2 ^ 23 := by exact_mod_cast hle
    calc (mantissa : ℚ) * 2 ^ (-23 : ℤ) ≤ 2 ^ 23 * 2 ^ (-23 : ℤ) := by
          apply mul_le_mul_of_nonneg_right hcast
          positivity
      _ = 1 := by norm_num

/-- A float that two comparisons keep in the interval stands for a number of the interval. -/
theorem inUnit_of_between (hnumber : x.isNaN = false) (hlow : ¬ x < 0)
    (hhigh : ¬ 1 < x) : InUnit x := by
  have hnan : x.toModel.unpack ≠ .notANumber := by
    intro h
    rw [(isNaN_iff x).mpr h] at hnumber
    exact Bool.noConfusion hnumber
  rw [lt_iff, unpack_zero] at hlow
  rw [lt_iff, unpack_one] at hhigh
  unfold InUnit
  rcases hunpack : x.toModel.unpack with sign | _ | sign | ⟨sign, mantissa, exponent, hpos⟩
  · rw [hunpack] at hlow hhigh
    cases sign with
    | negative => exact absurd rfl hlow
    | positive => exact absurd rfl hhigh
  · exact absurd hunpack hnan
  · exact ⟨0, rfl, le_refl 0, zero_le_one⟩
  · rw [hunpack] at hlow hhigh
    cases sign with
    | negative => exact absurd rfl hlow
    | positive =>
      refine ⟨_, rfl, by positivity, ?_⟩
      apply value_le_one (mantissa_lt x hunpack)
      intro h
      exact hhigh (congrArg some h)

theorem clamp_isNaN (h : x.isNaN = true) : clamp x 0 1 = x := by
  have hunpack := (isNaN_iff x).mp h
  have hlow : ¬ x < 0 := by
    rw [lt_iff, hunpack]
    simp [UnpackedFloat.compare]
  have hhigh : ¬ 1 < x := by
    rw [lt_iff, hunpack, unpack_one]
    simp [UnpackedFloat.compare]
  rw [clamp, if_neg hlow, if_neg hhigh]

/-- A clamp to the interval leaves it only with a NaN. -/
theorem inUnit_clamp (h : x.isNaN = false) : InUnit (clamp x 0 1) := by
  unfold clamp
  split
  · exact inUnit_zero
  · next hlow =>
    split
    · exact inUnit_one
    next hhigh => exact inUnit_of_between x h hlow hhigh

/-- A NaN stays the maximum when it comes first, and is passed over when it comes second. -/
theorem stdMax_isNaN (x y : Float32) (hy : y.isNaN = false) : (stdMax x y).isNaN = x.isNaN := by
  unfold stdMax
  split
  next hlt =>
    rw [hy]
    rcases hx : x.isNaN with _ | _
    · rfl
    · rw [lt_iff, (isNaN_iff x).mp hx] at hlt
      simp [UnpackedFloat.compare] at hlt
  next => rfl

end Dasall.Lib.Floats
