import Mathlib.Algebra.Order.Field.Rat
import Mathlib.Data.Int.Log
import Mathlib.Data.Rat.Floor
import Mathlib.Data.Nat.Prime.Basic
import Mathlib.Data.Rat.Lemmas
import Mathlib.Tactic.Ring
import Mathlib.Tactic.FieldSimp
import Mathlib.Tactic.Linarith
import Mathlib.Tactic.NormNum

namespace Imx6Gateway
namespace Library

/-!
# Finite binary floating-point values

A finite `float` or `double` is identified with the rational number it
denotes, so the two zeros are one value.  A format fixes the number of
significand bits and the exponents of the last bit.  Rounding is to nearest
with ties to even; what it keeps is all that is proved about it.
-/

/-- Significand bits, and the least exponent of the last significand bit with
the number of exponents above it. -/
structure FloatFormat where
  precision : Nat
  minExponent : Int
  exponents : Nat
deriving DecidableEq

namespace FloatFormat

/-- The value is an integer significand of the format's width times a power
of two that the format has. -/
def Representable (format : FloatFormat) (value : Rat) : Prop :=
  exists offset, offset < format.exponents ∧
    (value / 2 ^ (format.minExponent + offset : Int)).den = 1 ∧
    (value / 2 ^ (format.minExponent + offset : Int)).num.natAbs < 2 ^ format.precision

instance representableDecidable (format : FloatFormat) (value : Rat) :
    Decidable (format.Representable value) :=
  inferInstanceAs (Decidable (exists offset, offset < format.exponents ∧ _))

/-- IEEE 754 single precision, the C `float`. -/
def binary32 : FloatFormat := ⟨24, -149, 254⟩

/-- IEEE 754 double precision, the C `double`. -/
def binary64 : FloatFormat := ⟨53, -1074, 2046⟩

/-- Significand form of a representable value. -/
theorem representable_iff (format : FloatFormat) (value : Rat) :
    format.Representable value ↔ exists (significand : Int) (offset : Nat),
      offset < format.exponents ∧ significand.natAbs < 2 ^ format.precision ∧
      value = significand * 2 ^ (format.minExponent + offset : Int) := by
  constructor
  · rintro ⟨offset, inRange, integral, bounded⟩
    refine ⟨_, offset, inRange, bounded, ?_⟩
    have scaled : ((value / 2 ^ (format.minExponent + offset : Int)).num : Rat) =
        value / 2 ^ (format.minExponent + offset : Int) :=
      Rat.den_eq_one_iff _ |>.mp integral
    rw [scaled]
    field_simp
  · rintro ⟨significand, offset, inRange, bounded, rfl⟩
    have scaled : (significand * 2 ^ (format.minExponent + offset : Int) : Rat) /
        2 ^ (format.minExponent + offset : Int) = significand := by
      field_simp
    refine ⟨offset, inRange, ?_, ?_⟩
    · rw [scaled]
      exact Rat.den_intCast significand
    · rw [scaled]
      exact bounded

/-- The finite values of a format. -/
abbrev Value (format : FloatFormat) : Type :=
  {value : Rat // format.Representable value}

/-- A wider format holds every value of a narrower one. -/
theorem representable_of_wider {narrow wide : FloatFormat} {value : Rat}
    (precise : narrow.precision ≤ wide.precision)
    (lower : wide.minExponent ≤ narrow.minExponent)
    (upper : narrow.minExponent + narrow.exponents ≤ wide.minExponent + wide.exponents)
    (representable : narrow.Representable value) : wide.Representable value := by
  rw [representable_iff] at representable ⊢
  rcases representable with ⟨significand, offset, inRange, bounded, rfl⟩
  refine ⟨significand, (narrow.minExponent + offset - wide.minExponent).toNat, by omega, ?_, ?_⟩
  · exact bounded.trans_le (Nat.pow_le_pow_right (by decide) precise)
  · have same : wide.minExponent +
        ((narrow.minExponent + offset - wide.minExponent).toNat : Int) =
        narrow.minExponent + offset := by omega
    rw [same]

theorem binary64_of_binary32 {value : Rat} (single : binary32.Representable value) :
    binary64.Representable value :=
  representable_of_wider (by decide) (by decide) (by decide) single

/-- A `float` converted to `double`. -/
def widen (value : Value binary32) : Value binary64 :=
  ⟨value.1, binary64_of_binary32 value.2⟩

def roundHalfEven (value : Rat) : Int :=
  let below := value.floor
  if value - below < 1 / 2 then below
  else if 1 / 2 < value - below then below + 1
  else if below % 2 = 0 then below else below + 1

/-- The multiple of the last bit's value that is nearest. -/
def nearest (format : FloatFormat) (value : Rat) : Rat :=
  let exponent := max format.minExponent (Int.log 2 |value| - (format.precision - 1))
  roundHalfEven (value / 2 ^ exponent) * 2 ^ exponent

/-- Conversion of a number to the format; `none` is an infinite result. -/
def round (format : FloatFormat) (value : Rat) : Option (Value format) :=
  if exact : format.Representable value then some ⟨value, exact⟩
  else if inRange : format.Representable (format.nearest value) then
    some ⟨format.nearest value, inRange⟩
  else none

@[simp]
theorem round_value {format : FloatFormat} (value : Value format) :
    format.round value.1 = some value :=
  dif_pos value.2

/-- Integers up to the precision are exact. -/
theorem representable_intCast (format : FloatFormat) (value : Int)
    (bounded : value.natAbs < 2 ^ format.precision)
    (hasUnit : format.minExponent ≤ 0) (inRange : 0 < format.minExponent + format.exponents) :
    format.Representable value := by
  rw [representable_iff]
  refine ⟨value, (-format.minExponent).toNat, by omega, bounded, ?_⟩
  have unit : format.minExponent + ((-format.minExponent).toNat : Int) = 0 := by omega
  rw [unit, zpow_zero, mul_one]

theorem representable_small (value : Int) (small : value.natAbs < 2 ^ 24) :
    binary32.Representable value :=
  representable_intCast binary32 value small (by decide) (by decide)

/-- A representable value has a power of two below the line. -/
theorem den_eq_two_pow {format : FloatFormat} {value : Rat}
    (representable : format.Representable value) : exists power, value.den = 2 ^ power := by
  rw [representable_iff] at representable
  rcases representable with ⟨significand, offset, -, -, equal⟩
  have divides : exists power, value.den ∣ 2 ^ power := by
    refine ⟨(-(format.minExponent + offset)).toNat, ?_⟩
    rcases Int.le_total 0 (format.minExponent + offset) with nonneg | nonpos
    · have integral : value =
          ((significand * 2 ^ (format.minExponent + offset).toNat : Int) : Rat) := by
        rw [equal]
        push_cast
        rw [← zpow_natCast, Int.toNat_of_nonneg nonneg]
      rw [integral, Rat.den_intCast]
      exact one_dvd _
    · have quotient : value =
          Rat.divInt significand ((2 ^ (-(format.minExponent + offset)).toNat : Nat) : Int) := by
        rw [equal, Rat.divInt_eq_div]
        push_cast
        rw [← zpow_natCast, Int.toNat_of_nonneg (by omega), zpow_neg, div_inv_eq_mul]
      rw [quotient, ← Int.natCast_dvd_natCast]
      exact Rat.den_dvd _ _
  rcases divides with ⟨power, divides⟩
  rcases (Nat.dvd_prime_pow Nat.prime_two).mp divides with ⟨exact, -, same⟩
  exact ⟨exact, same⟩

/-! ## Numbers that do not overflow -/

theorem roundHalfEven_le {value : Rat} {bound : Int} (below : value < bound + 1 / 2) :
    roundHalfEven value ≤ bound := by
  have floorLe : (value.floor : Rat) ≤ value := Rat.floor_le value
  have floorBound : value.floor ≤ bound := by
    by_contra above
    have next : ((bound + 1 : Int) : Rat) ≤ value.floor := by
      exact_mod_cast not_le.mp above
    push_cast at next
    linarith
  unfold roundHalfEven
  dsimp only
  rcases lt_or_eq_of_le floorBound with smaller | same
  · split_ifs <;> omega
  · rw [same, if_pos (by linarith)]

theorem le_roundHalfEven {value : Rat} {bound : Int} (above : (bound : Rat) ≤ value) :
    bound ≤ roundHalfEven value := by
  have floorBound : bound ≤ value.floor := Rat.le_floor_iff.mpr above
  unfold roundHalfEven
  dsimp only
  split_ifs <;> omega

/-- Rounding does not leave an interval between integers. -/
theorem natAbs_roundHalfEven_le {value : Rat} {bound : Nat} (inside : |value| ≤ bound) :
    (roundHalfEven value).natAbs ≤ bound := by
  have sides := abs_le.mp inside
  have above : roundHalfEven value ≤ bound := roundHalfEven_le (by
    push_cast
    linarith [sides.2])
  have below : -(bound : Int) ≤ roundHalfEven value := le_roundHalfEven (by
    push_cast
    exact sides.1)
  omega

/-- The largest value of a format. -/
def largest (format : FloatFormat) : Rat :=
  ((2 ^ format.precision - 1 : Nat) : Rat) * 2 ^ (format.minExponent + format.exponents - 1)

theorem abs_le_largest {format : FloatFormat} {value : Rat}
    (representable : format.Representable value) : |value| ≤ format.largest := by
  rw [representable_iff] at representable
  rcases representable with ⟨significand, offset, inRange, bounded, rfl⟩
  have unit : (0 : Rat) < 2 ^ (format.minExponent + offset : Int) := zpow_pos (by norm_num) _
  have digits : |(significand : Rat)| = (significand.natAbs : Nat) := by
    rw [Nat.cast_natAbs, Int.cast_abs]
  rw [abs_mul, abs_of_pos unit, digits, largest]
  apply mul_le_mul _ _ unit.le (Nat.cast_nonneg _)
  · exact Nat.cast_le.mpr (Nat.le_sub_one_of_lt bounded)
  · apply zpow_le_zpow_right₀ (by norm_num)
    omega

theorem exponent_le {format : FloatFormat} {value : Rat} (positive : 0 < |value|)
    (nonempty : 0 < format.exponents) (bounded : |value| ≤ format.largest) :
    max format.minExponent (Int.log 2 |value| - (format.precision - 1)) ≤
      format.minExponent + format.exponents - 1 := by
  have power := Int.zpow_log_le_self (b := 2) (by decide) positive
  push_cast at power
  have order : (2 : Rat) ^ Int.log 2 |value| <
      2 ^ ((format.precision : Int) + (format.minExponent + format.exponents - 1)) := by
    calc (2 : Rat) ^ Int.log 2 |value| ≤ |value| := power
      _ ≤ format.largest := bounded
      _ < (2 : Rat) ^ format.precision * 2 ^ (format.minExponent + format.exponents - 1) := by
          apply mul_lt_mul_of_pos_right _ (zpow_pos (by norm_num) _)
          exact_mod_cast Nat.sub_lt (Nat.two_pow_pos _) Nat.one_pos
      _ = 2 ^ ((format.precision : Int) + (format.minExponent + format.exponents - 1)) := by
          rw [zpow_add₀ (by norm_num), zpow_natCast]
  have below := (zpow_lt_zpow_iff_right₀ (by norm_num : (1 : Rat) < 2)).mp order
  omega

theorem representable_nearest {format : FloatFormat} {value : Rat}
    (precise : 0 < format.precision) (nonempty : 0 < format.exponents)
    (bounded : |value| ≤ format.largest) : format.Representable (format.nearest value) := by
  rw [representable_iff]
  unfold nearest
  dsimp only
  by_cases zero : value = 0
  · refine ⟨0, 0, nonempty, Nat.two_pow_pos _, ?_⟩
    have rounded : roundHalfEven 0 = 0 := Int.natAbs_eq_zero.mp
      (Nat.le_zero.mp (natAbs_roundHalfEven_le (by rw [abs_zero, Nat.cast_zero])))
    rw [zero, zero_div, rounded, Int.cast_zero, zero_mul, zero_mul]
  have positive : 0 < |value| := abs_pos.mpr zero
  have inRange := exponent_le positive nonempty bounded
  have magnitude := Int.lt_zpow_succ_log_self (b := 2) (by decide) |value|
  push_cast at magnitude
  have lowest : format.minExponent ≤
      max format.minExponent (Int.log 2 |value| - (format.precision - 1)) := le_max_left _ _
  have digits : Int.log 2 |value| + 1 ≤
      max format.minExponent (Int.log 2 |value| - (format.precision - 1)) + format.precision := by
    omega
  generalize max format.minExponent (Int.log 2 |value| - (format.precision - 1)) = exponent
    at inRange lowest digits ⊢
  have unit : (0 : Rat) < 2 ^ exponent := zpow_pos (by norm_num) _
  have scaled : |value / 2 ^ exponent| = |value| / 2 ^ exponent := by
    rw [abs_div, abs_of_pos unit]
  have short : (roundHalfEven (value / 2 ^ exponent)).natAbs ≤ 2 ^ format.precision := by
    apply natAbs_roundHalfEven_le
    rw [scaled, div_le_iff₀ unit, Nat.cast_pow, Nat.cast_ofNat, ← zpow_natCast,
      ← zpow_add₀ (by norm_num)]
    apply magnitude.le.trans
    apply zpow_le_zpow_right₀ (by norm_num)
    omega
  have place : format.minExponent + ((exponent - format.minExponent).toNat : Int) = exponent := by
    omega
  rcases lt_or_eq_of_le short with fits | carry
  · exact ⟨_, (exponent - format.minExponent).toNat, by omega, fits, by rw [place]⟩
  · -- one more bit: the exponent is not the last one, so the next one is there
    have room : exponent < format.minExponent + format.exponents - 1 := by
      apply lt_of_le_of_ne inRange
      rintro rfl
      have smaller : (roundHalfEven (value /
          2 ^ (format.minExponent + format.exponents - 1))).natAbs ≤ 2 ^ format.precision - 1 := by
        apply natAbs_roundHalfEven_le
        rw [scaled, div_le_iff₀ unit]
        exact bounded
      have positive := Nat.two_pow_pos format.precision
      omega
    have half : (2 : Rat) ^ format.precision = 2 ^ (format.precision - 1) * 2 := by
      rw [← pow_succ, Nat.sub_add_cancel precise]
    have next : format.minExponent + ((exponent + 1 - format.minExponent).toNat : Int) =
        exponent + 1 := by
      omega
    have fits : ((2 ^ (format.precision - 1) : Nat) : Int).natAbs < 2 ^ format.precision := by
      rw [Int.natAbs_natCast]
      exact Nat.pow_lt_pow_right (by decide) (by omega)
    rcases Int.natAbs_eq (roundHalfEven (value / 2 ^ exponent)) with same | same
    · refine ⟨(2 ^ (format.precision - 1) : Nat), (exponent + 1 - format.minExponent).toNat,
        by omega, fits, ?_⟩
      rw [same, carry, next, zpow_add₀ (by norm_num), zpow_one]
      push_cast
      rw [half]
      ring
    · refine ⟨-(2 ^ (format.precision - 1) : Nat), (exponent + 1 - format.minExponent).toNat,
        by omega, by rwa [Int.natAbs_neg], ?_⟩
      rw [same, carry, next, zpow_add₀ (by norm_num), zpow_one]
      push_cast
      rw [half]
      ring

theorem isSome_round {format : FloatFormat} {value : Rat}
    (precise : 0 < format.precision) (nonempty : 0 < format.exponents)
    (bounded : |value| ≤ format.largest) : (format.round value).isSome = true := by
  unfold round
  split
  · rfl
  · rw [dif_pos (representable_nearest precise nonempty bounded)]
    rfl

end FloatFormat
end Library
end Imx6Gateway
