import Imx6Gateway.Library.JsonDocument

namespace Imx6Gateway
namespace Library

/-!
# The default text of a `double` in a stream

A stream without settings writes six significant digits, rounded to nearest
with ties to even, without trailing zeros.  Exponents below `-4` and from `6`
on are written out.  The text is a `Numeral`, and what it stands for is the
value with its digits cut to six.
-/

namespace StreamNumber

open JsonDocument (Numeral)

/-- Six digits and the exponent of the first one.  Rounding up may need one
more place. -/
def significant (magnitude : Rat) : Nat × Int :=
  let exponent := Int.log 10 magnitude
  let units := (FloatFormat.roundHalfEven (magnitude / 10 ^ (exponent - 5))).toNat
  if units = 10 ^ 6 then (10 ^ 5, exponent + 1) else (units, exponent)

/-- The value that is left. -/
def sixDigits (value : Rat) : Rat :=
  if value = 0 then 0
  else
    (if value < 0 then -1 else 1) * (significant |value|).1 * 10 ^ ((significant |value|).2 - 5)

/-- Places and digits behind the point without the zeros at the end. -/
def stripZeros : Nat -> Nat -> Nat × Nat
  | 0, value => (0, value)
  | places + 1, value =>
      if value % 10 = 0 then stripZeros places (value / 10) else (places + 1, value)

theorem stripZeros_lt {places value : Nat} (bounded : value < 10 ^ places) :
    (stripZeros places value).2 < 10 ^ (stripZeros places value).1 := by
  induction places generalizing value with
  | zero => exact bounded
  | succ places ih =>
      rw [stripZeros]
      split
      · apply ih
        rw [pow_succ] at bounded
        omega
      · exact bounded

theorem stripZeros_value (places value : Nat) :
    ((stripZeros places value).2 : Rat) / 10 ^ (stripZeros places value).1 =
      value / 10 ^ places := by
  induction places generalizing value with
  | zero => rfl
  | succ places ih =>
      rw [stripZeros]
      split
      · rename_i divisible
        have whole : (value : Rat) = 10 * (value / 10 : Nat) := by
          exact_mod_cast (Nat.mul_div_cancel' (Nat.dvd_of_mod_eq_zero divisible)).symm
        rw [ih, pow_succ, whole]
        field_simp
      · rfl

/-- A number of `units` in the last of the places. -/
def shortened (negative : Bool) (units places : Nat) (exponent : Option Int) : Numeral where
  negative := negative
  whole := units / 10 ^ places
  places := (stripZeros places (units % 10 ^ places)).1
  fraction := (stripZeros places (units % 10 ^ places)).2
  exponent := exponent
  bounded := stripZeros_lt (Nat.mod_lt _ (Nat.pow_pos (by decide)))

theorem shortened_value (negative : Bool) (units places : Nat) (exponent : Option Int) :
    (shortened negative units places exponent).value =
      (if negative then -1 else 1) * (units / 10 ^ places) * 10 ^ exponent.getD 0 := by
  have parts : ((units / 10 ^ places : Nat) : Rat) * 10 ^ places + (units % 10 ^ places : Nat) =
      units := by
    exact_mod_cast Nat.div_add_mod' units (10 ^ places)
  have fraction : (shortened negative units places exponent).fractionValue =
      (units % 10 ^ places : Nat) / 10 ^ places := stripZeros_value _ _
  rw [Numeral.value, fraction, ← parts]
  congr 2
  rw [add_div, mul_div_cancel_right₀ _ (pow_ne_zero _ (by norm_num))]
  rfl

/-- The number as it is written. -/
def numeral (value : Rat) : Numeral :=
  if value = 0 then shortened false 0 0 none
  else
    let digits := significant |value|
    if -4 ≤ digits.2 ∧ digits.2 < 6 then
      shortened (decide (value < 0)) digits.1 (5 - digits.2).toNat none
    else shortened (decide (value < 0)) digits.1 5 (some digits.2)

theorem numeral_value (value : Rat) : (numeral value).value = sixDigits value := by
  unfold numeral sixDigits
  by_cases zero : value = 0
  · rw [if_pos zero, if_pos zero, shortened_value]
    simp
  · rw [if_neg zero, if_neg zero]
    generalize significant |value| = digits
    have ten : (10 : Rat) ≠ 0 := by norm_num
    dsimp only
    split
    · rename_i fixed
      have places : ((5 - digits.2).toNat : Int) = 5 - digits.2 := by omega
      have scale : (10 : Rat) ^ (digits.2 - 5) = (10 ^ (5 - digits.2).toNat)⁻¹ := by
        rw [← zpow_natCast, places, ← zpow_neg, neg_sub]
      rw [shortened_value, scale, Option.getD_none, zpow_zero, mul_one, mul_assoc, div_eq_mul_inv]
      simp only [decide_eq_true_eq]
    · have places : (10 : Rat) ^ (5 : Int) = 10 ^ 5 := by norm_num
      rw [shortened_value, Option.getD_some, zpow_sub₀ ten, places]
      simp only [decide_eq_true_eq]
      ring

example : String.ofList (numeral 1234567).text = "1.23457e+06" := by decide +kernel

theorem roundHalfEven_natCast (value : Nat) : FloatFormat.roundHalfEven value = value := by
  have floor : (value : Rat).floor = value := Rat.floor_intCast value
  unfold FloatFormat.roundHalfEven
  simp only [floor, Int.cast_natCast, sub_self]
  rw [if_pos (by norm_num)]

/-- Six digits are enough for a magnitude that has no more. -/
theorem significant_short {units : Nat} (positive : 0 < units) (few : units < 10 ^ 6)
    (power : Int) :
    ((significant (units * 10 ^ power)).1 : Rat) * 10 ^ ((significant (units * 10 ^ power)).2 - 5) =
      units * 10 ^ power := by
  have ten : (0 : Rat) < 10 := by norm_num
  have magnitude : 0 < (units : Rat) * 10 ^ power :=
    mul_pos (Nat.cast_pos.mpr positive) (zpow_pos ten power)
  have below := Int.zpow_log_le_self (b := 10) (by decide) magnitude
  have above := Int.lt_zpow_succ_log_self (b := 10) (by decide) ((units : Rat) * 10 ^ power)
  unfold significant
  generalize Int.log 10 ((units : Rat) * 10 ^ power) = exponent at below above ⊢
  push_cast at below above
  have reach : exponent - 5 ≤ power := by
    have bound : (10 : Rat) ^ exponent < 10 ^ (power + 6) := by
      calc (10 : Rat) ^ exponent ≤ units * 10 ^ power := below
        _ < 10 ^ 6 * 10 ^ power := by
            apply mul_lt_mul_of_pos_right _ (zpow_pos ten power)
            exact_mod_cast few
        _ = 10 ^ (power + 6) := by
            rw [zpow_add₀ ten.ne', mul_comm]
            norm_num
    have order := (zpow_lt_zpow_iff_right₀ (by norm_num : (1 : Rat) < 10)).mp bound
    omega
  have scaled : (units : Rat) * 10 ^ power / 10 ^ (exponent - 5) =
      (units * 10 ^ (power - (exponent - 5)).toNat : Nat) := by
    have places : ((power - (exponent - 5)).toNat : Int) = power - (exponent - 5) := by omega
    rw [Nat.cast_mul, Nat.cast_pow, Nat.cast_ofNat, mul_div_assoc, ← zpow_sub₀ ten.ne',
      ← zpow_natCast, places]
  have small : units * 10 ^ (power - (exponent - 5)).toNat < 10 ^ 6 := by
    have bound : ((units * 10 ^ (power - (exponent - 5)).toNat : Nat) : Rat) < 10 ^ 6 := by
      rw [← scaled, div_lt_iff₀ (zpow_pos ten _)]
      calc (units : Rat) * 10 ^ power < 10 ^ (exponent + 1) := above
        _ = 10 ^ 6 * 10 ^ (exponent - 5) := by
            have six : (10 : Rat) ^ 6 = 10 ^ (6 : Int) := by norm_num
            rw [six, ← zpow_add₀ ten.ne']
            congr 1
            omega
    exact_mod_cast bound
  simp only [scaled, roundHalfEven_natCast, Int.toNat_natCast, if_neg small.ne]
  rw [← scaled, div_mul_cancel₀ _ (zpow_ne_zero _ ten.ne')]

theorem sixDigits_short (units : Int) (power : Int) (few : units.natAbs < 10 ^ 6) :
    sixDigits (units * 10 ^ power) = units * 10 ^ power := by
  have scale : (0 : Rat) < 10 ^ power := zpow_pos (by norm_num) power
  unfold sixDigits
  split
  · rename_i zero
    exact zero.symm
  · rename_i nonzero
    have positive : 0 < units.natAbs := by
      rw [Int.natAbs_pos]
      rintro rfl
      exact nonzero (by simp)
    have magnitude : |(units : Rat) * 10 ^ power| = units.natAbs * 10 ^ power := by
      rw [abs_mul, abs_of_pos scale, Nat.cast_natAbs, Int.cast_abs]
    rw [mul_assoc, magnitude, significant_short positive few, ← magnitude]
    by_cases negative : (units : Rat) * 10 ^ power < 0
    · rw [if_pos negative, abs_of_neg negative, neg_one_mul, neg_neg]
    · rw [if_neg negative, abs_of_nonneg (not_lt.mp negative), one_mul]

/-! ## Finite numbers -/

/-- A carry changes the digits and the exponent, but not the value. -/
theorem significant_value (magnitude : Rat) :
    ((significant magnitude).1 : Rat) * 10 ^ ((significant magnitude).2 - 5) =
      (FloatFormat.roundHalfEven (magnitude / 10 ^ (Int.log 10 magnitude - 5))).toNat *
        10 ^ (Int.log 10 magnitude - 5) := by
  unfold significant
  dsimp only
  split
  · rename_i carry
    rw [carry, show Int.log 10 magnitude + 1 - 5 = 1 + (Int.log 10 magnitude - 5) by ring,
      zpow_add₀ (by norm_num), zpow_one]
    push_cast
    ring
  · rfl

theorem abs_sixDigits (value : Rat) (nonzero : value ≠ 0) : |sixDigits value| =
    (FloatFormat.roundHalfEven (|value| / 10 ^ (Int.log 10 |value| - 5))).toNat *
      10 ^ (Int.log 10 |value| - 5) := by
  have sign : |(if value < 0 then -1 else 1 : Rat)| = 1 := by
    split <;> norm_num
  have scale : (0 : Rat) < 10 ^ ((significant |value|).2 - 5) := zpow_pos (by norm_num) _
  rw [sixDigits, if_neg nonzero, abs_mul, abs_mul, sign, one_mul, Nat.abs_cast, abs_of_pos scale,
    significant_value]

/-- The largest `double` between decimal numbers. -/
theorem largest_bounds : (10 : Rat) ^ (308 : Int) ≤ FloatFormat.binary64.largest ∧
    FloatFormat.binary64.largest < 10 ^ (309 : Int) ∧
    FloatFormat.binary64.largest < (179769 + 1 / 2) * 10 ^ (303 : Int) ∧
    179769 * 10 ^ (303 : Int) ≤ FloatFormat.binary64.largest := by
  have power : FloatFormat.binary64.minExponent + FloatFormat.binary64.exponents - 1 =
      (971 : Nat) := by decide
  have large : FloatFormat.binary64.largest = ((2 ^ 53 - 1) * 2 ^ 971 : Nat) := by
    rw [FloatFormat.largest, power, zpow_natCast, Nat.cast_mul, Nat.cast_pow 2 971]
    rfl
  have first : 10 ^ 308 ≤ (2 ^ 53 - 1) * 2 ^ 971 := by decide +kernel
  have second : (2 ^ 53 - 1) * 2 ^ 971 < 10 ^ 309 := by decide +kernel
  have third : 2 * ((2 ^ 53 - 1) * 2 ^ 971) < 359539 * 10 ^ 303 := by decide +kernel
  have fourth : 179769 * 10 ^ 303 ≤ (2 ^ 53 - 1) * 2 ^ 971 := by decide +kernel
  rw [large]
  generalize (2 ^ 53 - 1) * 2 ^ 971 = top at first second third fourth ⊢
  have cast : forall places : Nat, (10 : Rat) ^ (places : Int) = (10 ^ places : Nat) := by
    intro places
    rw [zpow_natCast, Nat.cast_pow, Nat.cast_ofNat]
  have third : (2 : Rat) * top < 359539 * (10 ^ 303 : Nat) := by exact_mod_cast third
  refine ⟨?_, ?_, ?_, ?_⟩
  · exact (cast 308).trans_le (Nat.cast_le.mpr first)
  · exact (Nat.cast_lt.mpr second).trans_eq (cast 309).symm
  · rw [show (10 : Rat) ^ (303 : Int) = (10 ^ 303 : Nat) from cast 303]
    linarith
  · rw [show (10 : Rat) ^ (303 : Int) = (10 ^ 303 : Nat) from cast 303]
    exact_mod_cast fourth

theorem toNat_roundHalfEven_mul_le {value unit : Rat} {bound : Nat} (positive : 0 < unit)
    (below : value < (bound + 1 / 2) * unit) :
    ((FloatFormat.roundHalfEven (value / unit)).toNat : Rat) * unit ≤ bound * unit := by
  have rounded : FloatFormat.roundHalfEven (value / unit) ≤ bound := by
    apply FloatFormat.roundHalfEven_le
    rw [div_lt_iff₀ positive]
    exact below
  apply mul_le_mul_of_nonneg_right _ positive.le
  have short : (FloatFormat.roundHalfEven (value / unit)).toNat ≤ bound := by omega
  exact_mod_cast short

/-- Cutting the digits of a finite number does not make it infinite. -/
theorem abs_sixDigits_le {value : Rat} (bounded : |value| ≤ FloatFormat.binary64.largest) :
    |sixDigits value| ≤ FloatFormat.binary64.largest := by
  rcases largest_bounds with ⟨power, next, digits, short⟩
  have ten : (0 : Rat) < 10 := by norm_num
  by_cases zero : value = 0
  · rw [sixDigits, if_pos zero, abs_zero]
    exact (zpow_pos ten _).le.trans power
  have positive : 0 < |value| := abs_pos.mpr zero
  have below := Int.zpow_log_le_self (b := 10) (by decide) positive
  have above := Int.lt_zpow_succ_log_self (b := 10) (by decide) |value|
  push_cast at below above
  rw [abs_sixDigits value zero]
  generalize Int.log 10 |value| = exponent at below above ⊢
  have unit : (0 : Rat) < 10 ^ (exponent - 5) := zpow_pos ten _
  by_cases small : exponent < 308
  · have million : ((10 ^ 6 : Nat) : Rat) * 10 ^ (exponent - 5) = 10 ^ (exponent + 1) := by
      rw [Nat.cast_pow, Nat.cast_ofNat, ← zpow_natCast, ← zpow_add₀ ten.ne']
      congr 1
      push_cast
      ring
    calc ((FloatFormat.roundHalfEven (|value| / 10 ^ (exponent - 5))).toNat : Rat) *
          10 ^ (exponent - 5)
        ≤ (10 ^ 6 : Nat) * 10 ^ (exponent - 5) := by
          apply toNat_roundHalfEven_mul_le unit
          rw [add_mul, million]
          linarith
      _ = 10 ^ (exponent + 1) := million
      _ ≤ 10 ^ (308 : Int) := zpow_le_zpow_right₀ (by norm_num) (by omega)
      _ ≤ FloatFormat.binary64.largest := power
  · have last : exponent = 308 := by
      have order := (below.trans bounded).trans_lt next
      have bound := (zpow_lt_zpow_iff_right₀ (by norm_num : (1 : Rat) < 10)).mp order
      omega
    rw [last] at unit ⊢
    rw [show (308 : Int) - 5 = 303 from rfl] at unit ⊢
    have cut := @toNat_roundHalfEven_mul_le |value| (10 ^ (303 : Int)) 179769 unit
      (bounded.trans_lt digits)
    exact cut.trans short

/-- The digits of a finite number are read as a finite number. -/
theorem isSome_numeral_json (value : FloatFormat.Value FloatFormat.binary64) :
    (numeral value.1).json.isSome = true := by
  have bounded := FloatFormat.abs_le_largest value.2
  have round := FloatFormat.isSome_round (by decide) (by decide) (abs_sixDigits_le bounded)
  rcases Option.isSome_iff_exists.mp round with ⟨rounded, nearest⟩
  rw [← numeral_value] at nearest
  rcases JsonDocument.exists_json nearest with ⟨json, written, -⟩
  rw [written]
  rfl

end StreamNumber
end Library
end Imx6Gateway
