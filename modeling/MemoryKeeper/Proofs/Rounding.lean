import MemoryKeeper.Number.Double
import Mathlib.Algebra.Order.Field.Power
import Mathlib.Algebra.Order.Floor.Semifield
import Mathlib.Data.Int.Log
import Mathlib.Data.Rat.Floor
import Mathlib.Tactic.FieldSimp
import Mathlib.Tactic.Linarith
import Mathlib.Tactic.NormNum
import Mathlib.Tactic.Positivity

/-!
# Rounding to doubles

Rounding works on numerators and denominators, and everything that it does with
them depends on their quotient only. So the double that a quotient or a decimal
is rounded to is a function of its sign and of a rational number, its size. That
function keeps the size of every double as it is, and its values are the doubles
in their kept form, infinities and zeros.

A decimal of many digits is settled before its power of ten is written out. Its
size alone would lead to the same double, so this is a matter of time only.
-/

namespace MemoryKeeper

/-- A decimal without its sign. -/
def Decimal.size (decimal : Decimal) : ℚ :=
  decimal.coefficient * 10 ^ decimal.exponent

namespace Double

/-- The kept form of the finite doubles: the significand uses all of its 53 bits unless the power
is the least one. -/
structure IsCanonical (significand : ℕ) (power : ℤ) : Prop where
  narrow : significand < 2 ^ 53
  least_le : leastPower ≤ power
  le_greatest : power ≤ greatestPower
  full : 2 ^ 52 ≤ significand ∨ power = leastPower

/-- The natural number nearest to a size, the even one from the middle. -/
def roundSize (size : ℚ) : ℕ :=
  let fraction := size - ⌊size⌋₊
  if 1 / 2 < fraction ∨ (fraction = 1 / 2 ∧ ⌊size⌋₊ % 2 = 1) then ⌊size⌋₊ + 1 else ⌊size⌋₊

/-- The exponent of the last binary place that a double of a size has. -/
def lastPlace (size : ℚ) : ℤ :=
  max (Int.log 2 size - 52) leastPower

/-- The double with a rounded significand, which may have become one bit too long. -/
def settle (negative : Bool) (significand : ℕ) (power : ℤ) : Double :=
  if significand = 2 ^ 53 then
    if greatestPower < power + 1 then .infinite negative
    else .finite negative (2 ^ 52) (power + 1)
  else if significand = 0 then zero negative
  else if greatestPower < power then .infinite negative
  else .finite negative significand power

/-- The double nearest to a size with a sign. -/
def nearest (negative : Bool) (size : ℚ) : Double :=
  if size = 0 then zero negative
  else settle negative (roundSize (size / 2 ^ lastPlace size)) (lastPlace size)

variable {negative : Bool} {numerator denominator significand : ℕ} {power : ℤ} {size : ℚ}

theorem roundQuotient_eq (positive : 0 < denominator) (numerator : ℕ) :
    roundQuotient numerator denominator = roundSize (numerator / denominator) := by
  have divided : (numerator : ℚ) = denominator * (numerator / denominator : ℕ) +
      (numerator % denominator : ℕ) := by
    exact_mod_cast (Nat.div_add_mod numerator denominator).symm
  have fraction : (numerator : ℚ) / denominator - (numerator / denominator : ℕ) =
      (numerator % denominator : ℕ) / denominator := by
    field_simp
    linarith
  have more : (1 : ℚ) / 2 < (numerator % denominator : ℕ) / denominator ↔
      denominator < 2 * (numerator % denominator) := by
    rw [div_lt_div_iff₀ (by norm_num) (by positivity)]
    norm_cast
    omega
  have middle : ((numerator % denominator : ℕ) : ℚ) / denominator = 1 / 2 ↔
      2 * (numerator % denominator) = denominator := by
    rw [div_eq_div_iff (by positivity) (by norm_num)]
    norm_cast
    omega
  simp only [roundQuotient, roundSize, Nat.floor_div_eq_div, fraction, more, middle]

theorem divideByPower_pos (positive : 0 < denominator) (numerator : ℕ) (power : ℤ) :
    0 < (divideByPower numerator denominator power).2 := by
  unfold divideByPower
  split_ifs with sign
  · exact Nat.mul_pos positive (Nat.pow_pos (by decide))
  · exact positive

theorem divideByPower_eq (numerator denominator : ℕ) (power : ℤ) :
    ((divideByPower numerator denominator power).1 : ℚ) /
      (divideByPower numerator denominator power).2 = numerator / denominator / 2 ^ power := by
  unfold divideByPower
  split_ifs with sign
  · lift power to ℕ using sign
    simp [div_div]
  · obtain ⟨opposite, rfl⟩ := Int.exists_eq_neg_ofNat (show power ≤ 0 by omega)
    simp [mul_div_right_comm]

/-- The guess from the lengths of numerator and denominator is right or one too much. -/
theorem floorLog2_eq (upper : 0 < numerator) (lower : 0 < denominator) :
    floorLog2 numerator denominator = Int.log 2 ((numerator : ℚ) / denominator) := by
  have upper_pos : (0 : ℚ) < numerator := by exact_mod_cast upper
  have lower_pos : (0 : ℚ) < denominator := by exact_mod_cast lower
  have size_pos : (0 : ℚ) < numerator / denominator := div_pos upper_pos lower_pos
  have upper_le : (2 : ℚ) ^ Nat.log2 numerator ≤ numerator := by
    exact_mod_cast Nat.log2_self_le upper.ne'
  have lt_upper : (numerator : ℚ) < 2 ^ (Nat.log2 numerator + 1) := by
    exact_mod_cast Nat.lt_log2_self
  have lower_le : (2 : ℚ) ^ Nat.log2 denominator ≤ denominator := by
    exact_mod_cast Nat.log2_self_le lower.ne'
  have lt_lower : (denominator : ℚ) < 2 ^ (Nat.log2 denominator + 1) := by
    exact_mod_cast Nat.lt_log2_self
  have notMore : Int.log 2 ((numerator : ℚ) / denominator) <
      ((Nat.log2 numerator + 1 : ℕ) : ℤ) - (Nat.log2 denominator : ℕ) := by
    rw [← Int.lt_zpow_iff_log_lt (by decide) size_pos, Nat.cast_ofNat, zpow_sub₀ two_ne_zero,
      zpow_natCast, zpow_natCast]
    exact div_lt_div₀ lt_upper lower_le (by positivity) (by positivity)
  have notLess : (Nat.log2 numerator : ℤ) - ((Nat.log2 denominator + 1 : ℕ) : ℤ) ≤
      Int.log 2 ((numerator : ℚ) / denominator) := by
    rw [← Int.zpow_le_iff_le_log (by decide) size_pos, Nat.cast_ofNat, zpow_sub₀ two_ne_zero,
      zpow_natCast, zpow_natCast]
    exact div_le_div₀ (by positivity) upper_le (by positivity) lt_lower.le
  -- the comparison tells on which side of the logarithm a guess lies
  have fits (guess : ℤ) : (divideByPower numerator denominator guess).2 ≤
      (divideByPower numerator denominator guess).1 ↔
        guess ≤ Int.log 2 ((numerator : ℚ) / denominator) := by
    have unit_pos : (0 : ℚ) < (divideByPower numerator denominator guess).2 := by
      exact_mod_cast divideByPower_pos lower numerator guess
    have power_pos : (0 : ℚ) < 2 ^ guess := by positivity
    rw [← Int.zpow_le_iff_le_log (by decide) size_pos, ← Nat.cast_le (α := ℚ),
      ← one_le_div unit_pos, divideByPower_eq, one_le_div power_pos, Nat.cast_ofNat]
  simp only [floorLog2, fits]
  split_ifs <;> omega

/-- Only the size of a quotient matters for the double nearest to it. -/
theorem ofQuotient_eq_nearest (positive : 0 < denominator) (numerator : ℕ) :
    ofQuotient negative numerator denominator = nearest negative (numerator / denominator) := by
  rcases Nat.eq_zero_or_pos numerator with rfl | present
  · simp [ofQuotient, nearest]
  · have size_pos : (0 : ℚ) < numerator / denominator := by positivity
    have place : max (floorLog2 numerator denominator - 52) leastPower =
        lastPlace (numerator / denominator) := by
      rw [floorLog2_eq present positive, lastPlace]
    have rounded := roundQuotient_eq
      (divideByPower_pos positive numerator (lastPlace (numerator / denominator)))
      (divideByPower numerator denominator (lastPlace (numerator / denominator))).1
    rw [divideByPower_eq] at rounded
    simp only [ofQuotient, nearest, settle, present.ne', size_pos.ne', place, rounded, if_false]
    split_ifs <;> simp_all

section Rounding

variable {bound : ℕ}

@[simp]
theorem roundSize_natCast (number : ℕ) : roundSize number = number := by
  simp [roundSize]

theorem le_roundSize (le : bound ≤ size) : bound ≤ roundSize size := by
  have floored : bound ≤ ⌊size⌋₊ := Nat.le_floor le
  simp only [roundSize]
  split_ifs <;> omega

theorem roundSize_le (nonneg : 0 ≤ size) (le : size ≤ bound) : roundSize size ≤ bound := by
  rcases le.lt_or_eq with lt | rfl
  · have floored : ⌊size⌋₊ < bound := (Nat.floor_lt nonneg).mpr lt
    simp only [roundSize]
    split_ifs <;> omega
  · simp

theorem roundSize_of_lt_half (small : size < 1 / 2) : roundSize size = 0 := by
  have floored : ⌊size⌋₊ = 0 := Nat.floor_eq_zero.mpr (by linarith)
  simp only [roundSize, floored, Nat.cast_zero, sub_zero]
  rw [if_neg]
  rintro (above | ⟨-, odd⟩)
  · linarith
  · cases odd

end Rounding

theorem leastPower_le_lastPlace (size : ℚ) : leastPower ≤ lastPlace size :=
  le_max_right _ _

theorem scaled_lt (size : ℚ) : size / 2 ^ lastPlace size < 2 ^ 53 := by
  have bounded : size < 2 ^ (lastPlace size + 53) := by
    have below := Int.lt_zpow_succ_log_self (b := 2) (by decide) size
    refine below.trans_le ?_
    rw [Nat.cast_ofNat]
    apply zpow_le_zpow_right₀ (by norm_num)
    have := le_max_left (Int.log 2 size - 52) leastPower
    rw [lastPlace]
    omega
  rw [div_lt_iff₀ (by positivity)]
  rwa [zpow_add₀ two_ne_zero, mul_comm] at bounded

section Scaling

variable (positive : 0 < size)

include positive

theorem le_scaled (above : leastPower < lastPlace size) :
    2 ^ 52 ≤ size / 2 ^ lastPlace size := by
  have place : Int.log 2 size = lastPlace size + 52 := by
    rw [lastPlace] at above ⊢
    omega
  have bounded := Int.zpow_log_le_self (b := 2) (by decide) positive
  rw [le_div_iff₀ (by positivity)]
  rwa [place, Nat.cast_ofNat, zpow_add₀ two_ne_zero, mul_comm] at bounded

theorem roundSize_scaled_le : roundSize (size / 2 ^ lastPlace size) ≤ 2 ^ 53 := by
  apply roundSize_le (by positivity)
  exact_mod_cast (scaled_lt size).le

theorem le_roundSize_scaled (above : leastPower < lastPlace size) :
    2 ^ 52 ≤ roundSize (size / 2 ^ lastPlace size) := by
  apply le_roundSize
  exact_mod_cast le_scaled positive above

end Scaling

theorem isCanonical_zero : IsCanonical 0 leastPower :=
  ⟨by decide, le_rfl, by decide, .inr rfl⟩

/-- What is nearest to a size is a double in its kept form, unless it is infinite. -/
theorem isCanonical_of_nearest {sign : Bool} (nonneg : 0 ≤ size)
    (found : nearest negative size = .finite sign significand power) :
    sign = negative ∧ IsCanonical significand power := by
  rw [nearest] at found
  split_ifs at found with isZero
  · cases found
    exact ⟨rfl, isCanonical_zero⟩
  · have positive : 0 < size := lt_of_le_of_ne nonneg (Ne.symm isZero)
    have narrow := roundSize_scaled_le positive
    have full := le_roundSize_scaled positive
    have least_le := leastPower_le_lastPlace size
    rw [settle] at found
    split_ifs at found with carried tooLarge isZero tooLarge
    · cases found
      exact ⟨rfl, by decide, by omega, by omega, .inl le_rfl⟩
    · cases found
      exact ⟨rfl, isCanonical_zero⟩
    · cases found
      exact ⟨rfl, by omega, least_le, by omega, by omega⟩

theorem lastPlace_of_isCanonical (positive : 0 < significand)
    (canonical : IsCanonical significand power) :
    lastPlace (significand * 2 ^ power) = power := by
  have significand_pos : (0 : ℚ) < significand := by exact_mod_cast positive
  have size_pos : (0 : ℚ) < significand * 2 ^ power := by positivity
  have below : Int.log 2 ((significand : ℚ) * 2 ^ power) < 53 + power := by
    rw [← Int.lt_zpow_iff_log_lt (by decide) size_pos, Nat.cast_ofNat, zpow_add₀ two_ne_zero]
    gcongr
    exact_mod_cast canonical.narrow
  have least_le := canonical.least_le
  rw [lastPlace]
  rcases canonical.full with full | atLeast
  · have above : 52 + power ≤ Int.log 2 ((significand : ℚ) * 2 ^ power) := by
      rw [← Int.zpow_le_iff_le_log (by decide) size_pos, Nat.cast_ofNat, zpow_add₀ two_ne_zero]
      gcongr
      exact_mod_cast full
    omega
  · omega

/-- A double in its kept form is nearest to its own size. -/
theorem nearest_of_isCanonical (canonical : IsCanonical significand power) :
    nearest negative (significand * 2 ^ power) = .finite negative significand power := by
  rcases Nat.eq_zero_or_pos significand with rfl | positive
  · have least : power = leastPower := canonical.full.resolve_left (by decide)
    simp [nearest, zero, least]
  · have size_ne : (significand : ℚ) * 2 ^ power ≠ 0 := by positivity
    have narrow := canonical.narrow
    have le_greatest := canonical.le_greatest
    rw [nearest, if_neg size_ne, lastPlace_of_isCanonical positive canonical,
      mul_div_cancel_right₀ _ (by positivity), roundSize_natCast, settle, if_neg (by omega),
      if_neg (by omega), if_neg (by omega)]

theorem nearest_of_large (large : 2 ^ (1024 : ℤ) ≤ size) :
    nearest negative size = .infinite negative := by
  have positive : 0 < size := lt_of_lt_of_le (by positivity) large
  have above : 1024 ≤ Int.log 2 size := by
    rw [← Int.zpow_le_iff_le_log (by decide) positive, Nat.cast_ofNat]
    exact large
  have place : greatestPower < lastPlace size := by
    rw [lastPlace, greatestPower]
    omega
  have full := le_roundSize_scaled positive (lt_trans (by decide) place)
  rw [nearest, if_neg positive.ne', settle]
  split_ifs
  · rfl
  · omega
  · omega
  · rfl

theorem nearest_of_small (nonneg : 0 ≤ size) (small : size < 2 ^ (-1075 : ℤ)) :
    nearest negative size = zero negative := by
  rcases nonneg.eq_or_lt with isZero | positive
  · rw [nearest, if_pos isZero.symm]
  · have below : Int.log 2 size < -1075 := by
      rw [← Int.lt_zpow_iff_log_lt (by decide) positive, Nat.cast_ofNat]
      exact small
    have place : lastPlace size = leastPower := by
      rw [lastPlace, leastPower]
      omega
    have half : size / 2 ^ leastPower < 1 / 2 := by
      have halved : (-1 : ℤ) + leastPower = -1075 := by decide
      rwa [div_lt_iff₀ (by positivity), one_div, ← zpow_neg_one, ← zpow_add₀ two_ne_zero, halved]
    rw [nearest, if_neg positive.ne', place, roundSize_of_lt_half half]
    rfl

end Double

section Decimals

open Double

variable {decimal : Decimal}

theorem Decimal.size_nonneg (decimal : Decimal) : 0 ≤ decimal.size := by
  rw [size]
  positivity

/-- The number of digits before the point tells the power of ten that a decimal lies below, and the
one that it reaches. -/
theorem Decimal.size_bounds (nonzero : decimal.coefficient ≠ 0) :
    10 ^ ((Nat.toDigits 10 decimal.coefficient).length + decimal.exponent - 1) ≤ decimal.size ∧
      decimal.size < 10 ^ ((Nat.toDigits 10 decimal.coefficient).length + decimal.exponent) := by
  have ten_ne : (10 : ℚ) ≠ 0 := by norm_num
  have length_pos : 0 < (Nat.toDigits 10 decimal.coefficient).length := Nat.length_toDigits_pos
  obtain ⟨shorter, length⟩ :
      ∃ shorter, (Nat.toDigits 10 decimal.coefficient).length = shorter + 1 :=
    ⟨_, (Nat.succ_pred_eq_of_pos length_pos).symm⟩
  have below : decimal.coefficient < 10 ^ (shorter + 1) :=
    (Nat.length_toDigits_le_iff (by decide) (by omega)).mp length.le
  have above : 10 ^ shorter ≤ decimal.coefficient := by
    by_contra small
    rcases Nat.eq_zero_or_pos shorter with rfl | positive
    · omega
    · have := (Nat.length_toDigits_le_iff (by decide) positive).mpr (not_le.mp small)
      omega
  have reached : ((shorter + 1 : ℕ) : ℤ) + decimal.exponent - 1 = shorter + decimal.exponent := by
    omega
  rw [length, reached, size, zpow_add₀ ten_ne, zpow_add₀ ten_ne, zpow_natCast, zpow_natCast]
  constructor
  · gcongr
    exact_mod_cast above
  · gcongr
    exact_mod_cast below

/-- Settling decimals by their numbers of digits changes nothing. -/
theorem Double.ofDecimal_eq_nearest (decimal : Decimal) :
    ofDecimal decimal = nearest decimal.negative decimal.size := by
  by_cases isZero : decimal.coefficient = 0
  · simp [ofDecimal, isZero, nearest, Decimal.size]
  · rcases Decimal.size_bounds isZero with ⟨reached, below⟩
    simp only [ofDecimal, isZero, if_false]
    split_ifs with large small whole
    · have powers : (2 : ℚ) ^ (1024 : ℤ) ≤ 10 ^ (310 : ℤ) := by
        exact_mod_cast (by decide +kernel : 2 ^ 1024 ≤ 10 ^ 310)
      refine (nearest_of_large (le_trans ?_ reached)).symm
      calc (2 : ℚ) ^ (1024 : ℤ) ≤ 10 ^ (310 : ℤ) := powers
        _ ≤ _ := zpow_le_zpow_right₀ (by norm_num) (by omega)
    · have powers : (2 : ℚ) ^ (1075 : ℤ) ≤ 10 ^ (330 : ℤ) := by
        exact_mod_cast (by decide +kernel : 2 ^ 1075 ≤ 10 ^ 330)
      refine (nearest_of_small decimal.size_nonneg (below.trans_le ?_)).symm
      calc _ ≤ (10 : ℚ) ^ (-330 : ℤ) := zpow_le_zpow_right₀ (by norm_num) (by omega)
        _ = (10 ^ (330 : ℤ))⁻¹ := zpow_neg 10 330
        _ ≤ (2 ^ (1075 : ℤ))⁻¹ := inv_anti₀ (by positivity) powers
        _ = _ := (zpow_neg 2 1075).symm
    · rw [ofQuotient_eq_nearest Nat.one_pos, Decimal.size]
      congr 1
      lift decimal.exponent to ℕ using whole with exponent
      simp
    · have unit_pos : 0 < Nat.pow 10 (-decimal.exponent).toNat := Nat.pow_pos (by decide)
      rw [ofQuotient_eq_nearest unit_pos, Decimal.size]
      congr 1
      obtain ⟨opposite, exponent⟩ := Int.exists_eq_neg_ofNat (not_le.mp whole).le
      simp [exponent, div_eq_mul_inv]

end Decimals

end MemoryKeeper
