import MemoryKeeper.Number.Shortest
import MemoryKeeper.Proofs.Rounding
import Mathlib.Data.Nat.Cast.Field

/-!
# Shortest decimals of doubles

Whatever decimal the search for the shortest one stops at, it reads back as the
double that it was found for: the decimals of a grid are taken only if they do,
and the exact expansion always does. A double with a fraction has a shortest
decimal with digits behind the point. One without has none, because the grid of
the integers holds the double itself and is tried before any finer one.
-/

namespace MemoryKeeper.Double

variable {tie : Tie} {negative : Bool} {numerator denominator significand : ℕ} {power exponent : ℤ}
  {target : Double} {decimal other : Decimal}

theorem ofDecimal_congr (sign : decimal.negative = other.negative)
    (size : decimal.size = other.size) : ofDecimal decimal = ofDecimal other := by
  rw [ofDecimal_eq_nearest, ofDecimal_eq_nearest, sign, size]

theorem isCanonical_of_ofDecimal {sign : Bool}
    (found : ofDecimal decimal = .finite sign significand power) :
    sign = decimal.negative ∧ IsCanonical significand power := by
  rw [ofDecimal_eq_nearest] at found
  exact isCanonical_of_nearest decimal.size_nonneg found

/-- A decimal of a double's size reads back as the double. -/
theorem ofDecimal_of_size (decimal : Decimal) (canonical : IsCanonical significand power)
    (size : decimal.size = significand * 2 ^ power) :
    ofDecimal decimal = .finite decimal.negative significand power := by
  rw [ofDecimal_eq_nearest, size, nearest_of_isCanonical canonical]

theorem gridHit?_eq_some
    (hit : gridHit? tie target negative numerator denominator exponent = some decimal) :
    decimal.exponent = exponent ∧ ofDecimal decimal = target := by
  simp only [gridHit?] at hit
  split_ifs at hit with both upperNearer lower upper
  · cases hit
    exact ⟨rfl, both.2⟩
  · cases hit
    exact ⟨rfl, both.1⟩
  · cases hit
    exact ⟨rfl, lower⟩
  · cases hit
    exact ⟨rfl, upper⟩

theorem size_exactDecimal (negative : Bool) (significand : ℕ) (power : ℤ) :
    (exactDecimal negative significand power).size = significand * 2 ^ power := by
  rw [exactDecimal]
  split_ifs with whole
  · lift power to ℕ using whole
    simp [Decimal.size]
  · obtain ⟨opposite, rfl⟩ := Int.exists_eq_neg_ofNat (show power ≤ 0 by omega)
    have ten : (10 : ℚ) ^ opposite = 5 ^ opposite * 2 ^ opposite := by
      rw [← mul_pow]
      norm_num
    simp only [Decimal.size, neg_neg, Int.toNat_natCast, zpow_neg, zpow_natCast, ten,
      Nat.pow_eq]
    push_cast
    field_simp

theorem negative_exactDecimal (negative : Bool) (significand : ℕ) (power : ℤ) :
    (exactDecimal negative significand power).negative = negative := by
  rw [exactDecimal]
  split_ifs <;> rfl

theorem negative_stripZeros (limit : ℕ) (decimal : Decimal) :
    (stripZeros limit decimal).negative = decimal.negative := by
  fun_induction stripZeros limit decimal with
  | case1 => rfl
  | case2 limit decimal divisible ih => exact ih
  | case3 => rfl

theorem exponent_le_stripZeros (limit : ℕ) (decimal : Decimal) :
    decimal.exponent ≤ (stripZeros limit decimal).exponent := by
  fun_induction stripZeros limit decimal with
  | case1 => rfl
  | case2 limit decimal divisible ih =>
      simp only at ih
      omega
  | case3 => rfl

theorem size_stripZeros (limit : ℕ) (decimal : Decimal) :
    (stripZeros limit decimal).size = decimal.size := by
  fun_induction stripZeros limit decimal with
  | case1 => rfl
  | case2 limit decimal divisible ih =>
      rw [ih]
      have whole : decimal.coefficient = decimal.coefficient / 10 * 10 := by omega
      have parts : (decimal.coefficient : ℚ) = (decimal.coefficient / 10 : ℕ) * 10 := by
        exact_mod_cast whole
      rw [Decimal.size, Decimal.size, parts, zpow_add₀ (by norm_num)]
      ring
  | case3 => rfl

/-- What the search for the shortest decimal stops at before zeros are dropped. -/
def stopOf (tie : Tie) (negative : Bool) (significand : ℕ) (power : ℤ) : Decimal :=
  let (numerator, denominator) := quotientOf significand power
  let top := floorLog10 numerator denominator
  ((List.range 17).findSome? fun (digits : Nat) =>
    gridHit? tie (.finite negative significand power) negative numerator denominator
      (top - digits)).getD (exactDecimal negative significand power)

theorem shortestOf_of_pos (positive : 0 < significand) :
    shortestOf tie negative significand power =
      stripZeros (Nat.toDigits 10 (stopOf tie negative significand power).coefficient).length
        (stopOf tie negative significand power) := by
  rw [shortestOf, if_neg positive.ne']
  rfl

/-- The search stops at the exact expansion or at a decimal that reads back. -/
theorem ofDecimal_stopOf (canonical : IsCanonical significand power) :
    ofDecimal (stopOf tie negative significand power) = .finite negative significand power := by
  simp only [stopOf]
  rcases search : (List.range 17).findSome? fun (digits : Nat) =>
    gridHit? tie (.finite negative significand power) negative (quotientOf significand power).1
      (quotientOf significand power).2 (floorLog10 (quotientOf significand power).1
        (quotientOf significand power).2 - digits) with _ | hit
  · have exact := ofDecimal_of_size (exactDecimal negative significand power) canonical
      (size_exactDecimal _ _ _)
    rwa [negative_exactDecimal] at exact
  · rcases List.exists_of_findSome?_eq_some search with ⟨digits, -, found⟩
    exact (gridHit?_eq_some found).2

/-- The shortest decimal reads back. -/
theorem ofDecimal_shortestOf (canonical : IsCanonical significand power) :
    ofDecimal (shortestOf tie negative significand power) =
      .finite negative significand power := by
  rcases Nat.eq_zero_or_pos significand with rfl | positive
  · have least : power = leastPower := canonical.full.resolve_left (by decide)
    simp [shortestOf, ofDecimal, zero, least]
  · rw [shortestOf_of_pos positive]
    rw [ofDecimal_congr (negative_stripZeros _ _) (size_stripZeros _ _)]
    exact ofDecimal_stopOf canonical

/-- Whether a double is finite and not an integer. -/
def isFractional : Double → Bool
  | .finite _ significand power => power < 0 && significand % 2 ^ (-power).toNat != 0
  | _ => false

theorem isFractional_iff :
    isFractional (.finite negative significand power) ↔
      ∀ whole : ℕ, (significand : ℚ) * 2 ^ power ≠ whole := by
  simp only [isFractional, Bool.and_eq_true, decide_eq_true_eq, bne_iff_ne]
  constructor
  · rintro ⟨below, remainder⟩ whole same
    apply remainder
    obtain ⟨opposite, rfl⟩ := Int.exists_eq_neg_ofNat (show power ≤ 0 by omega)
    rw [zpow_neg, zpow_natCast, ← div_eq_mul_inv, div_eq_iff (by positivity)] at same
    have product : significand = whole * 2 ^ opposite := by exact_mod_cast same
    simp [product]
  · intro different
    by_contra notBoth
    rw [not_and_or, not_lt, not_not] at notBoth
    by_cases whole : 0 ≤ power
    · lift power to ℕ using whole
      apply different (significand * 2 ^ power)
      push_cast
      rfl
    · obtain ⟨opposite, rfl⟩ := Int.exists_eq_neg_ofNat (show power ≤ 0 by omega)
      have divisible : 2 ^ opposite ∣ significand := by
        rw [neg_neg, Int.toNat_natCast] at notBoth
        exact Nat.dvd_of_mod_eq_zero (notBoth.resolve_left whole)
      rcases divisible with ⟨quotient, rfl⟩
      apply different quotient
      rw [zpow_neg, zpow_natCast]
      push_cast
      field_simp

theorem not_isFractional_of_whole (whole : ℕ) (same : (significand : ℚ) * 2 ^ power = whole) :
    ¬isFractional (.finite negative significand power) := by
  rw [isFractional_iff]
  intro different
  exact different whole same

/-- Rounding an integer gives an integer: binary places behind the point stay empty. -/
theorem not_isFractional_of_nearest {sign : Bool} (number : ℕ)
    (found : nearest negative number = .finite sign significand power) :
    ¬isFractional (.finite sign significand power) := by
  rw [nearest] at found
  split_ifs at found with isZero
  · cases found
    exact not_isFractional_of_whole 0 (by simp)
  · by_cases place : 0 ≤ lastPlace number
    · have notBelow : 0 ≤ power ∨ significand = 0 := by
        rw [settle] at found
        split_ifs at found <;> cases found
        · left
          omega
        · right
          rfl
        · left
          exact place
      rcases notBelow with whole | rfl
      · simp [isFractional, not_lt.mpr whole]
      · exact not_isFractional_of_whole 0 (by simp)
    · obtain ⟨opposite, last⟩ := Int.exists_eq_neg_ofNat (not_le.mp place).le
      have scaled : (number : ℚ) / 2 ^ lastPlace number = (number * 2 ^ opposite : ℕ) := by
        simp [last]
      have exact : ((number * 2 ^ opposite : ℕ) : ℚ) * 2 ^ lastPlace (number : ℚ) = number := by
        rw [← scaled, div_mul_cancel₀ _ (by positivity)]
      rw [scaled, roundSize_natCast, settle] at found
      split_ifs at found with carried tooLarge isZero tooLarge
      · cases found
        apply not_isFractional_of_whole number
        refine Eq.trans ?_ exact
        rw [carried, zpow_add₀ two_ne_zero]
        push_cast
        ring
      · cases found
        exact not_isFractional_of_whole 0 (by simp)
      · cases found
        exact not_isFractional_of_whole _ exact

section Integers

variable (divides : denominator ∣ numerator) (positive : 0 < numerator)

include divides positive

theorem floorLog2_of_dvd :
    floorLog2 numerator denominator = Int.log 2 ((numerator / denominator : ℕ) : ℚ) := by
  have lower : 0 < denominator := Nat.pos_of_dvd_of_pos divides positive
  rw [floorLog2_eq positive lower, Nat.cast_div divides (by positivity)]

theorem floorLog10_nonneg : 0 ≤ floorLog10 numerator denominator := by
  have le : denominator ≤ numerator := Nat.le_of_dvd positive divides
  have quotient_pos : (1 : ℚ) ≤ (numerator / denominator : ℕ) := by
    exact_mod_cast Nat.div_pos le (Nat.pos_of_dvd_of_pos divides positive)
  have log_nonneg : 0 ≤ floorLog2 numerator denominator := by
    rw [floorLog2_of_dvd divides positive, ← Int.zpow_le_iff_le_log (by decide) (by linarith)]
    simpa using quotient_pos
  simp only [floorLog10, decide_eq_true_eq]
  split_ifs with above fits
  · omega
  · omega
  · have nonzero : floorLog2 numerator denominator * 30103 / 100000 ≠ 0 := by
      intro isZero
      simp [isZero, divideByTens, le] at fits
    omega

theorem floorLog10_le (narrow : numerator / denominator < 2 ^ 53) :
    floorLog10 numerator denominator ≤ 16 := by
  have quotient_pos : (0 : ℚ) < (numerator / denominator : ℕ) := by
    exact_mod_cast Nat.div_pos (Nat.le_of_dvd positive divides)
      (Nat.pos_of_dvd_of_pos divides positive)
  have log_lt : floorLog2 numerator denominator < 53 := by
    rw [floorLog2_of_dvd divides positive, ← Int.lt_zpow_iff_log_lt (by decide) quotient_pos]
    exact_mod_cast narrow
  simp only [floorLog10]
  split_ifs <;> omega

end Integers

/-- A search through the first numbers stops at the latest where it would find something. -/
theorem exists_le_of_findSome?_range {Found : Type} {search : ℕ → Option Found} {size top : ℕ}
    {found : Found} (stopped : (List.range size).findSome? search = some found)
    (hit : (search top).isSome) : ∃ index ≤ top, search index = some found := by
  rcases List.findSome?_eq_some_iff.mp stopped with ⟨before, index, after, shape, stop, none⟩
  refine ⟨index, ?_, stop⟩
  by_contra later
  have sorted : (List.range size).Pairwise (· < ·) := List.pairwise_lt_range
  have tried : top ∈ List.range size := by
    have inRange : index ∈ List.range size := by simp [shape]
    rw [List.mem_range] at inRange ⊢
    omega
  rw [shape, List.pairwise_append, List.pairwise_cons] at sorted
  rw [shape, List.mem_append, List.mem_cons] at tried
  rcases tried with tried | same | tried
  · simp [none top tried] at hit
  · omega
  · have further := sorted.2.1.1 top tried
    omega

section Whole

variable (whole : ¬isFractional (.finite negative significand power))

include whole

theorem quotientOf_dvd :
    (quotientOf significand power).2 ∣ (quotientOf significand power).1 := by
  rw [quotientOf]
  split_ifs with sign
  · exact one_dvd _
  · simp only [isFractional, Bool.and_eq_true, decide_eq_true_eq, bne_iff_ne, not_and, not_not]
      at whole
    exact Nat.dvd_of_mod_eq_zero (whole (by omega))

theorem quotientOf_eq :
    (((quotientOf significand power).1 / (quotientOf significand power).2 : ℕ) : ℚ) =
      significand * 2 ^ power := by
  have divides := quotientOf_dvd whole
  rw [quotientOf] at divides ⊢
  split_ifs at divides ⊢ with sign
  · lift power to ℕ using sign
    simp
  · obtain ⟨opposite, rfl⟩ := Int.exists_eq_neg_ofNat (show power ≤ 0 by omega)
    rw [Nat.cast_div divides (by simp)]
    simp [div_eq_mul_inv]

/-- The grid of the integers holds every double that is one. -/
theorem isSome_gridHit? (canonical : IsCanonical significand power) :
    (gridHit? tie (.finite negative significand power) negative (quotientOf significand power).1
      (quotientOf significand power).2 0).isSome := by
  have again := ofDecimal_of_size ⟨negative,
    (quotientOf significand power).1 / (quotientOf significand power).2, 0⟩ canonical (by
      rw [Decimal.size, quotientOf_eq whole, zpow_zero, mul_one])
  simp only [gridHit?, divideByTens, le_refl, if_true, Int.toNat_zero, Nat.pow_eq, pow_zero,
    mul_one, again, true_and]
  split_ifs <;> rfl

/-- The search stops before the grid becomes finer than the integers. -/
theorem exponent_stopOf (positive : 0 < significand) (canonical : IsCanonical significand power) :
    0 ≤ (stopOf tie negative significand power).exponent := by
  have numerator_pos : 0 < (quotientOf significand power).1 := by
    rw [quotientOf]
    split_ifs
    · exact Nat.mul_pos positive (Nat.pow_pos (by decide))
    · exact positive
  have top_nonneg := floorLog10_nonneg (quotientOf_dvd whole) numerator_pos
  obtain ⟨top, isTop⟩ := Int.eq_ofNat_of_zero_le top_nonneg
  have atTop : (gridHit? tie (.finite negative significand power) negative
      (quotientOf significand power).1 (quotientOf significand power).2
      ((top : ℤ) - top)).isSome := by
    rw [sub_self]
    exact isSome_gridHit? whole canonical
  simp only [stopOf, isTop]
  rcases search : (List.range 17).findSome? fun (digits : Nat) =>
    gridHit? tie (.finite negative significand power) negative (quotientOf significand power).1
      (quotientOf significand power).2 ((top : ℤ) - digits) with _ | hit
  · -- no grid is coarser than the integers here, so the double has more than 53 bits
    have late : 17 ≤ top := by
      by_contra early
      have none := List.findSome?_eq_none_iff.mp search top (List.mem_range.mpr (by omega))
      rw [none] at atTop
      cases atTop
    have large : 0 ≤ power := by
      by_contra below
      have narrow : (quotientOf significand power).1 / (quotientOf significand power).2 <
          2 ^ 53 := by
        rw [quotientOf, if_neg below]
        exact lt_of_le_of_lt (Nat.div_le_self _ _) canonical.narrow
      have early := floorLog10_le (quotientOf_dvd whole) numerator_pos narrow
      omega
    rw [Option.getD_none, exactDecimal, if_pos large]
  · rcases exists_le_of_findSome?_range search atTop with ⟨digits, notLater, found⟩
    have exponent := (gridHit?_eq_some found).1
    rw [Option.getD_some, exponent]
    omega

end Whole

/-- The shortest decimal of a double has digits behind the point exactly if the double is no
integer. -/
theorem exponent_shortestOf (canonical : IsCanonical significand power) :
    (shortestOf tie negative significand power).exponent < 0 ↔
      isFractional (.finite negative significand power) := by
  rcases Nat.eq_zero_or_pos significand with rfl | positive
  · simp [shortestOf, isFractional]
  · constructor
    · intro below
      by_contra whole
      have nonneg : 0 ≤ (stopOf tie negative significand power).exponent :=
        exponent_stopOf whole positive canonical
      rw [shortestOf_of_pos positive] at below
      exact not_lt.mpr (nonneg.trans (exponent_le_stripZeros _ _)) below
    · intro fractional
      by_contra nonneg
      rw [not_lt] at nonneg
      have again : ofDecimal (shortestOf tie negative significand power) =
          .finite negative significand power := ofDecimal_shortestOf canonical
      rw [ofDecimal_eq_nearest, Decimal.size] at again
      lift (shortestOf tie negative significand power).exponent to ℕ using nonneg with exponent
      exact not_isFractional_of_nearest (_ * 10 ^ exponent) (by exact_mod_cast again)
        fractional

end MemoryKeeper.Double
