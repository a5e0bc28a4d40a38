import MemoryKeeper.Number.Double

/-!
# The shortest decimal of a double

Among the decimals that read back as a given double, the shortest has the
fewest digits, and of those it is the one nearest to the double. A double may lie
in the middle between two of them; which one counts then is for the form in which
it is written to say. For each number of digits only the two neighbours of the
double on that decimal grid can read back if any decimal of that length does.
Every double has a finite decimal expansion, which stands in should no grid of
seventeen digits have a hit.
-/

namespace MemoryKeeper

/-- Which of two decimals counts for a number in the middle between them. -/
inductive Tie where
  /-- The one with the even coefficient. -/
  | toEven
  /-- The one that is farther from zero. -/
  | awayFromZero
  deriving DecidableEq, Repr

/-- Whether the upper of two neighbours counts in the middle, given the lower one's coefficient. -/
def Tie.takesUpper (tie : Tie) (lower : Nat) : Bool :=
  match tie with
  | .toEven => lower % 2 = 1
  | .awayFromZero => true

namespace Double

/-- Numerator and denominator of a significand times a power of two. -/
def quotientOf (significand : Nat) (power : Int) : Nat × Nat :=
  if 0 ≤ power then (significand * Nat.pow 2 power.toNat, 1)
  else (significand, Nat.pow 2 (-power).toNat)

/-- Numerator and denominator of a quotient divided by a power of ten. -/
def divideByTens (numerator denominator : Nat) (exponent : Int) : Nat × Nat :=
  if 0 ≤ exponent then (numerator, denominator * Nat.pow 10 exponent.toNat)
  else (numerator * Nat.pow 10 (-exponent).toNat, denominator)

/-- The greatest exponent of ten that does not exceed a positive quotient, close to a guess. -/
def floorLog10 (numerator denominator : Nat) : Int :=
  let guess : Int := floorLog2 numerator denominator * 30103 / 100000
  let fits (exponent : Int) : Bool :=
    let (scaled, unit) := divideByTens numerator denominator exponent
    unit ≤ scaled
  if fits (guess + 1) then guess + 1 else if fits guess then guess else guess - 1

/-- The decimal of a grid that reads back as the double, the nearer one if both neighbours do. -/
def gridHit? (tie : Tie) (target : Double) (negative : Bool) (numerator denominator : Nat)
    (exponent : Int) : Option Decimal :=
  let (scaled, unit) := divideByTens numerator denominator exponent
  let below := scaled / unit
  let remainder := scaled % unit
  let lower : Decimal := ⟨negative, below, exponent⟩
  let upper : Decimal := ⟨negative, below + 1, exponent⟩
  let lowerHits := ofDecimal lower = target
  let upperHits := ofDecimal upper = target
  if lowerHits ∧ upperHits then
    let upperNearer := unit < 2 * remainder ∨ (2 * remainder = unit ∧ tie.takesUpper below)
    some (if upperNearer then upper else lower)
  else if lowerHits then some lower
  else if upperHits then some upper
  else none

/-- The exact decimal expansion of a finite double. -/
def exactDecimal (negative : Bool) (significand : Nat) (power : Int) : Decimal :=
  if 0 ≤ power then ⟨negative, significand * Nat.pow 2 power.toNat, 0⟩
  else ⟨negative, significand * Nat.pow 5 (-power).toNat, power⟩

/-- A decimal without trailing zeros in its coefficient, which has at most the given digits. -/
def stripZeros : Nat → Decimal → Decimal
  | 0, decimal => decimal
  | limit + 1, decimal =>
    if decimal.coefficient ≠ 0 ∧ decimal.coefficient % 10 = 0 then
      stripZeros limit ⟨decimal.negative, decimal.coefficient / 10, decimal.exponent + 1⟩
    else decimal

/-- The shortest decimal that reads back as the double ± significand × 2 ^ power. -/
def shortestOf (tie : Tie) (negative : Bool) (significand : Nat) (power : Int) : Decimal :=
  if significand = 0 then ⟨negative, 0, 0⟩
  else
    let (numerator, denominator) := quotientOf significand power
    let top := floorLog10 numerator denominator
    let target := Double.finite negative significand power
    let hit := (List.range 17).findSome? fun (digits : Nat) =>
      gridHit? tie target negative numerator denominator (top - digits)
    let decimal := hit.getD (exactDecimal negative significand power)
    stripZeros (Nat.toDigits 10 decimal.coefficient).length decimal

end Double

end MemoryKeeper
