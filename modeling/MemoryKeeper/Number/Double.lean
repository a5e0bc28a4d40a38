import MemoryKeeper.Number.Decimal

/-!
# Double-precision numbers

A double is a signed significand times a power of two, an infinity, or the
undefined value. The significand has at most 53 bits and the power lies between
2 ^ -1074 and 2 ^ 971; of the ways to write a number, the one with the largest
significand that this leaves room for is kept, so equal numbers are equal
values. Both zeros exist.

Rounding is to the nearest double, and to the even significand from the middle
between two. It is carried out in exact natural number arithmetic.
-/

namespace MemoryKeeper

/-- A binary floating-point number of double precision. -/
inductive Double where
  | finite (negative : Bool) (significand : Nat) (power : Int)
  | infinite (negative : Bool)
  | undefined
  deriving DecidableEq, Repr

namespace Double

def leastPower : Int := -1074

def greatestPower : Int := 971

def zero (negative : Bool) : Double :=
  .finite negative 0 leastPower

/-- The integer nearest to a quotient, the even one from the middle. -/
def roundQuotient (numerator denominator : Nat) : Nat :=
  let quotient := numerator / denominator
  let remainder := numerator % denominator
  if denominator < 2 * remainder ∨ (2 * remainder = denominator ∧ quotient % 2 = 1) then
    quotient + 1
  else quotient

/-- Numerator and denominator of a quotient divided by a power of two. -/
def divideByPower (numerator denominator : Nat) (power : Int) : Nat × Nat :=
  if 0 ≤ power then (numerator, denominator * Nat.pow 2 power.toNat)
  else (numerator * Nat.pow 2 (-power).toNat, denominator)

/-- The greatest exponent of two that does not exceed a positive quotient. -/
def floorLog2 (numerator denominator : Nat) : Int :=
  let guess : Int := (Nat.log2 numerator : Int) - Nat.log2 denominator
  let (scaled, unit) := divideByPower numerator denominator guess
  if unit ≤ scaled then guess else guess - 1

/-- The double nearest to a quotient with a positive denominator. -/
def ofQuotient (negative : Bool) (numerator denominator : Nat) : Double :=
  if numerator = 0 then zero negative
  else
    let power := max (floorLog2 numerator denominator - 52) leastPower
    let (scaled, unit) := divideByPower numerator denominator power
    let significand := roundQuotient scaled unit
    let (significand, power) :=
      if significand = Nat.pow 2 53 then (Nat.pow 2 52, power + 1) else (significand, power)
    if significand = 0 then zero negative
    else if greatestPower < power then .infinite negative
    else .finite negative significand power

/-- The double nearest to a decimal.

Decimals of at least 10 ^ 310 are beyond every finite double, and those below 10 ^ -330 are nearer
to zero than to any other; both are settled without writing out the power of ten. -/
def ofDecimal (decimal : Decimal) : Double :=
  let magnitude := (Nat.toDigits 10 decimal.coefficient).length + decimal.exponent
  if decimal.coefficient = 0 then zero decimal.negative
  else if 310 < magnitude then .infinite decimal.negative
  else if magnitude < -330 then zero decimal.negative
  else if 0 ≤ decimal.exponent then
    ofQuotient decimal.negative (decimal.coefficient * Nat.pow 10 decimal.exponent.toNat) 1
  else ofQuotient decimal.negative decimal.coefficient (Nat.pow 10 (-decimal.exponent).toNat)

/-- Reads a decimal numeral to the nearest double. -/
def ofNumeral? (text : List Char) : Option Double :=
  (Decimal.read? text).map ofDecimal

/-- Whether a double is neither infinite nor undefined. -/
def isFinite : Double → Bool
  | .finite .. => true
  | _ => false

/-- The natural number that a double equals, if it equals one; the negative zero equals zero. -/
def toNat? : Double → Option Nat
  | .finite negative significand power =>
    if significand = 0 then some 0
    else if negative then none
    else if 0 ≤ power then some (significand * Nat.pow 2 power.toNat)
    else
      let unit := Nat.pow 2 (-power).toNat
      if significand % unit = 0 then some (significand / unit) else none
  | _ => none

end Double

end MemoryKeeper
