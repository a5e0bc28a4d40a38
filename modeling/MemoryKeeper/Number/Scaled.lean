import MemoryKeeper.Number.Double

/-!
# Numerals read by scaling

A quick way to read a numeral keeps as many of its digits as fit into a significand
of 64 bits, rounds the significand to a double and multiplies or divides it once by
a power of ten, which is a rounded double as well. A numeral whose digits and power
of ten are doubles themselves is read to the nearest double; a longer one may miss
it by a little.
-/

namespace MemoryKeeper.Double

/-- The double nearest to a power of ten. -/
def powerOfTen (exponent : Nat) : Double :=
  ofQuotient false (Nat.pow 10 exponent) 1

def multiply : Double → Double → Double
  | .finite negative significand power, .finite negative' significand' power' =>
    let (numerator, denominator) := divideByPower (significand * significand') 1 (-(power + power'))
    ofQuotient (negative != negative') numerator denominator
  | .finite .., value => value
  | value, _ => value

/-- A quotient; the divisor must not be zero. -/
def divide : Double → Double → Double
  | .finite negative significand power, .finite negative' significand' power' =>
    let (numerator, denominator) := divideByPower significand significand' (power' - power)
    ofQuotient (negative != negative') numerator denominator
  | value, _ => value

/-- The greatest power of ten that is a double. -/
def greatestPowerOfTen : Nat := 308

/-- A double times a power of ten. What is divided twice by the greatest power is zero. -/
def scale (value : Double) (exponent : Int) : Double :=
  let size := exponent.natAbs
  if value.toNat? = some 0 then value
  else if 0 ≤ exponent then
    if size ≤ greatestPowerOfTen then value.multiply (powerOfTen size) else .infinite false
  else if size ≤ greatestPowerOfTen then value.divide (powerOfTen size)
  else if size ≤ 2 * greatestPowerOfTen then
    (value.divide (powerOfTen greatestPowerOfTen)).divide (powerOfTen (size - greatestPowerOfTen))
  else zero false

def greatestSignificand : Nat := Nat.pow 2 64 - 1

/-- A significand with the digits that it has room for, and the number of the others. -/
def takeDigits (significand : Nat) : List Char → Nat × Nat
  | [] => (significand, 0)
  | digit :: rest =>
    let longer := significand * 10 + (digit.toNat - '0'.toNat)
    if greatestSignificand < longer then (significand, rest.length + 1)
    else takeDigits longer rest

/-- Reads a decimal numeral by scaling. -/
def ofNumeralByScaling? (text : List Char) : Option Double :=
  let (negative, unsigned) := Decimal.takeSign text
  let (fraction, rest) := Decimal.takeFraction (unsigned.dropWhile Char.isDigit)
  (Decimal.readExponent? rest).map fun (exponent : Int) =>
    let (whole, left) := takeDigits 0 (unsigned.takeWhile Char.isDigit)
    let (significand, dropped) := takeDigits whole fraction
    let exponent : Int := exponent + left - (fraction.length - dropped : Nat)
    match scale (ofQuotient false significand 1) exponent with
    | .finite _ significand power => .finite negative significand power
    | .infinite _ => .infinite negative
    | .undefined => .undefined

end MemoryKeeper.Double
