/-!
# Decimal numerals

A decimal is a sign, a coefficient and a power of ten. Its numeral is an
optional sign, digits with at most one point among or after them, and an
optional exponent; at least one digit is needed before the exponent, and at
least one after its mark.
-/

namespace MemoryKeeper

/-- The number ± coefficient × 10 ^ exponent, with the sign kept for zero. -/
structure Decimal where
  negative : Bool
  coefficient : Nat
  exponent : Int
  deriving DecidableEq, Repr

namespace Decimal

/-- The value of a digit sequence, most significant digit first. -/
def valueOfDigits (digits : List Char) : Nat :=
  digits.foldl (fun value digit => value * 10 + (digit.toNat - '0'.toNat)) 0

/-- Splits off a sign; a numeral without one is not negative. -/
def takeSign : List Char → Bool × List Char
  | '-' :: rest => (true, rest)
  | '+' :: rest => (false, rest)
  | text => (false, text)

/-- The exponent that follows the digits of a numeral; nothing stands for zero. -/
def readExponent? : List Char → Option Int
  | [] => some 0
  | mark :: rest =>
    if mark = 'e' ∨ mark = 'E' then
      let (negative, digits) := takeSign rest
      if digits.isEmpty || !digits.all Char.isDigit then none
      else
        let value : Int := valueOfDigits digits
        some (if negative then -value else value)
    else none

/-- Splits off a fraction: the digits behind a point, if there is one. -/
def takeFraction : List Char → List Char × List Char
  | '.' :: rest => (rest.takeWhile Char.isDigit, rest.dropWhile Char.isDigit)
  | text => ([], text)

def read? (text : List Char) : Option Decimal :=
  let (negative, unsigned) := takeSign text
  let whole := unsigned.takeWhile Char.isDigit
  let (fraction, rest) := takeFraction (unsigned.dropWhile Char.isDigit)
  if whole.isEmpty && fraction.isEmpty then none
  else
    (readExponent? rest).map fun exponent =>
      ⟨negative, valueOfDigits (whole ++ fraction), exponent - fraction.length⟩

end Decimal

/-- Reads an integer in plain decimal digits with an optional sign. -/
def readInteger? (text : List Char) : Option Int :=
  let (negative, digits) := Decimal.takeSign text
  if digits.isEmpty || !digits.all Char.isDigit then none
  else
    let value : Int := Decimal.valueOfDigits digits
    some (if negative then -value else value)

end MemoryKeeper
