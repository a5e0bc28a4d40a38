import MemoryKeeper.Number.Shortest

/-!
# Written numbers

Two written forms of a double, both from its shortest decimal. The plain form
never uses an exponent, writes an integral number without a point, and takes the
greater magnitude in the middle between two decimals. The data form takes the even
digit there and always shows that the number is not an integer: it keeps `.0`, and
outside a middle range of magnitudes it writes one digit before the point and a
signed power of ten.
-/

namespace MemoryKeeper

namespace Decimal

/-- The digits of a coefficient without their sign. -/
def digits (decimal : Decimal) : List Char :=
  Nat.toDigits 10 decimal.coefficient

/-- The number of digits before the point; not positive when zeros follow the point first. -/
def pointPosition (decimal : Decimal) : Int :=
  decimal.digits.length + decimal.exponent

def signText (decimal : Decimal) : List Char :=
  if decimal.negative then ['-'] else []

/-- Positional notation; an integral number ends in the given text. -/
def positional (integralEnding : List Char) (decimal : Decimal) : List Char :=
  let digits := decimal.digits
  let point := decimal.pointPosition
  let unsigned :=
    if 0 ≤ decimal.exponent then
      digits ++ List.replicate decimal.exponent.toNat '0' ++ integralEnding
    else if point ≤ 0 then
      ['0', '.'] ++ List.replicate (-point).toNat '0' ++ digits
    else digits.take point.toNat ++ '.' :: digits.drop point.toNat
  decimal.signText ++ unsigned

/-- Scientific notation with a sign on every exponent. -/
def scientific (decimal : Decimal) : List Char :=
  let power := decimal.pointPosition - 1
  let significand :=
    match decimal.digits with
    | [] => []
    | [digit] => [digit]
    | digit :: rest => digit :: '.' :: rest
  let sign := if power < 0 then '-' else '+'
  decimal.signText ++ significand ++ 'e' :: sign :: Nat.toDigits 10 power.natAbs

end Decimal

namespace Double

def plainText : Double → List Char
  | .finite negative significand power =>
    (shortestOf .awayFromZero negative significand power).positional []
  | .infinite negative => if negative then ['-', 'i', 'n', 'f'] else ['i', 'n', 'f']
  | .undefined => ['N', 'a', 'N']

/-- The form in data: positional between 10 ^ -5 and 10 ^ 16, scientific outside; a double that is
not finite has none. -/
def dataText? : Double → Option (List Char)
  | .finite negative significand power =>
    let decimal := shortestOf .toEven negative significand power
    let top := decimal.pointPosition - 1
    some (if significand = 0 ∨ (-5 ≤ top ∧ top ≤ 15) then decimal.positional ['.', '0']
      else decimal.scientific)
  | _ => none

end Double

end MemoryKeeper
