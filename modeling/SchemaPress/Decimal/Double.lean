/-!
# Double-precision numbers

A number of a JSON text that has a fraction or an exponent is a binary floating-point number of
double precision. It is kept here as sign, mantissa and exponent, and a decimal is brought to the
nearest double in exact integer arithmetic (`Double.ofRatio`), so nothing depends on a machine's
floating-point unit.
-/

namespace SchemaPress

/-- A double-precision number. -/
inductive Double where
  /-- Not a number. -/
  | nan
  /-- Beyond every finite number. -/
  | infinity (negative : Bool)
  /-- The number `± mantissa * 2 ^ (exponent - 1074)`. The mantissa is below `2 ^ 53`, and it is at
  least `2 ^ 52` unless the exponent is zero, so each number other than zero has one form. -/
  | finite (negative : Bool) (mantissa exponent : Nat)
deriving DecidableEq, Repr

namespace Double

/-- The quotient rounded to the nearest integer, a half to the even neighbour. -/
def roundedQuotient (numerator denominator : Nat) : Nat :=
  let quotient := numerator / denominator
  let twice := 2 * (numerator % denominator)
  if twice < denominator then quotient
  else if denominator < twice then quotient + 1
  else quotient + quotient % 2

/-- The fraction `numerator / denominator` times `2 ^ shift`, as a fraction. -/
def shiftedFraction (numerator denominator : Nat) (shift : Int) : Nat × Nat :=
  if 0 ≤ shift then (numerator * Nat.pow 2 shift.toNat, denominator)
  else (numerator, denominator * Nat.pow 2 (-shift).toNat)

/-- The largest `k` with `2 ^ k ≤ numerator / denominator`, for a positive fraction. -/
def binaryExponent (numerator denominator : Nat) : Int :=
  let k : Int := (numerator.log2 : Int) - denominator.log2
  let (low, high) := shiftedFraction denominator numerator k
  if low ≤ high then k else k - 1

/-- The exponent field above which a number is infinite. -/
def maxExponent : Nat := 2045

/-- The double nearest to `± numerator / denominator`, of two equally near ones the one with an even
mantissa. -/
def ofRatio (negative : Bool) (numerator denominator : Nat) : Double :=
  if numerator = 0 then .finite negative 0 0
  else
    let exponent := (binaryExponent numerator denominator - 52 + 1074).toNat
    let (top, bottom) := shiftedFraction numerator denominator (1074 - (exponent : Int))
    let mantissa := roundedQuotient top bottom
    let (mantissa, exponent) :=
      if mantissa = Nat.pow 2 53 then (Nat.pow 2 52, exponent + 1) else (mantissa, exponent)
    if maxExponent < exponent then .infinity negative else .finite negative mantissa exponent

/-- The double nearest to `± digits * 10 ^ exponent`. Decimals far outside the range of doubles are
recognised by their magnitude alone. -/
def ofDecimal (negative : Bool) (digits : Nat) (exponent : Int) : Double :=
  if digits = 0 then .finite negative 0 0
  else
    let magnitude := exponent + ((digits.log2 * 30103 / 100000 : Nat) : Int)
    if 400 < magnitude then .infinity negative
    else if magnitude < -400 then .finite negative 0 0
    else if 0 ≤ exponent then ofRatio negative (digits * Nat.pow 10 exponent.toNat) 1
    else ofRatio negative digits (Nat.pow 10 (-exponent).toNat)

/-- Whether two doubles are equal as numbers: the two zeros are, and nothing equals NaN. -/
def numEq : Double → Double → Bool
  | .nan, _ => false
  | .finite _ 0 _, .finite _ 0 _ => true
  | a, b => a == b

/-- Whether a double is the integer `n`. -/
def eqInt (a : Double) (n : Int) : Bool :=
  match a with
  | .finite negative mantissa exponent =>
    let scaled : Int := (mantissa * Nat.pow 2 exponent : Nat)
    (if negative then -scaled else scaled) == n * (Nat.pow 2 1074 : Nat)
  | _ => false

/-- Whether the double is a zero. -/
def isZero : Double → Bool
  | .finite _ 0 _ => true
  | _ => false

/-- `2 ^ 1074` times the number, an integer that orders doubles as numbers; infinities lie outside of
all finite ones, and NaN has no place in the order. -/
def scaled? : Double → Option Int
  | .nan => none
  | .infinity negative => some (if negative then -(Nat.pow 2 4000 : Nat) else (Nat.pow 2 4000 : Nat))
  | .finite negative mantissa exponent =>
    let value : Int := (mantissa * Nat.pow 2 exponent : Nat)
    some (if negative then -value else value)

end Double

end SchemaPress
