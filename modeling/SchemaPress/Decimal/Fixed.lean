import SchemaPress.Decimal.Double

/-!
# Doubles with a given number of digits

The exact value of a double, rounded to a number of places behind the point or to a number of
significant digits. A half goes to the even neighbour.
-/

namespace SchemaPress.Double

/-- The decimal digits of a number, with zeros in front up to a width. -/
def paddedDigits (width n : Nat) : String :=
  let digits := Nat.toDigits 10 n
  String.ofList (List.replicate (width - digits.length) '0' ++ digits)

/-- Digits with a point before the last `places` of them. The point is left out with nothing behind
it, unless `pointed`. -/
def pointedDigits (places : Nat) (pointed : Bool) (n : Nat) : String :=
  let digits := (paddedDigits (places + 1) n).toList
  let (whole, fraction) := digits.splitAt (digits.length - places)
  String.ofList whole ++ (if places = 0 && !pointed then "" else ".") ++ String.ofList fraction

/-- The exact value of a finite double as a fraction. -/
def fraction (mantissa exponent : Nat) : Nat × Nat :=
  (mantissa * Nat.pow 2 exponent, Nat.pow 2 1074)

/-- A fraction times a power of ten. -/
def timesPowerOfTen (top bottom : Nat) (exponent : Int) : Nat × Nat :=
  if 0 ≤ exponent then (top * Nat.pow 10 exponent.toNat, bottom)
  else (top, bottom * Nat.pow 10 (-exponent).toNat)

/-- A positive double with `places` digits behind the point. -/
def fixedText (mantissa exponent places : Nat) (pointed : Bool) : String :=
  let (top, bottom) := fraction mantissa exponent
  pointedDigits places pointed (roundedQuotient (top * Nat.pow 10 places) bottom)

/-- The exponent of the first digit of a positive fraction. -/
def leadingExponent (top bottom : Nat) : Int :=
  let guess : Int := ((Nat.toDigits 10 top).length : Int) - (Nat.toDigits 10 bottom).length
  let (scaledTop, scaledBottom) := timesPowerOfTen top bottom (-guess)
  if scaledBottom ≤ scaledTop then guess else guess - 1

/-- A double as `places + 1` significant digits and the exponent of the first of them. -/
def significant (mantissa exponent places : Nat) : Nat × Int :=
  if mantissa = 0 then (0, 0)
  else
    let (top, bottom) := fraction mantissa exponent
    let leading := leadingExponent top bottom
    let (scaledTop, scaledBottom) := timesPowerOfTen top bottom ((places : Int) - leading)
    let n := roundedQuotient scaledTop scaledBottom
    if n = Nat.pow 10 (places + 1) then (n / 10, leading + 1) else (n, leading)

/-- An exponent of at least two digits, with its sign. -/
def exponentText (exponent : Int) : String :=
  (if exponent < 0 then "e-" else "e+") ++ paddedDigits 2 exponent.natAbs

/-- A positive double with one digit before the point and `places` behind it. -/
def scientificText (mantissa exponent places : Nat) (pointed : Bool) : String :=
  let (n, leading) := significant mantissa exponent places
  pointedDigits places pointed n ++ exponentText leading

/-- A text without the zeros behind its point that say nothing. -/
def withoutLastZeros (text : String) : String :=
  if text.toList.contains '.' then
    let kept := text.toList.reverse.dropWhile (· == '0')
    String.ofList (if kept.head? = some '.' then kept.drop 1 else kept).reverse
  else text

/-- A positive double with a number of significant digits, in the shorter one of the two forms. -/
def generalText (mantissa exponent digits : Nat) (pointed : Bool) : String :=
  let digits := max digits 1
  let (n, leading) := significant mantissa exponent (digits - 1)
  let strip (text : String) : String := if pointed then text else withoutLastZeros text
  if -4 ≤ leading && leading < digits then
    strip (fixedText mantissa exponent ((digits : Int) - 1 - leading).toNat pointed)
  else strip (pointedDigits (digits - 1) pointed n) ++ exponentText leading

end SchemaPress.Double
