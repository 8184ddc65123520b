import SchemaPress.Decimal.Double

/-!
# The shortest decimal of a double

Among the decimals that round to a double, its text shows one with the fewest digits, and of those
the nearest to it. For `n = 1, 2, …, 17` digits the two neighbours of the double on the grid of
decimals with `n` digits are tested against the interval of reals that round to it; the first grid
with a hit wins. Seventeen digits always suffice.
-/

namespace SchemaPress.Double

/-- The positive number `digits * 10 ^ exponent`. -/
structure Decimal where
  /-- The significant digits. -/
  digits : Nat
  /-- The power of ten that they are multiplied by. -/
  exponent : Int
deriving DecidableEq, Repr

/-- A positive real interval in quarters of the last binary place of the double inside it, and the
double itself: all four numbers stand for multiples of `unitTop / unitBottom`. -/
structure Neighbourhood where
  /-- The lower end. -/
  low : Nat
  /-- The double. -/
  centre : Nat
  /-- The upper end. -/
  high : Nat
  /-- Whether the ends round to the double as well. -/
  closed : Bool
  /-- Numerator of the unit. -/
  unitTop : Nat
  /-- Denominator of the unit. -/
  unitBottom : Nat

/-- The reals that round to the double with this mantissa and exponent. Below a power of two the
doubles lie twice as dense as above it. -/
def neighbourhood (mantissa exponent : Nat) : Neighbourhood :=
  let gap := if mantissa = Nat.pow 2 52 ∧ 0 < exponent then 1 else 2
  { low := 4 * mantissa - gap
    centre := 4 * mantissa
    high := 4 * mantissa + 2
    closed := mantissa % 2 == 0
    unitTop := Nat.pow 2 exponent
    unitBottom := Nat.pow 2 1076 }

/-- `10 ^ exponent` as a fraction. -/
def powerOfTen (exponent : Int) : Nat × Nat :=
  if 0 ≤ exponent then (Nat.pow 10 exponent.toNat, 1) else (1, Nat.pow 10 (-exponent).toNat)

/-- The decimal and a point of the neighbourhood on a common scale: integers in the order of the two
numbers. -/
def Neighbourhood.scales (n : Neighbourhood) (d : Decimal) (point : Nat) : Nat × Nat :=
  let (top, bottom) := powerOfTen d.exponent
  (d.digits * top * n.unitBottom, point * n.unitTop * bottom)

/-- Whether the decimal rounds to the double. -/
def Neighbourhood.holds (n : Neighbourhood) (d : Decimal) : Bool :=
  let (x, low) := n.scales d n.low
  let (y, high) := n.scales d n.high
  if n.closed then low ≤ x && y ≤ high else low < x && y < high

/-- How far the decimal is from the double, in units that depend on the decimal's exponent only. -/
def Neighbourhood.distance (n : Neighbourhood) (d : Decimal) : Nat :=
  let (x, centre) := n.scales d n.centre
  (x - centre) + (centre - x)

/-- The exponent of the leading decimal digit of the double. -/
def Neighbourhood.leadingExponent (n : Neighbourhood) : Int :=
  let bits : Int := ((n.centre * n.unitTop).log2 : Int) - n.unitBottom.log2
  let estimate : Int := bits * 30103 / 100000
  let reached (k : Int) : Bool :=
    let (x, centre) := n.scales ⟨1, k⟩ n.centre
    x ≤ centre
  match [estimate + 2, estimate + 1, estimate, estimate - 1].find? reached with
  | some k => k
  | none => estimate - 2

/-- The decimal with `count` digits that rounds to the double, if there is one; of two the nearer,
and the one with an even last digit at equal distance. -/
def Neighbourhood.withDigits (n : Neighbourhood) (count : Nat) : Option Decimal :=
  let exponent := n.leadingExponent - (count : Int) + 1
  let (top, bottom) := powerOfTen exponent
  let floor := n.centre * n.unitTop * bottom / (top * n.unitBottom)
  let below : Decimal := ⟨floor, exponent⟩
  let above : Decimal := ⟨floor + 1, exponent⟩
  match n.holds below && floor != 0, n.holds above with
  | true, true =>
    if n.distance below < n.distance above then some below
    else if n.distance above < n.distance below then some above
    else if floor % 2 = 0 then some below else some above
  | true, false => some below
  | false, true => some above
  | false, false => none

/-- The shortest decimal that rounds to the positive double with this mantissa and exponent. -/
def shortest (mantissa exponent : Nat) : Decimal :=
  let n := neighbourhood mantissa exponent
  ((List.range 17).findSome? fun i => n.withDigits (i + 1)).getD ⟨0, 0⟩

/-- The digits of a decimal without the zeros at their end. -/
def Decimal.trimmedDigits (d : Decimal) : List Char :=
  ((Nat.toDigits 10 d.digits).reverse.dropWhile (· == '0')).reverse

/-- The place of the decimal point, counted from the first digit. -/
def Decimal.point (d : Decimal) : Int :=
  d.exponent + (Nat.toDigits 10 d.digits).length

/-- A decimal in text: positional with at least one digit on each side of the point while the point
stands at most three zeros in front of the digits and at most sixteen places after their start, with
an exponent of two or more digits otherwise. -/
def Decimal.text (d : Decimal) : List Char :=
  let digits := d.trimmedDigits
  let point := d.point
  if -4 < point ∧ point ≤ 16 then
    if point ≤ 0 then
      ['0', '.'] ++ List.replicate (-point).toNat '0' ++ digits
    else if (digits.length : Int) ≤ point then
      digits ++ List.replicate (point.toNat - digits.length) '0' ++ ['.', '0']
    else
      digits.take point.toNat ++ ['.'] ++ digits.drop point.toNat
  else
    let exponent := point - 1
    let magnitude := Nat.toDigits 10 exponent.natAbs
    let fraction := if digits.length ≤ 1 then [] else '.' :: digits.drop 1
    digits.take 1 ++ fraction ++ ['e', if exponent < 0 then '-' else '+'] ++
      List.replicate (2 - magnitude.length) '0' ++ magnitude

/-- The text of a double, with the words for what is not finite given by the format it stands in. -/
def text (nanWord infinityWord : String) : Double → List Char
  | .nan => nanWord.toList
  | .infinity negative => (if negative then ['-'] else []) ++ infinityWord.toList
  | .finite negative mantissa exponent =>
    (if negative then ['-'] else []) ++
      (if mantissa = 0 then ['0', '.', '0'] else (shortest mantissa exponent).text)

end SchemaPress.Double
