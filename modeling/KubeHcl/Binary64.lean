/-!
# Finite double precision numbers

A finite IEEE 754 double is a sign, a mantissa below `2 ^ 53` and an exponent of two. Every
operation here is exact arithmetic on natural numbers followed by one rounding to the nearest
double, a tie going to the even mantissa, so results can be computed by the kernel as well as at run
time.
-/

namespace KubeHcl

/-- The double `mantissa * 2 ^ exponent`, negated when `negative` holds. The exponent is at least
`-1074`, and the mantissa has 53 bits unless the exponent is `-1074`. -/
structure Binary64 where
  /-- The sign, which zero has too. -/
  negative : Bool
  /-- The significant bits. -/
  mantissa : Nat
  /-- The power of two that the mantissa counts. -/
  exponent : Int
  deriving DecidableEq, Repr, Inhabited

namespace Binary64

/-- The exponent of the smallest subnormal number. -/
def minExponent : Int := -1074

/-- The exponent of the largest finite numbers. -/
def maxExponent : Int := 971

/-- Zero with the given sign. -/
def zero (negative : Bool) : Binary64 := ⟨negative, 0, minExponent⟩

/-- Whether the number is one of the two zeros. -/
def isZero (x : Binary64) : Bool := x.mantissa == 0

/-- The number with the other sign. -/
def neg (x : Binary64) : Binary64 := { x with negative := !x.negative }

/-- `numerator / denominator` rounded to the nearest integer, a tie to the even one. -/
def roundDiv (numerator denominator : Nat) : Nat :=
  let quotient := numerator / denominator
  let twice := 2 * (numerator % denominator)
  if twice < denominator then quotient
  else if denominator < twice then quotient + 1
  else quotient + quotient % 2

/-- The fraction `numerator / denominator` counted in units of `2 ^ exponent`, as a fraction. -/
def inUnits (numerator denominator : Nat) (exponent : Int) : Nat × Nat :=
  if 0 ≤ exponent then (numerator, denominator * Nat.pow 2 exponent.toNat)
  else (numerator * Nat.pow 2 (-exponent).toNat, denominator)

/-- The exponent whose unit gives `numerator / denominator` 53 significant bits, but no less than
`minExponent`. The logarithms leave two candidates, and a quotient of 54 bits picks the larger. -/
def unitExponent (numerator denominator : Nat) : Int :=
  let low := max ((numerator.log2 : Int) - denominator.log2 - 53) minExponent
  let (n, d) := inUnits numerator denominator low
  if n / d < Nat.pow 2 53 then low else low + 1

/-- The double nearest to `numerator / denominator`, or none when that is beyond the finite ones. -/
def ofRatio (negative : Bool) (numerator denominator : Nat) : Option Binary64 :=
  if numerator = 0 then some (zero negative) else
  let exponent := unitExponent numerator denominator
  let (n, d) := inUnits numerator denominator exponent
  let rounded := roundDiv n d
  let result : Binary64 :=
    if rounded < Nat.pow 2 53 then ⟨negative, rounded, exponent⟩
    else ⟨negative, Nat.pow 2 52, exponent + 1⟩
  if result.exponent ≤ maxExponent then some result else none

/-- The absolute value as a fraction. -/
def ratio (x : Binary64) : Nat × Nat :=
  if 0 ≤ x.exponent then (x.mantissa * Nat.pow 2 x.exponent.toNat, 1)
  else (x.mantissa, Nat.pow 2 (-x.exponent).toNat)

/-- The product, rounded once. -/
def mul (x y : Binary64) : Option Binary64 :=
  let (xn, xd) := x.ratio
  let (yn, yd) := y.ratio
  ofRatio (x.negative != y.negative) (xn * yn) (xd * yd)

/-- The quotient by a number that is not zero, rounded once. -/
def div (x y : Binary64) : Option Binary64 :=
  let (xn, xd) := x.ratio
  let (yn, yd) := y.ratio
  ofRatio (x.negative != y.negative) (xn * yd) (xd * yn)

/-- The double nearest to a natural number. -/
def ofNat (n : Nat) : Option Binary64 := ofRatio false n 1

/-- The double nearest to `digits * 10 ^ exponent`. Where the number of digits already shows that
the value is far outside of the range, no power is computed. -/
def ofDecimal (negative : Bool) (digits : Nat) (exponent : Int) : Option Binary64 :=
  if digits = 0 then some (zero negative) else
  let magnitude := exponent + (Nat.toDigits 10 digits).length
  if 310 < magnitude then none
  else if magnitude < -330 then some (zero negative)
  else if 0 ≤ exponent then ofRatio negative (digits * Nat.pow 10 exponent.toNat) 1
  else ofRatio negative digits (Nat.pow 10 (-exponent).toNat)

/-- The value as an integer, if it has no fraction. -/
def toInt? (x : Binary64) : Option Int :=
  let (n, d) := x.ratio
  if n % d = 0 then some (if x.negative then -((n / d : Nat) : Int) else (n / d : Nat)) else none

end Binary64

end KubeHcl
