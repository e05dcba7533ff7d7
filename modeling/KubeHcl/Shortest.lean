import KubeHcl.Binary64

/-!
# The shortest decimal that reads back

Many decimals round to one double. The text of a double uses the one with the fewest digits, which
is the one on the coarsest grid `10 ^ k` that has a point among them, and of two such points the
nearer, or the even one where both are equally near.
-/

namespace KubeHcl

/-- The decimal `digits * 10 ^ exponent`. -/
structure Decimal where
  /-- The significant digits, read as one number. -/
  digits : Nat
  /-- The power of ten that the last digit counts. -/
  exponent : Int
  deriving DecidableEq, Repr

namespace Decimal

/-- The reals that round to a positive double, in quarters of its unit `2 ^ exponent`. -/
structure Interval where
  /-- The least of them. -/
  low : Nat
  /-- The double itself. -/
  mid : Nat
  /-- The greatest of them. -/
  high : Nat
  /-- Whether the two ends belong to it. -/
  closed : Bool

/-- The rounding interval of a double that is not zero. Below a power of two the neighbour is half
as far away, and a tie rounds to the even mantissa, so the ends belong to even ones. -/
def interval (x : Binary64) : Interval where
  low :=
    4 * x.mantissa -
      (if x.mantissa = Nat.pow 2 52 ∧ Binary64.minExponent < x.exponent then 1 else 2)
  mid := 4 * x.mantissa
  high := 4 * x.mantissa + 2
  closed := x.mantissa % 2 == 0

/-- The point of the grid `10 ^ power` nearest to `x` that rounds to `x`, if there is one. Both
sides are scaled to integers: a quarter unit of `x` is `scale / spacing` grid steps. -/
def gridPoint? (x : Binary64) (power : Int) : Option Nat :=
  let twos := x.exponent - 2
  let scale := Nat.pow 2 twos.toNat * Nat.pow 10 (-power).toNat
  let spacing := Nat.pow 2 (-twos).toNat * Nat.pow 10 power.toNat
  let i := interval x
  let below := i.mid * scale / spacing
  let above := below + 1
  let holds (point : Nat) : Bool :=
    if i.closed then i.low * scale ≤ point * spacing && point * spacing ≤ i.high * scale
    else i.low * scale < point * spacing && point * spacing < i.high * scale
  match holds below, holds above with
  | true, true =>
    match compare (2 * (i.mid * scale)) ((below + above) * spacing) with
    | .lt => some below
    | .gt => some above
    | .eq => some (if below % 2 = 0 then below else above)
  | true, false => some below
  | false, true => some above
  | false, false => none

/-- Searches the grids from `10 ^ (steps - 1074)` downwards. The finest one holds every double. -/
def search (x : Binary64) : Nat → Decimal
  | 0 => ⟨(gridPoint? x Binary64.minExponent).getD 0, Binary64.minExponent⟩
  | steps + 1 =>
    let power : Int := (steps + 1 : Nat) + Binary64.minExponent
    match gridPoint? x power with
    | some digits => ⟨digits, power⟩
    | none => search x steps

/-- A power of ten that is greater than a double, and so is the step of a grid too coarse for it. A
bit is a little more than three tenths of a decimal digit. -/
def coarsePower (x : Binary64) : Int := (x.mantissa.log2 + 1 + x.exponent) * 3 / 10 + 2

/-- The shortest decimal that rounds to `x`, without its sign. -/
def shortest (x : Binary64) : Decimal :=
  if x.isZero then ⟨0, 0⟩ else search x (coarsePower x - Binary64.minExponent).toNat

/-- The exponent of the decimal written with one digit before the point. -/
def scientificExponent (d : Decimal) : Int :=
  d.exponent + (Nat.toDigits 10 d.digits).length - 1

end Decimal

end KubeHcl
