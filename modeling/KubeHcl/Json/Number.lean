import KubeHcl.Tree

/-!
# Reading JSON numbers

Integers that fit into 64 bits are kept as they are. Any other number goes through two roundings:
its digits, without the point, are read as one integer of at most 64 bits and converted to a double,
which is then multiplied or divided by a power of ten. The result may differ from the nearest double
in the last digit.
-/

namespace KubeHcl.Json

/-- Why text is not read. -/
inductive Fault where
  /-- It does not follow the grammar. -/
  | malformed
  /-- Collections are nested too deep. -/
  | tooDeep
  /-- A number is larger than every finite double. -/
  | numberOutOfRange
  deriving DecidableEq, Repr

/-- The value of a decimal digit. -/
def digitValue (c : Char) : Nat := c.toNat - '0'.toNat

/-- The number written by decimal digits. -/
def digitsValue (ds : List Char) : Nat := ds.foldl (fun n d => 10 * n + digitValue d) 0

/-- The greatest integer of 64 bits. -/
def maxWord : Nat := Nat.pow 2 64 - 1

/-- The leading digits of a number as an integer that fits into 64 bits, and the power of ten it
counts. -/
structure Significand where
  digits : Nat
  exponent : Int

/-- Appends digits before the point. From the first digit that does not fit, each stands for a power
of ten. -/
def Significand.appendWhole (s : Significand) : List Char → Significand
  | [] => s
  | d :: ds =>
    let next := 10 * s.digits + digitValue d
    if next ≤ maxWord then appendWhole { s with digits := next } ds
    else { s with exponent := s.exponent + (ds.length + 1 : Nat) }

/-- Appends digits after the point. From the first digit that does not fit, they are dropped. -/
def Significand.appendFraction (s : Significand) : List Char → Significand
  | [] => s
  | d :: ds =>
    let next := 10 * s.digits + digitValue d
    if next ≤ maxWord then appendFraction ⟨next, s.exponent - 1⟩ ds else s

/-- The power of ten as a double, for exponents up to 308. -/
def powerOfTen (exponent : Nat) : Binary64 :=
  (Binary64.ofDecimal false 1 exponent).getD (.zero false)

/-- Scales a double by a power of ten. Below `-308` it is divided by `10 ^ 308` first, and zero is
reached before the three divisions that `steps` allows are used up. -/
def scale (x : Binary64) (exponent : Int) (steps : Nat) : Except Fault Binary64 :=
  let orTooLarge (y : Option Binary64) : Except Fault Binary64 :=
    match y with
    | some y => .ok y
    | none => .error .numberOutOfRange
  if exponent.natAbs ≤ 308 then
    if 0 ≤ exponent then orTooLarge (x.mul (powerOfTen exponent.natAbs))
    else orTooLarge (x.div (powerOfTen exponent.natAbs))
  else if x.isZero then .ok x
  else if 0 ≤ exponent then .error .numberOutOfRange
  else
    match steps, x.div (powerOfTen 308) with
    | steps + 1, some y => scale y (exponent + 308) steps
    | _, _ => .ok (.zero false)

/-- The double that a significand stands for. -/
def Significand.toFloat (s : Significand) (negative : Bool) : Except Fault Binary64 := do
  let some x := Binary64.ofNat s.digits | .error .numberOutOfRange
  let y ← scale x s.exponent 3
  pure (if negative then y.neg else y)

/-- The exponent part: `none` where there is none, and otherwise its sign and digits. -/
structure ExponentPart where
  negative : Bool
  digits : List Char

/-- A number taken apart. -/
structure Literal where
  negative : Bool
  whole : List Char
  fraction : List Char
  exponent : Option ExponentPart

/-- The exponents beyond which a number is zero or out of range whatever its digits are. -/
def exponentLimit : Nat := Nat.pow 2 31 - 1

/-- The value of a number with a fraction or an exponent, or that exceeds 64 bits. -/
def Literal.toFloat (l : Literal) : Except Fault Binary64 :=
  let s := ((Significand.mk 0 0).appendWhole l.whole).appendFraction l.fraction
  match l.exponent with
  | none => s.toFloat l.negative
  | some e =>
    let value := digitsValue e.digits
    if exponentLimit < value then
      if s.digits ≠ 0 ∧ e.negative = false then .error .numberOutOfRange
      else .ok (.zero l.negative)
    else
      ({ s with exponent := s.exponent + (if e.negative then -(value : Int) else value) } :
        Significand).toFloat l.negative

/-- The value of a number. A negative zero is a double, since the integers have none. -/
def Literal.value (l : Literal) : Except Fault Tree :=
  let whole := digitsValue l.whole
  if l.fraction.isEmpty && l.exponent.isNone &&
      (if l.negative then 0 < whole && whole ≤ Nat.pow 2 63 else whole ≤ maxWord) then
    .ok (.int (if l.negative then -(whole : Int) else whole))
  else l.toFloat.map .float

/-- Takes digits apart from what follows; there has to be one. -/
def readDigits (cs : List Char) : Except Fault (List Char × List Char) :=
  let digits := cs.takeWhile Char.isDigit
  if digits.isEmpty then .error .malformed else .ok (digits, cs.dropWhile Char.isDigit)

/-- The exponent part of a number, if it has one. -/
def readExponent : List Char → Except Fault (Option ExponentPart × List Char)
  | c :: rest =>
    if c = 'e' ∨ c = 'E' then do
      let (negative, rest) := match rest with
        | '+' :: rest => (false, rest)
        | '-' :: rest => (true, rest)
        | rest => (false, rest)
      let (digits, rest) ← readDigits rest
      pure (some ⟨negative, digits⟩, rest)
    else pure (none, c :: rest)
  | [] => pure (none, [])

/-- The digits after the point of a number, if it has one. -/
def readFraction : List Char → Except Fault (List Char × List Char)
  | '.' :: rest => readDigits rest
  | cs => pure ([], cs)

/-- Reads a number from the front of the text. A zero before the point stands alone. -/
def readNumber (cs : List Char) : Except Fault (Tree × List Char) := do
  let (negative, cs) := match cs with
    | '-' :: rest => (true, rest)
    | cs => (false, cs)
  let (whole, cs) ← readDigits cs
  if whole.head? = some '0' ∧ 1 < whole.length then throw .malformed
  let (fraction, cs) ← readFraction cs
  let (exponent, cs) ← readExponent cs
  let value ← Literal.value ⟨negative, whole, fraction, exponent⟩
  pure (value, cs)

end KubeHcl.Json
