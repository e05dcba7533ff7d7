import KubeHcl.Json.Reader
import KubeHcl.Yaml.Source
import KubeHcl.Yaml.Tag

/-!
# Values of scalars

Text without quotes may be null, a boolean or a number; anything else is text. A tag of the standard
schema says what a scalar has to be, whether it has quotes or not.
-/

namespace KubeHcl.Yaml

/-- Whether text is a word for null. Nothing at all is not. -/
def isNullWord (text : String) : Bool := ["null", "Null", "NULL", "~"].contains text

/-- The truth value that a word stands for. -/
def booleanOf? (text : String) : Option Bool :=
  if ["true", "True", "TRUE"].contains text then some true
  else if ["false", "False", "FALSE"].contains text then some false
  else none

/-- The number that is written by digits of a base, at most sixteen. -/
def naturalOf? (base : Nat) (digits : List Char) : Option Nat :=
  if digits.isEmpty then none
  else
    digits.foldlM (fun n c => do
      let digit ← Json.hexValue? c
      if digit < base then pure (base * n + digit) else none) 0

/-- Text without its sign. -/
def withoutSign : List Char → List Char
  | '+' :: rest | '-' :: rest => rest
  | cs => cs

/-- Whether text looks like a decimal integer with a zero in front, which is none. -/
def hasLeadingZero (cs : List Char) : Bool :=
  match withoutSign cs with
  | '0' :: rest => !rest.isEmpty && rest.all Char.isDigit
  | _ => false

/-- The number that is written without a sign. -/
def magnitudeOf? : List Char → Option Nat
  | '0' :: 'x' :: digits => naturalOf? 16 digits
  | '0' :: 'o' :: digits => naturalOf? 8 digits
  | '0' :: 'b' :: digits => naturalOf? 2 digits
  | digits => if hasLeadingZero digits then none else naturalOf? 10 digits

/-- The integer that is written. -/
def integerOf? : List Char → Option Int
  | '-' :: digits => (magnitudeOf? digits).map fun n => -(n : Int)
  | '+' :: digits => (magnitudeOf? digits).map Int.ofNat
  | digits => (magnitudeOf? digits).map Int.ofNat

/-- The value of an integer. One beyond 64 bits has no place in a data tree, and one beyond 128 bits
is not taken as an integer. -/
def integerValue? (cs : List Char) : Option (Except Fault Tree) := do
  let n ← integerOf? cs
  if -Int.pow 2 63 ≤ n ∧ n < Int.pow 2 64 then pure (.ok (.int n))
  else if -Int.pow 2 127 ≤ n ∧ n < Int.pow 2 128 then pure (.error .unsupported)
  else none

/-- The digits in front of text and what follows them. -/
def splitDigits (cs : List Char) : List Char × List Char := cs.span Char.isDigit

/-- The exponent that is written at the end of a number. -/
def exponentOf? : List Char → Option Int
  | [] => some 0
  | e :: cs =>
    if e = 'e' ∨ e = 'E' then
      match cs with
      | '-' :: digits => (naturalOf? 10 digits).map fun n => -(n : Int)
      | '+' :: digits => (naturalOf? 10 digits).map Int.ofNat
      | digits => (naturalOf? 10 digits).map Int.ofNat
    else none

/-- The finite number that is written with an optional point, with digits on one side of it at
least, and an optional exponent. -/
def decimalOf? (cs : List Char) : Option Binary64 := do
  let (negative, cs) := match cs with
    | '-' :: rest => (true, rest)
    | cs => (false, cs)
  let (whole, cs) := splitDigits cs
  let (fraction, cs) := match cs with
    | '.' :: rest => splitDigits rest
    | cs => ([], cs)
  let exponent ← exponentOf? cs
  let digits ← naturalOf? 10 (whole ++ fraction)
  Binary64.ofDecimal negative digits (exponent - fraction.length)

/-- The value of a number with a point or an exponent. Infinities and what is no number are null. -/
def floatValue? (text : String) : Option Tree :=
  if [".inf", ".Inf", ".INF", "+.inf", "+.Inf", "+.INF", "-.inf", "-.Inf", "-.INF",
      ".nan", ".NaN", ".NAN"].contains text then some .null
  else
    match text.toList with
    | '+' :: '-' :: _ => none
    | '+' :: cs => (decimalOf? cs).map .float
    | cs => (decimalOf? cs).map .float

/-- The value of a scalar without quotes and without a tag. -/
def plainValue (text : String) : Except Fault Tree :=
  if text.isEmpty || isNullWord text then .ok .null
  else
    match booleanOf? text, integerValue? text.toList with
    | some b, _ => .ok (.bool b)
    | none, some value => value
    | none, none =>
      if hasLeadingZero text.toList then .ok (.text text)
      else .ok ((floatValue? text).getD (.text text))

/-- The value of a scalar, `plain` if it has no quotes. A tag that begins with the sign but whose
bytes are no text says nothing. -/
def scalarValue (tag : Option Tag) (text : String) (plain : Bool) : Except Fault Tree :=
  match tag with
  | none => if plain then plainValue text else .ok (.text text)
  | some tag =>
    let require (value : Option Tree) : Except Fault Tree :=
      match value with
      | some value => .ok value
      | none => .error .unsupported
    if tag.isLocal then .error .unsupported
    else if tag = .standard ++ .ofText "bool" then require ((booleanOf? text).map .bool)
    else if tag = .standard ++ .ofText "int" then
      (integerValue? text.toList).getD (.error .unsupported)
    else if tag = .standard ++ .ofText "float" then require (floatValue? text)
    else if tag = .standard ++ .ofText "null" then
      require (if isNullWord text then some .null else none)
    else if tag.afterSign?.isSome && plain then plainValue text
    else .ok (.text text)

end KubeHcl.Yaml
