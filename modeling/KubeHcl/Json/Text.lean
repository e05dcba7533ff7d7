import KubeHcl.Shortest
import KubeHcl.Tree

/-!
# Compact JSON text

Trees are written without any blanks, keys in order. Only the quote, the backslash and control
characters are escaped. Numbers with a fraction are written with the fewest digits that read back.
-/

namespace KubeHcl.Json

/-- The lower case hexadecimal digit of a number below sixteen. -/
def hexDigit (n : Nat) : Char := (Nat.digitChar n)

/-- A character as it stands between quotes. -/
def escapeChar (c : Char) : List Char :=
  match c with
  | '"' => ['\\', '"']
  | '\\' => ['\\', '\\']
  | '\x08' => ['\\', 'b']
  | '\x0c' => ['\\', 'f']
  | '\n' => ['\\', 'n']
  | '\r' => ['\\', 'r']
  | '\t' => ['\\', 't']
  | c =>
    if c.toNat < 32 then ['\\', 'u', '0', '0', hexDigit (c.toNat / 16), hexDigit (c.toNat % 16)]
    else [c]

/-- Text as it stands between quotes. -/
def escape (cs : List Char) : List Char := cs.flatMap escapeChar

/-- Text in quotes. -/
def quote (text : String) : List Char := '"' :: escape text.toList ++ ['"']

/-- The decimal digits of a natural number. -/
def natText (n : Nat) : List Char := Nat.toDigits 10 n

/-- An integer. -/
def intText (n : Int) : List Char :=
  if n < 0 then '-' :: natText n.natAbs else natText n.natAbs

/-- The choices in writing a number that may have a fraction. -/
structure FloatStyle where
  /-- The least decimal exponent written with leading zeros instead. -/
  leastPlain : Int
  /-- The greatest decimal exponent written with all digits before the point. -/
  greatestPlain : Int
  /-- Whether a positive exponent has a sign. -/
  signedExponent : Bool

/-- Plain notation for exponents from -5 to 15, and a sign before every other exponent. -/
def floatStyle : FloatStyle := ⟨-5, 15, true⟩

/-- The digits of a decimal with a point after the first `scientificExponent + 1` of them, filled up
with zeros so that a digit stands on both sides of the point. -/
def plainText (d : Decimal) : List Char :=
  let digits := natText d.digits
  let exponent := d.scientificExponent
  if exponent < 0 then
    ['0', '.'] ++ List.replicate (-exponent - 1).toNat '0' ++ digits
  else
    let whole := exponent.toNat + 1
    let fraction := digits.drop whole
    digits.take whole ++ List.replicate (whole - digits.length) '0' ++
      '.' :: (if fraction.isEmpty then ['0'] else fraction)

/-- One digit, the others after a point, and the exponent. -/
def scientificText (style : FloatStyle) (d : Decimal) : List Char :=
  let digits := natText d.digits
  let exponent := d.scientificExponent
  let sign := if 0 ≤ exponent && style.signedExponent then ['+'] else []
  let fraction := digits.drop 1
  digits.take 1 ++ (if fraction.isEmpty then [] else '.' :: fraction) ++
    'e' :: sign ++ intText exponent

/-- The shortest text that reads back as the number. -/
def floatText (style : FloatStyle) (x : Binary64) : List Char :=
  let d := Decimal.shortest x
  let exponent := d.scientificExponent
  let body :=
    if style.leastPlain ≤ exponent && exponent ≤ style.greatestPlain then plainText d
    else scientificText style d
  if x.negative then '-' :: body else body

mutual

/-- The compact text of a tree. -/
def write : Tree → List Char
  | .null => ['n', 'u', 'l', 'l']
  | .bool true => ['t', 'r', 'u', 'e']
  | .bool false => ['f', 'a', 'l', 's', 'e']
  | .int n => intText n
  | .float x => floatText floatStyle x
  | .text s => quote s
  | .seq [] => ['[', ']']
  | .seq (item :: rest) => '[' :: write item ++ writeItems rest
  | .map [] => ['\x7b', '\x7d']
  | .map ((key, value) :: rest) =>
    '\x7b' :: quote key ++ ':' :: write value ++ writeEntries rest

/-- The items after the first one, and the end of the sequence. -/
def writeItems : List Tree → List Char
  | [] => [']']
  | item :: rest => ',' :: write item ++ writeItems rest

/-- The entries after the first one, and the end of the mapping. -/
def writeEntries : List (String × Tree) → List Char
  | [] => ['\x7d']
  | (key, value) :: rest => ',' :: quote key ++ ':' :: write value ++ writeEntries rest

end

/-- The compact text of a tree as a string. -/
def text (tree : Tree) : String := String.ofList (write tree)

end KubeHcl.Json
