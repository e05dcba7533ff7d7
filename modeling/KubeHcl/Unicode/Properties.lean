import KubeHcl.Unicode.Tables

/-!
# Character classes

The classes of characters that names and blanks are made of.
-/

namespace KubeHcl.Unicode

/-- Whether a code point lies in one of the ranges. -/
def inRanges (ranges : List (Nat × Nat)) (n : Nat) : Bool :=
  ranges.any fun (low, high) => low ≤ n && n ≤ high

/-- Whether the character may start an identifier. -/
def isIdentifierStart (c : Char) : Bool := inRanges identifierStart c.toNat

/-- Whether the character may continue an identifier. -/
def isIdentifierContinue (c : Char) : Bool :=
  isIdentifierStart c || inRanges identifierExtend c.toNat

/-- Whether the character is blank. -/
def isWhiteSpace (c : Char) : Bool := inRanges whiteSpace c.toNat

/-- The text without blanks at either end. -/
def trim (cs : List Char) : List Char :=
  ((cs.dropWhile isWhiteSpace).reverse.dropWhile isWhiteSpace).reverse

theorem isIdentifierContinue_of_start {c : Char} (h : isIdentifierStart c) :
    isIdentifierContinue c := by
  simp [isIdentifierContinue, h]

end KubeHcl.Unicode
