import KubeHcl.Placeholder

/-!
# Substituting placeholders

One pass over an expression replaces the texts that are wrapped tokens. It looks at the items of
arrays, the values of objects, parenthesised expressions, the parts of conditionals and the operands
of operators. Every other expression stays as it is with all that is in it, such as a call, a
template, a comprehension or what is taken of a value. So do keys, and so does a replacement.
-/

namespace KubeHcl.Placeholders

open Hcl (Expression)

/-- The expression in place of a text: that of its placeholder, if it is a recorded token. -/
def replaceText (placeholders : Placeholders) (text : String) : Expression :=
  match Token.unwrap? text with
  | none => .text text
  | some token =>
    match Entries.find? token placeholders with
    | none => .text text
    | some placeholder => placeholder.toExpression

mutual

/-- Replaces the recorded tokens in an expression. -/
def substitute (placeholders : Placeholders) : Expression → Expression
  | .text s => placeholders.replaceText s
  | .array items => .array (substituteItems placeholders items)
  | .object entries => .object (substituteEntries placeholders entries)
  | .paren inner => .paren (substitute placeholders inner)
  | .conditional condition whenTrue whenFalse =>
    .conditional (substitute placeholders condition) (substitute placeholders whenTrue)
      (substitute placeholders whenFalse)
  | .unary operator operand => .unary operator (substitute placeholders operand)
  | .binary left operator right =>
    .binary (substitute placeholders left) operator (substitute placeholders right)
  | e => e

/-- Replaces the recorded tokens in the items of an array. -/
def substituteItems (placeholders : Placeholders) : List Expression → List Expression
  | [] => []
  | item :: rest => substitute placeholders item :: substituteItems placeholders rest

/-- Replaces the recorded tokens in the values of an object. -/
def substituteEntries (placeholders : Placeholders) :
    List (Expression × Expression) → List (Expression × Expression)
  | [] => []
  | (key, value) :: rest =>
    (key, substitute placeholders value) :: substituteEntries placeholders rest

end

/-- The token in a text that looks like a wrapped one but has no placeholder. -/
def unrecordedText (placeholders : Placeholders) (text : String) : List Token :=
  match Token.unwrap? text with
  | none => []
  | some token => if (Entries.find? token placeholders).isNone then [token] else []

mutual

/-- The tokens that `substitute` meets without a placeholder, in order. -/
def unrecorded (placeholders : Placeholders) : Expression → List Token
  | .text s => placeholders.unrecordedText s
  | .array items => unrecordedItems placeholders items
  | .object entries => unrecordedEntries placeholders entries
  | .paren inner => unrecorded placeholders inner
  | .conditional condition whenTrue whenFalse =>
    unrecorded placeholders condition ++ unrecorded placeholders whenTrue ++
      unrecorded placeholders whenFalse
  | .unary _ operand => unrecorded placeholders operand
  | .binary left _ right => unrecorded placeholders left ++ unrecorded placeholders right
  | _ => []

/-- The unrecorded tokens in the items of an array. -/
def unrecordedItems (placeholders : Placeholders) : List Expression → List Token
  | [] => []
  | item :: rest => unrecorded placeholders item ++ unrecordedItems placeholders rest

/-- The unrecorded tokens in the values of an object. -/
def unrecordedEntries (placeholders : Placeholders) : List (Expression × Expression) → List Token
  | [] => []
  | (_, value) :: rest => unrecorded placeholders value ++ unrecordedEntries placeholders rest

end

end KubeHcl.Placeholders
