import KubeHcl.Entries
import KubeHcl.Hcl.Expression
import KubeHcl.Hcl.Template
import KubeHcl.Sha512
import KubeHcl.Unicode.Properties

/-!
# Placeholders

Values of a resource that are not written as they stand are replaced by tokens between sentinels,
and what each token stands for is recorded as a placeholder. Once the resource is an expression,
texts that are such wrapped tokens give way to the expressions of their placeholders.
-/

namespace KubeHcl

/-- The key of a placeholder. -/
structure Token where
  text : String
  deriving DecidableEq, Repr

namespace Token

/-- What stands on either side of a token in a resource. -/
def sentinel : List Char := ['#', '#', '#']

/-- The token for the name of a namespace. -/
def ofNamespace (ns : String) : Token := ⟨"NamespaceRef_" ++ ns⟩

/-- The token for a text. Equal texts share one. -/
def ofPayload (payload : String) : Token :=
  ⟨"MultiLineDataRef_" ++ String.ofList (Sha512.hexDigest payload)⟩

/-- The token as it stands in a resource. -/
def wrapped (t : Token) : String := String.ofList (sentinel ++ t.text.toList ++ sentinel)

/-- The token of a text that is a wrapped one. The two sentinels may not overlap, and a token is not
empty. -/
def unwrap? (text : String) : Option Token :=
  let rest := text.toList.drop sentinel.length
  let inner := rest.take (rest.length - sentinel.length)
  if sentinel.isPrefixOf text.toList && sentinel.isSuffixOf rest && !inner.isEmpty then
    some ⟨String.ofList inner⟩
  else none

end Token

namespace Hcl.Heredoc

/-- The lines of a text, without their line breaks. A line break at the end starts no further line.
-/
def lines : List Char → List (List Char)
  | [] => []
  | c :: cs =>
    if c = '\n' then [] :: lines cs
    else
      match lines cs with
      | [] => [[c]]
      | line :: rest => (c :: line) :: rest

/-- The delimiters in the order they are tried. -/
def candidate : Nat → List Char
  | 0 => ['E', 'O', 'F']
  | n => ['E', 'O', 'F', '_'] ++ Nat.toDigits 10 n

/-- The first delimiter from the `n`-th on that is not among `taken`, of which at most `fuel` are.
-/
def firstFree (taken : List (List Char)) (fuel n : Nat) : List Char :=
  match fuel with
  | 0 => candidate n
  | fuel + 1 => if candidate n ∈ taken then firstFree taken fuel (n + 1) else candidate n

/-- A delimiter that no line of the text is, blanks around it aside. -/
def delimiterFor (cs : List Char) : List Char :=
  let taken := (lines cs).map Unicode.trim
  firstFree taken taken.length 0

/-- Whether a heredoc reads back as exactly this text: it ends with a line break, and line breaks
are plain ones. -/
def fits (text : String) : Bool :=
  text.toList.getLast? == some '\n' && !text.toList.contains '\r'

/-- The heredoc that reads as `text`. -/
def ofText (text : String) : Heredoc :=
  let template := escapeTemplate text.toList
  ⟨String.ofList (delimiterFor template), String.ofList template⟩

end Hcl.Heredoc

/-- What a token stands for. -/
inductive Placeholder where
  /-- An attribute of another declaration. -/
  | reference (root : String) (path : List String)
  /-- A text moved into a heredoc. -/
  | block (content : Hcl.Heredoc)
  deriving DecidableEq, Repr

/-- The expression that a placeholder is written as. -/
def Placeholder.toExpression : Placeholder → Hcl.Expression
  | reference root path => .attributes root path
  | block content => .heredoc content

/-- Placeholders by token, in the order they were recorded. -/
abbrev Placeholders := List (Token × Placeholder)

/-- Records further placeholders. -/
def Placeholders.extend (placeholders : Placeholders) (more : List (Token × Placeholder)) :
    Placeholders :=
  more.foldl (fun entries (token, placeholder) => Entries.insert token placeholder entries)
    placeholders

end KubeHcl
