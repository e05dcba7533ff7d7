import KubeHcl.Tree

/-!
# HCL expressions and declarations

The part of the configuration language that declarations are written in.
-/

namespace KubeHcl.Hcl

/-- A text block that ends at a line which is its delimiter. Its template is text in which
interpolation and directive markers stand doubled. -/
structure Heredoc where
  delimiter : String
  template : String
  deriving DecidableEq, Repr

/-- A binary operator. -/
inductive BinaryOperator where
  | equal | notEqual | greaterOrEqual | lessOrEqual | greater | less
  | plus | minus | times | divide | modulo | and | or
  deriving DecidableEq, Repr

/-- A unary operator. -/
inductive UnaryOperator where
  | not | negate
  deriving DecidableEq, Repr

/-- What is taken of a value, other than the element at a position that is computed. -/
inductive Selector where
  | attribute (name : String)
  /-- The element at a position that is written behind a dot. -/
  | legacyIndex (position : Nat)
  /-- What follows, of every element. It is written with a dot and reaches over attributes only. -/
  | attributeSplat
  /-- What follows, of every element. -/
  | fullSplat
  deriving DecidableEq, Repr

/-- An expression. The key of an object entry is an expression too; a bare name is a variable. -/
inductive Expression where
  | null
  | bool (value : Bool)
  | int (value : Int)
  | float (value : Binary64)
  | text (value : String)
  | array (items : List Expression)
  | object (entries : List (Expression × Expression))
  | heredoc (block : Heredoc)
  /-- A heredoc without the indentation that all of its lines have. -/
  | indentedHeredoc (block : Heredoc)
  /-- A template in quotes. -/
  | template (contents : String)
  | variable (name : String)
  /-- A variable and the names of attributes to follow from it. -/
  | attributes (root : String) (path : List String)
  | index (collection position : Expression)
  | select (value : Expression) (selector : Selector)
  | call (function : String) (arguments : List Expression)
  /-- A call with the elements of the last argument as its last arguments. -/
  | expandingCall (function : String) (arguments : List Expression)
  /-- A value for every element of a collection, or an entry if there is a key, in which case the
  values of equal keys may be grouped. A condition may leave elements out. -/
  | comprehension (keyVariable : Option String) (valueVariable : String)
      (collection : Expression) (key : Option Expression) (value : Expression) (grouped : Bool)
      (condition : Option Expression)
  | paren (inner : Expression)
  | conditional (condition whenTrue whenFalse : Expression)
  | unary (operator : UnaryOperator) (operand : Expression)
  | binary (left : Expression) (operator : BinaryOperator) (right : Expression)
  deriving Inhabited, Repr

mutual

/-- The expression that a data tree is written as. Keys become quoted text. -/
def Expression.ofTree : Tree → Expression
  | .null => .null
  | .bool b => .bool b
  | .int n => .int n
  | .float x => .float x
  | .text s => .text s
  | .seq items => .array (ofItems items)
  | .map entries => .object (ofEntries entries)

/-- The expressions of the items of a sequence. -/
def Expression.ofItems : List Tree → List Expression
  | [] => []
  | item :: rest => ofTree item :: ofItems rest

/-- The expressions of the entries of a mapping. -/
def Expression.ofEntries : List (String × Tree) → List (Expression × Expression)
  | [] => []
  | (key, value) :: rest => (.text key, ofTree value) :: ofEntries rest

end

mutual

/-- One part of a body. -/
inductive Structure where
  | attribute (name : String) (value : Expression)
  | block (content : Block)

/-- A block: its type, its labels and its body. -/
inductive Block where
  | mk (type : String) (labels : List String) (body : List Structure)

end

/-- The attributes and blocks of a file or a block, in order. -/
abbrev Body := List Structure

/-- The spelling of a binary operator. -/
def BinaryOperator.symbol : BinaryOperator → String
  | equal => "=="
  | notEqual => "!="
  | greaterOrEqual => ">="
  | lessOrEqual => "<="
  | greater => ">"
  | less => "<"
  | plus => "+"
  | minus => "-"
  | times => "*"
  | divide => "/"
  | modulo => "%"
  | and => "&&"
  | or => "||"

/-- The spelling of a unary operator. -/
def UnaryOperator.symbol : UnaryOperator → String
  | not => "!"
  | negate => "-"

/-- The spelling of a selector. -/
def Selector.symbol : Selector → String
  | .attribute name => "." ++ name
  | .legacyIndex position => "." ++ toString position
  | .attributeSplat => ".*"
  | .fullSplat => "[*]"

end KubeHcl.Hcl
