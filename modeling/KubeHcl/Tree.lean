import KubeHcl.Binary64
import KubeHcl.Entries

/-!
# Data trees

The value of a document: scalars, sequences and mappings whose keys are text and keep their order.
-/

namespace KubeHcl

/-- A document as plain data. The keys of a mapping are in the order they were written. That none is
repeated is not part of the type, but holds of every document that is read. -/
inductive Tree where
  | null
  | bool (value : Bool)
  | int (value : Int)
  | float (value : Binary64)
  | text (value : String)
  | seq (items : List Tree)
  | map (entries : List (String × Tree))
  deriving Inhabited, Repr

namespace Tree

/-- The value of `key`, when the tree is a mapping that has it. -/
def get? (key : String) : Tree → Option Tree
  | map entries => Entries.find? key entries
  | _ => none

/-- A mapping from a list of pairs, in which a repeated key keeps its first place and takes its last
value. -/
def ofPairs (pairs : List (String × Tree)) : Tree := map (Entries.ofList pairs)

/-- What the tree is, in words. -/
def describe : Tree → String
  | null => "null"
  | bool _ => "a boolean"
  | int _ | float _ => "a number"
  | text _ => "a string"
  | seq _ => "a sequence"
  | map _ => "a mapping"

mutual

/-- How deep collections are nested, counting the tree itself. -/
def depth : Tree → Nat
  | seq items => depthItems items + 1
  | map entries => depthEntries entries + 1
  | _ => 0

/-- The greatest depth of the items of a sequence. -/
def depthItems : List Tree → Nat
  | [] => 0
  | item :: rest => max item.depth (depthItems rest)

/-- The greatest depth of the values of a mapping. -/
def depthEntries : List (String × Tree) → Nat
  | [] => 0
  | (_, value) :: rest => max value.depth (depthEntries rest)

end

end Tree

end KubeHcl
