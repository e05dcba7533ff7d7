import KubeHcl.Yaml.Scalar.Value

/-!
# Nodes of a YAML document

What a document consists of before its aliases are followed, and the data tree that it stands for.
-/

namespace KubeHcl.Yaml

/-- What may stand in front of a node. -/
structure Properties where
  /-- The number by which aliases refer to the node. -/
  anchor : Option Nat := none
  tag : Option Tag := none

/-- A node of a document. -/
inductive Node where
  | alias (target : Nat)
  /-- Text; `plain` if it stands without quotes. -/
  | scalar (properties : Properties) (text : String) (plain : Bool)
  | sequence (properties : Properties) (items : List Node)
  | mapping (properties : Properties) (entries : List (Node × Node))

namespace Node

/-- A node that is left out. -/
def empty : Node := .scalar {} "" true

/-- A node under its number, if it has one. -/
def underAnchor (p : Properties) (n : Node) : List (Nat × Node) := (p.anchor.map (·, n)).toList

mutual

/-- The nodes that aliases can refer to, in the order in which they begin. -/
def anchored : Node → List (Nat × Node)
  | .alias _ => []
  | .scalar p text plain => underAnchor p (.scalar p text plain)
  | .sequence p items => underAnchor p (.sequence p items) ++ anchoredItems items
  | .mapping p entries => underAnchor p (.mapping p entries) ++ anchoredEntries entries

/-- The nodes within the items of a sequence that aliases can refer to. -/
def anchoredItems : List Node → List (Nat × Node)
  | [] => []
  | item :: rest => item.anchored ++ anchoredItems rest

/-- The nodes within the entries of a mapping that aliases can refer to. -/
def anchoredEntries : List (Node × Node) → List (Nat × Node)
  | [] => []
  | (key, value) :: rest => key.anchored ++ value.anchored ++ anchoredEntries rest

end

mutual

/-- How many beginnings and ends of nodes there are; a scalar or an alias counts once. -/
def events : Node → Nat
  | .alias _ | .scalar .. => 1
  | .sequence _ items => eventsOfItems items + 2
  | .mapping _ entries => eventsOfEntries entries + 2

/-- The events of the items of a sequence. -/
def eventsOfItems : List Node → Nat
  | [] => 0
  | item :: rest => item.events + eventsOfItems rest

/-- The events of the entries of a mapping. -/
def eventsOfEntries : List (Node × Node) → Nat
  | [] => 0
  | (key, value) :: rest => key.events + value.events + eventsOfEntries rest

end

/-- The making of a tree, with the number of aliases that may still be followed. -/
abbrev Expansion := StateT Nat (Except Fault)

/-- The node that is meant: that of the last anchor with the number of an alias. -/
def follow (targets : List (Nat × Node)) : Node → Expansion Node
  | .alias target => do
    match ← get, targets.reverse.find? (·.1 = target) with
    | left + 1, some (_, n) =>
      set left
      pure n
    | 0, _ => throw .repetition
    | _, none => throw .unknownAlias
  | n => pure n

/-- The text of a key, whatever its tag is. -/
def keyText (targets : List (Nat × Node)) (n : Node) : Expansion String := do
  match ← follow targets n with
  | .scalar _ text _ => pure text
  | _ => throw .unsupported

/-- The tree that a node stands for, with collections nested up to `depth`. -/
def expand (targets : List (Nat × Node)) (depth : Nat) (n : Node) : Expansion Tree := do
  match ← follow targets n with
  | .alias _ => throw .unknownAlias
  | .scalar p text plain => scalarValue p.tag text plain
  | .sequence p items =>
    if p.tag.any Tag.isLocal then throw .unsupported
    match depth with
    | 0 => throw .tooDeep
    | depth + 1 => pure (.seq (← items.mapM (expand targets depth)))
  | .mapping p entries =>
    if p.tag.any Tag.isLocal then throw .unsupported
    match depth with
    | 0 => throw .tooDeep
    | depth + 1 =>
      let pairs ← entries.mapM fun (key, value) => do
        pure (← keyText targets key, ← expand targets depth value)
      pure (.ofPairs pairs)

/-- How deep collections may be nested. -/
def depthLimit : Nat := 128

/-- How many aliases may be followed for each event of a document. -/
def aliasesPerEvent : Nat := 100

/-- The tree that the node of a document stands for. -/
def toTree (n : Node) : Except Fault Tree :=
  (expand n.anchored depthLimit n).run' (aliasesPerEvent * n.events)

end Node

end KubeHcl.Yaml
