import KubeHcl.Yaml.Node
import KubeHcl.Yaml.TokenStream

/-!
# YAML documents

The nodes that tokens make up, and the documents of a text. A text ends with the first document that
is not as it has to be; those before it are read all the same.
-/

namespace KubeHcl.Yaml

/-- What is left of a text, and the anchors of the present document with their numbers. -/
structure Remainder where
  tokens : List (Except Fault Token)
  anchors : List (String × Nat) := []

/-- Reading from the remainder of a text. -/
abbrev Reading := StateT Remainder (Except Fault)

/-- The meanings of tag handles. -/
abbrev Handles := List (String × Tag)

namespace Reading

/-- The next token. -/
def peek : Reading Token := do
  match (← get).tokens with
  | .ok t :: _ => pure t
  | .error fault :: _ => throw fault
  | [] => throw .badStructure

/-- Goes over the next token. -/
def skip : Reading Unit := modify fun r => { r with tokens := r.tokens.tail }

/-- Goes over the next token, which has to be `t`. -/
def expect (t : Token) : Reading Unit := do if (← peek) = t then skip else throw .badStructure

/-- Goes over the next token if it is `t`, and tells whether it was. -/
def accept (t : Token) : Reading Bool := do
  if (← peek) = t then
    skip
    pure true
  else pure false

/-- A node, or an empty one if the next token is among `ends`. -/
def orEmpty (ends : List Token) (node : Reading Node) : Reading Node := do
  if ends.contains (← peek) then pure .empty else node

/-- The node that an alias stands for. -/
def aliasOf (name : String) : Reading Node := do
  match Entries.find? name (← get).anchors with
  | some number => pure (.alias number)
  | none => throw .unknownAlias

/-- The number of an anchor. It is that of the names before it, whether its own is one of them or
not; so a name that is used again and the next new name get the same one. -/
def numberOf (name : String) : Reading Nat := do
  let r ← get
  let number := r.anchors.length
  set { r with anchors := Entries.insert name number r.anchors }
  pure number

/-- Reads an anchor, if there is one. -/
def readAnchor : Reading (Option Nat) := do
  match ← peek with
  | .anchor name =>
    skip
    pure (some (← numberOf name))
  | _ => pure none

/-- Reads a tag, if there is one. -/
def readTag (handles : Handles) : Reading (Option Tag) := do
  match ← peek with
  | .tag none t =>
    skip
    pure (some t)
  | .tag (some handle) suffix =>
    skip
    match Entries.find? handle handles with
    | some meaning => pure (some (meaning ++ suffix))
    | none => throw .unknownHandle
  | _ => pure none

/-- Reads what stands in front of a node: an anchor and a tag, in any order. -/
def readProperties (handles : Handles) : Reading Properties := do
  match ← readAnchor with
  | some anchor => pure ⟨some anchor, ← readTag handles⟩
  | none =>
    match ← readTag handles with
    | some tag => pure ⟨← readAnchor, some tag⟩
    | none => pure {}

mutual

/-- Reads a node. Block collections only are nodes where `block` holds, and sequences without
indentation where `dense` holds. -/
def readNode (handles : Handles) : (limit : Nat) → (block dense : Bool) → Reading Node
  | 0, _, _ => throw .badStructure
  | limit + 1, block, dense => do
    match ← peek with
    | .alias name =>
      skip
      aliasOf name
    | _ =>
      let p ← readProperties handles
      match ← peek, block, dense with
      | .blockEntry, _, true => pure (.sequence p (← readDenseItems handles limit []))
      | .scalar text plain, _, _ =>
        skip
        pure (.scalar p text plain)
      | .flowSequenceStart, _, _ =>
        skip
        pure (.sequence p (← readFlowItems handles limit true []))
      | .flowMappingStart, _, _ =>
        skip
        pure (.mapping p (← readFlowEntries handles limit true []))
      | .blockSequenceStart, true, _ =>
        skip
        pure (.sequence p (← readBlockItems handles limit []))
      | .blockMappingStart, true, _ =>
        skip
        pure (.mapping p (← readBlockEntries handles limit []))
      | _, _, _ =>
        if p.anchor.isNone && p.tag.isNone then throw .badStructure else pure (.scalar p "" true)

/-- Reads the items of a block sequence. -/
def readBlockItems (handles : Handles) : (limit : Nat) → List Node → Reading (List Node)
  | 0, _ => throw .badStructure
  | limit + 1, read => do
    if ← accept .blockEnd then pure read.reverse
    else
      expect .blockEntry
      let item ← orEmpty [.blockEntry, .blockEnd] (readNode handles limit true false)
      readBlockItems handles limit (item :: read)

/-- Reads the items of a sequence in a mapping that is not indented further than it. -/
def readDenseItems (handles : Handles) : (limit : Nat) → List Node → Reading (List Node)
  | 0, _ => throw .badStructure
  | limit + 1, read => do
    if ← accept .blockEntry then
      let item ←
        orEmpty [.blockEntry, .key, .value, .blockEnd] (readNode handles limit true false)
      readDenseItems handles limit (item :: read)
    else pure read.reverse

/-- Reads the entries of a block mapping. -/
def readBlockEntries (handles : Handles) :
    (limit : Nat) → List (Node × Node) → Reading (List (Node × Node))
  | 0, _ => throw .badStructure
  | limit + 1, read => do
    if ← accept .blockEnd then pure read.reverse
    else
      let part := orEmpty [.key, .value, .blockEnd] (readNode handles limit true true)
      expect .key
      let key ← part
      let value ← if ← accept .value then part else pure .empty
      readBlockEntries handles limit ((key, value) :: read)

/-- Reads the items of a flow sequence. -/
def readFlowItems (handles : Handles) :
    (limit : Nat) → (first : Bool) → List Node → Reading (List Node)
  | 0, _, _ => throw .badStructure
  | limit + 1, first, read => do
    if ← accept .flowSequenceEnd then pure read.reverse
    else
      if !first then expect .flowEntry
      if ← accept .flowSequenceEnd then pure read.reverse
      else if ← accept .key then
        let pair ← readFlowPair handles limit
        readFlowItems handles limit false (.mapping {} [pair] :: read)
      else
        let item ← readNode handles limit false false
        readFlowItems handles limit false (item :: read)

/-- Reads an entry that is an item of a flow sequence, after the sign of its key. A key that is left
out takes the next token with it. -/
def readFlowPair (handles : Handles) : (limit : Nat) → Reading (Node × Node)
  | 0 => throw .badStructure
  | limit + 1 => do
    let node := readNode handles limit false false
    let key ←
      if [.value, .flowEntry, .flowSequenceEnd].contains (← peek) then
        skip
        pure .empty
      else node
    let value ←
      if ← accept .value then orEmpty [.flowEntry, .flowSequenceEnd] node else pure .empty
    pure (key, value)

/-- Reads the entries of a flow mapping. -/
def readFlowEntries (handles : Handles) :
    (limit : Nat) → (first : Bool) → List (Node × Node) → Reading (List (Node × Node))
  | 0, _, _ => throw .badStructure
  | limit + 1, first, read => do
    if ← accept .flowMappingEnd then pure read.reverse
    else
      let node := readNode handles limit false false
      if !first then expect .flowEntry
      if ← accept .flowMappingEnd then pure read.reverse
      else if ← accept .key then
        let key ← orEmpty [.value, .flowEntry, .flowMappingEnd] node
        let value ←
          if ← accept .value then orEmpty [.flowEntry, .flowMappingEnd] node else pure .empty
        readFlowEntries handles limit false ((key, value) :: read)
      else
        let key ← node
        readFlowEntries handles limit false ((key, .empty) :: read)

end

/-- The handles that need not be declared. -/
def defaultHandles : Handles := [("!", .sign), ("!!", .standard)]

/-- Reads directives. None may be repeated, and the version has to be one that is known. -/
def readDirectives : (limit : Nat) → (versionRead : Bool) → Handles → Reading Handles
  | 0, _, _ => throw .badDirective
  | limit + 1, versionRead, handles => do
    match ← peek with
    | .versionDirective major minor =>
      if versionRead || major != 1 || minor != 1 && minor != 2 then throw .badDirective
      skip
      readDirectives limit true handles
    | .tagDirective handle meaning =>
      if (Entries.find? handle handles).isSome then throw .badDirective
      skip
      readDirectives limit versionRead ((handle, meaning) :: handles)
    | _ => pure handles

/-- Whether a document whose start is marked begins with a token. -/
def beginsMarked : Token → Bool
  | .versionDirective .. | .tagDirective .. | .documentStart => true
  | _ => false

/-- Reads the node of a document whose start is marked. -/
def readMarked (limit : Nat) : Reading Node := do
  let handles ← readDirectives limit false []
  expect .documentStart
  let t ← peek
  if beginsMarked t || t = .documentEnd || t = .streamEnd then pure .empty
  else readNode (handles ++ defaultHandles) limit true false

/-- Reads a document, if there is one left. The start of the first one need not be marked. More
marks for the end of a document than one do not count. -/
def readDocument (first : Bool) : Reading (Option Node) := do
  if !first then
    modify fun r => { r with tokens := r.tokens.dropWhile (· matches .ok .documentEnd) }
  let t ← peek
  if t = .streamEnd then pure none
  else
    let limit := 2 * (← get).tokens.length + 2
    let n ←
      if first && !beginsMarked t then readNode defaultHandles limit true false
      else readMarked limit
    let _ ← accept .documentEnd
    pure (some n)

end Reading

/-- The documents that tokens make up, of which there are fewer than tokens, and so enough for
`limit`. -/
def documentsOf :
    (limit : Nat) → (first : Bool) → List (Except Fault Token) → List (Except Fault Tree)
  | 0, _, _ => []
  | limit + 1, first, tokens =>
    let document := do
      let (n, r) ← (Reading.readDocument first).run { tokens }
      pure (← n.mapM Node.toTree, r.tokens)
    match document with
    | .error fault => [.error fault]
    | .ok (none, _) => if first then [.ok .null] else []
    | .ok (some t, tokens) => .ok t :: documentsOf limit false tokens

/-- The documents of a text, up to the first one that cannot be read. A text without any has one
that is null. -/
def documents (text : String) : List (Except Fault Tree) :=
  let tokens := tokens text.toList
  documentsOf (tokens.length + 1) true tokens

end KubeHcl.Yaml
