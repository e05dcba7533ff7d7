import KubeHcl.Yaml.Scalar.Block
import KubeHcl.Yaml.Scalar.Plain
import KubeHcl.Yaml.Scalar.Quoted
import KubeHcl.Yaml.Token

/-!
# The tokens of a text

That a token is a key only shows when a colon follows it, and then the sign of a key, and maybe the
start of a mapping, go in front of it. So the tokens are kept in slots: one for each token that was
read, with room before it. Until it is clear whether the token in a slot is a key, neither it nor
what comes after it can be used, and if the text cannot be read further that is never clear.
-/

namespace KubeHcl.Yaml

/-- A token that is a key if a colon follows it. -/
structure PossibleKey where
  /-- How many slots are before its own. -/
  slot : Nat
  place : Place
  /-- Whether it has to be a key, because it stands in the column of the present block collection.
  -/
  required : Bool

/-- A text that is partly read. -/
structure Scan where
  /-- What is left to read. -/
  source : Source
  /-- Whether the text ends with it, and does not just become unreadable. -/
  complete : Bool
  /-- The tokens that were read, each with those put in front of it, the last one first. -/
  slots : List (List Token) := []
  /-- How many slots there are. -/
  count : Nat := 0
  /-- The columns of the block collections that are open, the innermost first. -/
  indents : List Nat := []
  /-- The possible key among the tokens that are not in an inner flow collection. -/
  key : Option PossibleKey := none
  /-- The possible keys around the flow collections that are open, the innermost first. -/
  outerKeys : List (Option PossibleKey) := []
  /-- Whether a key may begin here. -/
  keyAllowed : Bool := true

namespace Scan

/-- Whether the next token is in a flow collection. -/
def inFlow (s : Scan) : Bool := !s.outerKeys.isEmpty

/-- By how much the lines of a scalar have to be indented. -/
def leastIndent (s : Scan) : Nat := (s.indents.head?.map (· + 1)).getD 0

/-- Adds a token that ends where `source` begins. -/
def push (s : Scan) (t : Token) (source : Source) : Scan :=
  { s with slots := [t] :: s.slots, count := s.count + 1, source }

/-- Ends the block collections with columns that do not satisfy `p`, as far as they are innermost.
-/
def closeBlocks (s : Scan) (p : Nat → Bool) : Scan :=
  if s.inFlow then s
  else
    let ends := (s.indents.takeWhile (!p ·)).map fun _ => [Token.blockEnd]
    { s with
      slots := ends ++ s.slots
      count := s.count + ends.length
      indents := s.indents.dropWhile (!p ·) }

/-- Whether a block collection in this column is inside of those that are open. -/
def isDeeper (s : Scan) (column : Nat) : Bool := !s.inFlow && s.indents.head?.all (· < column)

/-- Begins a block collection here, unless one in this column is open. -/
def openBlock (s : Scan) (t : Token) : Scan :=
  let column := s.source.here.column
  if s.isDeeper column then { s.push t s.source with indents := column :: s.indents } else s

/-- A key that is too far back is none, as a key is on the same line as its colon and not longer
than this many bytes. -/
def keyReach : Nat := 1024

/-- What is left of a possible key when the text was read up to `now`. -/
def stillPossible (now : Place) : Option PossibleKey → Except Fault (Option PossibleKey)
  | none => .ok none
  | some key =>
    if now.line ≤ key.place.line ∧ now.index ≤ key.place.index + keyReach then .ok (some key)
    else if key.required then .error .missingValue
    else .ok none

/-- Drops possible keys that are too far back. -/
def dropOldKeys (s : Scan) : Except Fault Scan := do
  let now := s.source.here
  pure { s with
    key := ← stillPossible now s.key
    outerKeys := ← s.outerKeys.mapM (stillPossible now) }

/-- Drops the possible key: what follows it is not a colon. -/
def dropKey (s : Scan) : Except Fault Scan :=
  if s.key.any PossibleKey.required then .error .missingValue else .ok { s with key := none }

/-- Notes that the next token may be a key. -/
def noteKey (s : Scan) : Except Fault Scan :=
  if s.keyAllowed then do
    let place := s.source.here
    let required := !s.inFlow && s.indents.head? == some place.column
    pure { ← s.dropKey with key := some ⟨s.count, place, required⟩ }
  else .ok s

/-- Adds a directive or the start or end of a document, with which all block collections end. -/
def pushOuter (s : Scan) (read : Source → Except Fault (Token × Source)) :
    Except Fault Scan := do
  let s ← (s.closeBlocks fun _ => false).dropKey
  let (t, source) ← read s.source
  pure { s.push t source with keyAllowed := false }

/-- Adds the start of a flow collection. -/
def openFlow (s : Scan) (t : Token) : Except Fault Scan := do
  let s ← s.noteKey
  pure { s.push t s.source.next with
    key := none, outerKeys := s.key :: s.outerKeys, keyAllowed := true }

/-- Adds the end of a flow collection. -/
def closeFlow (s : Scan) (t : Token) : Except Fault Scan := do
  let s ← s.dropKey
  let s := { s.push t s.source.next with keyAllowed := false }
  match s.outerKeys with
  | [] => pure s
  | key :: outerKeys => pure { s with key, outerKeys }

/-- Adds the comma between entries. -/
def pushFlowEntry (s : Scan) : Except Fault Scan := do
  let s ← s.dropKey
  pure { s.push .flowEntry s.source.next with keyAllowed := true }

/-- Begins a block collection with the sign of an entry or a key, which may stand where keys may. -/
def beginBlock (s : Scan) (t : Token) : Except Fault Scan :=
  if s.inFlow || s.keyAllowed then .ok (s.openBlock t) else .error .misplaced

/-- Adds the sign of an entry of a block sequence. -/
def pushBlockEntry (s : Scan) : Except Fault Scan := do
  let s ← (← s.beginBlock .blockSequenceStart).dropKey
  pure { s.push .blockEntry s.source.next with keyAllowed := true }

/-- Adds the sign of a key. -/
def pushKey (s : Scan) : Except Fault Scan := do
  let s ← (← s.beginBlock .blockMappingStart).dropKey
  pure { s.push .key s.source.next with keyAllowed := !s.inFlow }

/-- Adds the sign of a value. It makes the possible key one. -/
def pushValue (s : Scan) : Except Fault Scan :=
  match s.key with
  | some key =>
    let column := key.place.column
    let starts := s.isDeeper column
    let before := if starts then [.blockMappingStart, .key] else [.key]
    let indents := if starts then column :: s.indents else s.indents
    let slots := s.slots.modify (s.count - 1 - key.slot) (before ++ ·)
    let s := { s with slots, indents, key := none, keyAllowed := false }
    .ok (s.push .value s.source.next)
  | none => do
    let s ← s.beginBlock .blockMappingStart
    pure { s.push .value s.source.next with keyAllowed := !s.inFlow }

/-- Adds a token that may be a key, or a part of one. -/
def pushNode (s : Scan) (read : Source → Except Fault (Token × Source)) : Except Fault Scan := do
  let s ← s.noteKey
  let (t, source) ← read s.source
  pure { s.push t source with keyAllowed := false }

/-- Adds a plain scalar. Where it ends with a line a key may follow. -/
def pushPlain (s : Scan) : Except Fault Scan := do
  let s ← s.noteKey
  let scalar ← readPlain s.inFlow s.leastIndent [] {} s.source
  pure { s.push (.scalar scalar.text true) scalar.rest with keyAllowed := scalar.newLine }

/-- Adds a block scalar. -/
def pushBlockScalar (s : Scan) (literal : Bool) : Except Fault Scan := do
  let s ← s.dropKey
  let (text, source) ← readBlock literal s.leastIndent s.source.next
  pure { s.push (.scalar text false) source with keyAllowed := true }

/-- Reads a tag that a word does not follow. -/
def readSeparateTag (inFlow : Bool) (s : Source) : Except Fault (Token × Source) := do
  let (t, rest) ← Token.readTag s
  if endsWord rest.peek || inFlow && rest.peek == ',' then pure (t, rest) else throw .badToken

/-- Reads the next token, which begins here. -/
def readToken (s : Scan) : Except Fault Scan :=
  let here := s.source.here
  let alone := endsWord s.source.peek2
  if here.column = 0 ∧ here.char = '%' then s.pushOuter fun s => Token.readDirective s.next
  else if s.source.atMarker '-' then s.pushOuter fun s => .ok (.documentStart, s.drop 3)
  else if s.source.atMarker '.' then s.pushOuter fun s => .ok (.documentEnd, s.drop 3)
  else
    match here.char with
    | '[' => s.openFlow .flowSequenceStart
    | '\x7b' => s.openFlow .flowMappingStart
    | ']' => s.closeFlow .flowSequenceEnd
    | '\x7d' => s.closeFlow .flowMappingEnd
    | ',' => s.pushFlowEntry
    | '-' => if alone then s.pushBlockEntry else s.pushPlain
    | '?' => if s.inFlow || alone then s.pushKey else s.pushPlain
    | ':' => if s.inFlow || alone then s.pushValue else s.pushPlain
    | '*' => s.pushNode fun s => do
      let (name, rest) ← Token.readName s.next
      pure (.alias name, rest)
    | '&' => s.pushNode fun s => do
      let (name, rest) ← Token.readName s.next
      pure (.anchor name, rest)
    | '!' => s.pushNode (readSeparateTag s.inFlow)
    | '\'' => s.pushNode fun s => do
      let (text, rest) ← readSingleQuoted [] {} s.next
      pure (.scalar text false, rest)
    | '"' => s.pushNode fun s => do
      let (text, rest) ← readDoubleQuoted none [] {} s.next
      pure (.scalar text false, rest)
    | '|' => if s.inFlow then .error .badToken else s.pushBlockScalar true
    | '>' => if s.inFlow then .error .badToken else s.pushBlockScalar false
    | c => if endsWord c || "#%@\x60".toList.contains c then .error .badToken else s.pushPlain

/-- Goes on to the next token, over comments and the ends of lines. A key may begin on a new line
that is not in a flow collection. Where one may, a tab is not taken as a blank. -/
def skipToToken (inFlow keyAllowed inComment : Bool) : Source → Bool × Source
  | [] => (keyAllowed, [])
  | p :: rest =>
    let c := p.char
    if c = endMark then (keyAllowed, p :: rest)
    else if isBreak c then skipToToken inFlow (keyAllowed || !inFlow) false rest
    else if inComment || c == '#' then skipToToken inFlow keyAllowed true rest
    else if c == ' ' || c == '\t' && (inFlow || !keyAllowed) || c == '\ufeff' && p.column == 0 then
      skipToToken inFlow keyAllowed false rest
    else (keyAllowed, p :: rest)

/-- Whether so little is left of a text that becomes unreadable that no token can be read: a
document may start with three characters. -/
def isCut (s : Scan) : Bool := !s.complete && (s.source.drop 4).isEmpty

/-- Reads the next token, or the end of the text. -/
def advance (s : Scan) : Except Fault Scan := do
  let (keyAllowed, source) := skipToToken s.inFlow s.keyAllowed false s.source
  let s ← { s with keyAllowed, source }.dropOldKeys
  if s.isCut then throw .unreadable
  let column := s.source.here.column
  let s := s.closeBlocks (· ≤ column)
  let s ←
    if s.source.peek = endMark then s.pushOuter fun s => .ok (.streamEnd, s) else s.readToken
  s.dropOldKeys

/-- Whether the end of the text was read. -/
def isOver (s : Scan) : Bool := s.slots.head? == some [.streamEnd]

/-- All tokens that were read. -/
def tokens (s : Scan) : List (Except Fault Token) := s.slots.reverse.flatten.map .ok

/-- The slots of possible keys. -/
def openSlots (s : Scan) : List Nat := (s.key :: s.outerKeys).filterMap (·.map PossibleKey.slot)

/-- The tokens of which it is clear that they are no keys, and why no more are read. -/
def cutOff (s : Scan) (fault : Fault) : List (Except Fault Token) :=
  let clear := s.openSlots.foldl min s.count
  { s with slots := s.slots.drop (s.count - clear), count := clear }.tokens ++ [.error fault]

/-- The tokens of a text that is partly read. A token has at least one character, so as many as are
left are enough for `limit`. -/
def run : (limit : Nat) → Scan → List (Except Fault Token)
  | 0, s => s.cutOff .badToken
  | limit + 1, s =>
    match s.advance with
    | .error fault => s.cutOff fault
    | .ok s => if s.isOver then s.tokens else run limit s

end Scan

/-- The tokens of a text. The last one is its end, or the reason why no more can be read. -/
def tokens (text : List Char) : List (Except Fault Token) :=
  let readable := readablePart 0 [] [] text
  let source := Source.ofChars (readable.getD text)
  { source, complete := readable.isNone : Scan }.run source.length

end KubeHcl.Yaml
