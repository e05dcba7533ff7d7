import KubeHcl.Json.Number

/-!
# Reading JSON text

A recursive descent reader that keeps the order of keys. A repeated key keeps its first place and
takes its last value. The depth of nested collections is limited by a parameter.
-/

namespace KubeHcl.Json

/-- The blanks allowed between tokens. -/
def isBlank (c : Char) : Bool := c == ' ' || c == '\n' || c == '\t' || c == '\r'

/-- Drops blanks. -/
def skipBlanks (cs : List Char) : List Char := cs.dropWhile isBlank

/-- The value of a hexadecimal digit. -/
def hexValue? (c : Char) : Option Nat :=
  if c.isDigit then some (c.toNat - '0'.toNat)
  else if 'a' ≤ c ∧ c ≤ 'f' then some (c.toNat - 'a'.toNat + 10)
  else if 'A' ≤ c ∧ c ≤ 'F' then some (c.toNat - 'A'.toNat + 10)
  else none

/-- The number written by four hexadecimal digits. -/
def hexValue4? (a b c d : Char) : Option Nat := do
  let high := (← hexValue? a) * 16 + (← hexValue? b)
  let low := (← hexValue? c) * 16 + (← hexValue? d)
  pure (high * 256 + low)

/-- What an escape of one character stands for. -/
def simpleEscape? : Char → Option Char
  | '"' => some '"'
  | '\\' => some '\\'
  | '/' => some '/'
  | 'b' => some '\x08'
  | 'f' => some '\x0c'
  | 'n' => some '\n'
  | 'r' => some '\r'
  | 't' => some '\t'
  | _ => none

/-- Reads text up to the closing quote; `read` holds the characters before it in reverse. A
character above U+FFFF is escaped as two halves. -/
def readText (read : List Char) : List Char → Except Fault (String × List Char)
  | [] => .error .malformed
  | '"' :: rest => .ok (String.ofList read.reverse, rest)
  | '\\' :: 'u' :: a :: b :: c :: d :: rest =>
    match hexValue4? a b c d with
    | none => .error .malformed
    | some high =>
      if 0xD800 ≤ high ∧ high < 0xDC00 then
        match rest with
        | '\\' :: 'u' :: e :: f :: g :: h :: rest =>
          match hexValue4? e f g h with
          | none => .error .malformed
          | some low =>
            if 0xDC00 ≤ low ∧ low < 0xE000 then
              let code := 0x10000 + (high - 0xD800) * 0x400 + (low - 0xDC00)
              readText (Char.ofNat code :: read) rest
            else .error .malformed
        | _ => .error .malformed
      else if 0xDC00 ≤ high ∧ high < 0xE000 then .error .malformed
      else readText (Char.ofNat high :: read) rest
  | '\\' :: c :: rest =>
    match simpleEscape? c with
    | some c => readText (c :: read) rest
    | none => .error .malformed
  | c :: rest => if c.toNat < 32 then .error .malformed else readText (c :: read) rest

/-- Reads a word that stands for `value`. -/
def readWord (word : List Char) (value : Tree) (cs : List Char) :
    Except Fault (Tree × List Char) :=
  if word.isPrefixOf cs then .ok (value, cs.drop word.length) else .error .malformed

mutual

/-- Reads a value in which collections may be nested `depth` deep. Each step uses up one unit of
`fuel`; there are at most two for each character. -/
def readValue (fuel depth : Nat) (cs : List Char) : Except Fault (Tree × List Char) :=
  match fuel with
  | 0 => .error .malformed
  | fuel + 1 =>
    match skipBlanks cs with
    | '"' :: rest => do
      let (text, rest) ← readText [] rest
      pure (.text text, rest)
    | '[' :: rest =>
      match depth with
      | 0 => .error .tooDeep
      | depth + 1 =>
        match skipBlanks rest with
        | ']' :: rest => .ok (.seq [], rest)
        | rest => do
          let (item, rest) ← readValue fuel depth rest
          let (items, rest) ← readItems fuel depth rest
          pure (.seq (item :: items), rest)
    | '\x7b' :: rest =>
      match depth with
      | 0 => .error .tooDeep
      | depth + 1 =>
        match skipBlanks rest with
        | '\x7d' :: rest => .ok (.map [], rest)
        | rest => do
          let (entry, rest) ← readEntry fuel depth rest
          let (entries, rest) ← readEntries fuel depth rest
          pure (Tree.ofPairs (entry :: entries), rest)
    | 'n' :: rest => readWord ['u', 'l', 'l'] .null rest
    | 't' :: rest => readWord ['r', 'u', 'e'] (.bool true) rest
    | 'f' :: rest => readWord ['a', 'l', 's', 'e'] (.bool false) rest
    | rest => readNumber rest

/-- Reads the items after the first one, and the end of the sequence. -/
def readItems (fuel depth : Nat) (cs : List Char) : Except Fault (List Tree × List Char) :=
  match fuel with
  | 0 => .error .malformed
  | fuel + 1 =>
    match skipBlanks cs with
    | ']' :: rest => .ok ([], rest)
    | ',' :: rest => do
      let (item, rest) ← readValue fuel depth rest
      let (items, rest) ← readItems fuel depth rest
      pure (item :: items, rest)
    | _ => .error .malformed

/-- Reads a key, the colon and a value. -/
def readEntry (fuel depth : Nat) (cs : List Char) : Except Fault ((String × Tree) × List Char) :=
  match fuel with
  | 0 => .error .malformed
  | fuel + 1 =>
    match skipBlanks cs with
    | '"' :: rest => do
      let (key, rest) ← readText [] rest
      match skipBlanks rest with
      | ':' :: rest => do
        let (value, rest) ← readValue fuel depth rest
        pure ((key, value), rest)
      | _ => .error .malformed
    | _ => .error .malformed

/-- Reads the entries after the first one, and the end of the mapping. -/
def readEntries (fuel depth : Nat) (cs : List Char) :
    Except Fault (List (String × Tree) × List Char) :=
  match fuel with
  | 0 => .error .malformed
  | fuel + 1 =>
    match skipBlanks cs with
    | '\x7d' :: rest => .ok ([], rest)
    | ',' :: rest => do
      let (entry, rest) ← readEntry fuel depth rest
      let (entries, rest) ← readEntries fuel depth rest
      pure (entry :: entries, rest)
    | _ => .error .malformed

end

/-- Reads a whole text as one value in which collections are nested at most `depth` deep. -/
def read (depth : Nat) (cs : List Char) : Except Fault Tree := do
  let (tree, rest) ← readValue (2 * cs.length + 2) depth cs
  if (skipBlanks rest).isEmpty then pure tree else throw .malformed

end KubeHcl.Json
