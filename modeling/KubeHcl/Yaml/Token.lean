import KubeHcl.Json.Reader
import KubeHcl.Yaml.Source
import KubeHcl.Yaml.Tag

/-!
# YAML tokens

The tokens that a text consists of, and the reading of those that are more than one sign:
directives, anchors and aliases, and tags.
-/

namespace KubeHcl.Yaml

/-- A token. Tokens that open and close block collections come from indentation. -/
inductive Token where
  | versionDirective (major minor : Nat)
  | tagDirective (handle : String) (meaning : Tag)
  | documentStart
  | documentEnd
  | streamEnd
  | blockSequenceStart
  | blockMappingStart
  | blockEnd
  | flowSequenceStart
  | flowSequenceEnd
  | flowMappingStart
  | flowMappingEnd
  | blockEntry
  | flowEntry
  | key
  | value
  | anchor (name : String)
  | alias (name : String)
  /-- A tag, or the end of one that begins with the meaning of a handle. -/
  | tag (handle : Option String) (suffix : Tag)
  /-- Text; `plain` if it stands without quotes. -/
  | scalar (text : String) (plain : Bool)
  deriving DecidableEq, Repr

namespace Token

/-- Reads a name after the sign of an anchor or an alias. -/
def readName (s : Source) : Except Fault (String × Source) :=
  let name := s.leading isWord
  let rest := s.skip isWord
  let c := rest.peek
  if !name.isEmpty && (endsWord c || "?:,]\x7d%@\x60".toList.contains c) then
    .ok (String.ofList name, rest)
  else .error .badToken

/-- Characters of a tag apart from escapes. Commas and square brackets only belong to one in angle
brackets or to a directive. -/
def isTagChar (delimited : Bool) (c : Char) : Bool :=
  isWord c || ";/?:@&=+$.!~*'()".toList.contains c || delimited && ",[]".toList.contains c

/-- How many bytes follow this one, if it is the first one of a character. -/
def followers? (byte : Nat) : Option Nat :=
  if byte < 0x80 then some 0
  else if 0xC0 ≤ byte ∧ byte < 0xE0 then some 1
  else if 0xE0 ≤ byte ∧ byte < 0xF0 then some 2
  else if 0xF0 ≤ byte ∧ byte < 0xF8 then some 3
  else none

/-- The number written by two hexadecimal digits. -/
def byteOf? (a b : Char) : Option Nat := do
  pure ((← Json.hexValue? a) * 16 + (← Json.hexValue? b))

/-- Reads the bytes of a tag up to a character that no tag has. Escaped bytes stand in groups of a
first byte and as many as follow it; `pending` is how many are still to follow. That a group is a
character is not asked for. -/
def readTagBytes (delimited : Bool) (pending : Nat) (read : List UInt8) :
    Source → Except Fault (List UInt8 × Source)
  | [] => .error .badToken
  | p :: rest =>
    if p.char = '%' then
      match rest with
      | a :: b :: rest =>
        match byteOf? a.char b.char with
        | none => .error .badToken
        | some byte =>
          match pending with
          | 0 =>
            match followers? byte with
            | some n => readTagBytes delimited n (byte.toUInt8 :: read) rest
            | none => .error .badToken
          | pending + 1 =>
            if byte / 0x40 = 2 then readTagBytes delimited pending (byte.toUInt8 :: read) rest
            else .error .badToken
      | _ => .error .badToken
    else if pending ≠ 0 then .error .badToken
    else if isTagChar delimited p.char then
      readTagBytes delimited 0 (p.char.toUInt8 :: read) rest
    else .ok (read.reverse, p :: rest)

/-- Reads a tag, or a part of one, for which at least one byte has to be written. -/
def readTagPart (delimited : Bool) (s : Source) : Except Fault (Tag × Source) := do
  let (bytes, rest) ← readTagBytes delimited 0 [] s
  if bytes.isEmpty then throw .badToken else pure (.ofBytes bytes, rest)

/-- Reads a tag from its exclamation mark on. One in angle brackets is taken as it is and has no
handle; any other has a handle between two marks, or a single mark in front of its suffix, or is a
mark alone. -/
def readTag (s : Source) : Except Fault (Token × Source) :=
  if s.peek2 = '<' then do
    let (t, rest) ← readTagPart true (s.drop 2)
    if rest.peek = '>' then pure (.tag none t, rest.next) else throw .badToken
  else
    let name := s.next.leading isWord
    let rest := s.next.skip isWord
    if rest.peek = '!' then do
      let (suffix, rest) ← readTagPart false rest.next
      pure (.tag (some (String.ofList ('!' :: name ++ ['!']))) suffix, rest)
    else do
      let (more, rest) ← readTagBytes false 0 [] rest
      let suffix := Tag.ofBytes (name.map Char.toUInt8 ++ more)
      pure (if suffix.bytes.isEmpty then .tag none .sign else .tag (some "!") suffix, rest)

/-- Reads a number of a version: at most nine digits. -/
def readVersionNumber (s : Source) : Except Fault (Nat × Source) :=
  let digits := s.leading Char.isDigit
  if digits.isEmpty || 9 < digits.length then .error .badToken
  else .ok (Json.digitsValue digits, s.skip Char.isDigit)

/-- Reads the handle that a directive declares. -/
def readDeclaredHandle (s : Source) : Except Fault (String × Source) :=
  if s.peek ≠ '!' then .error .badToken
  else
    let name := s.next.leading isWord
    let rest := s.next.skip isWord
    if rest.peek = '!' then .ok (String.ofList ('!' :: name ++ ['!']), rest.next)
    else if name.isEmpty then .ok ("!", rest)
    else .error .badToken

/-- Reads a directive from after its percent sign. -/
def readDirective (s : Source) : Except Fault (Token × Source) := do
  let name := s.leading isWord
  let s := s.skip isWord
  if !endsWord s.peek then throw .badToken
  let s' := s.skip isBlank
  match String.ofList name with
  | "YAML" =>
    let (major, s) ← readVersionNumber s'
    if s.peek ≠ '.' then throw .badToken
    let (minor, s) ← readVersionNumber s.next
    pure (.versionDirective major minor, ← s.finishLine)
  | "TAG" =>
    let (handle, s) ← readDeclaredHandle s'
    if !isBlank s.peek then throw .badToken
    let (meaning, s) ← readTagPart true (s.skip isBlank)
    if !endsWord s.peek then throw .badToken
    pure (.tagDirective handle meaning, ← s.finishLine)
  | _ => throw .badToken

end Token

end KubeHcl.Yaml
