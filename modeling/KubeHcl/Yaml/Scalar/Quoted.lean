import KubeHcl.Json.Reader
import KubeHcl.Yaml.Scalar.Folding

/-!
# Quoted scalars

Between single quotes only the quote itself is special, and is written twice. Between double quotes
a backslash escapes a character or the end of a line. No document may start or end within quotes.
-/

namespace KubeHcl.Yaml

/-- Reads up to the closing single quote. -/
def readSingleQuoted (read : List Char) (gap : Gap) : Source → Except Fault (String × Source)
  | [] => .error .badToken
  | p :: rest =>
    let c := p.char
    if c = endMark ∨ Source.atDocumentMarker (p :: rest) then .error .badToken
    else if isBlank c then readSingleQuoted read (gap.addBlank c) rest
    else if isBreak c then readSingleQuoted read (gap.addBreak c) rest
    else
      let read := gap.folded ++ read
      if c = '\'' then
        match rest with
        | q :: rest' =>
          if q.char = '\'' then readSingleQuoted ('\'' :: read) {} rest'
          else .ok (String.ofList read.reverse, q :: rest')
        | [] => .ok (String.ofList read.reverse, [])
      else readSingleQuoted (c :: read) {} rest

/-- What an escape stands for: a character, or one whose number follows in so many digits. -/
inductive Escape where
  | char (c : Char)
  | digits (count : Nat)

/-- The escape that a character after a backslash means. -/
def Escape.ofChar? : Char → Option Escape
  | '0' => some (char '\x00')
  | 'a' => some (char '\x07')
  | 'b' => some (char '\x08')
  | 't' | '\t' => some (char '\t')
  | 'n' => some (char '\n')
  | 'v' => some (char '\x0b')
  | 'f' => some (char '\x0c')
  | 'r' => some (char '\r')
  | 'e' => some (char '\x1b')
  | ' ' => some (char ' ')
  | '"' => some (char '"')
  | '/' => some (char '/')
  | '\\' => some (char '\\')
  | 'N' => some (char '\u0085')
  | '_' => some (char '\u00a0')
  | 'L' => some (char '\u2028')
  | 'P' => some (char '\u2029')
  | 'x' => some (digits 2)
  | 'u' => some (digits 4)
  | 'U' => some (digits 8)
  | _ => none

/-- Digits of an escape that are still to be read, and the number that those before them make. -/
structure PendingDigits where
  count : Nat
  value : Nat

/-- Reads up to the closing double quote. -/
def readDoubleQuoted (pending : Option PendingDigits) (read : List Char) (gap : Gap) :
    Source → Except Fault (String × Source)
  | [] => .error .badToken
  | p :: rest =>
    let c := p.char
    match pending with
    | some ⟨count, value⟩ =>
      match Json.hexValue? c with
      | none => .error .badToken
      | some digit =>
        let value := 16 * value + digit
        if 1 < count then readDoubleQuoted (some ⟨count - 1, value⟩) read gap rest
        else if value.isValidChar then readDoubleQuoted none (Char.ofNat value :: read) {} rest
        else .error .badToken
    | none =>
      if c = endMark ∨ Source.atDocumentMarker (p :: rest) then .error .badToken
      else if isBlank c then readDoubleQuoted none read (gap.addBlank c) rest
      else if isBreak c then readDoubleQuoted none read (gap.addBreak c) rest
      else
        let read := gap.folded ++ read
        if c = '"' then .ok (String.ofList read.reverse, rest)
        else if c = '\\' then
          match rest with
          | q :: rest' =>
            if isBreak q.char then readDoubleQuoted none read { escaped := true } rest'
            else
              match Escape.ofChar? q.char with
              | some (.char c) => readDoubleQuoted none (c :: read) {} rest'
              | some (.digits count) => readDoubleQuoted (some ⟨count, 0⟩) read {} rest'
              | none => .error .badToken
          | [] => .error .badToken
        else readDoubleQuoted none (c :: read) {} rest

end KubeHcl.Yaml
