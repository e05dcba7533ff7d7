import KubeHcl.Yaml.Scalar.Folding

/-!
# Plain scalars

Text without quotes ends at a comment, at a colon that a blank follows, at the start of a document
and at a line that is not indented enough. Within flow collections commas and brackets end it as
well.
-/

namespace KubeHcl.Yaml

/-- A plain scalar that was read. -/
structure PlainScalar where
  text : String
  /-- Whether line breaks after it were read too. -/
  newLine : Bool
  /-- The text from the next token on. -/
  rest : Source

/-- The scalar whose characters are `read`, the last one first, with the gap after it. -/
def PlainScalar.ofRead (read : List Char) (gap : Gap) (rest : Source) : PlainScalar :=
  ⟨String.ofList read.reverse, gap.newLine, rest⟩

/-- Signs of flow collections. -/
def isFlowSign (c : Char) : Bool := ",[]\x7b\x7d".toList.contains c

/-- Reads a plain scalar on lines that have to be indented by `indent`. The characters in `read` and
the gap after them were read, the last one first. -/
def readPlain (inFlow : Bool) (indent : Nat) (read : List Char) (gap : Gap) :
    Source → Except Fault PlainScalar
  | [] => .ok (.ofRead read gap [])
  | p :: rest =>
    let c := p.char
    if c = endMark then .ok (.ofRead read gap (p :: rest))
    else if isBlank c then
      if gap.newLine && p.column < indent && c == '\t' then .error .badToken
      else readPlain inFlow indent read (gap.addBlank c) rest
    else if isBreak c then readPlain inFlow indent read (gap.addBreak c) rest
    else if !gap.isEmpty &&
        (!inFlow && p.column < indent || Source.atDocumentMarker (p :: rest) || c == '#') then
      .ok (.ofRead read gap (p :: rest))
    else if c = ':' && inFlow && (isFlowSign (Source.peek rest) || Source.peek rest == '?') then
      .error .badToken
    else if c = ':' && endsWord (Source.peek rest) || inFlow && isFlowSign c then
      .ok (.ofRead read gap (p :: rest))
    else readPlain inFlow indent (c :: (gap.folded ++ read)) {} rest

end KubeHcl.Yaml
