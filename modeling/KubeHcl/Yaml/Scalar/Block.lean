import KubeHcl.Yaml.Source

/-!
# Block scalars

Text on the lines after a vertical bar is kept as it is, apart from the indentation of its lines.
After an angle bracket lines are folded, except around lines that are indented further. What happens
to line breaks at the end is said in front of the text.
-/

namespace KubeHcl.Yaml

/-- What happens to the line breaks at the end of a block scalar. -/
inductive Chomping where
  /-- All are dropped. -/
  | strip
  /-- One is kept. -/
  | clip
  /-- All are kept. -/
  | keep
  deriving DecidableEq

/-- What stands between the sign of a block scalar and the end of its line. -/
structure BlockHeader where
  chomping : Chomping
  /-- By how much the text is indented, if that is said. -/
  increment : Option Nat

/-- How a character tells what happens to line breaks. -/
def Chomping.ofChar? : Char → Option Chomping
  | '+' => some keep
  | '-' => some strip
  | _ => none

/-- Reads a digit that tells the indentation, which is not zero. -/
def readIncrement (s : Source) : Except Fault (Option Nat × Source) :=
  let c := s.peek
  if c = '0' then .error .badToken
  else if c.isDigit then .ok (some (c.toNat - '0'.toNat), s.next)
  else .ok (none, s)

/-- Reads the header of a block scalar: the two signs may stand in any order. -/
def readBlockHeader (s : Source) : Except Fault (BlockHeader × Source) := do
  match Chomping.ofChar? s.peek with
  | some chomping =>
    let (increment, s) ← readIncrement s.next
    pure (⟨chomping, increment⟩, ← s.finishLine)
  | none =>
    let (increment, s) ← readIncrement s
    match increment, Chomping.ofChar? s.peek with
    | some _, some chomping => pure (⟨chomping, increment⟩, ← s.next.finishLine)
    | _, _ => pure (⟨.clip, increment⟩, ← s.finishLine)

/-- A block scalar while it is read. -/
structure BlockText where
  /-- The indentation of its lines, once it is known. -/
  indent : Option Nat
  /-- The greatest column reached before the first line with text. -/
  widest : Nat := 0
  /-- The text, the last character first. -/
  read : List Char := []
  /-- The line break after the last line, if there is one. -/
  lineBreak : List Char := []
  /-- The line breaks of empty lines after it, the last one first. -/
  breaks : List Char := []
  /-- Whether the last line began with a blank. -/
  leadingBlank : Bool := false

/-- The text before the first character of a line, which is `c`. In folded text the break between
two lines that do not begin with blanks becomes a blank, or is dropped if empty lines follow it. -/
def BlockText.join (literal : Bool) (b : BlockText) (c : Char) : List Char :=
  let joint :=
    if !literal && b.lineBreak == ['\n'] && !b.leadingBlank && !isBlank c then
      if b.breaks.isEmpty then [' '] else []
    else b.lineBreak
  b.breaks ++ joint ++ b.read

/-- The text with as many line breaks at the end as are kept. -/
def BlockText.chomp (b : BlockText) : Chomping → String
  | .strip => String.ofList b.read.reverse
  | .clip => String.ofList (b.lineBreak ++ b.read).reverse
  | .keep => String.ofList (b.breaks ++ b.lineBreak ++ b.read).reverse

/-- Reads the lines of a block scalar. Its parent's lines are indented by less than `least`;
`inLine` holds while the text of a line is read, and not in the indentation before it. -/
def readBlockText (literal : Bool) (least : Nat) (inLine : Bool) (b : BlockText) :
    Source → Except Fault (BlockText × Source)
  | [] => .ok (b, [])
  | p :: rest =>
    let c := p.char
    if inLine then
      if c = endMark then .ok (b, p :: rest)
      else if isBreak c then readBlockText literal least false { b with lineBreak := [c] } rest
      else readBlockText literal least true { b with read := c :: b.read } rest
    else
      let inIndent : Bool := b.indent.all (p.column < ·)
      if inIndent && c == ' ' then readBlockText literal least false b rest
      else if inIndent && c == '\t' then .error .badToken
      else
        let widest := max b.widest p.column
        if isBreak c then
          readBlockText literal least false { b with widest, breaks := c :: b.breaks } rest
        else
          let indent := b.indent.getD (max widest (max least 1))
          let b := { b with indent := some indent }
          if p.column = indent ∧ c ≠ endMark then
            let read := c :: b.join literal c
            readBlockText literal least true
              { b with read, lineBreak := [], breaks := [], leadingBlank := isBlank c } rest
          else .ok (b, p :: rest)

/-- Reads a block scalar from after its sign. Its lines have to be indented by `least`, which is one
more than those of its parent, or nothing at the top. -/
def readBlock (literal : Bool) (least : Nat) (s : Source) : Except Fault (String × Source) := do
  let (header, s) ← readBlockHeader s
  let indent := header.increment.map (least - 1 + ·)
  let (b, s) ← readBlockText literal least false { indent } s
  pure (b.chomp header.chomping, s)

end KubeHcl.Yaml
