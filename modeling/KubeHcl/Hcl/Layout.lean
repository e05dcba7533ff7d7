import KubeHcl.Hcl.Expression
import KubeHcl.Hcl.Template
import KubeHcl.Json.Text

/-!
# Laying out HCL text

Every nested level is indented by two blanks. Arrays and objects have an element to a line, except
inside of calls, conditionals and comprehensions, where they stay on one line. What goes between two
elements depends on two flags that all levels share, so an element after an empty array or object is
set as a first one.
-/

namespace KubeHcl.Hcl

/-- The text written so far and what decides how it goes on. -/
structure Layout where
  /-- The characters written, the last one first. -/
  written : List Char := []
  /-- How many levels the next line is indented by. -/
  level : Nat := 0
  /-- Whether elements stay on one line. -/
  compact : Bool := false
  /-- Whether the next element is the first of its array or object. -/
  first : Bool := false
  /-- Whether an element was written since the last bracket was opened. -/
  hasValue : Bool := false

namespace Layout

/-- Appends characters. -/
def chars (cs : List Char) (l : Layout) : Layout := { l with written := cs.reverseAux l.written }

/-- Appends text. -/
def put (text : String) (l : Layout) : Layout := l.chars text.toList

/-- Starts a new line at the present level. -/
def newLine (l : Layout) : Layout := l.chars ('\n' :: List.replicate (2 * l.level) ' ')

/-- The text in order. -/
def text (l : Layout) : String := String.ofList l.written.reverse

/-- Opens an array or object. -/
def openBracket (bracket : String) (l : Layout) : Layout :=
  { l.put bracket with level := l.level + 1, first := true, hasValue := false }

/-- Goes to the place of the next element of an array. -/
def beginItem (l : Layout) : Layout :=
  match l.first, l.compact with
  | true, true => { l with first := false }
  | true, false => { l with first := false }.newLine
  | false, true => l.put ", "
  | false, false => (l.put ",").newLine

/-- Goes to the place of the next key of an object. -/
def beginKey (l : Layout) : Layout :=
  match l.first, l.compact with
  | true, true => { l with first := false }.put " "
  | true, false => { l with first := false }.newLine
  | false, true => l.put ", "
  | false, false => l.newLine

/-- Notes that an element was written. -/
def endElement (l : Layout) : Layout := { l with hasValue := true }

/-- Closes an array. -/
def closeArray (l : Layout) : Layout :=
  let l := { l with level := l.level - 1 }
  (if l.hasValue && !l.compact then l.newLine else l).put "]"

/-- Closes an object. -/
def closeObject (l : Layout) : Layout :=
  let l := { l with level := l.level - 1 }
  (if l.hasValue then (if l.compact then l.put " " else l.newLine) else l).put "\x7d"

/-- Writes on one line what `write` writes. -/
def compactly (write : Layout → Layout) (l : Layout) : Layout :=
  { write { l with compact := true } with compact := l.compact }

end Layout

/-- Text in quotes. -/
def quote (text : String) : List Char :=
  '"' :: Json.escape (escapeQuoted text.toList) ++ ['"']

/-- As in JSON text, but a positive exponent has no sign. -/
def floatStyle : Json.FloatStyle := { Json.floatStyle with signedExponent := false }

/-- A number. One without a fraction is written as an integer if it fits into 64 bits, with or
without a sign. -/
def floatText (x : Binary64) : List Char :=
  match x.toInt? with
  | some n =>
    if -Int.pow 2 63 ≤ n ∧ n < Int.pow 2 64 then Json.intText n else Json.floatText floatStyle x
  | none => Json.floatText floatStyle x

/-- A heredoc with what opens it. Its template ends with a line break even if that has to be added.
-/
def Heredoc.writeFrom (opening : String) (block : Heredoc) (l : Layout) : Layout :=
  let l := (l.put opening).put block.delimiter |>.put "\n" |>.put block.template
  (if block.template.toList.getLast? = some '\n' then l else l.put "\n").put block.delimiter

/-- A heredoc of which every line is written as it is. -/
def Heredoc.write (block : Heredoc) (l : Layout) : Layout := block.writeFrom "<<" l

mutual

/-- Writes an expression. -/
def Expression.write : Expression → Layout → Layout
  | .null, l => l.put "null"
  | .bool b, l => l.put (if b then "true" else "false")
  | .int n, l => l.chars (Json.intText n)
  | .float x, l => l.chars (floatText x)
  | .text s, l => l.chars (quote s)
  | .array items, l => (writeItems items (l.openBracket "[")).closeArray
  | .object entries, l => (writeEntries entries (l.openBracket "\x7b")).closeObject
  | .heredoc block, l => block.write l
  | .indentedHeredoc block, l => block.writeFrom "<<-" l
  | .template contents, l => ((l.put "\"").put contents).put "\""
  | .variable name, l => l.put name
  | .attributes root path, l => path.foldl (fun l name => (l.put ".").put name) (l.put root)
  | .index collection position, l =>
    (position.write ((collection.write l).put "[")).put "]"
  | .select value selector, l => (value.write l).put selector.symbol
  | .call function arguments, l =>
    ((l.put function).put "(" |>.compactly (writeArguments arguments)).put ")"
  | .expandingCall function arguments, l =>
    ((l.put function).put "(" |>.compactly (writeArguments arguments)).put "...)"
  | .comprehension keyVariable valueVariable collection key value grouped condition, l =>
    let names := keyVariable.elim valueVariable fun name => name ++ ", " ++ valueVariable
    let opened := l.put ((if key.isSome then "\x7bfor " else "[for ") ++ names ++ " in ")
    let written := opened.compactly fun l =>
      let l := value.write (writeKey key ((collection.write l).put " : "))
      writeCondition condition (l.put (if grouped then "..." else ""))
    written.put (if key.isSome then "\x7d" else "]")
  | .paren inner, l => (inner.write (l.put "(")).put ")"
  | .conditional condition whenTrue whenFalse, l =>
    l.compactly fun l =>
      whenFalse.write ((whenTrue.write ((condition.write l).put " ? ")).put " : ")
  | .unary operator operand, l => operand.write (l.put operator.symbol)
  | .binary left operator right, l =>
    right.write ((left.write l).put " " |>.put operator.symbol |>.put " ")

/-- Writes the items of an array. -/
def Expression.writeItems : List Expression → Layout → Layout
  | [], l => l
  | item :: rest, l => writeItems rest (item.write l.beginItem).endElement

/-- Writes the entries of an object. -/
def Expression.writeEntries : List (Expression × Expression) → Layout → Layout
  | [], l => l
  | (key, value) :: rest, l =>
    writeEntries rest (value.write ((key.write l.beginKey).put " = ")).endElement

/-- Writes the arguments of a call. -/
def Expression.writeArguments : List Expression → Layout → Layout
  | [], l => l
  | [argument], l => argument.write l
  | argument :: rest, l => writeArguments rest ((argument.write l).put ", ")

/-- Writes the key of a comprehension, if there is one. -/
def Expression.writeKey : Option Expression → Layout → Layout
  | none, l => l
  | some key, l => (key.write l).put " => "

/-- Writes the condition of a comprehension, if there is one. -/
def Expression.writeCondition : Option Expression → Layout → Layout
  | none, l => l
  | some condition, l => condition.write (l.put " if ")

end

/-- The text of an expression on its own. -/
def Expression.toText (e : Expression) : String := (e.write {}).text

/-- The blanks in front of a line. -/
def Layout.indentation (l : Layout) : Layout := l.chars (List.replicate (2 * l.level) ' ')

mutual

/-- Writes the parts of a body, each on lines of its own. A block is set off by an empty line from
what is before it. -/
def writeBody (isFirst : Bool) : List Structure → Layout → Layout
  | [], l => l
  | .attribute name value :: rest, l =>
    writeBody false rest ((value.write (l.indentation.put name |>.put " = ")).put "\n")
  | .block content :: rest, l =>
    writeBody false rest (content.write (if isFirst then l else l.put "\n"))

/-- Writes a block. -/
def Block.write : Block → Layout → Layout
  | .mk type labels body, l =>
    let opened := labels.foldl (fun l label => (l.put " ").chars (quote label))
      (l.indentation.put type)
    let inner := writeBody true body { opened.put " \x7b\n" with level := l.level + 1 }
    { inner with level := l.level }.indentation.put "\x7d\n"

end

/-- The text of a file. -/
def Body.toText (body : Body) : String := (writeBody true body {}).text

end KubeHcl.Hcl
