import KubeHcl.Yaml.Source

/-!
# Folding of lines

Between two words of a scalar that is not in a block stand blanks or line breaks. Blanks within a
line are kept, a single line break counts as a blank, and of several the first one is dropped.
-/

namespace KubeHcl.Yaml

/-- What was read since the last character of a scalar that is not blank. -/
structure Gap where
  /-- The blanks since then, the last one first, while no line has ended. -/
  blanks : List Char := []
  /-- The line breaks since then, the last one first. -/
  breaks : List Char := []
  /-- Whether the first line ended with an escaped break, which does not count. -/
  escaped : Bool := false

namespace Gap

/-- Whether a line has ended. -/
def newLine (g : Gap) : Bool := g.escaped || !g.breaks.isEmpty

/-- Whether nothing was read. -/
def isEmpty (g : Gap) : Bool := g.blanks.isEmpty && !g.newLine

/-- The gap with one more blank. Blanks at the start of a line do not count. -/
def addBlank (g : Gap) (c : Char) : Gap :=
  if g.newLine then g else { g with blanks := c :: g.blanks }

/-- The gap with one more line break. Blanks at the end of a line do not count. -/
def addBreak (g : Gap) (c : Char) : Gap := { g with blanks := [], breaks := c :: g.breaks }

/-- What the gap stands for, the last character first. -/
def folded (g : Gap) : List Char :=
  if g.escaped then g.breaks
  else
    match g.breaks.getLast? with
    | none => g.blanks
    | some '\n' => if g.breaks.length = 1 then [' '] else g.breaks.dropLast
    | some _ => g.breaks

end Gap

end KubeHcl.Yaml
