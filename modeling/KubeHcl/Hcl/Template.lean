/-!
# Template markers

In text, a dollar or percent sign followed by a brace starts an interpolation or a directive. Where
such a marker is meant literally its sign stands doubled. Heredocs and quoted text double it by
different rules, which only disagree on runs of signs.
-/

namespace KubeHcl.Hcl

/-- Doubles `sign` wherever a brace follows it. -/
def doubleSign (sign : Char) : List Char → List Char
  | [] => []
  | [c] => [c]
  | c :: d :: rest =>
    if c = sign ∧ d = '\x7b' then c :: c :: d :: doubleSign sign rest
    else c :: doubleSign sign (d :: rest)

/-- Text as the template of a heredoc: the markers of interpolations are doubled first, then those
of directives. -/
def escapeTemplate (cs : List Char) : List Char := doubleSign '%' (doubleSign '$' cs)

/-- Whether a character starts a marker when a brace follows. -/
def isSign (c : Char) : Bool := c == '$' || c == '%'

/-- The scan of quoted text from its first marker on. A sign is consumed together with the character
after it, whatever that is. -/
def doublePairs : List Char → List Char
  | [] => []
  | [c] => [c]
  | c :: d :: rest =>
    if isSign c then
      if d = '\x7b' then c :: c :: d :: doublePairs rest else c :: d :: doublePairs rest
    else c :: doublePairs (d :: rest)

/-- Quoted text with its markers doubled: it is copied up to the first marker, and the scan by pairs
starts there. -/
def escapeQuoted : List Char → List Char
  | [] => []
  | [c] => [c]
  | c :: d :: rest =>
    if isSign c ∧ d = '\x7b' then doublePairs (c :: d :: rest) else c :: escapeQuoted (d :: rest)

end KubeHcl.Hcl
