/-!
# Text with positions

A YAML text as a list of places: every character with its line and column. Line breaks are made
alike first, and the end of the text is a place of its own with the character NUL, which no text
has. What reads the text is then a recursion on the list.
-/

namespace KubeHcl.Yaml

/-- Why a document is not read. -/
inductive Fault where
  /-- The text has a character that is not allowed. -/
  | unreadable
  /-- A token does not follow the rules for its kind. -/
  | badToken
  /-- A token stands where none of its kind is allowed. -/
  | misplaced
  /-- A key has no value. -/
  | missingValue
  /-- A document or a directive is not as it has to be. -/
  | badDirective
  /-- A node is missing or does not end. -/
  | badStructure
  /-- A tag has a handle that is not declared. -/
  | unknownHandle
  /-- An alias to nothing before it. -/
  | unknownAlias
  /-- Aliases expand to too much, or to what they are part of. -/
  | repetition
  /-- Collections are nested too deep. -/
  | tooDeep
  /-- A value or a key that has no place in a data tree. -/
  | unsupported
  deriving DecidableEq, Repr

/-- A character of the text and where it stands. -/
structure Place where
  char : Char
  /-- How many bytes are before it. -/
  index : Nat
  /-- How many lines are before its own. -/
  line : Nat
  /-- How many characters are before it on its line. -/
  column : Nat

/-- What is left of a text. -/
abbrev Source := List Place

/-- The character that stands for the end of the text. -/
def endMark : Char := '\x00'

/-- Blanks within a line. -/
def isBlank (c : Char) : Bool := c == ' ' || c == '\t'

/-- Line breaks, after they were made alike. -/
def isBreak (c : Char) : Bool := c == '\n' || c == '\u2028' || c == '\u2029'

/-- Whether a line ends here. -/
def endsLine (c : Char) : Bool := isBreak c || c == endMark

/-- Whether a word ends here. -/
def endsWord (c : Char) : Bool := isBlank c || endsLine c

/-- Characters of names of anchors, directives and tag handles. -/
def isWord (c : Char) : Bool := c.isAlphanum || c == '_' || c == '-'

/-- Characters that a text may have. -/
def isAllowed (c : Char) : Bool :=
  let n := c.toNat
  n == 0x09 || n == 0x0A || n == 0x0D || (0x20 ≤ n && n ≤ 0x7E) || n == 0x85 ||
    (0xA0 ≤ n && n ≤ 0xD7FF) || (0xE000 ≤ n && n ≤ 0xFFFD) || 0x10000 ≤ n

namespace Source

/-- The next character. -/
def peek : Source → Char
  | p :: _ => p.char
  | [] => endMark

/-- The text after the next character. -/
def next (s : Source) : Source := s.tail

/-- The character after the next one. -/
def peek2 (s : Source) : Char := s.next.peek

/-- Where the next character stands. -/
def here : Source → Place
  | p :: _ => p
  | [] => ⟨endMark, 0, 0, 0⟩

/-- Drops the characters that satisfy `p`. -/
def skip (p : Char → Bool) (s : Source) : Source := s.dropWhile fun place => p place.char

/-- The characters in front that satisfy `p`. -/
def leading (p : Char → Bool) (s : Source) : List Char :=
  (s.takeWhile fun place => p place.char).map Place.char

/-- Whether three of the same sign, at the start of a line, mark where a document starts or ends. -/
def atMarker (sign : Char) : Source → Bool
  | a :: b :: c :: rest =>
    a.column == 0 && a.char == sign && b.char == sign && c.char == sign && endsWord (peek rest)
  | _ => false

/-- Whether a document starts or ends here. -/
def atDocumentMarker (s : Source) : Bool := s.atMarker '-' || s.atMarker '.'

/-- Goes over what may follow at the end of a line: blanks, a comment and the line break. -/
def finishLine (s : Source) : Except Fault Source :=
  let s := s.skip isBlank
  let s := if s.peek == '#' then s.skip (!endsLine ·) else s
  if isBreak s.peek then .ok s.next
  else if s.peek == endMark then .ok s
  else .error .badToken

/-- Places characters from the given position on. -/
def place (index line column : Nat) (placed : List Place) : List Char → Source
  | [] => (⟨endMark, index, line, column⟩ :: placed).reverse
  | '\r' :: '\n' :: rest =>
    place (index + 2) (line + 1) 0 (⟨'\n', index, line, column⟩ :: placed) rest
  | c :: rest =>
    let next := index + c.utf8Size
    let c := if c = '\r' ∨ c = '\u0085' then '\n' else c
    let placed := ⟨c, index, line, column⟩ :: placed
    if isBreak c then place next (line + 1) 0 placed rest
    else place next line (column + 1) placed rest

/-- A text with positions. -/
def ofChars (cs : List Char) : Source := place 0 0 0 [] cs

end Source

/-- How many bytes of the text are checked at a time. Characters are not divided. -/
def pieceSize : Nat := 16384

/-- The part of the text in front of the piece with the first character that is not allowed. `bytes`
is how much of the present piece was read, `kept` what is before it and `read` what was read at all,
both in reverse. -/
def readablePart (bytes : Nat) (kept read : List Char) : List Char → Option (List Char)
  | [] => none
  | c :: rest =>
    let fits := bytes + c.utf8Size ≤ pieceSize
    let bytes := if fits then bytes + c.utf8Size else c.utf8Size
    let kept := if fits then kept else read
    if isAllowed c then readablePart bytes kept (c :: read) rest else some kept.reverse

end KubeHcl.Yaml
