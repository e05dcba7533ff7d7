import KubeHcl.Resource
import KubeHcl.Sha512
import KubeHcl.Unicode.Properties

/-!
# Names of declarations

A resource is declared under a name that is readable, valid and unique: its kind, the name it was
loaded with and a fingerprint of the identity it was loaded with. Rewriting a resource does not
rename it.
-/

namespace KubeHcl.Naming

/-- Whether a character may stand anywhere in a name, also in front. -/
def isNameStart (c : Char) : Bool := c == '_' || Unicode.isIdentifierStart c

/-- Whether a character is kept after the first place of a name. -/
def isNamePart (c : Char) : Bool := isNameStart c || Unicode.isIdentifierContinue c

/-- A character of a name, or a dash in place of one that no name has. -/
def sanitizeChar (c : Char) : Char := if isNamePart c then c else '-'

/-- Makes any text a valid name. An underscore goes in front of a first character that may not stand
there, and characters that no name has become dashes. -/
def sanitize : List Char → List Char
  | [] => []
  | c :: cs =>
    if isNameStart c then (c :: cs).map sanitizeChar else '_' :: (c :: cs).map sanitizeChar

/-- Whether a character may stand in a name after its first one. -/
def isValidPart (c : Char) : Bool := c == '-' || Unicode.isIdentifierContinue c

/-- Whether the text is a valid name: a letter or an underscore, then letters, digits, underscores
and dashes. -/
def IsValid : List Char → Prop
  | [] => False
  | c :: cs => isNameStart c ∧ ∀ d ∈ cs, isValidPart d

instance : DecidablePred IsValid
  | [] => instDecidableFalse
  | c :: cs =>
    @instDecidableAnd (isNameStart c) (∀ d ∈ cs, isValidPart d) inferInstance
      (List.decidableBAll _ cs)

/-- Makes any text a valid name of an attribute. An underscore goes in front of a first character
that may not stand there, and takes the place of characters that no name has. -/
def attributeName : List Char → List Char
  | [] => ['_']
  | c :: cs =>
    let first := if isNameStart c then [c] else if isValidPart c then ['_', c] else ['_']
    first ++ cs.map fun d => if isValidPart d then d else '_'

/-- How many digits of the fingerprint a name has. -/
def fingerprintLength : Nat := 7

/-- The fingerprint of an identity. -/
def fingerprint (id : Identity) : List Char := (Sha512.hexDigest id.text).take fingerprintLength

/-- The name of a resource before it is made valid. -/
def rawName (r : Resource) : List Char :=
  r.kind.toList ++ '_' :: r.originalName.toList ++ '_' :: fingerprint r.origin

/-- The name under which a resource is declared. -/
def identifier (r : Resource) : String := String.ofList (sanitize (rawName r))

end KubeHcl.Naming
