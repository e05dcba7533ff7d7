/-!
# Tags

A tag says of what type a node is. It is a list of bytes and not text, as escapes may write bytes
that make up no character.
-/

namespace KubeHcl.Yaml

/-- A tag, none of whose bytes is NUL. -/
structure Tag where
  bytes : List UInt8
  deriving DecidableEq, Repr

namespace Tag

/-- A tag that is written by bytes. It ends in front of the first NUL. -/
def ofBytes (bytes : List UInt8) : Tag := ⟨bytes.takeWhile (· ≠ 0)⟩

/-- A tag that is written by text. -/
def ofText (text : String) : Tag := ofBytes (text.toList.flatMap String.utf8EncodeChar)

/-- A tag that continues another one. -/
def append (t u : Tag) : Tag := ⟨t.bytes ++ u.bytes⟩

instance : Append Tag := ⟨append⟩

/-- What the tags of the standard schema begin with. -/
def standard : Tag := ofText "tag:yaml.org,2002:"

/-- The sign of a tag, which is a tag itself. -/
def sign : Tag := ofText "!"

/-- What follows the sign in a tag that begins with it. -/
def afterSign? (t : Tag) : Option (List UInt8) :=
  match t.bytes with
  | 0x21 :: rest => some rest
  | _ => none

/-- Whether a tag is the name of a type of an application, for which a data tree has no place. -/
def isLocal (t : Tag) : Bool :=
  t.afterSign?.any fun rest => (String.fromUTF8? ⟨rest.toArray⟩).isSome

end Tag

end KubeHcl.Yaml
