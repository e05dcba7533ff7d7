import KubeHcl.Entries
import KubeHcl.FileError
import KubeHcl.Path

/-!
# A file system

Files, directories and links by the names that lead to them from the root. A path is walked name by
name, and links on the way are followed. Names are texts: a name on a disk may also be bytes that
are those of no text, and what has such a name is not expressed here.
-/

namespace KubeHcl

/-- The names that lead from the root to a place. -/
abbrev Names := List String

/-- What may be at a place. -/
inductive FileSystem.Node where
  | file (contents : ByteArray)
  | directory
  /-- A link to another path, which need not lead to anything. -/
  | link (target : String)

/-- The places other than the root and what is there. The root is a directory. -/
structure FileSystem where
  places : List (Names × FileSystem.Node) := []

/-- The kind of what is at a place. -/
inductive FileKind where
  | file | directory | link
  /-- Something else, such as a device. -/
  | other
  deriving DecidableEq, Repr

namespace FileSystem

/-- What kind of node a node is. -/
def Node.kind : Node → FileKind
  | file _ => .file
  | directory => .directory
  | link _ => .link

/-- What is at a place. -/
def get? (fs : FileSystem) (place : Names) : Option Node :=
  if place.isEmpty then some .directory else Entries.find? place fs.places

/-- The file system with something put at a place. -/
def put (fs : FileSystem) (place : Names) (n : Node) : FileSystem :=
  ⟨Entries.insert place n fs.places⟩

/-- How many bytes a name may have. -/
def nameLimit : Nat := 255

/-- How many bytes a path has to have less than to be looked up as a whole. -/
def pathLimit : Nat := 4096

/-- How many links are followed on one path. -/
def linkLimit : Nat := 40

/-- Where a walk gets without following a link: to its end, or to a link and the names after it. -/
inductive Progress where
  | arrived (place : Names)
  | atLink (directory : Names) (target : String) (rest : List String)

/-- Goes from a place through names, up to the first link that has to be followed. The last name may
lead to a link if `followLast` does not hold, and to a vacant place. -/
def descend (fs : FileSystem) (followLast : Bool) (here : Names) :
    List String → Except FileError Progress
  | [] => .ok (.arrived here)
  | name :: rest =>
    match fs.get? here with
    | none => .error .notFound
    | some (.file _) | some (.link _) => .error .notADirectory
    | some .directory =>
      if name = "." then descend fs followLast here rest
      else if name = ".." then descend fs followLast here.dropLast rest
      else if nameLimit < name.utf8ByteSize then .error .nameTooLong
      else
        match fs.get? (here ++ [name]) with
        | some (.link target) =>
          if rest.isEmpty && !followLast then .ok (.arrived (here ++ [name]))
          else .ok (.atLink here target rest)
        | _ => descend fs followLast (here ++ [name]) rest

/-- The names to walk for a path. One that ends with a slash has to lead to a directory. -/
def namesToWalk (path : String) : List String :=
  Path.names path ++ if Path.endsWithSlash path then ["."] else []

/-- The place that names lead to from a place, following at most `links` links. How to get up to the
first link is given. -/
def walkBy (descend : Names → List String → Except FileError Progress) (here : Names)
    (names : List String) : (links : Nat) → Except FileError Names
  | 0 => do
    match ← descend here names with
    | .arrived place => pure place
    | .atLink .. => throw .tooManyLinks
  | links + 1 => do
    match ← descend here names with
    | .arrived place => pure place
    | .atLink directory target rest =>
      walkBy descend (if Path.isAbsolute target then [] else directory)
        (namesToWalk target ++ rest) links

/-- The place that names lead to from a place, following at most `links` links. -/
def walk (fs : FileSystem) (followLast : Bool) (here : Names) (names : List String)
    (links : Nat) : Except FileError Names :=
  walkBy (fs.descend followLast) here names links

/-- Refuses what cannot be a path: nothing, or text with the character NUL. -/
def checkPath (path : String) : Except FileError Unit :=
  if path.isEmpty then .error .notFound
  else if path.toList.contains '\x00' then .error .badPath
  else .ok ()

/-- Where a path begins, seen from a work directory. -/
def startOf (workDirectory : Names) (path : String) : Names :=
  if Path.isAbsolute path then [] else workDirectory

/-- A place and what is there. -/
def present (fs : FileSystem) (place : Names) : Except FileError (Names × Node) :=
  match fs.get? place with
  | some n => .ok (place, n)
  | none => .error .notFound

/-- The place that a path leads to, seen from a work directory. There may be nothing there. -/
def locate (fs : FileSystem) (workDirectory : Names) (followLast : Bool) (path : String)
    (names : List String) : Except FileError Names := do
  checkPath path
  if pathLimit ≤ path.utf8ByteSize then throw .nameTooLong
  fs.walk followLast (startOf workDirectory path) names linkLimit

/-- The place that a path leads to, and what is there. -/
def find (fs : FileSystem) (workDirectory : Names) (path : String) :
    Except FileError (Names × Node) := do
  fs.present (← fs.locate workDirectory true path (namesToWalk path))

/-- Whether a place is that of a link. -/
def isLink (fs : FileSystem) (place : Names) : Bool := (fs.get? place).map Node.kind == some .link

/-- Whether what stands before names has to be a directory even before any of them is looked up in
it. -/
def needDirectory (names : List String) : Bool :=
  match names.dropWhile (· = ".") with
  | [] => !names.isEmpty
  | name :: _ => name = ".."

/-- Whether the next name that is looked up from a place is out of reach: its path from the root is
too long. If it has to be a directory for the names behind it and is no link, a slash is added. From
a vacant place none is looked up. -/
def outOfReach (fs : FileSystem) (here : Names) (names : List String) : Bool :=
  match names.dropWhile (· = ".") with
  | [] => false
  | name :: rest =>
    let place := here ++ [name]
    let slash := needDirectory rest && !fs.isLink place
    (fs.get? here).isSome && name ≠ ".." &&
      pathLimit ≤ (Path.ofNames place).utf8ByteSize + slash.toNat

/-- Goes from a place through names, up to the first link. Each name is looked up by its path from
the root. -/
def descendByPath (fs : FileSystem) (here : Names) : List String → Except FileError Progress
  | [] => .ok (.arrived here)
  | name :: rest =>
    if fs.outOfReach here (name :: rest) then .error .nameTooLong
    else do
      match ← fs.descend true here [name] with
      | .arrived place => descendByPath fs place rest
      | .atLink directory target left => pure (.atLink directory target (left ++ rest))

/-- The place that a path leads to, and what is there. The path may be of any length, but each place
on the way is looked up by its own path from the root. -/
def resolve (fs : FileSystem) (workDirectory : Names) (path : String) :
    Except FileError (Names × Node) := do
  checkPath path
  fs.present (← walkBy fs.descendByPath (startOf workDirectory path) (namesToWalk path) linkLimit)

/-- The names in a directory and their kinds. -/
def children (fs : FileSystem) (directory : Names) : List (String × FileKind) :=
  fs.places.filterMap fun (place, n) =>
    if place.dropLast = directory then place.getLast?.map (·, n.kind) else none

/-- The names in the directory that a path leads to, and their kinds. -/
def list (fs : FileSystem) (workDirectory : Names) (path : String) :
    Except FileError (List (String × FileKind)) := do
  match ← fs.find workDirectory path with
  | (place, .directory) => pure (fs.children place)
  | _ => throw .notADirectory

/-- The contents of a file as text. -/
def textOf (contents : ByteArray) : Except FileError String :=
  match String.fromUTF8? contents with
  | some text => .ok text
  | none => .error .notText

/-- The text of the file that a path leads to. -/
def readText (fs : FileSystem) (workDirectory : Names) (path : String) :
    Except FileError String := do
  match ← fs.find workDirectory path with
  | (_, .file contents) => textOf contents
  | _ => throw .isADirectory

/-- The file system with a new directory. -/
def makeDirectory (fs : FileSystem) (workDirectory : Names) (path : String) :
    Except FileError FileSystem := do
  let place ← fs.locate workDirectory false path (Path.names path)
  match fs.get? place with
  | some _ => throw .alreadyExists
  | none => pure (fs.put place .directory)

/-- The file system with a text as the contents of a file, new or not. -/
def writeText (fs : FileSystem) (workDirectory : Names) (path text : String) :
    Except FileError FileSystem := do
  let place ← fs.locate workDirectory true path (namesToWalk path)
  match fs.get? place with
  | some .directory => throw .isADirectory
  | _ => pure (fs.put place (.file text.toUTF8))

end FileSystem

end KubeHcl
