import KubeHcl.FileSystem

/-!
# What a run needs from outside

The files that a run reads and writes, its work directory and its input. Two hosts are given: the
system that the program runs on, and one whose files are a `FileSystem`.
-/

namespace KubeHcl

/-- Files, a work directory and an input, with the effects of `m`. Paths and names are texts, so a
file whose name on the disk is that of no text has none here. -/
class Host (m : Type → Type) where
  /-- What a path leads to, after all links. -/
  kind (path : String) : m (Except FileError FileKind)
  /-- The path from the root to what a path leads to, without links. The path may be of any length,
  but those to the places on the way may not. -/
  resolve (path : String) : m (Except FileError String)
  /-- The names in a directory in any order, and the kinds of what they are. What has a name that is
  no text is not among them, though a directory on a disk may hold such a file and it would be
  loaded if its extension is right. -/
  list (path : String) : m (Except FileError (List (String × FileKind)))
  /-- The text of a file. -/
  readText (path : String) : m (Except FileError String)
  /-- Makes a directory. -/
  makeDirectory (path : String) : m (Except FileError Unit)
  /-- Writes a text into a file, which need not be there. -/
  writeText (path text : String) : m (Except FileError Unit)
  /-- Makes a directory the work directory. -/
  enter (path : String) : m (Except FileError Unit)
  /-- The text of the standard input. -/
  readInput : m (Except FileError String)

/-- A file system with a work directory in it, and an input. -/
structure World where
  files : FileSystem := {}
  workDirectory : Names := []
  input : ByteArray := .empty

namespace World

/-- Replaces the files if that does not fail. -/
def update (change : World → Except FileError FileSystem) :
    StateM World (Except FileError Unit) :=
  modifyGet fun w =>
    match change w with
    | .ok files => (.ok (), { w with files })
    | .error e => (.error e, w)

/-- Makes a directory the work directory, if it is one. -/
def enter (path : String) (w : World) : Except FileError Unit × World :=
  match w.files.find w.workDirectory path with
  | .ok (place, .directory) => (.ok (), { w with workDirectory := place })
  | .ok _ => (.error .notADirectory, w)
  | .error e => (.error e, w)

instance : Host (StateM World) where
  kind path := return ((← get).files.find (← get).workDirectory path).map (·.2.kind)
  resolve path := return ((← get).files.resolve (← get).workDirectory path).map (Path.ofNames ·.1)
  list path := return (← get).files.list (← get).workDirectory path
  readText path := return (← get).files.readText (← get).workDirectory path
  makeDirectory path := update fun w => w.files.makeDirectory w.workDirectory path
  writeText path text := update fun w => w.files.writeText w.workDirectory path text
  enter path := modifyGet (enter path)
  readInput := return FileSystem.textOf (← get).input

end World

end KubeHcl
