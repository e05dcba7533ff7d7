import KubeHcl.Run

/-!
# The program

The system as a host, and the entry point. Paths are seen from a work directory that the program
keeps itself.
-/

namespace KubeHcl

/-- The reason that has a number. Some operations give its negative. -/
def FileError.ofNumber? (number : UInt32) : Option FileError :=
  match min number (0 - number) with
  | 20 => some .notADirectory
  | 21 => some .isADirectory
  | 36 => some .nameTooLong
  | 40 => some .tooManyLinks
  | _ => none

/-- The reason for which the system refused an operation. -/
def FileError.ofSystem (e : IO.Error) : FileError :=
  match e with
  | .noFileOrDirectory .. => .notFound
  | .alreadyExists .. => .alreadyExists
  | .inappropriateType _ n _ | .invalidArgument _ n _ | .resourceExhausted _ n _ =>
    (ofNumber? n).getD (.other (toString e))
  | e => .other (toString e)

/-- The kind of a file of the system. -/
def FileKind.ofSystem : IO.FS.FileType → FileKind
  | .dir => .directory
  | .file => .file
  | .symlink => .link
  | .other => .other

/-- The system, seen from a work directory. -/
abbrev SystemHost := StateT String IO

namespace SystemHost

/-- An operation at a path. -/
def atPath {α : Type} (path : String) (operation : String → IO α) :
    SystemHost (Except FileError α) := do
  let workDirectory ← get
  if path.isEmpty then return .error .notFound
  if path.toList.contains '\x00' then return .error .badPath
  let place := if Path.isAbsolute path then path else Path.join workDirectory path
  try return .ok (← operation place) catch e => return .error (.ofSystem e)

/-- Bytes as text. -/
def asText : Except FileError ByteArray → Except FileError String
  | .ok contents => FileSystem.textOf contents
  | .error e => .error e

/-- An operation that needs something at a path. If it fails, opening the path tells the reason. -/
def explained {α : Type} (place : String) (operation : IO α) : IO α :=
  try operation
  catch e => do
    discard (IO.FS.readBinFile place)
    throw e

/-- What a path leads to. -/
def kind (path : String) : SystemHost (Except FileError FileKind) :=
  atPath path fun place =>
    return .ofSystem (← (← explained place (IO.FS.realPath place)).metadata).type

/-- Makes a directory the work directory. -/
def enter (path : String) : SystemHost (Except FileError Unit) := do
  match ← kind path with
  | .ok .directory =>
    modify fun workDirectory => if Path.isAbsolute path then path else Path.join workDirectory path
    return .ok ()
  | .ok _ => return .error .notADirectory
  | .error e => return .error e

instance : Host SystemHost where
  kind := kind
  resolve path := atPath path fun place =>
    return (← explained place (IO.FS.realPath place)).toString
  list path := atPath path fun place => do
    let entries ← (← IO.FS.realPath place).readDir
    entries.toList.mapM fun entry =>
      return (entry.fileName, .ofSystem (← entry.path.symlinkMetadata).type)
  readText path := asText <$> atPath path fun place => IO.FS.readBinFile place
  makeDirectory path := atPath path fun place => IO.FS.createDir place
  writeText path text := atPath path fun place => IO.FS.writeFile place text
  enter := enter
  readInput := do
    try return FileSystem.textOf (← (← IO.getStdin).readBinToEnd)
    catch e => return .error (.ofSystem e)

end SystemHost

end KubeHcl

open KubeHcl in
/-- Runs the program and shows what it ends with. -/
def main (arguments : List String) : IO UInt32 := do
  let filter ← IO.getEnv "KUSTOMIZE2HCL_LOG"
  let workDirectory := (← IO.currentDir).toString
  let (outcome, _) ← (Outcome.ofArguments (m := SystemHost) arguments).run workDirectory
  IO.print outcome.answer
  for line in outcome.lines filter do
    IO.eprintln line
  return outcome.exitCode
