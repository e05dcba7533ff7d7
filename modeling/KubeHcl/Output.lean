import KubeHcl.Host
import KubeHcl.Rendering

/-!
# Writing declarations

The declarations of a collection go into a directory that is empty or does not exist yet. All of
them are rendered before the first file is written. If a file cannot be written, those before it
stay.
-/

namespace KubeHcl

/-- Why the declarations were not written. -/
inductive WriteError where
  /-- The path leads to something else than a directory. -/
  | notADirectory (path : String)
  /-- The directory has something in it. -/
  | notEmpty (path : String)
  /-- An operation on a file or directory failed. -/
  | io (path : String) (cause : FileError)
  /-- A resource could not be turned into a declaration. -/
  | transform (cause : TransformError)
  deriving DecidableEq, Repr

/-- The wording of a `WriteError`. -/
def WriteError.message : WriteError → String
  | notADirectory path => "'" ++ path ++ "', must be a directory"
  | notEmpty path => "'" ++ path ++ "', must be empty"
  | io path _ => "IO error for " ++ path
  | transform cause => cause.message

variable {m : Type → Type} [Monad m] [Host m]

/-- Makes a directory; one that is there already will do. -/
def ensureDirectory (path : String) : m (Except FileError Unit) := do
  match ← Host.makeDirectory path with
  | .ok () => pure (.ok ())
  | .error e =>
    match ← Host.kind path with
    | .ok .directory => pure (.ok ())
    | _ => pure (.error e)

/-- Makes a directory and those that have to be there for it, which are `parents`, the innermost
first. An empty path asks for none. -/
def makeDirectories (path : String) : (parents : List String) → m (Except FileError Unit)
  | [] => if path.isEmpty then pure (.ok ()) else ensureDirectory path
  | parent :: outer => do
    match ← ensureDirectory path with
    | .error .notFound =>
      match ← makeDirectories parent outer with
      | .error e => pure (.error e)
      | .ok () => ensureDirectory path
    | result => pure result

/-- Makes the output directory unless it exists. One that exists has to be empty. -/
def prepareDirectory (path : String) : Job m WriteError Unit := do
  match ← Host.kind (m := m) path with
  | .ok .directory =>
    let entries ← Job.attempt (.io path) (Host.list path)
    if !entries.isEmpty then throw (.notEmpty path)
  | .ok _ => throw (.notADirectory path)
  | .error .notFound =>
    Job.attempt (.io path) (makeDirectories path (Path.parents path))
    Job.note (.createdDirectory path)
  | .error e => throw (.io path e)

/-- The extension of the files that are written. -/
def fileExtension : String := "tf"

/-- Writes files into a directory, one after the other. -/
def writeFiles (directory : String) : Files → Job m WriteError Unit
  | [] => pure ()
  | (stem, text) :: rest => do
    let path := Path.join directory (stem ++ "." ++ fileExtension)
    Job.attempt (.io path) (Host.writeText path text)
    writeFiles directory rest

/-- Renders the collection into a directory. -/
def write (config : Config) (path : String) : Job m WriteError Unit := do
  prepareDirectory path
  let files ← Job.ofTask .transform (renderAll config)
  writeFiles path files
  Job.note (.wroteDeclarations path files.length)

end KubeHcl
