import KubeHcl.Host
import KubeHcl.Loading

/-!
# Loading files

The input is a file, or a directory whose YAML files are loaded in the order of their names. In
which order the directory lists them makes no difference.
-/

namespace KubeHcl

variable {m : Type → Type} [Monad m] [Host m]

/-- Adds the resources of a file. -/
def loadFile (path : String) : Job m LoadError Unit := do
  let place ← Job.attempt (.io path) (Host.resolve path)
  Job.note (.loadingFile place)
  let text ← Job.attempt (.io place) (Host.readText place)
  Job.ofTask id (insertYaml (some place) text)

/-- Whether a name in a directory is that of a file to load. Links are not followed. -/
def isYamlFile (name : String) (kind : FileKind) : Bool :=
  kind = .file && [some "yaml", some "yml"].contains (Path.extension? name)

/-- The names of the files to load among those in a directory, in order. -/
def yamlFiles (entries : List (String × FileKind)) : List String :=
  ((entries.filter fun (name, kind) => isYamlFile name kind).map Prod.fst).mergeSort (· ≤ ·)

/-- Adds the resources of files in a directory, one after the other. -/
def loadFiles (directory : String) : List String → Job m LoadError Unit
  | [] => pure ()
  | name :: rest => do
    loadFile (Path.join directory name)
    loadFiles directory rest

/-- Adds the resources of the YAML files in a directory, but not of those further down. -/
def loadDirectory (path : String) : Job m LoadError Unit := do
  let names := yamlFiles (← Job.attempt (.io path) (Host.list path))
  if names.isEmpty then throw (.noFilesFound path)
  loadFiles path names

/-- Adds the resources of a file, or of the files in a directory. -/
def load (path : String) : Job m LoadError Unit := do
  match ← Host.kind (m := m) path with
  | .ok .directory => loadDirectory path
  | _ => loadFile path

end KubeHcl
