import KubeHcl.CommandLine
import KubeHcl.Input
import KubeHcl.Output

/-!
# A run of the program

Directories are entered, the input is loaded and the declarations are written. What a run ends with
is its exit code, the notices that it gave and the lines that report what went wrong.
-/

namespace KubeHcl

/-- Why a run failed. -/
inductive RunError where
  /-- There is no such directory to enter. -/
  | unknownDirectory (directory : String) (cause : FileError)
  /-- A directory could not be entered. -/
  | closedDirectory (place : String) (cause : FileError)
  /-- The standard input could not be read. -/
  | input (cause : FileError)
  | load (cause : LoadError)
  | write (cause : WriteError)
  deriving DecidableEq, Repr

/-- What went wrong and why, a line for each. -/
def RunError.lines : RunError → List String
  | unknownDirectory directory cause => ["-C/--directory " ++ directory, cause.message]
  | closedDirectory place cause => ["changing work directory to " ++ place, cause.message]
  | input cause => ["reading stdin", cause.message]
  | load e =>
    match e with
    | .io _ cause => [e.message, cause.message]
    | .invalidResource _ _ cause => [e.message, cause.message]
    | e => [e.message]
  | write e =>
    match e with
    | .io _ cause => [e.message, cause.message]
    | e => [e.message]

variable {m : Type → Type} [Monad m] [Host m]

/-- Enters directories, each seen from the one before. -/
def enterDirectories : List String → Job m RunError Unit
  | [] => pure ()
  | directory :: rest => do
    let place ← Job.attempt (.unknownDirectory directory) (Host.resolve directory)
    Job.attempt (.closedDirectory place) (Host.enter place)
    Job.note (.changedDirectory place)
    enterDirectories rest

/-- Fills the empty collection from a path or the standard input. -/
def loadInput (input : String) : Job m RunError Unit := do
  if Path.isDash input then
    let text ← Job.attempt .input Host.readInput
    Job.ofTask .load (insertYaml none text)
  else ExceptT.adapt .load (load input)

/-- Turns the resources of an input into declarations. -/
def convert (directories : List String) (input output : String) (config : Config) :
    Job m RunError Unit := do
  enterDirectories directories
  loadInput input
  Job.note (.loadedResources (← get).collection.size)
  ExceptT.adapt .write (write config output)

/-- What a run ends with. -/
structure Outcome where
  exitCode : UInt32
  /-- The answer to what was asked about the program itself. -/
  answer : String := ""
  /-- The notices in order. -/
  notices : List Notice := []
  /-- What went wrong. -/
  errors : List String := []

/-- Does what is asked for. -/
def Outcome.ofRequest : CommandLine.Request → m Outcome
  | .help => pure { exitCode := 0, answer := CommandLine.usage }
  | .version => pure { exitCode := 0, answer := CommandLine.version }
  | .convert directories input output config => do
    let (result, ledger) ← (convert directories input output config).run.run {}
    match result with
    | .ok () => pure { exitCode := 0, notices := ledger.notices }
    | .error e => pure { exitCode := 1, notices := ledger.notices, errors := e.lines }

/-- Runs the program with the given arguments. -/
def Outcome.ofArguments (arguments : List String) : m Outcome :=
  match CommandLine.parse arguments with
  | none => pure { exitCode := 2, errors := [CommandLine.usage] }
  | some request => ofRequest request

/-- The lines that a run shows: the notices that the filter lets through, and what went wrong.
Without a filter only errors are noticed, and there are no such notices. -/
def Outcome.lines (filter : Option String) (outcome : Outcome) : List String :=
  let directives := Notice.Directive.ofFilter (filter.getD "")
  (outcome.notices.filter (Notice.isShown directives)).map Notice.line ++ outcome.errors

end KubeHcl
