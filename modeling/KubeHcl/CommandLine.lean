import KubeHcl.Config

/-!
# The command line

Two paths and some options, which may stand anywhere and have values. A value is the next argument,
or follows an equals sign. After a double dash all arguments are paths.
-/

namespace KubeHcl.CommandLine

/-- An option that takes a value. -/
inductive Setting where
  /-- A directory to enter. This one may be repeated. -/
  | directory
  | providerSource
  | providerVersion
  | configPath
  deriving DecidableEq, Repr

/-- The arguments read so far. -/
structure Arguments where
  /-- The paths, the last one first. -/
  paths : List String := []
  /-- The options with their values, the last one first. -/
  settings : List (Setting × String) := []

/-- What is asked for. -/
inductive Request where
  | convert (directories : List String) (input output : String) (config : Config)
  | help
  | version

/-- What an argument is on its own. -/
inductive Argument where
  | path
  | setting (s : Setting) (value : Option String)
  | answer (r : Request)
  | unknown

/-- The option of a long name. -/
def Setting.ofName? : String → Option Setting
  | "directory" => some directory
  | "provider-source" => some providerSource
  | "provider-version" => some providerVersion
  | "config-path" => some configPath
  | _ => none

/-- What a long name means, with the value that is joined to it. -/
def Argument.ofLong (name : String) (value : Option String) : Argument :=
  match Setting.ofName? name, name, value with
  | some s, _, value => .setting s value
  | none, "help", none => .answer .help
  | none, "version", none => .answer .version
  | _, _, _ => .unknown

/-- What an argument means. A single dash is a path. -/
def Argument.ofText (text : String) : Argument :=
  match text.toList with
  | '-' :: '-' :: long =>
    let name := String.ofList (long.takeWhile (· ≠ '='))
    match long.dropWhile (· ≠ '=') with
    | _ :: value => ofLong name (some (String.ofList value))
    | [] => ofLong name none
  | ['-', 'C'] => .setting .directory none
  | '-' :: 'C' :: '=' :: value => .setting .directory (some (String.ofList value))
  | '-' :: 'C' :: value => .setting .directory (some (String.ofList value))
  | '-' :: 'h' :: _ => .answer .help
  | '-' :: 'V' :: _ => .answer .version
  | '-' :: _ :: _ => .unknown
  | _ => .path

/-- Whether an argument may be the value of the option before it. -/
def isValue (text : String) : Bool := text == "-" || text.toList.head? != some '-'

namespace Arguments

/-- Adds a path. There are two, and neither is empty. -/
def addPath (a : Arguments) (path : String) : Option Arguments :=
  if path.isEmpty || 2 ≤ a.paths.length then none else some { a with paths := path :: a.paths }

/-- Adds an option. -/
def addSetting (a : Arguments) (s : Setting) (value : String) : Option Arguments :=
  let isWrong := if s = .directory then value.isEmpty else (Entries.find? s a.settings).isSome
  if isWrong then none else some { a with settings := (s, value) :: a.settings }

/-- What the arguments ask for, if none is missing. -/
def request (a : Arguments) : Option Request :=
  match a.paths with
  | [output, input] =>
    let directories := a.settings.reverse.filterMap fun (s, value) =>
      if s = .directory then some value else none
    let config : Config := {}
    some (.convert directories input output
      { config with
        providerSource := (Entries.find? .providerSource a.settings).getD config.providerSource
        providerVersion := (Entries.find? .providerVersion a.settings).getD config.providerVersion
        configPath := (Entries.find? .configPath a.settings).getD config.configPath })
  | _ => none

end Arguments

/-- Reads arguments, after those in `a`. A request for help counts before anything that is wrong
after it. -/
def parseFrom (a : Arguments) : List String → Option Request
  | [] => a.request
  | text :: rest =>
    if text = "--" then do (← rest.foldlM Arguments.addPath a).request
    else
      match Argument.ofText text with
      | .path => do parseFrom (← a.addPath text) rest
      | .setting s (some value) => do parseFrom (← a.addSetting s value) rest
      | .setting s none =>
        match rest with
        | value :: rest =>
          if isValue value then do parseFrom (← a.addSetting s value) rest else none
        | [] => none
      | .answer r => some r
      | .unknown => none

/-- Reads the arguments, unless they are not as they have to be. -/
def parse (arguments : List String) : Option Request := parseFrom {} arguments

/-- How the program is called. -/
def usage : String :=
  "Usage: kustomize2hcl [OPTIONS] <INPUT> <OUTPUT>\n\n" ++
  "Arguments:\n" ++
  "  <INPUT>   A YAML file, a directory of YAML files, or - for the standard input\n" ++
  "  <OUTPUT>  The directory to write to, which is empty or does not exist\n\n" ++
  "Options:\n" ++
  "  -C, --directory <DIRECTORY>   Change the work directory first (may be repeated)\n" ++
  "      --provider-source <TEXT>  Source of the required provider\n" ++
  "      --provider-version <TEXT> Versions of the required provider\n" ++
  "      --config-path <PATH>      Configuration that the provider uses\n" ++
  "  -h, --help                    Print help\n" ++
  "  -V, --version                 Print version\n"

/-- The name of the program and its version. -/
def version : String := "kustomize2hcl 0.1.0\n"

end KubeHcl.CommandLine
