import KubeHcl.Placeholder
import KubeHcl.Resource
import KubeHcl.Unicode.Shapes

/-!
# Notices

What a run reports about its progress, each at a level and from a place in the program, and the
filter that decides which of them are shown.
-/

namespace KubeHcl

/-- How important a notice is, or how much detail is asked for. -/
inductive Level where
  | off | error | warn | info | debug | trace
  deriving DecidableEq, Repr

namespace Level

/-- How much detail a level asks for. -/
def detail : Level → Nat
  | off => 0
  | error => 1
  | warn => 2
  | info => 3
  | debug => 4
  | trace => 5

/-- The name of a level, right-aligned in five characters. -/
def label : Level → String
  | off => "  OFF"
  | error => "ERROR"
  | warn => " WARN"
  | info => " INFO"
  | debug => "DEBUG"
  | trace => "TRACE"

/-- The level of a name, in any case. -/
def ofName? (name : String) : Option Level :=
  match name.toLower with
  | "off" => some off
  | "error" => some error
  | "warn" => some warn
  | "info" => some info
  | "debug" => some debug
  | "trace" => some trace
  | _ => none

end Level

/-- Something that happened. -/
inductive Notice where
  | changedDirectory (path : String)
  | loadingFile (path : String)
  | loadedResource (id : Identity)
  | loadedResources (count : Nat)
  | namespaceUndeclared (ns : String) (id : Identity)
  | keptQuoted (key : String) (id : Identity)
  | movedText (key : String) (token : Token) (id : Identity)
  | unrecordedToken (token : Token)
  | renderedDeclaration (identifier : String) (placeholders : Nat)
  | createdDirectory (path : String)
  | wroteDeclarations (path : String) (files : Nat)
  deriving DecidableEq, Repr

namespace Notice

/-- The level of a notice. -/
def level : Notice → Level
  | changedDirectory _ | renderedDeclaration .. => .debug
  | loadingFile _ | loadedResources _ | createdDirectory _ | wroteDeclarations .. => .info
  | loadedResource _ | namespaceUndeclared .. | keptQuoted .. | movedText .. | unrecordedToken _ =>
    .trace

/-- The place a notice comes from. -/
def target : Notice → String
  | changedDirectory _ | loadedResources _ => "kustomize2hcl"
  | loadingFile _ | loadedResource _ => "kustomize2hcl::resource"
  | namespaceUndeclared .. | keptQuoted .. | movedText .. => "kustomize2hcl::rewrite"
  | unrecordedToken _ => "kustomize2hcl::util"
  | renderedDeclaration .. | createdDirectory _ | wroteDeclarations .. => "kustomize2hcl::writer"

/-- What a notice says. -/
def message : Notice → String
  | changedDirectory _ => "changed work directory"
  | loadingFile _ => "loading file"
  | loadedResource _ => "loaded resource"
  | loadedResources _ => "loaded resources"
  | namespaceUndeclared .. => "namespace is not declared, keeping literal"
  | keptQuoted .. => "keeping multi-line value quoted"
  | movedText .. => "moving multi-line value into heredoc"
  | unrecordedToken _ => "no placeholder recorded, keeping literal"
  | renderedDeclaration .. => "rendered declaration"
  | createdDirectory _ => "created output directory"
  | wroteDeclarations .. => "wrote declarations"

/-- A character of a quoted field. One without a shape is written by name or by number. -/
def quotedChar (c : Char) : List Char :=
  match c with
  | '"' => ['\\', '"']
  | '\\' => ['\\', '\\']
  | '\n' => ['\\', 'n']
  | '\r' => ['\\', 'r']
  | '\t' => ['\\', 't']
  | '\x00' => ['\\', '0']
  | c =>
    if Unicode.hasShape c then [c]
    else ['\\', 'u', '\x7b'] ++ Nat.toDigits 16 c.toNat ++ ['\x7d']

/-- A text field in quotes. -/
def quoted (text : String) : String :=
  String.ofList ('"' :: text.toList.flatMap quotedChar ++ ['"'])

/-- The fields of a notice, name and value. -/
def fields : Notice → List (String × String)
  | changedDirectory path => [("directory", path)]
  | loadingFile path => [("path", path)]
  | loadedResource id => [("id", id.text)]
  | loadedResources count => [("resources", toString count)]
  | namespaceUndeclared ns id => [("namespace", quoted ns), ("id", id.text)]
  | keptQuoted key id => [("key", key), ("id", id.text)]
  | movedText key token id => [("key", key), ("token", token.text), ("id", id.text)]
  | unrecordedToken token => [("token", quoted token.text)]
  | renderedDeclaration identifier placeholders =>
    [("identifier", identifier), ("placeholders", toString placeholders)]
  | createdDirectory path => [("path", path)]
  | wroteDeclarations path files => [("path", path), ("files", toString files)]

/-- The line in which a notice is shown. -/
def line (n : Notice) : String :=
  n.level.label ++ " " ++ n.target ++ ": " ++ n.message ++
    String.join (n.fields.map fun (name, value) => " " ++ name ++ "=" ++ value)

/-- Which detail is asked for from the places whose name begins with `target`. -/
structure Directive where
  target : String
  level : Level

/-- One entry of a filter: a level for all places, a place and its level, or a place of which
everything is shown. -/
def Directive.ofEntry? (entry : String) : Option Directive :=
  match entry.splitOn "=" with
  | [target, level] => (Level.ofName? level).map (⟨target, ·⟩)
  | [word] => some ((Level.ofName? word).elim ⟨word, .trace⟩ (⟨"", ·⟩))
  | _ => none

/-- The directives of a filter, which are separated by commas. -/
def Directive.ofFilter (filter : String) : List Directive :=
  (filter.splitOn ",").filterMap fun entry => if entry.isEmpty then none else ofEntry? entry

/-- The directive that counts for a place: the one with the longest name, and of those the last.
Without any, only errors are shown. -/
def levelFor (directives : List Directive) (target : String) : Level :=
  if directives.isEmpty then .error
  else
    (directives.foldl
      (fun (best : Option Directive) d =>
        if d.target.toList.isPrefixOf target.toList then
          match best with
          | some b => if b.target.length ≤ d.target.length then some d else best
          | none => some d
        else best) none).elim .off Directive.level

/-- Whether a notice is shown. -/
def isShown (directives : List Directive) (n : Notice) : Bool :=
  n.level.detail ≤ (levelFor directives n.target).detail

end Notice

end KubeHcl
