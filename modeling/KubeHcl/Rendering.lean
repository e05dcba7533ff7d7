import KubeHcl.Hcl.Layout
import KubeHcl.Json.Reader
import KubeHcl.Rewriting
import KubeHcl.Substitution

/-!
# Rendering declarations

Each resource of a collection becomes a file with one declaration, and two more files hold the
provider's declarations and the (empty) variables. Resources are rewritten in the collection one
after the other.
-/

namespace KubeHcl

open Hcl (Expression)

/-- How deep the collections of a document may be nested. -/
def depthLimit : Nat := 127

/-- A document as it is after being written and read. -/
def normalize (r : Resource) : Except Json.Fault Tree :=
  Json.read depthLimit (Json.write r.tree)

namespace Renderable

/-- The expression of the rewritten document, tokens included. -/
def literal (x : Renderable) : Except TransformError Expression :=
  match normalize x.resource with
  | .ok tree => .ok (.ofTree tree)
  | .error _ => .error (.normalize x.identifier)

/-- The expression of the document, with placeholders in place of tokens. -/
def manifest (x : Renderable) : Except TransformError Expression :=
  x.literal.map x.placeholders.substitute

/-- What is noticed when placeholders are put in place of tokens, if there are any. -/
def notices (x : Renderable) : List Notice :=
  match x.literal with
  | .ok e =>
    if x.placeholders.isEmpty then [] else (x.placeholders.unrecorded e).map .unrecordedToken
  | .error _ => []

/-- The declaration of a rewritten resource. -/
def declaration (config : Config) (x : Renderable) : Except TransformError Hcl.Body := do
  let manifest ← x.manifest
  if config.AliasValid then
    let name := String.ofList (Naming.attributeName config.manifestAttribute.toList)
    pure [.block (.mk "resource" [config.resourceType, x.identifier]
      [.attribute "provider" (.variable config.providerAlias), .attribute name manifest])]
  else throw (.formatting x.identifier)

/-- The text of the declaration. -/
def render (config : Config) (x : Renderable) : Except TransformError String :=
  (x.declaration config).map Hcl.Body.toText

end Renderable

/-- The name of the file with the provider's declarations. -/
def mainStem : String := "_main"

/-- The name of the file for variables. -/
def variablesStem : String := "_variables"

/-- The requirement and the configuration of the provider. -/
def mainDeclarations (config : Config) : Hcl.Body :=
  let requirement : Expression := .object
    [(.variable "source", .text config.providerSource),
     (.variable "version", .text config.providerVersion)]
  [.block (.mk "terraform" []
      [.block (.mk "required_providers" [] [.attribute config.providerAlias requirement])]),
   .block (.mk "provider" [config.providerAlias]
      [.attribute "config_path" (.text config.configPath)])]

/-- The text of the provider's declarations. The provider needs a valid name. -/
def renderMain (config : Config) : Except TransformError String :=
  if config.AliasValid then .ok (mainDeclarations config).toText
  else .error (.formatting mainStem)

/-- Files by name, without extension, in order. -/
abbrev Files := List (String × String)

/-- Renders the resource at a position to a further file. -/
def renderOne (config : Config) (files : Files) (index : Nat) : Task TransformError Files := do
  let x ← rewrite config index
  Job.noteAll x.notices
  let text ← MonadExcept.ofExcept (x.render config)
  Job.note (.renderedDeclaration x.identifier x.placeholders.length)
  if (Entries.find? x.identifier files).isSome then throw (.identifierCollision x.identifier)
  pure (files ++ [(x.identifier, text)])

/-- Renders the resources at the given positions in turn. -/
def renderEach (config : Config) : List Nat → Files → Task TransformError Files
  | [], files => pure files
  | index :: rest, files => do renderEach config rest (← renderOne config files index)

/-- Renders every resource of the collection. -/
def renderAll (config : Config) : Task TransformError Files := do
  let main ← MonadExcept.ofExcept (renderMain config)
  renderEach config (List.range (← Task.collection).size) [(mainStem, main), (variablesStem, "")]

end KubeHcl
