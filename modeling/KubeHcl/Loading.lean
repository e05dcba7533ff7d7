import KubeHcl.Task
import KubeHcl.Yaml.Document

/-!
# Loading resources

The documents of a stream become resources of a collection, one after the other and up to the first
that cannot be one. Documents that are null are passed over.
-/

namespace KubeHcl

/-- Adds a resource. -/
def insertResource (r : Resource) : Task LoadError Unit := do
  Task.setCollection (← MonadExcept.ofExcept ((← Task.collection).insert r))

/-- Adds the resource that a document describes; `number` is how many documents of the stream are
before it. -/
def insertDocument (source : Option String) (number : Nat) (t : Tree) : Task LoadError Unit :=
  match t with
  | .null => pure ()
  | t =>
    match Resource.ofTree t with
    | .error cause => throw (.invalidResource source number cause)
    | .ok r => do
      Job.note (.loadedResource r.id)
      insertResource r

/-- Adds the resources of documents, the first of which has the number `number`. Reading one may
have failed, for whatever reason. -/
def insertDocuments {ε : Type} (source : Option String) :
    (number : Nat) → List (Except ε Tree) → Task LoadError Unit
  | _, [] => pure ()
  | _, .error _ :: _ => throw (.yaml source)
  | number, .ok t :: rest => do
    insertDocument source number t
    insertDocuments source (number + 1) rest

/-- Adds the resources of a text. -/
def insertYaml (source : Option String) (text : String) : Task LoadError Unit :=
  insertDocuments source 0 (Yaml.documents text)

end KubeHcl
