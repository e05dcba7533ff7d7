import KubeHcl.Identity
import KubeHcl.Tree

/-!
# Resources

A resource is a document with an API version, a kind and a name. It knows the identity it was loaded
with and the one it has now, which changes together with the namespace in its document.
-/

namespace KubeHcl

/-- Why a document is not a resource. -/
inductive ResourceError where
  /-- It is not a mapping. -/
  | notAMapping
  /-- A field is absent or null. -/
  | missingField (field : String)
  /-- A field is something else than text. -/
  | notAString (field : String)
  deriving DecidableEq, Repr

/-- The wording of a `ResourceError`. -/
def ResourceError.message : ResourceError → String
  | notAMapping => "document is not a mapping"
  | missingField field => s!"missing field `{field}`"
  | notAString field => s!"field `{field}` is not a string"

/-- A resource: its document, and its identity when it was loaded and now. -/
structure Resource where
  /-- The identity the resource was loaded with. -/
  origin : Identity
  /-- The identity the resource has now. -/
  id : Identity
  /-- The entries of its document. -/
  fields : List (String × Tree)

namespace Resource

/-- Text that has to be there; `field` is its name in an error. -/
def requiredText (field : String) : Option Tree → Except ResourceError String
  | none | some .null => .error (.missingField field)
  | some (.text text) => .ok text
  | some _ => .error (.notAString field)

/-- The namespace in the metadata, which may be absent or null. -/
def namespaceText (metadata : List (String × Tree)) : Except ResourceError String :=
  match Entries.find? "namespace" metadata with
  | none | some .null => .ok ""
  | some (.text ns) => .ok ns
  | some _ => .error (.notAString "metadata.namespace")

/-- The identity that a document states. The first field that is not as it has to be is reported, in
the order API version, kind, metadata, name and namespace. -/
def statedIdentity (fields : List (String × Tree)) : Except ResourceError Identity := do
  let apiVersion ← requiredText "apiVersion" (Entries.find? "apiVersion" fields)
  let kind ← requiredText "kind" (Entries.find? "kind" fields)
  match Entries.find? "metadata" fields with
  | some (.map metadata) =>
    let name ← requiredText "metadata.name" (Entries.find? "name" metadata)
    let ns ← namespaceText metadata
    pure (.ofApiVersion apiVersion kind ns name)
  | _ => throw (.missingField "metadata")

/-- The resource that a document describes. -/
def ofTree : Tree → Except ResourceError Resource
  | .map fields => do
    let id ← statedIdentity fields
    pure ⟨id, id, fields⟩
  | _ => throw .notAMapping

/-- The document. -/
def tree (r : Resource) : Tree := .map r.fields

/-- The kind. -/
def kind (r : Resource) : String := r.id.kind

/-- The name the resource was loaded with. -/
def originalName (r : Resource) : String := r.origin.name

/-- The namespace the resource is in now. -/
def ns (r : Resource) : String := r.id.ns

/-- A field at the top of the document. -/
def field? (r : Resource) (key : String) : Option Tree := Entries.find? key r.fields

/-- The entries of a document with the namespace in its metadata set. -/
def setNamespace (ns : String) (fields : List (String × Tree)) : List (String × Tree) :=
  match Entries.find? "metadata" fields with
  | some (.map metadata) =>
    Entries.insert "metadata" (.map (Entries.insert "namespace" (.text ns) metadata)) fields
  | _ => fields

/-- The resource moved into another namespace. -/
def withNamespace (r : Resource) (ns : String) : Resource :=
  { r with id := r.id.withNamespace ns, fields := setNamespace ns r.fields }

/-- The resource with one field of its document set. The fields that make up the identity are not to
be set this way. -/
def withField (r : Resource) (key : String) (value : Tree) : Resource :=
  { r with fields := Entries.insert key value r.fields }

@[simp] theorem withNamespace_origin (r : Resource) (ns : String) :
    (r.withNamespace ns).origin = r.origin := rfl

@[simp] theorem withNamespace_id (r : Resource) (ns : String) :
    (r.withNamespace ns).id = r.id.withNamespace ns := rfl

@[simp] theorem withField_origin (r : Resource) (key : String) (value : Tree) :
    (r.withField key value).origin = r.origin := rfl

@[simp] theorem withField_id (r : Resource) (key : String) (value : Tree) :
    (r.withField key value).id = r.id := rfl

end Resource

end KubeHcl
