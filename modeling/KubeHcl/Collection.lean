import KubeHcl.FileError
import KubeHcl.Resource

/-!
# Collections of resources

Resources in the order they were loaded. A resource is only added when no other has its identity
now; positions are stable, and the resource at a position may be replaced by what it was rewritten
to.
-/

namespace KubeHcl

/-- Why loading stopped. A source is the path of a file, or none for the standard input. -/
inductive LoadError where
  /-- The directory has no file to load. -/
  | noFilesFound (directory : String)
  /-- A file could not be read. -/
  | io (path : String) (cause : FileError)
  /-- A document is not YAML. -/
  | yaml (source : Option String)
  /-- A document is not a resource. -/
  | invalidResource (source : Option String) (document : Nat) (cause : ResourceError)
  /-- A resource has the identity of one that is there already. -/
  | duplicateResource (id : Identity)
  deriving DecidableEq, Repr

namespace LoadError

/-- How a source is called. -/
def sourceName (source : Option String) : String := source.getD "<stdin>"

/-- The wording of a `LoadError`. -/
def message : LoadError → String
  | noFilesFound directory => s!"No yaml files found in directory {directory}"
  | io path _ => s!"IO error for {path}"
  | yaml source => "Unable to parse yaml from " ++ sourceName source
  | invalidResource source document _ =>
    s!"Invalid resource in document {document} of " ++ sourceName source
  | duplicateResource id => "Duplicate resource " ++ id.text

end LoadError

/-- Resources in order. -/
structure Collection where
  resources : List Resource := []

namespace Collection

/-- The number of resources. -/
def size (c : Collection) : Nat := c.resources.length

/-- Whether there are no resources. -/
def isEmpty (c : Collection) : Bool := c.resources.isEmpty

/-- The resource at a position. -/
def get? (c : Collection) (index : Nat) : Option Resource := c.resources[index]?

/-- The resource whose identity is `id` now. -/
def find? (c : Collection) (id : Identity) : Option Resource :=
  c.resources.find? fun r => r.id = id

/-- The resources whose identity satisfies `p` now. -/
def matching (c : Collection) (p : Identity → Bool) : List Resource :=
  c.resources.filter fun r => p r.id

/-- Adds a resource at the end, unless its identity is taken. -/
def insert (c : Collection) (r : Resource) : Except LoadError Collection :=
  if (c.find? r.id).isSome then .error (.duplicateResource r.id)
  else .ok ⟨c.resources ++ [r]⟩

/-- Replaces the resource at a position. -/
def replace (c : Collection) (index : Nat) (r : Resource) : Collection :=
  ⟨c.resources.set index r⟩

@[simp] theorem size_replace (c : Collection) (index : Nat) (r : Resource) :
    (c.replace index r).size = c.size := by
  simp [replace, size]

theorem get?_replace (c : Collection) (index other : Nat) (r : Resource) :
    (c.replace index r).get? other =
      if index = other then (if index < c.size then some r else none) else c.get? other := by
  simp only [replace, get?, size, List.getElem?_set]
  split <;> simp_all

end Collection

end KubeHcl
