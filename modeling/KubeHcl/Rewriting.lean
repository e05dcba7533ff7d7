import KubeHcl.Config
import KubeHcl.Task

/-!
# Rewriting resources

Two things in a resource are not written as they stand. A namespace that the collection declares
becomes a reference to its declaration, and text of several lines in the data becomes a heredoc.
Both are replaced by tokens in the resource, and what the tokens stand for is handed on for
rendering.
-/

namespace KubeHcl

/-- Why a resource could not be turned into a declaration. -/
inductive TransformError where
  /-- After a change of namespace, not just one resource has the new identity. -/
  | identityConflict (id : Identity) (matching : Nat)
  /-- The data is not a mapping to text. -/
  | malformedField (id : Identity) (field expected found : String)
  /-- Two resources have the same name. -/
  | identifierCollision (identifier : String)
  /-- The document does not survive being written and read. -/
  | normalize (identifier : String)
  /-- The declaration cannot be written. -/
  | formatting (identifier : String)
  /-- There is no resource at the position. -/
  | outOfRange (index : Nat)
  deriving DecidableEq, Repr

/-- The wording of a `TransformError`. -/
def TransformError.message : TransformError → String
  | identityConflict id matching =>
    "Namespace rewrite of " ++ id.text ++
      s!" produces an identity conflict ({matching} resources match)"
  | malformedField id field expected found =>
    s!"Field `{field}` of " ++ id.text ++ s!" is malformed: expected {expected}, found {found}"
  | identifierCollision identifier => s!"Two resources are both named {identifier}"
  | normalize identifier => s!"Unable to normalize {identifier}"
  | formatting identifier => s!"Unable to format {identifier} as hcl"
  | outOfRange index => s!"There is no resource at position {index}"

/-- A namespace replaced by a reference. -/
structure NamespaceChange where
  token : Token
  placeholder : Placeholder
  /-- The resource in the namespace called like the wrapped token. -/
  resource : Resource

/-- The reference to the name of a declared namespace. -/
def namespaceReference (config : Config) (declaration : Resource) : Placeholder :=
  .reference config.resourceType
    [Naming.identifier declaration, config.manifestAttribute, "metadata", "name"]

/-- The change of a resource's namespace into a reference, when it has a namespace and the
collection declares it. -/
def resolveNamespace (config : Config) (c : Collection) (r : Resource) : Option NamespaceChange :=
  if r.ns = "" then none
  else
    match c.find? (.namespaceCalled r.ns) with
    | none => none
    | some declaration =>
      let token := Token.ofNamespace r.ns
      some ⟨token, namespaceReference config declaration, r.withNamespace token.wrapped⟩

/-- Texts in the data replaced by tokens. -/
structure TextChange where
  /-- What the tokens stand for, by key. -/
  placeholders : List (Token × Placeholder)
  resource : Resource

/-- The entries of the data with the texts that fit a heredoc replaced by tokens, and what the
tokens stand for. The first value that is not text is an error. -/
def extractEntries (id : Identity) : List (String × Tree) →
    Except TransformError (List (String × Tree) × List (Token × Placeholder))
  | [] => .ok ([], [])
  | (key, .text text) :: rest => do
    let (entries, placeholders) ← extractEntries id rest
    if Hcl.Heredoc.fits text then
      let token := Token.ofPayload text
      pure ((key, .text token.wrapped) :: entries,
        (token, .block (Hcl.Heredoc.ofText text)) :: placeholders)
    else pure ((key, .text text) :: entries, placeholders)
  | (key, value) :: _ => .error (.malformedField id ("data." ++ key) "a string" value.describe)

/-- The change of the texts in the data into heredocs, when there are any to change. -/
def extractText (r : Resource) : Except TransformError (Option TextChange) :=
  match r.field? "data" with
  | none | some .null => .ok none
  | some (.map data) => do
    let (entries, placeholders) ← extractEntries r.id data
    if placeholders.isEmpty then pure none
    else pure (some ⟨placeholders, r.withField "data" (.map entries)⟩)
  | some other => .error (.malformedField r.id "data" "a mapping" other.describe)

/-- What is noticed about the values of the data up to the first that is not text. -/
def entryNotices (id : Identity) : List (String × Tree) → List Notice
  | (key, .text text) :: rest =>
    (if Hcl.Heredoc.fits text then [.movedText key (Token.ofPayload text) id]
      else if text.toList.any (fun c => c = '\n' ∨ c = '\r') then [.keptQuoted key id]
      else []) ++ entryNotices id rest
  | _ => []

/-- What is noticed about the data of a resource. -/
def textNotices (r : Resource) : List Notice :=
  match r.field? "data" with
  | some (.map data) => entryNotices r.id data
  | _ => []

/-- A rewritten resource with what its tokens stand for. -/
structure Renderable where
  /-- The name it is declared under. -/
  identifier : String
  resource : Resource
  placeholders : Placeholders

/-- Changes the namespace of the resource at a position, if the collection declares it. No other
resource may have the identity it has then. -/
def rewriteNamespace (config : Config) (index : Nat) (r : Resource) :
    Task TransformError (Resource × Placeholders) := do
  match resolveNamespace config (← Task.collection) r with
  | none =>
    if r.ns ≠ "" then Job.note (.namespaceUndeclared r.ns r.id)
    pure (r, [])
  | some change =>
    let c := (← Task.collection).replace index change.resource
    Task.setCollection c
    let matching := (c.matching (· = change.resource.id)).length
    if matching ≠ 1 then throw (.identityConflict change.resource.id matching)
    pure (change.resource, [(change.token, change.placeholder)])

/-- Moves texts of the resource at a position into heredocs. -/
def rewriteText (index : Nat) (r : Resource) (placeholders : Placeholders) :
    Task TransformError (Resource × Placeholders) := do
  Job.noteAll (textNotices r)
  match ← MonadExcept.ofExcept (extractText r) with
  | none => pure (r, placeholders)
  | some change =>
    Task.setCollection ((← Task.collection).replace index change.resource)
    pure (change.resource, placeholders.extend change.placeholders)

/-- Rewrites the resource at a position within the collection. A change that was made before a
failure stays. -/
def rewrite (config : Config) (index : Nat) : Task TransformError Renderable := do
  match (← Task.collection).get? index with
  | none => throw (.outOfRange index)
  | some r =>
    let (moved, recorded) ← rewriteNamespace config index r
    let (rewritten, placeholders) ← rewriteText index moved recorded
    pure ⟨Naming.identifier r, rewritten, placeholders⟩

end KubeHcl
