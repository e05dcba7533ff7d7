import KubeHcl.Proofs.Outcome
import KubeHcl.Rendering

/-!
# Declarations of rewritten resources

A rewritten resource is declared when its document survives being written and read and the alias of
the provider is valid. Its declaration is one block then, whose manifest is the document with
placeholders in place of tokens.
-/

namespace KubeHcl.Renderable

open Hcl (Expression)

variable {config : Config} {x : Renderable}

/-- The block that declares a resource with the given manifest. -/
def block (config : Config) (x : Renderable) (manifest : Expression) : Hcl.Body :=
  let name := String.ofList (Naming.attributeName config.manifestAttribute.toList)
  [.block (.mk "resource" [config.resourceType, x.identifier]
    [.attribute "provider" (.variable config.providerAlias), .attribute name manifest])]

/-- Different manifests make different blocks. -/
theorem block_inj {e e' : Expression} (heq : x.block config e = x.block config e') : e = e' := by
  simpa [block] using heq

/-- A manifest is the document as it was read, with placeholders in place of tokens. -/
theorem manifest_ok {manifest : Expression} (hok : x.manifest = .ok manifest) :
    ∃ tree, normalize x.resource = .ok tree ∧
      manifest = x.placeholders.substitute (.ofTree tree) := by
  unfold Renderable.manifest literal at hok
  cases hnormal : normalize x.resource with
  | error e =>
    rw [hnormal] at hok
    cases hok
  | ok tree =>
    rw [hnormal] at hok
    cases hok
    exact ⟨tree, rfl, rfl⟩

/-- There is no manifest only when the document cannot be read. -/
theorem manifest_error {e : TransformError} (herror : x.manifest = .error e) :
    e = .normalize x.identifier := by
  unfold Renderable.manifest literal at herror
  cases hnormal : normalize x.resource with
  | error fault =>
    rw [hnormal] at herror
    cases herror
    rfl
  | ok tree =>
    rw [hnormal] at herror
    cases herror

/-- A declaration is the block with the manifest, and the alias is valid. -/
theorem declaration_ok {body : Hcl.Body} (hok : x.declaration config = .ok body) :
    config.AliasValid ∧ ∃ manifest, x.manifest = .ok manifest ∧ body = x.block config manifest := by
  obtain ⟨manifest, hmanifest, hok⟩ := bind_eq_ok hok
  split at hok
  · next hvalid =>
    cases hok
    exact ⟨hvalid, manifest, hmanifest, rfl⟩
  · cases hok

/-- What can keep a resource from being declared. -/
theorem declaration_error {e : TransformError} (herror : x.declaration config = .error e) :
    e = .normalize x.identifier ∨ e = .formatting x.identifier := by
  rcases bind_eq_error herror with hmanifest | ⟨manifest, -, herror⟩
  · exact .inl (manifest_error hmanifest)
  · split at herror
    · cases herror
    · cases herror
      exact .inr rfl

/-- What is rendered is the text of the declaration. -/
theorem render_ok {text : String} (hok : x.render config = .ok text) :
    ∃ body, x.declaration config = .ok body ∧ text = body.toText := by
  unfold render at hok
  cases hbody : x.declaration config with
  | error e =>
    rw [hbody] at hok
    cases hok
  | ok body =>
    rw [hbody] at hok
    cases hok
    exact ⟨body, rfl, rfl⟩

/-- Rendering fails as the declaration does. -/
theorem render_error {e : TransformError} (herror : x.render config = .error e) :
    x.declaration config = .error e := by
  unfold render at herror
  cases hbody : x.declaration config with
  | error e' =>
    rw [hbody] at herror
    cases herror
    rfl
  | ok body =>
    rw [hbody] at herror
    cases herror

end KubeHcl.Renderable

namespace KubeHcl

/-- A resource that is seen to be rewritten and declared. -/
theorem exists_declaration {config : Config} {c : Collection} {index : Nat}
    (hok : (((rewrite config index).outcome c).1.bind (·.declaration config)).isOk = true) :
    ∃ x c' body, (rewrite config index).outcome c = (.ok x, c') ∧
      x.declaration config = .ok body := by
  rcases hrewrite : (rewrite config index).outcome c with ⟨result, c'⟩
  rw [hrewrite] at hok
  cases result with
  | error e => cases hok
  | ok x =>
    rcases hdeclaration : x.declaration config with e | body
    · simp only [Except.bind, hdeclaration] at hok
      cases hok
    · exact ⟨x, c', body, rfl, hdeclaration⟩

end KubeHcl
