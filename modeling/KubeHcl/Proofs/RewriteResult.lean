import KubeHcl.Proofs.Recording
import Mathlib.Data.List.Forall2

/-!
# The result of a rewrite

What a successful rewrite gives is settled by the resource and by the reference to its namespace,
and no rewrite changes what any namespace is referred to by. So a rewrite gives the same whatever
was rewritten before it.
-/

namespace KubeHcl

variable {config : Config} {c c' : Collection} {index : Nat}

namespace Collection

/-- The reference to the name of a namespace, if the collection declares it. -/
def referenceTo (config : Config) (c : Collection) (ns : String) : Option Placeholder :=
  if ns = "" then none else (c.find? (.namespaceCalled ns)).map (namespaceReference config)

/-- A namespace has a reference exactly when it is not empty and declared. -/
theorem referenceTo_isSome_iff {ns : String} : (c.referenceTo config ns).isSome = true ↔
    ns ≠ "" ∧ ∃ d ∈ c.resources, d.id = .namespaceCalled ns := by
  by_cases hns : ns = "" <;> simp [referenceTo, hns, find?, List.find?_isSome]

/-- A reference is that to what is found for the namespace. -/
theorem find?_of_referenceTo {ns : String} {placeholder : Placeholder}
    (hfound : c.referenceTo config ns = some placeholder) :
    ∃ d, c.find? (.namespaceCalled ns) = some d ∧ placeholder = namespaceReference config d := by
  unfold referenceTo at hfound
  split at hfound
  · cases hfound
  · obtain ⟨d, hd, rfl⟩ := Option.map_eq_some_iff.mp hfound
    exact ⟨d, hd, rfl⟩

/-- So it is that to a resource which declares the namespace. -/
theorem referenceTo_eq_some {ns : String} {placeholder : Placeholder}
    (hfound : c.referenceTo config ns = some placeholder) :
    ∃ d ∈ c.resources, d.id = .namespaceCalled ns ∧ placeholder = namespaceReference config d := by
  obtain ⟨d, hd, hplaceholder⟩ := find?_of_referenceTo hfound
  obtain ⟨i, hi, hid⟩ := find?_some hd
  exact ⟨d, List.mem_of_getElem? hi, hid, hplaceholder⟩

/-- Collections are the same when they hold the same at every position. -/
theorem ext_get? (hget : ∀ i, c.get? i = c'.get? i) : c = c' := by
  obtain ⟨resources⟩ := c
  obtain ⟨resources'⟩ := c'
  exact congrArg Collection.mk (List.ext_getElem? hget)

end Collection

/-- What a resource is rewritten to when `reference` refers to its namespace. -/
def Resource.renderable (r : Resource) : (reference : Option Placeholder) → Renderable
  | none =>
    ⟨Naming.identifier r, r.movedOut, Placeholders.extend [] (r.payloads.map recordedPayload)⟩
  | some placeholder =>
    ⟨Naming.identifier r, r.referring.movedOut,
      Placeholders.extend [(.ofNamespace r.ns, placeholder)] (r.payloads.map recordedPayload)⟩

/-- What a resource of a collection is rewritten to there. -/
def Collection.renderable (config : Config) (c : Collection) (r : Resource) : Renderable :=
  r.renderable (c.referenceTo config r.ns)

/-- A successful rewrite gives what the resource is rewritten to, and stores the resource of it. -/
theorem RewriteStep.eq_renderable {x : Renderable} {r : Resource}
    (hstep : RewriteStep config c index (.ok x) c') (hget : c.get? index = some r) :
    x = c.renderable config r ∧ c' = c.replace index x.resource := by
  constructor
  · obtain ⟨r', moved, recorded, c₁, hget', hns, hidentifier, hresource, hplaceholders⟩ :=
      hstep.made
    obtain rfl := Option.some.inj (hget.symm.trans hget')
    obtain ⟨identifier, resource, placeholders⟩ := x
    dsimp only at hidentifier hresource hplaceholders
    subst hidentifier hresource hplaceholders
    cases hns with
    | kept hundeclared =>
      have hnone : c.referenceTo config r.ns = none := by
        rcases hundeclared with hns | hnone
        · simp [Collection.referenceTo, hns]
        · simp [Collection.referenceTo, hnone]
      rw [Collection.renderable, hnone, Resource.renderable]
    | @changed declaration hns hdeclared =>
      have hsome : c.referenceTo config r.ns = some (namespaceReference config declaration) := by
        rw [Collection.referenceTo, if_neg hns, hdeclared, Option.map_some]
      rw [Collection.renderable, hsome, Resource.renderable]
  · obtain ⟨-, -, -, hstored⟩ := hstep.stored
    refine Collection.ext_get? fun i => ?_
    rw [Collection.get?_replace]
    by_cases hi : index = i
    · rw [if_pos hi, if_pos (Collection.lt_size_of_get? hget), ← hi, hstored]
    · rw [if_neg hi, hstep.frame.2 i (Ne.symm hi)]

/-- A rewrite leaves at every position something it may make of what was there. -/
theorem RewriteStep.forall₂_rewritten {result : Except TransformError Renderable}
    (hstep : RewriteStep config c index result c') :
    List.Forall₂ Resource.Rewritten c.resources c'.resources := by
  rw [List.forall₂_iff_get]
  refine ⟨hstep.frame.1.symm, fun i hi hi' => ?_⟩
  obtain ⟨r', hget', hrewritten⟩ :=
    hstep.rewritten_everywhere (List.getElem?_eq_getElem hi : c.get? i = _)
  obtain rfl := Option.some.inj ((List.getElem?_eq_getElem hi').symm.trans hget')
  exact hrewritten

/-- What declares a namespace keeps declaring it under the same name, so references to it stay. -/
theorem Resource.map_find?_of_forall₂ {rs rs' : List Resource}
    (hrewritten : List.Forall₂ Resource.Rewritten rs rs') (config : Config) (ns : String) :
    (rs'.find? fun r => r.id = .namespaceCalled ns).map (namespaceReference config) =
      (rs.find? fun r => r.id = .namespaceCalled ns).map (namespaceReference config) := by
  induction hrewritten with
  | nil => rfl
  | @cons r r' rs rs' hfirst _ ih =>
    by_cases hid : r.id = .namespaceCalled ns
    · have hid' := (hfirst.declares_iff ns).mpr hid
      rw [List.find?_cons_of_pos (by simpa using hid'), List.find?_cons_of_pos (by simpa using hid)]
      simp only [Option.map_some, namespaceReference, hfirst.identifier_eq]
    · have hid' : r'.id ≠ .namespaceCalled ns := fun heq => hid ((hfirst.declares_iff ns).mp heq)
      rw [List.find?_cons_of_neg (by simpa using hid'),
        List.find?_cons_of_neg (by simpa using hid), ih]

/-- No rewrite changes what a namespace is referred to by, whatever it is referred to for. -/
theorem RewriteStep.referenceTo_eq {result : Except TransformError Renderable}
    (hstep : RewriteStep config c index result c') (config' : Config) (ns : String) :
    c'.referenceTo config' ns = c.referenceTo config' ns := by
  simp only [Collection.referenceTo, Collection.find?,
    Resource.map_find?_of_forall₂ hstep.forall₂_rewritten]

end KubeHcl
