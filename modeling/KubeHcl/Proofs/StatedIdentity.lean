import KubeHcl.Proofs.Additions
import KubeHcl.Proofs.CurrentIdentities

/-!
# Stated identities

The identity that a resource has is held beside the document that states it, and the identity it was
loaded with beside both. Nothing that can be done with a collection lets the three drift apart, and
nothing renames a resource after it was added.
-/

namespace KubeHcl

namespace Resource.Consistent

variable {r : Resource}

/-- Reading the document again gives a resource with the identity that the resource has now. -/
theorem ofTree_tree (hr : r.Consistent) : ∃ s, ofTree r.tree = .ok s ∧ s.id = r.id := by
  refine ⟨⟨r.id, r.id, r.fields⟩, ?_, rfl⟩
  simp only [tree, ofTree, hr.stated]
  rfl

/-- The identity a resource was loaded with and the one it has differ in the namespace at most. -/
theorem same_parts (hr : r.Consistent) :
    r.origin.group = r.id.group ∧ r.origin.version = r.id.version ∧
      r.origin.kind = r.id.kind ∧ r.origin.name = r.id.name := by
  rw [hr.origin_eq]
  exact ⟨rfl, rfl, rfl, rfl⟩

end Resource.Consistent

/-- The resource of a change of namespace is moved into the namespace called like the token. -/
theorem resource_of_resolveNamespace {config : Config} {c : Collection} {r : Resource}
    {change : NamespaceChange} (hchange : resolveNamespace config c r = some change) :
    change.resource = r.withNamespace change.token.wrapped := by
  unfold resolveNamespace at hchange
  split at hchange
  · cases hchange
  · split at hchange
    · cases hchange
    · obtain rfl := Option.some.inj hchange
      rfl

namespace Collection

variable {c : Collection}

/-- The resources that a collection holds, and those that can be made of them without changing it.
-/
inductive Gives (c : Collection) : Resource → Prop
  | held {r : Resource} (hmem : r ∈ c.resources) : Gives c r
  | moved {r : Resource} (ns : String) (hr : Gives c r) : Gives c (r.withNamespace ns)
  | resolved {config : Config} {r : Resource} {change : NamespaceChange} (hr : Gives c r)
      (hchange : resolveNamespace config c r = some change) : Gives c change.resource
  | extracted {r : Resource} {change : TextChange} (hr : Gives c r)
      (hchange : extractText r = .ok (some change)) : Gives c change.resource

/-- What is made of resources that can be had can itself be had. -/
theorem Gives.obtainable {r : Resource} (hgives : c.Gives r)
    (hall : ∀ r ∈ c.resources, r.Obtainable) : r.Obtainable := by
  induction hgives with
  | held hmem => exact hall _ hmem
  | moved ns _ ih => exact ih.withNamespace ns
  | resolved _ hchange ih =>
    rw [resource_of_resolveNamespace hchange]
    exact ih.withNamespace _
  | extracted _ hchange ih => exact ih.extracted hchange

end Collection

namespace Operation

/-- A run goes on from where its first operations led. -/
theorem performAll_append (c : Collection) (operations more : List Operation) :
    (performAll c (operations ++ more)).2 = (performAll (performAll c operations).2 more).2 := by
  induction operations generalizing c with
  | nil => rfl
  | cons operation rest ih => exact ih (operation.perform c).2

/-- Whatever a run does, a position keeps the identity that its resource was loaded with, and the
name that it is declared under. -/
theorem performAll_keeps_name {c : Collection} (operations : List Operation) {index : Nat}
    {r : Resource} (hget : c.get? index = some r) :
    ∃ r', (performAll c operations).2.get? index = some r' ∧ r'.origin = r.origin ∧
      Naming.identifier r' = Naming.identifier r := by
  -- Every position is related to the resource that was added there, here to the one at the start.
  have hrelated : List.Forall₂ (fun r₀ r : Resource => r.origin = r₀.origin ∧
      Naming.identifier r = Naming.identifier r₀) (c.resources ++ added c operations)
      (performAll c operations).2.resources := by
    apply added_related
    · exact fun _ _ => ⟨rfl, rfl⟩
    · rintro r₀ r r' ⟨horigin, hname⟩ h
      exact ⟨h.origin_eq.trans horigin, h.identifier_eq.trans hname⟩
    · exact List.forall₂_same.mpr fun _ _ => ⟨rfl, rfl⟩
  have hbefore : (c.resources ++ added c operations)[index]? = some r := by
    rw [List.getElem?_append_left (Collection.lt_size_of_get? hget)]
    exact hget
  exact forall₂_getElem? hrelated.flip hbefore

/-- Along every run, whether its operations fail or not, each resource that the collection holds or
gives states the identity it has, and differs from what was loaded in the namespace at most. From
then to the end of the run its position keeps what it was loaded with and is not renamed. -/
theorem identities_stated {operations more : List Operation} {c c' : Collection}
    (hsound : ∀ operation ∈ operations, operation.Sound)
    (hrun : (performAll {} operations).2 = c)
    (hend : (performAll {} (operations ++ more)).2 = c') :
    (∀ r, c.Gives r → (∃ s, Resource.ofTree r.tree = .ok s ∧ s.id = r.id) ∧
      r.origin.group = r.id.group ∧ r.origin.version = r.id.version ∧
      r.origin.kind = r.id.kind ∧ r.origin.name = r.id.name) ∧
    ∀ index r, c.get? index = some r → ∃ r', c'.get? index = some r' ∧
      r'.origin = r.origin ∧ Naming.identifier r' = Naming.identifier r := by
  have hreachable : c.Reachable := ⟨operations, hsound, hrun⟩
  constructor
  · intro r hgives
    have hconsistent := (hgives.obtainable hreachable.obtainable).consistent
    exact ⟨hconsistent.ofTree_tree, hconsistent.same_parts⟩
  · intro index r hget
    rw [← hend, performAll_append, hrun]
    exact performAll_keeps_name more hget

/-- A run that ends in a conflict: the resource at the first position is moved into the namespace
that its copy has already. -/
def conflictingRun : List Operation :=
  let token := (Token.ofNamespace "acme").wrapped
  [.insert .settings, .insertCopy 0 token, .insert .acme, .insertCopy 1 "test", .rewrite {} 0]

/-- The conflict is reported after the resource was stored under its new identity, which its
document states as well, and rendering everything after that neither undoes this nor renames a
resource. -/
theorem conflictingRun_identities_stated :
    (performAll {} conflictingRun).1.map isConflict = [false, false, false, false, true] ∧
      (∃ r, (performAll {} conflictingRun).2.get? 0 = some r ∧
        r.id.ns = (Token.ofNamespace "acme").wrapped ∧
        (∃ s, Resource.ofTree r.tree = .ok s ∧ s.id = r.id) ∧ r.origin.ns = "acme" ∧
        ∃ r', (performAll {} (conflictingRun ++ [.renderAll {}])).2.get? 0 = some r' ∧
          Naming.identifier r' = Naming.identifier r) := by
  have hsound : ∀ operation ∈ conflictingRun, operation.Sound := by
    simp only [conflictingRun, List.mem_cons, List.not_mem_nil, or_false, forall_eq_or_imp,
      forall_eq, Sound, true_and, and_true]
    exact ⟨.ofTree (t := Resource.settings.tree) rfl, .ofTree (t := Resource.acme.tree) rfl⟩
  have hrun : (performAll {} conflictingRun).1.map isConflict = [false, false, false, false, true] ∧
      ((performAll {} conflictingRun).2.get? 0).map (fun r => (r.id.ns, r.origin.ns)) =
        some ((Token.ofNamespace "acme").wrapped, "acme") := by
    decide +kernel
  obtain ⟨hresults, hfirst⟩ := hrun
  obtain ⟨r, hget, hns⟩ := Option.map_eq_some_iff.mp hfirst
  obtain ⟨hid, horigin⟩ := Prod.mk.inj hns
  obtain ⟨hstated, hkept⟩ := identities_stated hsound rfl
    (rfl : (performAll {} (conflictingRun ++ [.renderAll {}])).2 = _)
  obtain ⟨r', hget', -, hname⟩ := hkept 0 r hget
  have hmem : r ∈ (performAll {} conflictingRun).2.resources := List.mem_of_getElem? hget
  exact ⟨hresults, r, hget, hid, (hstated r (.held hmem)).1, horigin, r', hget', hname⟩

end Operation

end KubeHcl
