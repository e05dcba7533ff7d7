import KubeHcl.Proofs.References
import KubeHcl.Proofs.RewriteResult

/-!
# What a file depends on

The file of a resource is rendered from what the resource is rewritten to, and of the rest of the
collection only the reference to its namespace enters there. When all resources are as they were
loaded, that reference is the same in every collection that declares the namespace.
-/

namespace KubeHcl

variable {config : Config} {c c₁ c₂ c' : Collection}

namespace Operation

/-- An operation that only loads: a text, or the resource of a document. -/
def Loads : Operation → Prop
  | load _ _ => True
  | insert r => ∃ t, Resource.ofTree t = .ok r
  | _ => False

/-- What inserting the resources of documents keeps is kept by every operation that only loads. -/
theorem Loads.invariant {P : Collection → Prop} {operation : Operation}
    (hinsert : ∀ {c c' : Collection} {t : Tree} {r : Resource}, P c → Resource.ofTree t = .ok r →
      c.insert r = .ok c' → P c')
    (hloads : operation.Loads) (hc : P c) : P (operation.perform c).2 := by
  cases operation with
  | load source text =>
    have hsteps : DocumentSteps source 0 c (Yaml.documents text) _ _ := insertYaml_steps rfl
    exact hsteps.invariant (fun hc _ => hinsert hc) hc
  | insert r =>
    obtain ⟨t, ht⟩ := hloads
    rcases insertResource_outcome c r with hkept | hinserted
    · simpa only [perform, report, hkept] using hc
    · exact hinsert hc ht hinserted
  | _ => cases hloads

end Operation

namespace Collection

/-- The collections that only loading leads to, whether or not some of it failed. -/
def Loaded (c : Collection) : Prop :=
  ∃ operations : List Operation, (∀ operation ∈ operations, operation.Loads) ∧
    (Operation.performAll {} operations).2 = c

/-- The documents of a collection in order. -/
def documents (c : Collection) : List Tree := c.resources.map Resource.tree

/-- Every resource of a collection that was only loaded is as its document describes it. -/
theorem Loaded.ofTree_tree (hc : c.Loaded) :
    ∀ r ∈ c.resources, Resource.ofTree r.tree = .ok r := by
  obtain ⟨operations, hloads, rfl⟩ := hc
  refine Operation.performAll_invariant
    (fun c => ∀ r ∈ c.resources, Resource.ofTree r.tree = .ok r) (fun _ => True)
    ?_ (fun _ _ => trivial) (by simp)
  intro operation hmem c hc _
  refine (hloads operation hmem).invariant
    (P := fun c => ∀ r ∈ c.resources, Resource.ofTree r.tree = .ok r) ?_ hc
  intro c c' t r hc hresource hinsert s hs
  obtain ⟨-, rfl⟩ := insert_ok hinsert
  rcases List.mem_append.mp hs with hold | hnew
  · exact hc s hold
  · obtain rfl := List.mem_singleton.mp hnew
    obtain ⟨rfl, -⟩ := Resource.ofTree_ok hresource
    exact hresource

/-- In collections that were only loaded, what declares a namespace has the same name. -/
theorem Loaded.identifier_eq (h₁ : c₁.Loaded) (h₂ : c₂.Loaded) {d₁ d₂ : Resource}
    (hd₁ : d₁ ∈ c₁.resources) (hd₂ : d₂ ∈ c₂.resources) (hid : d₁.id = d₂.id) :
    Naming.identifier d₁ = Naming.identifier d₂ := by
  obtain ⟨-, horigin₁, -⟩ := Resource.ofTree_ok (h₁.ofTree_tree d₁ hd₁)
  obtain ⟨-, horigin₂, -⟩ := Resource.ofTree_ok (h₂.ofTree_tree d₂ hd₂)
  simp only [Naming.identifier, Naming.rawName, Resource.kind, Resource.originalName, horigin₁,
    horigin₂, hid]

/-- Collections that were only loaded refer to a namespace alike when both of them or neither
declares it. -/
theorem Loaded.referenceTo_eq (h₁ : c₁.Loaded) (h₂ : c₂.Loaded) {ns : String}
    (hdeclared : (∃ d ∈ c₁.resources, d.id = .namespaceCalled ns) ↔
      ∃ d ∈ c₂.resources, d.id = .namespaceCalled ns) :
    c₁.referenceTo config ns = c₂.referenceTo config ns := by
  have hsome : (c₁.referenceTo config ns).isSome = (c₂.referenceTo config ns).isSome := by
    rw [Bool.eq_iff_iff, referenceTo_isSome_iff, referenceTo_isSome_iff, hdeclared]
  cases hfound₁ : c₁.referenceTo config ns with
  | none =>
    rw [hfound₁] at hsome
    exact (Option.isSome_eq_false_iff.mp hsome.symm |> Option.isNone_iff_eq_none.mp).symm
  | some p₁ =>
    rw [hfound₁] at hsome
    obtain ⟨p₂, hfound₂⟩ := Option.isSome_iff_exists.mp hsome.symm
    obtain ⟨d₁, hd₁, hid₁, rfl⟩ := referenceTo_eq_some hfound₁
    obtain ⟨d₂, hd₂, hid₂, rfl⟩ := referenceTo_eq_some hfound₂
    rw [hfound₂, namespaceReference, namespaceReference,
      h₁.identifier_eq h₂ hd₁ hd₂ (hid₁.trans hid₂.symm)]

/-- While positions are rewritten in turn, references to namespaces stay. -/
theorem referenceTo_rewrittenUpTo (config : Config) (c : Collection) (n : Nat) (ns : String) :
    (c.rewrittenUpTo config n).referenceTo config ns = c.referenceTo config ns := by
  induction n with
  | zero => rfl
  | succ n ih => rw [(c.rewriteStep_rewrittenUpTo config n).referenceTo_eq, ih]

end Collection

/-- What a turn renders is what the resource is rewritten to in the collection from the start. -/
theorem RendersAt.eq_renderable {i : Nat} {x : Renderable} {text : String} {r : Resource}
    (h : RendersAt config c i x text) (hget : c.get? i = some r) : x = c.renderable config r := by
  rw [← Collection.get?_rewrittenUpTo_of_le config (Nat.le_refl i)] at hget
  rw [(h.step.eq_renderable hget).1, Collection.renderable, Collection.referenceTo_rewrittenUpTo,
    Collection.renderable]

/-- The file of a resource has the text of what the resource is rewritten to in the collection from
the start. -/
theorem RenderedUpTo.file {files : Files} {i : Nat} {r : Resource}
    (h : RenderedUpTo config c c.size files) (hget : c.get? i = some r) :
    ∃ text, (c.renderable config r).render config = .ok text ∧
      files[i + 2]? = some (Naming.identifier r, text) := by
  obtain ⟨x, text, hturn, hfile⟩ := h.rendered i (Collection.lt_size_of_get? hget)
  obtain ⟨r', hget', hname⟩ := hturn.named
  obtain rfl := Option.some.inj (hget.symm.trans hget')
  exact ⟨text, hturn.eq_renderable hget ▸ hturn.2, hname ▸ hfile⟩

/-- A file is one of the fixed ones or that of a resource. -/
theorem RenderedUpTo.mem_files {files : Files} (h : RenderedUpTo config c c.size files)
    {file : String × String} (hmem : file ∈ files) :
    file ∈ fixedFiles config ∨ ∃ i r, c.get? i = some r ∧ files[i + 2]? = some file := by
  obtain ⟨k, hk⟩ := List.getElem?_of_mem hmem
  by_cases hfixed : k < 2
  · rw [← List.getElem?_take_of_lt hfixed, h.fixed] at hk
    exact .inl (List.mem_of_getElem? hk)
  · obtain ⟨i, rfl⟩ : ∃ i, k = i + 2 := ⟨k - 2, by omega⟩
    obtain ⟨hlt, -⟩ := List.getElem?_eq_some_iff.mp hk
    rw [h.length_eq] at hlt
    exact .inr ⟨i, _, List.getElem?_eq_getElem (by simpa [Collection.size] using hlt), hk⟩

/-- The files of two collections are the same for a resource that both have and refer to its
namespace alike. -/
theorem RenderedUpTo.same_file {files₁ files₂ : Files} {i j : Nat} {r : Resource}
    (h₁ : RenderedUpTo config c₁ c₁.size files₁) (h₂ : RenderedUpTo config c₂ c₂.size files₂)
    (hget₁ : c₁.get? i = some r) (hget₂ : c₂.get? j = some r)
    (hreference : c₁.referenceTo config r.ns = c₂.referenceTo config r.ns) :
    ∃ text, files₁[i + 2]? = some (Naming.identifier r, text) ∧
      files₂[j + 2]? = some (Naming.identifier r, text) := by
  obtain ⟨text₁, hrender₁, hfile₁⟩ := h₁.file hget₁
  obtain ⟨text₂, hrender₂, hfile₂⟩ := h₂.file hget₂
  rw [Collection.renderable, hreference] at hrender₁
  obtain rfl := Except.ok.inj (hrender₁.symm.trans hrender₂)
  exact ⟨text₁, hfile₁, hfile₂⟩

/-- When collections that were only loaded have the same resources, every file of one is a file of
the other. -/
theorem RenderedUpTo.mem_of_same_resources {files₁ files₂ : Files}
    (h₁ : RenderedUpTo config c₁ c₁.size files₁) (h₂ : RenderedUpTo config c₂ c₂.size files₂)
    (hc₁ : c₁.Loaded) (hc₂ : c₂.Loaded) (hsame : ∀ r, r ∈ c₁.resources ↔ r ∈ c₂.resources)
    {file : String × String} (hmem : file ∈ files₁) : file ∈ files₂ := by
  rcases h₁.mem_files hmem with hfixed | ⟨i, r, hget₁, hfile⟩
  · rw [← h₂.fixed] at hfixed
    exact List.mem_of_mem_take hfixed
  · obtain ⟨j, hget₂⟩ := List.getElem?_of_mem ((hsame r).mp (List.mem_of_getElem? hget₁))
    have hdeclared : (∃ d ∈ c₁.resources, d.id = .namespaceCalled r.ns) ↔
        ∃ d ∈ c₂.resources, d.id = .namespaceCalled r.ns := by
      simp only [hsame]
    obtain ⟨text, hfile₁, hfile₂⟩ :=
      h₁.same_file h₂ hget₁ hget₂ (hc₁.referenceTo_eq hc₂ hdeclared)
    obtain rfl := Option.some.inj (hfile.symm.trans hfile₁)
    exact List.mem_of_getElem? hfile₂

/-- Collections that were only loaded and have the same documents have the same resources. -/
theorem Collection.Loaded.mem_of_documents (h₁ : c₁.Loaded) (h₂ : c₂.Loaded)
    (hdocuments : ∀ t ∈ c₁.documents, t ∈ c₂.documents) {r : Resource} (hr : r ∈ c₁.resources) :
    r ∈ c₂.resources := by
  obtain ⟨s, hs, htree⟩ := List.mem_map.mp (hdocuments r.tree (List.mem_map_of_mem hr))
  have hsame := (h₂.ofTree_tree s hs).symm.trans (htree ▸ h₁.ofTree_tree r hr)
  exact Except.ok.inj hsame ▸ hs

/-- A file depends on its own resource and on whether its namespace is declared, and on nothing else
in the collection: collections that were only loaded render the same text for a resource that both
have, when both of them or neither declares its namespace. So the same documents in another order
are rendered to the same files. -/
theorem file_depends_on_resource_and_declaration {files₁ files₂ : Files} {c₁' c₂' : Collection}
    (h₁ : c₁.Loaded) (h₂ : c₂.Loaded) (hok₁ : (renderAll config).outcome c₁ = (.ok files₁, c₁'))
    (hok₂ : (renderAll config).outcome c₂ = (.ok files₂, c₂')) :
    (∀ i j r, c₁.get? i = some r → c₂.get? j = some r →
      ((∃ d ∈ c₁.resources, d.id = .namespaceCalled r.ns) ↔
        ∃ d ∈ c₂.resources, d.id = .namespaceCalled r.ns) →
      ∃ text, Entries.find? (Naming.identifier r) files₁ = some text ∧
        Entries.find? (Naming.identifier r) files₂ = some text) ∧
      (c₁.documents.Perm c₂.documents → files₁.Perm files₂) := by
  obtain ⟨-, hfiles₁, -⟩ := renderAll_ok hok₁
  obtain ⟨-, hfiles₂, -⟩ := renderAll_ok hok₂
  constructor
  · intro i j r hget₁ hget₂ hdeclared
    obtain ⟨text, hfile₁, hfile₂⟩ :=
      hfiles₁.same_file hfiles₂ hget₁ hget₂ (h₁.referenceTo_eq h₂ hdeclared)
    exact ⟨text, Entries.find?_of_mem hfiles₁.nodup (List.mem_of_getElem? hfile₁),
      Entries.find?_of_mem hfiles₂.nodup (List.mem_of_getElem? hfile₂)⟩
  · intro hperm
    have hsame : ∀ r, r ∈ c₁.resources ↔ r ∈ c₂.resources := by
      intro r
      exact ⟨h₁.mem_of_documents h₂ fun t => hperm.mem_iff.mp,
        h₂.mem_of_documents h₁ fun t => hperm.mem_iff.mpr⟩
    refine (List.perm_ext_iff_of_nodup hfiles₁.nodup.of_map hfiles₂.nodup.of_map).mpr fun file => ?_
    exact ⟨hfiles₁.mem_of_same_resources hfiles₂ h₁ h₂ hsame,
      hfiles₂.mem_of_same_resources hfiles₁ h₂ h₁ fun r => (hsame r).symm⟩

/-- The small collection in the other order. -/
def Collection.declarationFirst : Collection := ⟨[.acme, .settings]⟩

/-- In either order the two resources of the small collection are rendered to the same files, and
the text of the resource in the namespace is the same. -/
theorem memberFirst_same_files :
    ∃ files₁ files₂ c₁' c₂', (renderAll {}).outcome .memberFirst = (.ok files₁, c₁') ∧
      (renderAll {}).outcome .declarationFirst = (.ok files₂, c₂') ∧ files₁.Perm files₂ ∧
      ∃ text, Entries.find? (Naming.identifier .settings) files₁ = some text ∧
        Entries.find? (Naming.identifier .settings) files₂ = some text := by
  have hloads : ∀ r ∈ [Resource.settings, .acme], (Operation.insert r).Loads := by
    simp only [List.mem_cons, List.not_mem_nil, or_false, forall_eq_or_imp, forall_eq]
    exact ⟨⟨Resource.settings.tree, rfl⟩, ⟨Resource.acme.tree, rfl⟩⟩
  have hloaded₁ : Collection.memberFirst.Loaded :=
    ⟨[.insert .settings, .insert .acme], by simpa using hloads, rfl⟩
  have hloaded₂ : Collection.declarationFirst.Loaded :=
    ⟨[.insert .acme, .insert .settings], by simpa [and_comm] using hloads, rfl⟩
  obtain ⟨files₁, c₁', hout₁⟩ := Task.exists_of_isOk memberFirst_renders
  obtain ⟨files₂, c₂', hout₂⟩ :
      ∃ files c', (renderAll {}).outcome .declarationFirst = (.ok files, c') :=
    Task.exists_of_isOk (by decide +kernel)
  obtain ⟨hsame, hperm⟩ := file_depends_on_resource_and_declaration hloaded₁ hloaded₂ hout₁ hout₂
  have hdocuments : Collection.memberFirst.documents.Perm Collection.declarationFirst.documents :=
    .swap _ _ []
  have hdeclared : (∃ d ∈ Collection.memberFirst.resources, d.id = .namespaceCalled "acme") ↔
      ∃ d ∈ Collection.declarationFirst.resources, d.id = .namespaceCalled "acme" :=
    iff_of_true ⟨.acme, by simp [Collection.memberFirst], rfl⟩
      ⟨.acme, by simp [Collection.declarationFirst], rfl⟩
  exact ⟨files₁, files₂, c₁', c₂', hout₁, hout₂, hperm hdocuments,
    hsame 0 1 .settings rfl rfl hdeclared⟩

end KubeHcl
