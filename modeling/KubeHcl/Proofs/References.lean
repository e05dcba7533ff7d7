import KubeHcl.Proofs.Recording
import KubeHcl.Proofs.RenderedFiles

/-!
# References between declarations

A reference is recorded from the collection as one turn finds it, and the declaration it goes to is
rendered in another turn. In between no turn renames a resource, makes a declaration of a namespace
or unmakes one, so the reference arrives, and what it arrives at has no namespace to refer to.
-/

namespace KubeHcl

variable {config : Config} {c c' : Collection}

namespace Naming

/-- A valid name is not changed to be that of an attribute. -/
theorem attributeName_of_isValid {cs : List Char} (hvalid : IsValid cs) :
    attributeName cs = cs := by
  cases cs with
  | nil => cases hvalid
  | cons first rest =>
    obtain ⟨hfirst, hrest⟩ := hvalid
    have hkept : ∀ d ∈ rest, (if isValidPart d then d else '_') = d := by
      intro d hd
      rw [if_pos (hrest d hd)]
    simp only [attributeName, hfirst, if_true, List.map_congr_left hkept, List.map_id',
      List.cons_append, List.nil_append]

end Naming

namespace Collection

/-- When every resource can be had, it stays so while positions are rewritten in turn. -/
theorem obtainable_rewrittenUpTo (config : Config) (hc : ∀ r ∈ c.resources, r.Obtainable)
    (n : Nat) : ∀ r ∈ (c.rewrittenUpTo config n).resources, r.Obtainable := by
  induction n with
  | zero => exact hc
  | succ n ih =>
    intro r' hmem
    obtain ⟨r, hr, hrewritten⟩ := mem_of_rewriteStep (c.rewriteStep_rewrittenUpTo config n) hmem
    exact hrewritten.obtainable (ih r hr)

end Collection

namespace RendersAt

variable {i j : Nat} {y : Renderable} {s : String}

/-- What a turn renders is what its position holds afterwards. -/
theorem stored (hy : RendersAt config c j y s) {n : Nat} (hlt : j < n) :
    (c.rewrittenUpTo config n).get? j = some y.resource := by
  obtain ⟨-, -, -, hstored⟩ := hy.step.stored
  rw [Collection.get?_rewrittenUpTo_of_lt hlt, hstored]

/-- What a turn renders it makes from what the position held before. -/
theorem rewritten (hy : RendersAt config c j y s) {d : Resource} (hget : c.get? j = some d) :
    d.Rewritten y.resource :=
  Collection.rewritten_rewrittenUpTo config (j + 1) hget (hy.stored (Nat.lt_succ_self j))

/-- Before or after the turn of a position, what stands there has the name it is rendered under, and
declares the namespace that what is rendered declares. -/
theorem standing (hy : RendersAt config c j y s) {d : Resource}
    (hget : (c.rewrittenUpTo config i).get? j = some d) :
    Naming.identifier d = y.identifier ∧
      ∀ ns, y.resource.id = .namespaceCalled ns ↔ d.id = .namespaceCalled ns := by
  obtain ⟨r, hr, hidentifier⟩ := hy.named
  have hrewritten := hy.rewritten hr
  by_cases hlt : j < i
  · rw [hy.stored hlt] at hget
    obtain rfl := Option.some.inj hget
    exact ⟨hrewritten.identifier_eq.trans hidentifier.symm, fun _ => Iff.rfl⟩
  · rw [Collection.get?_rewrittenUpTo_of_le config (by omega)] at hget
    obtain rfl := Option.some.inj (hr.symm.trans hget)
    exact ⟨hidentifier.symm, hrewritten.declares_iff⟩

/-- What declares a namespace is in none, so no reference is recorded for it. -/
theorem no_reference (hy : RendersAt config c j y s) {ns : String}
    (hid : y.resource.id = .namespaceCalled ns) (token : Token) (root : String)
    (path : List String) : (token, .reference root path) ∉ y.placeholders := by
  intro hmem
  obtain ⟨d, -, hget, hne, -, -⟩ := hy.step.reference hmem
  have hdeclares := ((hy.standing hget).2 ns).mp hid
  exact hne (congrArg Identity.ns hdeclares)

end RendersAt

/-- The resource at position `j` of the collection `c'` that rendering left is rendered as the
declaration of the namespace `ns`, and refers to nothing itself. -/
structure DeclaresNamespace (config : Config) (c c' : Collection) (files : Files) (ns : String)
    (j : Nat) (y : Renderable) : Prop where
  /-- It is what is rendered in its turn. -/
  turn : ∃ text, RendersAt config c j y text
  /-- It stays in the collection like this. -/
  stored : c'.get? j = some y.resource
  /-- A file of its name has one block, with the type and the name as labels and the attribute that
  references go through. -/
  filed : ∃ manifest, ∃ body : Hcl.Body,
    body = [.block (.mk "resource" [config.resourceType, y.identifier]
      [.attribute "provider" (.variable config.providerAlias),
        .attribute config.manifestAttribute manifest])] ∧
    y.declaration config = .ok body ∧ (y.identifier, body.toText) ∈ files
  /-- Its identity now is that of the declaration. -/
  id_eq : y.resource.id = .namespaceCalled ns
  /-- The name in its metadata is that of the namespace. -/
  name_eq : (y.resource.tree.get? "metadata").bind (Tree.get? "name") = some (.text ns)
  /-- No reference was recorded for it. -/
  no_reference : ∀ token root path, (token, .reference root path) ∉ y.placeholders

/-- When all resources of a reachable collection were rendered, every reference that was recorded
leads to the file of another resource, which declares the namespace that the referring resource was
in and refers to nothing. So references neither dangle nor form a chain, whatever the order of the
resources. -/
theorem references_resolve {files : Files} (hc : c.Reachable)
    (hattribute : Naming.IsValid config.manifestAttribute.toList)
    (hok : (renderAll config).outcome c = (.ok files, c')) {i : Nat} {x : Renderable}
    {text : String} (hturn : RendersAt config c i x text) {token : Token} {root : String}
    {path : List String}
    (hmem : (token, .reference root path) ∈ x.placeholders) :
    ∃ r j y, c.get? i = some r ∧ j ≠ i ∧ y.identifier ≠ x.identifier ∧
      root = config.resourceType ∧
      path = [y.identifier, config.manifestAttribute, "metadata", "name"] ∧
      DeclaresNamespace config c c' files r.ns j y := by
  obtain ⟨-, hfiles, rfl⟩ := renderAll_ok hok
  obtain ⟨r, declaration, hget, hne, hfound, hreference⟩ := hturn.step.reference hmem
  rw [Collection.get?_rewrittenUpTo_of_le config (Nat.le_refl i)] at hget
  obtain ⟨j, hj, hid⟩ := Collection.find?_some hfound
  have hlt : j < c.size := c.size_rewrittenUpTo config i ▸ Collection.lt_size_of_get? hj
  obtain ⟨y, s, hy, hfile⟩ := hfiles.rendered j hlt
  obtain ⟨hidentifier, hdeclares⟩ := hy.standing hj
  have hyid := (hdeclares r.ns).mpr hid
  obtain ⟨hroot, hpath⟩ := Placeholder.reference.inj hreference
  -- What refers has a reference, and what is referred to has none.
  have hji : j ≠ i := by
    rintro rfl
    obtain ⟨rfl, -⟩ := hturn.unique hy
    exact hy.no_reference hyid token root path hmem
  refine ⟨r, j, y, hget, hji, ?_, hroot, hidentifier ▸ hpath, ?_⟩
  · intro hsame
    have hnames : c.names[j]? = c.names[i]? := by rw [hy.names_eq, hturn.names_eq, hsame]
    have hi := Collection.lt_size_of_get? hget
    rcases Nat.lt_or_gt_of_ne hji with hbefore | hafter
    · exact hfiles.names_ne i hi j hbefore hnames
    · exact hfiles.names_ne j hlt i hafter hnames.symm
  · have hstored := hy.stored hlt
    have hobtainable := Collection.obtainable_rewrittenUpTo config hc.obtainable c.size
      y.resource (List.mem_of_getElem? hstored)
    obtain ⟨body, hbody, rfl⟩ := Renderable.render_ok hy.2
    obtain ⟨-, manifest, -, rfl⟩ := Renderable.declaration_ok hbody
    refine ⟨⟨_, hy⟩, hstored, ⟨manifest, _, ?_, hbody, List.mem_of_getElem? hfile⟩, hyid,
      hobtainable.consistent.declaredName hyid, hy.no_reference hyid⟩
    rw [Renderable.block, Naming.attributeName_of_isValid hattribute, String.ofList_toList]

/-- In the small collection, the first resource refers to the declaration that follows it. -/
theorem memberFirst_reference :
    ∃ files c' x text, (renderAll {}).outcome .memberFirst = (.ok files, c') ∧
      RendersAt {} .memberFirst 0 x text ∧
      ∃ token y, (token, .reference "kubernetes_manifest"
          [y.identifier, "manifest", "metadata", "name"]) ∈ x.placeholders ∧
        DeclaresNamespace {} .memberFirst c' files "acme" 1 y := by
  have hrenders := memberFirst_renders
  rcases hout : (renderAll {}).outcome .memberFirst with ⟨result, c'⟩
  rw [hout] at hrenders
  cases result with
  | error e => cases hrenders
  | ok files =>
    obtain ⟨-, hfiles, -⟩ := renderAll_ok hout
    obtain ⟨x, text, hturn, -⟩ := hfiles.rendered 0 (by decide)
    have hmem := Entries.mem_of_find? (hturn.step.find?_reference rfl (by decide) rfl)
    obtain ⟨r, j, y, hget, hne, -, -, hpath, hdeclares⟩ :=
      references_resolve Collection.memberFirst_reachable (by decide +kernel) hout hturn hmem
    obtain rfl : Resource.settings = r := Option.some.inj hget
    obtain ⟨s, hs⟩ := hdeclares.turn
    obtain ⟨d, hd, -⟩ := hs.named
    have hlt := Collection.lt_size_of_get? hd
    have hsize : Collection.memberFirst.size = 2 := rfl
    obtain rfl : j = 1 := by omega
    rw [namespaceReference, hpath] at hmem
    exact ⟨files, c', x, text, rfl, hturn, _, y, hmem, hdeclares⟩

end KubeHcl
