import KubeHcl.Proofs.DistinctKeys
import KubeHcl.Proofs.Operations
import KubeHcl.Proofs.RewriteResult
import Mathlib.Logic.Relation

/-!
# What operations add

An operation either rewrites resources where they stand or adds some at the end. So every position
of a collection goes back to the resource that was once added there, and what the operations of a
run may add settles what all of its collections hold.
-/

namespace KubeHcl

variable {c c₁ c' : Collection}

/-- Relations between the items of lists are composed item by item. -/
theorem forall₂_comp {α β γ : Type} {R : α → β → Prop} {S : β → γ → Prop} {T : α → γ → Prop}
    {as : List α} {bs : List β} {cs : List γ} (hcomp : ∀ a b c, R a b → S b c → T a c)
    (hab : List.Forall₂ R as bs) (hbc : List.Forall₂ S bs cs) : List.Forall₂ T as cs := by
  induction hab generalizing cs with
  | nil =>
    cases hbc
    exact .nil
  | cons hfirst _ ih =>
    cases hbc with
    | cons hfirst' hrest' => exact .cons (hcomp _ _ _ hfirst hfirst') (ih hrest')

/-- Every item of the second list is related to the item of the first in its position. -/
theorem forall₂_getElem? {α β : Type} {R : α → β → Prop} {as : List α} {bs : List β}
    (h : List.Forall₂ R as bs) {i : Nat} {b : β} (hget : bs[i]? = some b) :
    ∃ a, as[i]? = some a ∧ R a b := by
  obtain ⟨hi, rfl⟩ := List.getElem?_eq_some_iff.mp hget
  have hi' : i < as.length := h.length_eq ▸ hi
  exact ⟨as[i], List.getElem?_eq_getElem hi', h.get hi' hi⟩

/-- Loading adds resources at the end, each as one of the documents describes it. -/
theorem DocumentSteps.added {ε : Type} {source : Option String} {number : Nat}
    {documents : List (Except ε Tree)} {result : Except LoadError Unit}
    (hsteps : DocumentSteps source number c documents result c') :
    ∃ added, c'.resources = c.resources ++ added ∧
      ∀ r ∈ added, Except.ok r.tree ∈ documents ∧ Resource.ofTree r.tree = .ok r := by
  induction hsteps with
  | done => exact ⟨[], by simp⟩
  | failed hstep =>
    cases hstep with
    | unread | invalid | refused => exact ⟨[], by simp⟩
  | next hstep _ ih =>
    obtain ⟨added, hresources, hadded⟩ := ih
    cases hstep with
    | null => exact ⟨added, hresources, fun r hr => (hadded r hr).imp_left (.tail _)⟩
    | @inserted t r _ _ hresource hinsert =>
      obtain ⟨-, rfl⟩ := Collection.insert_ok hinsert
      obtain ⟨rfl, -⟩ := Resource.ofTree_ok hresource
      refine ⟨r :: added, by rw [hresources, List.append_assoc, List.singleton_append], ?_⟩
      exact List.forall_mem_cons.mpr
        ⟨⟨List.mem_cons_self, hresource⟩, fun r hr => (hadded r hr).imp_left (.tail _)⟩

namespace Collection

/-- One rewrite leads from a collection to the other, whether it fails or not. -/
def Rewrites (c c' : Collection) : Prop :=
  ∃ config index result, RewriteStep config c index result c'

/-- Rewrites keep the number of resources. -/
theorem Rewrites.size_eq (h : Relation.ReflTransGen Rewrites c c') : c'.size = c.size := by
  induction h with
  | refl => rfl
  | tail _ hstep ih =>
    obtain ⟨config, index, result, hstep⟩ := hstep
    rw [hstep.frame.1, ih]

/-- What holds of every resource and stays so for whatever a rewrite may make of it, holds after
rewrites. -/
theorem Rewrites.forall_mem {P : Resource → Prop}
    (hrewritten : ∀ r r' : Resource, P r → r.Rewritten r' → P r')
    (h : Relation.ReflTransGen Rewrites c c') (hc : ∀ r ∈ c.resources, P r) :
    ∀ r ∈ c'.resources, P r := by
  induction h with
  | refl => exact hc
  | tail _ hstep ih =>
    obtain ⟨config, index, result, hstep⟩ := hstep
    intro r' hmem
    obtain ⟨r, hr, h⟩ := mem_of_rewriteStep hstep hmem
    exact hrewritten r r' (ih r hr) h

/-- The same for a relation to resources of before, position by position. -/
theorem Rewrites.forall₂ {R : Resource → Resource → Prop}
    (hrewritten : ∀ r₀ r r' : Resource, R r₀ r → r.Rewritten r' → R r₀ r')
    (h : Relation.ReflTransGen Rewrites c c') {before : List Resource}
    (hc : List.Forall₂ R before c.resources) : List.Forall₂ R before c'.resources := by
  induction h with
  | refl => exact hc
  | tail _ hstep ih =>
    obtain ⟨config, index, result, hstep⟩ := hstep
    exact forall₂_comp hrewritten ih hstep.forall₂_rewritten

end Collection

/-- Rendering one position after the other does nothing to a collection but rewrites. -/
theorem RenderSteps.rewrites {config : Config} {positions : List Nat} {files : Files}
    {result : Except TransformError Files}
    (hsteps : RenderSteps config positions files c result c') :
    Relation.ReflTransGen Collection.Rewrites c c' := by
  have hrewrite : ∀ {c₁ c₂ : Collection} {index : Nat} {result : Except TransformError Renderable},
      Relation.ReflTransGen Collection.Rewrites c c₁ → (∀ e, result = .error e → True) →
        RewriteStep config c₁ index result c₂ →
          Relation.ReflTransGen Collection.Rewrites c c₂ :=
    fun h _ hstep => h.tail ⟨config, _, _, hstep⟩
  exact hsteps.invariant hrewrite (fun _ _ => trivial) .refl

/-- Rendering a collection does no more. -/
theorem renderAll_rewrites {config : Config} {result : Except TransformError Files}
    (hout : (renderAll config).outcome c = (result, c')) :
    Relation.ReflTransGen Collection.Rewrites c c' := by
  rcases renderAll_steps hout with ⟨-, -, rfl⟩ | ⟨-, hsteps⟩
  · exact .refl
  · exact hsteps.rewrites

namespace Operation

/-- The resources that an operation adds to a collection. -/
def additions (c : Collection) (operation : Operation) : List Resource :=
  (operation.perform c).2.resources.drop c.size

/-- What an operation does to a collection `c`: rewrites lead to `c₁`, and resources are added to
that. -/
structure Effect (c : Collection) (operation : Operation) (c₁ : Collection) : Prop where
  rewrites : Relation.ReflTransGen Collection.Rewrites c c₁
  resources_eq : (operation.perform c).2.resources = c₁.resources ++ operation.additions c
  adds : ∀ r ∈ operation.additions c, operation.Adds c r

/-- An operation that adds resources at the end and does nothing else. -/
theorem Effect.of_added {operation : Operation} {added : List Resource}
    (hresources : (operation.perform c).2.resources = c.resources ++ added)
    (hadds : ∀ r ∈ added, operation.Adds c r) : operation.Effect c c := by
  have hadditions : operation.additions c = added := by
    rw [additions, hresources]
    exact List.drop_left
  exact ⟨.refl, by rw [hadditions, hresources], by rwa [hadditions]⟩

/-- An operation that rewrites and does nothing else. -/
theorem Effect.of_rewrites {operation : Operation}
    (hrewrites : Relation.ReflTransGen Collection.Rewrites c (operation.perform c).2) :
    operation.Effect c (operation.perform c).2 := by
  have hadditions : operation.additions c = [] :=
    List.drop_eq_nil_iff.mpr (Nat.le_of_eq (Collection.Rewrites.size_eq hrewrites))
  exact ⟨hrewrites, by rw [hadditions, List.append_nil], by simp [hadditions]⟩

/-- Adding a resource adds it at the end or adds nothing. -/
theorem insertResource_added (c : Collection) (r : Resource) :
    ∃ added, ((insertResource r).outcome c).2.resources = c.resources ++ added ∧
      ∀ r' ∈ added, r' = r := by
  rcases insertResource_outcome c r with hkept | hinserted
  · exact ⟨[], by simp [hkept]⟩
  · obtain ⟨-, heq⟩ := Collection.insert_ok hinserted
    exact ⟨[r], by rw [heq], by simp⟩

/-- Every operation has such an effect. -/
theorem effect (c : Collection) (operation : Operation) : ∃ c₁, operation.Effect c c₁ := by
  cases operation with
  | load source text =>
    have hsteps : DocumentSteps source 0 c (Yaml.documents text) _ _ := insertYaml_steps rfl
    obtain ⟨added, hresources, hadded⟩ := hsteps.added
    exact ⟨c, .of_added hresources fun r hr => .loaded (hadded r hr).1 (hadded r hr).2⟩
  | insert r =>
    obtain ⟨added, hresources, hadded⟩ := insertResource_added c r
    exact ⟨c, .of_added hresources fun r' hr' => hadded r' hr' ▸ .inserted⟩
  | insertCopy index ns =>
    cases hget : c.get? index with
    | none =>
      have hresources : ((insertCopy index ns).perform c).2.resources = c.resources ++ [] := by
        rw [perform, hget, List.append_nil]
      exact ⟨c, .of_added hresources (by simp)⟩
    | some r =>
      obtain ⟨added, hresources, hadded⟩ := insertResource_added c (r.withNamespace ns)
      have hperform : ((insertCopy index ns).perform c).2.resources = c.resources ++ added := by
        simpa only [perform, hget, report] using hresources
      exact ⟨c, .of_added hperform fun r' hr' => hadded r' hr' ▸ .copied hget⟩
  | rewrite config index =>
    exact ⟨_, .of_rewrites (.single ⟨config, index, _, rewrite_outcome_iff.mp rfl⟩)⟩
  | render config index =>
    exact ⟨_, .of_rewrites (.single ⟨config, index, _, rewrite_outcome_iff.mp rfl⟩)⟩
  | renderAll config =>
    exact ⟨_, .of_rewrites (renderAll_rewrites rfl)⟩

/-- The resources that the operations of a run add, in order. -/
def added (c : Collection) : List Operation → List Resource
  | [] => []
  | operation :: rest => operation.additions c ++ added (operation.perform c).2 rest

/-- What holds of every resource that is added and itself, and stays so for whatever a rewrite may
make of it, holds after a run of every resource and the one that was added in its place. -/
theorem added_related {R : Resource → Resource → Prop} {operations : List Operation}
    (hadded : ∀ r ∈ added c operations, R r r)
    (hrewritten : ∀ r₀ r r' : Resource, R r₀ r → r.Rewritten r' → R r₀ r')
    {before : List Resource} (hbefore : List.Forall₂ R before c.resources) :
    List.Forall₂ R (before ++ added c operations) (performAll c operations).2.resources := by
  induction operations generalizing c before with
  | nil => simpa [added, performAll] using hbefore
  | cons operation rest ih =>
    rw [added, List.forall_mem_append] at hadded
    obtain ⟨c₁, heffect⟩ := operation.effect c
    have hfirst : List.Forall₂ R (before ++ operation.additions c)
        (operation.perform c).2.resources := by
      rw [heffect.resources_eq]
      exact List.rel_append (Collection.Rewrites.forall₂ hrewritten heffect.rewrites hbefore)
        (List.forall₂_same.mpr hadded.1)
    rw [added, ← List.append_assoc]
    exact ih hadded.2 hfirst

end Operation

/-- A resource that can be had and whose document repeats no key. -/
structure Resource.WellFormed (r : Resource) : Prop where
  obtainable : r.Obtainable
  distinctKeys : r.tree.DistinctKeys

/-- Rewriting keeps that. -/
theorem Resource.WellFormed.rewritten {r r' : Resource} (hr : r.WellFormed) (h : r.Rewritten r') :
    r'.WellFormed :=
  ⟨h.obtainable hr.obtainable, h.distinctKeys hr.distinctKeys⟩

namespace Operation

/-- A resource is only added if it is well-formed. -/
def Genuine : Operation → Prop
  | insert r => r.WellFormed
  | _ => True

/-- Such an operation adds well-formed resources to well-formed ones. -/
theorem Adds.wellFormed {operation : Operation} {r : Resource} (hadds : operation.Adds c r)
    (hgenuine : operation.Genuine) (hall : ∀ r ∈ c.resources, r.WellFormed) : r.WellFormed := by
  cases hadds with
  | loaded hmem hresource =>
    obtain ⟨rfl, -⟩ := Resource.ofTree_ok hresource
    exact ⟨.ofTree hresource, Yaml.distinctKeys_of_mem_documents hmem⟩
  | inserted => exact hgenuine
  | copied hget =>
    obtain ⟨hobtainable, hkeys⟩ := hall _ (List.mem_of_getElem? hget)
    exact ⟨.withNamespace _ hobtainable, Resource.distinctKeys_withNamespace hkeys _⟩

/-- In a run of such operations, what is added is well-formed, and so is what is there at the
end. -/
theorem wellFormed_of_genuine {operations : List Operation}
    (hgenuine : ∀ operation ∈ operations, operation.Genuine)
    (hall : ∀ r ∈ c.resources, r.WellFormed) :
    (∀ r ∈ added c operations, r.WellFormed) ∧
      ∀ r ∈ (performAll c operations).2.resources, r.WellFormed := by
  induction operations generalizing c with
  | nil => exact ⟨by simp [added], hall⟩
  | cons operation rest ih =>
    obtain ⟨hfirst, hrest⟩ := List.forall_mem_cons.mp hgenuine
    obtain ⟨c₁, heffect⟩ := operation.effect c
    have hadditions : ∀ r ∈ operation.additions c, r.WellFormed :=
      fun r hr => (heffect.adds r hr).wellFormed hfirst hall
    have hperform : ∀ r ∈ (operation.perform c).2.resources, r.WellFormed := by
      rw [heffect.resources_eq, List.forall_mem_append]
      exact ⟨Collection.Rewrites.forall_mem (fun _ _ hr h => hr.rewritten h) heffect.rewrites hall,
        hadditions⟩
    obtain ⟨hadded, hend⟩ := ih hrest hperform
    exact ⟨List.forall_mem_append.mpr ⟨hadditions, hadded⟩, hend⟩

end Operation

namespace Collection

/-- The collections that such operations lead to. -/
def Genuine (c : Collection) : Prop :=
  ∃ operations : List Operation, (∀ operation ∈ operations, operation.Genuine) ∧
    (Operation.performAll {} operations).2 = c

/-- They hold well-formed resources. -/
theorem Genuine.wellFormed (hc : c.Genuine) : ∀ r ∈ c.resources, r.WellFormed := by
  obtain ⟨operations, hgenuine, rfl⟩ := hc
  exact (Operation.wellFormed_of_genuine hgenuine (by simp)).2

end Collection

/-- The declaration of the namespace `acme` is well-formed. -/
theorem Resource.acme_wellFormed : acme.WellFormed := by
  refine ⟨.ofTree (t := acme.tree) rfl, ?_⟩
  simp [acme, tree, Tree.DistinctKeys, Tree.DistinctKeysEntries]

/-- The small collection comes about by adding two documents. -/
theorem Collection.memberFirst_genuine : memberFirst.Genuine := by
  refine ⟨[.insert .settings, .insert .acme], ?_, rfl⟩
  simp only [List.mem_cons, List.not_mem_nil, or_false, forall_eq_or_imp, forall_eq]
  refine ⟨⟨.ofTree (t := Resource.settings.tree) rfl, ?_⟩, Resource.acme_wellFormed⟩
  simp [Resource.settings, Resource.tree, Tree.DistinctKeys, Tree.DistinctKeysEntries]

end KubeHcl
