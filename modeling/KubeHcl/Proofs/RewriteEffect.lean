import KubeHcl.Proofs.Resources
import KubeHcl.Proofs.Tokens

/-!
# What a rewrite does to a collection

A rewrite changes one position only, and of the resource there it changes neither what names it nor
whether it declares a namespace. These are the facts that let one rewrite be looked at beside
others.
-/

namespace KubeHcl

variable {config : Config} {c c' : Collection} {index : Nat}

namespace Resource

/-- What a rewrite may make of a resource. -/
inductive Rewritten (r : Resource) : Resource → Prop
  | same : Rewritten r r
  | referring (hns : r.ns ≠ "") : Rewritten r r.referring
  | extracted {moved : Resource} {change : TextChange} (hmoved : Rewritten r moved)
      (htext : extractText moved = .ok (some change)) : Rewritten r change.resource

variable {r r' : Resource}

/-- Moving texts keeps both identities. -/
theorem extractText_ids {change : TextChange} (htext : extractText r = .ok (some change)) :
    change.resource.origin = r.origin ∧ change.resource.id = r.id := by
  rw [(extractText_some htext).1]
  exact ⟨movedOut_origin r, movedOut_id r⟩

namespace Rewritten

/-- The identity a resource was loaded with stays. -/
theorem origin_eq (h : r.Rewritten r') : r'.origin = r.origin := by
  induction h with
  | same => rfl
  | referring => rfl
  | extracted _ htext ih => rw [(extractText_ids htext).1, ih]

/-- The identity a resource has now stays too, or its namespace becomes a wrapped token. -/
theorem id_eq (h : r.Rewritten r') : r'.id = r.id ∨ r.ns ≠ "" ∧ r'.id = r.referring.id := by
  induction h with
  | same => exact .inl rfl
  | referring hns => exact .inr ⟨hns, rfl⟩
  | extracted _ htext ih => rwa [(extractText_ids htext).2]

/-- The kind stays. -/
theorem kind_eq (h : r.Rewritten r') : r'.kind = r.kind := by
  rcases h.id_eq with hid | ⟨-, hid⟩ <;> rw [kind, hid] <;> rfl

/-- The name it is declared under stays. -/
theorem identifier_eq (h : r.Rewritten r') : Naming.identifier r' = Naming.identifier r := by
  simp only [Naming.identifier, Naming.rawName, originalName, h.origin_eq, h.kind_eq]

/-- It can still be had. -/
theorem obtainable (h : r.Rewritten r') (hr : r.Obtainable) : r'.Obtainable := by
  induction h with
  | same => exact hr
  | referring => exact .withNamespace _ hr
  | extracted _ htext ih => exact .extracted ih htext

end Rewritten

/-- A rewrite makes no declaration of a namespace and unmakes none. -/
theorem Rewritten.declares_iff (h : r.Rewritten r') (ns : String) :
    r'.id = .namespaceCalled ns ↔ r.id = .namespaceCalled ns := by
  rcases h.id_eq with hid | ⟨hns, hid⟩
  · rw [hid]
  · -- Before and after, the resource has a namespace, which a declaration has not.
    have hbefore : r.id ≠ .namespaceCalled ns := by
      intro heq
      exact hns (congrArg Identity.ns heq)
    have hafter : r'.id ≠ .namespaceCalled ns := by
      intro heq
      exact Token.wrapped_ne_empty _ (congrArg Identity.ns (hid.symm.trans heq))
    exact iff_of_false hafter hbefore

end Resource

/-- The change of a namespace leaves all other positions and the number of resources. -/
theorem NamespaceStep.frame {r : Resource}
    {result : Except TransformError (Resource × Placeholders)}
    (hstep : NamespaceStep config c index r result c') :
    c'.size = c.size ∧ ∀ other, other ≠ index → c'.get? other = c.get? other := by
  cases hstep with
  | kept => exact ⟨rfl, fun _ _ => rfl⟩
  | changed | conflict =>
    refine ⟨Collection.size_replace _ _ _, fun other hother => ?_⟩
    rw [Collection.get?_replace, if_neg hother.symm]

/-- A rewrite leaves all other positions and the number of resources. -/
theorem RewriteStep.frame {result : Except TransformError Renderable}
    (hstep : RewriteStep config c index result c') :
    c'.size = c.size ∧ ∀ other, other ≠ index → c'.get? other = c.get? other := by
  cases hstep with
  | outOfRange => exact ⟨rfl, fun _ _ => rfl⟩
  | conflict _ hns => exact hns.frame
  | malformed _ hns => exact hns.frame
  | kept _ hns => exact hns.frame
  | extracted _ hns =>
    obtain ⟨hsize, hothers⟩ := hns.frame
    refine ⟨by rw [Collection.size_replace, hsize], fun other hother => ?_⟩
    rw [Collection.get?_replace, if_neg hother.symm, hothers other hother]

/-- A position that holds a resource is within the collection. -/
theorem Collection.lt_size_of_get? {r : Resource} (hget : c.get? index = some r) :
    index < c.size := by
  obtain ⟨hlt, -⟩ := List.getElem?_eq_some_iff.mp hget
  exact hlt

/-- A position within the collection holds what it was last given. -/
theorem Collection.get?_replace_self {r : Resource} (hlt : index < c.size) :
    (c.replace index r).get? index = some r := by
  rw [Collection.get?_replace, if_pos rfl, if_pos hlt]

/-- An identity that is found is that of the resource at some position. -/
theorem Collection.find?_some {id : Identity} {r : Resource} (hfound : c.find? id = some r) :
    ∃ i, c.get? i = some r ∧ r.id = id := by
  obtain ⟨i, hi⟩ := List.getElem?_of_mem (List.mem_of_find?_eq_some hfound)
  exact ⟨i, hi, by simpa using List.find?_some hfound⟩

/-- What a change of a namespace gives is what it stores, and something a rewrite may make. -/
theorem NamespaceStep.moved {r moved : Resource} {recorded : Placeholders}
    (hget : c.get? index = some r)
    (hstep : NamespaceStep config c index r (.ok (moved, recorded)) c') :
    c'.get? index = some moved ∧ r.Rewritten moved := by
  cases hstep with
  | kept => exact ⟨hget, .same⟩
  | changed hns =>
    exact ⟨Collection.get?_replace_self (Collection.lt_size_of_get? hget), .referring hns⟩

/-- Whether it fails or not, a rewrite leaves something it may make of the resource. -/
theorem RewriteStep.rewritten {r : Resource} {result : Except TransformError Renderable}
    (hget : c.get? index = some r) (hstep : RewriteStep config c index result c') :
    ∃ r', c'.get? index = some r' ∧ r.Rewritten r' := by
  have hlt := Collection.lt_size_of_get? hget
  cases hstep with
  | outOfRange hnone => simp [hnone] at hget
  | conflict hr hns =>
    obtain rfl := Option.some.inj (hget.symm.trans hr)
    cases hns with
    | conflict hne => exact ⟨_, Collection.get?_replace_self hlt, .referring hne⟩
  | malformed hr hns =>
    obtain rfl := Option.some.inj (hget.symm.trans hr)
    exact ⟨_, hns.moved hget⟩
  | kept hr hns =>
    obtain rfl := Option.some.inj (hget.symm.trans hr)
    exact ⟨_, hns.moved hget⟩
  | extracted hr hns htext =>
    obtain rfl := Option.some.inj (hget.symm.trans hr)
    have hlt' := Collection.lt_size_of_get? (hns.moved hget).1
    exact ⟨_, Collection.get?_replace_self hlt', .extracted (hns.moved hget).2 htext⟩

/-- What a successful rewrite gives is named like the resource was, and is what it stores. -/
theorem RewriteStep.stored {x : Renderable} (hstep : RewriteStep config c index (.ok x) c') :
    ∃ r, c.get? index = some r ∧ x.identifier = Naming.identifier r ∧
      c'.get? index = some x.resource := by
  cases hstep with
  | kept hget hns => exact ⟨_, hget, rfl, (hns.moved hget).1⟩
  | extracted hget hns =>
    refine ⟨_, hget, rfl, Collection.get?_replace_self ?_⟩
    exact Collection.lt_size_of_get? (hns.moved hget).1

/-- Every position holds something that a rewrite may make of what it held. -/
theorem RewriteStep.rewritten_everywhere {result : Except TransformError Renderable}
    (hstep : RewriteStep config c index result c') {other : Nat} {r : Resource}
    (hget : c.get? other = some r) : ∃ r', c'.get? other = some r' ∧ r.Rewritten r' := by
  by_cases hother : other = index
  · subst hother
    exact hstep.rewritten hget
  · exact ⟨r, by rw [hstep.frame.2 other hother, hget], .same⟩

end KubeHcl
