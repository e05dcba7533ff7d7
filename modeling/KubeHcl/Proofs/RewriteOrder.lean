import KubeHcl.Proofs.Operations
import KubeHcl.Proofs.RewriteResult

/-!
# Rewriting in any order

When positions are rewritten one after the other, each gives what its resource is rewritten to in
the collection from the start. So the order in which all of them are rewritten leaves no trace.
-/

namespace KubeHcl

variable {config : Config} {c c₁ c₂ c' : Collection} {index : Nat}

/-- What becomes of positions that are rewritten in turn. -/
inductive RewriteSteps (config : Config) :
    List Nat → Collection → Except TransformError (List Renderable) → Collection → Prop
  /-- All of them were rewritten. -/
  | done {c : Collection} : RewriteSteps config [] c (.ok []) c
  /-- One of them failed, and the others are not looked at. -/
  | failed {index : Nat} {rest : List Nat} {c c' : Collection} {e : TransformError}
      (hstep : RewriteStep config c index (.error e) c') :
      RewriteSteps config (index :: rest) c (.error e) c'
  /-- One of them was rewritten, and the others follow. -/
  | next {index : Nat} {rest : List Nat} {c c₁ c' : Collection} {x : Renderable}
      {result : Except TransformError (List Renderable)}
      (hstep : RewriteStep config c index (.ok x) c₁)
      (hrest : RewriteSteps config rest c₁ result c') :
      RewriteSteps config (index :: rest) c (result.map (x :: ·)) c'

/-- Something becomes of positions in turn, and rewriting them comes to that. -/
theorem rewriteEach_ends (config : Config) (order : List Nat) (c : Collection) :
    ∃ result c', RewriteSteps config order c result c' ∧
      (order.mapM (rewrite config)).Ends c result c' := by
  induction order generalizing c with
  | nil =>
    refine ⟨_, _, .done, ?_⟩
    rw [List.mapM_nil]
    exact .pure _
  | cons index rest ih =>
    rw [List.mapM_cons]
    obtain ⟨result, c₁, hstep⟩ := RewriteStep.total config c index
    cases result with
    | error e => exact ⟨_, _, .failed hstep, .bind_error hstep.ends⟩
    | ok x =>
      obtain ⟨result, c', hsteps, hrest⟩ := ih c₁
      refine ⟨_, _, .next hstep hsteps, .bind hstep.ends ?_⟩
      cases result with
      | error e => exact .bind_error hrest
      | ok xs => exact .bind hrest (.pure _)

/-- What rewriting positions in turn comes to is listed. -/
theorem rewriteEach_steps {order : List Nat} {result : Except TransformError (List Renderable)}
    (hout : (order.mapM (rewrite config)).outcome c = (result, c')) :
    RewriteSteps config order c result c' := by
  obtain ⟨result₀, c₀, hsteps, hends⟩ := rewriteEach_ends config order c
  obtain ⟨rfl, rfl⟩ := Prod.mk.inj (hends.outcome_eq.symm.trans hout)
  exact hsteps

/-- The collection `c₁` is what rewriting the positions of `done` in `c` leaves, whatever the order
was. -/
structure Collection.RewrittenAt (config : Config) (c : Collection) (done : List Nat)
    (c₁ : Collection) : Prop where
  /-- References to namespaces are the same. -/
  reference : ∀ ns, c₁.referenceTo config ns = c.referenceTo config ns
  /-- What was rewritten is what it is rewritten to in `c`. -/
  rewritten : ∀ i ∈ done, c₁.get? i = (c.get? i).map fun r => (c.renderable config r).resource
  /-- Everything else is as it was. -/
  kept : ∀ i ∉ done, c₁.get? i = c.get? i

namespace Collection.RewrittenAt

variable {done : List Nat}

/-- Before the first rewrite nothing was rewritten. -/
theorem start (config : Config) (c : Collection) : c.RewrittenAt config [] c :=
  ⟨fun _ => rfl, by simp, fun _ _ => rfl⟩

/-- A rewrite of another position gives what its resource is rewritten to in `c`. -/
theorem next {x : Renderable} (h : c.RewrittenAt config done c₁) (hnew : index ∉ done)
    (hstep : RewriteStep config c₁ index (.ok x) c₂) :
    (c.get? index).map (c.renderable config) = some x ∧
      c.RewrittenAt config (done ++ [index]) c₂ := by
  obtain ⟨r, hget, -, hstored⟩ := hstep.stored
  have hbefore : c.get? index = some r := (h.kept index hnew).symm.trans hget
  have hx : x = c.renderable config r := by
    rw [(hstep.eq_renderable hget).1, Collection.renderable, h.reference, Collection.renderable]
  refine ⟨by rw [hbefore, hx]; rfl, ?_, ?_, ?_⟩
  · intro ns
    rw [hstep.referenceTo_eq, h.reference]
  · intro i hi
    by_cases heq : i = index
    · rw [heq, hstored, hbefore, hx]
      rfl
    · have hmem : i ∈ done := (List.mem_append.mp hi).resolve_right (by simpa using heq)
      rw [hstep.frame.2 i heq, h.rewritten i hmem]
  · intro i hi
    simp only [List.mem_append, List.mem_singleton, not_or] at hi
    rw [hstep.frame.2 i hi.2, h.kept i hi.1]

end Collection.RewrittenAt

/-- Rewriting further positions, each once, gives what their resources are rewritten to in the
collection from the start. -/
theorem RewriteSteps.rewrittenAt {order done : List Nat} {xs : List Renderable}
    (hsteps : RewriteSteps config order c₁ (.ok xs) c₂) (h : c.RewrittenAt config done c₁)
    (hnodup : (done ++ order).Nodup) :
    order.map (fun i => (c.get? i).map (c.renderable config)) = xs.map some ∧
      c.RewrittenAt config (done ++ order) c₂ := by
  generalize hresult : Except.ok xs = result at hsteps
  induction hsteps generalizing done xs with
  | done =>
    cases hresult
    exact ⟨rfl, by rwa [List.append_nil]⟩
  | failed => cases hresult
  | @next index rest c₁ c₃ c₂ x result hstep hrest ih =>
    cases result with
    | error e => cases hresult
    | ok ys =>
      cases hresult
      have hnew : index ∉ done := fun hmem =>
        (List.nodup_append.mp hnodup).2.2 index hmem index List.mem_cons_self rfl
      obtain ⟨hx, hnext⟩ := h.next hnew hstep
      rw [List.append_cons] at hnodup ⊢
      obtain ⟨hys, hall⟩ := ih hnext hnodup rfl
      exact ⟨by rw [List.map_cons, List.map_cons, hx, hys], hall⟩

/-- Rewriting every position once, in any order, leaves each resource as what it is rewritten to
from the start, and that is what the rewrites give. -/
theorem rewriteEach_ok {order : List Nat} {xs : List Renderable}
    (hperm : order.Perm (List.range c.size))
    (hout : (order.mapM (rewrite config)).outcome c = (.ok xs, c')) :
    order.map (fun i => (c.get? i).map (c.renderable config)) = xs.map some ∧
      ∀ i, c'.get? i = (c.get? i).map fun r => (c.renderable config r).resource := by
  have hnodup : order.Nodup := hperm.nodup_iff.mpr List.nodup_range
  obtain ⟨hxs, hall⟩ := (rewriteEach_steps hout).rewrittenAt (.start config c) hnodup
  refine ⟨hxs, fun i => ?_⟩
  by_cases hi : i < c.size
  · exact hall.rewritten i (hperm.mem_iff.mpr (List.mem_range.mpr hi))
  · have hnone : c.get? i = none := List.getElem?_eq_none_iff.mpr (Nat.not_lt.mp hi)
    have hout : i ∉ [] ++ order := fun hmem => hi (List.mem_range.mp (hperm.mem_iff.mp hmem))
    rw [hall.kept i hout, hnone, Option.map_none]

/-- What is rewritten of a position stands in the place that its turn has in the order. -/
theorem rewriteEach_getElem? {order : List Nat} {xs : List Renderable}
    (hperm : order.Perm (List.range c.size))
    (hout : (order.mapM (rewrite config)).outcome c = (.ok xs, c')) {r : Resource}
    (hget : c.get? index = some r) :
    ∃ turn : Nat, order[turn]? = some index ∧ xs[turn]? = some (c.renderable config r) := by
  have hmem : index ∈ order :=
    hperm.mem_iff.mpr (List.mem_range.mpr (Collection.lt_size_of_get? hget))
  obtain ⟨turn, hturn⟩ := List.getElem?_of_mem hmem
  have hat := congrArg (fun l => l[turn]?) (rewriteEach_ok hperm hout).1
  simp only [List.getElem?_map, hturn, Option.map_some, hget] at hat
  refine ⟨turn, hturn, ?_⟩
  cases hx : xs[turn]? with
  | none => simp [hx] at hat
  | some x =>
    rw [hx, Option.map_some, Option.some.injEq, Option.some.injEq] at hat
    rw [hat]

/-- When all positions are rewritten in one order and in another and no rewrite fails, both runs
leave the same collection, and at every position they give the same: name, resource and placeholders
in their order, and the resource is the one that is left there. -/
theorem rewrite_order_irrelevant {order₁ order₂ : List Nat} {xs₁ xs₂ : List Renderable}
    (hperm₁ : order₁.Perm (List.range c.size)) (hperm₂ : order₂.Perm (List.range c.size))
    (hrun₁ : (order₁.mapM (rewrite config)).outcome c = (.ok xs₁, c₁))
    (hrun₂ : (order₂.mapM (rewrite config)).outcome c = (.ok xs₂, c₂)) :
    c₁ = c₂ ∧ ∀ i < c.size, ∃ (turn₁ turn₂ : Nat) (x : Renderable),
      order₁[turn₁]? = some i ∧ order₂[turn₂]? = some i ∧
        xs₁[turn₁]? = some x ∧ xs₂[turn₂]? = some x ∧ c₁.get? i = some x.resource := by
  have hleft₁ := (rewriteEach_ok hperm₁ hrun₁).2
  have hleft₂ := (rewriteEach_ok hperm₂ hrun₂).2
  refine ⟨Collection.ext_get? fun i => (hleft₁ i).trans (hleft₂ i).symm, fun i hi => ?_⟩
  have hget : c.get? i = some c.resources[i] := List.getElem?_eq_getElem hi
  obtain ⟨turn₁, hturn₁, hx₁⟩ := rewriteEach_getElem? hperm₁ hrun₁ hget
  obtain ⟨turn₂, hturn₂, hx₂⟩ := rewriteEach_getElem? hperm₂ hrun₂ hget
  exact ⟨turn₁, turn₂, _, hturn₁, hturn₂, hx₁, hx₂, by rw [hleft₁, hget]; rfl⟩

/-- The small collection, with a resource and the declaration of its namespace, may be rewritten in
either order. -/
theorem memberFirst_order_irrelevant :
    ∃ xs₁ xs₂ c', ([0, 1].mapM (rewrite {})).outcome .memberFirst = (.ok xs₁, c') ∧
      ([1, 0].mapM (rewrite {})).outcome .memberFirst = (.ok xs₂, c') ∧
      ∀ i < 2, ∃ (turn₁ turn₂ : Nat) (x : Renderable), [0, 1][turn₁]? = some i ∧
        [1, 0][turn₂]? = some i ∧ xs₁[turn₁]? = some x ∧ xs₂[turn₂]? = some x ∧
          c'.get? i = some x.resource := by
  obtain ⟨xs₁, c₁, hrun₁⟩ :
      ∃ xs c', ([0, 1].mapM (rewrite {})).outcome .memberFirst = (.ok xs, c') :=
    Task.exists_of_isOk (by decide +kernel)
  obtain ⟨xs₂, c₂, hrun₂⟩ :
      ∃ xs c', ([1, 0].mapM (rewrite {})).outcome .memberFirst = (.ok xs, c') :=
    Task.exists_of_isOk (by decide +kernel)
  obtain ⟨rfl, hsame⟩ := rewrite_order_irrelevant (.refl _) (.swap 0 1 []) hrun₁ hrun₂
  exact ⟨xs₁, xs₂, c₁, hrun₁, hrun₂, hsame⟩

end KubeHcl
