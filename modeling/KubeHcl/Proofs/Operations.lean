import KubeHcl.Proofs.LoadOutcome
import KubeHcl.Proofs.RenderOutcome

/-!
# Runs of operations

A collection starts empty, and what can be done to it is loading, adding resources and copies of
them, rewriting and rendering. A run is any list of these; an operation that fails leaves the
collection as the failure left it, and the run goes on from there. Whatever every operation keeps is
kept by every run, so each fact about reachable collections is a matter of one operation.
-/

namespace KubeHcl

/-- What can be asked of a collection. -/
inductive Operation where
  /-- Adds the resources of a text. -/
  | load (source : Option String) (text : String)
  /-- Adds a resource. -/
  | insert (r : Resource)
  /-- Adds a copy of the resource at a position, moved into a namespace. -/
  | insertCopy (index : Nat) (ns : String)
  /-- Rewrites the resource at a position. -/
  | rewrite (config : Config) (index : Nat)
  /-- Rewrites the resource at a position and renders it. -/
  | render (config : Config) (index : Nat)
  /-- Rewrites and renders all resources. -/
  | renderAll (config : Config)

/-- Why an operation failed. -/
inductive OperationError where
  | load (cause : LoadError)
  | transform (cause : TransformError)
  /-- There is no resource to copy at the position. -/
  | noResource (index : Nat)
  deriving DecidableEq, Repr

namespace Operation

/-- Whether an operation failed and the collection after it, from the outcome of a task. -/
def report {ε α : Type} (cause : ε → OperationError) (outcome : Except ε α × Collection) :
    Except OperationError Unit × Collection :=
  ((outcome.1.mapError cause).map fun _ => (), outcome.2)

/-- Whether an operation fails on a collection, and the collection after it. -/
def perform (c : Collection) : Operation → Except OperationError Unit × Collection
  | load source text => report .load ((insertYaml source text).outcome c)
  | insert r => report .load ((insertResource r).outcome c)
  | insertCopy index ns =>
    match c.get? index with
    | none => (.error (.noResource index), c)
    | some r => report .load ((insertResource (r.withNamespace ns)).outcome c)
  | rewrite config index => report .transform ((KubeHcl.rewrite config index).outcome c)
  | render config index =>
    let (result, c') := (KubeHcl.rewrite config index).outcome c
    report .transform (result.bind (·.render config), c')
  | renderAll config => report .transform ((KubeHcl.renderAll config).outcome c)

/-- The results of operations that are performed in turn, and the collection after them. -/
def performAll (c : Collection) :
    List Operation → List (Except OperationError Unit) × Collection
  | [] => ([], c)
  | operation :: rest =>
    let (result, c₁) := operation.perform c
    let (results, c') := performAll c₁ rest
    (result :: results, c')

/-- A resource is only added if it can be had. -/
def Sound : Operation → Prop
  | insert r => r.Obtainable
  | _ => True

end Operation

/-- The collections that operations lead to. -/
def Collection.Reachable (c : Collection) : Prop :=
  ∃ operations : List Operation, (∀ operation ∈ operations, operation.Sound) ∧
    (Operation.performAll {} operations).2 = c

namespace Operation

variable {c c' : Collection}

/-- The resources that an operation may add to a collection. -/
inductive Adds (c : Collection) : Operation → Resource → Prop
  | loaded {source : Option String} {text : String} {t : Tree} {r : Resource}
      (hmem : .ok t ∈ Yaml.documents text) (hresource : Resource.ofTree t = .ok r) :
      Adds c (.load source text) r
  | inserted {r : Resource} : Adds c (.insert r) r
  | copied {index : Nat} {ns : String} {r : Resource} (hget : c.get? index = some r) :
      Adds c (.insertCopy index ns) (r.withNamespace ns)

/-- A sound operation on resources that can be had adds one that can be had. -/
theorem Adds.obtainable {operation : Operation} {r : Resource} (hadds : operation.Adds c r)
    (hsound : operation.Sound) (hall : ∀ r ∈ c.resources, r.Obtainable) : r.Obtainable := by
  cases hadds with
  | loaded _ hresource => exact .ofTree hresource
  | inserted => exact hsound
  | copied hget => exact .withNamespace _ (hall _ (List.mem_of_getElem? hget))

/-- Adding a resource leaves the collection, or gives the one with the resource inserted. -/
theorem insertResource_outcome (c : Collection) (r : Resource) :
    ((insertResource r).outcome c).2 = c ∨
      c.insert r = .ok ((insertResource r).outcome c).2 := by
  cases hinsert : c.insert r with
  | error e => exact .inl (by rw [(insertResource_ends_error hinsert).outcome_eq])
  | ok c' => exact .inr (by rw [(insertResource_ends_ok hinsert).outcome_eq])

/-- What adding a resource keeps and every rewrite keeps is kept by every operation. If only
rewrites that fail in a certain way may break it, it is enough that the operation does not fail in
that way. -/
theorem perform_invariant (P : Collection → Prop) (Harmless : TransformError → Prop)
    (operation : Operation)
    (hadd : ∀ {c c' : Collection} {r : Resource}, P c → operation.Adds c r →
      c.insert r = .ok c' → P c')
    (hrewrite : ∀ {config : Config} {c c' : Collection} {index : Nat}
      {result : Except TransformError Renderable},
      P c → (∀ e, result = .error e → Harmless e) → RewriteStep config c index result c' → P c')
    (hresult : ∀ e, (operation.perform c).1 = .error (.transform e) → Harmless e) (hc : P c) :
    P (operation.perform c).2 := by
  -- Adding a resource leaves the collection or inserts the resource.
  have hinsertion : ∀ r, operation.Adds c r → P ((insertResource r).outcome c).2 := by
    intro r hadds
    rcases insertResource_outcome c r with hkept | hinserted
    · rwa [hkept]
    · exact hadd hc hadds hinserted
  cases operation with
  | load source text =>
    have hsteps : DocumentSteps source 0 c (Yaml.documents text) _ _ := insertYaml_steps rfl
    exact hsteps.invariant (fun hc hmem hresource => hadd hc (.loaded hmem hresource)) hc
  | insert r => exact hinsertion r .inserted
  | insertCopy index ns =>
    cases hget : c.get? index with
    | none => simpa only [perform, hget] using hc
    | some r => simpa only [perform, hget, report] using hinsertion _ (.copied hget)
  | rewrite config index =>
    rcases hout : (KubeHcl.rewrite config index).outcome c with ⟨result, c'⟩
    simp only [perform, report, hout] at hresult ⊢
    refine hrewrite hc ?_ (rewrite_outcome_iff.mp hout)
    rintro e rfl
    exact hresult e rfl
  | render config index =>
    rcases hout : (KubeHcl.rewrite config index).outcome c with ⟨result, c'⟩
    simp only [perform, report, hout] at hresult ⊢
    refine hrewrite hc ?_ (rewrite_outcome_iff.mp hout)
    rintro e rfl
    exact hresult e rfl
  | renderAll config =>
    rcases hout : (KubeHcl.renderAll config).outcome c with ⟨result, c'⟩
    simp only [perform, report, hout] at hresult ⊢
    rcases renderAll_steps hout with ⟨-, -, rfl⟩ | ⟨-, hsteps⟩
    · exact hc
    · refine hsteps.invariant hrewrite ?_ hc
      rintro e rfl
      exact hresult e rfl

/-- What every operation with an allowed result keeps is kept by a run in which all results are
allowed. -/
theorem performAll_invariant (P : Collection → Prop)
    (Allowed : Except OperationError Unit → Prop) {operations : List Operation}
    (hperform : ∀ operation ∈ operations, ∀ {c : Collection}, P c →
      Allowed (operation.perform c).1 → P (operation.perform c).2)
    (hresults : ∀ result ∈ (performAll c operations).1, Allowed result) (hc : P c) :
    P (performAll c operations).2 := by
  induction operations generalizing c with
  | nil => exact hc
  | cons operation rest ih =>
    have hfirst := hperform operation List.mem_cons_self hc (hresults _ List.mem_cons_self)
    exact ih (fun operation hmem => hperform operation (List.mem_cons_of_mem _ hmem))
      (fun result hmem => hresults result (List.mem_cons_of_mem _ hmem)) hfirst

end Operation

namespace Collection

variable {c c' : Collection}

/-- The resources after a rewrite are what it may make of those before. -/
theorem mem_of_rewriteStep {config : Config} {index : Nat}
    {result : Except TransformError Renderable} (hstep : RewriteStep config c index result c')
    {r' : Resource} (hmem : r' ∈ c'.resources) : ∃ r ∈ c.resources, r.Rewritten r' := by
  obtain ⟨i, hi⟩ := List.getElem?_of_mem hmem
  have hlt : i < c.size := hstep.frame.1 ▸ lt_size_of_get? hi
  have hget : c.get? i = some c.resources[i] := List.getElem?_eq_getElem hlt
  obtain ⟨r'', hget', hrewritten⟩ := hstep.rewritten_everywhere hget
  obtain rfl := Option.some.inj (hget'.symm.trans hi)
  exact ⟨_, List.mem_of_getElem? hget, hrewritten⟩

/-- Every resource of a reachable collection can be had. -/
theorem Reachable.obtainable (hc : c.Reachable) : ∀ r ∈ c.resources, r.Obtainable := by
  obtain ⟨operations, hsound, rfl⟩ := hc
  refine Operation.performAll_invariant (fun c => ∀ r ∈ c.resources, r.Obtainable) (fun _ => True)
    ?_ (fun _ _ => trivial) (by simp)
  intro operation hmem c hc _
  refine Operation.perform_invariant (fun c => ∀ r ∈ c.resources, r.Obtainable) (fun _ => True)
    operation ?_ ?_ (fun _ _ => trivial) hc
  · intro c c' r hc hadds hinsert r' hmem'
    obtain ⟨-, rfl⟩ := insert_ok hinsert
    rcases List.mem_append.mp hmem' with hold | hnew
    · exact hc r' hold
    · obtain rfl := List.mem_singleton.mp hnew
      exact hadds.obtainable (hsound operation hmem) hc
  · intro config c c' index result hc _ hstep r' hmem'
    obtain ⟨r, hr, hrewritten⟩ := mem_of_rewriteStep hstep hmem'
    exact hrewritten.obtainable (hc r hr)

end Collection

/-- A resource in the namespace `acme`, with a text in its data that fits a heredoc. -/
def Resource.settings : Resource where
  origin := ⟨"", "v1", "ConfigMap", "acme", "settings"⟩
  id := ⟨"", "v1", "ConfigMap", "acme", "settings"⟩
  fields :=
    [("apiVersion", .text "v1"), ("kind", .text "ConfigMap"),
      ("metadata", .map [("name", .text "settings"), ("namespace", .text "acme")]),
      ("data", .map [("motd", .text "Hello, $\x7bname\x7d\n")])]

/-- The declaration of the namespace `acme`. -/
def Resource.acme : Resource where
  origin := .namespaceCalled "acme"
  id := .namespaceCalled "acme"
  fields :=
    [("apiVersion", .text "v1"), ("kind", .text "Namespace"),
      ("metadata", .map [("name", .text "acme")])]

/-- A collection in which a namespace is declared after a resource in it. -/
def Collection.memberFirst : Collection := ⟨[.settings, .acme]⟩

/-- It is reached by adding the two resources. -/
theorem Collection.memberFirst_reachable : memberFirst.Reachable := by
  refine ⟨[.insert .settings, .insert .acme], ?_, rfl⟩
  simp only [List.mem_cons, List.not_mem_nil, or_false, forall_eq_or_imp, forall_eq]
  exact ⟨.ofTree (t := Resource.settings.tree) rfl, .ofTree (t := Resource.acme.tree) rfl⟩

end KubeHcl
