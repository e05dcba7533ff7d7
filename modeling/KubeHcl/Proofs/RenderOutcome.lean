import KubeHcl.Proofs.Entries
import KubeHcl.Proofs.RewriteEffect
import KubeHcl.Rendering

/-!
# What rendering a collection comes to

Every position is rewritten, rendered and added under its name, in this order, and the first failure
ends the rendering. The steps are listed as they are for a single rewrite.
-/

namespace KubeHcl

variable {config : Config} {c c' : Collection} {files : Files} {index : Nat}

/-- What becomes of the position that is rendered next. -/
inductive RenderStep (config : Config) (files : Files) (index : Nat) (c : Collection) :
    Except TransformError Files → Collection → Prop
  /-- It could not be rewritten. -/
  | unrewritten {e : TransformError} {c' : Collection}
      (hrewrite : RewriteStep config c index (.error e) c') :
      RenderStep config files index c (.error e) c'
  /-- It could not be rendered. -/
  | unrendered {x : Renderable} {e : TransformError} {c' : Collection}
      (hrewrite : RewriteStep config c index (.ok x) c') (hrender : x.render config = .error e) :
      RenderStep config files index c (.error e) c'
  /-- Its name is taken. -/
  | collision {x : Renderable} {text : String} {c' : Collection}
      (hrewrite : RewriteStep config c index (.ok x) c') (hrender : x.render config = .ok text)
      (htaken : x.identifier ∈ files.map Prod.fst) :
      RenderStep config files index c (.error (.identifierCollision x.identifier)) c'
  /-- It becomes the last file. -/
  | added {x : Renderable} {text : String} {c' : Collection}
      (hrewrite : RewriteStep config c index (.ok x) c') (hrender : x.render config = .ok text)
      (hfree : x.identifier ∉ files.map Prod.fst) :
      RenderStep config files index c (.ok (files ++ [(x.identifier, text)])) c'

/-- What becomes of positions that are rendered in turn. -/
inductive RenderSteps (config : Config) :
    List Nat → Files → Collection → Except TransformError Files → Collection → Prop
  /-- All of them became files. -/
  | done {files : Files} {c : Collection} : RenderSteps config [] files c (.ok files) c
  /-- One of them failed, and the others are not looked at. -/
  | failed {index : Nat} {rest : List Nat} {files : Files} {c c' : Collection} {e : TransformError}
      (hstep : RenderStep config files index c (.error e) c') :
      RenderSteps config (index :: rest) files c (.error e) c'
  /-- One of them became a file, and the others follow. -/
  | next {index : Nat} {rest : List Nat} {files files₁ : Files} {c c₁ c' : Collection}
      {result : Except TransformError Files}
      (hstep : RenderStep config files index c (.ok files₁) c₁)
      (hrest : RenderSteps config rest files₁ c₁ result c') :
      RenderSteps config (index :: rest) files c result c'

/-- Something becomes of every position, and rendering it comes to that. -/
theorem renderOne_ends (config : Config) (files : Files) (index : Nat) (c : Collection) :
    ∃ result c', RenderStep config files index c result c' ∧
      (renderOne config files index).Ends c result c' := by
  obtain ⟨result, c', hrewrite⟩ := RewriteStep.total config c index
  cases result with
  | error e => exact ⟨_, _, .unrewritten hrewrite, .bind_error hrewrite.ends⟩
  | ok x =>
    cases hrender : x.render config with
    | error e =>
      refine ⟨_, _, .unrendered hrewrite hrender, .bind hrewrite.ends (.bind (.noteAll _) ?_)⟩
      rw [hrender]
      exact .bind_error (.throw e)
    | ok text =>
      by_cases htaken : x.identifier ∈ files.map Prod.fst
      · refine ⟨_, _, .collision hrewrite hrender htaken,
          .bind hrewrite.ends (.bind (.noteAll _) ?_)⟩
        rw [hrender]
        refine .bind (.pure text) (.bind (.note _) ?_)
        rw [if_pos (Entries.find?_isSome_iff.mpr htaken)]
        exact .bind_error (.throw _)
      · refine ⟨_, _, .added hrewrite hrender htaken, .bind hrewrite.ends (.bind (.noteAll _) ?_)⟩
        rw [hrender]
        refine .bind (.pure text) (.bind (.note _) ?_)
        rw [if_neg (fun hfound => htaken (Entries.find?_isSome_iff.mp hfound))]
        exact .pure _

/-- Something becomes of positions in turn, and rendering them comes to that. -/
theorem renderEach_ends (config : Config) (indices : List Nat) (files : Files) (c : Collection) :
    ∃ result c', RenderSteps config indices files c result c' ∧
      (renderEach config indices files).Ends c result c' := by
  induction indices generalizing files c with
  | nil => exact ⟨_, _, .done, .pure _⟩
  | cons index rest ih =>
    obtain ⟨result, c₁, hstep, hends⟩ := renderOne_ends config files index c
    cases result with
    | error e => exact ⟨_, _, .failed hstep, .bind_error hends⟩
    | ok files₁ =>
      obtain ⟨result, c', hsteps, hrest⟩ := ih files₁ c₁
      exact ⟨_, _, .next hstep hsteps, .bind hends hrest⟩

/-- What every rewrite keeps is kept by rendering one position after the other. If only rewrites
that fail in a certain way may break it, it is enough that the rendering does not fail in that way.
-/
theorem RenderSteps.invariant {P : Collection → Prop} {Harmless : TransformError → Prop}
    (hrewrite : ∀ {c c' : Collection} {index : Nat} {result : Except TransformError Renderable},
      P c → (∀ e, result = .error e → Harmless e) → RewriteStep config c index result c' → P c')
    {indices : List Nat} {result : Except TransformError Files}
    (hsteps : RenderSteps config indices files c result c')
    (hresult : ∀ e, result = .error e → Harmless e) (hc : P c) : P c' := by
  induction hsteps with
  | done => exact hc
  | failed hstep =>
    cases hstep with
    | unrewritten hstep =>
      refine hrewrite hc ?_ hstep
      rintro e ⟨⟩
      exact hresult _ rfl
    | unrendered hstep | collision hstep => exact hrewrite hc (by simp) hstep
  | next hstep _ ih =>
    cases hstep with
    | added hstep => exact ih hresult (hrewrite hc (by simp) hstep)

/-- The files that do not depend on the resources. -/
def fixedFiles (config : Config) : Files :=
  [(mainStem, (mainDeclarations config).toText), (variablesStem, "")]

/-- Something becomes of a collection, and rendering it comes to that: without a valid alias nothing
happens, and with one the positions are rendered in turn. -/
theorem renderAll_ends (config : Config) (c : Collection) :
    ∃ result c', (renderAll config).Ends c result c' ∧
      ((¬config.AliasValid ∧ result = .error (.formatting mainStem) ∧ c' = c) ∨
        (config.AliasValid ∧
          RenderSteps config (List.range c.size) (fixedFiles config) c result c')) := by
  by_cases hvalid : config.AliasValid
  · obtain ⟨result, c', hsteps, hends⟩ :=
      renderEach_ends config (List.range c.size) (fixedFiles config) c
    refine ⟨result, c', ?_, .inr ⟨hvalid, hsteps⟩⟩
    unfold renderAll renderMain
    rw [if_pos hvalid]
    exact .bind (.pure _) (.bind .collection hends)
  · refine ⟨.error (.formatting mainStem), c, ?_, .inl ⟨hvalid, rfl, rfl⟩⟩
    unfold renderAll renderMain
    rw [if_neg hvalid]
    exact .bind_error (.throw _)

/-- What rendering a collection comes to. -/
theorem renderAll_steps {result : Except TransformError Files}
    (hout : (renderAll config).outcome c = (result, c')) :
    (¬config.AliasValid ∧ result = .error (.formatting mainStem) ∧ c' = c) ∨
      (config.AliasValid ∧
        RenderSteps config (List.range c.size) (fixedFiles config) c result c') := by
  obtain ⟨result₀, c₀, hends, hsteps⟩ := renderAll_ends config c
  obtain ⟨rfl, rfl⟩ := Prod.mk.inj (hends.outcome_eq.symm.trans hout)
  exact hsteps

end KubeHcl
