import KubeHcl.Proofs.Additions
import KubeHcl.Proofs.References
import KubeHcl.Proofs.RewriteChanges

/-!
# Where a rendering stops

When not all resources can be rendered, there is one position at which the rendering stops. The
positions before it had their turns, and each of them holds what it was rewritten to. The position
itself holds what its turn left, and that depends on what failed. The turns of the positions after
it never came. So the failure is the first there is, and it settles the whole collection.
-/

namespace KubeHcl

variable {config : Config} {c c' c'' : Collection}

namespace Collection

/-- Rewrites keep what every position was loaded as. -/
theorem Rewrites.origins_eq (h : Relation.ReflTransGen Rewrites c c') :
    c'.resources.map Resource.origin = c.resources.map Resource.origin := by
  have hkept : ∀ r₀ r r' : Resource, r.origin = r₀.origin → r.Rewritten r' →
      r'.origin = r₀.origin :=
    fun _ _ _ hbefore hrewritten => hrewritten.origin_eq.trans hbefore
  have horigins := Rewrites.forall₂ hkept h (List.forall₂_same.mpr fun _ _ => rfl)
  have hmapped := List.forall₂_map_left_iff.mpr (List.forall₂_map_right_iff.mpr horigins.flip)
  rwa [List.forall₂_eq_eq_eq] at hmapped

end Collection

/-- Within a collection a rewrite fails for a conflict of identities or for malformed data. -/
theorem RewriteStep.error_cases {index : Nat} {e : TransformError}
    (hstep : RewriteStep config c index (.error e) c') (hlt : index < c.size) :
    (∃ id matching, e = .identityConflict id matching) ∨
      ∃ id field expected found, e = .malformedField id field expected found := by
  cases hstep with
  | outOfRange hnone =>
    have hle : c.size ≤ index := List.getElem?_eq_none_iff.mp hnone
    omega
  | conflict _ hns =>
    cases hns
    exact .inl ⟨_, _, rfl⟩
  | malformed _ _ htext =>
    cases extractText_error_iff.mp htext <;> exact .inr ⟨_, _, _, _, rfl⟩

/-- In its turn, position `i` becomes a file: it is rewritten to `x` and rendered to `text`, and no
earlier position has its name. -/
structure FiledAt (config : Config) (c : Collection) (i : Nat) (x : Renderable) (text : String) :
    Prop where
  rendered : RendersAt config c i x text
  free : ∀ j < i, c.names[j]? ≠ some x.identifier

/-- In its turn, position `k` fails with `e` and is left with `r`. -/
inductive FailsAt (config : Config) (c : Collection) (k : Nat) : TransformError → Resource → Prop
  /-- It cannot be rewritten, and holds what the rewrite left. -/
  | unrewritten {e : TransformError} {r : Resource}
      (hrewrite : ((rewrite config k).outcome (c.rewrittenUpTo config k)).1 = .error e)
      (hleft : ((rewrite config k).outcome (c.rewrittenUpTo config k)).2.get? k = some r)
      (herror : (∃ id matching, e = .identityConflict id matching) ∨
        ∃ id field expected found, e = .malformedField id field expected found) :
      FailsAt config c k e r
  /-- It is rewritten, but the declaration cannot be written. -/
  | unrendered {x : Renderable} {e : TransformError}
      (hrewrite : ((rewrite config k).outcome (c.rewrittenUpTo config k)).1 = .ok x)
      (hrender : x.render config = .error e)
      (herror : e = .normalize x.identifier ∨ e = .formatting x.identifier) :
      FailsAt config c k e x.resource
  /-- It is rewritten and rendered, but an earlier position has its name. -/
  | collision {x : Renderable} {text : String} (hturn : RendersAt config c k x text)
      (htaken : ∃ j < k, c.names[j]? = some x.identifier) :
      FailsAt config c k (.identifierCollision x.identifier) x.resource

/-- Rendering the collection `c` stops at position `k` with the failure `e`, and leaves `c'`. -/
structure StopsAt (config : Config) (c : Collection) (k : Nat) (e : TransformError)
    (c' : Collection) : Prop where
  inside : k < c.size
  /-- The positions before became files, and hold what they were rewritten to. -/
  earlier : ∀ i < k, ∃ x text, FiledAt config c i x text ∧ c'.get? i = some x.resource
  /-- The position fails, and holds what it is left with then. -/
  failing : ∃ r, FailsAt config c k e r ∧ c'.get? k = some r
  /-- The positions after it are as they were. -/
  later : ∀ i, k < i → c'.get? i = c.get? i

section Unique

variable {k k' : Nat} {e e' : TransformError} {r r' : Resource}

/-- A position that fails does not become a file. -/
theorem FailsAt.not_filedAt (h : FailsAt config c k e r) {x : Renderable} {text : String} :
    ¬FiledAt config c k x text := by
  rintro ⟨hturn, hfree⟩
  cases h with
  | unrewritten hrewrite => cases hturn.1.symm.trans hrewrite
  | unrendered hrewrite hrender =>
    cases hturn.1.symm.trans hrewrite
    cases hturn.2.symm.trans hrender
  | collision hturn' htaken =>
    obtain ⟨rfl, -⟩ := hturn.unique hturn'
    obtain ⟨j, hj, hname⟩ := htaken
    exact hfree j hj hname

/-- It fails in one way only. -/
theorem FailsAt.unique (h : FailsAt config c k e r) (h' : FailsAt config c k e' r') :
    e = e' ∧ r = r' := by
  cases h with
  | unrewritten hrewrite hleft =>
    cases h' with
    | unrewritten hrewrite' hleft' =>
      exact ⟨Except.error.inj (hrewrite.symm.trans hrewrite'),
        Option.some.inj (hleft.symm.trans hleft')⟩
    | unrendered hrewrite' => cases hrewrite.symm.trans hrewrite'
    | collision hturn' => cases hrewrite.symm.trans hturn'.1
  | unrendered hrewrite hrender =>
    cases h' with
    | unrewritten hrewrite' => cases hrewrite.symm.trans hrewrite'
    | unrendered hrewrite' hrender' =>
      cases hrewrite.symm.trans hrewrite'
      exact ⟨Except.error.inj (hrender.symm.trans hrender'), rfl⟩
    | collision hturn' =>
      cases hrewrite.symm.trans hturn'.1
      cases hrender.symm.trans hturn'.2
  | collision hturn =>
    cases h' with
    | unrewritten hrewrite' => cases hturn.1.symm.trans hrewrite'
    | unrendered hrewrite' hrender' =>
      cases hturn.1.symm.trans hrewrite'
      cases hturn.2.symm.trans hrender'
    | collision hturn' =>
      obtain ⟨rfl, -⟩ := hturn.unique hturn'
      exact ⟨rfl, rfl⟩

/-- A rendering does not stop before the position at which it stops. -/
theorem StopsAt.le (h : StopsAt config c k e c') (h' : StopsAt config c k' e' c'') : k ≤ k' := by
  by_contra hlt
  obtain ⟨x, text, hfiled, -⟩ := h.earlier k' (by omega)
  obtain ⟨r, hfails, -⟩ := h'.failing
  exact hfails.not_filedAt hfiled

/-- It stops in one way only, and leaves one collection. -/
theorem StopsAt.unique (h : StopsAt config c k e c') (h' : StopsAt config c k' e' c'') :
    e = e' ∧ c' = c'' := by
  obtain rfl : k = k' := Nat.le_antisymm (h.le h') (h'.le h)
  obtain ⟨r, hfails, hget⟩ := h.failing
  obtain ⟨r', hfails', hget'⟩ := h'.failing
  obtain ⟨he, rfl⟩ := hfails.unique hfails'
  refine ⟨he, Collection.ext_get? fun i => ?_⟩
  rcases Nat.lt_trichotomy i k with hlt | rfl | hgt
  · obtain ⟨x, text, hfiled, hx⟩ := h.earlier i hlt
    obtain ⟨x', text', hfiled', hx'⟩ := h'.earlier i hlt
    obtain ⟨rfl, -⟩ := hfiled.rendered.unique hfiled'.rendered
    rw [hx, hx']
  · rw [hget, hget']
  · rw [h.later i hgt, h'.later i hgt]

end Unique

/-- The positions that had successful turns became files. -/
theorem RenderedUpTo.filedAt {n i : Nat} {files : Files} (h : RenderedUpTo config c n files)
    (hi : i < n) : ∃ x text, FiledAt config c i x text := by
  obtain ⟨x, text, hturn, -⟩ := h.rendered i hi
  refine ⟨x, text, hturn, fun j hj => ?_⟩
  rw [← hturn.names_eq]
  exact h.names_ne i hi j hj

/-- A turn that fails after successful ones fails like that, and leaves what its rewrite leaves. -/
theorem RenderStep.failsAt {k : Nat} {files : Files} {e : TransformError} (hlt : k < c.size)
    (hfiles : RenderedUpTo config c k files)
    (hstep : RenderStep config files k (c.rewrittenUpTo config k) (.error e) c') :
    c' = c.rewrittenUpTo config (k + 1) ∧ ∃ r, FailsAt config c k e r ∧ c'.get? k = some r := by
  have hlt' : k < (c.rewrittenUpTo config k).size := by rwa [Collection.size_rewrittenUpTo]
  cases hstep with
  | unrewritten hrewrite =>
    obtain ⟨hresult, rfl⟩ := Collection.eq_of_rewriteStep hrewrite
    obtain ⟨r, hget, -⟩ := hrewrite.rewritten (List.getElem?_eq_getElem hlt')
    exact ⟨rfl, r, .unrewritten hresult hget (hrewrite.error_cases hlt'), hget⟩
  | unrendered hrewrite hrender =>
    obtain ⟨hresult, rfl⟩ := Collection.eq_of_rewriteStep hrewrite
    obtain ⟨-, -, -, hstored⟩ := hrewrite.stored
    have herror := Renderable.declaration_error (Renderable.render_error hrender)
    exact ⟨rfl, _, .unrendered hresult hrender herror, hstored⟩
  | collision hrewrite hrender htaken =>
    obtain ⟨hresult, rfl⟩ := Collection.eq_of_rewriteStep hrewrite
    have hturn : RendersAt config c k _ _ := ⟨hresult, hrender⟩
    obtain ⟨r, -, hname⟩ := hturn.named
    rw [hname, hfiles.taken_iff, ← hname] at htaken
    exact ⟨rfl, _, .collision hturn htaken, hturn.stored (Nat.lt_succ_self k)⟩

/-- Whether it fails or not, a rendering leaves what some number of turns leaves. -/
theorem renderAll_rewrittenUpTo {result : Except TransformError Files}
    (hout : (renderAll config).outcome c = (result, c')) :
    ∃ n, c' = c.rewrittenUpTo config n := by
  cases result with
  | ok files => exact ⟨c.size, (renderAll_ok hout).2.2⟩
  | error e =>
    rcases renderAll_error hout with ⟨-, -, hc'⟩ | ⟨-, k, files, hlt, hfiles, hstep⟩
    · exact ⟨0, hc'⟩
    · exact ⟨k + 1, (hstep.failsAt hlt hfiles).1⟩

/-- With a valid alias, a rendering that fails stops at some position. -/
theorem renderAll_stopsAt {e : TransformError} (hvalid : config.AliasValid)
    (herror : (renderAll config).outcome c = (.error e, c')) : ∃ k, StopsAt config c k e c' := by
  rcases renderAll_error herror with ⟨hinvalid, -⟩ | ⟨-, k, files, hlt, hfiles, hstep⟩
  · exact absurd hvalid hinvalid
  obtain ⟨rfl, hfailing⟩ := hstep.failsAt hlt hfiles
  refine ⟨k, hlt, ?earlier, hfailing, ?later⟩
  case earlier =>
    intro i hi
    obtain ⟨x, text, hfiled⟩ := hfiles.filedAt hi
    exact ⟨x, text, hfiled, hfiled.rendered.stored (by omega)⟩
  case later =>
    intro i hi
    exact Collection.get?_rewrittenUpTo_of_le config (by omega)

/-- Where there is a position to stop at, the rendering stops there. -/
theorem StopsAt.renderAll {k : Nat} {e : TransformError} (hvalid : config.AliasValid)
    (h : StopsAt config c k e c') : (renderAll config).outcome c = (.error e, c') := by
  rcases hout : (KubeHcl.renderAll config).outcome c with ⟨result, c₁⟩
  cases result with
  | ok files =>
    obtain ⟨-, hfiles, -⟩ := renderAll_ok hout
    obtain ⟨x, text, hfiled⟩ := hfiles.filedAt h.inside
    obtain ⟨r, hfails, -⟩ := h.failing
    exact absurd hfiled hfails.not_filedAt
  | error e₁ =>
    obtain ⟨k₁, hstops⟩ := renderAll_stopsAt hvalid hout
    obtain ⟨rfl, rfl⟩ := hstops.unique h
    rfl

/-- Rendering a collection fails exactly in one of two ways: without a valid alias, and then nothing
was changed, or with the first position whose turn fails, and then it stops there. In any case it
leaves as many resources, each loaded as what it was loaded as. -/
theorem rendering_stops (config : Config) (c : Collection) :
    (∀ e c', (renderAll config).outcome c = (.error e, c') ↔
      (¬config.AliasValid ∧ e = .formatting mainStem ∧ c' = c) ∨
        (config.AliasValid ∧ ∃ k, StopsAt config c k e c')) ∧
      ∀ result c', (renderAll config).outcome c = (result, c') →
        c'.size = c.size ∧ c'.resources.map Resource.origin = c.resources.map Resource.origin := by
  constructor
  · intro e c'
    constructor
    · intro herror
      rcases renderAll_error herror with hinvalid | ⟨hvalid, -⟩
      · exact .inl hinvalid
      · exact .inr ⟨hvalid, renderAll_stopsAt hvalid herror⟩
    · rintro (⟨hinvalid, rfl, rfl⟩ | ⟨hvalid, k, hstops⟩)
      · rcases hout : (renderAll config).outcome c' with ⟨result, c₁⟩
        rcases renderAll_steps hout with ⟨-, rfl, rfl⟩ | ⟨hvalid, -⟩
        · rfl
        · exact absurd hvalid hinvalid
      · exact hstops.renderAll hvalid
  · intro result c' hout
    have hrewrites := renderAll_rewrites hout
    exact ⟨Collection.Rewrites.size_eq hrewrites, Collection.Rewrites.origins_eq hrewrites⟩

/-- Two resources and the declaration of their namespace, where the data of the second one has a
number. -/
def Collection.interrupted : Collection := ⟨[.annotated, .limits, .acme]⟩

/-- Rendering them stops at the second one, behind the first, which was rewritten, and before the
declaration. -/
theorem interrupted_stops : ∃ c',
    StopsAt {} .interrupted 1
      (.malformedField ⟨"", "v1", "ConfigMap", "###NamespaceRef_acme###", "limits"⟩
        "data.most" "a string" "a number") c' ∧ c'.size = 3 ∧ c'.get? 2 = some .acme := by
  have hresult : ((renderAll {}).outcome .interrupted).1 = .error (.malformedField
      ⟨"", "v1", "ConfigMap", "###NamespaceRef_acme###", "limits"⟩
        "data.most" "a string" "a number") := by
    decide +kernel
  have hout := Prod.eta ((renderAll {}).outcome .interrupted)
  rw [hresult] at hout
  obtain ⟨hfails, hkept⟩ := rendering_stops {} .interrupted
  rcases (hfails _ _).mp hout.symm with ⟨-, he, -⟩ | ⟨-, k, hstops⟩
  · cases he
  have hfirst : ((rewrite {} 0).outcome .interrupted).1.isOk = true := by decide +kernel
  have hsecond :
      ((rewrite {} 1).outcome (Collection.interrupted.rewrittenUpTo {} 1)).1.isOk = false := by
    decide +kernel
  have hle : k ≤ 1 := by
    by_contra hlt
    obtain ⟨x, text, hfiled, -⟩ := hstops.earlier 1 (by omega)
    rw [hfiled.rendered.1] at hsecond
    cases hsecond
  have hne : k ≠ 0 := by
    rintro rfl
    obtain ⟨r, hfailing, -⟩ := hstops.failing
    cases hfailing with
    | unrewritten hrewrite =>
      rw [Collection.rewrittenUpTo] at hrewrite
      rw [hrewrite] at hfirst
      cases hfirst
    | unrendered _ _ herror => rcases herror with he | he <;> cases he
  obtain rfl : k = 1 := by omega
  exact ⟨_, hstops, (hkept _ _ hout.symm).1, hstops.later 2 (by decide)⟩

end KubeHcl
