import KubeHcl.Proofs.Declarations
import KubeHcl.Proofs.ExtractedTexts
import KubeHcl.Proofs.Operations
import KubeHcl.Proofs.RenderRun

/-!
# One file for each resource

No resource is called like one of the fixed files, and the loop reports the first position whose
name an earlier one has. So the files that are returned are as many as the resources and the fixed
files together, in order, and a collision is reported exactly when there is one to reach.
-/

namespace KubeHcl

variable {config : Config} {c c' : Collection}

namespace Naming

/-- No resource is called like the file of the provider's declarations. -/
theorem identifier_ne_mainStem (r : Resource) : identifier r ≠ mainStem :=
  identifier_ne (by decide +kernel) r

/-- No resource is called like the file for variables. -/
theorem identifier_ne_variablesStem (r : Resource) : identifier r ≠ variablesStem :=
  identifier_ne (by decide +kernel) r

end Naming

/-- Position `k` is the first that has the name of an earlier one, and its name is `name`. -/
structure Collection.FirstRepeat (c : Collection) (k : Nat) (name : String) : Prop where
  named : c.names[k]? = some name
  repeated : ∃ j < k, c.names[j]? = some name
  first : ∀ i < k, ∀ j < i, c.names[j]? ≠ c.names[i]?

/-- A rewrite reports no collision of names. -/
theorem RewriteStep.ne_collision {index : Nat} {e : TransformError}
    (hstep : RewriteStep config c index (.error e) c') (name : String) :
    e ≠ .identifierCollision name := by
  cases hstep with
  | outOfRange => simp
  | conflict _ hns =>
    cases hns
    simp
  | malformed _ _ htext =>
    cases extractText_error_iff.mp htext <;> simp

/-- Rendering one resource reports no collision of names. -/
theorem Renderable.render_ne_collision (x : Renderable) (name : String) :
    x.render config ≠ .error (.identifierCollision name) := by
  intro herror
  rcases declaration_error (render_error herror) with he | he <;> cases he

namespace RenderedUpTo

variable {n : Nat} {files : Files}

/-- While turns succeed, no name is that of an earlier position. -/
theorem names_ne (h : RenderedUpTo config c n files) :
    ∀ i < n, ∀ j < i, c.names[j]? ≠ c.names[i]? := by
  intro i hi j hj heq
  have hnodup := h.nodup
  rw [h.names_eq, List.nodup_cons, List.nodup_cons] at hnodup
  obtain ⟨x, text, hturn, -⟩ := h.rendered i hi
  obtain ⟨hsize, -⟩ := List.getElem?_eq_some_iff.mp hturn.names_eq
  have hlt : j < (c.names.take n).length := by
    rw [List.length_take]
    omega
  have htaken : (c.names.take n)[j]? = (c.names.take n)[i]? := by
    rw [List.getElem?_take_of_lt (by omega), List.getElem?_take_of_lt hi, heq]
  have hij : j = i := (List.getElem?_inj hlt hnodup.2.2).mp htaken
  omega

/-- A resource's name is taken after `n` turns exactly when one of these positions has it. -/
theorem taken_iff (h : RenderedUpTo config c n files) (r : Resource) :
    Naming.identifier r ∈ files.map Prod.fst ↔
      ∃ j < n, c.names[j]? = some (Naming.identifier r) := by
  rw [h.names_eq, List.mem_cons, List.mem_cons]
  constructor
  · rintro (hmain | hvariables | htaken)
    · exact absurd hmain (Naming.identifier_ne_mainStem r)
    · exact absurd hvariables (Naming.identifier_ne_variablesStem r)
    · obtain ⟨j, hj⟩ := List.getElem?_of_mem htaken
      obtain ⟨hlt, -⟩ := List.getElem?_eq_some_iff.mp hj
      rw [List.length_take] at hlt
      rw [List.getElem?_take_of_lt (by omega)] at hj
      exact ⟨j, by omega, hj⟩
  · rintro ⟨j, hj, hname⟩
    rw [← List.getElem?_take_of_lt hj] at hname
    exact .inr (.inr (List.mem_of_getElem? hname))

end RenderedUpTo

/-- The turn in which rendering all resources stops reports a collision only if its position is the
first that has the name of an earlier one. -/
theorem RenderedUpTo.firstRepeat {k : Nat} {files : Files} {name : String}
    (hfiles : RenderedUpTo config c k files)
    (hstep : RenderStep config files k (c.rewrittenUpTo config k)
      (.error (.identifierCollision name)) c') :
    (∃ x text, RendersAt config c k x text) ∧ c.FirstRepeat k name := by
  generalize hcollision : TransformError.identifierCollision name = e at hstep
  cases hstep with
  | unrewritten hrewrite => exact absurd hcollision.symm (hrewrite.ne_collision name)
  | unrendered _ hrender =>
    subst hcollision
    exact absurd hrender (Renderable.render_ne_collision _ name)
  | collision hrewrite hrender htaken =>
    obtain rfl := TransformError.identifierCollision.inj hcollision
    have hturn : RendersAt config c k _ _ :=
      ⟨(Collection.eq_of_rewriteStep hrewrite).1, hrender⟩
    obtain ⟨r, -, hname⟩ := hturn.named
    rw [hname, hfiles.taken_iff] at htaken
    exact ⟨⟨_, _, hturn⟩, hturn.names_eq, hname ▸ htaken, hfiles.names_ne⟩

/-- A turn in which the resource is rendered can only fail since its name is taken. -/
theorem RenderStep.collides {k : Nat} {files : Files} {x : Renderable} {text : String}
    {e : TransformError} (hturn : RendersAt config c k x text)
    (hstep : RenderStep config files k (c.rewrittenUpTo config k) (.error e) c') :
    e = .identifierCollision x.identifier ∧ x.identifier ∈ files.map Prod.fst := by
  cases hstep with
  | unrewritten hrewrite =>
    have hresult := hturn.1.symm.trans (Collection.eq_of_rewriteStep hrewrite).1
    cases hresult
  | unrendered hrewrite hrender =>
    have hresult := hturn.1.symm.trans (Collection.eq_of_rewriteStep hrewrite).1
    cases hresult
    cases hturn.2.symm.trans hrender
  | collision hrewrite hrender htaken =>
    have hresult := hturn.1.symm.trans (Collection.eq_of_rewriteStep hrewrite).1
    cases hresult
    exact ⟨rfl, htaken⟩

/-- When the turns succeed up to the first position that has the name of an earlier one, rendering
all resources reports this name. -/
theorem renderAll_collision {k : Nat} {name : String} (hvalid : config.AliasValid)
    (hturns : ∀ i ≤ k, ∃ x text, RendersAt config c i x text) (hrepeat : c.FirstRepeat k name) :
    ((renderAll config).outcome c).1 = .error (.identifierCollision name) := by
  obtain ⟨j, hj, hsame⟩ := hrepeat.repeated
  rcases hout : (renderAll config).outcome c with ⟨result, c'⟩
  -- No more than `k` turns can have succeeded.
  have hatmost : ∀ {n files}, RenderedUpTo config c n files → n ≤ k := by
    intro n files hfiles
    by_contra hlt
    exact hfiles.names_ne k (by omega) j hj (hsame.trans hrepeat.named.symm)
  cases result with
  | ok files =>
    obtain ⟨-, hfiles, -⟩ := renderAll_ok hout
    obtain ⟨hlt, -⟩ := List.getElem?_eq_some_iff.mp hrepeat.named
    have hle := hatmost hfiles
    rw [Collection.names, List.length_map] at hlt
    exact absurd hlt (Nat.not_lt.mpr hle)
  | error e =>
    rcases renderAll_error hout with ⟨hinvalid, -⟩ | ⟨-, n, files, -, hfiles, hstep⟩
    · exact absurd hvalid hinvalid
    obtain ⟨x, text, hturn⟩ := hturns n (hatmost hfiles)
    obtain ⟨rfl, htaken⟩ := hstep.collides hturn
    obtain ⟨r, -, hname⟩ := hturn.named
    rw [hname, hfiles.taken_iff] at htaken
    obtain ⟨i, hi, hearlier⟩ := htaken
    rcases Nat.lt_or_eq_of_le (hatmost hfiles) with hlt | rfl
    · exact absurd (hearlier.trans (hname ▸ hturn.names_eq.symm)) (hrepeat.first n hlt i hi)
    · have hnamed := Option.some.inj (hturn.names_eq.symm.trans hrepeat.named)
      rw [hnamed]

/-- Rendering a collection returns one file for each resource, in order, after the two fixed ones,
and each has what was rendered for its resource. It reports a collision exactly when it reaches one,
and then the first. No resource is called like a fixed file, so only resources collide. -/
theorem one_file_per_resource (config : Config) (c : Collection) :
    (∀ files c', (renderAll config).outcome c = (.ok files, c') →
      files.length = c.size + 2 ∧
        files.map Prod.fst = mainStem :: variablesStem :: c.resources.map Naming.identifier ∧
        (files.map Prod.fst).Nodup ∧
        files[0]? = some (mainStem, (mainDeclarations config).toText) ∧
        files[1]? = some (variablesStem, "") ∧
        ∀ i r, c.get? i = some r → ∃ x text, RendersAt config c i x text ∧
          files[i + 2]? = some (Naming.identifier r, text)) ∧
      (∀ r : Resource, Naming.identifier r ≠ mainStem ∧ Naming.identifier r ≠ variablesStem) ∧
      ∀ name, ((renderAll config).outcome c).1 = .error (.identifierCollision name) ↔
        config.AliasValid ∧
          ∃ k, (∀ i ≤ k, ∃ x text, RendersAt config c i x text) ∧ c.FirstRepeat k name := by
  refine ⟨?files, ?stems, ?collision⟩
  case files =>
    intro files c' hok
    obtain ⟨-, hfiles, -⟩ := renderAll_ok hok
    have hnames : c.names.take c.size = c.resources.map Naming.identifier := by
      rw [Collection.names, Collection.size, ← List.map_take, List.take_length]
    refine ⟨hfiles.length_eq, hnames ▸ hfiles.names_eq, hfiles.nodup, ?_, ?_, ?_⟩
    · rw [← List.getElem?_take_of_lt (by decide : 0 < 2), hfiles.fixed]
      rfl
    · rw [← List.getElem?_take_of_lt (by decide : 1 < 2), hfiles.fixed]
      rfl
    · intro i r hget
      obtain ⟨x, text, hturn, hfile⟩ := hfiles.rendered i (Collection.lt_size_of_get? hget)
      obtain ⟨s, hs, hname⟩ := hturn.named
      obtain rfl := Option.some.inj (hs.symm.trans hget)
      exact ⟨x, text, hturn, hname ▸ hfile⟩
  case stems =>
    intro r
    exact ⟨Naming.identifier_ne_mainStem r, Naming.identifier_ne_variablesStem r⟩
  case collision =>
    intro name
    constructor
    · intro herror
      rcases hout : (renderAll config).outcome c with ⟨result, c'⟩
      rw [hout] at herror
      dsimp only at herror
      subst herror
      rcases renderAll_error hout with ⟨-, he, -⟩ | ⟨hvalid, k, files, -, hfiles, hstep⟩
      · cases he
      · obtain ⟨hlast, hrepeat⟩ := hfiles.firstRepeat hstep
        refine ⟨hvalid, k, ?_, hrepeat⟩
        intro i hi
        rcases Nat.lt_or_eq_of_le hi with hlt | rfl
        · obtain ⟨x, text, hturn, -⟩ := hfiles.rendered i hlt
          exact ⟨x, text, hturn⟩
        · exact hlast
    · rintro ⟨hvalid, k, hturns, hrepeat⟩
      exact renderAll_collision hvalid hturns hrepeat

/-- The two resources of a small collection can be rendered. -/
theorem memberFirst_renders : ((renderAll {}).outcome .memberFirst).1.isOk = true := by
  decide +kernel

/-- A service account in a namespace, whose metadata goes on with the given entries. -/
def Resource.serviceAccount (ns : String) (more : List (String × Tree)) : Resource where
  origin := ⟨"", "v1", "ServiceAccount", ns, "svc"⟩
  id := ⟨"", "v1", "ServiceAccount", ns, "svc"⟩
  fields :=
    [("apiVersion", .text "v1"), ("kind", .text "ServiceAccount"),
      ("metadata", .map (("name", .text "svc") :: more))]

/-- The service accounts without a namespace and in the one that is called like what stands in for
none. -/
def Collection.serviceAccounts : Collection :=
  ⟨[.serviceAccount "" [], .serviceAccount "~X" [("namespace", .text "~X")]]⟩

/-- A resource that is seen to be rewritten and rendered in its turn. -/
theorem exists_rendersAt {i : Nat}
    (hok : (((rewrite config i).outcome (c.rewrittenUpTo config i)).1.bind
      (·.render config)).isOk = true) : ∃ x text, RendersAt config c i x text := by
  cases hrewrite : ((rewrite config i).outcome (c.rewrittenUpTo config i)).1 with
  | error e =>
    rw [hrewrite] at hok
    cases hok
  | ok x =>
    cases hrender : x.render config with
    | error e =>
      rw [hrewrite, Except.bind, hrender] at hok
      cases hok
    | ok text => exact ⟨x, text, hrewrite, hrender⟩

/-- The text of the file that declares the namespace `acme`. -/
def acmeText : String :=
  "\n".intercalate ["resource \"kubernetes_manifest\" \"Namespace_acme_bf2a56b\" \x7b",
    "  provider = kubernetes-alpha", "  manifest = \x7b", "    \"apiVersion\" = \"v1\"",
    "    \"kind\" = \"Namespace\"", "    \"metadata\" = \x7b", "      \"name\" = \"acme\"",
    "    \x7d", "  \x7d", "\x7d", ""]

/-- The small collection is rendered to four files, and the last one declares the namespace.
Rendering the service accounts reports the name that both of them have. -/
theorem memberFirst_files :
    (∃ files c', (renderAll {}).outcome .memberFirst = (.ok files, c') ∧ files.length = 4 ∧
      files.map Prod.fst =
        ["_main", "_variables", Naming.identifier .settings, Naming.identifier .acme] ∧
      files[3]? = some ("Namespace_acme_bf2a56b", acmeText)) ∧
      ((renderAll {}).outcome .serviceAccounts).1 =
        .error (.identifierCollision "ServiceAccount_svc_e4c2cd0") := by
  constructor
  · obtain ⟨files, c', hout⟩ := Task.exists_of_isOk memberFirst_renders
    obtain ⟨hlength, hstems, -, -, -, hentries⟩ :=
      (one_file_per_resource {} .memberFirst).1 files c' hout
    obtain ⟨x, text, hturn, hentry⟩ := hentries 1 .acme rfl
    have hname : Naming.identifier .acme = "Namespace_acme_bf2a56b" := by decide +kernel
    have htext : (((rewrite {} 1).outcome (Collection.memberFirst.rewrittenUpTo {} 1)).1.bind
        (·.render {})).toOption = some acmeText := by
      decide +kernel
    rw [hturn.1, Except.bind, hturn.2] at htext
    obtain rfl : text = acmeText := Option.some.inj htext
    exact ⟨files, c', hout, hlength, hstems, hname ▸ hentry⟩
  · refine ((one_file_per_resource {} .serviceAccounts).2.2 _).mpr
      ⟨by decide +kernel, 1, fun i hi => ?turns, ?named, ⟨0, Nat.one_pos, ?repeated⟩, ?first⟩
    case turns =>
      rcases Nat.le_one_iff_eq_zero_or_eq_one.mp hi with rfl | rfl
      · exact exists_rendersAt (by decide +kernel)
      · exact exists_rendersAt (by decide +kernel)
    case named => decide +kernel
    case repeated => decide +kernel
    case first =>
      intro i hi j hj
      omega

end KubeHcl
