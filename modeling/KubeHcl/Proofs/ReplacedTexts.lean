import KubeHcl.Proofs.Additions
import KubeHcl.Proofs.FileDependence
import KubeHcl.Proofs.ReadBack
import KubeHcl.Proofs.TokenPlaces

/-!
# What the manifest replaces

Between the document of a resource as a rewrite finds it and the manifest, there is no difference
but in texts. Those that this rewrite replaced by tokens are written as what was recorded for them,
and any other text as it was, with one exception: a text that by itself is one of the recorded
tokens in its wrapped form. An annotation may be such a text, and it is not kept. The first rewrite
of a resource finds its document as it was loaded; a second one finds in it the tokens of the first.
-/

namespace KubeHcl

open Hcl (Expression)

variable {config : Config} {c c' : Collection} {index : Nat}

/-- A namespace is referred to exactly when it is declared. -/
theorem Collection.isSome_referenceTo (config : Config) (c : Collection) (ns : String) :
    (c.referenceTo config ns).isSome = c.declares ns := by
  by_cases hns : ns = "" <;> simp [referenceTo, declares, hns]

/-- The manifest of a resource that was rewritten and declared is, but for texts, the expression of
the normalized document that this rewrite found. The namespace, if it is declared, and the texts
that are moved out of the data have given way to what was recorded for them. Any other text is a
literal as it was, unless it is by itself the wrapped form of a token that was recorded: that of the
resource's own namespace, if it is declared, or of a text that was moved out of its own data. -/
theorem manifest_replaces_only_tokens {x : Renderable} {r : Resource} {body : Hcl.Body}
    (hc : c.Genuine) (hget : c.get? index = some r)
    (hrewrite : (rewrite config index).outcome c = (.ok x, c'))
    (hdeclaration : x.declaration config = .ok body) :
    ∃ loaded write, normalize r = .ok loaded ∧
      .ofTree loaded = Expression.ofTreeAt (fun _ s => .text s) loaded ∧
      body = x.block config (.ofTreeAt write loaded) ∧
      (∀ place s, (place, s) ∈ loaded.textsAt →
        Resource.WrittenAs (c.declares r.ns) x.placeholders place s (write place s)) ∧
      ∀ token placeholder, (token, placeholder) ∈ x.placeholders →
        (r.ns ≠ "" ∧ ∃ declaration, c.find? (.namespaceCalled r.ns) = some declaration ∧
          token = .ofNamespace r.ns ∧ placeholder = namespaceReference config declaration) ∨
        ∃ payload ∈ r.payloads, (token, placeholder) = recordedPayload payload := by
  have hstep := rewrite_outcome_iff.mp hrewrite
  have hmem := List.mem_of_getElem? hget
  obtain ⟨hobtainable, hkeys⟩ := hc.wellFormed r hmem
  have hr := hobtainable.consistent
  obtain ⟨-, manifest, hmanifest, rfl⟩ := Renderable.declaration_ok hdeclaration
  obtain ⟨rfl, -⟩ := hstep.eq_renderable hget
  have hne : (c.referenceTo config r.ns).isSome = true → r.ns ≠ "" :=
    fun hsome => (Collection.referenceTo_isSome_iff.mp hsome).1
  obtain ⟨loaded, hloaded, htexts, rfl⟩ := Resource.renderable_manifest hr hkeys hne hmanifest
  refine ⟨loaded, _, hloaded, (Expression.ofTreeAt_text loaded).symm, rfl, ?_,
    fun token placeholder => hstep.mem_placeholders hget⟩
  intro place s hplace
  rw [← Collection.isSome_referenceTo config]
  exact Resource.writtenAs_replaceText hr hkeys (htexts ▸ hplace)

/-- In the manifest of the first resource of the small collection, the namespace is a reference, the
text of the data a heredoc, and the name is the literal that it was. -/
theorem memberFirst_replaces_only_tokens :
    ∃ x c' body write, (rewrite {} 0).outcome .memberFirst = (.ok x, c') ∧
      x.declaration {} = .ok body ∧
      body = x.block {} (.ofTreeAt write Resource.settings.tree) ∧
      write [.key "metadata", .key "namespace"] "acme" =
        (namespaceReference {} .acme).toExpression ∧
      write [.key "data", .key "motd"] "Hello, $\x7bname\x7d\n" =
        .heredoc (Hcl.Heredoc.ofText "Hello, $\x7bname\x7d\n") ∧
      write [.key "metadata", .key "name"] "settings" = .text "settings" := by
  obtain ⟨files, _, hout⟩ := Task.exists_of_isOk memberFirst_renders
  obtain ⟨-, hfiles, -⟩ := renderAll_ok hout
  obtain ⟨x, text, hturn, -⟩ := hfiles.rendered 0 (by decide)
  obtain ⟨body, hdeclaration, -⟩ := Renderable.render_ok hturn.2
  have hrewrite := rewrite_outcome_iff.mpr hturn.step
  obtain ⟨loaded, write, hloaded, -, hbody, hwritten, hrecorded⟩ :=
    manifest_replaces_only_tokens Collection.memberFirst_genuine rfl hrewrite hdeclaration
  have hnormal : normalize .settings = .ok Resource.settings.tree := by decide +kernel
  obtain rfl := Except.ok.inj (hnormal.symm.trans hloaded)
  refine ⟨x, _, body, write, hrewrite, hdeclaration, hbody, ?reference, ?heredoc, ?name⟩
  case reference =>
    have hwrite := hwritten [.key "metadata", .key "namespace"] "acme" (by decide)
    obtain ⟨placeholder, hfound, hexpression⟩ := hwrite.eq_placeholder rfl
    rcases hrecorded _ _ (Entries.mem_of_find? hfound) with
      ⟨-, declaration, hdeclared, -, rfl⟩ | ⟨payload, -, heq⟩
    · obtain rfl : Resource.acme = declaration := Option.some.inj hdeclared
      exact hexpression
    · exact absurd (Prod.mk.inj heq).1 (Token.ofNamespace_ne_ofPayload _ _)
  case heredoc =>
    have hwrite := hwritten [.key "data", .key "motd"] "Hello, $\x7bname\x7d\n" (by decide)
    obtain ⟨placeholder, hfound, hexpression⟩ := hwrite.eq_placeholder rfl
    rcases hrecorded _ _ (Entries.mem_of_find? hfound) with
      ⟨-, -, -, htoken, -⟩ | ⟨payload, hpayload, heq⟩
    · exact absurd htoken.symm (Token.ofNamespace_ne_ofPayload _ _)
    · obtain rfl : payload = "Hello, $\x7bname\x7d\n" := List.mem_singleton.mp hpayload
      obtain ⟨-, rfl⟩ := Prod.mk.inj heq
      exact hexpression
  case name => exact (hwritten _ "settings" (by decide)).eq_text rfl (by decide)

/-- A resource in the namespace `acme` with an annotation that is the token of this namespace in its
wrapped form. -/
def Resource.annotated : Resource where
  origin := ⟨"", "v1", "ServiceAccount", "acme", "svc"⟩
  id := ⟨"", "v1", "ServiceAccount", "acme", "svc"⟩
  fields :=
    [("apiVersion", .text "v1"), ("kind", .text "ServiceAccount"),
      ("metadata", .map [("name", .text "svc"), ("namespace", .text "acme"),
        ("annotations", .map [("note", .text "###NamespaceRef_acme###")])])]

/-- The declaration of the namespace and the resource with the annotation. -/
def Collection.annotated : Collection := ⟨[.acme, .annotated]⟩

/-- In the manifest of that resource, the annotation is not the literal that it was: there is no way
to write the texts of its document that gives the manifest and writes as literals all those that
stand neither for the namespace nor for a text of the data. -/
theorem annotation_taken_for_token :
    Collection.annotated.Loaded ∧ Collection.annotated.get? 1 = some .annotated ∧
      ∃ x c' body loaded, (rewrite {} 1).outcome .annotated = (.ok x, c') ∧
        x.declaration {} = .ok body ∧ normalize .annotated = .ok loaded ∧
        ¬∃ write, body = x.block {} (.ofTreeAt write loaded) ∧
          ∀ place s, (place, s) ∈ loaded.textsAt → place.isNamespace = false →
            place.isData = false → write place s = .text s := by
  obtain ⟨x, c', body, hrewrite, hdeclaration⟩ :=
    @exists_declaration {} .annotated 1 (by decide +kernel)
  have hnormal : normalize .annotated = .ok Resource.annotated.tree := by decide +kernel
  refine ⟨⟨[.insert .acme, .insert .annotated], ?_, rfl⟩, rfl, x, c', body, _, hrewrite,
    hdeclaration, hnormal, ?_⟩
  · simp only [List.mem_cons, List.not_mem_nil, or_false, forall_eq_or_imp, forall_eq]
    exact ⟨⟨Resource.acme.tree, rfl⟩, ⟨Resource.annotated.tree, rfl⟩⟩
  · rintro ⟨write, hbody, hliteral⟩
    have hget : Collection.annotated.get? 1 = some .annotated := rfl
    have hr : Resource.annotated.Consistent :=
      (Resource.Obtainable.ofTree (t := Resource.annotated.tree) rfl).consistent
    have hkeys : Resource.annotated.tree.DistinctKeys := by
      simp [Resource.annotated, Resource.tree, Tree.DistinctKeys, Tree.DistinctKeysEntries]
    obtain ⟨rfl, -⟩ := (rewrite_outcome_iff.mp hrewrite).eq_renderable hget
    obtain ⟨-, manifest, hmanifest, hbody'⟩ := Renderable.declaration_ok hdeclaration
    obtain ⟨loaded, hloaded, -, rfl⟩ :=
      Resource.renderable_manifest hr hkeys (fun _ => by decide) hmanifest
    obtain rfl := Except.ok.inj (hnormal.symm.trans hloaded)
    -- The annotation is written as the text of the token is replaced.
    have hsame := (Expression.ofTreeAt_eq_iff _).mp (Renderable.block_inj (hbody.symm.trans hbody'))
    have hnote := hsame ([.key "metadata", .key "annotations", .key "note"],
      (Token.ofNamespace "acme").wrapped) (by decide)
    rw [hliteral _ _ (by decide) rfl rfl] at hnote
    have hreplaced := @Resource.renderable_replaceText_wrapped .annotated
      (Collection.annotated.referenceTo {} "acme") (.ofNamespace "acme") _ rfl
    exact absurd (hnote.trans hreplaced) (by simp [Placeholder.toExpression, namespaceReference])

end KubeHcl
