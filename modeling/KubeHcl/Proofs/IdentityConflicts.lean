import KubeHcl.Proofs.DistinctNames
import KubeHcl.Proofs.StoppedRendering

/-!
# Conflicts of identities

A rewrite looks for its new identity in a collection of which some positions were rewritten and some
were not. Different namespaces have different tokens, so resources whose namespaces have both become
references are never taken for each other. The only resource that another can be taken for is one
that was loaded in a namespace called like a wrapped token.
-/

namespace KubeHcl

variable {config : Config} {c c' : Collection} {index : Nat}

namespace Token

/-- The wrapped token of a namespace, spelled out. -/
theorem wrapped_ofNamespace (ns : String) :
    (ofNamespace ns).wrapped = "###NamespaceRef_" ++ ns ++ "###" := by
  rw [← String.toList_inj, toList_wrapped]
  simp [ofNamespace, sentinel]

/-- Different namespaces have different tokens. -/
theorem ofNamespace_inj {ns ns' : String} (heq : ofNamespace ns = ofNamespace ns') : ns = ns' := by
  have htexts := congrArg (fun t => t.text.toList) heq
  simp only [ofNamespace, String.toList_append] at htexts
  exact String.toList_inj.mp (List.append_cancel_left htexts)

end Token

namespace Identity

variable {id id' : Identity} {ns ns' : String}

/-- Identities that are the same after they were moved are in the same namespace then. -/
theorem ns_eq_of_withNamespace_eq (heq : id.withNamespace ns = id'.withNamespace ns') : ns = ns' :=
  congrArg Identity.ns heq

/-- If they were in the same namespace before as well, they were the same. -/
theorem eq_of_withNamespace_eq (heq : id.withNamespace ns = id'.withNamespace ns')
    (hns : id.ns = id'.ns) : id = id' := by
  cases id
  cases id'
  simp_all [withNamespace]

end Identity

/-- When namespaces become references, different identities stay different. -/
theorem Resource.id_eq_of_referring {r s : Resource} (heq : r.referring.id = s.referring.id) :
    r.id = s.id := by
  have hmoved : r.id.withNamespace (Token.ofNamespace r.ns).wrapped =
      s.id.withNamespace (Token.ofNamespace s.ns).wrapped := heq
  have htokens := Token.wrapped_inj (Identity.ns_eq_of_withNamespace_eq hmoved)
  exact Identity.eq_of_withNamespace_eq hmoved (Token.ofNamespace_inj htokens)

namespace Collection

/-- With distinct identities, a resource that takes the place of another either has its identity
alone or shares it with one more. -/
theorem Distinct.sharing_eq_two {r moved : Resource} (hc : c.Distinct)
    (hget : c.get? index = some r) (hshared : c.sharing index moved ≠ 1) :
    c.sharing index moved = 2 ∧
      ∃ other s, other ≠ index ∧ c.get? other = some s ∧ s.id = moved.id := by
  have hle := List.nodup_iff_count_le_one.mp hc moved.id
  rw [sharing_eq hget] at hshared ⊢
  by_cases hid : r.id = moved.id
  · have hone : c.ids.count moved.id = 1 := by
      refine List.count_eq_one_of_mem hc ?_
      rw [← hid]
      exact List.mem_of_getElem? (getElem?_ids hget)
    rw [if_pos hid] at hshared
    exact absurd hone hshared
  · rw [if_neg hid] at hshared ⊢
    have hpos : 0 < c.ids.count moved.id := by omega
    obtain ⟨s, hs, hsid⟩ := List.mem_map.mp (List.count_pos_iff.mp hpos)
    obtain ⟨other, hother⟩ := List.getElem?_of_mem hs
    refine ⟨by omega, other, s, ?_, hother, hsid⟩
    rintro rfl
    obtain rfl := Option.some.inj (hget.symm.trans hother)
    exact hid hsid

/-- Then exactly these two positions have the identity. -/
theorem Distinct.get?_replace_id_iff {other : Nat} {s moved : Resource} (hc : c.Distinct)
    (hlt : index < c.size) (hne : other ≠ index) (hother : c.get? other = some s)
    (hid : s.id = moved.id) (i : Nat) :
    ((c.replace index moved).get? i).map Resource.id = some moved.id ↔ i = index ∨ i = other := by
  by_cases hi : i = index
  · rw [hi, get?_replace_self hlt]
    simp
  · rw [get?_replace, if_neg (Ne.symm hi)]
    constructor
    · intro hat
      obtain ⟨t, ht, htid⟩ := Option.map_eq_some_iff.mp hat
      exact .inr (hc.eq_of_id_eq ht hother (htid.trans hid.symm))
    · rintro (hsame | rfl)
      · exact absurd hsame hi
      · rw [hother, Option.map_some, hid]

/-- Turns declare no namespace and undeclare none. -/
theorem declares_rewrittenUpTo (config : Config) (c : Collection) (n : Nat) (ns : String) :
    (c.rewrittenUpTo config n).declares ns = c.declares ns := by
  rw [← isSome_referenceTo config, referenceTo_rewrittenUpTo, isSome_referenceTo]

/-- The resource `r` at position `i` is in a declared namespace. The resource `s` at position `j`
agrees with it in group, version, kind and name, but is in the namespace that is called like what a
rewrite puts in the place of that of `r`. -/
structure Lookalike (c : Collection) (i j : Nat) (r s : Resource) : Prop where
  get?_left : c.get? i = some r
  get?_right : c.get? j = some s
  ne : i ≠ j
  declared : c.declares r.ns = true
  id_eq : s.id = r.id.withNamespace ("###NamespaceRef_" ++ r.ns ++ "###")

end Collection

/-- What a rewrite that reports a conflict of identities found, and what it left. -/
theorem RewriteStep.of_conflict {id : Identity} {matching : Nat}
    (hstep : RewriteStep config c index (.error (.identityConflict id matching)) c') :
    ∃ r, c.get? index = some r ∧ c.declares r.ns = true ∧ id = r.referring.id ∧
      matching = c.sharing index r.referring ∧ c.sharing index r.referring ≠ 1 ∧
      c' = c.replace index r.referring := by
  cases hstep with
  | conflict hget hns =>
    cases hns with
    | conflict hne hdeclared hshared =>
      exact ⟨_, hget, Collection.declares_iff.mpr ⟨hne, _, hdeclared⟩, rfl, rfl, hshared, rfl⟩
  | malformed _ _ htext => cases extractText_error_iff.mp htext

/-- While turns succeed, identities stay distinct. -/
theorem RenderedUpTo.distinct {n : Nat} {files : Files} (h : RenderedUpTo config c n files)
    (hc : c.Distinct) : (c.rewrittenUpTo config n).Distinct := by
  have hturns : ∀ m ≤ n, (c.rewrittenUpTo config m).Distinct := by
    intro m hm
    induction m with
    | zero => exact hc
    | succ m ih =>
      obtain ⟨x, text, hturn, -⟩ := h.rendered m (by omega)
      exact (ih (by omega)).rewriteStep (by simp) hturn.step
  exact hturns n (Nat.le_refl n)

section Conflict

variable {id : Identity} {matching : Nat}

/-- A rendering reports a conflict of identities for a rewrite that does, after successful turns. -/
theorem renderAll_conflict
    (hconflict : (renderAll config).outcome c = (.error (.identityConflict id matching), c')) :
    ∃ k files, k < c.size ∧ RenderedUpTo config c k files ∧
      RewriteStep config (c.rewrittenUpTo config k) k
        (.error (.identityConflict id matching)) c' := by
  rcases renderAll_error hconflict with ⟨-, he, -⟩ | ⟨-, k, files, hlt, hfiles, hstep⟩
  · cases he
  · cases hstep with
    | unrewritten hrewrite => exact ⟨k, files, hlt, hfiles, hrewrite⟩
    | unrendered _ hrender =>
      rcases Renderable.declaration_error (Renderable.render_error hrender) with he | he <;>
        cases he

/-- A conflict of identities is one of two resources, of which the second looks like the first with
its namespace changed and was not changed itself. -/
theorem exists_lookalike_of_conflict (hc : c.Distinct)
    (hconflict : (renderAll config).outcome c = (.error (.identityConflict id matching), c')) :
    matching = 2 ∧ ∃ i j r s, c.Lookalike i j r s ∧ id = s.id ∧
      ∀ l, (c'.get? l).map Resource.id = some id ↔ l = i ∨ l = j := by
  obtain ⟨k, files, hlt, hfiles, hstep⟩ := renderAll_conflict hconflict
  have hdistinct := hfiles.distinct hc
  obtain ⟨r, hget, hdeclared, rfl, rfl, hshared, rfl⟩ := hstep.of_conflict
  obtain ⟨htwo, j, s', hne, hget', hid⟩ := hdistinct.sharing_eq_two hget hshared
  have hfirst : c.get? k = some r := by
    rwa [Collection.get?_rewrittenUpTo_of_le config (Nat.le_refl k)] at hget
  obtain ⟨s, hsecond⟩ : ∃ s, c.get? j = some s := by
    have hlt' := Collection.lt_size_of_get? hget'
    rw [Collection.size_rewrittenUpTo] at hlt'
    exact ⟨_, List.getElem?_eq_getElem hlt'⟩
  -- Had the second been changed as well, then both would have been loaded with one identity.
  have hkept : s'.id = s.id := by
    have hrewritten := Collection.rewritten_rewrittenUpTo config k hsecond hget'
    rcases hrewritten.id_eq with hsame | ⟨-, hmoved⟩
    · exact hsame
    · have hloaded : s.id = r.id := Resource.id_eq_of_referring (hmoved.symm.trans hid)
      exact absurd (hc.eq_of_id_eq hsecond hfirst hloaded) hne
  have hsid : s.id = r.referring.id := hkept.symm.trans hid
  refine ⟨htwo, k, j, r, s, ?lookalike, hsid.symm, ?positions⟩
  case lookalike =>
    refine ⟨hfirst, hsecond, hne.symm, ?_, ?_⟩
    · rwa [Collection.declares_rewrittenUpTo] at hdeclared
    · rw [hsid, ← Token.wrapped_ofNamespace]
      rfl
  case positions =>
    exact hdistinct.get?_replace_id_iff (Collection.lt_size_of_get? hget) hne hget' hid

end Conflict

/-- Resources whose identities a rendering changed have different ones, whether it fails or not. -/
theorem renderAll_changed_ids {result : Except TransformError Files} (hc : c.Distinct)
    (hout : (renderAll config).outcome c = (result, c')) {i j : Nat} {r r' s s' : Resource}
    (hr : c.get? i = some r) (hs : c.get? j = some s) (hr' : c'.get? i = some r')
    (hs' : c'.get? j = some s') (hchanged : r'.id ≠ r.id) (hchanged' : s'.id ≠ s.id)
    (hsame : r'.id = s'.id) : i = j := by
  obtain ⟨n, rfl⟩ := renderAll_rewrittenUpTo hout
  have hrid := (Collection.rewritten_rewrittenUpTo config n hr hr').id_eq.resolve_left hchanged
  have hsid := (Collection.rewritten_rewrittenUpTo config n hs hs').id_eq.resolve_left hchanged'
  refine hc.eq_of_id_eq hr hs (Resource.id_eq_of_referring ?_)
  rw [← hrid.2, hsame, hsid.2]

/-- When rendering a collection that was only loaded reports a conflict of identities, it is that of
two resources, of which one is in a declared namespace and the other was loaded as what the first
becomes. Resources whose identities were both changed are in no conflict. -/
theorem no_false_conflicts {result : Except TransformError Files} (hc : c.Loaded)
    (hout : (renderAll config).outcome c = (result, c')) :
    (∀ id matching, result = .error (.identityConflict id matching) →
      matching = 2 ∧ ∃ i j r s, c.Lookalike i j r s ∧ id = s.id ∧
        ∀ l, (c'.get? l).map Resource.id = some id ↔ l = i ∨ l = j) ∧
      ∀ i j r s r' s', i ≠ j → c.get? i = some r → c.get? j = some s → c'.get? i = some r' →
        c'.get? j = some s' → r'.id ≠ r.id → s'.id ≠ s.id → r'.id ≠ s'.id := by
  constructor
  · rintro id matching rfl
    exact exists_lookalike_of_conflict hc.distinct hout
  · intro i j r s r' s' hne hr hs hr' hs' hchanged hchanged' hsame
    exact hne (renderAll_changed_ids hc.distinct hout hr hs hr' hs' hchanged hchanged' hsame)

/-- Two service accounts, one in the namespace `acme` and one in a namespace that is called like its
wrapped token, and the declaration of `acme`. -/
def Collection.lookalikes : Collection :=
  ⟨[.serviceAccount "acme" [("namespace", .text "acme")],
    .serviceAccount "###NamespaceRef_acme###" [("namespace", .text "###NamespaceRef_acme###")],
    .acme]⟩

/-- Rendering them reports a conflict, and it is one of two such resources. -/
theorem lookalikes_conflict : ∃ c',
    (renderAll {}).outcome .lookalikes = (.error (.identityConflict
      ⟨"", "v1", "ServiceAccount", "###NamespaceRef_acme###", "svc"⟩ 2), c') ∧
      ∃ i j r s, Collection.lookalikes.Lookalike i j r s ∧
        ∀ l, (c'.get? l).map Resource.id =
          some ⟨"", "v1", "ServiceAccount", "###NamespaceRef_acme###", "svc"⟩ ↔ l = i ∨ l = j := by
  have hloaded : Collection.lookalikes.Loaded := by
    refine ⟨Collection.lookalikes.resources.map .insert, ?_, rfl⟩
    simp only [Collection.lookalikes, List.map_cons, List.map_nil, List.mem_cons,
      List.not_mem_nil, or_false, forall_eq_or_imp, forall_eq]
    exact ⟨⟨Resource.tree (.serviceAccount "acme" [("namespace", .text "acme")]), rfl⟩,
      ⟨Resource.tree (.serviceAccount "###NamespaceRef_acme###"
        [("namespace", .text "###NamespaceRef_acme###")]), rfl⟩,
      ⟨Resource.acme.tree, rfl⟩⟩
  obtain ⟨hconflict, -⟩ := @no_false_conflicts {} .lookalikes _ _ hloaded rfl
  obtain ⟨-, i, j, r, s, hlookalike, -, hpositions⟩ := hconflict
    ⟨"", "v1", "ServiceAccount", "###NamespaceRef_acme###", "svc"⟩ 2 rfl
  exact ⟨_, rfl, i, j, r, s, hlookalike, hpositions⟩

end KubeHcl
