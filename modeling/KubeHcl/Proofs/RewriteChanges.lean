import KubeHcl.Proofs.ExtractedTexts
import KubeHcl.Proofs.ReplacedTexts

/-!
# What a rewrite leaves at its position

A rewrite that succeeds leaves the resource with every text changed that gives way to a token. One
that fails leaves what it had come to: the namespace is changed before its new identity is looked
at, and the data only once all of it is known to be text. So the data is never left half changed.
-/

namespace KubeHcl

open KubeHcl.Tree (Place)

variable {config : Config} {c c' : Collection} {index : Nat}

namespace Tree

/-- A tree without its texts: its keys in their order at every level, and all other values. -/
def shape (t : Tree) : Tree := t.mapTextsAt fun _ _ => ""

/-- A change of texts in their places leaves the shape. -/
theorem shape_mapTextsAt (f : Place → String → String) (t : Tree) :
    (t.mapTextsAt f).shape = t.shape :=
  mapTextsAt_mapTextsAt _ _ _

end Tree

namespace Resource

/-- `r'` is `r` with its namespace changed into a reference, and its data as it was. -/
structure Referring (r r' : Resource) : Prop where
  origin_eq : r'.origin = r.origin
  id_eq : r'.id = r.id.withNamespace (Token.ofNamespace r.ns).wrapped
  /-- The wrapped token of the namespace stands in its place. -/
  namespace_text :
    ([.key "metadata", .key "namespace"], (Token.ofNamespace r.ns).wrapped) ∈ r'.tree.textsAt
  /-- Nothing else in the document is different. -/
  tree_eq : r'.tree = r.tree.mapTextsAt referringText
  data_eq : r'.field? "data" = r.field? "data"

/-- `r'` is `r` completely rewritten, its namespace being declared or not. -/
structure Completed (declared : Bool) (r r' : Resource) : Prop where
  origin_eq : r'.origin = r.origin
  id_eq : r'.id = if declared then r.id.withNamespace (Token.ofNamespace r.ns).wrapped else r.id
  /-- A declared namespace has given way to its wrapped token. -/
  namespace_text : declared = true →
    ([.key "metadata", .key "namespace"], (Token.ofNamespace r.ns).wrapped) ∈ r'.tree.textsAt
  /-- All keys stay in their order at every level, and all values but texts. -/
  shape_eq : r'.tree.shape = r.tree.shape
  /-- Of the texts, a declared namespace and those of the data that fit a heredoc are changed. -/
  tree_eq : r'.tree = r.tree.mapTextsAt (rewrittenText declared)

/-- The change of a namespace that is not empty is such a change. -/
theorem WellFormed.referring {r : Resource} (hr : r.WellFormed) (hne : r.ns ≠ "") :
    r.Referring r.referring := by
  have hconsistent := hr.obtainable.consistent
  have htree := referring_tree hconsistent hne hr.distinctKeys
  have hns := hconsistent.mem_textsAt_ns hr.distinctKeys hne
  refine ⟨rfl, rfl, ?_, htree, field?_withNamespace (by decide) _ _⟩
  rw [htree]
  exact Tree.mem_textsAt_mapTextsAt.mpr ⟨r.ns, hns, rfl⟩

/-- What a resource is rewritten to is the resource completely rewritten. -/
theorem WellFormed.completed {r : Resource} {reference : Option Placeholder} (hr : r.WellFormed)
    (hne : reference.isSome = true → r.ns ≠ "") :
    r.Completed reference.isSome (r.renderable reference).resource := by
  have hconsistent := hr.obtainable.consistent
  have htree := renderable_tree hconsistent hr.distinctKeys hne
  refine ⟨?origin, ?id, ?declared, ?shape, htree⟩
  case origin => cases reference <;> exact movedOut_origin _
  case id => cases reference <;> exact movedOut_id _
  case declared =>
    intro hdeclared
    rw [htree]
    refine Tree.mem_textsAt_mapTextsAt.mpr
      ⟨r.ns, hconsistent.mem_textsAt_ns hr.distinctKeys (hne hdeclared), ?_⟩
    rw [hdeclared]
    rfl
  case shape => rw [htree, Tree.shape_mapTextsAt]

end Resource

/-- The resource `r'` is what a rewrite of `r` with this result leaves. -/
inductive Leaves (c : Collection) (r : Resource) :
    Except TransformError Renderable → Resource → Prop
  /-- The rewrite succeeded, and what it gave is what it left. -/
  | completed {x : Renderable} (hx : r.Completed (c.declares r.ns) x.resource) :
      Leaves c r (.ok x) x.resource
  /-- Another resource has the identity that the change of the namespace leads to. -/
  | conflict {r' : Resource} {matching : Nat} (hdeclared : c.declares r.ns = true)
      (hreferring : r.Referring r') :
      Leaves c r (.error (.identityConflict r'.id matching)) r'
  /-- The data is malformed, and the namespace was changed before that was found. -/
  | malformedReferring {r' : Resource} {e : TransformError} (hdeclared : c.declares r.ns = true)
      (hreferring : r.Referring r') (hdata : MalformedData r' e) :
      Leaves c r (.error e) r'
  /-- The data is malformed, and there was no namespace to change. -/
  | malformed {e : TransformError} (hundeclared : c.declares r.ns = false)
      (hdata : MalformedData r e) :
      Leaves c r (.error e) r

/-- A rewrite of a well-formed resource leaves that at its position. -/
theorem RewriteStep.leaves {r : Resource} {result : Except TransformError Renderable}
    (hstep : RewriteStep config c index result c') (hget : c.get? index = some r)
    (hr : r.WellFormed) : ∃ r', c'.get? index = some r' ∧ Leaves c r result r' := by
  have hlt := Collection.lt_size_of_get? hget
  cases result with
  | ok x =>
    obtain ⟨rfl, rfl⟩ := hstep.eq_renderable hget
    refine ⟨_, Collection.get?_replace_self hlt, .completed ?_⟩
    rw [← Collection.isSome_referenceTo config]
    exact hr.completed fun hsome => (Collection.referenceTo_isSome_iff.mp hsome).1
  | error e =>
    cases hstep with
    | outOfRange hnone => cases hget.symm.trans hnone
    | conflict hget' hns =>
      obtain rfl := Option.some.inj (hget.symm.trans hget')
      cases hns with
      | conflict hne hdeclared =>
        have hdeclares := Collection.declares_iff.mpr ⟨hne, _, hdeclared⟩
        exact ⟨_, Collection.get?_replace_self hlt, .conflict hdeclares (hr.referring hne)⟩
    | malformed hget' hns htext =>
      obtain rfl := Option.some.inj (hget.symm.trans hget')
      have hdata := extractText_error_iff.mp htext
      refine ⟨_, (hns.moved hget).1, ?_⟩
      cases hns with
      | kept hundeclared =>
        exact .malformed (Collection.declares_eq_false_iff.mpr hundeclared) hdata
      | changed hne hdeclared =>
        have hdeclares := Collection.declares_iff.mpr ⟨hne, _, hdeclared⟩
        exact .malformedReferring hdeclares (hr.referring hne) hdata

/-- A rewrite changes nothing but the resource at its position. If it succeeds, this resource keeps
its keys, their order, and all values but a declared namespace and the texts of the data that fit a
heredoc. If it fails, the namespace may have been changed, and the data was not. -/
theorem rewrite_changes {r : Resource} {result : Except TransformError Renderable}
    (hc : c.Genuine) (hget : c.get? index = some r)
    (hout : (rewrite config index).outcome c = (result, c')) :
    c'.size = c.size ∧ (∀ other, other ≠ index → c'.get? other = c.get? other) ∧
      ∃ r', c'.get? index = some r' ∧ Leaves c r result r' := by
  have hstep := rewrite_outcome_iff.mp hout
  have hr := hc.wellFormed r (List.mem_of_getElem? hget)
  obtain ⟨hsize, hothers⟩ := hstep.frame
  exact ⟨hsize, hothers, hstep.leaves hget hr⟩

/-- A resource in the namespace `acme` whose data has a text that fits a heredoc and, behind it, a
number. -/
def Resource.limits : Resource where
  origin := ⟨"", "v1", "ConfigMap", "acme", "limits"⟩
  id := ⟨"", "v1", "ConfigMap", "acme", "limits"⟩
  fields :=
    [("apiVersion", .text "v1"), ("kind", .text "ConfigMap"),
      ("metadata", .map [("name", .text "limits"), ("namespace", .text "acme")]),
      ("data", .map [("note", .text "By default\n"), ("most", .int 8)])]

/-- The declaration of the namespace and this resource. -/
def Collection.limits : Collection := ⟨[.acme, .limits]⟩

/-- The rewrite of the resource fails for the number. It leaves the data with the text, and the
namespace as a reference. -/
theorem limits_changes :
    ∃ c' r', (rewrite {} 1).outcome .limits =
        (.error (.malformedField ⟨"", "v1", "ConfigMap", "###NamespaceRef_acme###", "limits"⟩
          "data.most" "a string" "a number"), c') ∧
      c'.get? 0 = some .acme ∧ c'.get? 1 = some r' ∧ r'.ns = "###NamespaceRef_acme###" ∧
      r'.field? "data" = some (.map [("note", .text "By default\n"), ("most", .int 8)]) := by
  have hgenuine : Collection.limits.Genuine := by
    refine ⟨[.insert .acme, .insert .limits], ?_, rfl⟩
    simp only [List.mem_cons, List.not_mem_nil, or_false, forall_eq_or_imp, forall_eq]
    refine ⟨Resource.acme_wellFormed, .ofTree (t := Resource.limits.tree) rfl, ?_⟩
    simp [Resource.limits, Resource.tree, Tree.DistinctKeys, Tree.DistinctKeysEntries]
  obtain ⟨-, hothers, r', hstored, hleaves⟩ :=
    @rewrite_changes {} .limits _ 1 .limits
      (.error (.malformedField ⟨"", "v1", "ConfigMap", "###NamespaceRef_acme###", "limits"⟩
        "data.most" "a string" "a number")) hgenuine rfl rfl
  refine ⟨_, r', rfl, hothers 0 (by decide), hstored, ?_⟩
  cases hleaves with
  | malformedReferring _ hreferring =>
    exact ⟨congrArg Identity.ns hreferring.id_eq, hreferring.data_eq⟩
  | malformed hundeclared => exact absurd hundeclared (by decide)

end KubeHcl
