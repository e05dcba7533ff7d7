import KubeHcl.Proofs.RewriteOutcome
import KubeHcl.Proofs.TextExtraction

/-!
# Resources and their documents

A resource keeps its identity beside the document that states it. Every way to get a resource from
another changes both alike, so whatever resource can be had states the identity it has.
-/

namespace KubeHcl

namespace Identity

/-- Another namespace leaves the parts that name the resource. -/
@[simp] theorem withNamespace_withNamespace (id : Identity) (ns ns' : String) :
    (id.withNamespace ns).withNamespace ns' = id.withNamespace ns' := rfl

end Identity

namespace Resource

/-- A required text is there as text. -/
theorem requiredText_ok {field s : String} {value : Option Tree}
    (hok : requiredText field value = .ok s) : value = some (.text s) := by
  unfold requiredText at hok
  split at hok <;> simp_all

/-- A namespace that is not empty is there as text. -/
theorem namespaceText_ok {metadata : List (String × Tree)} {ns : String}
    (hok : namespaceText metadata = .ok ns) (hne : ns ≠ "") :
    Entries.find? "namespace" metadata = some (.text ns) := by
  unfold namespaceText at hok
  split at hok <;> simp_all

/-- What a document has to hold to state an identity. -/
theorem statedIdentity_ok {fields : List (String × Tree)} {id : Identity}
    (hok : statedIdentity fields = .ok id) :
    ∃ apiVersion kind name ns metadata,
      Entries.find? "apiVersion" fields = some (.text apiVersion) ∧
      Entries.find? "kind" fields = some (.text kind) ∧
      Entries.find? "metadata" fields = some (.map metadata) ∧
      Entries.find? "name" metadata = some (.text name) ∧
      namespaceText metadata = .ok ns ∧ id = .ofApiVersion apiVersion kind ns name := by
  obtain ⟨apiVersion, hversion, hok⟩ := bind_eq_ok hok
  obtain ⟨kind, hkind, hok⟩ := bind_eq_ok hok
  split at hok
  · next metadata hmetadata =>
    obtain ⟨name, hname, hok⟩ := bind_eq_ok hok
    obtain ⟨ns, hns, hok⟩ := bind_eq_ok hok
    cases hok
    exact ⟨apiVersion, kind, name, ns, metadata, requiredText_ok hversion, requiredText_ok hkind,
      hmetadata, requiredText_ok hname, hns, rfl⟩
  · cases hok

/-- What a document holds decides the identity it states. -/
theorem statedIdentity_of_fields {fields metadata : List (String × Tree)}
    {apiVersion kind name ns : String}
    (hversion : Entries.find? "apiVersion" fields = some (.text apiVersion))
    (hkind : Entries.find? "kind" fields = some (.text kind))
    (hmetadata : Entries.find? "metadata" fields = some (.map metadata))
    (hname : Entries.find? "name" metadata = some (.text name))
    (hns : namespaceText metadata = .ok ns) :
    statedIdentity fields = .ok (.ofApiVersion apiVersion kind ns name) := by
  simp [statedIdentity, hversion, hkind, hmetadata, hname, hns, requiredText, Bind.bind,
    Except.bind, Pure.pure, Except.pure]

/-- Setting a namespace in a document moves the identity it states. -/
theorem statedIdentity_setNamespace {fields : List (String × Tree)} {id : Identity} (ns : String)
    (hok : statedIdentity fields = .ok id) :
    statedIdentity (setNamespace ns fields) = .ok (id.withNamespace ns) := by
  obtain ⟨apiVersion, kind, name, ns', metadata, hversion, hkind, hmetadata, hname, -, rfl⟩ :=
    statedIdentity_ok hok
  have hset : setNamespace ns fields =
      Entries.insert "metadata" (.map (Entries.insert "namespace" (.text ns) metadata)) fields := by
    simp only [setNamespace, hmetadata]
  have hmoved : (Identity.ofApiVersion apiVersion kind ns' name).withNamespace ns =
      .ofApiVersion apiVersion kind ns name := rfl
  rw [hset, hmoved]
  refine statedIdentity_of_fields ?_ ?_ (Entries.find?_insert_self _ _ _) ?_ ?_
  · rw [Entries.find?_insert_of_ne (by decide), hversion]
  · rw [Entries.find?_insert_of_ne (by decide), hkind]
  · rw [Entries.find?_insert_of_ne (by decide), hname]
  · simp [namespaceText]

/-- A field that is no part of the identity may be set to anything. -/
theorem statedIdentity_insert {fields : List (String × Tree)} {id : Identity} {key : String}
    (value : Tree) (hversion : key ≠ "apiVersion") (hkind : key ≠ "kind")
    (hmetadata : key ≠ "metadata") (hok : statedIdentity fields = .ok id) :
    statedIdentity (Entries.insert key value fields) = .ok id := by
  obtain ⟨apiVersion, kind, name, ns, metadata, hv, hk, hm, hname, hns, rfl⟩ :=
    statedIdentity_ok hok
  refine statedIdentity_of_fields ?_ ?_ ?_ hname hns
  · rw [Entries.find?_insert_of_ne hversion.symm, hv]
  · rw [Entries.find?_insert_of_ne hkind.symm, hk]
  · rw [Entries.find?_insert_of_ne hmetadata.symm, hm]

/-- The document states the identity that the resource has now, and the one it was loaded with is
the same but for the namespace. -/
structure Consistent (r : Resource) : Prop where
  stated : statedIdentity r.fields = .ok r.id
  origin_eq : r.origin = r.id.withNamespace r.origin.ns

/-- The resources that can be had: those of documents, moved into other namespaces and with texts of
their data replaced by tokens. -/
inductive Obtainable : Resource → Prop
  | ofTree {t : Tree} {r : Resource} (hok : ofTree t = .ok r) : Obtainable r
  | withNamespace {r : Resource} (ns : String) (hr : Obtainable r) : Obtainable (r.withNamespace ns)
  | extracted {r : Resource} {change : TextChange} (hr : Obtainable r)
      (htext : extractText r = .ok (some change)) : Obtainable change.resource

/-- A document is that of a resource exactly as it stands. -/
theorem ofTree_ok {t : Tree} {r : Resource} (hok : ofTree t = .ok r) :
    t = r.tree ∧ r.origin = r.id ∧ statedIdentity r.fields = .ok r.id := by
  cases t with
  | map fields =>
    obtain ⟨id, hid, hok⟩ := bind_eq_ok hok
    cases hok
    exact ⟨rfl, rfl, hid⟩
  | _ => cases hok

/-- Moving texts out of the data touches nothing that is part of the identity. -/
theorem Consistent.movedOut {r : Resource} (hr : r.Consistent) : r.movedOut.Consistent := by
  refine ⟨?_, by simpa using hr.origin_eq⟩
  rw [movedOut_id, Resource.movedOut]
  split
  · exact statedIdentity_insert _ (by decide) (by decide) (by decide) hr.stated
  · exact hr.stated

/-- A resource that declares a namespace has its name in its metadata. -/
theorem Consistent.declaredName {r : Resource} {ns : String} (hr : r.Consistent)
    (hid : r.id = .namespaceCalled ns) :
    (r.tree.get? "metadata").bind (Tree.get? "name") = some (.text ns) := by
  obtain ⟨apiVersion, kind, name, ns', metadata, -, -, hmetadata, hname, -, hstated⟩ :=
    statedIdentity_ok hr.stated
  have hns : name = ns := congrArg Identity.name (hstated.symm.trans hid)
  simp only [tree, Tree.get?, hmetadata, Option.bind_some, hname, hns]

/-- A namespace that is not empty stands in the metadata, so setting it again changes nothing. -/
theorem Consistent.setNamespace_self {r : Resource} (hr : r.Consistent) (hne : r.ns ≠ "") :
    setNamespace r.ns r.fields = r.fields := by
  obtain ⟨apiVersion, kind, name, ns, metadata, -, -, hmetadata, -, hns, hstated⟩ :=
    statedIdentity_ok hr.stated
  have hsame : r.ns = ns := congrArg Identity.ns hstated
  rw [← hsame] at hns
  have hset := Entries.insert_of_find? (namespaceText_ok hns hne)
  simp only [setNamespace, hmetadata, hset, Entries.insert_of_find? hmetadata]

/-- Whatever resource can be had states the identity it has. -/
theorem Obtainable.consistent {r : Resource} (hr : r.Obtainable) : r.Consistent := by
  induction hr with
  | ofTree hok =>
    obtain ⟨-, horigin, hstated⟩ := ofTree_ok hok
    exact ⟨hstated, by rw [horigin]; rfl⟩
  | withNamespace ns _ ih =>
    refine ⟨statedIdentity_setNamespace ns ih.stated, ?_⟩
    rw [withNamespace_origin, withNamespace_id, Identity.withNamespace_withNamespace]
    exact ih.origin_eq
  | extracted _ htext ih =>
    rw [(extractText_some htext).1]
    exact ih.movedOut

end Resource

end KubeHcl
