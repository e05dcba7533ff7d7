import KubeHcl.Proofs.LastSeparator
import KubeHcl.Proofs.Resources

/-!
# What a document has to hold

A document has to meet six requirements to be a resource, and they are looked at in a fixed order.
The first that is violated is reported, whatever else is wrong with the document. If all of them are
met, the document says what the resource is.
-/

namespace KubeHcl

namespace Identity

/-- An API version is a group, a slash and a version without a slash, or a version alone. -/
def Splits (apiVersion group version : String) : Prop :=
  apiVersion = group ++ "/" ++ version ∧ '/' ∉ version.toList ∨
    '/' ∉ apiVersion.toList ∧ group = "" ∧ version = apiVersion

/-- Splitting finds the one group and the one version that make up an API version. -/
theorem splits_iff {apiVersion group version : String} : Splits apiVersion group version ↔
    splitApiVersion apiVersion.toList = (group.toList, version.toList) := by
  constructor
  · rintro (⟨rfl, hversion⟩ | ⟨hslash, rfl, rfl⟩)
    · have htext : (group ++ "/" ++ version).toList = group.toList ++ '/' :: version.toList := by
        simp
      rw [htext, splitApiVersion_append _ hversion]
    · exact splitApiVersion_of_notMem hslash
  · intro hsplit
    by_cases hslash : '/' ∈ apiVersion.toList
    · obtain ⟨before, behind, htext, hversion⟩ := exists_last_of_mem hslash
      rw [htext, splitApiVersion_append _ hversion] at hsplit
      obtain ⟨hgroup, hrest⟩ := Prod.mk.inj hsplit
      refine .inl ⟨String.toList_inj.mp ?_, hrest ▸ hversion⟩
      simp [htext, hgroup, hrest]
    · rw [splitApiVersion_of_notMem hslash] at hsplit
      obtain ⟨hgroup, hversion⟩ := Prod.mk.inj hsplit
      exact .inr ⟨hslash, by simpa using hgroup.symm, (String.toList_inj.mp hversion).symm⟩

/-- The group and the version of an identity make up the API version it was given. -/
theorem splits_ofApiVersion (apiVersion kind ns name : String) :
    Splits apiVersion (ofApiVersion apiVersion kind ns name).group
      (ofApiVersion apiVersion kind ns name).version := by
  rw [splits_iff]
  simp [ofApiVersion]

/-- An identity with such a group and such a version is the one of the API version. -/
theorem Splits.ofApiVersion_eq {apiVersion : String} {id : Identity}
    (hsplits : Splits apiVersion id.group id.version) :
    ofApiVersion apiVersion id.kind id.ns id.name = id := by
  rw [splits_iff] at hsplits
  simp [ofApiVersion, hsplits]

end Identity

/-- What a document has to meet to be a resource. -/
inductive Requirement where
  /-- It is a mapping. -/
  | mapping
  /-- Its API version is text. -/
  | apiVersion
  /-- Its kind is text. -/
  | kind
  /-- Its metadata is a mapping. -/
  | metadata
  /-- The name in its metadata is text. -/
  | name
  /-- The namespace in its metadata is text, unless it is null or absent. -/
  | ns
  deriving DecidableEq

/-- What the metadata of a document has for a key. -/
def Tree.inMetadata? (key : String) (t : Tree) : Option Tree :=
  (t.get? "metadata").bind (Tree.get? key)

namespace Requirement

/-- The requirements in the order in which they are looked at. -/
def inOrder : List Requirement := [mapping, apiVersion, kind, metadata, name, ns]

/-- The requirements that are looked at before one. -/
def earlier (q : Requirement) : List Requirement := inOrder.takeWhile (· ≠ q)

/-- There is something, and it is text. -/
def IsText (value : Option Tree) : Prop := ∃ s, value = some (.text s)

/-- Whether a document meets a requirement. -/
def Met (t : Tree) : Requirement → Prop
  | mapping => ∃ fields, t = .map fields
  | apiVersion => IsText (t.get? "apiVersion")
  | kind => IsText (t.get? "kind")
  | metadata => ∃ entries, t.get? "metadata" = some (.map entries)
  | name => IsText (t.inMetadata? "name")
  | ns => t.inMetadata? "namespace" = none ∨ t.inMetadata? "namespace" = some .null ∨
      IsText (t.inMetadata? "namespace")

/-- How a field that has to be text is reported when it is not. -/
inductive TextFault (field : String) : Option Tree → ResourceError → Prop
  | absent : TextFault field none (.missingField field)
  | null : TextFault field (some .null) (.missingField field)
  | other {value : Tree} (hnull : value ≠ .null) (htext : ∀ s, value ≠ .text s) :
      TextFault field (some value) (.notAString field)

/-- How a requirement is reported that a document does not meet. -/
inductive Violated (t : Tree) : Requirement → ResourceError → Prop
  | mapping (hmapping : ∀ fields, t ≠ .map fields) : Violated t mapping .notAMapping
  | apiVersion {e : ResourceError} (hfault : TextFault "apiVersion" (t.get? "apiVersion") e) :
      Violated t apiVersion e
  | kind {e : ResourceError} (hfault : TextFault "kind" (t.get? "kind") e) : Violated t kind e
  | metadata (hmetadata : ∀ entries, t.get? "metadata" ≠ some (.map entries)) :
      Violated t metadata (.missingField "metadata")
  | name {e : ResourceError} (hfault : TextFault "metadata.name" (t.inMetadata? "name") e) :
      Violated t name e
  | ns {value : Tree} (hvalue : t.inMetadata? "namespace" = some value) (hnull : value ≠ .null)
      (htext : ∀ s, value ≠ .text s) : Violated t ns (.notAString "metadata.namespace")

variable {t : Tree} {e : ResourceError} {value : Option Tree}

/-- A value is reported exactly if it is not text. -/
theorem not_isText_iff (field : String) : ¬IsText value ↔ ∃ e, TextFault field value e := by
  constructor
  · intro hvalue
    cases value with
    | none => exact ⟨_, .absent⟩
    | some found =>
      by_cases hnull : found = .null
      · subst hnull
        exact ⟨_, .null⟩
      · exact ⟨_, .other hnull fun s hs => hvalue ⟨s, congrArg some hs⟩⟩
  · rintro ⟨e, hfault⟩ ⟨s, rfl⟩
    cases hfault with
    | other _ htext => exact htext s rfl

/-- A requirement is reported exactly if it is not met. -/
theorem not_met_iff (q : Requirement) : ¬q.Met t ↔ ∃ e, q.Violated t e := by
  cases q with
  | mapping =>
    constructor
    · exact fun hmet => ⟨_, .mapping fun fields h => hmet ⟨fields, h⟩⟩
    · rintro ⟨_, hviolated⟩ ⟨fields, h⟩
      cases hviolated with
      | mapping hmapping => exact hmapping fields h
  | apiVersion =>
    refine (not_isText_iff "apiVersion").trans (exists_congr fun e => ?_)
    exact ⟨.apiVersion, fun h => by cases h; assumption⟩
  | kind =>
    refine (not_isText_iff "kind").trans (exists_congr fun e => ?_)
    exact ⟨.kind, fun h => by cases h; assumption⟩
  | metadata =>
    constructor
    · exact fun hmet => ⟨_, .metadata fun entries h => hmet ⟨entries, h⟩⟩
    · rintro ⟨_, hviolated⟩ ⟨entries, h⟩
      cases hviolated with
      | metadata hmetadata => exact hmetadata entries h
  | name =>
    refine (not_isText_iff "metadata.name").trans (exists_congr fun e => ?_)
    exact ⟨.name, fun h => by cases h; assumption⟩
  | ns =>
    constructor
    · intro hmet
      obtain ⟨habsent, hnull, htext⟩ : t.inMetadata? "namespace" ≠ none ∧
          t.inMetadata? "namespace" ≠ some .null ∧ ¬IsText (t.inMetadata? "namespace") := by
        simpa only [Met, not_or] using hmet
      obtain ⟨value, hvalue⟩ := Option.ne_none_iff_exists'.mp habsent
      rw [hvalue] at hnull htext
      exact ⟨_, .ns hvalue (fun h => hnull (congrArg some h)) fun s h => htext ⟨s, congrArg some h⟩⟩
    · rintro ⟨_, hviolated⟩ hmet
      cases hviolated with
      | ns hvalue hnull htext =>
        rw [Met, hvalue] at hmet
        rcases hmet with habsent | hnull' | ⟨s, hs⟩
        · cases habsent
        · exact hnull (Option.some.inj hnull')
        · exact htext s (Option.some.inj hs)

/-- Of requirements that are not all met there is a first that is not. -/
theorem exists_first_not_met {requirements : List Requirement}
    (hnot : ¬∀ q ∈ requirements, q.Met t) : ∃ q ∈ requirements,
      (∀ p ∈ requirements.takeWhile (· ≠ q), p.Met t) ∧ ¬q.Met t := by
  induction requirements with
  | nil => exact absurd (by simp) hnot
  | cons first rest ih =>
    by_cases hfirst : first.Met t
    · obtain ⟨q, hq, hearlier, hq'⟩ :=
        ih fun hrest => hnot (List.forall_mem_cons.mpr ⟨hfirst, hrest⟩)
      have hne : first ≠ q := by
        rintro rfl
        exact hq' hfirst
      refine ⟨q, List.mem_cons_of_mem _ hq, ?_, hq'⟩
      rw [List.takeWhile_cons_of_pos (by simpa using hne), List.forall_mem_cons]
      exact ⟨hfirst, hearlier⟩
    · exact ⟨first, List.mem_cons_self, by simp, hfirst⟩

/-- Every requirement is looked at. -/
theorem mem_inOrder (q : Requirement) : q ∈ inOrder := by
  cases q <;> decide

end Requirement

namespace Resource

open Requirement (IsText TextFault Met Violated earlier)

variable {t : Tree} {e : ResourceError} {field : String} {value : Option Tree}
  {fields : List (String × Tree)} {r : Resource}

/-- Text that has to be there and is not is reported. -/
theorem requiredText_of_textFault (hfault : TextFault field value e) :
    requiredText field value = .error e := by
  cases hfault with
  | absent | null => rfl
  | @other value hnull htext =>
    unfold requiredText
    split <;> simp_all

/-- What a document has in its metadata, if that is a mapping. -/
theorem inMetadata?_of_find? {metadata : List (String × Tree)}
    (hmetadata : Entries.find? "metadata" fields = some (.map metadata)) (key : String) :
    (Tree.map fields).inMetadata? key = Entries.find? key metadata := by
  rw [Tree.inMetadata?, Tree.get?, hmetadata]
  rfl

/-- What is looked at in the metadata of a document that has an API version and a kind. -/
theorem statedIdentity_of_metadata {apiVersion kind : String} {metadata : List (String × Tree)}
    (hversion : Entries.find? "apiVersion" fields = some (.text apiVersion))
    (hkind : Entries.find? "kind" fields = some (.text kind))
    (hmetadata : Entries.find? "metadata" fields = some (.map metadata)) :
    statedIdentity fields = (do
      let name ← requiredText "metadata.name" (Entries.find? "name" metadata)
      let ns ← namespaceText metadata
      pure (.ofApiVersion apiVersion kind ns name)) := by
  rw [statedIdentity, hversion, hkind, hmetadata]
  rfl

/-- A namespace that meets the requirement is taken. -/
theorem namespaceText_of_met {metadata : List (String × Tree)}
    (hmetadata : Entries.find? "metadata" fields = some (.map metadata))
    (hmet : Requirement.ns.Met (.map fields)) : ∃ ns, namespaceText metadata = .ok ns := by
  rw [Met, inMetadata?_of_find? hmetadata] at hmet
  rcases hmet with hns | hns | ⟨s, hns⟩
  · exact ⟨"", by rw [namespaceText, hns]⟩
  · exact ⟨"", by rw [namespaceText, hns]⟩
  · exact ⟨s, by rw [namespaceText, hns]⟩

/-- A namespace that is there and is neither null nor text is reported. -/
theorem namespaceText_of_find? {metadata : List (String × Tree)} {found : Tree}
    (hfound : Entries.find? "namespace" metadata = some found) (hnull : found ≠ .null)
    (htext : ∀ s, found ≠ .text s) :
    namespaceText metadata = .error (.notAString "metadata.namespace") := by
  rw [namespaceText, hfound]
  cases found with
  | null => exact absurd rfl hnull
  | text s => exact absurd rfl (htext s)
  | _ => rfl

/-- A document that meets all requirements is a resource. -/
theorem exists_ofTree_of_met (hmet : ∀ q : Requirement, q.Met t) : ∃ r, ofTree t = .ok r := by
  obtain ⟨fields, rfl⟩ := hmet .mapping
  obtain ⟨apiVersion, hversion⟩ := hmet .apiVersion
  obtain ⟨kind, hkind⟩ := hmet .kind
  obtain ⟨metadata, hmetadata⟩ := hmet .metadata
  obtain ⟨name, hname⟩ := hmet .name
  obtain ⟨ns, hns⟩ := namespaceText_of_met hmetadata (hmet .ns)
  rw [inMetadata?_of_find? hmetadata] at hname
  rw [ofTree, statedIdentity_of_fields hversion hkind hmetadata hname hns]
  exact ⟨_, rfl⟩

/-- The first requirement that is violated is the error. -/
theorem ofTree_of_violated {q : Requirement} (hearlier : ∀ p ∈ earlier q, p.Met t)
    (hviolated : q.Violated t e) : ofTree t = .error e := by
  by_cases hmapping : q = .mapping
  · subst hmapping
    cases hviolated with
    | mapping hmapping =>
      cases t with
      | map fields => exact absurd rfl (hmapping fields)
      | _ => rfl
  obtain ⟨fields, rfl⟩ := hearlier .mapping (by cases q <;> first | decide | contradiction)
  -- It is the identity that cannot be stated then.
  suffices hstated : statedIdentity fields = .error e by
    rw [ofTree, hstated]
    rfl
  cases hviolated with
  | mapping => contradiction
  | apiVersion hfault =>
    have hversion : requiredText "apiVersion" (Entries.find? "apiVersion" fields) = .error e :=
      requiredText_of_textFault hfault
    rw [statedIdentity, hversion]
    rfl
  | kind hfault =>
    obtain ⟨apiVersion, hversion⟩ := hearlier .apiVersion (by decide)
    have hversion : Entries.find? "apiVersion" fields = some (.text apiVersion) := hversion
    have hkind : requiredText "kind" (Entries.find? "kind" fields) = .error e :=
      requiredText_of_textFault hfault
    rw [statedIdentity, hversion, hkind]
    rfl
  | metadata hmetadata =>
    obtain ⟨apiVersion, hversion⟩ := hearlier .apiVersion (by decide)
    obtain ⟨kind, hkind⟩ := hearlier .kind (by decide)
    have hversion : Entries.find? "apiVersion" fields = some (.text apiVersion) := hversion
    have hkind : Entries.find? "kind" fields = some (.text kind) := hkind
    rw [statedIdentity, hversion, hkind]
    simp only [requiredText, Bind.bind, Except.bind]
    split
    · next metadata hfound => exact absurd hfound (hmetadata metadata)
    · rfl
  | name hfault =>
    obtain ⟨apiVersion, hversion⟩ := hearlier .apiVersion (by decide)
    obtain ⟨kind, hkind⟩ := hearlier .kind (by decide)
    obtain ⟨metadata, hmetadata⟩ := hearlier .metadata (by decide)
    rw [inMetadata?_of_find? hmetadata] at hfault
    rw [statedIdentity_of_metadata hversion hkind hmetadata, requiredText_of_textFault hfault]
    rfl
  | ns hfound hnull htext =>
    obtain ⟨apiVersion, hversion⟩ := hearlier .apiVersion (by decide)
    obtain ⟨kind, hkind⟩ := hearlier .kind (by decide)
    obtain ⟨metadata, hmetadata⟩ := hearlier .metadata (by decide)
    obtain ⟨name, hname⟩ := hearlier .name (by decide)
    rw [inMetadata?_of_find? hmetadata] at hname hfound
    rw [statedIdentity_of_metadata hversion hkind hmetadata, hname,
      namespaceText_of_find? hfound hnull htext]
    rfl

/-- The document is that of the resource, and says what its identity is. -/
structure StatedBy (t : Tree) (r : Resource) : Prop where
  tree : r.tree = t
  origin : r.origin = r.id
  apiVersion : ∃ s, t.get? "apiVersion" = some (.text s) ∧ Identity.Splits s r.id.group r.id.version
  kind : t.get? "kind" = some (.text r.id.kind)
  name : t.inMetadata? "name" = some (.text r.id.name)
  ns : t.inMetadata? "namespace" = some (.text r.id.ns) ∨
    r.id.ns = "" ∧ (t.inMetadata? "namespace" = none ∨ t.inMetadata? "namespace" = some .null)

/-- A namespace is taken as it is, and one that is absent or null as the empty one. -/
theorem namespaceText_eq_ok_iff {metadata : List (String × Tree)} {ns : String} :
    namespaceText metadata = .ok ns ↔ Entries.find? "namespace" metadata = some (.text ns) ∨
      ns = "" ∧ (Entries.find? "namespace" metadata = none ∨
        Entries.find? "namespace" metadata = some .null) := by
  rw [namespaceText]
  cases Entries.find? "namespace" metadata with
  | none => simp [eq_comm]
  | some found => cases found <;> simp [eq_comm]

/-- A document is that of a resource exactly if it states it. -/
theorem ofTree_eq_ok_iff : ofTree t = .ok r ↔ StatedBy t r := by
  constructor
  · intro hok
    obtain ⟨rfl, horigin, hstated⟩ := ofTree_ok hok
    obtain ⟨apiVersion, kind, name, ns, metadata, hversion, hkind, hmetadata, hname, hns, hid⟩ :=
      statedIdentity_ok hstated
    refine ⟨rfl, horigin, ⟨apiVersion, hversion, ?_⟩, ?_, ?_, ?_⟩
    · rw [hid]
      exact Identity.splits_ofApiVersion apiVersion kind ns name
    · rw [hid]
      exact hkind
    · rw [hid, tree, inMetadata?_of_find? hmetadata]
      exact hname
    · rw [hid, tree, inMetadata?_of_find? hmetadata]
      exact namespaceText_eq_ok_iff.mp hns
  · rintro ⟨rfl, horigin, ⟨apiVersion, hversion, hsplits⟩, hkind, hname, hns⟩
    obtain ⟨found, hfound, hname⟩ := Option.bind_eq_some_iff.mp hname
    obtain ⟨metadata, rfl⟩ : ∃ metadata, found = .map metadata := by
      cases found with
      | map metadata => exact ⟨metadata, rfl⟩
      | _ => cases hname
    have hmetadata : Entries.find? "metadata" r.fields = some (.map metadata) := hfound
    rw [tree, inMetadata?_of_find? hmetadata, ← namespaceText_eq_ok_iff] at hns
    have hstated := statedIdentity_of_fields hversion hkind hmetadata hname hns
    rw [hsplits.ofApiVersion_eq] at hstated
    rw [tree, ofTree, hstated]
    obtain ⟨origin, id, fields⟩ := r
    obtain rfl : origin = id := horigin
    rfl

/-- A document is a resource exactly if it meets all requirements, and then it states what the
resource is: the document is kept as it is, and its identity is the one it was loaded with.
Otherwise the error is that of the first requirement that it violates, whatever it holds besides.
-/
theorem ofTree_exact (t : Tree) :
    ((∃ r, ofTree t = .ok r) ↔ ∀ q : Requirement, q.Met t) ∧
      (∀ r, ofTree t = .ok r ↔ StatedBy t r) ∧
      (∀ e, ofTree t = .error e ↔
        ∃ q : Requirement, (∀ p ∈ earlier q, p.Met t) ∧ q.Violated t e) ∧
      ∀ q : Requirement, ¬q.Met t ↔ ∃ e, q.Violated t e := by
  have hmet : (∀ q : Requirement, q.Met t) ∨
      ∃ q e, (∀ p ∈ earlier q, p.Met t) ∧ q.Violated t e := by
    by_cases hall : ∀ q ∈ Requirement.inOrder, q.Met t
    · exact .inl fun q => hall q (Requirement.mem_inOrder q)
    · obtain ⟨q, -, hearlier, hnot⟩ := Requirement.exists_first_not_met hall
      obtain ⟨e, hviolated⟩ := (Requirement.not_met_iff q).mp hnot
      exact .inr ⟨q, e, hearlier, hviolated⟩
  refine ⟨⟨?met, exists_ofTree_of_met⟩, fun r => ofTree_eq_ok_iff, fun e => ⟨?first, ?error⟩,
    Requirement.not_met_iff⟩
  case met =>
    rintro ⟨r, hok⟩
    rcases hmet with hall | ⟨q, e, hearlier, hviolated⟩
    · exact hall
    · cases hok.symm.trans (ofTree_of_violated hearlier hviolated)
  case first =>
    intro herror
    rcases hmet with hall | ⟨q, e', hearlier, hviolated⟩
    · obtain ⟨r, hok⟩ := exists_ofTree_of_met hall
      cases hok.symm.trans herror
    · have hsame := herror.symm.trans (ofTree_of_violated hearlier hviolated)
      obtain rfl := Except.error.inj hsame
      exact ⟨q, hearlier, hviolated⟩
  case error =>
    rintro ⟨q, hearlier, hviolated⟩
    exact ofTree_of_violated hearlier hviolated

/-- The kind of this document is null and its metadata is text, and it is the kind that is reported.
-/
example : ofTree (.map [("metadata", .text "acme"), ("kind", .null), ("apiVersion", .text "v1")]) =
    .error (.missingField "kind") := rfl

end Resource

end KubeHcl
