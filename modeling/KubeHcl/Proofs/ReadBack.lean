import KubeHcl.Proofs.Declarations
import KubeHcl.Proofs.Evaluation
import KubeHcl.Proofs.Operations
import KubeHcl.Proofs.Recording
import KubeHcl.Proofs.RenderedFiles

/-!
# A manifest means the document

The value of a manifest is the document as it was before the rewrite. Tokens that the rewrite put
into the document read as what they replaced. A text of the document that is a recorded token in its
wrapped form by itself cannot be told from one of these, and reads as what the token stands for.
-/

namespace KubeHcl

variable {config : Config} {c c' : Collection} {index : Nat}

/-- Whether a collection declares a namespace, which is not the empty one. -/
def Collection.declares (c : Collection) (ns : String) : Bool :=
  ns ≠ "" && (c.find? (.namespaceCalled ns)).isSome

/-- What it means to declare a namespace. -/
theorem Collection.declares_iff {ns : String} : c.declares ns = true ↔
    ns ≠ "" ∧ ∃ declaration, c.find? (.namespaceCalled ns) = some declaration := by
  simp [declares, Option.isSome_iff_exists]

/-- What it means not to declare it. -/
theorem Collection.declares_eq_false_iff {ns : String} :
    c.declares ns = false ↔ ns = "" ∨ c.find? (.namespaceCalled ns) = none := by
  by_cases hns : ns = "" <;> simp [declares, hns]

namespace Resource

open KubeHcl.Tree (mapTextsEntries)

/-- What a text stands for in a resource that was rewritten: the namespace for its wrapped token, if
that is declared, a text that was moved for its wrapped token, and itself in any other case. -/
def meaning (r : Resource) (declared : Bool) (s : String) : String :=
  if declared ∧ s = (Token.ofNamespace r.ns).wrapped then r.ns
  else (r.payloads.find? fun payload => s = (Token.ofPayload payload).wrapped).getD s

/-- The entries of a document with every text read as what it stands for. A declared namespace was
replaced itself, so it reads as it stood. -/
def readBack (r : Resource) (declared : Bool) : List (String × Tree) :=
  let read := mapTextsEntries (r.meaning declared) r.fields
  if declared then setNamespace r.ns read else read

/-- Setting a namespace and changing texts go together. -/
theorem mapTextsEntries_setNamespace (f : String → String) (ns : String)
    (fields : List (String × Tree)) :
    mapTextsEntries f (setNamespace ns fields) =
      setNamespace (f ns) (mapTextsEntries f fields) := by
  simp only [Tree.mapTextsEntries_eq, setNamespace, Entries.find?_map]
  cases Entries.find? "metadata" fields with
  | none => rfl
  | some metadata =>
    cases metadata with
    | map entries =>
      simp only [Option.map_some, Tree.mapTexts, Entries.map_insert, Tree.mapTextsEntries_eq]
    | _ => rfl

/-- When the tokens of moved texts are changed to these texts, and these to themselves, it makes no
difference that they were moved. -/
theorem mapTextsEntries_movedOut {f : String → String} {r : Resource}
    (htoken : ∀ payload ∈ r.payloads, f (Token.ofPayload payload).wrapped = payload)
    (hkept : ∀ payload ∈ r.payloads, f payload = payload) :
    mapTextsEntries f r.movedOut.fields = mapTextsEntries f r.fields := by
  unfold movedOut
  split
  · next data hdata =>
    simp only [payloads, hdata] at htoken hkept
    have hvalue : ∀ e ∈ data, e.2.movedOut.mapTexts f = e.2.mapTexts f := by
      intro e he
      unfold Tree.movedOut
      split
      · next payload hmoved =>
        have hmem : payload ∈ payloadsIn data := List.mem_filterMap.mpr ⟨e, he, hmoved⟩
        rw [(Tree.payload?_eq_some hmoved).1, Tree.mapTexts, Tree.mapTexts, htoken payload hmem,
          hkept payload hmem]
      · rfl
    have hdata' : (Tree.map (data.map fun e => (e.1, e.2.movedOut))).mapTexts f =
        (Tree.map data).mapTexts f := by
      rw [Tree.mapTexts, Tree.mapTexts, Tree.mapTextsEntries_eq, Tree.mapTextsEntries_eq,
        List.map_map]
      refine congrArg Tree.map (List.map_congr_left fun e he => ?_)
      exact congrArg (Prod.mk e.1) (hvalue e he)
    have hfound : Entries.find? "data" (mapTextsEntries f r.fields) =
        some ((Tree.map data).mapTexts f) := by
      rw [Tree.mapTextsEntries_eq, Entries.find?_map]
      exact congrArg (Option.map (Tree.mapTexts f)) hdata
    calc mapTextsEntries f
          (Entries.insert "data" (.map (data.map fun e => (e.1, e.2.movedOut))) r.fields)
        = Entries.insert "data" ((Tree.map data).mapTexts f) (mapTextsEntries f r.fields) := by
          rw [Tree.mapTextsEntries_eq, Entries.map_insert, hdata', ← Tree.mapTextsEntries_eq]
      _ = mapTextsEntries f r.fields := Entries.insert_of_find? hfound
  · rfl

section Meaning

variable {r : Resource}

/-- The token of a declared namespace stands for the namespace. -/
theorem meaning_namespace (r : Resource) :
    r.meaning true (Token.ofNamespace r.ns).wrapped = r.ns := by
  rw [meaning, if_pos ⟨rfl, rfl⟩]

/-- The token of a text that was moved stands for it, if no other such text has its digest. -/
theorem meaning_payload {payload : String} (declared : Bool) (hmem : payload ∈ r.payloads)
    (hdigests : ∀ other ∈ r.payloads,
      Sha512.hexDigest other = Sha512.hexDigest payload → other = payload) :
    r.meaning declared (Token.ofPayload payload).wrapped = payload := by
  have hother : ¬(declared = true ∧
      (Token.ofPayload payload).wrapped = (Token.ofNamespace r.ns).wrapped) := by
    rintro ⟨-, heq⟩
    exact Token.ofNamespace_ne_ofPayload _ _ (Token.wrapped_inj heq).symm
  rw [meaning, if_neg hother]
  cases hfound : r.payloads.find? fun other =>
      (Token.ofPayload payload).wrapped = (Token.ofPayload other).wrapped with
  | none =>
    have hnone := List.find?_eq_none.mp hfound payload hmem
    simp at hnone
  | some other =>
    have hsame := List.find?_some hfound
    have hdigest := Token.hexDigest_eq_of_ofPayload_eq (Token.wrapped_inj (of_decide_eq_true hsame))
    exact hdigests other (List.mem_of_find?_eq_some hfound) hdigest.symm

/-- A text that is none of these tokens stands for itself. -/
theorem meaning_of_ne {declared : Bool} {s : String}
    (hns : declared = true → s ≠ (Token.ofNamespace r.ns).wrapped)
    (hpayloads : ∀ payload ∈ r.payloads, s ≠ (Token.ofPayload payload).wrapped) :
    r.meaning declared s = s := by
  have hother : ¬(declared = true ∧ s = (Token.ofNamespace r.ns).wrapped) :=
    fun h => hns h.1 h.2
  have hnone : r.payloads.find? (fun payload => s = (Token.ofPayload payload).wrapped) = none := by
    refine List.find?_eq_none.mpr fun payload hmem => ?_
    simpa using hpayloads payload hmem
  rw [meaning, if_neg hother, hnone]
  rfl

end Meaning

end Resource

/-- A heredoc has the text that it was made of. -/
theorem value?_heredoc (lookup : String → List String → Option Tree) (payload : String) :
    (Placeholder.block (Hcl.Heredoc.ofText payload)).toExpression.value? lookup =
      some (.text payload) := by
  simp only [Placeholder.toExpression, Hcl.Expression.value?, Hcl.Heredoc.ofText,
    String.toList_ofList, Hcl.readTemplate_escapeTemplate, String.ofList_toList]

/-- When names are distinct, a rewrite leaves the reference to the declaration of a namespace
leading to the name of that namespace. -/
theorem RewriteStep.lookup_reference {result : Except TransformError Renderable}
    (hstep : RewriteStep config c index result c') (hc : c.Reachable) (hnames : c.names.Nodup)
    {r declaration : Resource} (hget : c.get? index = some r) (hns : r.ns ≠ "")
    (hdeclared : c.find? (.namespaceCalled r.ns) = some declaration) :
    (namespaceReference config declaration).toExpression.value? (c'.lookup config) =
      some (.text r.ns) := by
  obtain ⟨j, hj, hid⟩ := Collection.find?_some hdeclared
  have hne : j ≠ index := by
    rintro rfl
    obtain rfl := Option.some.inj (hj.symm.trans hget)
    exact hns (congrArg Identity.ns hid)
  have hmem : declaration ∈ c'.resources :=
    List.mem_of_getElem? (i := j) ((hstep.frame.2 j hne).trans hj)
  have hfound : c'.resources.find? (fun s => Naming.identifier s = Naming.identifier declaration) =
      some declaration := by
    refine find?_of_nodup_map ?_ hmem
    rw [← hstep.names_eq] at hnames
    exact hnames
  have hobtainable := hc.obtainable declaration (List.mem_of_getElem? hj)
  have hname := hobtainable.consistent.declaredName hid
  simp only [namespaceReference, Placeholder.toExpression, Hcl.Expression.value?,
    Collection.lookup, and_self, if_true, hfound, Option.bind_some, Tree.follow?]
  rw [Option.bind_eq_some_iff] at hname
  obtain ⟨metadata, hmetadata, hname⟩ := hname
  simp only [hmetadata, Option.bind_some, hname]

section Recorded

variable {x : Renderable} {r : Resource}

/-- A placeholder that was recorded for a token has the value that the token stands for. -/
theorem RewriteStep.value?_placeholder (hstep : RewriteStep config c index (.ok x) c')
    (hc : c.Reachable) (hnames : c.names.Nodup) (hget : c.get? index = some r)
    (hdigests : ∀ p ∈ r.payloads, ∀ q ∈ r.payloads,
      Sha512.hexDigest p = Sha512.hexDigest q → p = q)
    {entry : Token × Placeholder} (hmem : entry ∈ x.placeholders) :
    entry.2.toExpression.value? (c'.lookup config) =
      some (.text (r.meaning (c.declares r.ns) entry.1.wrapped)) := by
  obtain ⟨token, placeholder⟩ := entry
  rcases hstep.mem_placeholders hget hmem with
    ⟨hns, declaration, hdeclared, rfl, rfl⟩ | ⟨payload, hpayload, heq⟩
  · have hdeclares : c.declares r.ns = true :=
      Collection.declares_iff.mpr ⟨hns, declaration, hdeclared⟩
    rw [hstep.lookup_reference hc hnames hget hns hdeclared, hdeclares, Resource.meaning_namespace]
  · obtain ⟨rfl, rfl⟩ := Prod.mk.inj heq
    have hmeaning := Resource.meaning_payload (c.declares r.ns) hpayload
      fun other hother => hdigests other hother payload hpayload
    rw [hmeaning, value?_heredoc]

/-- A text that is no recorded token in its wrapped form stands for itself. -/
theorem RewriteStep.meaning_of_not_recorded (hstep : RewriteStep config c index (.ok x) c')
    (hget : c.get? index = some r)
    (hdigests : ∀ p ∈ r.payloads, ∀ q ∈ r.payloads,
      Sha512.hexDigest p = Sha512.hexDigest q → p = q)
    {s : String} (hother : ∀ entry ∈ x.placeholders, s ≠ entry.1.wrapped) :
    r.meaning (c.declares r.ns) s = s := by
  refine Resource.meaning_of_ne ?_ ?_
  · intro hdeclares
    obtain ⟨hns, declaration, hdeclared⟩ := Collection.declares_iff.mp hdeclares
    have hfound := hstep.find?_reference hget hns hdeclared
    exact hother (.ofNamespace r.ns, namespaceReference config declaration)
      (Entries.mem_of_find? hfound)
  · intro payload hmem
    have hfound := hstep.find?_payload hget hmem
      fun other hmem' => hdigests other hmem' payload hmem
    exact hother (.ofPayload payload, .block (Hcl.Heredoc.ofText payload))
      (Entries.mem_of_find? hfound)

/-- In a rewritten resource with its placeholders, every text has the value that it stands for. -/
theorem RewriteStep.value?_replaceText (hstep : RewriteStep config c index (.ok x) c')
    (hc : c.Reachable) (hnames : c.names.Nodup) (hget : c.get? index = some r)
    (hdigests : ∀ p ∈ r.payloads, ∀ q ∈ r.payloads,
      Sha512.hexDigest p = Sha512.hexDigest q → p = q) (s : String) :
    (x.placeholders.replaceText s).value? (c'.lookup config) =
      some (.text (r.meaning (c.declares r.ns) s)) := by
  by_cases hrecorded : ∃ entry ∈ x.placeholders, s = entry.1.wrapped
  · obtain ⟨⟨token, _⟩, hmem, rfl⟩ := hrecorded
    obtain ⟨placeholder, hfound⟩ := Option.isSome_iff_exists.mp
      (Entries.find?_isSome_iff.mpr (List.mem_map_of_mem hmem))
    rw [Placeholders.replaceText_wrapped (hstep.token_ne_empty hmem) hfound]
    exact hstep.value?_placeholder hc hnames hget hdigests (Entries.mem_of_find? hfound)
  · have hother : ∀ entry ∈ x.placeholders, s ≠ entry.1.wrapped :=
      fun entry hmem heq => hrecorded ⟨entry, hmem, heq⟩
    rw [Placeholders.replaceText_of_forall hother,
      hstep.meaning_of_not_recorded hget hdigests hother]
    rfl

/-- With every text read as what it stands for, a rewritten document is the one before the rewrite
as it reads back. -/
theorem RewriteStep.mapTexts_meaning (hstep : RewriteStep config c index (.ok x) c')
    (hget : c.get? index = some r)
    (hdigests : ∀ p ∈ r.payloads, ∀ q ∈ r.payloads,
      Sha512.hexDigest p = Sha512.hexDigest q → p = q) :
    x.resource.tree.mapTexts (r.meaning (c.declares r.ns)) =
      .map (r.readBack (c.declares r.ns)) := by
  obtain ⟨r', moved, recorded, c₁, hget', hns, -, hresource, -⟩ := hstep.made
  obtain rfl := Option.some.inj (hget.symm.trans hget')
  have htoken : ∀ payload ∈ moved.payloads,
      r.meaning (c.declares r.ns) (Token.ofPayload payload).wrapped = payload := by
    intro payload hmem
    rw [hns.payloads_eq] at hmem
    exact Resource.meaning_payload _ hmem fun other hother => hdigests other hother payload hmem
  have hkept : ∀ payload ∈ moved.payloads, r.meaning (c.declares r.ns) payload = payload := by
    intro payload hmem
    have hne := Token.ne_wrapped_of_fits (Resource.fits_of_mem_payloads hmem)
    exact Resource.meaning_of_ne (fun _ => hne _) (fun _ _ => hne _)
  rw [hresource, Resource.tree, Tree.mapTexts, Resource.mapTextsEntries_movedOut htoken hkept,
    Resource.readBack]
  cases hns with
  | kept hundeclared =>
    have hdeclares : c.declares r.ns = false := Collection.declares_eq_false_iff.mpr hundeclared
    rw [hdeclares, if_neg Bool.false_ne_true]
  | changed hns hdeclared =>
    have hdeclares : c.declares r.ns = true := Collection.declares_iff.mpr ⟨hns, _, hdeclared⟩
    have hfields : r.referring.fields =
        Resource.setNamespace (Token.ofNamespace r.ns).wrapped r.fields := rfl
    rw [hdeclares, if_pos rfl, hfields, Resource.mapTextsEntries_setNamespace,
      Resource.meaning_namespace]

end Recorded

/-- Reading back keeps everything but texts: shape, keys, their order and all other values. -/
theorem Resource.Consistent.readBack_shape {r : Resource} (hr : r.Consistent) {declared : Bool}
    (hns : declared = true → r.ns ≠ "") :
    (Tree.map (r.readBack declared)).mapTexts (fun _ => "") = r.tree.mapTexts (fun _ => "") := by
  have hread : Tree.mapTextsEntries (fun _ => "")
      (Tree.mapTextsEntries (r.meaning declared) r.fields) =
        Tree.mapTextsEntries (fun _ => "") r.fields := Tree.mapTextsEntries_mapTextsEntries _ _ _
  rw [Tree.mapTexts, tree, Tree.mapTexts, readBack]
  cases declared with
  | false => exact congrArg Tree.map hread
  | true =>
    rw [if_pos rfl, mapTextsEntries_setNamespace, hread]
    have hset := mapTextsEntries_setNamespace (fun _ => "") r.ns r.fields
    rw [hr.setNamespace_self (hns rfl)] at hset
    exact congrArg Tree.map hset.symm

/-- When every text of a document stands for itself, it reads back as it is. -/
theorem Resource.Consistent.readBack_eq {r : Resource} (hr : r.Consistent) {declared : Bool}
    (hns : declared = true → r.ns ≠ "")
    (hmeaning : ∀ s ∈ r.tree.texts, r.meaning declared s = s) :
    r.readBack declared = r.fields := by
  have hread : Tree.mapTextsEntries (r.meaning declared) r.fields = r.fields :=
    Tree.mapTextsEntries_of_forall hmeaning
  rw [readBack, hread]
  cases declared with
  | false => rfl
  | true => exact hr.setNamespace_self (hns rfl)

/-- A resource of a reachable collection that was rewritten and declared means what it meant before:
its manifest has the value of its document, in which only a text that is a recorded token in its
wrapped form reads as what the token stands for. It is assumed that documents survive being written
and read, that names do not collide and that digests of the texts that are moved do not collide. -/
theorem manifest_reads_back {x : Renderable} {r : Resource} {body : Hcl.Body} (hc : c.Reachable)
    (hget : c.get? index = some r) (hrewrite : (rewrite config index).outcome c = (.ok x, c'))
    (hdeclaration : x.declaration config = .ok body)
    (hnormal : normalize x.resource = .ok x.resource.tree) (hnames : c.names.Nodup)
    (hdigests : ∀ p ∈ r.payloads, ∀ q ∈ r.payloads,
      Sha512.hexDigest p = Sha512.hexDigest q → p = q) :
    ∃ manifest, body = x.block config manifest ∧
      manifest.value? (c'.lookup config) = some (.map (r.readBack (c.declares r.ns))) ∧
      (Tree.map (r.readBack (c.declares r.ns))).mapTexts (fun _ => "") =
        r.tree.mapTexts (fun _ => "") ∧
      (∀ entry ∈ x.placeholders, entry.2.toExpression.value? (c'.lookup config) =
        some (.text (r.meaning (c.declares r.ns) entry.1.wrapped))) ∧
      (∀ s, (∀ entry ∈ x.placeholders, s ≠ entry.1.wrapped) →
        r.meaning (c.declares r.ns) s = s) ∧
      ((∀ s ∈ r.tree.texts, ∀ entry ∈ x.placeholders, s ≠ entry.1.wrapped) →
        .map (r.readBack (c.declares r.ns)) = r.tree) := by
  have hstep := rewrite_outcome_iff.mp hrewrite
  have hconsistent := (hc.obtainable r (List.mem_of_getElem? hget)).consistent
  have hns : c.declares r.ns = true → r.ns ≠ "" :=
    fun hdeclares => (Collection.declares_iff.mp hdeclares).1
  obtain ⟨-, manifest, hmanifest, hbody⟩ := Renderable.declaration_ok hdeclaration
  obtain ⟨tree, htree, rfl⟩ := Renderable.manifest_ok hmanifest
  obtain rfl := Except.ok.inj (hnormal.symm.trans htree)
  have hself : ∀ s, (∀ entry ∈ x.placeholders, s ≠ entry.1.wrapped) →
      r.meaning (c.declares r.ns) s = s :=
    fun s hother => hstep.meaning_of_not_recorded hget hdigests hother
  refine ⟨_, hbody, ?value, hconsistent.readBack_shape hns, ?recorded, hself, ?exact⟩
  case value =>
    rw [Placeholders.value?_substitute (hstep.value?_replaceText hc hnames hget hdigests),
      hstep.mapTexts_meaning hget hdigests]
  case recorded =>
    intro entry hmem
    exact hstep.value?_placeholder hc hnames hget hdigests hmem
  case exact =>
    intro hlegitimate
    refine congrArg Tree.map (hconsistent.readBack_eq hns ?_)
    intro s hs
    exact hself s (hlegitimate s hs)

/-- The manifest of the first resource of the small collection, with a reference and a heredoc in
it, means the document. -/
theorem memberFirst_reads_back :
    ∃ x c' body manifest, (rewrite {} 0).outcome .memberFirst = (.ok x, c') ∧
      x.declaration {} = .ok body ∧ body = x.block {} manifest ∧
      manifest.value? (c'.lookup {}) = some Resource.settings.tree := by
  have hrenders := memberFirst_renders
  rcases hout : (renderAll {}).outcome .memberFirst with ⟨result, c'⟩
  rw [hout] at hrenders
  cases result with
  | error e => cases hrenders
  | ok files =>
    obtain ⟨-, hfiles, -⟩ := renderAll_ok hout
    obtain ⟨x, text, hturn, -⟩ := hfiles.rendered 0 (by decide)
    obtain ⟨body, hdeclaration, -⟩ := Renderable.render_ok hturn.2
    have hrewrite := rewrite_outcome_iff.mpr hturn.step
    have hget : Collection.memberFirst.get? 0 = some .settings := rfl
    have hnormal : normalize x.resource = .ok x.resource.tree := by
      obtain ⟨r, moved, recorded, c₁, hget', hns, -, hresource, -⟩ := hturn.step.made
      obtain rfl := Option.some.inj (hget.symm.trans hget')
      cases hns with
      | kept hundeclared => exact absurd hundeclared (by decide)
      | changed =>
        rw [hresource]
        decide +kernel
    have hnames : Collection.memberFirst.names.Nodup := by
      have hne : Naming.identifier .settings ≠ Naming.identifier .acme := by
        intro heq
        have hhead := congrArg (fun s => s.toList.head?) heq
        simp only [Naming.identifier, String.toList_ofList] at hhead
        exact absurd hhead (by decide +kernel)
      simpa [Collection.names, Collection.memberFirst] using hne
    have hpayloads : Resource.settings.payloads = ["Hello, $\x7bname\x7d\n"] := by decide
    obtain ⟨manifest, hbody, hvalue, -, -, -, hexact⟩ :=
      manifest_reads_back Collection.memberFirst_reachable hget hrewrite hdeclaration hnormal
        hnames (by simp [hpayloads])
    rw [hexact ?_] at hvalue
    · exact ⟨x, _, body, manifest, hrewrite, hdeclaration, hbody, hvalue⟩
    · -- No text of the document starts like a wrapped token.
      rintro s hs entry - rfl
      have hhead : ∀ s ∈ Resource.settings.tree.texts, s.toList.head? ≠ some '#' := by decide
      refine hhead _ hs ?_
      rw [Token.toList_wrapped]
      rfl

end KubeHcl
