import KubeHcl.Proofs.Declarations
import KubeHcl.Proofs.Places
import KubeHcl.Proofs.RewriteResult

/-!
# Where a rewrite puts tokens

A rewrite puts a token in place of the namespace, if that is declared, and of the texts of the data
that fit a heredoc; where these stand is known from the keys that lead there. In the manifest, the
placeholders of these tokens stand there. But the substitution goes by the text alone, and so a text
anywhere else that is a recorded token in its wrapped form gives way to a placeholder as well.
-/

namespace KubeHcl

open Hcl (Expression)
open KubeHcl.Tree (Place)

/-- Whether a place is that of the namespace. -/
def Tree.Place.isNamespace (place : Place) : Bool := place = [.key "metadata", .key "namespace"]

/-- Whether a place is that of a value of the data. -/
def Tree.Place.isData : Place → Bool
  | [.key name, .key _] => name = "data"
  | _ => false

/-- A value of the data stands behind two keys. -/
theorem Tree.Place.isData_iff {place : Place} :
    place.isData = true ↔ ∃ key, place = [.key "data", .key key] := by
  constructor
  · intro hplace
    unfold isData at hplace
    split at hplace
    · next name key => exact ⟨key, by rw [of_decide_eq_true hplace]⟩
    · cases hplace
  · rintro ⟨key, rfl⟩
    rfl

namespace Resource

/-- The token that a rewrite puts in place of a text, if it does. -/
def tokenAt? (declared : Bool) (place : Place) (s : String) : Option Token :=
  if place.isNamespace then if declared then some (.ofNamespace s) else none
  else if place.isData && Hcl.Heredoc.fits s then some (.ofPayload s)
  else none

/-- A text after the rewrite. -/
def rewrittenText (declared : Bool) (place : Place) (s : String) : String :=
  match tokenAt? declared place s with
  | some token => token.wrapped
  | none => s

/-- A text after the namespace has become a reference. -/
def referringText (place : Place) (s : String) : String :=
  if place.isNamespace then (Token.ofNamespace s).wrapped else s

/-- A rewrite only puts the token of a namespace in its place, and that of a text of the data. -/
theorem tokenAt?_eq_some {declared : Bool} {place : Place} {s : String} {token : Token}
    (htoken : tokenAt? declared place s = some token) :
    (place.isNamespace = true ∧ declared = true ∧ token = .ofNamespace s) ∨
      ∃ key, place = [.key "data", .key key] ∧ Hcl.Heredoc.fits s = true ∧
        token = .ofPayload s := by
  unfold tokenAt? at htoken
  split at htoken
  · next hplace =>
    split at htoken
    · next hdeclared => exact .inl ⟨hplace, hdeclared, (Option.some.inj htoken).symm⟩
    · cases htoken
  · split at htoken
    · next hmoved =>
      obtain ⟨hplace, hfits⟩ := Bool.and_eq_true_iff.mp hmoved
      obtain ⟨key, rfl⟩ := Place.isData_iff.mp hplace
      exact .inr ⟨key, rfl, hfits, (Option.some.inj htoken).symm⟩
    · cases htoken

/-- It puts the token of every text of the data that fits a heredoc. -/
theorem tokenAt?_data (declared : Bool) (key : String) {s : String}
    (hfits : Hcl.Heredoc.fits s = true) :
    tokenAt? declared [.key "data", .key key] s = some (.ofPayload s) := by
  simp [tokenAt?, Place.isNamespace, Place.isData, hfits]

/-- A text with a token in its place becomes the wrapped token. -/
theorem rewrittenText_of_tokenAt? {declared : Bool} {place : Place} {s : String} {token : Token}
    (htoken : tokenAt? declared place s = some token) :
    rewrittenText declared place s = token.wrapped := by
  rw [rewrittenText, htoken]

/-- Any other text stays. -/
theorem rewrittenText_of_kept {declared : Bool} {place : Place} {s : String}
    (hkept : tokenAt? declared place s = none) : rewrittenText declared place s = s := by
  rw [rewrittenText, hkept]

/-- Texts are moved out after the namespace has become a reference. -/
theorem rewrittenText_referringText (place : Place) (s : String) :
    rewrittenText false place (referringText place s) = rewrittenText true place s := by
  by_cases hplace : place.isNamespace <;> simp [rewrittenText, tokenAt?, referringText, hplace]

section MovedOut

/-- Behind another key than that of the data, and deeper than its values, nothing is moved. -/
theorem rewrittenText_of_not_isData {place : Place} (hplace : place.isData = false) (s : String) :
    rewrittenText false place s = s := by
  simp [rewrittenText, tokenAt?, hplace]

/-- A value of the data with its texts moved. -/
theorem mapTextsAt_dataValue (key : String) (t : Tree) :
    t.mapTextsAt (fun place => rewrittenText false (.key "data" :: .key key :: place)) =
      t.movedOut := by
  cases t with
  | text s =>
    by_cases hfits : Hcl.Heredoc.fits s <;>
      simp [Tree.mapTextsAt, rewrittenText, tokenAt?, Place.isNamespace, Place.isData,
        Tree.movedOut, Tree.payload?, hfits]
  | seq _ | map _ =>
    refine Tree.mapTextsAt_of_forall fun e he => rewrittenText_of_not_isData ?_ e.2
    obtain ⟨place, s⟩ := e
    cases place with
    | nil => cases Tree.eq_text_of_mem_textsAt he
    | cons => rfl
  | _ => rfl

/-- The data with its texts moved. -/
theorem mapTextsAt_data (t : Tree) :
    t.mapTextsAt (fun place => rewrittenText false (.key "data" :: place)) =
      match t with
      | .map data => .map (data.map fun e => (e.1, e.2.movedOut))
      | t => t := by
  cases t with
  | map data =>
    rw [Tree.mapTextsAt, Tree.mapEntriesAt_eq]
    exact congrArg Tree.map (List.map_congr_left fun e _ => by rw [mapTextsAt_dataValue e.1 e.2])
  | seq items =>
    refine Tree.mapTextsAt_of_forall fun e he => rewrittenText_of_not_isData ?_ e.2
    obtain ⟨below, -, rfl⟩ := List.mem_map.mp he
    rfl
  | _ => rfl

/-- Below another key nothing is moved. -/
theorem mapTextsAt_of_ne_data {key : String} (hkey : key ≠ "data") (t : Tree) :
    t.mapTextsAt (fun place => rewrittenText false (.key key :: place)) = t := by
  refine Tree.mapTextsAt_of_forall fun e _ => rewrittenText_of_not_isData ?_ e.2
  rcases e.1 with _ | ⟨_ | _, _ | _⟩ <;> simp [Place.isData, hkey]

/-- Moving texts out of the data changes the texts in these places. -/
theorem movedOut_tree {r : Resource} (hkeys : r.tree.DistinctKeys) :
    r.movedOut.tree = r.tree.mapTextsAt (rewrittenText false) := by
  obtain ⟨hnodup, -⟩ := Tree.distinctKeys_map.mp hkeys
  have hfields : r.movedOut.fields = r.fields.map fun e =>
      (e.1, e.2.mapTextsAt fun place => rewrittenText false (.key e.1 :: place)) := by
    unfold movedOut
    split
    · next data hdata =>
      have hmem := Entries.find?_isSome_iff.mp (Option.isSome_of_eq_some hdata)
      rw [withField, Entries.insert_eq_map hnodup hmem]
      refine List.map_congr_left fun e he => ?_
      split
      · next hkey =>
        have hvalue : r.field? e.1 = some e.2 := Entries.find?_of_mem hnodup he
        rw [hkey, hdata] at hvalue
        rw [← Option.some.inj hvalue, hkey, mapTextsAt_data]
      · next hkey => rw [mapTextsAt_of_ne_data hkey]
    · next hdata =>
      -- The data is no mapping, if there is any.
      refine (List.map_id' _).symm.trans (List.map_congr_left fun e he => ?_)
      by_cases hkey : e.1 = "data"
      · rw [hkey, mapTextsAt_data]
        split
        · next data hvalue =>
          have hfound : r.field? e.1 = some e.2 := Entries.find?_of_mem hnodup he
          rw [hkey, hvalue] at hfound
          exact absurd hfound (hdata data)
        · rw [← hkey]
      · rw [mapTextsAt_of_ne_data hkey]
  rw [tree, hfields, tree, Tree.mapTextsAt, Tree.mapEntriesAt_eq]

end MovedOut

section Referring

/-- Below another key than that of the metadata no text is the namespace. -/
theorem mapTextsAt_of_ne_metadata {key : String} (hkey : key ≠ "metadata") (t : Tree) :
    t.mapTextsAt (fun place => referringText (.key key :: place)) = t :=
  Tree.mapTextsAt_of_forall fun e _ => by simp [referringText, Place.isNamespace, hkey]

/-- The metadata with the namespace replaced. -/
theorem mapTextsAt_metadata {metadata : List (String × Tree)} {ns : String}
    (hnodup : (metadata.map Prod.fst).Nodup)
    (hns : Entries.find? "namespace" metadata = some (.text ns)) :
    (Tree.map metadata).mapTextsAt (fun place => referringText (.key "metadata" :: place)) =
      .map (Entries.insert "namespace" (.text (Token.ofNamespace ns).wrapped) metadata) := by
  have hmem := Entries.find?_isSome_iff.mp (Option.isSome_of_eq_some hns)
  rw [Tree.mapTextsAt, Tree.mapEntriesAt_eq, Entries.insert_eq_map hnodup hmem]
  refine congrArg Tree.map (List.map_congr_left fun e he => ?_)
  split
  · next hkey =>
    have hvalue := Entries.find?_of_mem hnodup he
    rw [hkey, hns] at hvalue
    rw [← Option.some.inj hvalue, hkey]
    rfl
  · next hkey =>
    have hother : e.2.mapTextsAt
        (fun place => referringText (.key "metadata" :: .key e.1 :: place)) = e.2 :=
      Tree.mapTextsAt_of_forall fun e' _ => by simp [referringText, Place.isNamespace, hkey]
    rw [hother]

/-- The change of the namespace into a reference changes the text in its place. -/
theorem referring_tree {r : Resource} (hr : r.Consistent) (hne : r.ns ≠ "")
    (hkeys : r.tree.DistinctKeys) : r.referring.tree = r.tree.mapTextsAt referringText := by
  obtain ⟨hnodup, -⟩ := Tree.distinctKeys_map.mp hkeys
  obtain ⟨apiVersion, kind, name, ns, metadata, -, -, hmetadata, -, hns, hstated⟩ :=
    statedIdentity_ok hr.stated
  obtain rfl : r.ns = ns := congrArg Identity.ns hstated
  obtain ⟨hnodup', -⟩ := Tree.distinctKeys_map.mp (hkeys.value hmetadata)
  have hmem := Entries.find?_isSome_iff.mp (Option.isSome_of_eq_some hmetadata)
  have hfields : r.referring.fields = r.fields.map fun e =>
      (e.1, e.2.mapTextsAt fun place => referringText (.key e.1 :: place)) := by
    simp only [referring, withNamespace, setNamespace, hmetadata]
    rw [Entries.insert_eq_map hnodup hmem]
    refine List.map_congr_left fun e he => ?_
    split
    · next hkey =>
      have hvalue := Entries.find?_of_mem hnodup he
      rw [hkey, hmetadata] at hvalue
      rw [← Option.some.inj hvalue, hkey, mapTextsAt_metadata hnodup' (namespaceText_ok hns hne)]
    · next hkey => rw [mapTextsAt_of_ne_metadata hkey]
  rw [tree, hfields, tree, Tree.mapTextsAt, Tree.mapEntriesAt_eq]

end Referring

section TextsAt

variable {r : Resource}

/-- The name stands in the metadata. -/
theorem Consistent.mem_textsAt_name (hr : r.Consistent) (hkeys : r.tree.DistinctKeys) :
    ([.key "metadata", .key "name"], r.id.name) ∈ r.tree.textsAt := by
  obtain ⟨apiVersion, kind, name, ns, metadata, -, -, hmetadata, hname, -, hstated⟩ :=
    statedIdentity_ok hr.stated
  obtain rfl : r.id.name = name := congrArg Identity.name hstated
  have hbelow : ([.key "name"], r.id.name) ∈ (Tree.map metadata).textsAt :=
    (Tree.mem_textsAt_key (hkeys.value hmetadata)).mpr ⟨_, hname, List.mem_singleton_self _⟩
  exact (Tree.mem_textsAt_key hkeys).mpr ⟨_, hmetadata, hbelow⟩

/-- So does a namespace that is not empty. -/
theorem Consistent.mem_textsAt_ns (hr : r.Consistent) (hkeys : r.tree.DistinctKeys)
    (hne : r.ns ≠ "") :
    ([.key "metadata", .key "namespace"], r.ns) ∈ r.tree.textsAt := by
  obtain ⟨apiVersion, kind, name, ns, metadata, -, -, hmetadata, -, hns, hstated⟩ :=
    statedIdentity_ok hr.stated
  obtain rfl : r.ns = ns := congrArg Identity.ns hstated
  have hbelow : ([.key "namespace"], r.ns) ∈ (Tree.map metadata).textsAt :=
    (Tree.mem_textsAt_key (hkeys.value hmetadata)).mpr
      ⟨_, namespaceText_ok hns hne, List.mem_singleton_self _⟩
  exact (Tree.mem_textsAt_key hkeys).mpr ⟨_, hmetadata, hbelow⟩

/-- The text in the place of the namespace is the namespace. -/
theorem Consistent.eq_ns_of_mem (hr : r.Consistent) (hkeys : r.tree.DistinctKeys) {place : Place}
    {s : String} (hplace : place.isNamespace = true) (hmem : (place, s) ∈ r.tree.textsAt) :
    s = r.ns := by
  obtain ⟨apiVersion, kind, name, ns, metadata, -, -, hmetadata, -, hns, hstated⟩ :=
    statedIdentity_ok hr.stated
  obtain rfl : r.ns = ns := congrArg Identity.ns hstated
  obtain rfl := of_decide_eq_true hplace
  obtain ⟨value, hvalue, hbelow⟩ := (Tree.mem_textsAt_key hkeys).mp hmem
  obtain rfl := Option.some.inj (hmetadata.symm.trans hvalue)
  obtain ⟨value, hvalue, hroot⟩ := (Tree.mem_textsAt_key (hkeys.value hmetadata)).mp hbelow
  obtain rfl := Tree.eq_text_of_mem_textsAt hroot
  simp only [namespaceText, hvalue] at hns
  exact Except.ok.inj hns

/-- A text of the data that is moved is a text in the place of one of its values. -/
theorem mem_payloads_iff (hkeys : r.tree.DistinctKeys) {s : String} :
    s ∈ r.payloads ↔ Hcl.Heredoc.fits s = true ∧
      ∃ key, ([.key "data", .key key], s) ∈ r.tree.textsAt := by
  constructor
  · intro hmem
    refine ⟨fits_of_mem_payloads hmem, ?_⟩
    unfold payloads at hmem
    split at hmem
    · next data hdata =>
      obtain ⟨e, he, hmoved⟩ := List.mem_filterMap.mp hmem
      have hroot : ([], s) ∈ e.2.textsAt := by
        rw [(Tree.payload?_eq_some hmoved).1]
        exact List.mem_singleton_self _
      have hbelow : ([.key e.1], s) ∈ (Tree.map data).textsAt :=
        Tree.mem_textsAt_map.mpr ⟨e, he, _, hroot, rfl⟩
      exact ⟨e.1, (Tree.mem_textsAt_key hkeys).mpr ⟨_, hdata, hbelow⟩⟩
    · cases hmem
  · rintro ⟨hfits, key, hmem⟩
    obtain ⟨value, hdata, hbelow⟩ := (Tree.mem_textsAt_key hkeys).mp hmem
    cases value with
    | map data =>
      obtain ⟨e, he, ⟨place, s⟩, hroot, heq⟩ := Tree.mem_textsAt_map.mp hbelow
      obtain ⟨hplace, rfl⟩ := Prod.mk.inj heq
      obtain ⟨-, rfl⟩ := List.cons.inj hplace
      have hpayload : e.2.payload? = some s := by
        rw [Tree.eq_text_of_mem_textsAt hroot, Tree.payload?, if_pos hfits]
      have hfound : r.field? "data" = some (.map data) := hdata
      simp only [payloads, hfound]
      exact List.mem_filterMap.mpr ⟨e, he, hpayload⟩
    | text s' => cases List.mem_singleton.mp hbelow
    | seq items =>
      obtain ⟨⟨place, s⟩, -, heq⟩ := List.mem_map.mp hbelow
      cases heq
    | _ => cases hbelow

end TextsAt

section Renderable

variable {r : Resource} {reference : Option Placeholder}

/-- A rewrite changes every text in its place, and nothing else of the document. -/
theorem renderable_tree (hr : r.Consistent) (hkeys : r.tree.DistinctKeys)
    (hne : reference.isSome = true → r.ns ≠ "") :
    (r.renderable reference).resource.tree =
      r.tree.mapTextsAt (rewrittenText reference.isSome) := by
  cases reference with
  | none => exact movedOut_tree hkeys
  | some placeholder =>
    have hboth : (fun place s => rewrittenText false place (referringText place s)) =
        rewrittenText true := funext₂ rewrittenText_referringText
    calc r.referring.movedOut.tree
        = r.referring.tree.mapTextsAt (rewrittenText false) :=
          movedOut_tree (distinctKeys_withNamespace hkeys _)
      _ = r.tree.mapTextsAt fun place s => rewrittenText false place (referringText place s) := by
          rw [referring_tree hr (hne rfl) hkeys, Tree.mapTextsAt_mapTextsAt]
      _ = r.tree.mapTextsAt (rewrittenText true) := by rw [hboth]

/-- The manifest of what a resource is rewritten to is its document as it was loaded, with every
text written as the rewritten one gives way to. -/
theorem renderable_manifest (hr : r.Consistent) (hkeys : r.tree.DistinctKeys)
    (hne : reference.isSome = true → r.ns ≠ "") {manifest : Expression}
    (hok : (r.renderable reference).manifest = .ok manifest) :
    ∃ loaded, normalize r = .ok loaded ∧ loaded.textsAt = r.tree.textsAt ∧
      manifest = .ofTreeAt (fun place s => (r.renderable reference).placeholders.replaceText
        (rewrittenText reference.isSome place s)) loaded := by
  obtain ⟨rewritten, hnormal, rfl⟩ := Renderable.manifest_ok hok
  rw [normalize_eq_ok_iff, renderable_tree hr hkeys hne, Tree.reread?_mapTextsAt,
    Option.map_eq_some_iff] at hnormal
  obtain ⟨loaded, hloaded, rfl⟩ := hnormal
  exact ⟨loaded, normalize_eq_ok_iff.mpr hloaded, Tree.textsAt_of_reread? hkeys hloaded,
    Placeholders.substitute_mapTextsAt _ _ loaded⟩

/-- What is recorded is the reference to the namespace, or the heredoc of a text that is moved. -/
theorem mem_renderable_placeholders {entry : Token × Placeholder}
    (hmem : entry ∈ (r.renderable reference).placeholders) :
    (∃ placeholder, reference = some placeholder ∧ entry = (.ofNamespace r.ns, placeholder)) ∨
      ∃ payload ∈ r.payloads, entry = recordedPayload payload := by
  have hpayload : entry ∈ r.payloads.map recordedPayload →
      ∃ payload ∈ r.payloads, entry = recordedPayload payload := by
    intro hmem
    obtain ⟨payload, hpayload, rfl⟩ := List.mem_map.mp hmem
    exact ⟨payload, hpayload, rfl⟩
  cases reference with
  | none => exact .inr (hpayload ((Placeholders.mem_extend hmem).resolve_left List.not_mem_nil))
  | some placeholder =>
    rcases Placeholders.mem_extend hmem with hreference | hmoved
    · exact .inl ⟨placeholder, rfl, List.mem_singleton.mp hreference⟩
    · exact .inr (hpayload hmoved)

/-- A recorded token in its wrapped form gives way to what is recorded for it. -/
theorem renderable_replaceText_wrapped {token : Token} {placeholder : Placeholder}
    (hrecorded : Entries.find? token (r.renderable reference).placeholders = some placeholder) :
    (r.renderable reference).placeholders.replaceText token.wrapped =
      placeholder.toExpression := by
  refine Placeholders.replaceText_wrapped ?_ hrecorded
  rcases mem_renderable_placeholders (Entries.mem_of_find? hrecorded) with
    ⟨_, -, heq⟩ | ⟨payload, -, heq⟩
  · obtain ⟨rfl, -⟩ := Prod.mk.inj heq
    exact Token.ofNamespace_ne_empty r.ns
  · obtain ⟨rfl, -⟩ := Prod.mk.inj heq
    exact Token.ofPayload_ne_empty payload

/-- Every token that a rewrite puts in place of a text is recorded. -/
theorem recorded_of_tokenAt? (hr : r.Consistent) (hkeys : r.tree.DistinctKeys) {place : Place}
    {s : String} {token : Token} (hmem : (place, s) ∈ r.tree.textsAt)
    (htoken : tokenAt? reference.isSome place s = some token) :
    ∃ placeholder, Entries.find? token (r.renderable reference).placeholders =
      some placeholder := by
  rw [← Option.isSome_iff_exists]
  rcases tokenAt?_eq_some htoken with ⟨hplace, hdeclared, rfl⟩ | ⟨key, rfl, hfits, rfl⟩
  · obtain rfl := hr.eq_ns_of_mem hkeys hplace hmem
    obtain ⟨placeholder, rfl⟩ := Option.isSome_iff_exists.mp hdeclared
    exact Placeholders.isSome_find?_extend (.inl (by simp [Entries.find?]))
  · have hpayload : s ∈ r.payloads := (mem_payloads_iff hkeys).mpr ⟨hfits, key, hmem⟩
    have hkey : Token.ofPayload s ∈ (r.payloads.map recordedPayload).map Prod.fst :=
      List.mem_map_of_mem (List.mem_map_of_mem hpayload)
    cases reference <;> exact Placeholders.isSome_find?_extend (.inr hkey)

end Renderable

/-- How the text in a place of a document is written in the manifest: a token that the rewrite put
there as its placeholder, and any other text as it is, unless it is a recorded token in its wrapped
form by itself. -/
inductive WrittenAs (declared : Bool) (placeholders : Placeholders) (place : Place) (s : String) :
    Expression → Prop
  /-- The rewrite put a token in its place. -/
  | replaced {token : Token} {placeholder : Placeholder}
      (htoken : tokenAt? declared place s = some token)
      (hrecorded : Entries.find? token placeholders = some placeholder) :
      WrittenAs declared placeholders place s placeholder.toExpression
  /-- It was left, and is taken for a token that stands for something else. -/
  | mistaken {token : Token} {placeholder : Placeholder} (hkept : tokenAt? declared place s = none)
      (htext : s = token.wrapped)
      (hrecorded : Entries.find? token placeholders = some placeholder) :
      WrittenAs declared placeholders place s placeholder.toExpression
  /-- It was left, and is a literal. -/
  | literal (hkept : tokenAt? declared place s = none)
      (hother : ∀ entry ∈ placeholders, s ≠ entry.1.wrapped) :
      WrittenAs declared placeholders place s (.text s)

section WrittenAs

variable {declared : Bool} {placeholders : Placeholders} {place : Place} {s : String}
  {e : Expression}

/-- Where the rewrite put a token, there is its placeholder. -/
theorem WrittenAs.eq_placeholder {token : Token} (h : WrittenAs declared placeholders place s e)
    (htoken : tokenAt? declared place s = some token) :
    ∃ placeholder, Entries.find? token placeholders = some placeholder ∧
      e = placeholder.toExpression := by
  cases h with
  | replaced htoken' hrecorded =>
    obtain rfl := Option.some.inj (htoken.symm.trans htoken')
    exact ⟨_, hrecorded, rfl⟩
  | mistaken hkept => cases hkept.symm.trans htoken
  | literal hkept => cases hkept.symm.trans htoken

/-- A text that was left and does not start like a wrapped token is a literal. -/
theorem WrittenAs.eq_text (h : WrittenAs declared placeholders place s e)
    (hkept : tokenAt? declared place s = none) (hhead : s.toList.head? ≠ some '#') :
    e = .text s := by
  cases h with
  | replaced htoken => cases hkept.symm.trans htoken
  | @mistaken token _ _ htext =>
    rw [htext, Token.toList_wrapped] at hhead
    exact absurd rfl hhead
  | literal => rfl

end WrittenAs

/-- In what a resource is rewritten to, every text gives way to what it is written as. -/
theorem writtenAs_replaceText {r : Resource} {reference : Option Placeholder} (hr : r.Consistent)
    (hkeys : r.tree.DistinctKeys) {place : Place} {s : String}
    (hmem : (place, s) ∈ r.tree.textsAt) :
    WrittenAs reference.isSome (r.renderable reference).placeholders place s
      ((r.renderable reference).placeholders.replaceText
        (rewrittenText reference.isSome place s)) := by
  cases htoken : tokenAt? reference.isSome place s with
  | some token =>
    obtain ⟨placeholder, hrecorded⟩ := recorded_of_tokenAt? hr hkeys hmem htoken
    rw [rewrittenText_of_tokenAt? htoken, renderable_replaceText_wrapped hrecorded]
    exact .replaced htoken hrecorded
  | none =>
    rw [rewrittenText_of_kept htoken]
    by_cases hrecorded : ∃ entry ∈ (r.renderable reference).placeholders, s = entry.1.wrapped
    · obtain ⟨⟨token, _⟩, hentry, rfl⟩ := hrecorded
      obtain ⟨placeholder, hfound⟩ := Option.isSome_iff_exists.mp
        (Entries.find?_isSome_iff.mpr (List.mem_map_of_mem hentry))
      rw [renderable_replaceText_wrapped hfound]
      exact .mistaken htoken rfl hfound
    · have hother : ∀ entry ∈ (r.renderable reference).placeholders, s ≠ entry.1.wrapped :=
        fun entry hentry heq => hrecorded ⟨entry, hentry, heq⟩
      rw [Placeholders.replaceText_of_forall hother]
      exact .literal htoken hother

end Resource

end KubeHcl
