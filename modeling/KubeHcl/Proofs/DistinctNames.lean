import KubeHcl.Proofs.CurrentIdentities
import KubeHcl.Proofs.FileDependence
import KubeHcl.Proofs.RenderedFiles
import Mathlib.Data.List.Basic

/-!
# Distinct names

A name is a readable part and a fingerprint of the text of the identity. So two resources have the
same name when the readable parts are made valid alike and the texts are the same, and only then
unless fingerprints of different texts collide. The text is that of one identity alone as long as no
field holds what separates the fields or is what stands in for an empty one.
-/

namespace KubeHcl

namespace Identity

/-- The fields in the text of an identity, and what separates them. -/
theorem toList_text (id : Identity) : id.text.toList =
    (orStandIn id.group "~G").toList ++ '_' :: ((orStandIn id.version "~V").toList ++
      '_' :: ((orStandIn id.kind "~K").toList ++ '|' :: ((orStandIn id.ns "~X").toList ++
        '|' :: (orStandIn id.name "~N").toList))) := by
  simp [text]

/-- What stands for a field holds a separator only if the field does. -/
theorem notMem_orStandIn {field standIn : String} {separator : Char}
    (hfield : separator ∉ field.toList) (hstandIn : separator ∉ standIn.toList) :
    separator ∉ (orStandIn field standIn).toList := by
  unfold orStandIn
  split
  · exact hstandIn
  · exact hfield

/-- What stands for a field settles it, unless the field is the stand-in itself. -/
theorem orStandIn_inj {field field' standIn : String} (hne : field ≠ standIn)
    (hne' : field' ≠ standIn) (heq : orStandIn field standIn = orStandIn field' standIn) :
    field = field' := by
  unfold orStandIn at heq
  split at heq <;> split at heq
  · next hempty hempty' => rw [String.isEmpty_iff.mp hempty, String.isEmpty_iff.mp hempty']
  · exact absurd heq.symm hne'
  · exact absurd heq hne
  · exact heq

/-- A field that holds no separator and is not its stand-in is read off a text that starts with it.
-/
theorem orStandIn_append_inj {field field' standIn : String} {separator : Char}
    {rest rest' : List Char} (h : separator ∉ field.toList ∧ field ≠ standIn)
    (h' : separator ∉ field'.toList ∧ field' ≠ standIn) (hstandIn : separator ∉ standIn.toList)
    (heq : (orStandIn field standIn).toList ++ separator :: rest =
      (orStandIn field' standIn).toList ++ separator :: rest') :
    field = field' ∧ rest = rest' := by
  have hsplit := congrArg (List.splitOn separator) heq
  rw [List.splitOn_append_cons_self_of_not_mem (notMem_orStandIn h.1 hstandIn),
    List.splitOn_append_cons_self_of_not_mem (notMem_orStandIn h'.1 hstandIn)] at hsplit
  obtain ⟨hfield, -⟩ := List.cons.inj hsplit
  rw [hfield] at heq
  obtain ⟨-, hrest⟩ := List.cons.inj (List.append_cancel_left heq)
  exact ⟨orStandIn_inj h.2 h'.2 (String.toList_inj.mp hfield), hrest⟩

/-- No field holds what separates it from the next one, and none is the stand-in for its absence. -/
structure Plain (id : Identity) : Prop where
  group : '_' ∉ id.group.toList ∧ id.group ≠ "~G"
  version : '_' ∉ id.version.toList ∧ id.version ≠ "~V"
  kind : '|' ∉ id.kind.toList ∧ id.kind ≠ "~K"
  ns : '|' ∉ id.ns.toList ∧ id.ns ≠ "~X"
  name : id.name ≠ "~N"

/-- Such identities have the same text only if they are the same. -/
theorem Plain.eq_of_text_eq {id id' : Identity} (h : id.Plain) (h' : id'.Plain)
    (htext : id.text = id'.text) : id = id' := by
  have hfields := congrArg String.toList htext
  rw [toList_text, toList_text] at hfields
  -- The fields are split off one after the other, each at the first separator behind it.
  obtain ⟨hgroup, hfields⟩ := orStandIn_append_inj h.group h'.group (by decide) hfields
  obtain ⟨hversion, hfields⟩ := orStandIn_append_inj h.version h'.version (by decide) hfields
  obtain ⟨hkind, hfields⟩ := orStandIn_append_inj h.kind h'.kind (by decide) hfields
  obtain ⟨hns, hlast⟩ := orStandIn_append_inj h.ns h'.ns (by decide) hfields
  have hname := orStandIn_inj h.name h'.name (String.toList_inj.mp hlast)
  cases id
  cases id'
  simp_all

end Identity

namespace Naming

/-- The part of a name that is not the fingerprint, before it is made valid. -/
def readable (r : Resource) : List Char := r.kind.toList ++ '_' :: r.originalName.toList ++ ['_']

/-- A name is its readable part, made valid, and the fingerprint as it is. -/
theorem toList_identifier (r : Resource) :
    (identifier r).toList = sanitize (readable r) ++ fingerprint r.origin := by
  have hraw : rawName r = readable r ++ fingerprint r.origin := by simp [rawName, readable]
  have hne : readable r ≠ [] := by simp [readable]
  rw [identifier, String.toList_ofList, hraw, sanitize_append hne, map_sanitizeChar_fingerprint]

/-- Names are the same when both of their parts are. -/
theorem identifier_eq_iff (r s : Resource) : identifier r = identifier s ↔
    sanitize (readable r) = sanitize (readable s) ∧
      fingerprint r.origin = fingerprint s.origin := by
  rw [← String.toList_inj, toList_identifier, toList_identifier]
  constructor
  · intro heq
    exact List.append_inj' heq (by rw [length_fingerprint, length_fingerprint])
  · rintro ⟨hreadable, hfingerprint⟩
    rw [hreadable, hfingerprint]

/-- The fingerprint tells the texts of the two identities apart. -/
def TellsApart (id id' : Identity) : Prop := fingerprint id = fingerprint id' → id.text = id'.text

/-- Where it does, names are the same when the texts are and the readable parts are made alike. -/
theorem identifier_eq_iff_of_tellsApart {r s : Resource} (happart : TellsApart r.origin s.origin) :
    identifier r = identifier s ↔
      r.origin.text = s.origin.text ∧ sanitize (readable r) = sanitize (readable s) := by
  rw [identifier_eq_iff]
  constructor
  · rintro ⟨hreadable, hfingerprint⟩
    exact ⟨happart hfingerprint, hreadable⟩
  · rintro ⟨htext, hreadable⟩
    exact ⟨hreadable, by rw [fingerprint, fingerprint, htext]⟩

end Naming

namespace Collection

variable {c : Collection}

/-- Resources that were only loaded have distinct identities. -/
theorem Loaded.distinct (hc : c.Loaded) : c.Distinct := by
  obtain ⟨operations, hloads, rfl⟩ := hc
  refine Operation.performAll_invariant Collection.Distinct (fun _ => True) ?_
    (fun _ _ => trivial) List.nodup_nil
  intro operation hmem c hc _
  exact (hloads operation hmem).invariant (fun hc _ => hc.insert) hc

/-- A resource that was only loaded has the identity that it was loaded with. -/
theorem Loaded.origin_eq (hc : c.Loaded) {r : Resource} (hr : r ∈ c.resources) :
    r.origin = r.id := by
  obtain ⟨-, horigin, -⟩ := Resource.ofTree_ok (hc.ofTree_tree r hr)
  exact horigin

/-- A collision of names is one of two resources of the collection, at different positions. -/
theorem exists_of_collision {config : Config} {name : String}
    (hcollision : ((renderAll config).outcome c).1 = .error (.identifierCollision name)) :
    ∃ i j r s, i < j ∧ c.get? i = some r ∧ c.get? j = some s ∧ Naming.identifier r = name ∧
      Naming.identifier s = name := by
  rcases hout : (renderAll config).outcome c with ⟨result, c'⟩
  rw [hout] at hcollision
  dsimp only at hcollision
  subst hcollision
  rcases renderAll_error hout with ⟨-, he, -⟩ | ⟨-, k, files, -, hfiles, hstep⟩
  · cases he
  · obtain ⟨-, hrepeat⟩ := hfiles.firstRepeat hstep
    obtain ⟨j, hj, hearlier⟩ := hrepeat.repeated
    have hresource : ∀ {i : Nat}, c.names[i]? = some name →
        ∃ r, c.get? i = some r ∧ Naming.identifier r = name := by
      intro i hname
      rw [names, List.getElem?_map] at hname
      exact Option.map_eq_some_iff.mp hname
    obtain ⟨r, hr, hrname⟩ := hresource hearlier
    obtain ⟨s, hs, hsname⟩ := hresource hrepeat.named
    exact ⟨j, k, r, s, hj, hr, hs, hrname, hsname⟩

/-- In a collection that was only loaded they have different identities with the same text. -/
theorem Loaded.exists_of_collision {config : Config} {name : String} (hc : c.Loaded)
    (happart : ∀ r ∈ c.resources, ∀ s ∈ c.resources, Naming.TellsApart r.id s.id)
    (hcollision : ((renderAll config).outcome c).1 = .error (.identifierCollision name)) :
    ∃ i j r s, i < j ∧ c.get? i = some r ∧ c.get? j = some s ∧ r.id ≠ s.id ∧
      r.id.text = s.id.text ∧ Naming.identifier r = name ∧ Naming.identifier s = name := by
  obtain ⟨i, j, r, s, hij, hr, hs, hrname, hsname⟩ := Collection.exists_of_collision hcollision
  have hrmem : r ∈ c.resources := List.mem_of_getElem? hr
  have hsmem : s ∈ c.resources := List.mem_of_getElem? hs
  have hne : r.id ≠ s.id := by
    intro heq
    have hsame := hc.distinct.eq_of_id_eq hr hs heq
    omega
  obtain ⟨-, hfingerprint⟩ := (Naming.identifier_eq_iff r s).mp (hrname.trans hsname.symm)
  rw [hc.origin_eq hrmem, hc.origin_eq hsmem] at hfingerprint
  exact ⟨i, j, r, s, hij, hr, hs, hne, happart r hrmem s hsmem hfingerprint, hrname, hsname⟩

end Collection

/-- Two resources of documents whose identities have texts that their fingerprints tell apart are
named alike exactly when these texts are the same and the readable parts are made alike. So plain
identities that differ give names that differ. A collection that was only loaded has a collision of
names only where two different identities have the same text, and none if its identities are plain.
-/
theorem names_distinct (config : Config) :
    (∀ {t u : Tree} {r s : Resource}, Resource.ofTree t = .ok r → Resource.ofTree u = .ok s →
      Naming.TellsApart r.id s.id →
      (Naming.identifier r = Naming.identifier s ↔ r.id.text = s.id.text ∧
        Naming.sanitize (Naming.readable r) = Naming.sanitize (Naming.readable s)) ∧
      (r.id ≠ s.id → r.id.Plain → s.id.Plain → Naming.identifier r ≠ Naming.identifier s)) ∧
    ∀ {c : Collection}, c.Loaded →
      (∀ r ∈ c.resources, ∀ s ∈ c.resources, Naming.TellsApart r.id s.id) →
      (∀ name, ((renderAll config).outcome c).1 = .error (.identifierCollision name) →
        ∃ i j r s, i < j ∧ c.get? i = some r ∧ c.get? j = some s ∧ r.id ≠ s.id ∧
          r.id.text = s.id.text ∧ Naming.identifier r = name ∧ Naming.identifier s = name) ∧
      ((∀ r ∈ c.resources, r.id.Plain) →
        ∀ name, ((renderAll config).outcome c).1 ≠ .error (.identifierCollision name)) := by
  constructor
  · intro t u r s hr hs happart
    obtain ⟨-, hrid, -⟩ := Resource.ofTree_ok hr
    obtain ⟨-, hsid, -⟩ := Resource.ofTree_ok hs
    have hiff := Naming.identifier_eq_iff_of_tellsApart (hrid.symm ▸ hsid.symm ▸ happart)
    rw [hrid, hsid] at hiff
    refine ⟨hiff, fun hne hrplain hsplain heq => ?_⟩
    exact hne (hrplain.eq_of_text_eq hsplain (hiff.mp heq).1)
  · intro c hc happart
    refine ⟨fun name => hc.exists_of_collision happart, fun hplain name hcollision => ?_⟩
    obtain ⟨i, j, r, s, -, hr, hs, hne, htext, -⟩ := hc.exists_of_collision happart hcollision
    have hrplain := hplain r (List.mem_of_getElem? hr)
    have hsplain := hplain s (List.mem_of_getElem? hs)
    exact hne (hrplain.eq_of_text_eq hsplain htext)

/-- The two resources of the small collection have different names, so rendering them finds no
collision. -/
theorem memberFirst_names_distinct : Naming.identifier .settings ≠ Naming.identifier .acme ∧
    ∀ name, ((renderAll {}).outcome .memberFirst).1 ≠ .error (.identifierCollision name) := by
  obtain ⟨hnames, hcollisions⟩ := names_distinct {}
  have hloaded : Collection.memberFirst.Loaded := by
    refine ⟨[.insert .settings, .insert .acme], ?_, rfl⟩
    simp only [List.mem_cons, List.not_mem_nil, or_false, forall_eq_or_imp, forall_eq]
    exact ⟨⟨Resource.settings.tree, rfl⟩, ⟨Resource.acme.tree, rfl⟩⟩
  have hsettings : Resource.settings.id.Plain := by constructor <;> decide
  have hacme : Resource.acme.id.Plain := by constructor <;> decide
  have hfingerprints :
      Naming.fingerprint Resource.settings.id ≠ Naming.fingerprint Resource.acme.id := by
    decide +kernel
  have happart : ∀ r ∈ Collection.memberFirst.resources,
      ∀ s ∈ Collection.memberFirst.resources, Naming.TellsApart r.id s.id := by
    simp only [Collection.memberFirst, List.mem_cons, List.not_mem_nil, or_false,
      forall_eq_or_imp, forall_eq]
    refine ⟨⟨fun _ => rfl, fun heq => ?_⟩, fun heq => ?_, fun _ => rfl⟩
    · exact absurd heq hfingerprints
    · exact absurd heq.symm hfingerprints
  have hplain : ∀ r ∈ Collection.memberFirst.resources, r.id.Plain := by
    simp only [Collection.memberFirst, List.mem_cons, List.not_mem_nil, or_false,
      forall_eq_or_imp, forall_eq]
    exact ⟨hsettings, hacme⟩
  have hnamed := hnames (t := Resource.settings.tree) (u := Resource.acme.tree) rfl rfl
    (fun heq => absurd heq hfingerprints)
  exact ⟨hnamed.2 (by decide) hsettings hacme, (hcollisions hloaded happart).2 hplain⟩

/-- They are loaded from documents and have different identities with the same text. So no two
fingerprints of different texts collide, but both have the same name, and rendering them reports it.
-/
theorem serviceAccounts_named_alike :
    Collection.serviceAccounts.Loaded ∧
      (∀ r ∈ Collection.serviceAccounts.resources, ∀ s ∈ Collection.serviceAccounts.resources,
        Naming.TellsApart r.id s.id) ∧
      (∃ r s, Collection.serviceAccounts.resources = [r, s] ∧ Resource.ofTree r.tree = .ok r ∧
        Resource.ofTree s.tree = .ok s ∧ r.id ≠ s.id ∧
        Naming.identifier r = Naming.identifier s) ∧
      ((renderAll {}).outcome .serviceAccounts).1 =
        .error (.identifierCollision "ServiceAccount_svc_e4c2cd0") := by
  have hloaded : Collection.serviceAccounts.Loaded := by
    refine ⟨[.insert (.serviceAccount "" []),
      .insert (.serviceAccount "~X" [("namespace", .text "~X")])], ?_, rfl⟩
    simp only [List.mem_cons, List.not_mem_nil, or_false, forall_eq_or_imp, forall_eq]
    exact ⟨⟨Resource.tree (.serviceAccount "" []), rfl⟩,
      ⟨Resource.tree (.serviceAccount "~X" [("namespace", .text "~X")]), rfl⟩⟩
  have htexts : ∀ r ∈ Collection.serviceAccounts.resources,
      r.id.text = "~G_v1_ServiceAccount|~X|svc" := by
    simp only [Collection.serviceAccounts, List.mem_cons, List.not_mem_nil, or_false,
      forall_eq_or_imp, forall_eq]
    decide
  have hnames : Naming.identifier (.serviceAccount "" []) =
      Naming.identifier (.serviceAccount "~X" [("namespace", .text "~X")]) := by
    decide +kernel
  refine ⟨hloaded, fun r hr s hs _ => (htexts r hr).trans (htexts s hs).symm, ?_, ?_⟩
  · exact ⟨_, _, rfl, rfl, rfl, by decide, hnames⟩
  · decide +kernel

end KubeHcl
