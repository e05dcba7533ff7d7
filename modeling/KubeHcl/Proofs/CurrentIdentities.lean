import KubeHcl.Proofs.Operations
import Mathlib.Data.List.Nodup

/-!
# Current identities

Inserting compares with the identities that resources have now, and a rewrite counts the resources
with the new identity after it has stored it. Together this keeps the identities distinct until a
rewrite reports a conflict, whatever else fails in between.
-/

namespace KubeHcl

namespace Collection

variable {c c' : Collection} {index : Nat} {r : Resource}

/-- The identities that the resources have now, in order. -/
def ids (c : Collection) : List Identity := c.resources.map Resource.id

/-- No two resources have the same identity now. -/
def Distinct (c : Collection) : Prop := c.ids.Nodup

/-- The resource at a position has the identity at that position. -/
theorem getElem?_ids (hget : c.get? index = some r) : c.ids[index]? = some r.id := by
  rw [ids, List.getElem?_map]
  exact congrArg (Option.map Resource.id) hget

/-- The resources with an identity are as many as its occurrences. -/
theorem length_matching (c : Collection) (id : Identity) :
    (c.matching (· = id)).length = c.ids.count id := by
  rw [matching, ids, List.count, List.countP_map, List.countP_eq_length_filter]
  rfl

/-- Replacing a resource replaces its identity. -/
theorem ids_replace_eq_set (c : Collection) (index : Nat) (r : Resource) :
    (c.replace index r).ids = c.ids.set index r.id :=
  List.map_set

/-- A resource that takes the place of `r` shares its identity with itself, and with all that had it
before and are not `r`. -/
theorem sharing_eq (hget : c.get? index = some r) (moved : Resource) :
    c.sharing index moved =
      if r.id = moved.id then c.ids.count moved.id else c.ids.count moved.id + 1 := by
  obtain ⟨hlt, hat⟩ := List.getElem?_eq_some_iff.mp (getElem?_ids hget)
  rw [sharing, length_matching, ids_replace_eq_set, List.count_set hlt, hat]
  by_cases hid : r.id = moved.id
  · have hpos : 0 < c.ids.count moved.id := by
      rw [← hid, ← hat]
      exact List.count_pos_iff.mpr (List.getElem_mem hlt)
    simp only [hid, beq_self_eq_true, if_true]
    omega
  · simp [hid]

/-- Inserting a resource keeps identities distinct. -/
theorem Distinct.insert (hc : c.Distinct) (hinsert : c.insert r = .ok c') : c'.Distinct := by
  obtain ⟨hfree, rfl⟩ := insert_ok hinsert
  have hnew : r.id ∉ c.ids := by
    intro hmem
    obtain ⟨s, hs, hid⟩ := List.mem_map.mp hmem
    have hother := List.find?_eq_none.mp hfree s hs
    simp [hid] at hother
  have hids : Collection.ids ⟨c.resources ++ [r]⟩ = c.ids.concat r.id := by simp [ids]
  rw [Distinct, hids]
  exact List.Nodup.concat hnew hc

/-- Replacing a resource keeps identities distinct when the new one is then found once. -/
theorem Distinct.replace (hc : c.Distinct) (hlt : index < c.size)
    (halone : c.sharing index r = 1) : (c.replace index r).Distinct := by
  have hlt' : index < c.ids.length := by simpa [ids, size] using hlt
  rw [sharing, length_matching] at halone
  rw [Distinct, List.nodup_iff_count_le_one]
  intro id
  by_cases hid : id = r.id
  · exact Nat.le_of_eq (hid ▸ halone)
  · -- Any other identity can only have become rarer.
    have hbefore := List.nodup_iff_count_le_one.mp hc id
    have hne : (r.id == id) = false := by simpa using Ne.symm hid
    simp only [ids_replace_eq_set, List.count_set hlt', hne, Bool.false_eq_true, if_false]
    omega

/-- Replacing a resource by one with the same identity changes no identity. -/
theorem ids_replace {s : Resource} (hget : c.get? index = some r) (hid : s.id = r.id) :
    (c.replace index s).ids = c.ids := by
  obtain ⟨hlt, hat⟩ := List.getElem?_eq_some_iff.mp (getElem?_ids hget)
  rw [ids_replace_eq_set, hid, ← hat, List.set_getElem_self]

/-- Changing a namespace keeps identities distinct unless it reports a conflict. -/
theorem Distinct.namespaceStep {config : Config}
    {result : Except TransformError (Resource × Placeholders)} (hc : c.Distinct)
    (hget : c.get? index = some r)
    (hresult : ∀ id matching, result ≠ .error (.identityConflict id matching))
    (hstep : NamespaceStep config c index r result c') : c'.Distinct := by
  cases hstep with
  | kept => exact hc
  | changed _ _ halone => exact hc.replace (lt_size_of_get? hget) halone
  | conflict => exact absurd rfl (hresult _ _)

/-- A rewrite keeps identities distinct unless it reports a conflict. -/
theorem Distinct.rewriteStep {config : Config} {result : Except TransformError Renderable}
    (hc : c.Distinct) (hresult : ∀ id matching, result ≠ .error (.identityConflict id matching))
    (hstep : RewriteStep config c index result c') : c'.Distinct := by
  cases hstep with
  | outOfRange => exact hc
  | conflict hget hns => exact hc.namespaceStep hget (by simpa using hresult) hns
  | malformed hget hns => exact hc.namespaceStep hget (by simp) hns
  | kept hget hns => exact hc.namespaceStep hget (by simp) hns
  | extracted hget hns htext =>
    -- What the texts are moved out of has its new identity already.
    have hids := ids_replace (hns.moved hget).1 (Resource.extractText_ids htext).2
    rw [Distinct, hids]
    exact hc.namespaceStep hget (by simp) hns

/-- When identities are distinct, resources with the same one are at the same position. -/
theorem Distinct.eq_of_id_eq (hc : c.Distinct) {i j : Nat} {s : Resource}
    (hi : c.get? i = some r) (hj : c.get? j = some s) (hid : r.id = s.id) : i = j := by
  have hri := getElem?_ids hi
  obtain ⟨hlt, -⟩ := List.getElem?_eq_some_iff.mp hri
  refine (List.getElem?_inj hlt hc).mp ?_
  rw [hri, getElem?_ids hj, hid]

/-- When identities are distinct, each is found at its own position and nowhere else. -/
theorem Distinct.find (hc : c.Distinct) (hget : c.get? index = some r) :
    c.find? r.id = some r ∧ c.matching (· = r.id) = [r] := by
  have hmem := List.mem_of_getElem? hget
  have hone : (c.matching (· = r.id)).length = 1 := by
    rw [length_matching]
    exact List.count_eq_one_of_mem hc (List.mem_map_of_mem hmem)
  obtain ⟨s, hs⟩ := List.length_eq_one_iff.mp hone
  have hfound : r ∈ c.matching (· = r.id) := by
    simpa [matching] using hmem
  rw [hs, List.mem_singleton] at hfound
  subst hfound
  exact ⟨find?_of_nodup_map hc hmem, hs⟩

end Collection

namespace Operation

/-- Whether a rewrite failed since it left two resources with one identity. -/
def isConflict : Except OperationError Unit → Bool
  | .error (.transform (.identityConflict _ _)) => true
  | _ => false

/-- In a run from the empty collection in which no operation reported an identity conflict, the
identities stay distinct, whatever else failed: each is found at its own position and nowhere else.
-/
theorem current_identities_distinct {operations : List Operation}
    {results : List (Except OperationError Unit)} {c : Collection}
    (hrun : performAll {} operations = (results, c))
    (hresults : ∀ result ∈ results, isConflict result = false) :
    (c.resources.map Resource.id).Nodup ∧ ∀ index r, c.get? index = some r →
      c.find? r.id = some r ∧ c.matching (· = r.id) = [r] := by
  have hdistinct : (performAll {} operations).2.Distinct := by
    refine performAll_invariant Collection.Distinct (fun result => isConflict result = false) ?_
      (by rwa [hrun]) List.nodup_nil
    intro operation _ c hc hresult
    refine perform_invariant Collection.Distinct
      (fun e => ∀ id matching, e ≠ .identityConflict id matching) operation
      (fun hc _ => hc.insert) ?_ ?_ hc
    · intro config c c' index result hc hharmless hstep
      exact hc.rewriteStep (fun id matching he => hharmless _ he id matching rfl) hstep
    · rintro e he id matching rfl
      rw [he] at hresult
      cases hresult
  rw [hrun] at hdistinct
  exact ⟨hdistinct, fun _ _ => hdistinct.find⟩

/-- A run with duplicates, positions that do not exist, data that is no mapping, and a resource that
is loaded again after it was moved into the namespace that is declared after it. -/
def failingRun : List Operation :=
  let settings :=
    "apiVersion: v1\nkind: ConfigMap\nmetadata:\n  name: settings\n  namespace: acme\n"
  let acme := "apiVersion: v1\nkind: Namespace\nmetadata:\n  name: acme\ndata: 1\n"
  [.load none settings, .insertCopy 0 "test", .insertCopy 0 "acme", .load none acme, .rewrite {} 3,
    .rewrite {} 0, .load none settings, .insertCopy 1 "acme", .insertCopy 9 "acme", .render {} 2,
    .renderAll {}]

/-- Six of its operations fail, none with an identity conflict, and it leaves four resources with
distinct identities. -/
theorem failingRun_identities_distinct :
    (performAll {} failingRun).1.map Except.isOk =
        [true, true, false, true, false, true, true, false, false, false, false] ∧
      (∀ result ∈ (performAll {} failingRun).1, isConflict result = false) ∧
      (performAll {} failingRun).2.size = 4 ∧
      ((performAll {} failingRun).2.resources.map Resource.id).Nodup := by
  have hrun : (performAll {} failingRun).1.map Except.isOk =
        [true, true, false, true, false, true, true, false, false, false, false] ∧
      (∀ result ∈ (performAll {} failingRun).1, isConflict result = false) ∧
      (performAll {} failingRun).2.size = 4 := by
    decide +kernel
  obtain ⟨hfailed, hresults, hsize⟩ := hrun
  exact ⟨hfailed, hresults, hsize, (current_identities_distinct (Prod.eta _).symm hresults).1⟩

end Operation

end KubeHcl
