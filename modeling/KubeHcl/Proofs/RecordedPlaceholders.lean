import KubeHcl.Proofs.ExtractedTexts
import KubeHcl.Proofs.Operations
import KubeHcl.Proofs.RewriteResult
import Mathlib.Data.Finset.Card
import Mathlib.Data.Finset.Dedup

/-!
# What is recorded and in which order

The placeholders of a rewritten resource are those of the tokens in it and no others: the reference
first, if the namespace was changed, and then one heredoc for every text that was moved, by the
first key it stood under. A text that stood under several keys has one token, and that is recorded
once.
-/

namespace KubeHcl

variable {config : Config} {c c' : Collection} {index : Nat}

namespace Token

/-- A namespace is not called like its own wrapped token, which is longer. -/
theorem wrapped_ofNamespace_ne (ns : String) : (ofNamespace ns).wrapped ≠ ns := by
  intro heq
  have hlength := congrArg (fun s : String => s.toList.length) heq
  simp only [toList_wrapped, ofNamespace, String.toList_append, List.length_append] at hlength
  have hsentinel : sentinel.length = 3 := rfl
  omega

end Token

namespace Placeholders

variable {placeholders : Placeholders} {payloads : List String}

/-- Recording further tokens repeats none. -/
theorem nodup_extend {more : List (Token × Placeholder)}
    (hnodup : (placeholders.map Prod.fst).Nodup) :
    ((placeholders.extend more).map Prod.fst).Nodup := by
  induction more generalizing placeholders with
  | nil => exact hnodup
  | cons first rest ih => exact ih (Entries.nodup_insert hnodup first.1 first.2)

/-- Heredocs are recorded behind what was recorded before, in the order in which their texts come
first, if no token is recorded already and digests of different texts are different. -/
theorem extend_recordedPayload (hnew : ∀ p ∈ payloads, .ofPayload p ∉ placeholders.map Prod.fst)
    (hdigests : ∀ p ∈ payloads, ∀ q ∈ payloads,
      Sha512.hexDigest p = Sha512.hexDigest q → p = q) :
    placeholders.extend (payloads.map recordedPayload) =
      placeholders ++ payloads.eraseDups.map recordedPayload := by
  -- The last text is recorded last, when it is known whether it was there before.
  induction payloads using List.reverseRecOn with
  | nil => exact (List.append_nil placeholders).symm
  | append_singleton front last ih =>
    have hsame : ∀ p ∈ front, Sha512.hexDigest p = Sha512.hexDigest last → p = last :=
      fun p hp => hdigests p (List.mem_append_left _ hp) last (by simp)
    have hfront : placeholders.extend (front.map recordedPayload) =
        placeholders ++ front.eraseDups.map recordedPayload :=
      ih (fun p hp => hnew p (List.mem_append_left _ hp)) fun p hp q hq =>
        hdigests p (List.mem_append_left _ hp) q (List.mem_append_left _ hq)
    have hlast : placeholders.extend ((front ++ [last]).map recordedPayload) =
        Entries.insert (.ofPayload last) (.block (.ofText last))
          (placeholders.extend (front.map recordedPayload)) := by
      rw [List.map_append, extend, List.foldl_append]
      rfl
    rw [hlast, List.eraseDups_append]
    by_cases hmem : last ∈ front
    · have hnone : [last].removeAll front = [] := by simp [List.removeAll, hmem]
      rw [Entries.insert_of_find? (find?_extend_recordedPayload hmem hsame), hfront, hnone,
        List.eraseDups_nil, List.append_nil]
    · have hsome : [last].removeAll front = [last] := by simp [List.removeAll, hmem]
      have hkey : Token.ofPayload last ∉
          (placeholders.extend (front.map recordedPayload)).map Prod.fst := by
        rw [hfront, List.map_append, List.mem_append, not_or, List.map_map]
        refine ⟨hnew last (by simp), fun hrecorded => ?_⟩
        obtain ⟨p, hp, htoken⟩ := List.mem_map.mp hrecorded
        have hp' := List.mem_eraseDups.mp hp
        exact hmem (hsame p hp' (Token.hexDigest_eq_of_ofPayload_eq htoken) ▸ hp')
      rw [Entries.insert_of_not_mem hkey, hfront, hsome, List.map_append, List.append_assoc]
      rfl

end Placeholders

namespace Resource

variable {r : Resource}

/-- In the data of `r` stands the text `s`, and in the same place in the data of `r'` stands
`value`, which is something else. -/
def Exchanges (r r' : Resource) (s : String) (value : Tree) : Prop :=
  ∃ (data data' : List (String × Tree)) (key : String) (i : Nat),
    r.field? "data" = some (.map data) ∧ r'.field? "data" = some (.map data') ∧
      data[i]? = some (key, .text s) ∧ data'[i]? = some (key, value) ∧ value ≠ .text s

/-- What stands in another place than before, once texts were moved out of the data, is the wrapped
token of a text that was moved. -/
theorem exchanges_movedOut_iff {moved : Resource} {s : String} {value : Tree}
    (hdata : moved.field? "data" = r.field? "data") :
    r.Exchanges moved.movedOut s value ↔
      s ∈ r.payloads ∧ value = .text (Token.ofPayload s).wrapped := by
  constructor
  · rintro ⟨data, data', key, i, hr, hmoved, hbefore, hafter, hother⟩
    rw [field?_movedOut (hdata.trans hr)] at hmoved
    obtain rfl := Tree.map.inj (Option.some.inj hmoved)
    rw [List.getElem?_map, hbefore, Option.map_some, Option.some.injEq, Prod.mk.injEq] at hafter
    obtain ⟨-, rfl⟩ := hafter
    cases hpayload : (Tree.text s).payload? with
    | none => exact absurd (by rw [Tree.movedOut, hpayload]) hother
    | some payload =>
      obtain rfl := Tree.text.inj (Tree.payload?_eq_some hpayload).1
      refine ⟨?_, by rw [Tree.movedOut, hpayload]⟩
      rw [payloads, hr]
      exact List.mem_filterMap.mpr ⟨_, List.mem_of_getElem? hbefore, hpayload⟩
  · rintro ⟨hmem, rfl⟩
    have hfits := fits_of_mem_payloads hmem
    unfold payloads at hmem
    split at hmem
    · next data hr =>
      obtain ⟨⟨key, value⟩, hentry, hpayload⟩ := List.mem_filterMap.mp hmem
      obtain ⟨rfl, -⟩ := Tree.payload?_eq_some hpayload
      obtain ⟨i, hi⟩ := List.getElem?_of_mem hentry
      refine ⟨data, _, key, i, hr, field?_movedOut (hdata.trans hr), hi, ?_, ?_⟩
      · rw [List.getElem?_map, hi, Option.map_some, Tree.movedOut, hpayload]
      · rintro heq
        exact Token.ne_wrapped_of_fits hfits _ (Tree.text.inj heq).symm
    · cases hmem

variable {reference : Option Placeholder}

/-- A rewritten resource is in the namespace called like the wrapped token, if there is a reference
to its namespace. -/
theorem ns_renderable : (r.renderable reference).resource.ns =
    if reference.isSome then (Token.ofNamespace r.ns).wrapped else r.ns := by
  cases reference <;> exact congrArg Identity.ns (movedOut_id _)

/-- Its namespace was changed exactly if there is. -/
theorem ns_renderable_ne_iff :
    (r.renderable reference).resource.ns ≠ r.ns ↔ reference.isSome = true := by
  rw [ns_renderable]
  split
  · next hsome => exact iff_of_true (Token.wrapped_ofNamespace_ne r.ns) hsome
  · next hnone => exact iff_of_false (not_not_intro rfl) hnone

/-- The texts of its data that were moved, and what stands in their places. -/
theorem exchanges_renderable_iff {s : String} {value : Tree} :
    r.Exchanges (r.renderable reference).resource s value ↔
      s ∈ r.payloads ∧ value = .text (Token.ofPayload s).wrapped := by
  cases reference with
  | none => exact exchanges_movedOut_iff rfl
  | some => exact exchanges_movedOut_iff (field?_withNamespace (by decide) r _)

/-- No token is recorded twice for it. -/
theorem nodup_renderable : ((r.renderable reference).placeholders.map Prod.fst).Nodup := by
  cases reference <;> exact Placeholders.nodup_extend (by simp)

section Digests

variable (hdigests : ∀ p ∈ r.payloads, ∀ q ∈ r.payloads,
  Sha512.hexDigest p = Sha512.hexDigest q → p = q)

include hdigests

/-- The reference to its namespace is recorded first, and then each text that was moved, by the
first key it stood under. -/
theorem renderable_placeholders : (r.renderable reference).placeholders =
    (reference.map (Token.ofNamespace r.ns, ·)).toList ++
      r.payloads.eraseDups.map recordedPayload := by
  cases reference with
  | none => exact Placeholders.extend_recordedPayload (by simp) hdigests
  | some placeholder =>
    refine Placeholders.extend_recordedPayload (fun p _ hmem => ?_) hdigests
    exact Token.ofNamespace_ne_ofPayload r.ns p (List.mem_singleton.mp hmem).symm

/-- So these are the tokens, in their order. -/
theorem renderable_tokens : (r.renderable reference).placeholders.map Prod.fst =
    (if (r.renderable reference).resource.ns ≠ r.ns then [Token.ofNamespace r.ns] else []) ++
      r.payloads.eraseDups.map Token.ofPayload := by
  simp only [renderable_placeholders hdigests, List.map_append, List.map_map, ns_renderable_ne_iff]
  cases reference <;> rfl

/-- A token is recorded if it is that of a namespace that was changed or of a text that was moved.
-/
theorem mem_renderable_tokens_iff {token : Token} :
    token ∈ (r.renderable reference).placeholders.map Prod.fst ↔
      (r.renderable reference).resource.ns ≠ r.ns ∧ token = .ofNamespace r.ns ∨
        ∃ s ∈ r.payloads, token = .ofPayload s := by
  rw [renderable_tokens hdigests, List.mem_append]
  refine or_congr ?namespaces ?texts
  case namespaces =>
    split
    · next hne => simp [hne]
    · next hsame => simp [hsame]
  case texts => simp only [List.mem_map, List.mem_eraseDups, eq_comm]

/-- There is one for each text that was moved, and one for a namespace that was changed. -/
theorem length_renderable_placeholders : (r.renderable reference).placeholders.length =
    r.payloads.toFinset.card + if (r.renderable reference).resource.ns ≠ r.ns then 1 else 0 := by
  have hnodup : r.payloads.eraseDups.Nodup := by
    have htokens := @nodup_renderable r reference
    rw [renderable_tokens hdigests] at htokens
    exact htokens.of_append_right.of_map
  have hcard : r.payloads.toFinset.card = r.payloads.eraseDups.length := by
    rw [← List.toFinset_card_of_nodup hnodup]
    exact congrArg Finset.card (List.toFinset.ext fun s => List.mem_eraseDups.symm)
  rw [← List.length_map Prod.fst, renderable_tokens hdigests, List.length_append, List.length_map,
    hcard, Nat.add_comm]
  split <;> rfl

end Digests

end Resource

/-- What was recorded when the resource `r` of the collection `c` was rewritten to `x`. -/
structure Records (config : Config) (c : Collection) (r : Resource) (x : Renderable) : Prop where
  /-- The token of the namespace is recorded exactly if the namespace was changed. -/
  namespace_iff : Token.ofNamespace r.ns ∈ x.placeholders.map Prod.fst ↔ x.resource.ns ≠ r.ns
  /-- Then the wrapped token is in its place, and stands for the reference to its declaration. -/
  reference : x.resource.ns ≠ r.ns → x.resource.ns = (Token.ofNamespace r.ns).wrapped ∧
    ∃ declaration, c.find? (.namespaceCalled r.ns) = some declaration ∧
      Entries.find? (.ofNamespace r.ns) x.placeholders = some (.reference config.resourceType
        [Naming.identifier declaration, config.manifestAttribute, "metadata", "name"])
  /-- In place of a text that was moved is its wrapped token, and stands for its heredoc. -/
  payload : ∀ s value, r.Exchanges x.resource s value →
    value = .text (Token.ofPayload s).wrapped ∧
      Entries.find? (.ofPayload s) x.placeholders = some (.block (.ofText s))
  /-- Nothing else is recorded. -/
  only : ∀ entry ∈ x.placeholders, x.resource.ns ≠ r.ns ∧ entry.1 = .ofNamespace r.ns ∨
    ∃ s value, r.Exchanges x.resource s value ∧ entry.1 = .ofPayload s
  /-- No token is recorded twice, so equal texts share one. -/
  nodup : (x.placeholders.map Prod.fst).Nodup
  /-- The texts that were moved are these, in the order of their keys. -/
  mem_payloads : ∀ s, s ∈ r.payloads ↔ ∃ value, r.Exchanges x.resource s value
  /-- There are as many placeholders as different texts that were moved, and one more for the
  namespace. -/
  length_eq : x.placeholders.length =
    r.payloads.toFinset.card + if x.resource.ns ≠ r.ns then 1 else 0
  /-- The token of the namespace comes first, and those of texts by the first key of the text. -/
  tokens_eq : x.placeholders.map Prod.fst =
    (if x.resource.ns ≠ r.ns then [Token.ofNamespace r.ns] else []) ++
      r.payloads.eraseDups.map Token.ofPayload

/-- A rewrite that succeeds records the tokens that it puts into the resource and no others, unless
digests of the texts that it moves collide: that of the namespace, which is never that of a text,
and behind it one for each text. -/
theorem recorded_exactly {r : Resource} {x : Renderable} (hget : c.get? index = some r)
    (hrewrite : (rewrite config index).outcome c = (.ok x, c'))
    (hdigests : ∀ p ∈ r.payloads, ∀ q ∈ r.payloads,
      Sha512.hexDigest p = Sha512.hexDigest q → p = q) :
    Records config c r x ∧ ∀ ns s, Token.ofNamespace ns ≠ Token.ofPayload s := by
  refine ⟨?_, Token.ofNamespace_ne_ofPayload⟩
  obtain ⟨rfl, -⟩ := (rewrite_outcome_iff.mp hrewrite).eq_renderable hget
  rw [Collection.renderable]
  have hdeclared := fun placeholder => @Collection.find?_of_referenceTo config c r.ns placeholder
  generalize c.referenceTo config r.ns = reference at hdeclared
  refine ⟨?namespace_iff, ?reference, ?payload, ?only, Resource.nodup_renderable, ?mem_payloads,
    Resource.length_renderable_placeholders hdigests, Resource.renderable_tokens hdigests⟩
  case namespace_iff =>
    rw [Resource.mem_renderable_tokens_iff hdigests]
    constructor
    · rintro (⟨hne, -⟩ | ⟨s, -, heq⟩)
      · exact hne
      · exact absurd heq (Token.ofNamespace_ne_ofPayload r.ns s)
    · intro hne
      exact .inl ⟨hne, rfl⟩
  case reference =>
    intro hne
    have hsome := Resource.ns_renderable_ne_iff.mp hne
    obtain ⟨placeholder, rfl⟩ := Option.isSome_iff_exists.mp hsome
    obtain ⟨declaration, hfound, rfl⟩ := hdeclared placeholder rfl
    refine ⟨by rw [Resource.ns_renderable, if_pos hsome], declaration, hfound, ?_⟩
    rw [Resource.renderable_placeholders hdigests]
    exact if_pos rfl
  case payload =>
    intro s value hmoved
    obtain ⟨hmem, hvalue⟩ := Resource.exchanges_renderable_iff.mp hmoved
    have hsame := fun other hother => hdigests other hother s hmem
    refine ⟨hvalue, ?_⟩
    cases reference <;> exact Placeholders.find?_extend_recordedPayload hmem hsame
  case only =>
    intro entry hentry
    have htoken := List.mem_map_of_mem (f := Prod.fst) hentry
    refine (Resource.mem_renderable_tokens_iff hdigests).mp htoken |>.imp_right ?_
    rintro ⟨s, hs, heq⟩
    exact ⟨s, _, Resource.exchanges_renderable_iff.mpr ⟨hs, rfl⟩, heq⟩
  case mem_payloads =>
    intro s
    simp only [Resource.exchanges_renderable_iff, exists_and_left, exists_eq, and_true]

/-- A resource in the namespace `acme` with three texts in its data that fit a heredoc, two of them
the same. -/
def Resource.notices : Resource where
  origin := ⟨"", "v1", "ConfigMap", "acme", "notices"⟩
  id := ⟨"", "v1", "ConfigMap", "acme", "notices"⟩
  fields :=
    [("apiVersion", .text "v1"), ("kind", .text "ConfigMap"),
      ("metadata", .map [("name", .text "notices"), ("namespace", .text "acme")]),
      ("data", .map [("en", .text "Hello\n"), ("flag", .text "on"), ("fr", .text "Salut\n"),
        ("us", .text "Hello\n")])]

/-- Three placeholders are recorded for it: the reference and, in this order, two heredocs. -/
theorem notices_recorded : ∃ x c', (rewrite {} 0).outcome ⟨[.notices, .acme]⟩ = (.ok x, c') ∧
    x.resource.ns = "###NamespaceRef_acme###" ∧ x.placeholders.length = 3 ∧
    x.placeholders.map Prod.fst =
      [.ofNamespace "acme", .ofPayload "Hello\n", .ofPayload "Salut\n"] ∧
    Entries.find? (.ofPayload "Hello\n") x.placeholders =
      some (.block (.ofText "Hello\n")) := by
  obtain ⟨x, c', hrewrite⟩ :
      ∃ x c', (rewrite {} 0).outcome ⟨[.notices, .acme]⟩ = (.ok x, c') :=
    Task.exists_of_isOk (by decide +kernel)
  have hns : x.resource.ns = "###NamespaceRef_acme###" := by
    have hresult : ((rewrite {} 0).outcome ⟨[.notices, .acme]⟩).1.toOption.map (·.resource.ns) =
        some "###NamespaceRef_acme###" := by decide +kernel
    rw [hrewrite] at hresult
    exact Option.some.inj hresult
  have hchanged : x.resource.ns ≠ Resource.notices.ns := by
    rw [hns]
    decide
  have hpayloads : Resource.notices.payloads = ["Hello\n", "Salut\n", "Hello\n"] := by decide
  have hdigests : ∀ p ∈ Resource.notices.payloads, ∀ q ∈ Resource.notices.payloads,
      Sha512.hexDigest p = Sha512.hexDigest q → p = q := by
    have hne : Sha512.hexDigest "Hello\n" ≠ Sha512.hexDigest "Salut\n" := by decide +kernel
    simp [hpayloads, hne, hne.symm]
  obtain ⟨hrecords, -⟩ := recorded_exactly rfl hrewrite hdigests
  have hlength := hrecords.length_eq
  have htokens := hrecords.tokens_eq
  rw [if_pos hchanged, hpayloads] at hlength htokens
  obtain ⟨value, hmoved⟩ := (hrecords.mem_payloads "Hello\n").mp (by simp [hpayloads])
  exact ⟨x, c', hrewrite, hns, hlength, htokens, (hrecords.payload _ _ hmoved).2⟩

end KubeHcl
