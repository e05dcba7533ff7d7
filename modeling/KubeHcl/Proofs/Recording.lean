import KubeHcl.Proofs.RewriteEffect

/-!
# What a rewrite records

A rewrite records at most one reference, for the namespace, and one heredoc for each text that it
moves. What it makes of the resource and what it records are stated here together, with both parts
of the rewrite put into one.
-/

namespace KubeHcl

variable {config : Config} {c c' : Collection} {index : Nat}

namespace Resource

/-- A namespace is set in the metadata only. -/
theorem field?_withNamespace {key : String} (hkey : key ≠ "metadata") (r : Resource) (ns : String) :
    (r.withNamespace ns).field? key = r.field? key := by
  simp only [field?, withNamespace, setNamespace]
  split
  · exact Entries.find?_insert_of_ne hkey _ _
  · rfl

/-- The texts that are moved out of the data do not depend on the namespace. -/
theorem payloads_withNamespace (r : Resource) (ns : String) :
    (r.withNamespace ns).payloads = r.payloads := by
  simp only [payloads, field?_withNamespace (by decide : "data" ≠ "metadata")]

end Resource

namespace Placeholders

variable {placeholders : Placeholders} {more : List (Token × Placeholder)} {token : Token}

/-- What is recorded after further recordings was recorded before or is one of them. -/
theorem mem_extend {entry : Token × Placeholder} (hmem : entry ∈ placeholders.extend more) :
    entry ∈ placeholders ∨ entry ∈ more := by
  induction more generalizing placeholders with
  | nil => exact .inl hmem
  | cons first rest ih =>
    rcases @ih (Entries.insert first.1 first.2 placeholders) hmem with hmem | hmem
    · rcases Entries.mem_insert hmem with hold | rfl
      · exact .inl hold
      · exact .inr List.mem_cons_self
    · exact .inr (List.mem_cons_of_mem _ hmem)

/-- Recording other tokens does not change what a token stands for. -/
theorem find?_extend_of_ne (hne : ∀ entry ∈ more, entry.1 ≠ token) :
    Entries.find? token (placeholders.extend more) = Entries.find? token placeholders := by
  induction more generalizing placeholders with
  | nil => rfl
  | cons first rest ih =>
    have hrest := @ih (Entries.insert first.1 first.2 placeholders)
      fun entry hmem => hne entry (List.mem_cons_of_mem _ hmem)
    calc Entries.find? token (placeholders.extend (first :: rest))
        = Entries.find? token (Entries.insert first.1 first.2 placeholders) := hrest
      _ = Entries.find? token placeholders :=
        Entries.find?_insert_of_ne (hne first List.mem_cons_self).symm _ _

/-- A token stands for what is recorded for it, if that is always the same. -/
theorem find?_extend_of_mem {placeholder : Placeholder} (hmem : (token, placeholder) ∈ more)
    (hsame : ∀ entry ∈ more, entry.1 = token → entry.2 = placeholder) :
    Entries.find? token (placeholders.extend more) = some placeholder := by
  induction more generalizing placeholders with
  | nil => cases hmem
  | cons first rest ih =>
    have hsame' : ∀ entry ∈ rest, entry.1 = token → entry.2 = placeholder :=
      fun entry hentry => hsame entry (List.mem_cons_of_mem _ hentry)
    by_cases hlater : (token, placeholder) ∈ rest
    · exact ih hlater hsame'
    · -- Then it is the first recording, and no later one is for the same token.
      obtain rfl : first = (token, placeholder) :=
        ((List.mem_cons.mp hmem).resolve_right hlater).symm
      have hne : ∀ entry ∈ rest, entry.1 ≠ token := by
        intro entry hentry htoken
        exact hlater (hsame' entry hentry htoken ▸ htoken ▸ hentry)
      calc Entries.find? token (placeholders.extend ((token, placeholder) :: rest))
          = Entries.find? token (Entries.insert token placeholder placeholders) :=
            find?_extend_of_ne hne
        _ = some placeholder := Entries.find?_insert_self _ _ _

/-- What is recorded in both of two disjoint maps is what is recorded in the one or in the other. -/
theorem find?_extend_of_disjoint (hnodup : (more.map Prod.fst).Nodup)
    (hdisjoint : ∀ token ∈ placeholders.map Prod.fst, token ∉ more.map Prod.fst) (token : Token) :
    Entries.find? token (placeholders.extend more) =
      (Entries.find? token placeholders).or (Entries.find? token more) := by
  cases hfound : Entries.find? token more with
  | none =>
    rw [Option.or_none]
    refine find?_extend_of_ne fun entry hentry htoken => ?_
    have hsome := Entries.find?_isSome_iff.mpr (List.mem_map.mpr ⟨entry, hentry, htoken⟩)
    rw [hfound] at hsome
    cases hsome
  | some placeholder =>
    have hmem := Entries.mem_of_find? hfound
    have hnone : Entries.find? token placeholders = none := by
      rw [← Option.not_isSome_iff_eq_none, Entries.find?_isSome_iff]
      exact fun hold => hdisjoint token hold (List.mem_map_of_mem hmem)
    rw [hnone, Option.none_or]
    refine find?_extend_of_mem hmem ?_
    rintro ⟨other, placeholder'⟩ hentry rfl
    exact Option.some.inj ((Entries.find?_of_mem hnodup hentry).symm.trans hfound)

/-- The token of a text that is moved stands for its heredoc, unless another one has its digest. -/
theorem find?_extend_recordedPayload {payloads : List String} {payload : String}
    (hpayload : payload ∈ payloads)
    (hdigests : ∀ other ∈ payloads,
      Sha512.hexDigest other = Sha512.hexDigest payload → other = payload) :
    Entries.find? (.ofPayload payload) (placeholders.extend (payloads.map recordedPayload)) =
      some (.block (Hcl.Heredoc.ofText payload)) := by
  refine find?_extend_of_mem (List.mem_map.mpr ⟨payload, hpayload, rfl⟩) ?_
  intro entry hentry htoken
  obtain ⟨other, hother, rfl⟩ := List.mem_map.mp hentry
  rw [hdigests other hother (Token.hexDigest_eq_of_ofPayload_eq htoken)]
  rfl

/-- What was recorded before or is recorded then stands for something. -/
theorem isSome_find?_extend
    (hmem : (Entries.find? token placeholders).isSome = true ∨ token ∈ more.map Prod.fst) :
    (Entries.find? token (placeholders.extend more)).isSome = true := by
  induction more generalizing placeholders with
  | nil => simpa [extend] using hmem
  | cons first rest ih =>
    refine @ih (Entries.insert first.1 first.2 placeholders) ?_
    rw [Entries.find?_isSome_iff, Entries.mem_map_fst_insert]
    rw [Entries.find?_isSome_iff, List.map_cons, List.mem_cons] at hmem
    rcases hmem with hold | hfirst | hrest
    · exact .inl (.inl hold)
    · exact .inl (.inr hfirst)
    · exact .inr hrest

end Placeholders

/-- A change of a namespace leaves the texts that are moved out of the data. -/
theorem NamespaceStep.payloads_eq {r moved : Resource} {recorded : Placeholders}
    (hstep : NamespaceStep config c index r (.ok (moved, recorded)) c') :
    moved.payloads = r.payloads := by
  cases hstep with
  | kept => rfl
  | changed => exact Resource.payloads_withNamespace r _

/-- A rewrite that succeeds has changed the namespace, moved the texts out of the data and recorded
both, in this order. -/
theorem RewriteStep.made {x : Renderable} (hstep : RewriteStep config c index (.ok x) c') :
    ∃ r moved recorded c₁, c.get? index = some r ∧
      NamespaceStep config c index r (.ok (moved, recorded)) c₁ ∧
      x.identifier = Naming.identifier r ∧ x.resource = moved.movedOut ∧
      x.placeholders = recorded.extend (r.payloads.map recordedPayload) := by
  cases hstep with
  | kept hget hns htext =>
    obtain ⟨hresource, hnone⟩ := extractText_none htext
    rw [hns.payloads_eq] at hnone
    exact ⟨_, _, _, _, hget, hns, rfl, hresource.symm, by rw [hnone]; rfl⟩
  | extracted hget hns htext =>
    obtain ⟨hresource, hplaceholders⟩ := extractText_some htext
    rw [hns.payloads_eq] at hplaceholders
    exact ⟨_, _, _, _, hget, hns, rfl, hresource, by rw [hplaceholders]⟩

/-- What a rewrite records is the reference to the declaration of the namespace in the collection
before, or the heredoc of a text that it moves. -/
theorem RewriteStep.mem_placeholders {x : Renderable} {r : Resource} {token : Token}
    {placeholder : Placeholder} (hstep : RewriteStep config c index (.ok x) c')
    (hget : c.get? index = some r) (hmem : (token, placeholder) ∈ x.placeholders) :
    (r.ns ≠ "" ∧ ∃ declaration, c.find? (.namespaceCalled r.ns) = some declaration ∧
      token = .ofNamespace r.ns ∧ placeholder = namespaceReference config declaration) ∨
    ∃ payload ∈ r.payloads, (token, placeholder) = recordedPayload payload := by
  obtain ⟨r', moved, recorded, c₁, hget', hchange, -, -, hplaceholders⟩ := hstep.made
  obtain rfl := Option.some.inj (hget.symm.trans hget')
  rw [hplaceholders] at hmem
  rcases Placeholders.mem_extend hmem with hrecorded | hpayload
  · cases hchange with
    | kept => cases hrecorded
    | changed hns hdeclared =>
      obtain ⟨htoken, hplaceholder⟩ := Prod.mk.inj (List.mem_singleton.mp hrecorded)
      exact .inl ⟨hns, _, hdeclared, htoken, hplaceholder⟩
  · obtain ⟨payload, hpayload, heq⟩ := List.mem_map.mp hpayload
    exact .inr ⟨payload, hpayload, heq.symm⟩

/-- No token that a rewrite records is empty. -/
theorem RewriteStep.token_ne_empty {x : Renderable} {token : Token} {placeholder : Placeholder}
    (hstep : RewriteStep config c index (.ok x) c') (hmem : (token, placeholder) ∈ x.placeholders) :
    token.text ≠ "" := by
  obtain ⟨r, hget, -, -⟩ := hstep.stored
  rcases hstep.mem_placeholders hget hmem with ⟨-, -, -, rfl, -⟩ | ⟨payload, -, heq⟩
  · exact Token.ofNamespace_ne_empty r.ns
  · obtain ⟨rfl, -⟩ := Prod.mk.inj heq
    exact Token.ofPayload_ne_empty payload

/-- A reference that a rewrite records is that to the declaration of the namespace. -/
theorem RewriteStep.reference {x : Renderable} {token : Token} {root : String} {path : List String}
    (hstep : RewriteStep config c index (.ok x) c')
    (hmem : (token, .reference root path) ∈ x.placeholders) :
    ∃ r declaration, c.get? index = some r ∧ r.ns ≠ "" ∧
      c.find? (.namespaceCalled r.ns) = some declaration ∧
      .reference root path = namespaceReference config declaration := by
  obtain ⟨r, hget, -, -⟩ := hstep.stored
  rcases hstep.mem_placeholders hget hmem with
    ⟨hns, declaration, hdeclared, -, hreference⟩ | hpayload
  · exact ⟨r, declaration, hget, hns, hdeclared, hreference⟩
  · obtain ⟨payload, -, hblock⟩ := hpayload
    cases hblock

/-- The reference to a declared namespace is recorded. -/
theorem RewriteStep.find?_reference {x : Renderable} {r declaration : Resource}
    (hstep : RewriteStep config c index (.ok x) c') (hget : c.get? index = some r)
    (hns : r.ns ≠ "") (hdeclared : c.find? (.namespaceCalled r.ns) = some declaration) :
    Entries.find? (.ofNamespace r.ns) x.placeholders =
      some (namespaceReference config declaration) := by
  obtain ⟨r', moved, recorded, c₁, hget', hchange, -, -, hplaceholders⟩ := hstep.made
  obtain rfl := Option.some.inj (hget.symm.trans hget')
  have hother : ∀ entry ∈ r.payloads.map recordedPayload, entry.1 ≠ Token.ofNamespace r.ns := by
    intro entry hentry
    obtain ⟨payload, -, rfl⟩ := List.mem_map.mp hentry
    exact (Token.ofNamespace_ne_ofPayload r.ns payload).symm
  rw [hplaceholders, Placeholders.find?_extend_of_ne hother]
  cases hchange with
  | kept hundeclared => simp [hns, hdeclared] at hundeclared
  | changed _ hdeclared' =>
    obtain rfl := Option.some.inj (hdeclared.symm.trans hdeclared')
    simp [Entries.find?]

/-- The heredoc of a text that was moved is recorded, unless another text with the same digest was
moved as well. -/
theorem RewriteStep.find?_payload {x : Renderable} {r : Resource} {payload : String}
    (hstep : RewriteStep config c index (.ok x) c') (hget : c.get? index = some r)
    (hpayload : payload ∈ r.payloads)
    (hdigests : ∀ other ∈ r.payloads,
      Sha512.hexDigest other = Sha512.hexDigest payload → other = payload) :
    Entries.find? (.ofPayload payload) x.placeholders =
      some (.block (Hcl.Heredoc.ofText payload)) := by
  obtain ⟨r', moved, recorded, c₁, hget', -, -, -, hplaceholders⟩ := hstep.made
  obtain rfl := Option.some.inj (hget.symm.trans hget')
  rw [hplaceholders]
  exact Placeholders.find?_extend_recordedPayload hpayload hdigests

end KubeHcl
