import KubeHcl.Proofs.Additions
import KubeHcl.Proofs.ExtractedTexts
import KubeHcl.Proofs.FileDependence
import KubeHcl.Proofs.TokenPlaces

/-!
# Tokens that earlier rewrites left

The placeholders of a rewrite are gone once it was rendered, but its tokens stay in the collection.
So when a resource is rewritten again, what was replaced before has no placeholder any more, and the
manifest has the wrapped tokens as literals. If no document that is added has texts that look like
wrapped tokens, then those of a manifest are exactly the tokens that earlier rewrites left in the
resource, and there are none exactly when the resource is still as it was added.
-/

namespace KubeHcl

open Hcl (Expression)
open KubeHcl.Tree (Place)

variable {config : Config} {c c' : Collection} {index : Nat}

namespace Tree

/-- The texts of a tree that start and end with the sentinel. -/
def marks (t : Tree) : List String := t.texts.filter Token.marked

end Tree

namespace Hcl.Expression

mutual

/-- The literals of an expression that are texts, in order. Keys are none. -/
def texts : Expression → List String
  | .text s => [s]
  | .array items => textsItems items
  | .object entries => textsEntries entries
  | .index collection position => texts collection ++ texts position
  | .select value _ => texts value
  | .call _ arguments | .expandingCall _ arguments => textsItems arguments
  | .comprehension _ _ collection key value _ condition =>
    texts collection ++ textsOption key ++ texts value ++ textsOption condition
  | .paren inner => texts inner
  | .conditional condition whenTrue whenFalse =>
    texts condition ++ texts whenTrue ++ texts whenFalse
  | .unary _ operand => texts operand
  | .binary left _ right => texts left ++ texts right
  | _ => []

/-- The literals in the items of an array. -/
def textsItems : List Expression → List String
  | [] => []
  | item :: rest => texts item ++ textsItems rest

/-- The literals in the values of an object. -/
def textsEntries : List (Expression × Expression) → List String
  | [] => []
  | (_, value) :: rest => texts value ++ textsEntries rest

/-- The literals in what a comprehension may have or not. -/
def textsOption : Option Expression → List String
  | none => []
  | some e => texts e

end

/-- The literals of an expression that start and end with the sentinel. -/
def marks (e : Expression) : List String := e.texts.filter Token.marked

mutual

/-- The literals of the expression of a tree are those of what its texts are written as. -/
theorem texts_ofTreeAt (f : Place → String → Expression) (t : Tree) :
    (ofTreeAt f t).texts = t.textsAt.flatMap fun e => (f e.1 e.2).texts := by
  cases t with
  | text s => simp [ofTreeAt, Tree.textsAt]
  | seq items =>
    rw [ofTreeAt, texts, textsItems_ofItemsAt _ items, Tree.textsAt, List.flatMap_map]
    rfl
  | map entries => rw [ofTreeAt, texts, textsEntries_ofEntriesAt f entries, Tree.textsAt]
  | _ => rfl

theorem textsItems_ofItemsAt (f : Place → String → Expression) (items : List Tree) :
    textsItems (ofItemsAt f items) =
      (Tree.textsAtItems items).flatMap fun e => (f e.1 e.2).texts := by
  cases items with
  | nil => rfl
  | cons item rest =>
    rw [ofItemsAt, textsItems, texts_ofTreeAt f item, textsItems_ofItemsAt f rest,
      Tree.textsAtItems, List.flatMap_append]

theorem textsEntries_ofEntriesAt (f : Place → String → Expression)
    (entries : List (String × Tree)) :
    textsEntries (ofEntriesAt f entries) =
      (Tree.textsAtEntries entries).flatMap fun e => (f e.1 e.2).texts := by
  cases entries with
  | nil => rfl
  | cons entry rest =>
    obtain ⟨key, value⟩ := entry
    rw [ofEntriesAt, textsEntries, texts_ofTreeAt _ value, textsEntries_ofEntriesAt f rest,
      Tree.textsAtEntries, List.flatMap_append, List.flatMap_map]
    rfl

end

/-- When every text of a tree is written with the marks that it has, the expression has the marks of
the tree. -/
theorem marks_ofTreeAt {f : Place → String → Expression} {t : Tree}
    (hsame : ∀ e ∈ t.textsAt, (f e.1 e.2).marks = [e.2].filter Token.marked) :
    (ofTreeAt f t).marks = t.marks := by
  calc (ofTreeAt f t).marks
      = t.textsAt.flatMap fun e => (f e.1 e.2).marks := by
        rw [marks, texts_ofTreeAt, List.filter_flatMap]
        rfl
    _ = t.textsAt.flatMap fun e => [e.2].filter Token.marked := List.flatMap_congr hsame
    _ = (t.textsAt.map Prod.snd).filter Token.marked := by
        rw [List.map_eq_flatMap, List.filter_flatMap]
    _ = t.marks := by rw [Tree.map_snd_textsAt, Tree.marks]

/-- A placeholder has no literals. -/
theorem marks_toExpression (placeholder : Placeholder) : placeholder.toExpression.marks = [] := by
  cases placeholder <;> rfl

end Hcl.Expression

namespace Tree

variable {t : Tree}

/-- A marked text of a tree stands somewhere. -/
theorem mem_marks_iff {s : String} :
    s ∈ t.marks ↔ (∃ place, (place, s) ∈ t.textsAt) ∧ Token.marked s = true := by
  rw [marks, List.mem_filter, ← map_snd_textsAt]
  simp

/-- A tree has marked texts if a wrapped token stands somewhere. -/
theorem marks_ne_nil_of_wrapped {place : Place} {token : Token}
    (hmem : (place, token.wrapped) ∈ t.textsAt) : t.marks ≠ [] :=
  List.ne_nil_of_mem (mem_marks_iff.mpr ⟨⟨place, hmem⟩, token.marked_wrapped⟩)

end Tree

namespace Resource

variable {r₀ r r' : Resource}

/-- What becomes of a resource `r₀` without marked texts when it is rewritten any number of times.
The only marked texts in it are tokens that rewrites put there, and there are some as soon as
anything was changed. -/
structure LeftWithTokens (r₀ r : Resource) : Prop where
  wellFormed : r.WellFormed
  /-- The name is not marked. -/
  name : Token.marked r.id.name = false
  /-- A marked text is the token of a namespace in the place of the namespace, or the token of a
  text of the data, of which none is left to move then. -/
  tokens : ∀ place s, (place, s) ∈ r.tree.textsAt → Token.marked s = true →
    (place.isNamespace = true ∧ ∃ ns, s = (Token.ofNamespace ns).wrapped) ∨
      r.payloads = [] ∧ ∃ payload, s = (Token.ofPayload payload).wrapped
  /-- Where there is no marked text, nothing was changed. -/
  changed : r = r₀ ∨ r.tree.marks ≠ []

namespace LeftWithTokens

/-- A resource without marked texts was not rewritten yet. -/
theorem start (hr : r.WellFormed) (hunmarked : ∀ s ∈ r.tree.texts, Token.marked s = false) :
    LeftWithTokens r r := by
  have hplaces : ∀ place s, (place, s) ∈ r.tree.textsAt → Token.marked s = false := by
    intro place s hmem
    refine hunmarked s ?_
    rw [← Tree.map_snd_textsAt]
    exact List.mem_map_of_mem hmem
  refine ⟨hr, hplaces _ _ (hr.obtainable.consistent.mem_textsAt_name hr.distinctKeys), ?_, .inl rfl⟩
  intro place s hmem hmarked
  exact absurd (hplaces place s hmem) (by simp [hmarked])

/-- The change of a namespace leaves the token of the namespace. -/
theorem referring (h : LeftWithTokens r₀ r) (hne : r.ns ≠ "") : LeftWithTokens r₀ r.referring := by
  have hr := h.wellFormed.obtainable.consistent
  have hkeys := h.wellFormed.distinctKeys
  have htree := referring_tree hr hne hkeys
  refine ⟨h.wellFormed.rewritten (.referring hne), h.name, ?tokens, .inr ?changed⟩
  case tokens =>
    intro place _ hmem hmarked
    rw [htree] at hmem
    obtain ⟨s, hbefore, rfl⟩ := Tree.mem_textsAt_mapTextsAt.mp hmem
    by_cases hplace : place.isNamespace = true
    · exact .inl ⟨hplace, s, by simp [referringText, hplace]⟩
    · have hkept : referringText place s = s := by simp [referringText, hplace]
      rw [hkept] at hmarked ⊢
      rcases h.tokens place s hbefore hmarked with ⟨hns, -⟩ | ⟨hnone, hpayload⟩
      · exact absurd hns hplace
      · exact .inr ⟨(payloads_withNamespace r _).trans hnone, hpayload⟩
  case changed =>
    have hmem : ([.key "metadata", .key "namespace"], (Token.ofNamespace r.ns).wrapped) ∈
        r.referring.tree.textsAt := by
      rw [htree]
      exact Tree.mem_textsAt_mapTextsAt.mpr ⟨r.ns, hr.mem_textsAt_ns hkeys hne, rfl⟩
    exact Tree.marks_ne_nil_of_wrapped hmem

/-- Moving texts out of the data leaves their tokens. -/
theorem extracted {change : TextChange} (h : LeftWithTokens r₀ r)
    (htext : extractText r = .ok (some change)) : LeftWithTokens r₀ change.resource := by
  have hkeys := h.wellFormed.distinctKeys
  have hresource := (extractText_some htext).1
  have htree : change.resource.tree = r.tree.mapTextsAt (rewrittenText false) :=
    hresource ▸ movedOut_tree hkeys
  have hnone : change.resource.payloads = [] := hresource ▸ payloads_movedOut r
  refine ⟨h.wellFormed.rewritten (.extracted .same htext), ?name, ?tokens, .inr ?changed⟩
  case name => rw [hresource, movedOut_id, h.name]
  case tokens =>
    intro place _ hmem hmarked
    rw [htree] at hmem
    obtain ⟨s, hbefore, rfl⟩ := Tree.mem_textsAt_mapTextsAt.mp hmem
    cases htoken : tokenAt? false place s with
    | some token =>
      rcases tokenAt?_eq_some htoken with ⟨-, hdeclared, -⟩ | ⟨-, -, -, rfl⟩
      · cases hdeclared
      · exact .inr ⟨hnone, s, rewrittenText_of_tokenAt? htoken⟩
    | none =>
      have hkept := rewrittenText_of_kept htoken
      rw [hkept] at hmarked ⊢
      exact (h.tokens place s hbefore hmarked).imp_right fun hpayload => ⟨hnone, hpayload.2⟩
  case changed =>
    obtain ⟨payload, hpayload⟩ :=
      List.exists_mem_of_ne_nil _ (payloads_ne_nil_of_extractText htext)
    obtain ⟨hfits, key, hmem⟩ := (mem_payloads_iff hkeys).mp hpayload
    have hmoved : ([.key "data", .key key], (Token.ofPayload payload).wrapped) ∈
        change.resource.tree.textsAt := by
      rw [htree]
      exact Tree.mem_textsAt_mapTextsAt.mpr
        ⟨payload, hmem, rewrittenText_of_tokenAt? (tokenAt?_data false key hfits)⟩
    exact Tree.marks_ne_nil_of_wrapped hmoved

/-- Rewriting leaves tokens only. -/
theorem rewritten (h : LeftWithTokens r₀ r) (hrewritten : r.Rewritten r') :
    LeftWithTokens r₀ r' := by
  induction hrewritten with
  | same => exact h
  | referring hne => exact h.referring hne
  | extracted _ htext ih => exact ih.extracted htext

/-- There is no marked text exactly when nothing was changed. -/
theorem marks_eq_nil_iff (h : LeftWithTokens r₀ r)
    (hunmarked : ∀ s ∈ r₀.tree.texts, Token.marked s = false) :
    r.tree.marks = [] ↔ r = r₀ := by
  constructor
  · intro hnone
    exact h.changed.resolve_right (not_not_intro hnone)
  · rintro rfl
    exact List.filter_eq_nil_iff.mpr fun s hs => by simp [hunmarked s hs]

/-- The marked texts are tokens. -/
theorem wrapped_of_mem_marks (h : LeftWithTokens r₀ r) {s : String} (hmem : s ∈ r.tree.marks) :
    (∃ ns, s = (Token.ofNamespace ns).wrapped) ∨
      ∃ payload, s = (Token.ofPayload payload).wrapped := by
  obtain ⟨⟨place, hplace⟩, hmarked⟩ := Tree.mem_marks_iff.mp hmem
  exact (h.tokens place s hplace hmarked).imp (·.2) (·.2)

section Manifest

variable {reference : Option Placeholder}

/-- A rewrite puts nothing in place of a token that is there already, and records none that is the
same, so the token is written as a literal. -/
theorem marks_written (h : LeftWithTokens r₀ r)
    (hns : reference.isSome = true → Token.marked r.ns = false) {place : Place} {s : String}
    {e : Expression} (hmem : (place, s) ∈ r.tree.textsAt)
    (hwritten : WrittenAs reference.isSome (r.renderable reference).placeholders place s e) :
    e.marks = [s].filter Token.marked := by
  cases hwritten with
  | replaced htoken =>
    have hunmarked : Token.marked s = false := by
      rcases tokenAt?_eq_some htoken with ⟨hplace, hdeclared, -⟩ | ⟨-, -, hfits, -⟩
      · rw [h.wellFormed.obtainable.consistent.eq_ns_of_mem h.wellFormed.distinctKeys hplace hmem]
        exact hns hdeclared
      · exact Token.marked_of_fits hfits
    rw [Expression.marks_toExpression, List.filter_cons_of_neg (by simp [hunmarked]),
      List.filter_nil]
  | @mistaken token _ hkept htext hrecorded =>
    subst htext
    have hentry := mem_renderable_placeholders (Entries.mem_of_find? hrecorded)
    rcases h.tokens place _ hmem token.marked_wrapped with ⟨hplace, ns, heq⟩ | ⟨hnone, _, heq⟩
    · obtain rfl := Token.wrapped_inj heq
      rcases hentry with ⟨_, rfl, -⟩ | ⟨payload, -, hentry⟩
      · -- Where the namespace is declared, its place is not left.
        simp [tokenAt?, hplace] at hkept
      · exact absurd (Prod.mk.inj hentry).1 (Token.ofNamespace_ne_ofPayload _ _)
    · obtain rfl := Token.wrapped_inj heq
      rcases hentry with ⟨_, -, hentry⟩ | ⟨payload, hpayload, -⟩
      · exact absurd (Prod.mk.inj hentry).1.symm (Token.ofNamespace_ne_ofPayload _ _)
      · rw [hnone] at hpayload
        cases hpayload
  | literal => rfl

/-- So the marked literals of the manifest are the tokens that were left. -/
theorem marks_manifest (h : LeftWithTokens r₀ r)
    (hns : reference.isSome = true → r.ns ≠ "" ∧ Token.marked r.ns = false)
    {manifest : Expression} (hok : (r.renderable reference).manifest = .ok manifest) :
    manifest.marks = r.tree.marks := by
  have hr := h.wellFormed.obtainable.consistent
  have hkeys := h.wellFormed.distinctKeys
  obtain ⟨loaded, -, htexts, rfl⟩ :=
    renderable_manifest hr hkeys (fun hsome => (hns hsome).1) hok
  have hsame : loaded.marks = r.tree.marks := by
    rw [Tree.marks, Tree.marks, ← Tree.map_snd_textsAt, ← Tree.map_snd_textsAt, htexts]
  rw [Expression.marks_ofTreeAt, hsame]
  intro e he
  rw [htexts] at he
  exact h.marks_written (fun hsome => (hns hsome).2) he (writtenAs_replaceText hr hkeys he)

end Manifest

end LeftWithTokens

end Resource

/-- A namespace that is declared by a resource whose name is not marked is not marked. -/
theorem Collection.marked_ns_of_referenceTo {ns : String}
    (hnames : ∀ d ∈ c.resources, Token.marked d.id.name = false)
    (hsome : (c.referenceTo config ns).isSome = true) : ns ≠ "" ∧ Token.marked ns = false := by
  obtain ⟨hne, d, hd, hid⟩ := referenceTo_isSome_iff.mp hsome
  have hname := hnames d hd
  rw [hid] at hname
  exact ⟨hne, hname⟩

/-- In a run that adds no marked texts, every resource is what becomes of the one added in its
place. -/
theorem Operation.forall₂_leftWithTokens {operations : List Operation}
    (hgenuine : ∀ operation ∈ operations, operation.Genuine)
    (hunmarked : ∀ r ∈ added {} operations, ∀ s ∈ r.tree.texts, Token.marked s = false) :
    List.Forall₂ Resource.LeftWithTokens (added {} operations)
      (performAll {} operations).2.resources := by
  obtain ⟨hadded, -⟩ := wellFormed_of_genuine (c := {}) hgenuine (by simp)
  have hstart : ∀ r ∈ added {} operations, Resource.LeftWithTokens r r :=
    fun r hr => .start (hadded r hr) (hunmarked r hr)
  have hempty : List.Forall₂ Resource.LeftWithTokens [] ({} : Collection).resources := .nil
  exact added_related hstart (fun _ _ _ h hrewritten => h.rewritten hrewritten) hempty

/-- The tokens that rewrites leave in a collection show up in the manifests that are made later.
When no text that is added starts and ends with the sentinel, the texts of a resource that do so are
tokens of earlier rewrites, and there is none exactly when the resource is still as it was added.
Whenever it is rendered, alone or with all the others, these are the literals of its manifest that
start and end with the sentinel. -/
theorem rewrites_leave_tokens {operations : List Operation} {r : Resource}
    (hgenuine : ∀ operation ∈ operations, operation.Genuine)
    (hunmarked : ∀ r ∈ Operation.added {} operations, ∀ s ∈ r.tree.texts, Token.marked s = false)
    (hrun : (Operation.performAll {} operations).2 = c) (hget : c.get? index = some r) :
    ∃ r₀, (Operation.added {} operations)[index]? = some r₀ ∧ (r.tree.marks = [] ↔ r = r₀) ∧
      (∀ s ∈ r.tree.marks, (∃ ns, s = (Token.ofNamespace ns).wrapped) ∨
        ∃ payload, s = (Token.ofPayload payload).wrapped) ∧
      (∀ config x c' body, (rewrite config index).outcome c = (.ok x, c') →
        x.declaration config = .ok body →
        ∃ manifest, body = x.block config manifest ∧ manifest.marks = r.tree.marks) ∧
      ∀ config files c', (renderAll config).outcome c = (.ok files, c') →
        ∃ (x : Renderable) (manifest : Expression),
          x.declaration config = .ok (x.block config manifest) ∧
          files[index + 2]? = some (Naming.identifier r, (x.block config manifest).toText) ∧
          manifest.marks = r.tree.marks := by
  subst hrun
  have hleft := Operation.forall₂_leftWithTokens hgenuine hunmarked
  obtain ⟨r₀, hget₀, h⟩ := forall₂_getElem? hleft hget
  have hnames : ∀ d ∈ (Operation.performAll {} operations).2.resources,
      Token.marked d.id.name = false := by
    intro d hd
    obtain ⟨i, hi⟩ := List.getElem?_of_mem hd
    obtain ⟨d₀, -, hd⟩ := forall₂_getElem? hleft hi
    exact hd.name
  have hdeclared : ∀ config x body,
      x = (Operation.performAll {} operations).2.renderable config r →
        x.declaration config = .ok body →
          ∃ manifest, body = x.block config manifest ∧ manifest.marks = r.tree.marks := by
    rintro config x body rfl hdeclaration
    obtain ⟨-, manifest, hmanifest, rfl⟩ := Renderable.declaration_ok hdeclaration
    exact ⟨manifest, rfl, h.marks_manifest (Collection.marked_ns_of_referenceTo hnames) hmanifest⟩
  refine ⟨r₀, hget₀, h.marks_eq_nil_iff (hunmarked r₀ (List.mem_of_getElem? hget₀)),
    fun s => h.wrapped_of_mem_marks, ?alone, ?all⟩
  case alone =>
    intro config x c' body hrewrite hdeclaration
    obtain ⟨hx, -⟩ := (rewrite_outcome_iff.mp hrewrite).eq_renderable hget
    exact hdeclared config x body hx hdeclaration
  case all =>
    intro config files c' hout
    obtain ⟨-, hfiles, -⟩ := renderAll_ok hout
    obtain ⟨x, text, hturn, hfile⟩ := hfiles.rendered index (Collection.lt_size_of_get? hget)
    obtain ⟨body, hdeclaration, rfl⟩ := Renderable.render_ok hturn.2
    obtain ⟨manifest, rfl, hmarks⟩ :=
      hdeclared config x body (hturn.eq_renderable hget) hdeclaration
    obtain ⟨r', hget', hname⟩ := hturn.named
    obtain rfl := Option.some.inj (hget.symm.trans hget')
    exact ⟨x, manifest, hdeclaration, hname ▸ hfile, hmarks⟩

/-- An account in the namespace `acme`. -/
def Resource.account : Resource where
  origin := ⟨"", "v1", "ServiceAccount", "acme", "svc"⟩
  id := ⟨"", "v1", "ServiceAccount", "acme", "svc"⟩
  fields :=
    [("apiVersion", .text "v1"), ("kind", .text "ServiceAccount"),
      ("metadata", .map [("name", .text "svc"), ("namespace", .text "acme")])]

/-- The account and the declaration of its namespace. -/
def Collection.accountFirst : Collection := ⟨[.account, .acme]⟩

/-- When the account is rendered for the first time, no literal of its manifest starts and ends with
the sentinel. -/
theorem account_rendered_first :
    ∃ x c' manifest, (rewrite {} 0).outcome .accountFirst = (.ok x, c') ∧
      x.declaration {} = .ok (x.block {} manifest) ∧ manifest.marks = [] := by
  have hgenuine : ∀ operation ∈ [Operation.insert .account, .insert .acme], operation.Genuine := by
    simp only [List.mem_cons, List.not_mem_nil, or_false, forall_eq_or_imp, forall_eq]
    refine ⟨⟨.ofTree (t := Resource.account.tree) rfl, ?_⟩, Resource.acme_wellFormed⟩
    simp [Resource.account, Resource.tree, Tree.DistinctKeys, Tree.DistinctKeysEntries]
  obtain ⟨x, c', body, hrewrite, hdeclaration⟩ :=
    @exists_declaration {} .accountFirst 0 (by decide +kernel)
  obtain ⟨r₀, -, -, -, hrender, -⟩ :=
    @rewrites_leave_tokens .accountFirst 0 [.insert .account, .insert .acme] .account hgenuine
      (by decide +kernel) rfl rfl
  obtain ⟨manifest, rfl, hmarks⟩ := hrender {} x c' body hrewrite hdeclaration
  exact ⟨x, c', manifest, hrewrite, hdeclaration, hmarks.trans (by decide +kernel)⟩

/-- When it is rendered again, the token of its namespace is one, although no document that was
added has such a text. -/
theorem account_rendered_again :
    let operations := [Operation.insert .account, .insert .acme, .render {} 0]
    (∀ r ∈ Operation.added {} operations, ∀ s ∈ r.tree.texts, Token.marked s = false) ∧
      ∃ c₁ x c₂ manifest, Operation.performAll {} operations = ([.ok (), .ok (), .ok ()], c₁) ∧
        (rewrite {} 0).outcome c₁ = (.ok x, c₂) ∧ x.declaration {} = .ok (x.block {} manifest) ∧
        (Token.ofNamespace "acme").wrapped ∈ manifest.texts := by
  intro operations
  obtain ⟨x, c₂, body, hrewrite, hdeclaration⟩ :=
    @exists_declaration {} (Operation.performAll {} operations).2 0 (by decide +kernel)
  obtain ⟨-, manifest, hmanifest, rfl⟩ := Renderable.declaration_ok hdeclaration
  have hliteral : ((rewrite {} 0).outcome (Operation.performAll {} operations).2).1.toOption.any
      (fun x => x.manifest.toOption.any
        fun manifest => (Token.ofNamespace "acme").wrapped ∈ manifest.texts) = true := by
    decide +kernel
  rw [hrewrite] at hliteral
  simp only [Except.toOption, Option.any_some, hmanifest, decide_eq_true_eq] at hliteral
  exact ⟨by decide +kernel, _, x, c₂, manifest, Prod.ext (by decide +kernel) rfl, hrewrite,
    hdeclaration, hliteral⟩

end KubeHcl
