import KubeHcl.Proofs.LoadOutcome
import KubeHcl.Proofs.Operations

/-!
# How far a stream is loaded

Loading takes the documents of a stream up to the first that fails, and adds a resource for each of
them that is not null. Whether a document fails is a matter of the documents before it and of the
collection that the stream is loaded into, so a stream may as well be loaded in two parts.
-/

namespace KubeHcl

variable {ε : Type} {source : Option String} {c c' : Collection}
  {before documents : List (Except ε Tree)} {document : Except ε Tree} {e : LoadError}

/-- The resource that a document describes, if it is one. -/
def describedResource? : Except ε Tree → Option Resource
  | .ok .null | .error _ => none
  | .ok t => (Resource.ofTree t).toOption

/-- The resources that documents describe, in order. -/
def describedResources (documents : List (Except ε Tree)) : List Resource :=
  documents.filterMap describedResource?

/-- The collection with the resources of documents at its end. -/
def Collection.followedBy (c : Collection) (documents : List (Except ε Tree)) : Collection :=
  ⟨c.resources ++ describedResources documents⟩

/-- A document of a stream that is loaded into `c` fails with `e`, and these are before it. -/
inductive FailsAfter (source : Option String) (c : Collection) (before : List (Except ε Tree)) :
    Except ε Tree → LoadError → Prop
  /-- It could not be read. -/
  | unread {cause : ε} : FailsAfter source c before (.error cause) (.yaml source)
  /-- It is no resource. Its number is how many are before it, null ones included. -/
  | invalid {t : Tree} {cause : ResourceError} (hnull : t ≠ .null)
      (hcause : Resource.ofTree t = .error cause) :
      FailsAfter source c before (.ok t) (.invalidResource source before.length cause)
  /-- Its identity is that of a resource in the collection or of a document before it. -/
  | duplicate {t : Tree} {r s : Resource} (hnull : t ≠ .null)
      (hresource : Resource.ofTree t = .ok r)
      (htaken : s ∈ c.resources ∨ s ∈ describedResources before) (hid : s.id = r.id) :
      FailsAfter source c before (.ok t) (.duplicateResource r.id)

/-- No document of a stream that is loaded into `c` fails. -/
def NoneFails (source : Option String) (c : Collection) (documents : List (Except ε Tree)) : Prop :=
  ∀ before document after, documents = before ++ document :: after →
    ∀ e, ¬FailsAfter source c before document e

/-- What loading a stream into `c` comes to. -/
inductive LoadsUpTo (source : Option String) (c : Collection) (documents : List (Except ε Tree)) :
    Except LoadError Unit → Collection → Prop
  /-- No document fails, and there is a resource more for each that is not null. -/
  | all (hgood : NoneFails source c documents) :
      LoadsUpTo source c documents (.ok ()) (c.followedBy documents)
  /-- One of them is the first to fail, and the resources are those of the documents before it. -/
  | failing {before after : List (Except ε Tree)} {document : Except ε Tree} {e : LoadError}
      (hsplit : documents = before ++ document :: after) (hgood : NoneFails source c before)
      (hfails : FailsAfter source c before document e) :
      LoadsUpTo source c documents (.error e) (c.followedBy before)

namespace Collection

@[simp] theorem followedBy_nil (c : Collection) :
    c.followedBy ([] : List (Except ε Tree)) = c := by
  simp [followedBy, describedResources]

@[simp] theorem followedBy_append (c : Collection) (xs ys : List (Except ε Tree)) :
    c.followedBy (xs ++ ys) = (c.followedBy xs).followedBy ys := by
  simp [followedBy, describedResources]

theorem mem_followedBy {s : Resource} : s ∈ (c.followedBy before).resources ↔
    s ∈ c.resources ∨ s ∈ describedResources before := List.mem_append

end Collection

/-- The same failure when `k` more documents come before. -/
def LoadError.later (k : Nat) : LoadError → LoadError
  | invalidResource source document cause => invalidResource source (k + document) cause
  | e => e

namespace FailsAfter

/-- A document that describes a resource fails only as a duplicate. -/
theorem exists_of_ok {t : Tree} {r : Resource} (hresource : Resource.ofTree t = .ok r)
    (hfails : FailsAfter source c before (.ok t) e) :
    (∃ s ∈ (c.followedBy before).resources, s.id = r.id) ∧ e = .duplicateResource r.id := by
  cases hfails with
  | invalid _ hcause => cases hresource.symm.trans hcause
  | duplicate _ hresource' htaken hid =>
    obtain rfl := Except.ok.inj (hresource.symm.trans hresource')
    exact ⟨⟨_, Collection.mem_followedBy.mpr htaken, hid⟩, rfl⟩

/-- A document fails in one way only. -/
theorem unique {e' : LoadError} (h : FailsAfter source c before document e)
    (h' : FailsAfter source c before document e') : e = e' := by
  cases h with
  | unread =>
    cases h'
    rfl
  | invalid _ hcause =>
    cases h' with
    | invalid _ hcause' => rw [Except.error.inj (hcause.symm.trans hcause')]
    | duplicate _ hresource => cases hcause.symm.trans hresource
  | duplicate _ hresource => exact (h'.exists_of_ok hresource).2.symm

/-- Documents may as well be in the collection before the stream is loaded. -/
theorem append_iff {xs : List (Except ε Tree)} :
    FailsAfter source c (xs ++ before) document e ↔
      ∃ e', FailsAfter source (c.followedBy xs) before document e' ∧ e = e'.later xs.length := by
  constructor
  · intro hfails
    cases hfails with
    | unread => exact ⟨_, .unread, rfl⟩
    | invalid hnull hcause => exact ⟨_, .invalid hnull hcause, by rw [List.length_append]; rfl⟩
    | duplicate hnull hresource htaken hid =>
      rw [← Collection.mem_followedBy, Collection.followedBy_append,
        Collection.mem_followedBy] at htaken
      exact ⟨_, .duplicate hnull hresource htaken hid, rfl⟩
  · rintro ⟨e', hfails, rfl⟩
    cases hfails with
    | unread => exact .unread
    | invalid hnull hcause =>
      rw [LoadError.later, ← List.length_append]
      exact .invalid hnull hcause
    | duplicate hnull hresource htaken hid =>
      rw [← Collection.mem_followedBy, ← Collection.followedBy_append,
        Collection.mem_followedBy] at htaken
      exact .duplicate hnull hresource htaken hid

/-- A document that fails comes after all that do not. -/
theorem prefix_of_noneFails {good rest after : List (Except ε Tree)}
    (hfails : FailsAfter source c before document e) (hgood : NoneFails source c good)
    (hsplit : good ++ rest = before ++ document :: after) : good <+: before := by
  rcases List.append_eq_append_iff.mp hsplit with ⟨between, rfl, -⟩ | ⟨between, rfl, hrest⟩
  · exact List.prefix_append good between
  · cases between with
    | nil => simp
    | cons =>
      cases hrest
      exact absurd hfails (hgood before document _ rfl e)

end FailsAfter

/-- No document fails in two streams after one another if none does in the first, and none in the
second once the first was loaded. -/
theorem noneFails_append_iff {xs ys : List (Except ε Tree)} :
    NoneFails source c (xs ++ ys) ↔
      NoneFails source c xs ∧ NoneFails source (c.followedBy xs) ys := by
  constructor
  · intro hgood
    constructor
    · rintro before document after rfl
      exact hgood before document (after ++ ys) (by simp)
    · rintro before document after rfl e hfails
      exact hgood (xs ++ before) document after (by simp) _
        (FailsAfter.append_iff.mpr ⟨e, hfails, rfl⟩)
  · rintro ⟨hxs, hys⟩ before document after hsplit e hfails
    obtain ⟨between, rfl⟩ := hfails.prefix_of_noneFails hxs hsplit
    obtain ⟨e', hfails, -⟩ := FailsAfter.append_iff.mp hfails
    rw [List.append_assoc, List.append_cancel_left_eq] at hsplit
    exact hys between document after hsplit e' hfails

/-- After documents of which none fails, none has failed either once one more does not. -/
theorem NoneFails.concat (hgood : NoneFails source c before)
    (hkept : ∀ e, ¬FailsAfter source c before document e) :
    NoneFails source c (before ++ [document]) := by
  intro before' document' after hsplit e hfails
  obtain ⟨between, rfl⟩ := hfails.prefix_of_noneFails hgood hsplit
  rw [List.append_assoc, List.append_cancel_left_eq] at hsplit
  cases between with
  | nil =>
    cases hsplit
    rw [List.append_nil] at hfails
    exact hkept e hfails
  | cons => simp at hsplit

/-- A document that is taken or passed over does not fail, and adds the resource that it describes.
One that ends the loading fails. -/
theorem DocumentStep.fails_or_adds {result : Except LoadError Unit}
    (hstep : DocumentStep source before.length (c.followedBy before) document result c') :
    (∃ e, result = .error e ∧ FailsAfter source c before document e ∧ c' = c.followedBy before) ∨
      result = .ok () ∧ (∀ e, ¬FailsAfter source c before document e) ∧
        c' = c.followedBy (before ++ [document]) := by
  cases hstep with
  | unread => exact .inl ⟨_, rfl, .unread, rfl⟩
  | invalid hnull hcause => exact .inl ⟨_, rfl, .invalid hnull hcause, rfl⟩
  | refused hnull hresource hinsert =>
    obtain ⟨⟨s, hs, hid⟩, rfl⟩ := Collection.insert_error_iff.mp hinsert
    exact .inl ⟨_, rfl, .duplicate hnull hresource (Collection.mem_followedBy.mp hs) hid, rfl⟩
  | null =>
    refine .inr ⟨rfl, ?_, by simp [Collection.followedBy, describedResources, describedResource?]⟩
    intro e hfails
    cases hfails <;> contradiction
  | @inserted t r _ hnull hresource hinsert =>
    refine .inr ⟨rfl, fun e hfails => ?_, ?_⟩
    · cases hinsert.symm.trans (Collection.insert_error_iff.mpr (hfails.exists_of_ok hresource))
    · have hdescribed : describedResources ([.ok t] : List (Except ε Tree)) = [r] := by
        cases t <;> simp_all [describedResources, describedResource?, Except.toOption]
      obtain ⟨-, rfl⟩ := Collection.insert_ok hinsert
      rw [Collection.followedBy_append, Collection.followedBy.eq_1 _ [.ok t], hdescribed]

/-- Loading what comes after documents of which none fails comes to what loading all of them does.
-/
theorem DocumentSteps.loadsUpTo {rest : List (Except ε Tree)} {result : Except LoadError Unit}
    (hgood : NoneFails source c before)
    (hsteps : DocumentSteps source before.length (c.followedBy before) rest result c') :
    LoadsUpTo source c (before ++ rest) result c' := by
  induction rest generalizing before with
  | nil =>
    cases hsteps
    rw [List.append_nil]
    exact .all hgood
  | cons document rest ih =>
    cases hsteps with
    | failed hstep =>
      obtain ⟨_, herror, hfails, rfl⟩ | ⟨hok, -⟩ := hstep.fails_or_adds
      · cases herror
        exact .failing rfl hgood hfails
      · cases hok
    | next hstep hrest =>
      obtain ⟨_, herror, -⟩ | ⟨-, hkept, rfl⟩ := hstep.fails_or_adds
      · cases herror
      rw [List.append_cons]
      refine ih (hgood.concat hkept) ?_
      rwa [List.length_append]

namespace LoadsUpTo

variable {result result' : Except LoadError Unit} {c₁ : Collection}

/-- Loading comes to one thing only. -/
theorem unique (h : LoadsUpTo source c documents result c')
    (h' : LoadsUpTo source c documents result' c₁) : result = result' ∧ c' = c₁ := by
  cases h with
  | all hgood =>
    cases h' with
    | all => exact ⟨rfl, rfl⟩
    | failing hsplit _ hfails => exact absurd hfails (hgood _ _ _ hsplit _)
  | failing hsplit hgood hfails =>
    cases h' with
    | all hgood' => exact absurd hfails (hgood' _ _ _ hsplit _)
    | failing hsplit' hgood' hfails' =>
      have hsame := hsplit.symm.trans hsplit'
      obtain rfl := (hfails'.prefix_of_noneFails hgood hsame).eq_of_length_le
        (hfails.prefix_of_noneFails hgood' hsame.symm).length_le
      cases List.append_cancel_left hsame
      exact ⟨congrArg _ (hfails.unique hfails'), rfl⟩

/-- What comes after a document that fails is not looked at. -/
theorem append_of_error (h : LoadsUpTo source c documents (.error e) c')
    (more : List (Except ε Tree)) : LoadsUpTo source c (documents ++ more) (.error e) c' := by
  cases h with
  | failing hsplit hgood hfails =>
    subst hsplit
    exact .failing (List.append_assoc ..) hgood hfails

/-- What comes after documents of which none fails is loaded as on its own, but for the numbers of
the documents. -/
theorem append_of_noneFails (hgood : NoneFails source c before)
    (h : LoadsUpTo source (c.followedBy before) documents result c') :
    LoadsUpTo source c (before ++ documents) (result.mapError (·.later before.length)) c' := by
  cases h with
  | all hrest =>
    rw [← Collection.followedBy_append]
    exact .all (noneFails_append_iff.mpr ⟨hgood, hrest⟩)
  | failing hsplit hrest hfails =>
    subst hsplit
    rw [← Collection.followedBy_append]
    exact .failing (List.append_assoc ..).symm (noneFails_append_iff.mpr ⟨hgood, hrest⟩)
      (FailsAfter.append_iff.mpr ⟨_, hfails, rfl⟩)

end LoadsUpTo

/-- What loading documents comes to is told by the first of them that fails. -/
theorem insertDocuments_outcome_iff {result : Except LoadError Unit} :
    (insertDocuments source 0 documents).outcome c = (result, c') ↔
      LoadsUpTo source c documents result c' := by
  obtain ⟨result₀, c₀, hsteps, hends⟩ := insertDocuments_ends source documents 0 c
  have hloads : LoadsUpTo source c documents result₀ c₀ := by
    rw [← Collection.followedBy_nil (ε := ε) c] at hsteps
    have hnone : NoneFails source c ([] : List (Except ε Tree)) := by
      intro before document after hsplit
      cases before <;> cases hsplit
    exact DocumentSteps.loadsUpTo hnone hsteps
  rw [hends.outcome_eq, Prod.mk.injEq]
  constructor
  · rintro ⟨rfl, rfl⟩
    exact hloads
  · exact hloads.unique

/-- Loading a stream into a collection puts the resources of the documents up to the first that
fails behind those that are there, and nothing else. A document fails if it could not be read, is no
resource, or has an identity that is taken, in the collection or before it in the stream, and that
is what the error tells. Nothing fails exactly if loading succeeds. What comes last in a stream is
not looked at if loading what is before it fails, and otherwise loaded as on its own after it. -/
theorem loads_good_prefix (source : Option String) (c : Collection)
    (documents : List (Except ε Tree)) :
    (∀ result c', (insertDocuments source 0 documents).outcome c = (result, c') ↔
        LoadsUpTo source c documents result c') ∧
      (((insertDocuments source 0 documents).outcome c).1 = .ok () ↔
        NoneFails source c documents) ∧
      (∀ e c', (insertDocuments source 0 documents).outcome c = (.error e, c') →
        ∀ more, (insertDocuments source 0 (documents ++ more)).outcome c = (.error e, c')) ∧
      (∀ c', (insertDocuments source 0 documents).outcome c = (.ok (), c') →
        ∀ more result c'', (insertDocuments source 0 more).outcome c' = (result, c'') →
          (insertDocuments source 0 (documents ++ more)).outcome c =
            (result.mapError (·.later documents.length), c'')) ∧
      ∀ text, insertYaml source text = insertDocuments source 0 (Yaml.documents text) := by
  refine ⟨fun _ _ => insertDocuments_outcome_iff, ⟨?succeeds, ?good⟩, ?failed, ?loaded,
    fun _ => rfl⟩
  case succeeds =>
    intro hok
    rcases hout : (insertDocuments source 0 documents).outcome c with ⟨result, c'⟩
    rw [hout] at hok
    subst hok
    cases insertDocuments_outcome_iff.mp hout with
    | all hgood => exact hgood
  case good =>
    intro hgood
    rw [insertDocuments_outcome_iff.mpr (.all hgood)]
  case failed =>
    intro e c' hout more
    exact insertDocuments_outcome_iff.mpr
      ((insertDocuments_outcome_iff.mp hout).append_of_error more)
  case loaded =>
    intro c' hout more result c'' hmore
    cases insertDocuments_outcome_iff.mp hout with
    | all hgood =>
      exact insertDocuments_outcome_iff.mpr
        (.append_of_noneFails hgood (insertDocuments_outcome_iff.mp hmore))

/-- The declaration of `acme` is loaded behind a resource that is there. The text after it is the
fourth document of the whole stream, so that is what is reported, and the document after the text
is not looked at. -/
theorem acme_loaded_before_text :
    let documents : List (Except Unit Tree) := [.ok .null, .ok Resource.acme.tree]
    let more : List (Except Unit Tree) :=
      [.ok .null, .ok (.text "acme"), .ok Resource.settings.tree]
    (insertDocuments none 0 documents).outcome ⟨[.settings]⟩ = (.ok (), .memberFirst) ∧
      NoneFails none ⟨[.settings]⟩ documents ∧
      (insertDocuments none 0 (documents ++ more)).outcome ⟨[.settings]⟩ =
        (.error (.invalidResource none 3 .notAMapping), .memberFirst) := by
  intro documents more
  obtain ⟨-, hsucceeds, -, hloaded, -⟩ := loads_good_prefix none ⟨[.settings]⟩ documents
  have hfirst : (insertDocuments none 0 documents).outcome ⟨[.settings]⟩ =
      (.ok (), .memberFirst) := rfl
  have hmore : (insertDocuments none 0 more).outcome .memberFirst =
      (.error (.invalidResource none 1 .notAMapping), .memberFirst) := rfl
  exact ⟨hfirst, hsucceeds.mp (congrArg Prod.fst hfirst), hloaded _ hfirst more _ _ hmore⟩

end KubeHcl
