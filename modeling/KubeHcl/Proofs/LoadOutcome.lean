import KubeHcl.Loading
import KubeHcl.Proofs.Resources

/-!
# What loading comes to

The documents of a stream are taken one after the other, and the first that cannot be inserted ends
the loading. As for rewrites, all that can happen to one document is listed, and a stream goes
through the list until it is used up or a document fails.
-/

namespace KubeHcl

variable {ε : Type} {source : Option String} {number : Nat} {c c' : Collection}

/-- What becomes of one document, which may not have been read. -/
inductive DocumentStep (source : Option String) (number : Nat) (c : Collection) :
    Except ε Tree → Except LoadError Unit → Collection → Prop
  /-- It could not be read. -/
  | unread {e : ε} : DocumentStep source number c (.error e) (.error (.yaml source)) c
  /-- It is null. -/
  | null : DocumentStep source number c (.ok .null) (.ok ()) c
  /-- It is no resource. -/
  | invalid {t : Tree} {cause : ResourceError} (hnull : t ≠ .null)
      (hcause : Resource.ofTree t = .error cause) :
      DocumentStep source number c (.ok t) (.error (.invalidResource source number cause)) c
  /-- Its identity is taken. -/
  | refused {t : Tree} {r : Resource} {e : LoadError} (hnull : t ≠ .null)
      (hresource : Resource.ofTree t = .ok r) (hinsert : c.insert r = .error e) :
      DocumentStep source number c (.ok t) (.error e) c
  /-- It becomes the last resource. -/
  | inserted {t : Tree} {r : Resource} {c' : Collection} (hnull : t ≠ .null)
      (hresource : Resource.ofTree t = .ok r) (hinsert : c.insert r = .ok c') :
      DocumentStep source number c (.ok t) (.ok ()) c'

/-- What becomes of the documents of a stream, the first of which has the given number. -/
inductive DocumentSteps (source : Option String) :
    Nat → Collection → List (Except ε Tree) → Except LoadError Unit → Collection → Prop
  /-- All of them were taken. -/
  | done {number : Nat} {c : Collection} : DocumentSteps source number c [] (.ok ()) c
  /-- One of them failed, and the others are not looked at. -/
  | failed {number : Nat} {c c' : Collection} {document : Except ε Tree}
      {rest : List (Except ε Tree)} {e : LoadError}
      (hstep : DocumentStep source number c document (.error e) c') :
      DocumentSteps source number c (document :: rest) (.error e) c'
  /-- One of them was taken, and the others follow. -/
  | next {number : Nat} {c c₁ c' : Collection} {document : Except ε Tree}
      {rest : List (Except ε Tree)} {result : Except LoadError Unit}
      (hstep : DocumentStep source number c document (.ok ()) c₁)
      (hrest : DocumentSteps source (number + 1) c₁ rest result c') :
      DocumentSteps source number c (document :: rest) result c'

/-- A resource that is inserted becomes the last one, and its identity was not there. -/
theorem Collection.insert_ok {r : Resource} (hinsert : c.insert r = .ok c') :
    c.find? r.id = none ∧ c' = ⟨c.resources ++ [r]⟩ := by
  unfold Collection.insert at hinsert
  split at hinsert
  · cases hinsert
  · next hfree =>
    cases hinsert
    exact ⟨by simpa using hfree, rfl⟩

/-- A resource is not inserted exactly if its identity is taken. -/
theorem Collection.insert_error_iff {r : Resource} {e : LoadError} :
    c.insert r = .error e ↔
      (∃ s ∈ c.resources, s.id = r.id) ∧ e = .duplicateResource r.id := by
  have htaken : (c.find? r.id).isSome = true ↔ ∃ s ∈ c.resources, s.id = r.id := by
    simp [Collection.find?, List.find?_isSome]
  rw [Collection.insert, ← htaken]
  split
  · next hfound => simp [hfound, eq_comm]
  · next hfree => simp [hfree]

/-- Adding a resource fails as inserting it does, and then leaves the collection. -/
theorem insertResource_ends_error {r : Resource} {e : LoadError} (hinsert : c.insert r = .error e) :
    (insertResource r).Ends c (.error e) c := by
  refine .bind .collection (.bind_error ?_)
  rw [hinsert]
  exact .throw e

/-- Adding a resource leaves the collection that inserting it gives. -/
theorem insertResource_ends_ok {r : Resource} (hinsert : c.insert r = .ok c') :
    (insertResource r).Ends c (.ok ()) c' := by
  refine .bind .collection ?_
  rw [hinsert]
  exact .bind (.pure c') (.setCollection c')

/-- A document that is neither null nor a resource is reported. -/
theorem insertDocument_of_error {t : Tree} {cause : ResourceError} (hnull : t ≠ .null)
    (hcause : Resource.ofTree t = .error cause) :
    insertDocument source number t = throw (.invalidResource source number cause) := by
  cases t with
  | null => exact absurd rfl hnull
  | _ => simp only [insertDocument, hcause]

/-- A document that is not null is added as the resource that it describes. -/
theorem insertDocument_of_ok {t : Tree} {r : Resource} (hnull : t ≠ .null)
    (hresource : Resource.ofTree t = .ok r) :
    insertDocument source number t =
      Job.note (.loadedResource r.id) >>= fun _ => insertResource r := by
  cases t with
  | null => exact absurd rfl hnull
  | _ => simp only [insertDocument, hresource]

/-- Something becomes of every document, and loading goes on or ends accordingly. -/
theorem insertDocuments_ends (source : Option String) (documents : List (Except ε Tree))
    (number : Nat) (c : Collection) :
    ∃ result c', DocumentSteps source number c documents result c' ∧
      (insertDocuments source number documents).Ends c result c' := by
  induction documents generalizing number c with
  | nil => exact ⟨_, _, .done, .pure ()⟩
  | cons document rest ih =>
    cases document with
    | error e => exact ⟨_, _, .failed .unread, .throw _⟩
    | ok t =>
      by_cases hnull : t = .null
      · subst hnull
        obtain ⟨result, c', hsteps, hends⟩ := ih (number + 1) c
        exact ⟨result, c', .next .null hsteps, .bind (.pure ()) hends⟩
      cases hresource : Resource.ofTree t with
      | error cause =>
        refine ⟨_, _, .failed (.invalid hnull hresource), .bind_error ?_⟩
        rw [insertDocument_of_error hnull hresource]
        exact .throw _
      | ok r =>
        cases hinsert : c.insert r with
        | error e =>
          refine ⟨_, _, .failed (.refused hnull hresource hinsert), .bind_error ?_⟩
          rw [insertDocument_of_ok hnull hresource]
          exact .bind (.note _) (insertResource_ends_error hinsert)
        | ok c₁ =>
          obtain ⟨result, c', hsteps, hends⟩ := ih (number + 1) c₁
          have hadded : (insertDocument source number t).Ends c (.ok ()) c₁ := by
            rw [insertDocument_of_ok hnull hresource]
            exact .bind (.note _) (insertResource_ends_ok hinsert)
          exact ⟨result, c', .next (.inserted hnull hresource hinsert) hsteps,
            .bind hadded hends⟩

/-- What loading a text comes to is the outcome of its documents. -/
theorem insertYaml_steps {text : String} {result : Except LoadError Unit}
    (hout : (insertYaml source text).outcome c = (result, c')) :
    DocumentSteps source 0 c (Yaml.documents text) result c' := by
  obtain ⟨result₀, c₀, hsteps, hends⟩ := insertDocuments_ends source (Yaml.documents text) 0 c
  obtain ⟨rfl, rfl⟩ := Prod.mk.inj (hends.outcome_eq.symm.trans hout)
  exact hsteps

/-- What every insertion of a document's resource keeps is kept by loading, also when it fails. -/
theorem DocumentSteps.invariant {P : Collection → Prop} {documents : List (Except ε Tree)}
    (hinsert : ∀ {c c' : Collection} {t : Tree} {r : Resource}, P c → .ok t ∈ documents →
      Resource.ofTree t = .ok r → c.insert r = .ok c' → P c')
    {result : Except LoadError Unit}
    (hsteps : DocumentSteps source number c documents result c') (hc : P c) : P c' := by
  induction hsteps with
  | done => exact hc
  | failed hstep =>
    cases hstep with
    | unread | invalid | refused => exact hc
  | next hstep _ ih =>
    have hrest := @ih fun hc hmem => hinsert hc (List.mem_cons_of_mem _ hmem)
    cases hstep with
    | null => exact hrest hc
    | inserted _ hresource hadded =>
      exact hrest (hinsert hc List.mem_cons_self hresource hadded)

end KubeHcl
