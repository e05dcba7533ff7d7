import KubeHcl.Proofs.Outcome
import KubeHcl.Rewriting

/-!
# What a rewrite comes to

A rewrite changes the namespace of a resource first and its texts after that, and each part may
fail. All that can happen is listed here, and a rewrite comes to exactly what is listed, so that
later arguments go through the list and not through the program.
-/

namespace KubeHcl

variable {config : Config} {c c₁ c' : Collection} {index : Nat}

/-- The resource with the wrapped token of its namespace in place of that namespace. -/
def Resource.referring (r : Resource) : Resource :=
  r.withNamespace (Token.ofNamespace r.ns).wrapped

/-- How many resources have the identity of `r` when it stands at `index`. -/
def Collection.sharing (c : Collection) (index : Nat) (r : Resource) : Nat :=
  ((c.replace index r).matching (· = r.id)).length

/-- What becomes of the namespace of the resource `r` at a position. -/
inductive NamespaceStep (config : Config) (c : Collection) (index : Nat) (r : Resource) :
    Except TransformError (Resource × Placeholders) → Collection → Prop
  /-- There is no namespace, or none that the collection declares. -/
  | kept (hundeclared : r.ns = "" ∨ c.find? (.namespaceCalled r.ns) = none) :
      NamespaceStep config c index r (.ok (r, [])) c
  /-- It became a reference, and nothing else has the new identity. -/
  | changed {declaration : Resource} (hns : r.ns ≠ "")
      (hdeclared : c.find? (.namespaceCalled r.ns) = some declaration)
      (halone : c.sharing index r.referring = 1) :
      NamespaceStep config c index r
        (.ok (r.referring, [(.ofNamespace r.ns, namespaceReference config declaration)]))
        (c.replace index r.referring)
  /-- It became a reference, and the new identity is not that of one resource. -/
  | conflict {declaration : Resource} (hns : r.ns ≠ "")
      (hdeclared : c.find? (.namespaceCalled r.ns) = some declaration)
      (hshared : c.sharing index r.referring ≠ 1) :
      NamespaceStep config c index r
        (.error (.identityConflict r.referring.id (c.sharing index r.referring)))
        (c.replace index r.referring)

/-- What becomes of the resource at a position. -/
inductive RewriteStep (config : Config) (c : Collection) (index : Nat) :
    Except TransformError Renderable → Collection → Prop
  /-- There is no such position. -/
  | outOfRange (hnone : c.get? index = none) :
      RewriteStep config c index (.error (.outOfRange index)) c
  /-- Its namespace could not be changed. -/
  | conflict {r : Resource} {e : TransformError} {c₁ : Collection} (hget : c.get? index = some r)
      (hns : NamespaceStep config c index r (.error e) c₁) :
      RewriteStep config c index (.error e) c₁
  /-- Its data is not a mapping to text. -/
  | malformed {r moved : Resource} {recorded : Placeholders} {e : TransformError} {c₁ : Collection}
      (hget : c.get? index = some r)
      (hns : NamespaceStep config c index r (.ok (moved, recorded)) c₁)
      (htext : extractText moved = .error e) :
      RewriteStep config c index (.error e) c₁
  /-- There are no texts to move. -/
  | kept {r moved : Resource} {recorded : Placeholders} {c₁ : Collection}
      (hget : c.get? index = some r)
      (hns : NamespaceStep config c index r (.ok (moved, recorded)) c₁)
      (htext : extractText moved = .ok none) :
      RewriteStep config c index (.ok ⟨Naming.identifier r, moved, recorded⟩) c₁
  /-- Texts were moved. -/
  | extracted {r moved : Resource} {recorded : Placeholders} {change : TextChange}
      {c₁ : Collection} (hget : c.get? index = some r)
      (hns : NamespaceStep config c index r (.ok (moved, recorded)) c₁)
      (htext : extractText moved = .ok (some change)) :
      RewriteStep config c index
        (.ok ⟨Naming.identifier r, change.resource, recorded.extend change.placeholders⟩)
        (c₁.replace index change.resource)

/-- The task on the namespace comes to what is listed for it. -/
theorem NamespaceStep.ends {r : Resource} {result : Except TransformError (Resource × Placeholders)}
    (hstep : NamespaceStep config c index r result c') :
    (rewriteNamespace config index r).Ends c result c' := by
  refine .bind .collection ?_
  cases hstep with
  | kept hundeclared =>
    by_cases hns : r.ns = ""
    · simp only [resolveNamespace, hns, if_true, ne_eq, not_true, if_false]
      exact .pure _
    · have hnone := hundeclared.resolve_left hns
      simp only [resolveNamespace, hns, hnone, if_false, ne_eq, not_false_eq_true, if_true]
      exact .bind (.note _) (.pure _)
  | changed hns hdeclared halone =>
    simp only [resolveNamespace, hns, hdeclared, if_false]
    refine .bind .collection (.bind (.setCollection _) ?_)
    split
    · next hne => exact absurd halone hne
    · exact .pure _
  | conflict hns hdeclared hshared =>
    simp only [resolveNamespace, hns, hdeclared, if_false]
    refine .bind .collection (.bind (.setCollection _) ?_)
    split
    · exact .bind_error (.throw _)
    · next heq => exact absurd hshared heq

/-- Something becomes of a namespace in every case. -/
theorem NamespaceStep.total (config : Config) (c : Collection) (index : Nat) (r : Resource) :
    ∃ result c', NamespaceStep config c index r result c' := by
  by_cases hns : r.ns = ""
  · exact ⟨_, _, .kept (.inl hns)⟩
  cases hdeclared : c.find? (.namespaceCalled r.ns) with
  | none => exact ⟨_, _, .kept (.inr hdeclared)⟩
  | some declaration =>
    by_cases halone : c.sharing index r.referring = 1
    · exact ⟨_, _, .changed hns hdeclared halone⟩
    · exact ⟨_, _, .conflict hns hdeclared halone⟩

/-- The task on the texts fails with what extracting them fails with. -/
theorem rewriteText_ends_error {r : Resource} {recorded : Placeholders} {e : TransformError}
    (htext : extractText r = .error e) : (rewriteText index r recorded).Ends c (.error e) c := by
  refine .bind (.noteAll _) (.bind_error ?_)
  rw [htext]
  exact .throw e

/-- Without texts to move the task gives what it was given. -/
theorem rewriteText_ends_none {r : Resource} {recorded : Placeholders}
    (htext : extractText r = .ok none) :
    (rewriteText index r recorded).Ends c (.ok (r, recorded)) c := by
  refine .bind (.noteAll _) ?_
  rw [htext]
  exact .bind (.pure none) (.pure _)

/-- Texts that were moved are recorded after the namespace, and the changed resource is stored. -/
theorem rewriteText_ends_some {r : Resource} {recorded : Placeholders} {change : TextChange}
    (htext : extractText r = .ok (some change)) :
    (rewriteText index r recorded).Ends c
      (.ok (change.resource, recorded.extend change.placeholders))
      (c.replace index change.resource) := by
  refine .bind (.noteAll _) ?_
  rw [htext]
  exact .bind (.pure (some change)) (.bind .collection (.bind (.setCollection _) (.pure _)))

/-- A rewrite comes to what is listed for it. -/
theorem RewriteStep.ends {result : Except TransformError Renderable}
    (hstep : RewriteStep config c index result c') :
    (rewrite config index).Ends c result c' := by
  refine .bind .collection ?_
  cases hstep with
  | outOfRange hnone =>
    rw [hnone]
    exact .throw _
  | conflict hget hns =>
    rw [hget]
    exact .bind_error hns.ends
  | malformed hget hns htext =>
    rw [hget]
    exact .bind hns.ends (.bind_error (rewriteText_ends_error htext))
  | kept hget hns htext =>
    rw [hget]
    exact .bind hns.ends (.bind (rewriteText_ends_none htext) (.pure _))
  | extracted hget hns htext =>
    rw [hget]
    exact .bind hns.ends (.bind (rewriteText_ends_some htext) (.pure _))

/-- Something becomes of every position. -/
theorem RewriteStep.total (config : Config) (c : Collection) (index : Nat) :
    ∃ result c', RewriteStep config c index result c' := by
  cases hget : c.get? index with
  | none => exact ⟨_, _, .outOfRange hget⟩
  | some r =>
    obtain ⟨result, c₁, hns⟩ := NamespaceStep.total config c index r
    cases result with
    | error e => exact ⟨_, _, .conflict hget hns⟩
    | ok moved =>
      cases htext : extractText moved.1 with
      | error e => exact ⟨_, _, .malformed hget hns htext⟩
      | ok change =>
        cases change with
        | none => exact ⟨_, _, .kept hget hns htext⟩
        | some change => exact ⟨_, _, .extracted hget hns htext⟩

/-- What a rewrite comes to is exactly what is listed: the list is complete, and no two entries of
it apply at once. -/
theorem rewrite_outcome_iff {result : Except TransformError Renderable} :
    (rewrite config index).outcome c = (result, c') ↔ RewriteStep config c index result c' := by
  constructor
  · intro hout
    obtain ⟨result₀, c₀, hstep⟩ := RewriteStep.total config c index
    obtain ⟨rfl, rfl⟩ := Prod.mk.inj (hstep.ends.outcome_eq.symm.trans hout)
    exact hstep
  · intro hstep
    exact hstep.ends.outcome_eq

end KubeHcl
