import KubeHcl.Proofs.Recording

/-!
# Where placeholders are put

A place in an expression is the way that leads there, through the parts that a substitution visits.
Going to a place and substituting go together, so what becomes of an expression is seen place by
place: a recorded token gives way to the expression of its placeholder, and every other node keeps
all but what is at the places in it. An expression is determined by this, and laws of substitution
are laws of what single texts give way to.
-/

namespace KubeHcl

namespace Hcl.Expression

/-- A part of an expression that a substitution visits. -/
inductive Part where
  /-- An item of an array. -/
  | item (position : Nat)
  /-- The value of an entry of an object. -/
  | value (position : Nat)
  /-- What is in parentheses. -/
  | inner
  /-- The condition of a conditional. -/
  | condition
  /-- What a conditional comes to if its condition holds. -/
  | whenTrue
  /-- What a conditional comes to otherwise. -/
  | whenFalse
  /-- The operand of a unary operator. -/
  | operand
  /-- The first operand of a binary operator. -/
  | left
  /-- The second operand of a binary operator. -/
  | right
  deriving DecidableEq, Repr

/-- The expression that is the given part of another. -/
def part? : Expression → Part → Option Expression
  | .array items, .item i => items[i]?
  | .object entries, .value i => entries[i]?.map Prod.snd
  | .paren inner, .inner => some inner
  | .conditional condition _ _, .condition => some condition
  | .conditional _ whenTrue _, .whenTrue => some whenTrue
  | .conditional _ _ whenFalse, .whenFalse => some whenFalse
  | .unary _ operand, .operand => some operand
  | .binary left _ _, .left => some left
  | .binary _ _ right, .right => some right
  | _, _ => none

/-- The expression at a place: the part of the part, and so on. -/
def at? (e : Expression) : List Part → Option Expression
  | [] => some e
  | part :: place => (e.part? part).bind (at? · place)

/-- The expression with other parts. What is no part stays, such as operators and the keys of
objects, and so does all of an expression that has no parts, such as a call. -/
def withParts (e : Expression) (f : Part → Expression) : Expression :=
  match e with
  | .array items => .array (items.mapIdx fun i _ => f (.item i))
  | .object entries => .object (entries.mapIdx fun i entry => (entry.1, f (.value i)))
  | .paren _ => .paren (f .inner)
  | .conditional _ _ _ => .conditional (f .condition) (f .whenTrue) (f .whenFalse)
  | .unary operator _ => .unary operator (f .operand)
  | .binary _ operator _ => .binary (f .left) operator (f .right)
  | e => e

/-- All of an expression but its parts. -/
def frame (e : Expression) : Expression := e.withParts fun _ => .null

@[simp] theorem at?_nil (e : Expression) : e.at? [] = some e := rfl

theorem at?_cons (e : Expression) (part : Part) (place : List Part) :
    e.at? (part :: place) = (e.part? part).bind (at? · place) := rfl

/-- Of parts that were put in, nothing is left when others are. -/
theorem withParts_withParts (e : Expression) (f g : Part → Expression) :
    (e.withParts f).withParts g = e.withParts g := by
  cases e <;> simp [withParts, List.mapIdx_mapIdx, Function.comp_def]

/-- An expression is what it is with its own parts. -/
theorem withParts_self (e : Expression) :
    e.withParts (fun part => (e.part? part).getD .null) = e := by
  cases e with
  | array items =>
    rw [withParts]
    congr 1
    refine List.ext_getElem (by simp) fun i _ hi => ?_
    simp [part?, hi]
  | object entries =>
    rw [withParts]
    congr 1
    refine List.ext_getElem (by simp) fun i _ hi => ?_
    simp [part?, hi]
  | _ => rfl

/-- All of an array but its items is how many there are. -/
theorem frame_array (items : List Expression) :
    (array items).frame = .array (items.map fun _ => .null) := by
  rw [frame, withParts]
  congr 1
  exact List.ext_getElem (by simp) fun i _ _ => by simp

/-- All of an object but its values are the keys. -/
theorem frame_object (entries : List (Expression × Expression)) :
    (object entries).frame = .object (entries.map fun entry => (entry.1, .null)) := by
  rw [frame, withParts]
  congr 1
  exact List.ext_getElem (by simp) fun i _ _ => by simp

/-- Expressions that differ neither in their parts nor in the rest are the same. -/
theorem eq_of_parts {e e' : Expression} (hframe : e.frame = e'.frame)
    (hparts : ∀ part, e.part? part = e'.part? part) : e = e' :=
  calc e = e.frame.withParts fun part => (e.part? part).getD .null := by
        rw [frame, withParts_withParts, withParts_self]
    _ = e'.frame.withParts fun part => (e'.part? part).getD .null := by
        rw [hframe, funext hparts]
    _ = e' := by rw [frame, withParts_withParts, withParts_self]

/-- A part is smaller than what it is a part of. -/
theorem sizeOf_part_lt {e sub : Expression} {part : Part} (hpart : e.part? part = some sub) :
    sizeOf sub < sizeOf e := by
  unfold part? at hpart
  split at hpart
  case h_1 items i =>
    have hitem := List.sizeOf_lt_of_mem (List.mem_of_getElem? hpart)
    simp only [array.sizeOf_spec]
    omega
  case h_2 entries i =>
    obtain ⟨⟨key, value⟩, hentry, rfl⟩ := Option.map_eq_some_iff.mp hpart
    have hlt := List.sizeOf_lt_of_mem (List.mem_of_getElem? hentry)
    simp only [Prod.mk.sizeOf_spec] at hlt
    simp only [object.sizeOf_spec]
    omega
  -- Every other part is an argument of the constructor.
  all_goals cases hpart <;> simp +arith

/-- Expressions that have the same at every place, up to its parts, are the same. -/
theorem eq_of_frames {e e' : Expression}
    (hframes : ∀ place, (e.at? place).map frame = (e'.at? place).map frame) : e = e' := by
  refine eq_of_parts (Option.some.inj (hframes [])) fun part => ?_
  have hsub : ∀ place, ((e.part? part).bind (at? · place)).map frame =
      ((e'.part? part).bind (at? · place)).map frame := fun place => hframes (part :: place)
  cases hpart : e.part? part with
  | none =>
    cases hpart' : e'.part? part with
    | none => rfl
    | some sub' => simpa [hpart, hpart'] using hsub []
  | some sub =>
    cases hpart' : e'.part? part with
    | none => simpa [hpart, hpart'] using hsub []
    | some sub' =>
      rw [hpart, hpart'] at hsub
      exact congrArg some (eq_of_frames hsub)
termination_by sizeOf e
decreasing_by exact sizeOf_part_lt hpart

end Hcl.Expression

namespace Placeholder

open Hcl (Expression)

/-- The expression of a placeholder is no text. -/
theorem toExpression_ne_text (placeholder : Placeholder) (s : String) :
    placeholder.toExpression ≠ .text s := by
  cases placeholder <;> exact Expression.noConfusion

/-- It has no parts. -/
theorem part?_toExpression (placeholder : Placeholder) (part : Expression.Part) :
    placeholder.toExpression.part? part = none := by
  cases placeholder <;> rfl

/-- So nothing in it is replaced. -/
theorem substitute_toExpression (placeholders : Placeholders) (placeholder : Placeholder) :
    placeholders.substitute placeholder.toExpression = placeholder.toExpression := by
  cases placeholder <;> rfl

end Placeholder

namespace Placeholders

open Hcl (Expression)

variable {P Q R : Placeholders} {e : Expression}

/-- One pass over `e` that puts the expressions of placeholders in place of their tokens may leave
`e'`. -/
structure OnePass (P : Placeholders) (e e' : Expression) : Prop where
  /-- A text is replaced exactly if it is the wrapped form of a token that is recorded and not
  empty. -/
  replaced_iff {place : List Expression.Part} {s : String} (hplace : e.at? place = some (.text s)) :
    e'.at? place ≠ some (.text s) ↔
      ∃ token : Token, token.text ≠ "" ∧ s = token.wrapped ∧ token ∈ P.map Prod.fst
  /-- Then it is replaced by the expression of the placeholder, of which nothing is replaced. -/
  replacement {place : List Expression.Part} {token : Token} {placeholder : Placeholder}
    (hplace : e.at? place = some (.text token.wrapped)) (hne : token.text ≠ "")
    (hfound : Entries.find? token P = some placeholder) :
    e'.at? place = some placeholder.toExpression
  /-- What is no text stays, but for its parts, and altogether if it has none. -/
  kept {place : List Expression.Part} {node : Expression} (hplace : e.at? place = some node)
    (hother : ∀ s, node ≠ .text s) :
    ∃ node', e'.at? place = some node' ∧ node'.frame = node.frame ∧
      ((∀ part, node.part? part = none) → node' = node)
  /-- No place is new. -/
  nowhere {place : List Expression.Part} (hplace : e.at? place = none) : e'.at? place = none

/-- The items of an array are substituted one by one. -/
theorem substituteItems_eq (P : Placeholders) (items : List Expression) :
    P.substituteItems items = items.map P.substitute := by
  induction items with
  | nil => rfl
  | cons item rest ih => rw [substituteItems, ih, List.map_cons]

/-- The values of an object are substituted one by one, and keep their keys. -/
theorem substituteEntries_eq (P : Placeholders) (entries : List (Expression × Expression)) :
    P.substituteEntries entries = entries.map fun entry => (entry.1, P.substitute entry.2) := by
  induction entries with
  | nil => rfl
  | cons entry rest ih => rw [substituteEntries, ih, List.map_cons]

/-- The parts of what a substitution leaves are those before it, substituted. What a text gives way
to has none. -/
theorem part?_substitute (P : Placeholders) (e : Expression) (part : Expression.Part) :
    (P.substitute e).part? part = (e.part? part).map P.substitute := by
  cases e with
  | text s =>
    rw [substitute]
    rcases P.replaceText_cases s with ⟨_, placeholder, -, -, -, hreplaced⟩ | ⟨-, hkept⟩
    · rw [hreplaced, placeholder.part?_toExpression]
      rfl
    · rw [hkept]
      rfl
  | array items =>
    rw [substitute, substituteItems_eq]
    cases part <;> simp [Expression.part?]
  | object entries =>
    rw [substitute, substituteEntries_eq]
    cases part <;> simp [Expression.part?, Function.comp_def]
  | _ => cases part <;> rfl

/-- Going to a place and substituting go together. -/
theorem at?_substitute (P : Placeholders) (e : Expression) (place : List Expression.Part) :
    (P.substitute e).at? place = (e.at? place).map P.substitute := by
  induction place generalizing e with
  | nil => rfl
  | cons part place ih =>
    rw [Expression.at?_cons, Expression.at?_cons, part?_substitute, Option.bind_map,
      Option.map_bind]
    exact Option.bind_congr fun sub _ => ih sub

/-- What is no text keeps all but its parts. -/
theorem frame_substitute (P : Placeholders) (hother : ∀ s, e ≠ .text s) :
    (P.substitute e).frame = e.frame := by
  cases e with
  | text s => exact absurd rfl (hother s)
  | array items =>
    rw [substitute, substituteItems_eq, Expression.frame_array, Expression.frame_array,
      List.map_map]
    rfl
  | object entries =>
    rw [substitute, substituteEntries_eq, Expression.frame_object, Expression.frame_object,
      List.map_map]
    rfl
  | _ => rfl

/-- What a substitution leaves of something else than a text is no text. -/
theorem substitute_ne_text (P : Placeholders) (hother : ∀ s, e ≠ .text s) (s : String) :
    P.substitute e ≠ .text s := by
  cases e with
  | text s => exact absurd rfl (hother s)
  | _ => exact Expression.noConfusion

/-- A substitution is one pass. -/
theorem onePass_substitute (P : Placeholders) (e : Expression) : OnePass P e (P.substitute e) where
  replaced_iff {place s} hplace := by
    rw [at?_substitute, hplace, Option.map_some, ne_eq, Option.some.injEq, substitute]
    rcases P.replaceText_cases s with ⟨token, placeholder, hne, hs, hfound, hreplaced⟩ |
      ⟨hnone, hkept⟩
    · rw [hreplaced]
      exact iff_of_true (placeholder.toExpression_ne_text s)
        ⟨token, hne, hs, List.mem_map_of_mem (Entries.mem_of_find? hfound)⟩
    · refine iff_of_false (not_not_intro hkept) ?_
      rintro ⟨token, hne, hs, hmem⟩
      exact hnone token hne hs hmem
  replacement hplace hne hfound := by
    rw [at?_substitute, hplace, Option.map_some, substitute, replaceText_wrapped hne hfound]
  kept {place node} hplace hother := by
    refine ⟨P.substitute node, by rw [at?_substitute, hplace, Option.map_some],
      frame_substitute P hother, fun hleaf => ?_⟩
    refine Expression.eq_of_parts (frame_substitute P hother) fun part => ?_
    rw [part?_substitute, hleaf part, Option.map_none]
  nowhere hplace := by rw [at?_substitute, hplace, Option.map_none]

/-- One pass leaves nothing else than the substitution. -/
theorem OnePass.eq_substitute {e' : Expression} (hpass : OnePass P e e') :
    e' = P.substitute e := by
  refine Expression.eq_of_frames fun place => ?_
  rw [at?_substitute]
  cases hplace : e.at? place with
  | none =>
    rw [hpass.nowhere hplace]
    rfl
  | some node =>
    rw [Option.map_some, Option.map_some]
    by_cases hother : ∀ s, node ≠ .text s
    · obtain ⟨node', hplace', hframe, -⟩ := hpass.kept hplace hother
      rw [hplace', Option.map_some, hframe, frame_substitute P hother]
    · obtain ⟨s, rfl⟩ := by simpa using hother
      rw [substitute]
      rcases P.replaceText_cases s with ⟨token, placeholder, hne, rfl, hfound, hreplaced⟩ |
        ⟨hnone, hkept⟩
      · rw [hpass.replacement hplace hne hfound, hreplaced, Option.map_some]
      · have hstays : e'.at? place = some (.text s) := by
          refine Classical.byContradiction fun hchanged => ?_
          obtain ⟨token, hne, hs, hmem⟩ := (hpass.replaced_iff hplace).mp hchanged
          exact hnone token hne hs hmem
        rw [hstays, hkept, Option.map_some]

/-- Substituting with `P` and then with `Q` is substituting with `R`, if that is so for texts. -/
theorem substitute_substitute_of_texts
    (htexts : ∀ s, Q.substitute (P.replaceText s) = R.replaceText s) (e : Expression) :
    Q.substitute (P.substitute e) = R.substitute e := by
  refine Expression.eq_of_frames fun place => ?_
  rw [at?_substitute, at?_substitute, at?_substitute]
  cases e.at? place with
  | none => rfl
  | some node =>
    simp only [Option.map_some, Option.some.injEq]
    by_cases hother : ∀ s, node ≠ .text s
    · rw [frame_substitute Q (P.substitute_ne_text hother), frame_substitute P hother,
        frame_substitute R hother]
    · obtain ⟨s, rfl⟩ := by simpa using hother
      rw [substitute, substitute, htexts]

/-- That is so if `R` has what is recorded in `P`, and otherwise what is recorded in `Q`. -/
theorem substitute_substitute_of_find?
    (hfind : ∀ token, Entries.find? token R = (Entries.find? token P).or (Entries.find? token Q))
    (e : Expression) : Q.substitute (P.substitute e) = R.substitute e := by
  refine substitute_substitute_of_texts (fun s => ?_) e
  cases hunwrap : Token.unwrap? s with
  | none => simp only [replaceText, hunwrap, substitute]
  | some token =>
    cases hfound : Entries.find? token P with
    | none => simp only [replaceText, hunwrap, hfound, hfind, Option.none_or, substitute]
    | some placeholder =>
      simp only [replaceText, hunwrap, hfound, hfind, Option.some_or,
        Placeholder.substitute_toExpression]

/-- Placeholders in which every token stands for the same substitute the same. -/
theorem substitute_congr (hfind : ∀ token, Entries.find? token Q = Entries.find? token P)
    (e : Expression) : Q.substitute e = P.substitute e := by
  refine OnePass.eq_substitute ?_
  have hpass := Q.onePass_substitute e
  have hmem : ∀ token, token ∈ Q.map Prod.fst ↔ token ∈ P.map Prod.fst := fun token => by
    rw [← Entries.find?_isSome_iff, ← Entries.find?_isSome_iff, hfind]
  refine ⟨fun hplace => ?_, fun hplace hne hfound => ?_, hpass.kept, hpass.nowhere⟩
  · simpa only [hmem] using hpass.replaced_iff hplace
  · exact hpass.replacement hplace hne (by rw [hfind, hfound])

/-- A substitution is one pass, and every one pass is the substitution: at the places that are
visited, the texts that are wrapped tokens with a placeholder give way to its expression, and
nothing else changes, nor does anything in what is put in. So there is nothing left for a second
one, only what the tokens stand for matters and not their order, and placeholders for other tokens
may as well be put in later. -/
theorem substitution_exact (P : Placeholders) (e : Expression) :
    (∀ e', OnePass P e e' ↔ e' = P.substitute e) ∧
      P.substitute (P.substitute e) = P.substitute e ∧
      (∀ Q : Placeholders, (∀ token, Entries.find? token Q = Entries.find? token P) →
        Q.substitute e = P.substitute e) ∧
      (∀ Q : Placeholders, (P.map Prod.fst).Nodup → P.Perm Q → Q.substitute e = P.substitute e) ∧
      ∀ Q : Placeholders, (Q.map Prod.fst).Nodup →
        (∀ token ∈ P.map Prod.fst, token ∉ Q.map Prod.fst) →
        Q.substitute (P.substitute e) = (P.extend Q).substitute e := by
  refine ⟨fun e' => ⟨OnePass.eq_substitute, ?unique⟩, ?twice, ?content, ?order, ?disjoint⟩
  case unique =>
    rintro rfl
    exact P.onePass_substitute e
  case twice => exact substitute_substitute_of_find? (fun token => Option.or_self.symm) e
  case content => exact fun Q hfind => substitute_congr hfind e
  case order => exact fun Q hnodup hperm => substitute_congr (Entries.find?_perm hnodup hperm) e
  case disjoint =>
    exact fun Q hnodup hdisjoint =>
      substitute_substitute_of_find? (find?_extend_of_disjoint hnodup hdisjoint) e

/-- The token of a namespace gives way to a reference in parentheses, but not in a call. Another
namespace may be recorded along with it, before or after it, or only be put in later. -/
theorem acme_put_in_place :
    let acme : Placeholders := [(.ofNamespace "acme", .reference "kubernetes_manifest" ["acme"])]
    let test : Placeholders := [(.ofNamespace "test", .reference "kubernetes_manifest" ["test"])]
    let token : Expression := .text (Token.ofNamespace "acme").wrapped
    let e : Expression := .array [.paren token, .call "length" [token]]
    (acme.substitute e).at? [.item 0, .inner] =
        some (.attributes "kubernetes_manifest" ["acme"]) ∧
      (acme.substitute e).at? [.item 1] = some (.call "length" [token]) ∧
      test.substitute (acme.substitute e) = (acme.extend test).substitute e ∧
      (test ++ acme).substitute e = (acme ++ test).substitute e ∧
      (acme ++ acme).substitute e = acme.substitute e := by
  intro acme test token e
  have hapart : Token.ofNamespace "acme" ≠ Token.ofNamespace "test" := by decide +kernel
  obtain ⟨hpass, -, hcontent, -, hdisjoint⟩ := substitution_exact acme e
  obtain ⟨-, -, -, horder, -⟩ := substitution_exact (acme ++ test) e
  have hone := (hpass _).mpr rfl
  have hcall : e.at? [.item 1] = some (.call "length" [token]) := rfl
  obtain ⟨node, hnode, -, hleaf⟩ := hone.kept hcall (by simp)
  refine ⟨hone.replacement rfl (Token.ofNamespace_ne_empty "acme") (if_pos rfl), ?call,
    hdisjoint test (by simp [test]) (by simpa [acme, test] using hapart), ?order, ?content⟩
  case call => rw [hnode, hleaf fun _ => rfl]
  case order => exact horder _ (by simpa [acme, test] using hapart) (List.Perm.swap ..)
  case content =>
    refine hcontent _ fun other => ?_
    by_cases hother : Token.ofNamespace "acme" = other <;> simp [acme, Entries.find?, hother]

end Placeholders

end KubeHcl
