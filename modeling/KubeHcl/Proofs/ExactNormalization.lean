import KubeHcl.Proofs.Additions
import KubeHcl.Proofs.Declarations
import KubeHcl.Proofs.Normalization
import Mathlib.Algebra.Group.Int.Defs

/-!
# Documents that come back as they were

A document whose numbers are integers of 64 bits is the same after it was written and read: its
texts and keys are equal character by character, its keys are in the same order, and its collections
are nested alike. Whether it comes back depends on one thing only, how deep they are nested.
-/

namespace KubeHcl

namespace Json

/-- The digits of a number are worth the number. -/
theorem digitsValue_natText (n : Nat) : digitsValue (natText n) = n := by
  have hvalue : Nat.ofDigitChars 10 (Nat.toDigits 10 n) 0 = n := Nat.ofDigitChars_ten_toDigits
  rwa [Nat.ofDigitChars_eq_foldl] at hvalue

/-- The first digit of a number is zero only if the number is. -/
theorem head?_natText {n : Nat} (hn : 0 < n) : (natText n).head? ≠ some '0' := by
  induction n using Nat.strongRecOn with
  | ind n ih =>
    by_cases hsmall : n < 10
    · have hdigit : ∀ m < 10, 0 < m → m.digitChar ≠ '0' := by decide
      rw [natText, Nat.toDigits_of_lt_base hsmall, List.head?_cons]
      exact fun heq => hdigit n hsmall hn (Option.some.inj heq)
    · -- The last digit is not the first, since there are others before it.
      have hbefore := ih (n / 10) (by omega) (by omega)
      obtain ⟨d, ds, hd⟩ := List.exists_cons_of_ne_nil (natText_ne_nil (n / 10))
      rw [hd] at hbefore
      rw [natText, Nat.toDigits_of_base_le (by decide) (by omega)]
      change (natText (n / 10) ++ _).head? ≠ some '0'
      rwa [hd]

/-- An integer of 64 bits is worth itself. -/
theorem Literal.read_ofInt {n : Int} (hmin : -2 ^ 63 ≤ n) (hmax : n < 2 ^ 64) :
    (ofInt n).read = .ok (.int n) := by
  have hzero : ¬((natText n.natAbs).head? = some '0' ∧ 1 < (natText n.natAbs).length) := by
    rintro ⟨hhead, hlength⟩
    rcases Nat.eq_zero_or_pos n.natAbs with habs | habs
    · rw [habs] at hlength
      exact absurd hlength (by decide)
    · exact head?_natText habs hhead
  have hread : (ofInt n).read = (ofInt n).value := if_neg hzero
  obtain ⟨size, hsize⟩ : ∃ size, n.natAbs = size := ⟨_, rfl⟩
  have hwhole := digitsValue_natText size
  rw [hread]
  simp only [value, ofInt, hsize, hwhole]
  by_cases hsign : n < 0
  · have hpow : Nat.pow 2 63 = 2 ^ 63 := rfl
    have hrange : 0 < size ∧ size ≤ Nat.pow 2 63 := by omega
    have hvalue : -(size : Int) = n := by omega
    simp [hsign, hrange, hvalue]
  · have hpow : Nat.pow 2 64 = 2 ^ 64 := rfl
    have hrange : size ≤ maxWord := by rw [maxWord]; omega
    have hvalue : (size : Int) = n := by omega
    simp [hsign, hrange, hvalue]

end Json

namespace Tree

/-- Every number in the tree is an integer, with a sign or without one, of 64 bits. -/
inductive Integral : Tree → Prop
  | null : Integral null
  | bool (b : Bool) : Integral (bool b)
  | int {n : Int} (hmin : -2 ^ 63 ≤ n) (hmax : n < 2 ^ 64) : Integral (int n)
  | text (s : String) : Integral (text s)
  | seq {items : List Tree} (hitems : ∀ item ∈ items, Integral item) : Integral (seq items)
  | map {entries : List (String × Tree)} (hvalues : ∀ e ∈ entries, Integral e.2) :
      Integral (map entries)

/-- Whether a tree comes back as it is when collections may be nested `depth` deep, and whether it
does depends on how deep they are. -/
def RereadAlike (depth : Nat) (t : Tree) : Prop :=
  t.reread? depth = if t.depth ≤ depth then some t else none

variable {depth : Nat}

/-- Items that come back as they are make up a sequence that does. -/
theorem rereadItems?_eq {items : List Tree} (hitems : ∀ item ∈ items, item.RereadAlike depth) :
    rereadItems? depth items = if depthItems items ≤ depth then some items else none := by
  induction items with
  | nil => rfl
  | cons item rest ih =>
    obtain ⟨hitem, hrest⟩ := List.forall_mem_cons.mp hitems
    rw [rereadItems?, hitem, ih hrest, depthItems]
    simp only [Nat.max_le]
    by_cases hfirst : item.depth ≤ depth <;> by_cases hothers : depthItems rest ≤ depth <;>
      simp [hfirst, hothers]

/-- Values that come back as they are make up a mapping that does. -/
theorem rereadEntries?_eq {entries : List (String × Tree)}
    (hvalues : ∀ e ∈ entries, e.2.RereadAlike depth) :
    rereadEntries? depth entries = if depthEntries entries ≤ depth then some entries else none := by
  induction entries with
  | nil => rfl
  | cons entry rest ih =>
    obtain ⟨hvalue, hrest⟩ := List.forall_mem_cons.mp hvalues
    rw [rereadEntries?, hvalue, ih hrest, depthEntries]
    simp only [Nat.max_le]
    by_cases hfirst : entry.2.depth ≤ depth <;> by_cases hothers : depthEntries rest ≤ depth <;>
      simp [hfirst, hothers]

/-- A tree with integers only comes back as it is, unless it is nested too deep. -/
theorem Integral.rereadAlike {t : Tree} (hnumbers : t.Integral) (hkeys : t.DistinctKeys)
    (depth : Nat) : t.RereadAlike depth := by
  induction hnumbers generalizing depth with
  | null | bool | text => simp [RereadAlike, reread?, Tree.depth]
  | int hmin hmax => simp [RereadAlike, reread?, Tree.depth, Json.Literal.read_ofInt hmin hmax,
      Except.toOption]
  | @seq items _ ih =>
    have hitems := distinctKeys_seq.mp hkeys
    cases depth with
    | zero => simp [RereadAlike, reread?, Tree.depth]
    | succ depth =>
      have hreread := rereadItems?_eq fun item hitem => ih item hitem (hitems item hitem) depth
      rw [RereadAlike, reread?, hreread, Tree.depth]
      by_cases hdepth : depthItems items ≤ depth <;> simp [hdepth]
  | @map entries _ ih =>
    obtain ⟨hnodup, hvalues⟩ := distinctKeys_map.mp hkeys
    cases depth with
    | zero => simp [RereadAlike, reread?, Tree.depth]
    | succ depth =>
      have hreread := rereadEntries?_eq fun e he => ih e he (hvalues e he) depth
      rw [RereadAlike, reread?, hreread, Tree.depth]
      by_cases hdepth : depthEntries entries ≤ depth <;>
        simp [hdepth, ofPairs, Entries.ofList_of_nodup hnodup]

end Tree

section Documents

variable {r : Resource}

/-- A document with integers only is normalized to itself, unless it is nested too deep. -/
theorem normalize_eq_ok_iff_depth (hkeys : r.tree.DistinctKeys) (hnumbers : r.tree.Integral)
    (t : Tree) : normalize r = .ok t ↔ r.tree.depth ≤ depthLimit ∧ t = r.tree := by
  have hreread := hnumbers.rereadAlike hkeys depthLimit
  rw [normalize_eq_ok_iff, hreread]
  by_cases hdepth : r.tree.depth ≤ depthLimit <;> simp [hdepth, eq_comm]

/-- It cannot be normalized exactly if it is nested too deep. -/
theorem normalize_fails_iff_depth (hkeys : r.tree.DistinctKeys) (hnumbers : r.tree.Integral) :
    (∃ fault, normalize r = .error fault) ↔ depthLimit < r.tree.depth := by
  have hok := normalize_eq_ok_iff_depth hkeys hnumbers
  constructor
  · rintro ⟨fault, herror⟩
    refine Nat.lt_of_not_le fun hdepth => ?_
    have hnormal := (hok r.tree).mpr ⟨hdepth, rfl⟩
    cases herror.symm.trans hnormal
  · intro hdepth
    cases hnormal : normalize r with
    | error fault => exact ⟨fault, rfl⟩
    | ok t =>
      have hle := ((hok t).mp hnormal).1
      omega

/-- A resource is not declared for want of a normalized document exactly if there is none. -/
theorem Renderable.declaration_normalize_iff {config : Config} {x : Renderable} :
    x.declaration config = .error (.normalize x.identifier) ↔
      ∃ fault, normalize x.resource = .error fault := by
  cases hnormal : normalize x.resource with
  | error fault =>
    simp [declaration, manifest, literal, hnormal, Except.map, Bind.bind, Except.bind]
  | ok t =>
    have hmanifest : x.manifest = .ok (x.placeholders.substitute (.ofTree t)) := by
      rw [manifest, literal, hnormal]
      rfl
    simp only [declaration, hmanifest, Bind.bind, Except.bind]
    split <;> simp [Pure.pure, Except.pure, throw, throwThe, MonadExceptOf.throw]

/-- A resource with integers only is not declared for want of a normalized document exactly if it is
nested too deep. -/
theorem Renderable.declaration_normalize_iff_depth {x : Renderable}
    (hkeys : x.resource.tree.DistinctKeys) (hnumbers : x.resource.tree.Integral)
    (config : Config) : x.declaration config = .error (.normalize x.identifier) ↔
      depthLimit < x.resource.tree.depth :=
  declaration_normalize_iff.trans (normalize_fails_iff_depth hkeys hnumbers)

/-- What a rewrite gives has the identifier of the resource it gives. -/
theorem identifier_of_rewrite {config : Config} {c c' : Collection} {index : Nat} {x : Renderable}
    (hrewrite : (rewrite config index).outcome c = (.ok x, c')) :
    x.identifier = Naming.identifier x.resource := by
  have hstep := rewrite_outcome_iff.mp hrewrite
  obtain ⟨r₀, hget, hidentifier, hstored⟩ := hstep.stored
  obtain ⟨r', hget', hrewritten⟩ := hstep.rewritten hget
  obtain rfl : r' = x.resource := Option.some.inj (hget'.symm.trans hstored)
  rw [hidentifier, hrewritten.identifier_eq]

/-- A document with integers only, in which no key is repeated, is normalized to itself if its
collections are nested at most 127 deep, and not at all otherwise. Then the resource is not
declared, and the error has its identifier. -/
theorem normalize_exact (hkeys : r.tree.DistinctKeys) (hnumbers : r.tree.Integral) :
    (∀ t, normalize r = .ok t ↔ r.tree.depth ≤ 127 ∧ t = r.tree) ∧
      ((∃ fault, normalize r = .error fault) ↔ 127 < r.tree.depth) ∧
      ∀ x : Renderable, x.resource = r →
        (∀ config, x.declaration config = .error (.normalize x.identifier) ↔
          127 < r.tree.depth) ∧
        ∀ config index c c', (rewrite config index).outcome c = (.ok x, c') →
          x.identifier = Naming.identifier r := by
  refine ⟨normalize_eq_ok_iff_depth hkeys hnumbers, normalize_fails_iff_depth hkeys hnumbers, ?_⟩
  rintro x rfl
  exact ⟨Renderable.declaration_normalize_iff_depth hkeys hnumbers,
    fun config index c c' => identifier_of_rewrite⟩

/-- In a collection that was loaded and whatever became of it, no key is repeated, so the numbers of
a resource are all that has to be known. -/
theorem Collection.Genuine.normalize_iff_depth {c : Collection} (hc : c.Genuine)
    (hmem : r ∈ c.resources) (hnumbers : r.tree.Integral) :
    (∀ t, normalize r = .ok t ↔ r.tree.depth ≤ depthLimit ∧ t = r.tree) ∧
      ((∃ fault, normalize r = .error fault) ↔ depthLimit < r.tree.depth) ∧
      ∀ x : Renderable, x.resource = r → ∀ config,
        x.declaration config = .error (.normalize x.identifier) ↔ depthLimit < r.tree.depth := by
  have hkeys := (hc.wellFormed r hmem).distinctKeys
  refine ⟨normalize_eq_ok_iff_depth hkeys hnumbers, normalize_fails_iff_depth hkeys hnumbers, ?_⟩
  rintro x rfl
  exact Renderable.declaration_normalize_iff_depth hkeys hnumbers

end Documents

/-- Sequences nested in each other, around a mapping with texts and integers at the limits. -/
def Tree.nested : Nat → Tree
  | 0 => .map [("\x00\x1f\"\\", .text "\x00\n\x7f\u2028"), ("least", .int (-2 ^ 63)),
      ("greatest", .int (2 ^ 64 - 1)), ("none", .seq [])]
  | n + 1 => .seq [nested n, .null]

/-- They are as deep as they are many, and the mapping and the sequence in it count too. -/
theorem Tree.depth_nested (n : Nat) : (nested n).depth = n + 2 := by
  induction n with
  | zero => rfl
  | succ n ih => simp [nested, depth, depthItems, ih]

/-- No key is repeated in them. -/
theorem Tree.distinctKeys_nested (n : Nat) : (nested n).DistinctKeys := by
  induction n with
  | zero => exact ⟨by decide, trivial, trivial, trivial, trivial, trivial⟩
  | succ n ih => exact ⟨ih, trivial, trivial⟩

/-- Their numbers are integers. -/
theorem Tree.integral_nested (n : Nat) : (nested n).Integral := by
  induction n with
  | zero =>
    refine .map fun e he => ?_
    simp only [List.mem_cons, List.not_mem_nil, or_false] at he
    rcases he with rfl | rfl | rfl | rfl
    · exact .text _
    · exact .int (by decide) (by decide)
    · exact .int (by decide) (by decide)
    · exact .seq (by simp)
  | succ n ih => exact .seq (by simp [ih, Integral.null])

/-- A resource whose document holds sequences nested in each other. -/
def Resource.nested (n : Nat) : Resource where
  origin := ⟨"", "v1", "Nested", "", "sequences"⟩
  id := ⟨"", "v1", "Nested", "", "sequences"⟩
  fields := [("spec", .nested n)]

/-- With 124 sequences it is normalized to itself. With 125 it is still rewritten, but not declared.
-/
theorem nested_normalized :
    normalize (.nested 124) = .ok (Resource.nested 124).tree ∧
      ∃ x c', (rewrite {} 0).outcome ⟨[.nested 125]⟩ = (.ok x, c') ∧
        x.declaration {} = .error (.normalize (Naming.identifier (.nested 125))) := by
  have hkeys : ∀ n, (Resource.nested n).tree.DistinctKeys := fun n =>
    ⟨by simp [Resource.nested], Tree.distinctKeys_nested n, trivial⟩
  have hnumbers : ∀ n, (Resource.nested n).tree.Integral := fun n =>
    .map (by simp [Resource.nested, Tree.integral_nested])
  have hdepth : ∀ n, (Resource.nested n).tree.depth = n + 3 := by
    intro n
    simp [Resource.nested, Resource.tree, Tree.depth, Tree.depthEntries, Tree.depth_nested]
  have hfits := normalize_exact (hkeys 124) (hnumbers 124)
  have hdeep := normalize_exact (hkeys 125) (hnumbers 125)
  have hrewrite : (rewrite {} 0).outcome ⟨[.nested 125]⟩ =
      (.ok ⟨Naming.identifier (.nested 125), .nested 125, []⟩, ⟨[.nested 125]⟩) := rfl
  obtain ⟨hdeclaration, hidentifier⟩ :=
    hdeep.2.2 ⟨Naming.identifier (.nested 125), .nested 125, []⟩ rfl
  refine ⟨(hfits.1 _).mpr ⟨Nat.le_of_eq (hdepth 124), rfl⟩, _, _, hrewrite, ?_⟩
  have hcause := (hdeclaration {}).mpr (by rw [hdepth]; decide)
  rwa [hidentifier _ _ _ _ hrewrite] at hcause

end KubeHcl
