import KubeHcl.Proofs.RewriteEffect
import KubeHcl.Yaml.Document

/-!
# Mappings without repeated keys

No document of a text has a mapping in which a key is repeated, for a repeated key takes the place
of the earlier one while the mapping is put together. Resources keep it that way: whatever becomes
of the document of one, it sets keys that are found by their name.
-/

namespace KubeHcl

namespace Tree

mutual

/-- No mapping in the tree has a key twice. -/
def DistinctKeys : Tree → Prop
  | .seq items => DistinctKeysItems items
  | .map entries => (entries.map Prod.fst).Nodup ∧ DistinctKeysEntries entries
  | _ => True

/-- No mapping in the items of a sequence has a key twice. -/
def DistinctKeysItems : List Tree → Prop
  | [] => True
  | item :: rest => item.DistinctKeys ∧ DistinctKeysItems rest

/-- No mapping in the values of a mapping has a key twice. -/
def DistinctKeysEntries : List (String × Tree) → Prop
  | [] => True
  | (_, value) :: rest => value.DistinctKeys ∧ DistinctKeysEntries rest

end

/-- What it means for a sequence. -/
theorem distinctKeys_seq {items : List Tree} :
    (seq items).DistinctKeys ↔ ∀ item ∈ items, item.DistinctKeys := by
  rw [DistinctKeys]
  induction items with
  | nil => simp [DistinctKeysItems]
  | cons item rest ih => rw [DistinctKeysItems, ih, List.forall_mem_cons]

/-- What it means for a mapping. -/
theorem distinctKeys_map {entries : List (String × Tree)} : (map entries).DistinctKeys ↔
    (entries.map Prod.fst).Nodup ∧ ∀ e ∈ entries, e.2.DistinctKeys := by
  have hvalues : DistinctKeysEntries entries ↔ ∀ e ∈ entries, e.2.DistinctKeys := by
    induction entries with
    | nil => simp [DistinctKeysEntries]
    | cons entry rest ih => rw [DistinctKeysEntries, ih, List.forall_mem_cons]
  rw [DistinctKeys, hvalues]

/-- A mapping that is set up from pairs repeats no key. -/
theorem distinctKeys_ofPairs {pairs : List (String × Tree)}
    (hvalues : ∀ e ∈ pairs, e.2.DistinctKeys) : (ofPairs pairs).DistinctKeys := by
  obtain ⟨hkeys, hmem⟩ := Entries.ofList_spec pairs
  exact distinctKeys_map.mpr ⟨hkeys, fun e he => hvalues e (hmem e he)⟩

/-- Setting a key repeats none. -/
theorem DistinctKeys.insert {entries : List (String × Tree)} (key : String) {value : Tree}
    (hentries : (map entries).DistinctKeys) (hvalue : value.DistinctKeys) :
    (map (Entries.insert key value entries)).DistinctKeys := by
  obtain ⟨hkeys, hvalues⟩ := distinctKeys_map.mp hentries
  refine distinctKeys_map.mpr ⟨Entries.nodup_insert hkeys key value, fun e he => ?_⟩
  rcases Entries.mem_insert he with hold | rfl
  · exact hvalues e hold
  · exact hvalue

/-- The value of a key repeats none. -/
theorem DistinctKeys.value {entries : List (String × Tree)} {key : String} {value : Tree}
    (hentries : (map entries).DistinctKeys) (hfound : Entries.find? key entries = some value) :
    value.DistinctKeys :=
  (distinctKeys_map.mp hentries).2 _ (Entries.mem_of_find? hfound)

end Tree

namespace Yaml

/-- A whole number that is read is one. -/
theorem integerValue?_ok {cs : List Char} {t : Tree} (hok : integerValue? cs = some (.ok t)) :
    ∃ n, t = .int n := by
  obtain ⟨n, -, hvalue⟩ := Option.bind_eq_some_iff.mp hok
  split at hvalue
  · cases hvalue
    exact ⟨n, rfl⟩
  · split at hvalue <;> cases hvalue

/-- A number that is read is one, unless it is too large. -/
theorem floatValue?_some {text : String} {t : Tree} (hsome : floatValue? text = some t) :
    t = .null ∨ ∃ x, t = .float x := by
  have hfloat : ∀ {cs : List Char},
      (decimalOf? cs).map Tree.float = some t → ∃ x, t = .float x := by
    intro cs hmap
    obtain ⟨x, -, hx⟩ := Option.map_eq_some_iff.mp hmap
    exact ⟨x, hx.symm⟩
  unfold floatValue? at hsome
  split at hsome
  · cases hsome
    exact .inl rfl
  · split at hsome
    · cases hsome
    · exact .inr (hfloat hsome)
    · exact .inr (hfloat hsome)

/-- A scalar without a tag has no keys. -/
theorem plainValue_distinctKeys {text : String} {t : Tree} (hok : plainValue text = .ok t) :
    t.DistinctKeys := by
  unfold plainValue at hok
  split at hok
  · cases hok
    trivial
  split at hok
  · cases hok
    trivial
  · next value hvalue =>
    rw [hok] at hvalue
    obtain ⟨n, rfl⟩ := integerValue?_ok hvalue
    trivial
  · split at hok
    · cases hok
      trivial
    · cases hfloat : floatValue? text with
      | none =>
        rw [hfloat] at hok
        cases hok
        trivial
      | some value =>
        rw [hfloat] at hok
        cases hok
        rcases floatValue?_some hfloat with rfl | ⟨x, rfl⟩ <;> trivial

/-- A scalar has no keys, whatever its tag is. -/
theorem scalarValue_distinctKeys {tag : Option Tag} {text : String} {plain : Bool} {t : Tree}
    (hok : scalarValue tag text plain = .ok t) : t.DistinctKeys := by
  unfold scalarValue at hok
  split at hok
  · split at hok
    · exact plainValue_distinctKeys hok
    · cases hok
      trivial
  -- With a tag, the scalar is of the type that the tag says.
  dsimp only at hok
  split at hok
  · cases hok
  split at hok
  · split at hok
    · next value hvalue =>
      cases hok
      obtain ⟨b, -, rfl⟩ := Option.map_eq_some_iff.mp hvalue
      trivial
    · cases hok
  split at hok
  · cases hint : integerValue? text.toList with
    | none =>
      rw [hint] at hok
      cases hok
    | some value =>
      rw [hint] at hok
      obtain ⟨n, rfl⟩ := integerValue?_ok (hint.trans (congrArg some hok))
      trivial
  split at hok
  · split at hok
    · next value hvalue =>
      cases hok
      rcases floatValue?_some hvalue with rfl | ⟨x, rfl⟩ <;> trivial
    · cases hok
  split at hok
  · split at hok
    · next value hvalue =>
      cases hok
      split at hvalue <;> cases hvalue
      trivial
    · cases hok
  split at hok
  · exact plainValue_distinctKeys hok
  · cases hok
    trivial

namespace Node

/-- Whatever a computation gives satisfies `P`. -/
def Expansion.Gives {α : Type} (x : Expansion α) (P : α → Prop) : Prop :=
  ∀ left a left', x.run left = .ok (a, left') → P a

namespace Expansion.Gives

variable {α β : Type} {P : β → Prop} {Q : α → Prop}

/-- A computation in two parts gives what the second part gives. -/
theorem bind {x : Expansion α} {f : α → Expansion β} (hx : Expansion.Gives x Q)
    (hf : ∀ a, Q a → Expansion.Gives (f a) P) : Expansion.Gives (x >>= f) P := by
  intro left b left' hrun
  obtain ⟨⟨a, middle⟩, hfirst, hsecond⟩ := bind_eq_ok hrun
  exact hf a (hx left a middle hfirst) middle b left' hsecond

/-- A value on its own. -/
theorem pure {b : β} (hb : P b) : Expansion.Gives (Pure.pure b) P := by
  intro left a left' hrun
  cases hrun
  exact hb

/-- A failure gives nothing. -/
theorem throw (fault : Fault) : Expansion.Gives (MonadExcept.throw fault : Expansion β) P := by
  intro left a left' hrun
  cases hrun

/-- A result that does not depend on what is left. -/
theorem ofExcept {result : Except Fault β} (hresult : ∀ b, result = .ok b → P b) :
    Expansion.Gives (liftM result) P := by
  intro left b left' hrun
  cases result with
  | error fault => cases hrun
  | ok b' =>
    cases hrun
    exact hresult b rfl

/-- Nothing is said of what a computation gives. -/
theorem trivial (x : Expansion α) : Expansion.Gives x fun _ => True := fun _ _ _ _ => True.intro

/-- Computations in turn give a list of what each of them gives. -/
theorem mapM {f : α → Expansion β} (as : List α) (hf : ∀ a, Expansion.Gives (f a) P) :
    Expansion.Gives (as.mapM f) fun bs => ∀ b ∈ bs, P b := by
  induction as with
  | nil =>
    rw [List.mapM_nil]
    exact pure (by simp)
  | cons a rest ih =>
    rw [List.mapM_cons]
    refine bind (hf a) fun b hb => bind ih fun bs hbs => pure ?_
    exact List.forall_mem_cons.mpr ⟨hb, hbs⟩

/-- What is given in the end. -/
theorem run' {x : Expansion β} (hx : Expansion.Gives x P) {left : Nat} {b : β}
    (hok : x.run' left = .ok b) : P b := by
  unfold StateT.run' at hok
  cases hrun : x left with
  | error fault =>
    rw [hrun] at hok
    cases hok
  | ok result =>
    rw [hrun] at hok
    cases hok
    exact hx left result.1 result.2 hrun

end Expansion.Gives

/-- What a node stands for repeats no key, whatever its aliases stand for. -/
theorem expand_distinctKeys (targets : List (Nat × Node)) (depth : Nat) (n : Node) :
    Expansion.Gives (expand targets depth n) Tree.DistinctKeys := by
  induction depth using Nat.strongRecOn generalizing n with
  | ind depth ih =>
  unfold expand
  refine .bind (.trivial _) fun n _ => ?_
  split
  · exact .throw _
  · exact .ofExcept fun t hscalar => scalarValue_distinctKeys hscalar
  · next p items =>
    dsimp only
    split
    · exact .bind (.throw _) fun _ h => False.elim h
    · split
      · exact .throw _
      · next depth =>
        have hitems := Expansion.Gives.mapM items fun item => ih depth (by omega) item
        exact hitems.bind fun _ hall => .pure (Tree.distinctKeys_seq.mpr hall)
  · next p entries =>
    dsimp only
    split
    · exact .bind (.throw _) fun _ h => False.elim h
    · split
      · exact .throw _
      · next depth =>
        have hentry : ∀ entry : Node × Node, Expansion.Gives (do
            let key ← keyText targets entry.1
            let value ← expand targets depth entry.2
            Pure.pure (key, value)) fun e => e.2.DistinctKeys := by
          intro entry
          exact .bind (.trivial _) fun key _ => (ih depth (by omega) entry.2).bind
            fun value hvalue => .pure hvalue
        exact (Expansion.Gives.mapM entries hentry).bind fun pairs hpairs =>
          .pure (Tree.distinctKeys_ofPairs hpairs)

/-- The tree of a node repeats no key. -/
theorem toTree_distinctKeys {n : Node} {t : Tree} (hok : n.toTree = .ok t) : t.DistinctKeys :=
  (expand_distinctKeys _ _ _).run' hok

end Node

/-- The documents that tokens make up repeat no key. -/
theorem distinctKeys_of_mem_documentsOf {limit : Nat} {first : Bool}
    {tokens : List (Except Fault Token)} {t : Tree}
    (hmem : .ok t ∈ documentsOf limit first tokens) : t.DistinctKeys := by
  induction limit generalizing first tokens with
  | zero => cases hmem
  | succ limit ih =>
    unfold documentsOf at hmem
    dsimp only at hmem
    split at hmem
    · simp at hmem
    · split at hmem
      · obtain rfl : t = .null := by simpa using hmem
        trivial
      · simp at hmem
    · next value tokens' hdocument =>
      rcases List.mem_cons.mp hmem with hfirst | hrest
      · cases hfirst
        obtain ⟨⟨n, r⟩, -, hdocument⟩ := bind_eq_ok hdocument
        obtain ⟨value, hvalue, hdocument⟩ := bind_eq_ok hdocument
        cases hdocument
        cases n with
        | none => cases hvalue
        | some n =>
          change some <$> n.toTree = .ok (some t) at hvalue
          cases htree : n.toTree with
          | error fault =>
            rw [htree] at hvalue
            cases hvalue
          | ok t' =>
            rw [htree] at hvalue
            cases hvalue
            exact Node.toTree_distinctKeys htree
      · exact ih hrest

/-- No document of a text repeats a key. -/
theorem distinctKeys_of_mem_documents {text : String} {t : Tree} (hmem : .ok t ∈ documents text) :
    t.DistinctKeys :=
  distinctKeys_of_mem_documentsOf hmem

end Yaml

namespace Resource

variable {r r' : Resource}

/-- Another namespace repeats no key. -/
theorem distinctKeys_withNamespace (hr : r.tree.DistinctKeys) (ns : String) :
    (r.withNamespace ns).tree.DistinctKeys := by
  rw [tree, withNamespace, setNamespace]
  split
  · next metadata hmetadata => exact hr.insert _ ((hr.value hmetadata).insert _ trivial)
  · exact hr

/-- Moving texts out of the data repeats no key. -/
theorem distinctKeys_movedOut (hr : r.tree.DistinctKeys) : r.movedOut.tree.DistinctKeys := by
  unfold movedOut
  split
  · next data hdata =>
    obtain ⟨hkeys, hvalues⟩ := Tree.distinctKeys_map.mp (hr.value hdata)
    have hsame : (data.map fun e => (e.1, e.2.movedOut)).map Prod.fst = data.map Prod.fst :=
      List.map_map
    refine hr.insert _ (Tree.distinctKeys_map.mpr ⟨hsame ▸ hkeys, fun e he => ?_⟩)
    obtain ⟨e', he', rfl⟩ := List.mem_map.mp he
    rw [Tree.movedOut]
    split
    · trivial
    · exact hvalues e' he'
  · exact hr

/-- What a rewrite may make of a resource repeats no key. -/
theorem Rewritten.distinctKeys (h : r.Rewritten r') (hr : r.tree.DistinctKeys) :
    r'.tree.DistinctKeys := by
  induction h with
  | same => exact hr
  | referring => exact distinctKeys_withNamespace hr _
  | extracted _ htext ih =>
    rw [(extractText_some htext).1]
    exact distinctKeys_movedOut ih

end Resource

end KubeHcl
