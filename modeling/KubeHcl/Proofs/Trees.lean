import KubeHcl.Proofs.Entries
import KubeHcl.Tree

/-!
# The texts of a document

Changing the texts of a document one by one keeps everything else: its shape, its keys and their
order, and its other values.
-/

namespace KubeHcl.Tree

mutual

/-- The tree with `f` applied to every text that is a value. -/
def mapTexts (f : String → String) : Tree → Tree
  | .text s => .text (f s)
  | .seq items => .seq (mapTextsItems f items)
  | .map entries => .map (mapTextsEntries f entries)
  | t => t

/-- The items of a sequence with `f` applied to every text. -/
def mapTextsItems (f : String → String) : List Tree → List Tree
  | [] => []
  | item :: rest => mapTexts f item :: mapTextsItems f rest

/-- The entries of a mapping with `f` applied to every text that is a value. -/
def mapTextsEntries (f : String → String) : List (String × Tree) → List (String × Tree)
  | [] => []
  | (key, value) :: rest => (key, mapTexts f value) :: mapTextsEntries f rest

end

mutual

/-- The texts that are values of the tree, in order. -/
def texts : Tree → List String
  | .text s => [s]
  | .seq items => textsItems items
  | .map entries => textsEntries entries
  | _ => []

/-- The texts in the items of a sequence. -/
def textsItems : List Tree → List String
  | [] => []
  | item :: rest => texts item ++ textsItems rest

/-- The texts in the values of a mapping. -/
def textsEntries : List (String × Tree) → List String
  | [] => []
  | (_, value) :: rest => texts value ++ textsEntries rest

end

/-- Every entry is changed on its own. -/
theorem mapTextsEntries_eq (f : String → String) (entries : List (String × Tree)) :
    mapTextsEntries f entries = entries.map fun e => (e.1, e.2.mapTexts f) := by
  induction entries with
  | nil => rfl
  | cons entry rest ih => rw [mapTextsEntries, ih, List.map_cons]

mutual

/-- Texts that are changed to themselves change nothing. -/
theorem mapTexts_of_forall {f : String → String} {t : Tree} (hkept : ∀ s ∈ t.texts, f s = s) :
    t.mapTexts f = t := by
  cases t with
  | text s => rw [mapTexts, hkept s (by simp [texts])]
  | seq items => rw [mapTexts, mapTextsItems_of_forall hkept]
  | map entries => rw [mapTexts, mapTextsEntries_of_forall hkept]
  | _ => rfl

theorem mapTextsItems_of_forall {f : String → String} {items : List Tree}
    (hkept : ∀ s ∈ textsItems items, f s = s) : mapTextsItems f items = items := by
  cases items with
  | nil => rfl
  | cons item rest =>
    simp only [textsItems, List.mem_append] at hkept
    rw [mapTextsItems, mapTexts_of_forall fun s hs => hkept s (.inl hs),
      mapTextsItems_of_forall fun s hs => hkept s (.inr hs)]

theorem mapTextsEntries_of_forall {f : String → String} {entries : List (String × Tree)}
    (hkept : ∀ s ∈ textsEntries entries, f s = s) : mapTextsEntries f entries = entries := by
  cases entries with
  | nil => rfl
  | cons entry rest =>
    obtain ⟨key, value⟩ := entry
    simp only [textsEntries, List.mem_append] at hkept
    rw [mapTextsEntries, mapTexts_of_forall fun s hs => hkept s (.inl hs),
      mapTextsEntries_of_forall fun s hs => hkept s (.inr hs)]

end

mutual

/-- Changing texts twice changes each of them twice. -/
theorem mapTexts_mapTexts (f g : String → String) (t : Tree) :
    (t.mapTexts f).mapTexts g = t.mapTexts (g ∘ f) := by
  cases t with
  | seq items => simp only [mapTexts, mapTextsItems_mapTextsItems f g items]
  | map entries => simp only [mapTexts, mapTextsEntries_mapTextsEntries f g entries]
  | _ => rfl

theorem mapTextsItems_mapTextsItems (f g : String → String) (items : List Tree) :
    mapTextsItems g (mapTextsItems f items) = mapTextsItems (g ∘ f) items := by
  cases items with
  | nil => rfl
  | cons item rest =>
    simp only [mapTextsItems, mapTexts_mapTexts f g item, mapTextsItems_mapTextsItems f g rest]

theorem mapTextsEntries_mapTextsEntries (f g : String → String) (entries : List (String × Tree)) :
    mapTextsEntries g (mapTextsEntries f entries) = mapTextsEntries (g ∘ f) entries := by
  cases entries with
  | nil => rfl
  | cons entry rest =>
    simp only [mapTextsEntries, mapTexts_mapTexts f g entry.2,
      mapTextsEntries_mapTextsEntries f g rest]

end

mutual

/-- Whether two trees are the same. -/
def beq : Tree → Tree → Bool
  | .null, .null => true
  | .bool a, .bool b => a == b
  | .int a, .int b => a == b
  | .float a, .float b => a == b
  | .text a, .text b => a == b
  | .seq a, .seq b => beqItems a b
  | .map a, .map b => beqEntries a b
  | _, _ => false

/-- Whether two sequences have the same items. -/
def beqItems : List Tree → List Tree → Bool
  | [], [] => true
  | a :: as, b :: bs => beq a b && beqItems as bs
  | _, _ => false

/-- Whether two mappings have the same entries in the same order. -/
def beqEntries : List (String × Tree) → List (String × Tree) → Bool
  | [], [] => true
  | (k, a) :: as, (l, b) :: bs => k == l && beq a b && beqEntries as bs
  | _, _ => false

end

mutual

theorem beq_iff (a b : Tree) : beq a b = true ↔ a = b := by
  cases a with
  | seq as => cases b <;> simp [beq, beqItems_iff as]
  | map as => cases b <;> simp [beq, beqEntries_iff as]
  | _ => cases b <;> simp [beq]

theorem beqItems_iff (as bs : List Tree) : beqItems as bs = true ↔ as = bs := by
  cases as with
  | nil => cases bs <;> simp [beqItems]
  | cons a as => cases bs <;> simp [beqItems, beq_iff a, beqItems_iff as]

theorem beqEntries_iff (as bs : List (String × Tree)) : beqEntries as bs = true ↔ as = bs := by
  cases as with
  | nil => cases bs <;> simp [beqEntries]
  | cons a as =>
    cases bs with
    | nil => simp [beqEntries]
    | cons b bs => simp [beqEntries, beq_iff a.2, beqEntries_iff as, Prod.ext_iff]

end

instance : DecidableEq Tree := fun a b => decidable_of_iff (beq a b = true) (beq_iff a b)

end KubeHcl.Tree
