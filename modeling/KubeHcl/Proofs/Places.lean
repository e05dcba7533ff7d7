import KubeHcl.Proofs.DistinctKeys
import KubeHcl.Proofs.Normalization
import KubeHcl.Proofs.Trees
import Mathlib.Data.List.Basic

/-!
# Texts and their places

A rewrite looks at where a text stands, and the substitution only at what the text is. To compare
them, texts are changed and written here as a function says for each place. Writing a document and
reading it changes no text and no place, so what is said of the texts of a document is said of those
of its manifest.
-/

namespace KubeHcl

namespace Tree

/-- A step down in a tree. All items of a sequence are alike. -/
inductive Step where
  /-- To the value of a key. -/
  | key (name : String)
  /-- To an item. -/
  | item
  deriving DecidableEq, Repr

/-- Where a text stands in a tree: the steps that lead there. -/
abbrev Place := List Step

mutual

/-- The tree with every text that is a value changed as `f` says for its place. -/
def mapTextsAt (f : Place → String → String) : Tree → Tree
  | .text s => .text (f [] s)
  | .seq items => .seq (mapItemsAt (fun place => f (.item :: place)) items)
  | .map entries => .map (mapEntriesAt f entries)
  | t => t

/-- The items of a sequence with every text changed. -/
def mapItemsAt (f : Place → String → String) : List Tree → List Tree
  | [] => []
  | item :: rest => mapTextsAt f item :: mapItemsAt f rest

/-- The entries of a mapping with every text that is a value changed. -/
def mapEntriesAt (f : Place → String → String) : List (String × Tree) → List (String × Tree)
  | [] => []
  | (key, value) :: rest =>
    (key, mapTextsAt (fun place => f (.key key :: place)) value) :: mapEntriesAt f rest

end

mutual

/-- The texts that are values of the tree, in order and with their places. -/
def textsAt : Tree → List (Place × String)
  | .text s => [([], s)]
  | .seq items => (textsAtItems items).map (Prod.map (.item :: ·) id)
  | .map entries => textsAtEntries entries
  | _ => []

/-- The texts in the items of a sequence, with their places there. -/
def textsAtItems : List Tree → List (Place × String)
  | [] => []
  | item :: rest => textsAt item ++ textsAtItems rest

/-- The texts in the values of a mapping, with their places. -/
def textsAtEntries : List (String × Tree) → List (Place × String)
  | [] => []
  | (key, value) :: rest =>
    (textsAt value).map (Prod.map (.key key :: ·) id) ++ textsAtEntries rest

end

/-- Every entry is changed on its own. -/
theorem mapEntriesAt_eq (f : Place → String → String) (entries : List (String × Tree)) :
    mapEntriesAt f entries =
      entries.map fun e => (e.1, e.2.mapTextsAt fun place => f (.key e.1 :: place)) := by
  induction entries with
  | nil => rfl
  | cons entry rest ih => rw [mapEntriesAt, ih, List.map_cons]

mutual

/-- Texts that are changed to themselves in their places change nothing. -/
theorem mapTextsAt_of_forall {f : Place → String → String} {t : Tree}
    (hkept : ∀ e ∈ t.textsAt, f e.1 e.2 = e.2) : t.mapTextsAt f = t := by
  cases t with
  | text s => rw [mapTextsAt, hkept ([], s) (by simp [textsAt])]
  | seq items =>
    rw [textsAt, List.forall_mem_map] at hkept
    rw [mapTextsAt, mapItemsAt_of_forall hkept]
  | map entries => rw [mapTextsAt, mapEntriesAt_of_forall hkept]
  | _ => rfl

theorem mapItemsAt_of_forall {f : Place → String → String} {items : List Tree}
    (hkept : ∀ e ∈ textsAtItems items, f e.1 e.2 = e.2) : mapItemsAt f items = items := by
  cases items with
  | nil => rfl
  | cons item rest =>
    rw [textsAtItems, List.forall_mem_append] at hkept
    rw [mapItemsAt, mapTextsAt_of_forall hkept.1, mapItemsAt_of_forall hkept.2]

theorem mapEntriesAt_of_forall {f : Place → String → String} {entries : List (String × Tree)}
    (hkept : ∀ e ∈ textsAtEntries entries, f e.1 e.2 = e.2) :
    mapEntriesAt f entries = entries := by
  cases entries with
  | nil => rfl
  | cons entry rest =>
    obtain ⟨key, value⟩ := entry
    rw [textsAtEntries, List.forall_mem_append, List.forall_mem_map] at hkept
    rw [mapEntriesAt, mapTextsAt_of_forall hkept.1, mapEntriesAt_of_forall hkept.2]

end

mutual

/-- Changing texts twice changes each of them twice in its place. -/
theorem mapTextsAt_mapTextsAt (f g : Place → String → String) (t : Tree) :
    (t.mapTextsAt f).mapTextsAt g = t.mapTextsAt fun place s => g place (f place s) := by
  cases t with
  | seq items => simp only [mapTextsAt, mapItemsAt_mapItemsAt _ _ items]
  | map entries => simp only [mapTextsAt, mapEntriesAt_mapEntriesAt f g entries]
  | _ => rfl

theorem mapItemsAt_mapItemsAt (f g : Place → String → String) (items : List Tree) :
    mapItemsAt g (mapItemsAt f items) = mapItemsAt (fun place s => g place (f place s)) items := by
  cases items with
  | nil => rfl
  | cons item rest =>
    simp only [mapItemsAt, mapTextsAt_mapTextsAt f g item, mapItemsAt_mapItemsAt f g rest]

theorem mapEntriesAt_mapEntriesAt (f g : Place → String → String)
    (entries : List (String × Tree)) :
    mapEntriesAt g (mapEntriesAt f entries) =
      mapEntriesAt (fun place s => g place (f place s)) entries := by
  cases entries with
  | nil => rfl
  | cons entry rest =>
    simp only [mapEntriesAt, mapTextsAt_mapTextsAt _ _ entry.2,
      mapEntriesAt_mapEntriesAt f g rest]

end

mutual

/-- Changing texts changes no place. -/
theorem textsAt_mapTextsAt (f : Place → String → String) (t : Tree) :
    (t.mapTextsAt f).textsAt = t.textsAt.map fun e => (e.1, f e.1 e.2) := by
  cases t with
  | seq items =>
    rw [mapTextsAt, textsAt, textsAt, textsAtItems_mapItemsAt _ items, List.map_map, List.map_map]
    rfl
  | map entries => rw [mapTextsAt, textsAt, textsAt, textsAtEntries_mapEntriesAt f entries]
  | _ => rfl

theorem textsAtItems_mapItemsAt (f : Place → String → String) (items : List Tree) :
    textsAtItems (mapItemsAt f items) =
      (textsAtItems items).map fun e => (e.1, f e.1 e.2) := by
  cases items with
  | nil => rfl
  | cons item rest =>
    rw [mapItemsAt, textsAtItems, textsAtItems, textsAt_mapTextsAt f item,
      textsAtItems_mapItemsAt f rest, List.map_append]

theorem textsAtEntries_mapEntriesAt (f : Place → String → String)
    (entries : List (String × Tree)) :
    textsAtEntries (mapEntriesAt f entries) =
      (textsAtEntries entries).map fun e => (e.1, f e.1 e.2) := by
  cases entries with
  | nil => rfl
  | cons entry rest =>
    obtain ⟨key, value⟩ := entry
    rw [mapEntriesAt, textsAtEntries, textsAtEntries, textsAt_mapTextsAt _ value,
      textsAtEntries_mapEntriesAt f rest, List.map_append, List.map_map, List.map_map]
    rfl

end

/-- The text in a place is what the one that was there is changed to. -/
theorem mem_textsAt_mapTextsAt {f : Place → String → String} {t : Tree} {place : Place}
    {s : String} :
    (place, s) ∈ (t.mapTextsAt f).textsAt ↔ ∃ s', (place, s') ∈ t.textsAt ∧ f place s' = s := by
  rw [textsAt_mapTextsAt, List.mem_map]
  constructor
  · rintro ⟨⟨place', s'⟩, hmem, heq⟩
    obtain ⟨rfl, hs⟩ := Prod.mk.inj heq
    exact ⟨s', hmem, hs⟩
  · rintro ⟨s', hmem, rfl⟩
    exact ⟨(place, s'), hmem, rfl⟩

mutual

/-- Without their places, the texts are those of the tree. -/
theorem map_snd_textsAt (t : Tree) : t.textsAt.map Prod.snd = t.texts := by
  cases t with
  | seq items => rw [textsAt, texts, List.map_map, ← map_snd_textsAtItems items]; rfl
  | map entries => exact map_snd_textsAtEntries entries
  | _ => rfl

theorem map_snd_textsAtItems (items : List Tree) :
    (textsAtItems items).map Prod.snd = textsItems items := by
  cases items with
  | nil => rfl
  | cons item rest =>
    rw [textsAtItems, textsItems, List.map_append, map_snd_textsAt item,
      map_snd_textsAtItems rest]

theorem map_snd_textsAtEntries (entries : List (String × Tree)) :
    (textsAtEntries entries).map Prod.snd = textsEntries entries := by
  cases entries with
  | nil => rfl
  | cons entry rest =>
    obtain ⟨key, value⟩ := entry
    rw [textsAtEntries, textsEntries, List.map_append, List.map_map, ← map_snd_textsAt value,
      map_snd_textsAtEntries rest]
    rfl

end

/-- A text of a mapping is one of the value of some key. -/
theorem mem_textsAt_map {entries : List (String × Tree)} {e : Place × String} :
    e ∈ (map entries).textsAt ↔
      ∃ entry ∈ entries, ∃ below ∈ entry.2.textsAt, e = (.key entry.1 :: below.1, below.2) := by
  rw [textsAt]
  induction entries with
  | nil => simp [textsAtEntries]
  | cons entry rest ih =>
    obtain ⟨key, value⟩ := entry
    rw [textsAtEntries, List.mem_append, ih, List.mem_map, List.exists_mem_cons_iff]
    exact or_congr_left (exists_congr fun below => and_congr_right fun _ => eq_comm)

/-- Where no key is repeated, the texts below a key are those of its value. -/
theorem mem_textsAt_key {entries : List (String × Tree)} {key : String} {place : Place}
    {s : String} (hkeys : (map entries).DistinctKeys) :
    (.key key :: place, s) ∈ (map entries).textsAt ↔
      ∃ value, Entries.find? key entries = some value ∧ (place, s) ∈ value.textsAt := by
  obtain ⟨hnodup, -⟩ := distinctKeys_map.mp hkeys
  rw [mem_textsAt_map]
  constructor
  · rintro ⟨entry, hentry, below, hbelow, heq⟩
    cases heq
    exact ⟨entry.2, Entries.find?_of_mem hnodup hentry, hbelow⟩
  · rintro ⟨value, hfound, hmem⟩
    exact ⟨(key, value), Entries.mem_of_find? hfound, (place, s), hmem, rfl⟩

/-- A tree with a text in the place of the root is this text. -/
theorem eq_text_of_mem_textsAt {t : Tree} {s : String} (hmem : ([], s) ∈ t.textsAt) :
    t = .text s := by
  cases t with
  | text s' =>
    obtain rfl : s = s' := by simpa [textsAt] using hmem
    rfl
  | seq items =>
    obtain ⟨below, -, hplace⟩ := List.mem_map.mp hmem
    cases hplace
  | map entries =>
    obtain ⟨entry, -, below, -, hplace⟩ := mem_textsAt_map.mp hmem
    cases hplace
  | _ => cases hmem

section Reread

/-- A number is no text. -/
theorem mapTextsAt_read (f : Place → String → String) (l : Json.Literal) :
    l.read.toOption.map (mapTextsAt f) = l.read.toOption := by
  cases hread : l.read with
  | error fault => rfl
  | ok t => rcases Json.Literal.read_eq_number hread with ⟨n, rfl⟩ | ⟨x, rfl⟩ <;> rfl

mutual

/-- It makes no difference whether texts are changed before a tree is written and read or after. -/
theorem reread?_mapTextsAt (f : Place → String → String) (depth : Nat) (t : Tree) :
    (t.mapTextsAt f).reread? depth = (t.reread? depth).map (mapTextsAt f) := by
  cases t with
  | int n => exact (mapTextsAt_read f _).symm
  | float x => exact (mapTextsAt_read f _).symm
  | seq items =>
    cases depth with
    | zero => rfl
    | succ depth =>
      rw [mapTextsAt, reread?, reread?, rereadItems?_mapItemsAt _ depth items]
      cases rereadItems? depth items <;> rfl
  | map entries =>
    cases depth with
    | zero => rfl
    | succ depth =>
      rw [mapTextsAt, reread?, reread?, rereadEntries?_mapEntriesAt _ depth entries]
      cases rereadEntries? depth entries with
      | none => rfl
      | some entries =>
        simp only [Option.map_some, ofPairs, mapTextsAt, mapEntriesAt_eq]
        rw [Entries.ofList_map fun key value =>
          mapTextsAt (fun place => f (.key key :: place)) value]
  | _ => rfl

theorem rereadItems?_mapItemsAt (f : Place → String → String) (depth : Nat) (items : List Tree) :
    rereadItems? depth (mapItemsAt f items) = (rereadItems? depth items).map (mapItemsAt f) := by
  cases items with
  | nil => rfl
  | cons item rest =>
    rw [mapItemsAt, rereadItems?, rereadItems?, reread?_mapTextsAt f depth item,
      rereadItems?_mapItemsAt f depth rest]
    cases reread? depth item <;> cases rereadItems? depth rest <;> rfl

theorem rereadEntries?_mapEntriesAt (f : Place → String → String) (depth : Nat)
    (entries : List (String × Tree)) :
    rereadEntries? depth (mapEntriesAt f entries) =
      (rereadEntries? depth entries).map (mapEntriesAt f) := by
  cases entries with
  | nil => rfl
  | cons entry rest =>
    obtain ⟨key, value⟩ := entry
    rw [mapEntriesAt, rereadEntries?, rereadEntries?, reread?_mapTextsAt _ depth value,
      rereadEntries?_mapEntriesAt f depth rest]
    cases reread? depth value <;> cases rereadEntries? depth rest <;> rfl

end

/-- The keys of entries stay when their values are written and read. -/
theorem rereadEntries?_keys {depth : Nat} {entries entries' : List (String × Tree)}
    (hread : rereadEntries? depth entries = some entries') :
    entries'.map Prod.fst = entries.map Prod.fst := by
  induction entries generalizing entries' with
  | nil =>
    cases hread
    rfl
  | cons entry rest ih =>
    obtain ⟨key, value⟩ := entry
    obtain ⟨first, hfirst, hread⟩ := Option.bind_eq_some_iff.mp hread
    obtain ⟨others, hothers, hread⟩ := Option.bind_eq_some_iff.mp hread
    obtain ⟨value', -, rfl⟩ := Option.map_eq_some_iff.mp hfirst
    cases hread
    rw [List.map_cons, List.map_cons, ih hothers]

mutual

/-- Where no key is repeated, writing and reading keeps every text and its place. -/
theorem textsAt_of_reread? {depth : Nat} {t t' : Tree} (hkeys : t.DistinctKeys)
    (hread : t.reread? depth = some t') : t'.textsAt = t.textsAt := by
  have hnumber : ∀ {l : Json.Literal}, l.read.toOption = some t' → t'.textsAt = [] := by
    intro l hread
    cases hvalue : l.read with
    | error fault =>
      rw [hvalue] at hread
      cases hread
    | ok value =>
      rw [hvalue] at hread
      cases hread
      rcases Json.Literal.read_eq_number hvalue with ⟨n, rfl⟩ | ⟨x, rfl⟩ <;> rfl
  cases t with
  | int n => exact hnumber hread
  | float x => exact hnumber hread
  | seq items =>
    cases depth with
    | zero => cases hread
    | succ depth =>
      obtain ⟨items', hitems, rfl⟩ := Option.map_eq_some_iff.mp hread
      rw [textsAt, textsAt, textsAtItems_of_reread? hkeys hitems]
  | map entries =>
    cases depth with
    | zero => cases hread
    | succ depth =>
      obtain ⟨entries', hentries, rfl⟩ := Option.map_eq_some_iff.mp hread
      obtain ⟨hnodup, hvalues⟩ := hkeys
      rw [← rereadEntries?_keys hentries] at hnodup
      rw [ofPairs, Entries.ofList_of_nodup hnodup, textsAt, textsAt,
        textsAtEntries_of_reread? hvalues hentries]
  | _ =>
    cases hread
    rfl

theorem textsAtItems_of_reread? {depth : Nat} {items items' : List Tree}
    (hkeys : DistinctKeysItems items) (hread : rereadItems? depth items = some items') :
    textsAtItems items' = textsAtItems items := by
  cases items with
  | nil =>
    cases hread
    rfl
  | cons item rest =>
    obtain ⟨first, hfirst, hread⟩ := Option.bind_eq_some_iff.mp hread
    obtain ⟨others, hothers, hread⟩ := Option.bind_eq_some_iff.mp hread
    cases hread
    rw [textsAtItems, textsAtItems, textsAt_of_reread? hkeys.1 hfirst,
      textsAtItems_of_reread? hkeys.2 hothers]

theorem textsAtEntries_of_reread? {depth : Nat} {entries entries' : List (String × Tree)}
    (hkeys : DistinctKeysEntries entries) (hread : rereadEntries? depth entries = some entries') :
    textsAtEntries entries' = textsAtEntries entries := by
  cases entries with
  | nil =>
    cases hread
    rfl
  | cons entry rest =>
    obtain ⟨key, value⟩ := entry
    obtain ⟨first, hfirst, hread⟩ := Option.bind_eq_some_iff.mp hread
    obtain ⟨others, hothers, hread⟩ := Option.bind_eq_some_iff.mp hread
    obtain ⟨value', hvalue, rfl⟩ := Option.map_eq_some_iff.mp hfirst
    cases hread
    rw [textsAtEntries, textsAtEntries, textsAt_of_reread? hkeys.1 hvalue,
      textsAtEntries_of_reread? hkeys.2 hothers]

end

end Reread

end Tree

namespace Hcl.Expression

mutual

/-- The expression of a tree with every text written as `f` says for its place. -/
def ofTreeAt (f : Tree.Place → String → Expression) : Tree → Expression
  | .null => .null
  | .bool b => .bool b
  | .int n => .int n
  | .float x => .float x
  | .text s => f [] s
  | .seq items => .array (ofItemsAt (fun place => f (.item :: place)) items)
  | .map entries => .object (ofEntriesAt f entries)

/-- The expressions of the items of a sequence. -/
def ofItemsAt (f : Tree.Place → String → Expression) : List Tree → List Expression
  | [] => []
  | item :: rest => ofTreeAt f item :: ofItemsAt f rest

/-- The expressions of the entries of a mapping. Keys become quoted text. -/
def ofEntriesAt (f : Tree.Place → String → Expression) :
    List (String × Tree) → List (Expression × Expression)
  | [] => []
  | (key, value) :: rest =>
    (.text key, ofTreeAt (fun place => f (.key key :: place)) value) :: ofEntriesAt f rest

end

mutual

/-- Two ways to write the texts of a tree give the same expression exactly when they write each of
its texts alike. -/
theorem ofTreeAt_eq_iff {f g : Tree.Place → String → Expression} (t : Tree) :
    ofTreeAt f t = ofTreeAt g t ↔ ∀ e ∈ t.textsAt, f e.1 e.2 = g e.1 e.2 := by
  cases t with
  | text s => simp [ofTreeAt, Tree.textsAt]
  | seq items =>
    rw [ofTreeAt, ofTreeAt, array.injEq, ofItemsAt_eq_iff items, Tree.textsAt, List.forall_mem_map]
    rfl
  | map entries =>
    rw [ofTreeAt, ofTreeAt, object.injEq, ofEntriesAt_eq_iff entries, Tree.textsAt]
  | _ => simp [ofTreeAt, Tree.textsAt]

theorem ofItemsAt_eq_iff {f g : Tree.Place → String → Expression} (items : List Tree) :
    ofItemsAt f items = ofItemsAt g items ↔
      ∀ e ∈ Tree.textsAtItems items, f e.1 e.2 = g e.1 e.2 := by
  cases items with
  | nil => simp [ofItemsAt, Tree.textsAtItems]
  | cons item rest =>
    rw [ofItemsAt, ofItemsAt, List.cons.injEq, ofTreeAt_eq_iff item, ofItemsAt_eq_iff rest,
      Tree.textsAtItems, List.forall_mem_append]

theorem ofEntriesAt_eq_iff {f g : Tree.Place → String → Expression}
    (entries : List (String × Tree)) :
    ofEntriesAt f entries = ofEntriesAt g entries ↔
      ∀ e ∈ Tree.textsAtEntries entries, f e.1 e.2 = g e.1 e.2 := by
  cases entries with
  | nil => simp [ofEntriesAt, Tree.textsAtEntries]
  | cons entry rest =>
    obtain ⟨key, value⟩ := entry
    rw [ofEntriesAt, ofEntriesAt, List.cons.injEq, Prod.mk.injEq, ofTreeAt_eq_iff value,
      ofEntriesAt_eq_iff rest, Tree.textsAtEntries, List.forall_mem_append, List.forall_mem_map]
    simp only [true_and]
    rfl

end

mutual

/-- With every text written as a literal it is the expression that the tree is written as. -/
theorem ofTreeAt_text (t : Tree) : ofTreeAt (fun _ s => .text s) t = ofTree t := by
  cases t with
  | seq items => rw [ofTreeAt, ofTree, ofItemsAt_text items]
  | map entries => rw [ofTreeAt, ofTree, ofEntriesAt_text entries]
  | _ => rfl

theorem ofItemsAt_text (items : List Tree) :
    ofItemsAt (fun _ s => .text s) items = ofItems items := by
  cases items with
  | nil => rfl
  | cons item rest => rw [ofItemsAt, ofItems, ofTreeAt_text item, ofItemsAt_text rest]

theorem ofEntriesAt_text (entries : List (String × Tree)) :
    ofEntriesAt (fun _ s => .text s) entries = ofEntries entries := by
  cases entries with
  | nil => rfl
  | cons entry rest =>
    obtain ⟨key, value⟩ := entry
    rw [ofEntriesAt, ofEntries, ofTreeAt_text value, ofEntriesAt_text rest]

end

end Hcl.Expression

namespace Placeholders

open Hcl (Expression)

mutual

/-- With placeholders put in place of tokens after texts were changed, every text is written as what
the changed one gives way to. -/
theorem substitute_mapTextsAt (placeholders : Placeholders) (f : Tree.Place → String → String)
    (t : Tree) :
    placeholders.substitute (.ofTree (t.mapTextsAt f)) =
      .ofTreeAt (fun place s => placeholders.replaceText (f place s)) t := by
  cases t with
  | seq items =>
    rw [Tree.mapTextsAt, Expression.ofTree, substitute, Expression.ofTreeAt,
      substituteItems_mapItemsAt placeholders _ items]
  | map entries =>
    rw [Tree.mapTextsAt, Expression.ofTree, substitute, Expression.ofTreeAt,
      substituteEntries_mapEntriesAt placeholders _ entries]
  | _ => rfl

theorem substituteItems_mapItemsAt (placeholders : Placeholders)
    (f : Tree.Place → String → String) (items : List Tree) :
    placeholders.substituteItems (Expression.ofItems (Tree.mapItemsAt f items)) =
      Expression.ofItemsAt (fun place s => placeholders.replaceText (f place s)) items := by
  cases items with
  | nil => rfl
  | cons item rest =>
    rw [Tree.mapItemsAt, Expression.ofItems, substituteItems, Expression.ofItemsAt,
      substitute_mapTextsAt placeholders f item, substituteItems_mapItemsAt placeholders f rest]

theorem substituteEntries_mapEntriesAt (placeholders : Placeholders)
    (f : Tree.Place → String → String) (entries : List (String × Tree)) :
    placeholders.substituteEntries (Expression.ofEntries (Tree.mapEntriesAt f entries)) =
      Expression.ofEntriesAt (fun place s => placeholders.replaceText (f place s)) entries := by
  cases entries with
  | nil => rfl
  | cons entry rest =>
    obtain ⟨key, value⟩ := entry
    rw [Tree.mapEntriesAt, Expression.ofEntries, substituteEntries, Expression.ofEntriesAt,
      substitute_mapTextsAt placeholders _ value,
      substituteEntries_mapEntriesAt placeholders f rest]

end

end Placeholders

end KubeHcl
