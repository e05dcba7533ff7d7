import KubeHcl.Entries

/-!
# Dictionaries and changes of their values

What is found in a dictionary after a key was set or after every value was changed, and which of its
entries that leaves.
-/

namespace KubeHcl

/-- Among items with distinct keys, the first with the key of an item is that item. -/
theorem find?_of_nodup_map {κ α : Type} [DecidableEq κ] {key : α → κ} {items : List α} {a : α}
    (hnodup : (items.map key).Nodup) (hmem : a ∈ items) :
    items.find? (fun b => key b = key a) = some a := by
  induction items with
  | nil => cases hmem
  | cons b rest ih =>
    rw [List.map_cons, List.nodup_cons] at hnodup
    rcases List.mem_cons.mp hmem with rfl | hrest
    · simp
    · have hne : key b ≠ key a := by
        intro hkey
        exact hnodup.1 (hkey ▸ List.mem_map_of_mem hrest)
      rw [List.find?_cons_of_neg (by simpa using hne), ih hnodup.2 hrest]

namespace Entries

variable {κ α β : Type} [DecidableEq κ]

/-- A key is found exactly when it is among the keys. -/
theorem find?_isSome_iff {key : κ} {entries : List (κ × α)} :
    (find? key entries).isSome = true ↔ key ∈ entries.map Prod.fst := by
  induction entries with
  | nil => simp [find?]
  | cons entry rest ih =>
    by_cases hkey : entry.1 = key
    · simp [find?, hkey]
    · simp [find?, hkey, ih, Ne.symm hkey]

/-- Setting a key to the value it has changes nothing. -/
theorem insert_of_find? {key : κ} {value : α} {entries : List (κ × α)}
    (hfound : find? key entries = some value) : insert key value entries = entries := by
  induction entries with
  | nil => cases hfound
  | cons entry rest ih =>
    obtain ⟨k, v⟩ := entry
    by_cases hkey : k = key
    · simp only [find?, hkey, if_true, Option.some.injEq] at hfound
      simp only [insert, hkey, if_true, hfound]
    · simp only [find?, hkey, if_false] at hfound
      simp only [insert, hkey, if_false, ih hfound]

/-- What a dictionary has after a key was set, it had before, or it is the new entry. -/
theorem mem_insert {key : κ} {value : α} {entries : List (κ × α)} {entry : κ × α}
    (hmem : entry ∈ insert key value entries) : entry ∈ entries ∨ entry = (key, value) := by
  induction entries with
  | nil => simpa [insert] using hmem
  | cons first rest ih =>
    by_cases hkey : first.1 = key
    · simp only [insert, hkey, if_true, List.mem_cons] at hmem
      rcases hmem with rfl | hmem
      · exact .inr rfl
      · exact .inl (List.mem_cons_of_mem _ hmem)
    · simp only [insert, hkey, if_false, List.mem_cons] at hmem
      rcases hmem with rfl | hmem
      · exact .inl List.mem_cons_self
      · exact (ih hmem).imp_left (List.mem_cons_of_mem _)

/-- After a key was set, the keys are those before and that one. -/
theorem mem_map_fst_insert {key other : κ} {value : α} {entries : List (κ × α)} :
    other ∈ (insert key value entries).map Prod.fst ↔
      other ∈ entries.map Prod.fst ∨ other = key := by
  rw [map_fst_insert]
  split
  · next hmem =>
    refine (or_iff_left_of_imp ?_).symm
    rintro rfl
    exact hmem
  · rw [List.mem_append, List.mem_singleton]

/-- What is found is an entry. -/
theorem mem_of_find? {key : κ} {value : α} {entries : List (κ × α)}
    (hfound : find? key entries = some value) : (key, value) ∈ entries := by
  induction entries with
  | nil => cases hfound
  | cons entry rest ih =>
    obtain ⟨k, v⟩ := entry
    by_cases hkey : k = key
    · simp only [find?, hkey, if_true, Option.some.injEq] at hfound
      rw [hkey, hfound]
      exact List.mem_cons_self
    · simp only [find?, hkey, if_false] at hfound
      exact List.mem_cons_of_mem _ (ih hfound)

/-- Where no key is repeated, every entry is found. -/
theorem find?_of_mem {key : κ} {value : α} {entries : List (κ × α)}
    (hnodup : (entries.map Prod.fst).Nodup) (hmem : (key, value) ∈ entries) :
    find? key entries = some value := by
  induction entries with
  | nil => cases hmem
  | cons entry rest ih =>
    rw [List.map_cons, List.nodup_cons] at hnodup
    rcases List.mem_cons.mp hmem with rfl | hrest
    · simp [find?]
    · have hne : entry.1 ≠ key := by
        rintro rfl
        exact hnodup.1 (List.mem_map.mpr ⟨_, hrest, rfl⟩)
      rw [find?, if_neg hne, ih hnodup.2 hrest]

/-- The order of entries does not matter where no key is repeated. -/
theorem find?_perm {entries entries' : List (κ × α)} (hnodup : (entries.map Prod.fst).Nodup)
    (hperm : entries.Perm entries') (key : κ) : find? key entries' = find? key entries := by
  have hnodup' : (entries'.map Prod.fst).Nodup := (hperm.map Prod.fst).nodup_iff.mp hnodup
  refine Option.ext fun value => ?_
  constructor
  · exact fun hfound => find?_of_mem hnodup (hperm.mem_iff.mpr (mem_of_find? hfound))
  · exact fun hfound => find?_of_mem hnodup' (hperm.mem_iff.mp (mem_of_find? hfound))

/-- A change of every value is found under the same keys. -/
theorem find?_map (f : α → β) (key : κ) (entries : List (κ × α)) :
    find? key (entries.map fun e => (e.1, f e.2)) = (find? key entries).map f := by
  induction entries with
  | nil => rfl
  | cons entry rest ih => by_cases hkey : entry.1 = key <;> simp [find?, hkey, ih]

/-- Setting a key and changing every value, as its key says, go together. -/
theorem map_insert_key (f : κ → α → β) (key : κ) (value : α) (entries : List (κ × α)) :
    (insert key value entries).map (fun e => (e.1, f e.1 e.2)) =
      insert key (f key value) (entries.map fun e => (e.1, f e.1 e.2)) := by
  induction entries with
  | nil => rfl
  | cons entry rest ih => by_cases hkey : entry.1 = key <;> simp [insert, hkey, ih]

/-- Setting a key and changing every value go together. -/
theorem map_insert (f : α → β) (key : κ) (value : α) (entries : List (κ × α)) :
    (insert key value entries).map (fun e => (e.1, f e.2)) =
      insert key (f value) (entries.map fun e => (e.1, f e.2)) :=
  map_insert_key (fun _ => f) key value entries

/-- A key that is not there goes to the end. -/
theorem insert_of_not_mem {key : κ} {entries : List (κ × α)} (hnew : key ∉ entries.map Prod.fst)
    (value : α) : insert key value entries = entries ++ [(key, value)] := by
  induction entries with
  | nil => rfl
  | cons entry rest ih =>
    rw [List.map_cons, List.mem_cons, not_or] at hnew
    rw [insert, if_neg (Ne.symm hnew.1), ih hnew.2, List.cons_append]

/-- Where no key is repeated, setting a key that is there changes its value and no other. -/
theorem insert_eq_map {key : κ} {value : α} {entries : List (κ × α)}
    (hnodup : (entries.map Prod.fst).Nodup) (hmem : key ∈ entries.map Prod.fst) :
    insert key value entries = entries.map fun e => (e.1, if e.1 = key then value else e.2) := by
  induction entries with
  | nil => cases hmem
  | cons entry rest ih =>
    rw [List.map_cons, List.nodup_cons] at hnodup
    obtain ⟨k, v⟩ := entry
    by_cases hkey : k = key
    · have hother : ∀ e ∈ rest, (e.1, if e.1 = key then value else e.2) = e := by
        intro e he
        have hne : e.1 ≠ key := by
          intro heq
          exact hnodup.1 (List.mem_map.mpr ⟨e, he, heq.trans hkey.symm⟩)
        rw [if_neg hne]
      have hrest : rest.map (fun e => (e.1, if e.1 = key then value else e.2)) = rest :=
        (List.map_congr_left hother).trans (List.map_id' rest)
      rw [insert, if_pos hkey, List.map_cons, if_pos hkey, hrest]
    · have hmem' : key ∈ rest.map Prod.fst := by
        rw [List.map_cons, List.mem_cons] at hmem
        exact hmem.resolve_left (Ne.symm hkey)
      rw [insert, if_neg hkey, List.map_cons, if_neg hkey, ih hnodup.2 hmem']

/-- Setting a key repeats none. -/
theorem nodup_insert {entries : List (κ × α)} (hnodup : (entries.map Prod.fst).Nodup) (key : κ)
    (value : α) : ((insert key value entries).map Prod.fst).Nodup := by
  rw [map_fst_insert]
  split
  · exact hnodup
  · next hnew =>
    refine List.nodup_append.mpr ⟨hnodup, by simp, ?_⟩
    intro k hk k' hk' heq
    rw [List.mem_singleton.mp hk'] at heq
    exact hnew (heq ▸ hk)

section OfList

/-- The entries after each of `pairs` was set in turn. -/
def insertAll (entries pairs : List (κ × α)) : List (κ × α) :=
  pairs.foldl (fun entries (key, value) => insert key value entries) entries

/-- What is set up from pairs has no key twice and no entry that is not among the pairs. -/
theorem ofList_spec (pairs : List (κ × α)) :
    ((ofList pairs).map Prod.fst).Nodup ∧ ∀ e ∈ ofList pairs, e ∈ pairs := by
  have hfrom : ∀ entries : List (κ × α), (entries.map Prod.fst).Nodup →
      ((insertAll entries pairs).map Prod.fst).Nodup ∧
        ∀ e ∈ insertAll entries pairs, e ∈ entries ∨ e ∈ pairs := by
    induction pairs with
    | nil => exact fun entries hnodup => ⟨hnodup, fun e he => .inl he⟩
    | cons pair rest ih =>
      intro entries hnodup
      obtain ⟨hkeys, hmem⟩ := ih _ (nodup_insert hnodup pair.1 pair.2)
      refine ⟨hkeys, fun e he => ?_⟩
      rcases hmem e he with hinserted | hrest
      · rcases mem_insert hinserted with hold | rfl
        · exact .inl hold
        · exact .inr List.mem_cons_self
      · exact .inr (List.mem_cons_of_mem _ hrest)
  obtain ⟨hkeys, hmem⟩ := hfrom [] List.nodup_nil
  exact ⟨hkeys, fun e he => (hmem e he).resolve_left List.not_mem_nil⟩

/-- Setting up a dictionary and changing every value, as its key says, go together. -/
theorem ofList_map (f : κ → α → β) (pairs : List (κ × α)) :
    ofList (pairs.map fun e => (e.1, f e.1 e.2)) =
      (ofList pairs).map fun e => (e.1, f e.1 e.2) := by
  have hfrom : ∀ entries : List (κ × α),
      insertAll (entries.map fun e => (e.1, f e.1 e.2)) (pairs.map fun e => (e.1, f e.1 e.2)) =
        (insertAll entries pairs).map fun e => (e.1, f e.1 e.2) := by
    induction pairs with
    | nil => exact fun _ => rfl
    | cons pair rest ih =>
      intro entries
      have hrest := ih (insert pair.1 pair.2 entries)
      rw [map_insert_key] at hrest
      exact hrest
  exact hfrom []

/-- Pairs with distinct keys are a dictionary already. -/
theorem ofList_of_nodup {pairs : List (κ × α)} (hnodup : (pairs.map Prod.fst).Nodup) :
    ofList pairs = pairs := by
  have hfrom : ∀ entries : List (κ × α), ((entries ++ pairs).map Prod.fst).Nodup →
      insertAll entries pairs = entries ++ pairs := by
    induction pairs with
    | nil => exact fun entries _ => (List.append_nil entries).symm
    | cons pair rest ih =>
      intro entries hall
      have hnew : pair.1 ∉ entries.map Prod.fst := by
        intro hmem
        rw [List.map_append, List.nodup_append] at hall
        exact hall.2.2 _ hmem _ List.mem_cons_self rfl
      rw [List.append_cons] at hall ⊢
      calc insertAll entries (pair :: rest)
          = insertAll (insert pair.1 pair.2 entries) rest := rfl
        _ = insertAll (entries ++ [pair]) rest := by rw [insert_of_not_mem hnew]
        _ = entries ++ [pair] ++ rest := ih (List.nodup_cons.mp hnodup).2 _ hall
  exact hfrom [] hnodup

end OfList

end Entries

end KubeHcl
