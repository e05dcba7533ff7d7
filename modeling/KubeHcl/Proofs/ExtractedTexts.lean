import KubeHcl.Proofs.TextExtraction
import KubeHcl.Proofs.Tokens
import Mathlib.Data.List.Forall2

/-!
# What is extracted from the data

Moving texts out of the data fails exactly when the data is something else than a mapping to text,
and the first value that is not text is the one that is reported. Otherwise it changes the values
that end with a line break and have no carriage return, and records them in the order of their keys.
What was moved leaves a token that is not moved again.
-/

namespace KubeHcl

namespace Tree

/-- The value is text. -/
def IsText (value : Tree) : Prop := ∃ s, value = .text s

/-- The value is a text that is moved out of the data: one that ends with a line break and has no
carriage return. -/
def IsPayload (value : Tree) (s : String) : Prop :=
  value = .text s ∧ s.toList.getLast? = some '\n' ∧ '\r' ∉ s.toList

/-- These are the values whose texts fit a heredoc. -/
theorem payload?_eq_some_iff {value : Tree} {s : String} :
    value.payload? = some s ↔ value.IsPayload s := by
  have hfits : Hcl.Heredoc.fits s = true ↔ s.toList.getLast? = some '\n' ∧ '\r' ∉ s.toList := by
    simp [Hcl.Heredoc.fits]
  constructor
  · intro hmoved
    obtain ⟨rfl, hs⟩ := payload?_eq_some hmoved
    exact ⟨rfl, hfits.mp hs⟩
  · rintro ⟨rfl, hs⟩
    rw [payload?, if_pos (hfits.mpr hs)]

/-- What takes the place of a text is text, and nothing else becomes text. -/
theorem isText_movedOut {value : Tree} : value.movedOut.IsText ↔ value.IsText := by
  unfold movedOut
  split
  · next payload hmoved => exact iff_of_true ⟨_, rfl⟩ ⟨payload, (payload?_eq_some hmoved).1⟩
  · exact Iff.rfl

/-- The token that takes the place of a text is not moved itself. -/
theorem payload?_movedOut (value : Tree) : value.movedOut.payload? = none := by
  unfold movedOut
  split
  · next payload _ =>
    refine Option.eq_none_iff_forall_ne_some.mpr fun s hmoved => ?_
    obtain ⟨heq, hfits⟩ := payload?_eq_some hmoved
    exact Token.ne_wrapped_of_fits hfits _ (Tree.text.inj heq).symm
  · next hkept => exact hkept

end Tree

namespace Entries

variable {κ α : Type} [DecidableEq κ]

/-- The entries have the same keys in the same order, and the same values but for those of `key`. -/
def SameBut (key : κ) (entries entries' : List (κ × α)) : Prop :=
  List.Forall₂ (fun e e' => e'.1 = e.1 ∧ (e.1 ≠ key → e'.2 = e.2)) entries entries'

/-- Setting a key that is there changes its value only. -/
theorem sameBut_insert {key : κ} {entries : List (κ × α)} (hmem : key ∈ entries.map Prod.fst)
    (value : α) : SameBut key entries (insert key value entries) := by
  induction entries with
  | nil => cases hmem
  | cons entry rest ih =>
    by_cases hkey : entry.1 = key
    · rw [insert, if_pos hkey]
      refine .cons ⟨rfl, fun hne => absurd hkey hne⟩ ?_
      exact List.forall₂_same.mpr fun _ _ => ⟨rfl, fun _ => rfl⟩
    · rw [insert, if_neg hkey]
      rw [List.map_cons, List.mem_cons] at hmem
      exact .cons ⟨rfl, fun _ => rfl⟩ (ih (hmem.resolve_left (Ne.symm hkey)))

end Entries

namespace Resource

/-- A resource without texts to move has data of which no value is one, or no such data. -/
theorem payloads_eq_nil_iff {r : Resource} :
    r.payloads = [] ↔ ∀ data, r.field? "data" = some (.map data) →
      ∀ entry ∈ data, ∀ s, ¬entry.2.IsPayload s := by
  unfold payloads
  split
  · next data hdata =>
    simp only [payloadsIn, List.filterMap_eq_nil_iff, Option.eq_none_iff_forall_ne_some, ne_eq,
      Tree.payload?_eq_some_iff, hdata, Option.some.injEq, Tree.map.injEq, forall_eq']
  · next hdata => exact iff_of_true rfl fun data hmap => absurd hmap (hdata data)

/-- A field that was set is found. -/
theorem field?_withField (r : Resource) (key : String) (value : Tree) :
    (r.withField key value).field? key = some value := Entries.find?_insert_self _ _ _

/-- Data is left with every value changed whose text is moved out of it. -/
theorem field?_movedOut {r : Resource} {data : List (String × Tree)}
    (hdata : r.field? "data" = some (.map data)) :
    r.movedOut.field? "data" = some (.map (data.map fun e => (e.1, e.2.movedOut))) := by
  simp only [movedOut, hdata, field?_withField]

/-- After texts were moved out of the data, none is left to move. -/
theorem payloads_movedOut (r : Resource) : r.movedOut.payloads = [] := by
  unfold movedOut
  split
  · simp only [payloads, field?_withField, payloadsIn, List.filterMap_map,
      List.filterMap_eq_nil_iff, Function.comp_apply, Tree.payload?_movedOut, implies_true]
  · next hdata =>
    unfold payloads
    split
    · next data hmap => exact absurd hmap (hdata data)
    · rfl

end Resource

section Failing

variable {id : Identity} {key : String} {rest data : List (String × Tree)} {e : TransformError}

/-- A loop over the data goes on behind a text, and fails only there. -/
theorem extractEntries_text_error_iff {s : String} :
    extractEntries id ((key, .text s) :: rest) = .error e ↔ extractEntries id rest = .error e := by
  constructor
  · intro herror
    rcases bind_eq_error herror with hrest | ⟨_, -, herror⟩
    · exact hrest
    · dsimp only at herror
      split at herror <;> cases herror
  · intro hrest
    rw [extractEntries, hrest]
    rfl

/-- It fails at a value that is not text. -/
theorem extractEntries_of_not_isText {value : Tree} (hvalue : ¬value.IsText) :
    extractEntries id ((key, value) :: rest) =
      .error (.malformedField id ("data." ++ key) "a string" value.describe) := by
  cases value with
  | text s => exact absurd ⟨s, rfl⟩ hvalue
  | _ => rfl

/-- So it fails exactly at the first value that is not text, whatever the values before it. -/
theorem extractEntries_error_iff :
    extractEntries id data = .error e ↔ ∃ before key value after,
      data = before ++ (key, value) :: after ∧ (∀ entry ∈ before, entry.2.IsText) ∧
        ¬value.IsText ∧ e = .malformedField id ("data." ++ key) "a string" value.describe := by
  induction data with
  | nil => simp [extractEntries]
  | cons entry rest ih =>
    obtain ⟨key, value⟩ := entry
    by_cases htext : value.IsText
    · obtain ⟨s, rfl⟩ := htext
      rw [extractEntries_text_error_iff, ih]
      constructor
      · rintro ⟨before, key', value, after, rfl, hbefore, hvalue, he⟩
        exact ⟨(key, .text s) :: before, key', value, after, rfl,
          List.forall_mem_cons.mpr ⟨⟨s, rfl⟩, hbefore⟩, hvalue, he⟩
      · rintro ⟨before, key', value, after, hsplit, hbefore, hvalue, he⟩
        cases before with
        | nil =>
          cases hsplit
          exact absurd ⟨s, rfl⟩ hvalue
        | cons first before =>
          cases hsplit
          exact ⟨before, key', value, after, rfl, (List.forall_mem_cons.mp hbefore).2, hvalue, he⟩
    · rw [extractEntries_of_not_isText htext]
      constructor
      · intro herror
        cases herror
        exact ⟨[], key, value, rest, rfl, by simp, htext, rfl⟩
      · rintro ⟨before, key', value', after, hsplit, hbefore, -, rfl⟩
        cases before with
        | nil =>
          cases hsplit
          rfl
        | cons first before =>
          cases hsplit
          exact absurd (hbefore _ List.mem_cons_self) htext

end Failing

/-- The data of a resource cannot be moved, and `e` says why. -/
inductive MalformedData (r : Resource) : TransformError → Prop
  /-- It is there and not null, but no mapping. -/
  | noMapping {value : Tree} (hdata : r.field? "data" = some value) (hnull : value ≠ .null)
      (hmap : ∀ data, value ≠ .map data) :
      MalformedData r (.malformedField r.id "data" "a mapping" value.describe)
  /-- A value in it is not text, and the first of them has this key. -/
  | noText {before after : List (String × Tree)} {key : String} {value : Tree}
      (hdata : r.field? "data" = some (.map (before ++ (key, value) :: after)))
      (hbefore : ∀ entry ∈ before, entry.2.IsText) (hvalue : ¬value.IsText) :
      MalformedData r (.malformedField r.id ("data." ++ key) "a string" value.describe)

/-- Moving texts fails exactly when the data is malformed. -/
theorem extractText_error_iff {r : Resource} {e : TransformError} :
    extractText r = .error e ↔ MalformedData r e := by
  constructor
  · intro herror
    unfold extractText at herror
    split at herror
    case h_1 | h_2 => cases herror
    case h_3 data hdata =>
      rcases bind_eq_error herror with hentries | ⟨_, -, herror⟩
      · obtain ⟨before, key, value, after, rfl, hbefore, hvalue, rfl⟩ :=
          extractEntries_error_iff.mp hentries
        exact .noText hdata hbefore hvalue
      · dsimp only at herror
        split at herror <;> cases herror
    case h_4 value hnull hmap hdata =>
      cases herror
      exact .noMapping hdata hnull hmap
  · intro hmalformed
    cases hmalformed with
    | @noMapping value hdata hnull hmap =>
      unfold extractText
      rw [hdata]
      cases value with
      | null => exact absurd rfl hnull
      | map data => exact absurd rfl (hmap data)
      | _ => rfl
    | @noText before after key value hdata hbefore hvalue =>
      have hentries : extractEntries r.id (before ++ (key, value) :: after) =
          .error (.malformedField r.id ("data." ++ key) "a string" value.describe) :=
        extractEntries_error_iff.mpr ⟨before, key, value, after, rfl, hbefore, hvalue, rfl⟩
      unfold extractText
      rw [hdata]
      simp only [hentries]
      rfl

/-- Otherwise, nothing is changed exactly when no value is a text that is moved. -/
theorem extractText_eq_none_iff {r : Resource} :
    extractText r = .ok none ↔ (∀ e, ¬MalformedData r e) ∧
      ∀ data, r.field? "data" = some (.map data) → ∀ entry ∈ data, ∀ s, ¬entry.2.IsPayload s := by
  rw [← Resource.payloads_eq_nil_iff]
  simp only [← extractText_error_iff]
  constructor
  · intro hnone
    exact ⟨by simp [hnone], (extractText_none hnone).2⟩
  · rintro ⟨hok, hnothing⟩
    cases hresult : extractText r with
    | error e => exact absurd hresult (hok e)
    | ok change =>
      cases change with
      | none => rfl
      | some change => exact absurd hnothing (payloads_ne_nil_of_extractText hresult)

/-- What a change of the texts makes of a resource, and what it records. -/
structure Extracted (r : Resource) (change : TextChange) : Prop where
  origin_eq : change.resource.origin = r.origin
  id_eq : change.resource.id = r.id
  /-- All fields stay in their order, and all but the data as they were. -/
  fields : Entries.SameBut "data" r.fields change.resource.fields
  /-- So do the keys of the data. Texts that are moved give way to their wrapped tokens, and each of
  them is recorded with its heredoc, in the order of the keys. -/
  data : ∃ data, r.field? "data" = some (.map data) ∧
    change.resource.field? "data" = some (.map (data.map fun e => (e.1, e.2.movedOut))) ∧
    change.placeholders = (data.filterMap fun e => e.2.payload?).map recordedPayload

/-- A change of the texts makes that of a resource. -/
theorem extractText_extracted {r : Resource} {change : TextChange}
    (hok : extractText r = .ok (some change)) : Extracted r change := by
  obtain ⟨hresource, hplaceholders⟩ := extractText_some hok
  -- Something was moved, so the resource has data to move it from.
  obtain ⟨data, hdata⟩ : ∃ data, r.field? "data" = some (.map data) := by
    have hpayloads := payloads_ne_nil_of_extractText hok
    unfold Resource.payloads at hpayloads
    split at hpayloads
    · next data hdata => exact ⟨data, hdata⟩
    · exact absurd rfl hpayloads
  have hmem := Entries.find?_isSome_iff.mp (Option.isSome_of_eq_some hdata)
  simp only [Resource.movedOut, hdata] at hresource
  simp only [Resource.payloads, hdata] at hplaceholders
  refine ⟨?origin, ?id, ?fields, data, hdata, ?moved, hplaceholders⟩
  case origin => rw [hresource, Resource.withField_origin]
  case id => rw [hresource, Resource.withField_id]
  case fields =>
    rw [hresource]
    exact Entries.sameBut_insert hmem _
  case moved =>
    rw [hresource, Resource.field?_withField]

/-- What a change of the texts leaves has nothing more to move. -/
theorem extractText_changed {r : Resource} {change : TextChange}
    (hok : extractText r = .ok (some change)) : extractText change.resource = .ok none := by
  obtain ⟨data, hdata, hmoved, -⟩ := (extractText_extracted hok).data
  refine extractText_eq_none_iff.mpr ⟨?wellFormed, Resource.payloads_eq_nil_iff.mp ?nothing⟩
  case nothing =>
    rw [(extractText_some hok).1]
    exact r.payloads_movedOut
  case wellFormed =>
    intro e hmalformed
    cases hmalformed with
    | noMapping hdata' _ hmap => exact hmap _ (Option.some.inj (hdata'.symm.trans hmoved))
    | noText hdata' hbefore hvalue =>
      -- A value that is not text was there before, behind the same values, and had failed.
      obtain ⟨before, rest, rfl, rfl, hrest⟩ :=
        List.map_eq_append_iff.mp (Tree.map.inj (Option.some.inj (hmoved.symm.trans hdata')))
      obtain ⟨entry, after, rfl, hentry, rfl⟩ := List.map_eq_cons_iff.mp hrest
      cases hentry
      have herror := extractText_error_iff.mpr (.noText hdata
        (fun entry hentry => Tree.isText_movedOut.mp (hbefore _ (List.mem_map_of_mem hentry)))
        (fun htext => hvalue (Tree.isText_movedOut.mpr htext)))
      rw [hok] at herror
      cases herror

/-- Moving texts out of the data fails exactly for malformed data. It changes nothing exactly when
the data holds no text to move, and otherwise only what is moved. Moving again changes nothing. -/
theorem extraction_exact (r : Resource) :
    (∀ e, extractText r = .error e ↔ MalformedData r e) ∧
      (extractText r = .ok none ↔ (∀ e, ¬MalformedData r e) ∧
        ∀ data, r.field? "data" = some (.map data) →
          ∀ entry ∈ data, ∀ s, ¬entry.2.IsPayload s) ∧
      ∀ change, extractText r = .ok (some change) →
        Extracted r change ∧ extractText change.resource = .ok none := by
  refine ⟨fun e => extractText_error_iff, extractText_eq_none_iff, ?_⟩
  intro change hok
  exact ⟨extractText_extracted hok, extractText_changed hok⟩

/-- A resource with two texts in its data that are moved and two that are not. -/
def Resource.greetings : Resource where
  origin := ⟨"", "v1", "ConfigMap", "", "greetings"⟩
  id := ⟨"", "v1", "ConfigMap", "", "greetings"⟩
  fields :=
    [("apiVersion", .text "v1"), ("kind", .text "ConfigMap"),
      ("metadata", .map [("name", .text "greetings")]),
      ("data", .map [("flag", .text "on"), ("motd", .text "Hello\n"),
        ("page", .text "Hello\r\n"), ("again", .text "Hello\n")])]

/-- Each of the two is recorded, though it is the same text, and the others stay where they are. -/
theorem greetings_extracted :
    ∃ change, extractText .greetings = .ok (some change) ∧
      change.resource.field? "data" = some (.map [("flag", .text "on"),
        ("motd", .text (Token.ofPayload "Hello\n").wrapped), ("page", .text "Hello\r\n"),
        ("again", .text (Token.ofPayload "Hello\n").wrapped)]) ∧
      change.placeholders = [recordedPayload "Hello\n", recordedPayload "Hello\n"] ∧
      extractText change.resource = .ok none := by
  obtain ⟨-, -, hchange⟩ := extraction_exact .greetings
  refine ⟨_, rfl, ?_⟩
  obtain ⟨⟨-, -, -, data, hdata, hmoved, hrecorded⟩, hagain⟩ := hchange _ rfl
  obtain rfl := Tree.map.inj (Option.some.inj hdata)
  exact ⟨hmoved, hrecorded, hagain⟩

end KubeHcl
