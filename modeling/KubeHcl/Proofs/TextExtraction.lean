import KubeHcl.Proofs.Entries
import KubeHcl.Proofs.Outcome
import KubeHcl.Rewriting

/-!
# Texts moved out of the data

A text of the data is moved into a heredoc when it fits one. What is left of the entries and what is
recorded for them are stated here value by value, so that the loop over the data need not be looked
at again.
-/

namespace KubeHcl

/-- The text of a value of the data, if it is moved into a heredoc. -/
def Tree.payload? : Tree → Option String
  | .text s => if Hcl.Heredoc.fits s then some s else none
  | _ => none

/-- What is moved out is a text that fits a heredoc. -/
theorem Tree.payload?_eq_some {value : Tree} {payload : String}
    (hmoved : value.payload? = some payload) :
    value = .text payload ∧ Hcl.Heredoc.fits payload = true := by
  cases value with
  | text s =>
    rw [payload?] at hmoved
    split at hmoved
    · next hfits =>
      obtain rfl := Option.some.inj hmoved
      exact ⟨rfl, hfits⟩
    · cases hmoved
  | _ => cases hmoved

/-- A value of the data after its text was moved out, if it is one that is. -/
def Tree.movedOut (value : Tree) : Tree :=
  match value.payload? with
  | some payload => .text (Token.ofPayload payload).wrapped
  | none => value

/-- The texts of the data that are moved out, in the order of their keys. -/
def payloadsIn (data : List (String × Tree)) : List String := data.filterMap fun e => e.2.payload?

/-- What is recorded for a text that is moved out. -/
def recordedPayload (payload : String) : Token × Placeholder :=
  (Token.ofPayload payload, .block (Hcl.Heredoc.ofText payload))

/-- The texts of a resource that are moved out of its data. -/
def Resource.payloads (r : Resource) : List String :=
  match r.field? "data" with
  | some (.map data) => payloadsIn data
  | _ => []

/-- What is moved out of a resource fits a heredoc. -/
theorem Resource.fits_of_mem_payloads {r : Resource} {payload : String}
    (hmem : payload ∈ r.payloads) : Hcl.Heredoc.fits payload = true := by
  unfold payloads at hmem
  split at hmem
  · obtain ⟨e, -, hmoved⟩ := List.mem_filterMap.mp hmem
    exact (Tree.payload?_eq_some hmoved).2
  · cases hmem

/-- The resource after texts were moved out of its data. -/
def Resource.movedOut (r : Resource) : Resource :=
  match r.field? "data" with
  | some (.map data) => r.withField "data" (.map (data.map fun e => (e.1, e.2.movedOut)))
  | _ => r

@[simp] theorem Resource.movedOut_origin (r : Resource) : r.movedOut.origin = r.origin := by
  unfold movedOut
  split <;> rfl

@[simp] theorem Resource.movedOut_id (r : Resource) : r.movedOut.id = r.id := by
  unfold movedOut
  split <;> rfl

/-- Without texts to move out the data stays as it is. -/
theorem movedOut_of_payloadsIn {data : List (String × Tree)} (hnone : payloadsIn data = []) :
    data.map (fun e => (e.1, e.2.movedOut)) = data := by
  rw [payloadsIn, List.filterMap_eq_nil_iff] at hnone
  have hkept : ∀ e ∈ data, (e.1, e.2.movedOut) = e := by
    intro e he
    simp only [Tree.movedOut, hnone e he]
  calc data.map (fun e => (e.1, e.2.movedOut))
      = data.map fun e => e := List.map_congr_left hkept
    _ = data := List.map_id' _

/-- A loop over the data that does not fail keeps every key and its place. It changes the values
whose texts it records, and no others. -/
theorem extractEntries_ok {id : Identity} {data entries : List (String × Tree)}
    {placeholders : List (Token × Placeholder)}
    (hok : extractEntries id data = .ok (entries, placeholders)) :
    entries = data.map (fun e => (e.1, e.2.movedOut)) ∧
      placeholders = (payloadsIn data).map recordedPayload := by
  induction data generalizing entries placeholders with
  | nil =>
    cases hok
    exact ⟨rfl, rfl⟩
  | cons entry rest ih =>
    obtain ⟨key, value⟩ := entry
    cases value with
    | text s =>
      obtain ⟨⟨entries', placeholders'⟩, hrest, hok⟩ := bind_eq_ok hok
      obtain ⟨rfl, rfl⟩ := ih hrest
      by_cases hfits : Hcl.Heredoc.fits s = true
      · simp only [hfits, if_true, Pure.pure, Except.pure, Except.ok.injEq, Prod.mk.injEq] at hok
        obtain ⟨rfl, rfl⟩ := hok
        simp [payloadsIn, Tree.movedOut, Tree.payload?, hfits, recordedPayload]
      · simp only [if_neg hfits, Pure.pure, Except.pure, Except.ok.injEq, Prod.mk.injEq] at hok
        obtain ⟨rfl, rfl⟩ := hok
        simp [payloadsIn, Tree.movedOut, Tree.payload?, hfits]
    | _ => cases hok

/-- A change of the texts moves them out of the data and records them. -/
theorem extractText_some {r : Resource} {change : TextChange}
    (hok : extractText r = .ok (some change)) :
    change.resource = r.movedOut ∧ change.placeholders = r.payloads.map recordedPayload := by
  unfold extractText at hok
  split at hok
  case h_1 | h_2 | h_4 => cases hok
  case h_3 data hdata =>
    obtain ⟨⟨entries, placeholders⟩, hentries, hok⟩ := bind_eq_ok hok
    obtain ⟨rfl, rfl⟩ := extractEntries_ok hentries
    dsimp only at hok
    split at hok
    · cases hok
    · cases hok
      simp only [Resource.movedOut, Resource.payloads, hdata, and_self]

/-- Where something is changed there was something to move. -/
theorem payloads_ne_nil_of_extractText {r : Resource} {change : TextChange}
    (hok : extractText r = .ok (some change)) : r.payloads ≠ [] := by
  intro hnone
  obtain ⟨-, hplaceholders⟩ := extractText_some hok
  rw [hnone, List.map_nil] at hplaceholders
  unfold extractText at hok
  split at hok
  case h_1 | h_2 | h_4 => cases hok
  case h_3 data hdata =>
    obtain ⟨⟨entries, placeholders⟩, -, hok⟩ := bind_eq_ok hok
    dsimp only at hok
    split at hok
    · cases hok
    · next hsome =>
      cases hok
      exact hsome (List.isEmpty_iff.mpr hplaceholders)

/-- Where nothing is changed there was nothing to move. -/
theorem extractText_none {r : Resource} (hok : extractText r = .ok none) :
    r.movedOut = r ∧ r.payloads = [] := by
  unfold extractText at hok
  split at hok
  case h_1 hdata | h_2 hdata =>
    simp only [Resource.movedOut, Resource.payloads, hdata, and_self]
  case h_4 => cases hok
  case h_3 data hdata =>
    obtain ⟨⟨entries, placeholders⟩, hentries, hok⟩ := bind_eq_ok hok
    obtain ⟨-, rfl⟩ := extractEntries_ok hentries
    dsimp only at hok
    split at hok
    · next hempty =>
      rw [List.isEmpty_iff, List.map_eq_nil_iff] at hempty
      have hsame : r.withField "data" (.map data) = r := by
        rw [Resource.withField, Entries.insert_of_find? hdata]
      simp only [Resource.movedOut, Resource.payloads, hdata, movedOut_of_payloadsIn hempty, hempty,
        hsame, and_self]
    · cases hok

end KubeHcl
