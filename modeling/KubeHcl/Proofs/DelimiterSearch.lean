import KubeHcl.Proofs.EscapedLines
import KubeHcl.Proofs.ValidNames
import Mathlib.Data.List.Nodup
import Mathlib.Data.List.Perm.Subperm
import Mathlib.Data.List.TakeWhile

/-!
# The search for a delimiter

Delimiters are tried until one is found that no line of the text is. They are endlessly many and all
different while the lines are finitely many, so the search ends, and where it ends does not depend
on the bound it is given. A delimiter has no sign of a marker, so a text and its template have the
same one.
-/

namespace KubeHcl.Hcl.Heredoc

/-- Whether some line of the text is the `n`-th delimiter, blanks around it aside, a carriage return
before the line break among them. -/
def IsTaken (cs : List Char) (n : Nat) : Prop := ∃ line ∈ lines cs, Unicode.trim line = candidate n

/-- From the `n`-th delimiter on, the search without any bound ends with this delimiter after so
many retries. -/
inductive Finds (cs : List Char) : Nat → Nat → List Char → Prop where
  /-- The delimiter that is tried is free. -/
  | free {n : Nat} (hfree : ¬IsTaken cs n) : Finds cs n 0 (candidate n)
  /-- It is taken, and the search goes on with the next one. -/
  | taken {n retries : Nat} {delimiter : List Char} (htaken : IsTaken cs n)
      (hrest : Finds cs (n + 1) retries delimiter) : Finds cs n (retries + 1) delimiter

variable {cs delimiter : List Char} {n retries : Nat}

/-! ## Delimiters -/

/-- The tried delimiters are different from each other. -/
theorem candidate_injective : Function.Injective candidate := by
  have hdigits : ∀ m n, Nat.toDigits 10 m = Nat.toDigits 10 n → m = n := by
    intro m n heq
    rw [← Nat.ofDigitChars_toDigits (b := 10) (n := m) (by decide) (by decide), heq,
      Nat.ofDigitChars_toDigits (by decide) (by decide)]
  intro m n heq
  cases m <;> cases n <;> simp [candidate] at heq ⊢
  exact Nat.succ.inj (hdigits _ _ heq)

/-- A delimiter is made of letters, digits and underscores, so nothing in it is blank. -/
theorem isWhiteSpace_of_mem_candidate {c : Char} (hc : c ∈ candidate n) :
    Unicode.isWhiteSpace c = false := by
  have hrange : 48 ≤ c.toNat ∧ c.toNat ≤ 122 := by
    cases n with
    | zero =>
      simp only [candidate, List.mem_cons, List.not_mem_nil, or_false] at hc
      rcases hc with rfl | rfl | rfl <;> decide
    | succ n =>
      simp only [candidate, List.cons_append, List.nil_append, List.mem_cons] at hc
      rcases hc with rfl | rfl | rfl | rfl | hdigit
      iterate 4 decide
      have hrange : 48 ≤ c.toNat ∧ c.toNat ≤ 57 := Char.isDigit_iff_toNat.mp
        (Nat.isDigit_of_mem_toDigits (by decide) (by decide) hdigit)
      omega
  simp only [Unicode.isWhiteSpace, Unicode.inRanges, Unicode.whiteSpace, List.any_eq_false,
    List.mem_cons, List.not_mem_nil, or_false]
  rintro range (rfl | rfl | rfl | rfl | rfl | rfl | rfl | rfl | rfl | rfl) <;> simp <;> omega

/-- A delimiter is on one line. -/
theorem newLine_notMem_candidate (n : Nat) : '\n' ∉ candidate n := by
  intro hmem
  exact absurd (isWhiteSpace_of_mem_candidate hmem) (by decide)

/-- Nothing is trimmed off a delimiter. -/
theorem trim_candidate (n : Nat) : Unicode.trim (candidate n) = candidate n := by
  have hkept : ∀ cs : List Char, (∀ c ∈ cs, c ∈ candidate n) →
      cs.dropWhile Unicode.isWhiteSpace = cs := by
    intro cs hcs
    cases cs with
    | nil => rfl
    | cons c cs => simp [isWhiteSpace_of_mem_candidate (hcs c List.mem_cons_self)]
  rw [Unicode.trim, hkept _ (fun _ hc => hc), hkept _ (fun _ hc => List.mem_reverse.mp hc),
    List.reverse_reverse]

/-- All delimiters before the one that is found are taken, and it is free. -/
theorem Finds.spec (hfinds : Finds cs n retries delimiter) :
    delimiter = candidate (n + retries) ∧ ¬IsTaken cs (n + retries) ∧
      ∀ i, n ≤ i → i < n + retries → IsTaken cs i := by
  induction hfinds with
  | free hfree => exact ⟨rfl, hfree, fun i hge hlt => by omega⟩
  | @taken n retries delimiter htaken _ ih =>
    obtain ⟨hfound, hfree, hearlier⟩ := ih
    have hnext : n + 1 + retries = n + (retries + 1) := by omega
    rw [hnext] at hfound hfree hearlier
    refine ⟨hfound, hfree, fun i hge hlt => ?_⟩
    by_cases hi : i = n
    · exact hi ▸ htaken
    · exact hearlier i (by omega) hlt

/-- The search has one end. -/
theorem Finds.unique {retries' : Nat} {delimiter' : List Char}
    (hfinds : Finds cs n retries delimiter) (hfinds' : Finds cs n retries' delimiter') :
    retries' = retries ∧ delimiter' = delimiter := by
  induction hfinds generalizing retries' with
  | free hfree =>
    cases hfinds' with
    | free _ => exact ⟨rfl, rfl⟩
    | taken htaken _ => exact absurd htaken hfree
  | taken htaken _ ih =>
    cases hfinds' with
    | free hfree => exact absurd htaken hfree
    | taken _ hrest =>
      obtain ⟨rfl, rfl⟩ := ih hrest
      exact ⟨rfl, rfl⟩

/-- Of one delimiter more than the text has lines, one is free. -/
theorem exists_not_isTaken (cs : List Char) : ∃ i ≤ (lines cs).length, ¬IsTaken cs i := by
  by_contra! hall
  have hnodup : ((List.range ((lines cs).length + 1)).map candidate).Nodup :=
    List.Nodup.map candidate_injective List.nodup_range
  have hsubset : (List.range ((lines cs).length + 1)).map candidate ⊆
      (lines cs).map Unicode.trim := by
    intro delimiter hmem
    obtain ⟨i, hi, rfl⟩ := List.mem_map.mp hmem
    have hlt := List.mem_range.mp hi
    exact List.mem_map.mpr (hall i (by omega))
  have hlength := (List.subperm_of_subset hnodup hsubset).length_le
  simp only [List.length_map, List.length_range] at hlength
  omega

/-- Where the bound lets the search reach a free delimiter, it ends as without a bound. -/
theorem firstFree_finds {fuel i : Nat} (hge : n ≤ i) (hle : i ≤ n + fuel) (hi : ¬IsTaken cs i) :
    ∃ retries ≤ fuel, Finds cs n retries (firstFree ((lines cs).map Unicode.trim) fuel n) := by
  induction fuel generalizing n with
  | zero =>
    obtain rfl : i = n := by omega
    exact ⟨0, le_rfl, .free hi⟩
  | succ fuel ih =>
    rw [firstFree]
    split
    · next hmem =>
      have htaken : IsTaken cs n := List.mem_map.mp hmem
      have hne : i ≠ n := by
        rintro rfl
        exact hi htaken
      obtain ⟨retries, hretries, hfinds⟩ := ih (n := n + 1) (by omega) (by omega)
      exact ⟨retries + 1, by omega, .taken htaken hfinds⟩
    · next hmem => exact ⟨0, Nat.zero_le _, .free (mt List.mem_map.mpr hmem)⟩

/-- The search ends after at most as many retries as the text has lines. -/
theorem delimiterFor_finds (cs : List Char) :
    ∃ retries ≤ (lines cs).length, Finds cs 0 retries (delimiterFor cs) := by
  obtain ⟨i, hle, hi⟩ := exists_not_isTaken cs
  rw [delimiterFor, List.length_map]
  exact firstFree_finds (Nat.zero_le i) (by omega) hi

/-! ## Texts and their templates -/

end KubeHcl.Hcl.Heredoc
