import KubeHcl.Proofs.Names
import Mathlib.Data.List.Forall2

/-!
# What making a name valid changes

A text is made a valid name character by character, and at most one underscore goes in front. So a
name that is valid already stays, and whatever is made valid is not changed again.
-/

namespace KubeHcl.Naming

/-- `d` stands in a name for the character `c` of a text: this character where a name may have it,
and a dash otherwise. -/
def StandsFor (c d : Char) : Prop :=
  if c = '_' ∨ Unicode.isIdentifierStart c ∨ Unicode.isIdentifierContinue c then d = c else d = '-'

/-- What goes in front of a text: an underscore, if its first character may not start a name. -/
def opening : List Char → List Char
  | [] => []
  | c :: _ => if c = '_' ∨ Unicode.isIdentifierStart c then [] else ['_']

/-- The characters that may start a name. -/
theorem isNameStart_iff {c : Char} :
    isNameStart c = true ↔ c = '_' ∨ Unicode.isIdentifierStart c = true := by
  simp [isNameStart]

/-- The characters that stand in a name as they are. -/
theorem isNamePart_iff {c : Char} : isNamePart c = true ↔
    c = '_' ∨ Unicode.isIdentifierStart c = true ∨ Unicode.isIdentifierContinue c = true := by
  rw [isNamePart, Bool.or_eq_true, isNameStart_iff, or_assoc]

/-- A character is changed into what stands for it. -/
theorem standsFor_iff {c d : Char} : StandsFor c d ↔ d = sanitizeChar c := by
  unfold StandsFor sanitizeChar
  by_cases hpart : isNamePart c = true
  · rw [if_pos (isNamePart_iff.mp hpart), if_pos hpart]
  · rw [if_neg (mt isNamePart_iff.mpr hpart), if_neg hpart]

/-- So a text is changed into what stands for it, character by character. -/
theorem forall₂_standsFor (cs : List Char) :
    List.Forall₂ StandsFor cs (cs.map sanitizeChar) := by
  rw [List.forall₂_map_right_iff, List.forall₂_same]
  intro c _
  exact standsFor_iff.mpr rfl

/-- A character that may start a name may also stand behind its start. -/
theorem isValidPart_of_isNameStart {c : Char} (hstart : isNameStart c = true) :
    isValidPart c = true := by
  have hunderscore : isValidPart '_' = true := by decide +kernel
  rcases isNameStart_iff.mp hstart with rfl | hstart
  · exact hunderscore
  · rw [isValidPart, Bool.or_eq_true]
    exact .inr (Unicode.isIdentifierContinue_of_start hstart)

/-- What stands for a character may stand in a name. -/
theorem isValidPart_sanitizeChar (c : Char) : isValidPart (sanitizeChar c) = true := by
  unfold sanitizeChar
  split
  · next hpart =>
    rw [isNamePart, Bool.or_eq_true] at hpart
    rcases hpart with hstart | hcontinue
    · exact isValidPart_of_isNameStart hstart
    · rw [isValidPart, Bool.or_eq_true]
      exact .inr hcontinue
  · rfl

/-- A character that may stand in a name is not changed. -/
theorem sanitizeChar_eq_self_iff {c : Char} : sanitizeChar c = c ↔ isValidPart c = true := by
  constructor
  · intro hsame
    rw [← hsame]
    exact isValidPart_sanitizeChar c
  · intro hvalid
    unfold sanitizeChar
    split
    · rfl
    · next hpart =>
      -- The one character that is no part of a name and yet valid is the dash itself.
      rw [isValidPart, Bool.or_eq_true, beq_iff_eq] at hvalid
      rcases hvalid with rfl | hcontinue
      · rfl
      · exact absurd (isNamePart_iff.mpr (.inr (.inr hcontinue))) hpart

/-- A name is made of what goes in front of a text and what stands for its characters. -/
theorem sanitize_eq (cs : List Char) : sanitize cs = opening cs ++ cs.map sanitizeChar := by
  cases cs with
  | nil => rfl
  | cons c cs =>
    rw [sanitize, opening]
    by_cases hstart : isNameStart c = true
    · rw [if_pos hstart, if_pos (isNameStart_iff.mp hstart), List.nil_append]
    · rw [if_neg hstart, if_neg (mt isNameStart_iff.mpr hstart), List.singleton_append]

/-- Only the empty text is made an empty name. -/
theorem sanitize_eq_nil_iff {cs : List Char} : sanitize cs = [] ↔ cs = [] := by
  rw [sanitize_eq, List.append_eq_nil_iff, List.map_eq_nil_iff]
  constructor
  · exact And.right
  · rintro rfl
    exact ⟨rfl, rfl⟩

/-- Any other text is made a valid name. -/
theorem isValid_sanitize {cs : List Char} (hne : cs ≠ []) : IsValid (sanitize cs) := by
  obtain ⟨c, cs, rfl⟩ := List.exists_cons_of_ne_nil hne
  have hparts : ∀ ds : List Char, ∀ d ∈ ds.map sanitizeChar, isValidPart d = true := by
    intro ds d hd
    obtain ⟨e, -, rfl⟩ := List.mem_map.mp hd
    exact isValidPart_sanitizeChar e
  by_cases hstart : isNameStart c = true
  · rw [sanitize, if_pos hstart, List.map_cons,
      sanitizeChar_eq_self_iff.mpr (isValidPart_of_isNameStart hstart)]
    exact ⟨hstart, hparts cs⟩
  · rw [sanitize, if_neg hstart]
    exact ⟨rfl, hparts (c :: cs)⟩

/-- The name of a resource is valid. -/
theorem isValid_identifier (r : Resource) : IsValid (identifier r).toList := by
  rw [identifier, String.toList_ofList]
  exact isValid_sanitize (by simp [rawName])

/-- Every character of a name may stand behind its first one. -/
theorem isValidPart_of_mem {cs : List Char} (hvalid : IsValid cs) {c : Char} (hc : c ∈ cs) :
    isValidPart c = true := by
  cases cs with
  | nil => cases hc
  | cons first rest =>
    rcases List.mem_cons.mp hc with rfl | hrest
    · exact isValidPart_of_isNameStart hvalid.1
    · exact hvalid.2 c hrest

/-- A character that may not stand in a name is in none. -/
theorem notMem_of_isValid {cs : List Char} (hvalid : IsValid cs) {c : Char}
    (hc : isValidPart c = false) : c ∉ cs := by
  intro hmem
  cases hc.symm.trans (isValidPart_of_mem hvalid hmem)

/-- A valid name is not changed. -/
theorem sanitize_of_isValid {cs : List Char} (hvalid : IsValid cs) : sanitize cs = cs := by
  cases cs with
  | nil => cases hvalid
  | cons c cs =>
    obtain ⟨hstart, hparts⟩ := hvalid
    have hkept : ∀ d ∈ c :: cs, sanitizeChar d = d := by
      rw [List.forall_mem_cons]
      exact ⟨sanitizeChar_eq_self_iff.mpr (isValidPart_of_isNameStart hstart),
        fun d hd => sanitizeChar_eq_self_iff.mpr (hparts d hd)⟩
    rw [sanitize, if_pos hstart, List.map_congr_left hkept, List.map_id']

/-- So the texts that are not changed are the empty one and the valid names. -/
theorem sanitize_eq_self_iff {cs : List Char} : sanitize cs = cs ↔ cs = [] ∨ IsValid cs := by
  constructor
  · intro hsame
    by_cases hne : cs = []
    · exact .inl hne
    · exact .inr (hsame ▸ isValid_sanitize hne)
  · rintro (rfl | hvalid)
    · rfl
    · exact sanitize_of_isValid hvalid

/-- What was made valid is not changed again. -/
theorem sanitize_sanitize (cs : List Char) : sanitize (sanitize cs) = sanitize cs := by
  by_cases hne : cs = []
  · rw [hne]
    rfl
  · exact sanitize_of_isValid (isValid_sanitize hne)

/-- Every text is made a valid name unless it is empty. The characters of the name are those of the
text in order, with a dash for each that no name has, behind an underscore if the first one may not
start a name. Nothing is changed exactly in what is empty or valid already, so making valid again
changes nothing, and what follows the first character enters the name character by character. -/
theorem sanitize_exact (cs : List Char) :
    (sanitize cs = [] ↔ cs = []) ∧ (cs ≠ [] → IsValid (sanitize cs)) ∧
      (∃ ds, List.Forall₂ StandsFor cs ds ∧ sanitize cs = opening cs ++ ds) ∧
      (sanitize cs = cs ↔ cs = [] ∨ IsValid cs) ∧ sanitize (sanitize cs) = sanitize cs ∧
      ∀ more, cs ≠ [] →
        ∃ ds, List.Forall₂ StandsFor more ds ∧ sanitize (cs ++ more) = sanitize cs ++ ds := by
  refine ⟨sanitize_eq_nil_iff, isValid_sanitize, ?characters, sanitize_eq_self_iff,
    sanitize_sanitize cs, ?appended⟩
  case characters => exact ⟨_, forall₂_standsFor cs, sanitize_eq cs⟩
  case appended =>
    intro more hne
    exact ⟨_, forall₂_standsFor more, sanitize_append hne more⟩

/-- A fraction may not stand in a name, so it becomes a dash behind an underscore. What is written
after it gets no underscore of its own. -/
theorem half_sanitized : sanitize ['½'] = ['_', '-'] ∧ IsValid (sanitize ['½']) ∧
    ∃ ds, List.Forall₂ StandsFor ['²', 'x'] ds ∧ sanitize ['½', '²', 'x'] = ['_', '-'] ++ ds := by
  have hhalf : sanitize ['½'] = ['_', '-'] := by decide +kernel
  obtain ⟨-, hvalid, -, -, -, happended⟩ := sanitize_exact ['½']
  obtain ⟨ds, hds, hmore⟩ := happended ['²', 'x'] (List.cons_ne_nil _ _)
  rw [hhalf] at hvalid hmore ⊢
  exact ⟨rfl, hvalid (List.cons_ne_nil _ _), ds, hds, hmore⟩

end KubeHcl.Naming
