import KubeHcl.Placeholder
import KubeHcl.Proofs.TemplateReading

/-!
# Lines of templates

A marker does not reach over the end of a line. So a template has the lines of its text, each with
its own markers doubled, and the lines without a marker are the ones that stay.
-/

namespace KubeHcl.Hcl

/-- Whether a text has a marker of an interpolation or a directive, doubled or not. -/
def HasMarker (cs : List Char) : Prop := ['$', '\x7b'] <:+: cs ∨ ['%', '\x7b'] <:+: cs

instance : DecidablePred HasMarker := fun _ => inferInstanceAs (Decidable (_ ∨ _))

variable {c : Char} {cs : List Char}

/-- A marker is at the front of a text or behind its first character. -/
theorem hasMarker_cons_iff : HasMarker (c :: cs) ↔
    (isSign c = true ∧ cs.head? = some '\x7b') ∨ HasMarker cs := by
  have hbrace : ['\x7b'] <+: cs ↔ cs.head? = some '\x7b' := by
    cases cs <;> simp [eq_comm]
  simp only [HasMarker, List.infix_cons_iff, List.cons_prefix_cons, hbrace, isSign_iff]
  grind

/-- The texts that stay when their markers are doubled are those without one. -/
theorem escapeTemplate_eq_self_iff : escapeTemplate cs = cs ↔ ¬HasMarker cs := by
  induction cs using marker_induction with
  | nil => exact iff_of_true rfl (by decide)
  | marker sign rest hsign _ =>
    refine iff_of_false (fun heq => ?_) (not_not_intro (hasMarker_cons_iff.mpr (.inl ⟨hsign, rfl⟩)))
    -- The second character would be the sign and the brace at once.
    rw [escapeTemplate_marker hsign] at heq
    obtain ⟨rfl, -⟩ := List.cons.inj (List.cons.inj heq).2
    cases hsign
  | kept c rest hkept ih =>
    rw [escapeTemplate_cons hkept, List.cons.injEq, ih, hasMarker_cons_iff, or_iff_right hkept]
    exact and_iff_right rfl

namespace Heredoc

/-- A character that ends no line is at the front of the first line. -/
theorem lines_cons_of_ne (hc : c ≠ '\n') (cs : List Char) :
    lines (c :: cs) = (c :: (lines cs).headD []) :: (lines cs).tail := by
  rw [lines, if_neg hc]
  cases lines cs <;> rfl

/-- A text starts with the characters of its first line. -/
theorem head?_of_head?_lines {d : Char} (hd : ((lines cs).headD []).head? = some d) :
    cs.head? = some d := by
  cases cs with
  | nil => cases hd
  | cons c cs =>
    by_cases hc : c = '\n'
    · rw [lines, if_pos hc] at hd
      cases hd
    · rwa [lines_cons_of_ne hc] at hd

/-- The lines of a template are those of its text, each with its own markers doubled. -/
theorem lines_escapeTemplate (cs : List Char) :
    lines (escapeTemplate cs) = (lines cs).map escapeTemplate := by
  have hfirst : ∀ texts : List (List Char),
      (texts.map escapeTemplate).headD [] = escapeTemplate (texts.headD []) := by
    intro texts
    cases texts <;> rfl
  induction cs using marker_induction with
  | nil => rfl
  | marker sign rest hsign ih =>
    have hline : sign ≠ '\n' := by
      rintro rfl
      cases hsign
    have hbrace : '\x7b' ≠ '\n' := by decide
    rw [escapeTemplate_marker hsign]
    simp only [lines_cons_of_ne hline, lines_cons_of_ne hbrace, ih, hfirst, List.headD_cons,
      List.tail_cons, List.map_cons, List.map_tail, escapeTemplate_marker hsign]
  | kept c rest hkept ih =>
    rw [escapeTemplate_cons hkept]
    by_cases hline : c = '\n'
    · rw [hline, lines, if_pos rfl, lines, if_pos rfl, ih]
      rfl
    · -- A brace behind the character on its line would be behind it in the text.
      have hkept' : ¬(isSign c ∧ ((lines rest).headD []).head? = some '\x7b') := by
        rintro ⟨hsign, hbrace⟩
        exact hkept ⟨hsign, head?_of_head?_lines hbrace⟩
      rw [lines_cons_of_ne hline, lines_cons_of_ne hline, ih, hfirst, List.map_cons,
        escapeTemplate_cons hkept', List.map_tail]

end Heredoc

open Heredoc (lines)

/-- Reading undoes the doubling of markers: what is read as a text without opening anything is the
text with its markers doubled, and nothing else. So different texts have different templates. A
template has as many lines as its text and ends with a line break when the text does, and the lines
that stay are those without a marker. -/
theorem escaping_read_back (cs : List Char) :
    readTemplate (escapeTemplate cs) = cs ∧
      (∀ template, readTemplate? template = some cs ↔ template = escapeTemplate cs) ∧
      Function.Injective escapeTemplate ∧
      (lines (escapeTemplate cs)).length = (lines cs).length ∧
      ((escapeTemplate cs).getLast? = some '\n' ↔ cs.getLast? = some '\n') ∧
      ∀ (i : Nat) (line : List Char), (lines cs)[i]? = some line →
        ((lines (escapeTemplate cs))[i]? = some line ↔ ¬HasMarker line) := by
  refine ⟨readTemplate_escapeTemplate cs, fun template => readTemplate?_eq_some_iff,
    escapeTemplate_injective, ?count, ?lineBreak, ?kept⟩
  case count => rw [Heredoc.lines_escapeTemplate, List.length_map]
  case lineBreak => rw [getLast?_escapeTemplate]
  case kept =>
    intro i line hline
    rw [Heredoc.lines_escapeTemplate, List.getElem?_map, hline, Option.map_some, Option.some.injEq,
      escapeTemplate_eq_self_iff]

/-- A text with runs of signs before braces, and a line of signs without one. -/
def signRuns : String := "$$$\x7bx\x7d %%\x7b $%\x7b %$\x7b\n$ %% \x7b$\n"

/-- Its template doubles the sign next to each brace and leaves the second line. -/
theorem signRuns_read_back :
    readTemplate? "$$$$\x7bx\x7d %%%\x7b $%%\x7b %$$\x7b\n$ %% \x7b$\n".toList =
        some signRuns.toList ∧
      (lines (escapeTemplate signRuns.toList))[1]? = some "$ %% \x7b$".toList := by
  obtain ⟨-, hread, -, -, -, hlines⟩ := escaping_read_back signRuns.toList
  have hline : (lines signRuns.toList)[1]? = some "$ %% \x7b$".toList := by decide +kernel
  exact ⟨(hread _).mpr (by decide +kernel), (hlines 1 _ hline).mpr (by decide +kernel)⟩

end KubeHcl.Hcl
