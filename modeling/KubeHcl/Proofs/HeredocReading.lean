import KubeHcl.Hcl.Layout
import KubeHcl.Placeholder
import KubeHcl.Proofs.DelimiterSearch
import KubeHcl.Proofs.TemplateReading

/-!
# Reading heredocs

A heredoc is read line by line up to the first line that is its delimiter, blanks around it aside,
and what was read up to there is read as a template. The delimiter of a heredoc is the first of
endlessly many that is no line of its template, so reading stops where the heredoc ends, and nowhere
before.
-/

namespace KubeHcl.Hcl.Heredoc

/-- What stands before the first line that is the delimiter, each line with its line break, and the
lines after that one. -/
def bodyBefore? (delimiter : List Char) : List (List Char) → Option (List Char × List (List Char))
  | [] => none
  | line :: rest =>
    if Unicode.trim line = delimiter then some ([], rest)
    else (bodyBefore? delimiter rest).map fun (body, after) => (line ++ '\n' :: body, after)

/-- The text of the heredoc that stands at the front, and the lines after the one that ends it. -/
def read? : List Char → Option (List Char × List (List Char))
  | '<' :: '<' :: cs =>
    match cs.splitOn '\n' with
    | delimiter :: lines => do
      let (body, after) ← bodyBefore? delimiter lines
      let text ← readTemplate? body
      pure (text, after)
    | [] => none
  | _ => none

/-- A heredoc with a template that ends with a line break, as it is written. -/
def printed (block : Heredoc) : List Char :=
  '<' :: '<' :: block.delimiter.toList ++ '\n' :: block.template.toList ++ block.delimiter.toList

/-! ## Delimiters -/

/-- The delimiter of a heredoc is one of those that are tried, and no line of the template is read
as it. -/
theorem delimiter_spec (text : String) : ∃ i, (ofText text).delimiter.toList = candidate i ∧
    ∀ line ∈ lines (ofText text).template.toList, Unicode.trim line ≠ candidate i := by
  simp only [ofText, String.toList_ofList]
  obtain ⟨_, -, hfinds⟩ := delimiterFor_finds (escapeTemplate text.toList)
  obtain ⟨hdelimiter, hfree, -⟩ := hfinds.spec
  exact ⟨_, hdelimiter, fun line hline heq => hfree ⟨line, hline, heq⟩⟩

/-! ## Lines -/

/-- A line break that ends a text starts no further line. -/
theorem lines_append_newLine (cs : List Char) : lines (cs ++ ['\n']) = cs.splitOn '\n' := by
  induction cs with
  | nil => rfl
  | cons c cs ih =>
    obtain ⟨line, rest, hsplit⟩ := List.exists_cons_of_ne_nil (List.splitOn_ne_nil '\n' cs)
    rw [List.cons_append, lines, ih, List.splitOn_cons_eq_if_modifyHead, hsplit]
    by_cases hc : c = '\n' <;> simp [hc]

/-- Lines with their line breaks make up the text again. -/
theorem flatMap_splitOn (cs : List Char) :
    (cs.splitOn '\n').flatMap (· ++ ['\n']) = cs ++ ['\n'] := by
  induction cs with
  | nil => rfl
  | cons c cs ih =>
    obtain ⟨line, rest, hsplit⟩ := List.exists_cons_of_ne_nil (List.splitOn_ne_nil '\n' cs)
    rw [hsplit, List.flatMap_cons] at ih
    rw [List.splitOn_cons_eq_if_modifyHead, hsplit]
    by_cases hc : c = '\n' <;> simp [hc, ← ih]

/-- Reading goes up to the delimiter when no line before it is one. -/
theorem bodyBefore?_append {delimiter : List Char} {before after : List (List Char)}
    (hbefore : ∀ line ∈ before, Unicode.trim line ≠ delimiter)
    (hdelimiter : Unicode.trim delimiter = delimiter) :
    bodyBefore? delimiter (before ++ delimiter :: after) =
      some (before.flatMap (· ++ ['\n']), after) := by
  induction before with
  | nil => simp [bodyBefore?, hdelimiter]
  | cons line before ih =>
    obtain ⟨hline, hrest⟩ := List.forall_mem_cons.mp hbefore
    rw [List.cons_append, bodyBefore?, if_neg hline, ih hrest]
    simp

/-! ## Blocks -/

/-- A heredoc whose template ends with a line break is written as it is printed. -/
theorem write_eq_printed {block : Heredoc} (hlast : block.template.toList.getLast? = some '\n')
    (l : Layout) : block.write l = l.chars block.printed := by
  rw [write, writeFrom, if_pos hlast]
  simp [Layout.put, Layout.chars, printed, List.reverseAux_eq]

variable {text : String}

/-- The template of a text that fits ends with a line break, as the text does. -/
theorem getLast?_template (hfits : fits text = true) :
    (ofText text).template.toList.getLast? = some '\n' := by
  have hlast : text.toList.getLast? = some '\n' := by
    simp only [fits, Bool.and_eq_true, beq_iff_eq] at hfits
    exact hfits.1
  rw [ofText, String.toList_ofList, getLast?_escapeTemplate, hlast]

/-- A heredoc is read as its text up to the line that is its delimiter and no other. -/
theorem read?_printed_append (hfits : fits text = true) {rest : List Char}
    {after : List (List Char)}
    (hlines : ((ofText text).delimiter.toList ++ rest).splitOn '\n' =
      (ofText text).delimiter.toList :: after) :
    read? ((ofText text).printed ++ rest) = some (text.toList, after) := by
  obtain ⟨body, hbody⟩ := List.getLast?_eq_some_iff.mp (getLast?_template hfits)
  obtain ⟨i, hdelimiter, hlines_ne⟩ := delimiter_spec text
  rw [hbody, lines_append_newLine] at hlines_ne
  rw [hdelimiter] at hlines
  have htemplate : body ++ ['\n'] = escapeTemplate text.toList := by
    rw [← hbody, ofText, String.toList_ofList]
  have hprinted : (ofText text).printed ++ rest =
      '<' :: '<' :: (candidate i ++ '\n' :: (body ++ '\n' :: (candidate i ++ rest))) := by
    simp [printed, hdelimiter, hbody]
  rw [hprinted, read?, List.splitOn_append_cons_self_of_not_mem (newLine_notMem_candidate i),
    List.splitOn_append_cons_self, hlines]
  simp only [bodyBefore?_append hlines_ne (trim_candidate i), flatMap_splitOn, htemplate,
    Option.bind_eq_bind, Option.bind_some, readTemplate?_escapeTemplate]
  rfl

/-- A text that fits a heredoc is what the heredoc reads back as, wherever it is written: reading
meets no open marker and goes up to the last line that was written, whatever stands on the lines
after it. -/
theorem heredoc_reads_back (hfits : fits text = true) (l : Layout) :
    (Placeholder.block (ofText text)).toExpression.write l = l.chars (ofText text).printed ∧
      read? (ofText text).printed = some (text.toList, []) ∧
      ∀ after, read? ((ofText text).printed ++ '\n' :: after) =
        some (text.toList, after.splitOn '\n') := by
  obtain ⟨i, hdelimiter, -⟩ := delimiter_spec text
  have hline := newLine_notMem_candidate i
  rw [← hdelimiter] at hline
  refine ⟨write_eq_printed (getLast?_template hfits) l, ?_, fun after => ?_⟩
  · have hlast : ((ofText text).delimiter.toList ++ []).splitOn '\n' =
        [(ofText text).delimiter.toList] := by
      rw [List.append_nil, List.splitOn_eq_singleton hline]
    have hread := read?_printed_append hfits hlast
    rwa [List.append_nil] at hread
  · exact read?_printed_append hfits (List.splitOn_append_cons_self_of_not_mem hline _)

/-- A text with lines that are delimiters but for blanks, and with runs of signs before braces. -/
def hardText : String :=
  "  EOF\t\nEOF_1\n$$$\x7bx\x7d %%\x7b $%\x7b\n%$\x7b\n\n \x7b%\n"

/-- Its heredoc has the third delimiter and reads back as the text. -/
theorem hardText_reads_back : fits hardText = true ∧ (ofText hardText).delimiter = "EOF_2" ∧
    read? (ofText hardText).printed = some (hardText.toList, []) := by
  have hfits : fits hardText = true := by decide +kernel
  have hdelimiter : (ofText hardText).delimiter = "EOF_2" := by decide +kernel
  exact ⟨hfits, hdelimiter, (heredoc_reads_back hfits {}).2.1⟩

end KubeHcl.Hcl.Heredoc
