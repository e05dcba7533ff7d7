import KubeHcl.Proofs.Declarations
import KubeHcl.Proofs.RenderRun
import KubeHcl.Proofs.ValidNames
import Mathlib.Data.List.Forall2

/-!
# The text of a block

Whatever an expression is, writing it appends to what was written before and ends on the level on
which it began. So a block is written as its type, its labels in quotes and a line for each of its
attributes, on which the name comes first. The text of a file says in this way under which name its
resource is declared.
-/

namespace KubeHcl.Naming

/-- A code point in ranges is no less than where all of them begin. -/
theorem le_of_inRanges {ranges : List (Nat × Nat)} {least n : Nat}
    (hranges : ranges.all (least ≤ ·.1) = true) (hn : Unicode.inRanges ranges n = true) :
    least ≤ n := by
  obtain ⟨⟨low, high⟩, hmem, hrange⟩ := List.any_eq_true.mp hn
  rw [Bool.and_eq_true, decide_eq_true_eq] at hrange
  exact Nat.le_trans (of_decide_eq_true (List.all_eq_true.mp hranges _ hmem)) hrange.1

/-- The dash comes before all other characters that may stand in a name. -/
theorem dash_le_of_isValidPart {c : Char} (hvalid : isValidPart c = true) :
    '-'.toNat ≤ c.toNat := by
  have hstart : Unicode.identifierStart.all ('-'.toNat ≤ ·.1) = true := by decide +kernel
  have hextend : Unicode.identifierExtend.all ('-'.toNat ≤ ·.1) = true := by decide +kernel
  simp only [isValidPart, Unicode.isIdentifierContinue, Unicode.isIdentifierStart,
    Bool.or_eq_true, beq_iff_eq] at hvalid
  rcases hvalid with rfl | hvalid | hvalid
  · exact Nat.le_refl _
  · exact le_of_inRanges hstart hvalid
  · exact le_of_inRanges hextend hvalid

end KubeHcl.Naming

namespace KubeHcl.Hcl

namespace Layout

/-- The layout goes on from another one on the same level, and nothing written is lost. The text is
kept from its end to its start. -/
structure Grows (l l' : Layout) : Prop where
  level_eq : l'.level = l.level
  suffix : l.written <:+ l'.written

variable {l l₁ l' : Layout}

/-- Nothing has to be written. -/
theorem Grows.refl (l : Layout) : l.Grows l := ⟨rfl, List.suffix_refl _⟩

/-- What grows twice grows. -/
theorem Grows.trans (h₁ : l.Grows l₁) (h₂ : l₁.Grows l') : l.Grows l' :=
  ⟨h₂.level_eq.trans h₁.level_eq, h₁.suffix.trans h₂.suffix⟩

/-- Characters are put in front of those that were written before, the last one first. -/
@[simp] theorem written_chars (cs : List Char) (l : Layout) :
    (l.chars cs).written = cs.reverse ++ l.written :=
  List.reverseAux_eq

@[simp] theorem written_put (text : String) (l : Layout) :
    (l.put text).written = text.toList.reverse ++ l.written :=
  written_chars text.toList l

/-- Characters are appended. -/
theorem Grows.chars (h : l.Grows l') (cs : List Char) : l.Grows (l'.chars cs) :=
  h.trans ⟨rfl, written_chars cs l' ▸ List.suffix_append _ _⟩

/-- Text is appended. -/
theorem Grows.put (h : l.Grows l') (text : String) : l.Grows (l'.put text) := h.chars text.toList

/-- Nothing is written when it is noted where the elements are. -/
theorem Grows.noted (h : l.Grows l') (first hasValue : Bool) :
    l.Grows { l' with first, hasValue } :=
  ⟨h.level_eq, h.suffix⟩

/-- A new line is begun. -/
theorem Grows.newLine (h : l.Grows l') : l.Grows l'.newLine := h.chars _

/-- The next element of an array is begun. -/
theorem Grows.beginItem (h : l.Grows l') : l.Grows l'.beginItem := by
  unfold Layout.beginItem
  split
  · exact h.noted _ _
  · exact (h.noted _ _).newLine
  · exact h.put _
  · exact (h.put _).newLine

/-- The next key of an object is begun. -/
theorem Grows.beginKey (h : l.Grows l') : l.Grows l'.beginKey := by
  unfold Layout.beginKey
  split
  · exact (h.noted _ _).put _
  · exact (h.noted _ _).newLine
  · exact h.put _
  · exact h.newLine

/-- An element is ended. -/
theorem Grows.endElement (h : l.Grows l') : l.Grows l'.endElement := h.noted _ _

/-- What is between brackets is one level further in. -/
theorem Grows.bracketed {bracket : String} (h : (l.openBracket bracket).Grows l') :
    l.Grows { l' with level := l'.level - 1 } where
  level_eq := by
    have hinner : (l.openBracket bracket).level = l.level + 1 := rfl
    rw [h.level_eq, hinner, Nat.add_sub_cancel]
  suffix := ((Grows.refl l).put bracket).suffix.trans h.suffix

/-- An array is closed. -/
theorem Grows.closeArray {bracket : String} (h : (l.openBracket bracket).Grows l') :
    l.Grows l'.closeArray := by
  unfold Layout.closeArray
  dsimp only
  split
  · exact h.bracketed.newLine.put _
  · exact h.bracketed.put _

/-- An object is closed. -/
theorem Grows.closeObject {bracket : String} (h : (l.openBracket bracket).Grows l') :
    l.Grows l'.closeObject := by
  unfold Layout.closeObject
  dsimp only
  split
  · split
    · exact (h.bracketed.put _).put _
    · exact h.bracketed.newLine.put _
  · exact h.bracketed.put _

/-- On one line the text grows as it does otherwise. -/
theorem Grows.compactly (h : l.Grows l') {write : Layout → Layout}
    (hwrite : ∀ l : Layout, l.Grows (write l)) : l.Grows (l'.compactly write) := by
  have hinner := hwrite { l' with compact := true }
  exact h.trans ⟨hinner.level_eq, hinner.suffix⟩

end Layout

open Layout

/-- A heredoc is appended. -/
theorem Heredoc.grows_writeFrom (opening : String) (block : Heredoc) (l : Layout) :
    l.Grows (block.writeFrom opening l) := by
  have htemplate :=
    ((((Grows.refl l).put opening).put block.delimiter).put "\n").put block.template
  unfold writeFrom
  dsimp only
  split
  · exact htemplate.put _
  · exact (htemplate.put _).put _

namespace Expression

/-- The names of attributes are appended one after the other. -/
theorem grows_path (path : List String) (l : Layout) :
    l.Grows (path.foldl (fun l name => (l.put ".").put name) l) := by
  induction path generalizing l with
  | nil => exact .refl l
  | cons name rest ih => exact (((Grows.refl l).put ".").put name).trans (ih _)

mutual

/-- Writing an expression appends to what was written. -/
theorem grows_write (e : Expression) (l : Layout) : l.Grows (e.write l) := by
  cases e with
  | array items => exact (grows_writeItems items (l.openBracket "[")).closeArray
  | object entries => exact (grows_writeEntries entries (l.openBracket "\x7b")).closeObject
  | heredoc block => exact block.grows_writeFrom "<<" l
  | indentedHeredoc block => exact block.grows_writeFrom "<<-" l
  | template contents => exact (((Grows.refl l).put "\"").put contents).put "\""
  | attributes root path => exact ((Grows.refl l).put root).trans (grows_path path _)
  | index collection position =>
    exact (((grows_write collection l).put "[").trans (grows_write position _)).put "]"
  | select value selector => exact (grows_write value l).put selector.symbol
  | call function arguments =>
    have hopened := ((Grows.refl l).put function).put "("
    exact (hopened.compactly (grows_writeArguments arguments)).put ")"
  | expandingCall function arguments =>
    have hopened := ((Grows.refl l).put function).put "("
    exact (hopened.compactly (grows_writeArguments arguments)).put "...)"
  | comprehension keyVariable valueVariable collection key value grouped condition =>
    refine (((Grows.refl l).put _).compactly fun l => ?_).put _
    have hkey := ((grows_write collection l).put " : ").trans (grows_writeKey key _)
    have hvalue := hkey.trans (grows_write value _)
    exact (hvalue.put _).trans (grows_writeCondition condition _)
  | paren inner => exact (((Grows.refl l).put "(").trans (grows_write inner _)).put ")"
  | conditional condition whenTrue whenFalse =>
    refine (Grows.refl l).compactly fun l => ?_
    have htrue := ((grows_write condition l).put " ? ").trans (grows_write whenTrue _)
    exact (htrue.put " : ").trans (grows_write whenFalse _)
  | unary operator operand =>
    exact ((Grows.refl l).put operator.symbol).trans (grows_write operand _)
  | binary left operator right =>
    have hoperator := (((grows_write left l).put " ").put operator.symbol).put " "
    exact hoperator.trans (grows_write right _)
  | _ => exact (Grows.refl l).chars _

theorem grows_writeItems (items : List Expression) (l : Layout) :
    l.Grows (writeItems items l) := by
  cases items with
  | nil => exact .refl l
  | cons item rest =>
    have hitem := (Grows.refl l).beginItem.trans (grows_write item _)
    exact hitem.endElement.trans (grows_writeItems rest _)

theorem grows_writeEntries (entries : List (Expression × Expression)) (l : Layout) :
    l.Grows (writeEntries entries l) := by
  cases entries with
  | nil => exact .refl l
  | cons entry rest =>
    obtain ⟨key, value⟩ := entry
    have hkey := ((Grows.refl l).beginKey.trans (grows_write key _)).put " = "
    have hvalue := hkey.trans (grows_write value _)
    exact hvalue.endElement.trans (grows_writeEntries rest _)

theorem grows_writeArguments (arguments : List Expression) (l : Layout) :
    l.Grows (writeArguments arguments l) := by
  cases arguments with
  | nil => exact .refl l
  | cons argument rest =>
    have hargument := grows_write argument l
    cases rest with
    | nil => exact hargument
    | cons next rest =>
      exact (hargument.put ", ").trans (grows_writeArguments (next :: rest) _)

theorem grows_writeKey (key : Option Expression) (l : Layout) : l.Grows (writeKey key l) := by
  cases key with
  | none => exact .refl l
  | some key => exact (grows_write key l).put " => "

theorem grows_writeCondition (condition : Option Expression) (l : Layout) :
    l.Grows (writeCondition condition l) := by
  cases condition with
  | none => exact .refl l
  | some condition => exact ((Grows.refl l).put " if ").trans (grows_write condition _)

end

/-- In some place, the expression is written with these characters. -/
def WrittenAs (e : Expression) (cs : List Char) : Prop :=
  ∃ l : Layout, (e.write l).written = cs.reverse ++ l.written

/-- In every place an expression is written with some characters. -/
theorem written_write (e : Expression) (l : Layout) :
    ∃ cs, e.WrittenAs cs ∧ (e.write l).written = cs.reverse ++ l.written := by
  obtain ⟨cs, hcs⟩ := (e.grows_write l).suffix
  have hwritten : (e.write l).written = cs.reverse.reverse ++ l.written := by
    rw [List.reverse_reverse, hcs]
  exact ⟨cs.reverse, ⟨l, hwritten⟩, hwritten⟩

/-- A variable is written as its name everywhere. -/
theorem writtenAs_variable_iff {name : String} {cs : List Char} :
    (Expression.variable name).WrittenAs cs ↔ cs = name.toList := by
  have hname : ∀ l : Layout, ((Expression.variable name).write l).written =
      name.toList.reverse ++ l.written := fun l => written_chars name.toList l
  constructor
  · rintro ⟨l, hwritten⟩
    rw [hname, List.append_left_inj, List.reverse_inj] at hwritten
    exact hwritten.symm
  · rintro rfl
    exact ⟨{}, hname {}⟩

end Expression

/-- The line that opens a block. -/
def blockHead (type : String) (labels : List String) : List Char :=
  type.toList ++ labels.flatMap (fun label => ' ' :: quote label) ++ " \x7b\n".toList

/-- The lines of an attribute on a level. -/
def attributeLines (level : Nat) (name : String) (value : List Char) : List Char :=
  List.replicate (2 * level) ' ' ++ name.toList ++ " = ".toList ++ value ++ ['\n']

/-- Attributes with names and values. -/
def attributes (pairs : List (String × Expression)) : Body :=
  pairs.map fun (name, value) => .attribute name value

/-- Attributes are written one after the other on the level of their body. -/
theorem writeBody_attributes (pairs : List (String × Expression)) (isFirst : Bool) (l : Layout) :
    ∃ values, List.Forall₂ Expression.WrittenAs (pairs.map Prod.snd) values ∧
      (writeBody isFirst (attributes pairs) l).written =
        (List.zipWith (attributeLines l.level) (pairs.map Prod.fst) values).flatten.reverse ++
          l.written := by
  induction pairs generalizing isFirst l with
  | nil => exact ⟨[], .nil, rfl⟩
  | cons pair rest ih =>
    obtain ⟨name, value⟩ := pair
    let before := (l.indentation.put name).put " = "
    obtain ⟨cs, hcs, hwritten⟩ := value.written_write before
    have hlevel : ((value.write before).put "\n").level = l.level :=
      (value.grows_write before).level_eq
    obtain ⟨values, hvalues, hrest⟩ := ih false ((value.write before).put "\n")
    refine ⟨cs :: values, .cons hcs hvalues, ?_⟩
    have hbefore : before.written = (List.replicate (2 * l.level) ' ' ++ name.toList ++
        " = ".toList).reverse ++ l.written := by
      simp [before, indentation]
    have hline : ((value.write before).put "\n").written =
        (attributeLines l.level name cs).reverse ++ l.written := by
      rw [written_put, hwritten, hbefore]
      simp [attributeLines]
    rw [hlevel, hline] at hrest
    rw [List.map_cons, List.zipWith_cons_cons, List.flatten_cons, List.reverse_append,
      List.append_assoc]
    exact hrest

/-- Labels are written in quotes. -/
theorem written_labels (labels : List String) (l : Layout) :
    (labels.foldl (fun l label => (l.put " ").chars (quote label)) l).written =
      (labels.flatMap fun label => ' ' :: quote label).reverse ++ l.written := by
  induction labels generalizing l with
  | nil => rfl
  | cons label rest ih =>
    rw [List.foldl_cons, ih]
    simp

/-- A block with attributes is written as the line that opens it, its attributes on the level inside
it, and a line with the brace that closes it. -/
theorem toText_block (type : String) (labels : List String)
    (pairs : List (String × Expression)) :
    ∃ values, List.Forall₂ Expression.WrittenAs (pairs.map Prod.snd) values ∧
      (Body.toText [.block (.mk type labels (attributes pairs))]).toList =
        blockHead type labels ++
          (List.zipWith (attributeLines 1) (pairs.map Prod.fst) values).flatten ++
          "\x7d\n".toList := by
  let opened := labels.foldl (fun l label => (l.put " ").chars (quote label))
    (({} : Layout).indentation.put type)
  let inside : Layout := { opened.put " \x7b\n" with level := 1 }
  obtain ⟨values, hvalues, hwritten⟩ := writeBody_attributes pairs true inside
  refine ⟨values, hvalues, ?_⟩
  have hinside : inside.written = (blockHead type labels).reverse := by
    have hopened : inside.written = (opened.put " \x7b\n").written := rfl
    rw [hopened, written_put, written_labels]
    simp [indentation, blockHead]
  have htext : (Body.toText [.block (.mk type labels (attributes pairs))]).toList =
      ((writeBody true (attributes pairs) inside).chars "\x7d\n".toList).written.reverse :=
    String.toList_ofList
  have hlevel : inside.level = 1 := rfl
  rw [htext, written_chars, hwritten, hinside, hlevel]
  simp

/-! ## Names in quotes -/

/-- Without a brace there is no marker to double. -/
theorem escapeQuoted_of_notMem {cs : List Char} (hbrace : '\x7b' ∉ cs) : escapeQuoted cs = cs := by
  induction cs with
  | nil => rfl
  | cons c cs ih =>
    have hrest := ih fun hmem => hbrace (List.mem_cons_of_mem c hmem)
    cases cs with
    | nil => rfl
    | cons d rest =>
      have hd : d ≠ '\x7b' := by
        rintro rfl
        exact hbrace (by simp)
      rw [escapeQuoted, if_neg fun hmarker => hd hmarker.2, hrest]

/-- A character that may stand in a name is not escaped. -/
theorem escapeChar_of_isValidPart {c : Char} (hvalid : Naming.isValidPart c = true) :
    Json.escapeChar c = [c] := by
  have hdash := Naming.dash_le_of_isValidPart hvalid
  have hbackslash : Naming.isValidPart '\\' = false := by decide +kernel
  have hsmall : '-'.toNat = 45 := rfl
  unfold Json.escapeChar
  split
  case h_2 => cases hbackslash.symm.trans hvalid
  case h_8 => exact if_neg (by omega)
  all_goals exact absurd hdash (by decide)

/-- A valid name stands in quotes as it is. -/
theorem quote_of_isValid {name : String} (hvalid : Naming.IsValid name.toList) :
    quote name = '"' :: name.toList ++ ['"'] := by
  have hbrace : '\x7b' ∉ name.toList :=
    Naming.notMem_of_isValid hvalid (by decide +kernel)
  have hplain : ∀ c ∈ name.toList, Json.escapeChar c = [c] := fun c hc =>
    escapeChar_of_isValidPart (Naming.isValidPart_of_mem hvalid hc)
  rw [quote, escapeQuoted_of_notMem hbrace, Json.escape, List.flatMap_congr hplain,
    List.flatMap_singleton']

end KubeHcl.Hcl

namespace KubeHcl

open Hcl

variable {config : Config} {c c' : Collection} {i : Nat} {x : Renderable} {text : String}

/-- What is rendered for a resource is a block with its name as the second label, which selects the
provider, and which has the manifest as the value of the manifest attribute. -/
theorem RendersAt.toList_text (h : RendersAt config c i x text) :
    ∃ r manifest value, c.get? i = some r ∧ x.manifest = .ok manifest ∧ manifest.WrittenAs value ∧
      text.toList = "resource ".toList ++ quote config.resourceType ++ " \"".toList ++
        (Naming.identifier r).toList ++ "\" \x7b\n".toList ++
        attributeLines 1 "provider" config.providerAlias.toList ++
        attributeLines 1
          (String.ofList (Naming.attributeName config.manifestAttribute.toList)) value ++
        "\x7d\n".toList := by
  obtain ⟨r, hget, hname⟩ := h.named
  obtain ⟨body, hbody, rfl⟩ := Renderable.render_ok h.2
  obtain ⟨-, manifest, hmanifest, rfl⟩ := Renderable.declaration_ok hbody
  let field := String.ofList (Naming.attributeName config.manifestAttribute.toList)
  obtain ⟨values, hvalues, htext⟩ := toText_block "resource" [config.resourceType, x.identifier]
    [("provider", .variable config.providerAlias), (field, manifest)]
  cases hvalues with
  | @cons _ provider _ _ hprovider hvalues =>
  cases hvalues with
  | @cons _ value _ _ hvalue hvalues =>
  cases hvalues
  obtain rfl := Expression.writtenAs_variable_iff.mp hprovider
  refine ⟨r, manifest, value, hget, hmanifest, hvalue, htext.trans ?_⟩
  simp [blockHead, quote_of_isValid (Naming.isValid_identifier r), hname, field]

end KubeHcl
