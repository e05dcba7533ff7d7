import KubeHcl.Proofs.Numerals
import KubeHcl.Rendering

/-!
# Documents written and read

Before it becomes an expression, a document is written as JSON and read again. That changes numbers
at most: every text, every key and the shape of the document come back as they were, whatever
characters are in them. It fails exactly when collections are nested too deep or a number is out of
range.
-/

namespace KubeHcl

namespace Tree

open Json (Literal)

mutual

/-- What a tree is after it was written and read, with collections nested at most `depth` deep.
Numbers become what their literals are worth. -/
def reread? (depth : Nat) : Tree → Option Tree
  | .int n => (Literal.ofInt n).read.toOption
  | .float x => (Literal.ofFloat x).read.toOption
  | .seq items =>
    match depth with
    | 0 => none
    | depth + 1 => (rereadItems? depth items).map .seq
  | .map entries =>
    match depth with
    | 0 => none
    | depth + 1 => (rereadEntries? depth entries).map .ofPairs
  | t => some t

/-- What the items of a sequence are then. -/
def rereadItems? (depth : Nat) : List Tree → Option (List Tree)
  | [] => some []
  | item :: rest => do
    let item ← reread? depth item
    let rest ← rereadItems? depth rest
    pure (item :: rest)

/-- What the entries of a mapping are then. -/
def rereadEntries? (depth : Nat) : List (String × Tree) → Option (List (String × Tree))
  | [] => some []
  | (key, value) :: rest => do
    let entry ← (reread? depth value).map (Prod.mk key)
    let rest ← rereadEntries? depth rest
    pure (entry :: rest)

end

end Tree

namespace Json

section Text

/-- A control character comes back from its four digits. -/
theorem hexValue4?_control :
    ∀ n < 32, hexValue4? '0' '0' (hexDigit (n / 16)) (hexDigit (n % 16)) = some n := by
  decide

/-- An escaped character is read as the character. -/
theorem readText_escapeChar (read : List Char) (c : Char) (rest : List Char) :
    readText read (escapeChar c ++ rest) = readText (c :: read) rest := by
  unfold escapeChar
  split
  case h_8 hquote hbackslash _ _ _ _ _ =>
    split
    · next hcontrol =>
      have hhex := hexValue4?_control c.toNat hcontrol
      have hc : Char.ofNat c.toNat = c := by simp
      simp only [List.cons_append, List.nil_append, readText, hhex]
      rw [if_neg (by omega), if_neg (by omega), hc]
    · next hplain =>
      simp only [List.cons_append, List.nil_append]
      rw [readText]
      · exact if_neg hplain
      all_goals simp_all
  all_goals simp [readText, simpleEscape?]

/-- An escaped text is read up to the quote behind it. -/
theorem readText_escape (read cs rest : List Char) :
    readText read (escape cs ++ '"' :: rest) = .ok (String.ofList (read.reverse ++ cs), rest) := by
  induction cs generalizing read with
  | nil => simp [escape, readText]
  | cons c cs ih =>
    rw [escape, List.flatMap_cons, List.append_assoc, readText_escapeChar]
    refine (ih (c :: read)).trans ?_
    rw [List.reverse_cons, List.append_assoc, List.singleton_append]

/-- Every text comes back as it was. -/
theorem readText_quote (text : String) (rest : List Char) :
    readText [] (escape text.toList ++ '"' :: rest) = .ok (text, rest) := by
  rw [readText_escape, List.reverse_nil, List.nil_append, String.ofList_toList]

end Text

/-- What a computation that may fail gives after another one. -/
theorem toOption_bind {ε α β : Type} (x : Except ε α) (f : α → Except ε β) :
    (x >>= f).toOption = x.toOption.bind fun a => (f a).toOption := by
  cases x <;> rfl

/-- What a computation that may fail gives, changed afterwards. -/
theorem toOption_map {ε α β : Type} (x : Except ε α) (f : α → β) :
    (x.map f).toOption = x.toOption.map f := by
  cases x <;> rfl

/-- What a reader of a first part and then of the others gives, by what it gives for each. -/
theorem toOption_cons {α β : Type} {x : Except Fault (α × List Char)}
    {f : List Char → Except Fault (List α × List Char)} {first? : Option α}
    {others? : Option (List α)} {middle rest : List Char} (make : List α → β)
    (hfirst : x.toOption = first?.map (·, middle))
    (hothers : (f middle).toOption = others?.map (·, rest)) :
    (do
      let (first, cs) ← x
      let (others, cs) ← f cs
      pure (make (first :: others), cs) : Except Fault (β × List Char)).toOption =
      ((do
        let first ← first?
        let others ← others?
        pure (first :: others) : Option (List α)).map make).map (·, rest) := by
  cases x with
  | error fault =>
    cases first? with
    | none => rfl
    | some first => cases hfirst
  | ok result =>
    cases first? with
    | none => cases hfirst
    | some first =>
      obtain rfl := Option.some.inj hfirst
      rw [toOption_bind, Except.toOption, Option.bind_some, toOption_bind, hothers]
      cases others? <;> rfl

section Heads

/-- Where there is no blank, none is dropped. -/
theorem skipBlanks_cons {c : Char} (hc : isBlank c = false) (rest : List Char) :
    skipBlanks (c :: rest) = c :: rest := by
  simp [skipBlanks, hc]

/-- The characters that show to the reader that no number follows. -/
def notInNumber : List Char :=
  [' ', '\n', '\t', '\r', ']', '\x7d', '"', '[', '\x7b', 'n', 't', 'f']

/-- A literal starts with none of these. -/
theorem Literal.text_eq_cons {l : Literal} (hl : l.WellFormed) :
    ∃ c cs, l.text = c :: cs ∧ c ∉ notInNumber := by
  unfold text
  split
  · exact ⟨'-', _, rfl, by decide⟩
  · obtain ⟨d, ds, hd⟩ := List.exists_cons_of_ne_nil hl.whole_ne
    refine ⟨d, _, by rw [unsignedText, hd]; rfl, fun hmem => ?_⟩
    have hdigit := hl.whole d (by simp [hd])
    have hnone : ∀ c ∈ notInNumber, c.isDigit = false := by simp [notInNumber]
    rw [hnone d hmem] at hdigit
    cases hdigit

/-- What is written starts neither with a blank nor like the end of a sequence. -/
theorem write_eq_cons (t : Tree) : ∃ c cs, write t = c :: cs ∧ isBlank c = false ∧ c ≠ ']' := by
  have hliteral : ∀ {l : Literal}, l.WellFormed →
      ∃ c cs, l.text = c :: cs ∧ isBlank c = false ∧ c ≠ ']' := by
    intro l hl
    obtain ⟨c, cs, htext, hc⟩ := l.text_eq_cons hl
    simp only [notInNumber, List.mem_cons, List.not_mem_nil, or_false, not_or] at hc
    exact ⟨c, cs, htext, by simp [isBlank, hc], hc.2.2.2.2.1⟩
  unfold write
  split
  case h_4 n =>
    rw [intText_eq]
    exact hliteral (Literal.wellFormed_ofInt n)
  case h_5 x =>
    rw [floatText_eq]
    exact hliteral (Literal.wellFormed_ofFloat x)
  all_goals exact ⟨_, _, rfl, rfl, by decide⟩

/-- The rest of a sequence may stand behind a value. -/
theorem ends_writeItems (items : List Tree) (rest : List Char) :
    Ends (writeItems items ++ rest) := by
  cases items with
  | nil => rintro c ⟨⟩; exact .inr (.inl rfl)
  | cons item items => rintro c ⟨⟩; exact .inl rfl

/-- The rest of a mapping may stand behind a value. -/
theorem ends_writeEntries (entries : List (String × Tree)) (rest : List Char) :
    Ends (writeEntries entries ++ rest) := by
  cases entries with
  | nil => rintro c ⟨⟩; exact .inr (.inr rfl)
  | cons entry entries => rintro c ⟨⟩; exact .inl rfl

/-- A mapping starts with the key of its first entry. -/
theorem write_map_append (key : String) (value : Tree) (entries : List (String × Tree))
    (rest : List Char) : write (.map ((key, value) :: entries)) ++ rest =
      '\x7b' :: (quote key ++ ':' :: (write value ++ (writeEntries entries ++ rest))) := by
  simp [write]

/-- A further entry starts with a comma. -/
theorem writeEntries_append (key : String) (value : Tree) (entries : List (String × Tree))
    (rest : List Char) : writeEntries ((key, value) :: entries) ++ rest =
      ',' :: (quote key ++ ':' :: (write value ++ (writeEntries entries ++ rest))) := by
  simp [writeEntries]

end Heads

section Steps

variable (fuel depth : Nat) (cs : List Char)

/-- A literal is a value. -/
theorem readValue_literal {l : Literal} {rest : List Char} (hl : l.WellFormed) (hrest : Ends rest) :
    readValue (fuel + 1) depth (l.text ++ rest) = l.read.map (·, rest) := by
  rw [← l.readNumber_text hl hrest]
  obtain ⟨c, cs, htext, hc⟩ := l.text_eq_cons hl
  rw [htext, List.cons_append]
  simp only [notInNumber, List.mem_cons, List.not_mem_nil, or_false, not_or] at hc
  have hblank : isBlank c = false := by simp [isBlank, hc]
  rw [readValue, skipBlanks_cons hblank]
  -- None of the characters that the reader looks for first is there.
  split <;> simp_all

/-- A bracket that is not closed at once starts items. -/
theorem readValue_seq {c : Char} (hblank : isBlank c = false) (hc : c ≠ ']') :
    readValue (fuel + 1) (depth + 1) ('[' :: c :: cs) = (do
      let (item, rest) ← readValue fuel depth (c :: cs)
      let (items, rest) ← readItems fuel depth rest
      pure (.seq (item :: items), rest)) := by
  have hopen : skipBlanks ('[' :: c :: cs) = '[' :: c :: cs := skipBlanks_cons rfl _
  simp only [readValue, hopen, skipBlanks_cons hblank]
  split
  · next heq =>
    cases heq
    exact absurd rfl hc
  · rfl

/-- A brace before a quote starts entries. -/
theorem readValue_map :
    readValue (fuel + 1) (depth + 1) ('\x7b' :: '"' :: cs) = (do
      let (entry, rest) ← readEntry fuel depth ('"' :: cs)
      let (entries, rest) ← readEntries fuel depth rest
      pure (.ofPairs (entry :: entries), rest)) := by
  have hopen : skipBlanks ('\x7b' :: '"' :: cs) = '\x7b' :: '"' :: cs := skipBlanks_cons rfl _
  have hquote : skipBlanks ('"' :: cs) = '"' :: cs := skipBlanks_cons rfl _
  simp only [readValue, hopen, hquote]
  rfl

/-- Behind a comma there is a further item. -/
theorem readItems_comma :
    readItems (fuel + 1) depth (',' :: cs) = (do
      let (item, rest) ← readValue fuel depth cs
      let (items, rest) ← readItems fuel depth rest
      pure (item :: items, rest)) := by
  rw [readItems, skipBlanks_cons rfl]
  rfl

/-- Behind a comma there is a further entry. -/
theorem readEntries_comma :
    readEntries (fuel + 1) depth (',' :: cs) = (do
      let (entry, rest) ← readEntry fuel depth cs
      let (entries, rest) ← readEntries fuel depth rest
      pure (entry :: entries, rest)) := by
  rw [readEntries, skipBlanks_cons rfl]
  rfl

/-- An entry is its key and what the value is read as. -/
theorem readEntry_quote (key : String) {rest : List Char} {value? : Option Tree}
    (hvalue : (readValue fuel depth cs).toOption = value?.map (·, rest)) :
    (readEntry (fuel + 1) depth (quote key ++ ':' :: cs)).toOption =
      (value?.map (Prod.mk key)).map (·, rest) := by
  have hread : readEntry (fuel + 1) depth (quote key ++ ':' :: cs) = (do
      let (value, rest) ← readValue fuel depth cs
      pure ((key, value), rest)) := by
    rw [quote, List.append_assoc, List.cons_append, readEntry, skipBlanks_cons rfl]
    simp only [List.singleton_append, readText_quote, Bind.bind, Except.bind]
    rw [skipBlanks_cons rfl]
    rfl
  rw [hread, toOption_bind, hvalue]
  cases value? <;> rfl

end Steps

mutual

/-- What was written is read, and nothing behind it. The length of the text is fuel enough, for each
step of the reader goes with a character. -/
theorem readValue_write (t : Tree) (fuel depth : Nat) {rest : List Char}
    (hfuel : (write t).length ≤ fuel) (hrest : Ends rest) :
    (readValue fuel depth (write t ++ rest)).toOption = (t.reread? depth).map (·, rest) := by
  obtain ⟨fuel, rfl⟩ : ∃ n, fuel = n + 1 := by
    obtain ⟨c, cs, hwrite, -⟩ := write_eq_cons t
    rw [hwrite, List.length_cons] at hfuel
    exact ⟨fuel - 1, by omega⟩
  cases t with
  | null =>
    rw [write, List.cons_append, readValue, skipBlanks_cons rfl]
    rfl
  | bool b => cases b <;> rw [write, List.cons_append, readValue, skipBlanks_cons rfl] <;> rfl
  | int n =>
    rw [write, intText_eq, readValue_literal _ _ (Literal.wellFormed_ofInt n) hrest, toOption_map]
    rfl
  | float x =>
    rw [write, floatText_eq, readValue_literal _ _ (Literal.wellFormed_ofFloat x) hrest,
      toOption_map]
    rfl
  | text s =>
    rw [write, quote, List.append_assoc, List.cons_append, readValue, skipBlanks_cons rfl]
    simp only [List.singleton_append, readText_quote]
    rfl
  | seq items =>
    cases items with
    | nil =>
      rw [write, List.cons_append, readValue, skipBlanks_cons rfl]
      cases depth <;> rfl
    | cons item items =>
      rw [write, List.append_assoc, List.cons_append]
      cases depth with
      | zero =>
        rw [readValue, skipBlanks_cons rfl]
        rfl
      | succ depth =>
        rw [write, List.length_append, List.length_cons] at hfuel
        have hitem := readValue_write item fuel depth (by omega)
          (ends_writeItems items rest)
        have hitems := readItems_write items fuel depth rest (by omega)
        obtain ⟨c, cs, hwrite, hblank, hc⟩ := write_eq_cons item
        rw [hwrite, List.cons_append] at hitem ⊢
        rw [readValue_seq _ _ _ hblank hc, toOption_cons Tree.seq hitem hitems]
        rfl
  | map entries =>
    cases entries with
    | nil =>
      rw [write, List.cons_append, readValue, skipBlanks_cons rfl]
      cases depth <;> rfl
    | cons entry entries =>
      obtain ⟨key, value⟩ := entry
      have hlength : (write value).length + (writeEntries entries).length + 1 ≤ fuel := by
        simp only [write, quote, List.length_append, List.length_cons] at hfuel
        omega
      obtain ⟨fuel, rfl⟩ : ∃ n, fuel = n + 1 := ⟨fuel - 1, by omega⟩
      rw [write_map_append]
      cases depth with
      | zero =>
        rw [readValue, skipBlanks_cons rfl]
        rfl
      | succ depth =>
        have hvalue := readValue_write value fuel depth (by omega)
          (ends_writeEntries entries rest)
        have hentries := readEntries_write entries (fuel + 1) depth rest
          (by omega)
        have hread := toOption_cons Tree.ofPairs (readEntry_quote _ _ _ key hvalue)
          hentries
        exact (congrArg Except.toOption (readValue_map _ _ _)).trans hread

theorem readItems_write (items : List Tree) (fuel depth : Nat) (rest : List Char)
    (hfuel : (writeItems items).length ≤ fuel) :
    (readItems fuel depth (writeItems items ++ rest)).toOption =
      (Tree.rereadItems? depth items).map (·, rest) := by
  cases items with
  | nil =>
    rw [writeItems, List.length_singleton] at hfuel
    obtain ⟨fuel, rfl⟩ : ∃ n, fuel = n + 1 := ⟨fuel - 1, by omega⟩
    rw [writeItems, List.cons_append, readItems, skipBlanks_cons rfl]
    rfl
  | cons item items =>
    rw [writeItems, List.length_append, List.length_cons] at hfuel
    obtain ⟨fuel, rfl⟩ : ∃ n, fuel = n + 1 := ⟨fuel - 1, by omega⟩
    have hitem := readValue_write item fuel depth (by omega)
      (ends_writeItems items rest)
    have hitems := readItems_write items fuel depth rest (by omega)
    rw [writeItems, List.append_assoc, List.cons_append, readItems_comma]
    exact (toOption_cons id hitem hitems).trans (by rw [Option.map_id]; rfl)

theorem readEntries_write (entries : List (String × Tree)) (fuel depth : Nat) (rest : List Char)
    (hfuel : (writeEntries entries).length ≤ fuel) :
    (readEntries fuel depth (writeEntries entries ++ rest)).toOption =
      (Tree.rereadEntries? depth entries).map (·, rest) := by
  cases entries with
  | nil =>
    rw [writeEntries, List.length_singleton] at hfuel
    obtain ⟨fuel, rfl⟩ : ∃ n, fuel = n + 1 := ⟨fuel - 1, by omega⟩
    rw [writeEntries, List.cons_append, readEntries, skipBlanks_cons rfl]
    rfl
  | cons entry entries =>
    obtain ⟨key, value⟩ := entry
    have hlength : (write value).length + (writeEntries entries).length + 2 ≤ fuel := by
      simp only [writeEntries, quote, List.length_append, List.length_cons] at hfuel
      omega
    obtain ⟨fuel, rfl⟩ : ∃ n, fuel = n + 2 := ⟨fuel - 2, by omega⟩
    have hvalue := readValue_write value fuel depth (by omega)
      (ends_writeEntries entries rest)
    have hentries := readEntries_write entries (fuel + 1) depth rest (by omega)
    have hread := toOption_cons id (readEntry_quote _ _ _ key hvalue) hentries
    rw [writeEntries_append, readEntries_comma]
    exact hread.trans (by rw [Option.map_id]; rfl)

end

/-- A whole text that was written is read as the tree it was written from, but for its numbers. -/
theorem read_write (depth : Nat) (t : Tree) :
    (read depth (write t)).toOption = t.reread? depth := by
  have hends : Ends [] := by simp [Ends]
  have hread := readValue_write t (2 * (write t).length + 2) depth (by omega)
    hends
  rw [List.append_nil] at hread
  rw [read, toOption_bind, hread]
  cases t.reread? depth <;> rfl

end Json

/-- A document is normalized to what it is after it was written and read. -/
theorem normalize_eq_ok_iff {r : Resource} {t : Tree} :
    normalize r = .ok t ↔ r.tree.reread? depthLimit = some t := by
  rw [← Json.read_write, normalize]
  cases Json.read depthLimit (Json.write r.tree) <;> simp [Except.toOption]

end KubeHcl
