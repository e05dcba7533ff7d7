import KubeHcl.Json.Reader
import KubeHcl.Json.Text

/-!
# Numbers read back

A number is written as a literal: a sign, digits before and after the point and an exponent. Where
no digit follows, the reader finds just these parts again, and the number is read as what the
literal is worth. The two roundings on the way need not give the number back.
-/

namespace KubeHcl.Json

/-- What may stand behind a value: a comma, the end of a collection, or nothing. -/
def Ends (rest : List Char) : Prop := ∀ c ∈ rest.head?, c = ',' ∨ c = ']' ∨ c = '\x7d'

/-- Whether a text does not go on with a digit. -/
def NoDigit (rest : List Char) : Prop := ∀ c ∈ rest.head?, c.isDigit = false

/-- What stands behind a value is no digit. -/
theorem Ends.noDigit {rest : List Char} (hrest : Ends rest) : NoDigit rest := by
  intro c hc
  rcases hrest c hc with rfl | rfl | rfl <;> rfl

/-- Digits are read up to where they end. -/
theorem readDigits_append {digits rest : List Char} (hne : digits ≠ [])
    (hdigits : ∀ c ∈ digits, c.isDigit = true) (hrest : NoDigit rest) :
    readDigits (digits ++ rest) = .ok (digits, rest) := by
  have htake : rest.takeWhile Char.isDigit = [] := by
    cases rest with
    | nil => rfl
    | cons c rest => simp [hrest c rfl]
  have hdrop : rest.dropWhile Char.isDigit = rest := by
    cases rest with
    | nil => rfl
    | cons c rest => simp [hrest c rfl]
  simp only [readDigits, List.takeWhile_append_of_pos hdigits,
    List.dropWhile_append_of_pos hdigits, htake, hdrop, List.append_nil]
  rw [if_neg (by simpa using hne)]

/-- Digits of a natural number are digits. -/
theorem isDigit_of_mem_natText {n : Nat} {c : Char} (hc : c ∈ natText n) : c.isDigit = true :=
  Nat.isDigit_of_mem_toDigits (by decide) (by decide) hc

/-- A natural number has digits. -/
theorem natText_ne_nil (n : Nat) : natText n ≠ [] := Nat.toDigits_ne_nil

namespace Literal

/-- The exponent of a literal, always with a sign. -/
def exponentText (l : Literal) : List Char :=
  match l.exponent with
  | none => []
  | some e => 'e' :: (if e.negative then '-' else '+') :: e.digits

/-- The point and the digits after it, if there are any. -/
def fractionText (l : Literal) : List Char :=
  if l.fraction.isEmpty then [] else '.' :: l.fraction

/-- A literal without its sign. -/
def unsignedText (l : Literal) : List Char := l.whole ++ (l.fractionText ++ l.exponentText)

/-- A literal as it is written. -/
def text (l : Literal) : List Char := if l.negative then '-' :: l.unsignedText else l.unsignedText

/-- The parts of a literal are digits, and there are some where there have to be. -/
structure WellFormed (l : Literal) : Prop where
  whole_ne : l.whole ≠ []
  whole : ∀ c ∈ l.whole, c.isDigit = true
  fraction : ∀ c ∈ l.fraction, c.isDigit = true
  exponent : ∀ e ∈ l.exponent, e.digits ≠ [] ∧ ∀ c ∈ e.digits, c.isDigit = true

/-- What a literal is worth. A zero before the point stands alone. -/
def read (l : Literal) : Except Fault Tree :=
  if l.whole.head? = some '0' ∧ 1 < l.whole.length then .error .malformed else l.value

/-- A literal is worth a number, if anything. -/
theorem read_eq_number {l : Literal} {t : Tree} (hread : l.read = .ok t) :
    (∃ n, t = .int n) ∨ ∃ x, t = .float x := by
  unfold read at hread
  split at hread
  · cases hread
  · obtain ⟨whole, n, hvalue⟩ : ∃ (whole : Bool) (n : Int), l.value =
        if whole then .ok (.int n) else l.toFloat.map .float := ⟨_, _, rfl⟩
    rw [hvalue] at hread
    cases whole with
    | true =>
      cases hread
      exact .inl ⟨n, rfl⟩
    | false =>
      cases hfloat : l.toFloat with
      | error fault =>
        rw [hfloat] at hread
        cases hread
      | ok x =>
        rw [hfloat] at hread
        cases hread
        exact .inr ⟨x, rfl⟩

section Reading

variable {l : Literal} {rest : List Char}

/-- The exponent is found again. -/
theorem readExponent_text (hl : l.WellFormed) (hrest : Ends rest) :
    readExponent (l.exponentText ++ rest) = .ok (l.exponent, rest) := by
  unfold exponentText
  cases hexponent : l.exponent with
  | none =>
    cases rest with
    | nil => rfl
    | cons c rest =>
      have hc : ¬(c = 'e' ∨ c = 'E') := by
        rcases hrest c rfl with rfl | rfl | rfl <;> decide
      simp only [List.nil_append, readExponent, if_neg hc]
      rfl
  | some e =>
    obtain ⟨negative, digits⟩ := e
    obtain ⟨hne, hdigits⟩ := hl.exponent _ hexponent
    have hread := readDigits_append hne hdigits hrest.noDigit
    cases negative <;> simp [readExponent, hread, Functor.map, Except.map]

/-- Behind the digits stands no further one, and no point either. -/
theorem exponentText_head? (hrest : Ends rest) :
    ∀ c ∈ (l.exponentText ++ rest).head?, c.isDigit = false ∧ c ≠ '.' := by
  intro c hc
  unfold exponentText at hc
  split at hc
  · rcases hrest c hc with rfl | rfl | rfl <;> decide
  · cases hc
    decide

/-- The digits after the point are found again. -/
theorem readFraction_text (hl : l.WellFormed) (hrest : Ends rest) :
    readFraction (l.fractionText ++ (l.exponentText ++ rest)) =
      .ok (l.fraction, l.exponentText ++ rest) := by
  have hhead := exponentText_head? (l := l) hrest
  unfold fractionText
  split
  · next hempty =>
    rw [List.isEmpty_iff.mp hempty, List.nil_append]
    unfold readFraction
    split
    · next tail hpoint =>
      rw [hpoint] at hhead
      exact absurd rfl (hhead '.' rfl).2
    · rfl
  · next hsome =>
    have hne : l.fraction ≠ [] := by simpa using hsome
    exact readDigits_append hne hl.fraction fun c hc => (hhead c hc).1

/-- No digit stands behind the digits before the point. -/
theorem noDigit_fractionText (hrest : Ends rest) :
    NoDigit (l.fractionText ++ (l.exponentText ++ rest)) := by
  unfold fractionText
  split
  · exact fun c hc => (exponentText_head? hrest c hc).1
  · rintro c ⟨⟩
    rfl

/-- Reads what follows the sign of a number. -/
def readUnsigned (negative : Bool) (cs : List Char) : Except Fault (Tree × List Char) := do
  let (whole, cs) ← readDigits cs
  if whole.head? = some '0' ∧ 1 < whole.length then throw .malformed
  let (fraction, cs) ← readFraction cs
  let (exponent, cs) ← readExponent cs
  let value ← Literal.value ⟨negative, whole, fraction, exponent⟩
  pure (value, cs)

/-- Without a sign a number is not negative. -/
theorem readNumber_of_head? {cs : List Char} (hsign : cs.head? ≠ some '-') :
    readNumber cs = readUnsigned false cs := by
  unfold readNumber
  split
  next negative unsigned heq =>
    split at heq
    · exact absurd rfl hsign
    · cases heq
      rfl

/-- All parts behind the sign are found again. -/
theorem readUnsigned_text (hl : l.WellFormed) (hrest : Ends rest) :
    readUnsigned l.negative (l.unsignedText ++ rest) = l.read.map (·, rest) := by
  rw [unsignedText, List.append_assoc, List.append_assoc]
  have hwhole := readDigits_append hl.whole_ne hl.whole (noDigit_fractionText (l := l) hrest)
  simp only [readUnsigned, hwhole, readFraction_text hl hrest, readExponent_text hl hrest, read,
    Bind.bind, Except.bind]
  split
  · rfl
  · cases l.value <;> rfl

/-- A literal is read as what it is worth. -/
theorem readNumber_text (hl : l.WellFormed) (hrest : Ends rest) :
    readNumber (l.text ++ rest) = l.read.map (·, rest) := by
  rw [← readUnsigned_text hl hrest, text]
  cases hnegative : l.negative with
  | true => rfl
  | false =>
    obtain ⟨d, ds, hd⟩ := List.exists_cons_of_ne_nil hl.whole_ne
    refine readNumber_of_head? ?_
    rw [unsignedText, hd]
    rintro ⟨⟩
    have hdigit := hl.whole '-' (by simp [hd])
    cases hdigit

end Reading

/-- The literal of an integer. -/
def ofInt (n : Int) : Literal := ⟨decide (n < 0), natText n.natAbs, [], none⟩

/-- The literal of a decimal with all its digits before the point or with leading zeros. -/
def ofPlain (negative : Bool) (d : Decimal) : Literal :=
  let digits := natText d.digits
  let exponent := d.scientificExponent
  if exponent < 0 then
    ⟨negative, ['0'], List.replicate (-exponent - 1).toNat '0' ++ digits, none⟩
  else
    let whole := exponent.toNat + 1
    let fraction := digits.drop whole
    ⟨negative, digits.take whole ++ List.replicate (whole - digits.length) '0',
      if fraction.isEmpty then ['0'] else fraction, none⟩

/-- The literal of a decimal with one digit before the point and an exponent. -/
def ofScientific (negative : Bool) (d : Decimal) : Literal :=
  let digits := natText d.digits
  let exponent := d.scientificExponent
  ⟨negative, digits.take 1, digits.drop 1, some ⟨decide (exponent < 0), natText exponent.natAbs⟩⟩

/-- The literal of a double. -/
def ofFloat (x : Binary64) : Literal :=
  let d := Decimal.shortest x
  let exponent := d.scientificExponent
  if floatStyle.leastPlain ≤ exponent && exponent ≤ floatStyle.greatestPlain then
    .ofPlain x.negative d
  else .ofScientific x.negative d

/-- The parts of an integer are digits. -/
theorem wellFormed_ofInt (n : Int) : (ofInt n).WellFormed where
  whole_ne := natText_ne_nil _
  whole := fun _ => isDigit_of_mem_natText
  fraction := by simp [ofInt]
  exponent := by simp [ofInt]

/-- The parts of a plain decimal are digits. -/
theorem wellFormed_ofPlain (negative : Bool) (d : Decimal) : (ofPlain negative d).WellFormed := by
  have hzeros : ∀ (n : Nat) (c : Char), c ∈ List.replicate n '0' → c.isDigit = true := by
    intro n c hc
    rw [(List.mem_replicate.mp hc).2]
    rfl
  unfold ofPlain
  dsimp only
  split
  · refine ⟨by simp, by simp, ?_, by simp⟩
    intro c hc
    rcases List.mem_append.mp hc with hc | hc
    · exact hzeros _ c hc
    · exact isDigit_of_mem_natText hc
  · refine ⟨by simp [natText_ne_nil], ?_, ?_, by simp⟩
    · intro c hc
      rcases List.mem_append.mp hc with hc | hc
      · exact isDigit_of_mem_natText (List.mem_of_mem_take hc)
      · exact hzeros _ c hc
    · intro c hc
      dsimp only at hc
      split at hc
      · rw [List.mem_singleton.mp hc]
        rfl
      · exact isDigit_of_mem_natText (List.mem_of_mem_drop hc)

/-- The parts of a decimal with an exponent are digits. -/
theorem wellFormed_ofScientific (negative : Bool) (d : Decimal) :
    (ofScientific negative d).WellFormed where
  whole_ne := by simp [ofScientific, natText_ne_nil]
  whole := fun _ hc => isDigit_of_mem_natText (List.mem_of_mem_take hc)
  fraction := fun _ hc => isDigit_of_mem_natText (List.mem_of_mem_drop hc)
  exponent := by
    rintro e ⟨⟩
    exact ⟨natText_ne_nil _, fun _ => isDigit_of_mem_natText⟩

/-- The parts of a double are digits. -/
theorem wellFormed_ofFloat (x : Binary64) : (ofFloat x).WellFormed := by
  unfold ofFloat
  dsimp only
  split
  · exact wellFormed_ofPlain _ _
  · exact wellFormed_ofScientific _ _

/-- A plain decimal has the sign it is given. -/
theorem negative_ofPlain (negative : Bool) (d : Decimal) :
    (ofPlain negative d).negative = negative := by
  unfold ofPlain
  dsimp only
  split <;> rfl

end Literal

/-- An integer is written as its literal. -/
theorem intText_eq (n : Int) : intText n = (Literal.ofInt n).text := by
  simp [intText, Literal.ofInt, Literal.text, Literal.unsignedText, Literal.fractionText,
    Literal.exponentText]

/-- A plain decimal is written as its literal without the sign. -/
theorem plainText_eq (negative : Bool) (d : Decimal) :
    plainText d = (Literal.ofPlain negative d).unsignedText := by
  unfold plainText Literal.ofPlain
  dsimp only
  split
  · simp [Literal.unsignedText, Literal.fractionText, Literal.exponentText, natText_ne_nil]
  · have hfraction : ∀ ds : List Char, (if ds.isEmpty then ['0'] else ds).isEmpty = false := by
      intro ds
      cases ds <;> rfl
    simp only [Literal.unsignedText, Literal.fractionText, Literal.exponentText, hfraction,
      Bool.false_eq_true, if_false, List.append_nil]

/-- A decimal with an exponent is written as its literal without the sign. -/
theorem scientificText_eq (negative : Bool) (d : Decimal) :
    scientificText floatStyle d = (Literal.ofScientific negative d).unsignedText := by
  by_cases hexponent : d.scientificExponent < 0
  · simp [scientificText, Literal.ofScientific, Literal.unsignedText, Literal.fractionText,
      Literal.exponentText, intText, hexponent, Int.not_le.mpr hexponent]
  · simp [scientificText, Literal.ofScientific, Literal.unsignedText, Literal.fractionText,
      Literal.exponentText, intText, hexponent, Int.not_lt.mp hexponent, floatStyle]

/-- A double is written as its literal. -/
theorem floatText_eq (x : Binary64) : floatText floatStyle x = (Literal.ofFloat x).text := by
  unfold floatText Literal.ofFloat
  dsimp only
  by_cases hplain : floatStyle.leastPlain ≤ (Decimal.shortest x).scientificExponent &&
      (Decimal.shortest x).scientificExponent ≤ floatStyle.greatestPlain
  · rw [if_pos hplain, if_pos hplain, plainText_eq x.negative, Literal.text,
      Literal.negative_ofPlain]
  · rw [if_neg hplain, if_neg hplain, scientificText_eq x.negative]
    rfl

end KubeHcl.Json
