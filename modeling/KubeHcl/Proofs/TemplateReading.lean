import KubeHcl.Hcl.Template

/-!
# Reading templates

A template is read from the left, and a doubled marker is read as the marker. Markers are doubled in
two passes, one for each sign, but the passes do not get in each other's way: the result is that of
a single pass over all markers, which reading undoes.
-/

namespace KubeHcl.Hcl

/-- The text of a template in which every marker stands doubled. -/
def readTemplate : List Char → List Char
  | c :: d :: e :: rest =>
    if isSign c ∧ d = c ∧ e = '\x7b' then c :: e :: readTemplate rest
    else c :: readTemplate (d :: e :: rest)
  | cs => cs

/-- The text of a template, if no marker in it opens an interpolation or a directive. -/
def readTemplate? : List Char → Option (List Char)
  | c :: d :: e :: rest =>
    if isSign c ∧ d = c ∧ e = '\x7b' then (readTemplate? rest).map (c :: e :: ·)
    else if isSign c ∧ d = '\x7b' then none
    else (readTemplate? (d :: e :: rest)).map (c :: ·)
  | [c, d] => if isSign c ∧ d = '\x7b' then none else some [c, d]
  | cs => some cs

variable {sign c : Char} {cs rest : List Char}

/-- The characters that start a marker when a brace follows. -/
theorem isSign_iff : isSign c = true ↔ c = '$' ∨ c = '%' := by
  simp [isSign]

/-- To show something of every text, show it of a text with a marker in front, and of one with any
other character in front, from the rest of it. -/
@[elab_as_elim]
theorem marker_induction {motive : List Char → Prop} (cs : List Char) (nil : motive [])
    (marker : ∀ sign rest, isSign sign = true → motive rest → motive (sign :: '\x7b' :: rest))
    (kept : ∀ c rest, ¬(isSign c ∧ rest.head? = some '\x7b') → motive rest → motive (c :: rest)) :
    motive cs :=
  match cs with
  | [] => nil
  | [c] => kept c [] (by simp) nil
  | c :: d :: rest => by
    by_cases hmarker : isSign c ∧ d = '\x7b'
    · obtain ⟨hsign, rfl⟩ := hmarker
      exact marker c rest hsign (marker_induction rest nil marker kept)
    · exact kept c (d :: rest) (by simpa using hmarker)
        (marker_induction (d :: rest) nil marker kept)

/-- What starts no marker of the sign is kept. -/
theorem doubleSign_cons (hkept : ¬(c = sign ∧ cs.head? = some '\x7b')) :
    doubleSign sign (c :: cs) = c :: doubleSign sign cs := by
  cases cs with
  | nil => rfl
  | cons d rest =>
    have hmarker : ¬(c = sign ∧ d = '\x7b') := by simpa using hkept
    rw [doubleSign, if_neg hmarker]

/-- A text starts with the same character after its markers of a sign were doubled. -/
theorem head?_doubleSign (sign : Char) (cs : List Char) :
    (doubleSign sign cs).head? = cs.head? := by
  cases cs with
  | nil => rfl
  | cons c cs =>
    by_cases hmarker : c = sign ∧ cs.head? = some '\x7b'
    · obtain ⟨rfl, hbrace⟩ := hmarker
      obtain ⟨rest, rfl⟩ : ∃ rest, cs = '\x7b' :: rest := List.head?_eq_some_iff.mp hbrace
      simp [doubleSign]
    · rw [doubleSign_cons hmarker]
      rfl

/-- A text starts with the same character after its markers were doubled. -/
theorem head?_escapeTemplate (cs : List Char) : (escapeTemplate cs).head? = cs.head? := by
  rw [escapeTemplate, head?_doubleSign, head?_doubleSign]

/-- A text ends with the same character after its markers of a sign were doubled. -/
theorem getLast?_doubleSign (sign : Char) (cs : List Char) :
    (doubleSign sign cs).getLast? = cs.getLast? := by
  fun_induction doubleSign sign cs with
  | case1 => rfl
  | case2 c => rfl
  | case3 c d rest hmarker ih => simp only [List.getLast?_cons, ih, Option.getD_some]
  | case4 c d rest hmarker ih => rw [List.getLast?_cons, ih, List.getLast?_cons (a := c)]

/-- A text ends with the same character after its markers were doubled. -/
theorem getLast?_escapeTemplate (cs : List Char) :
    (escapeTemplate cs).getLast? = cs.getLast? := by
  rw [escapeTemplate, getLast?_doubleSign, getLast?_doubleSign]

/-- What starts no marker is kept. -/
theorem escapeTemplate_cons (hkept : ¬(isSign c ∧ cs.head? = some '\x7b')) :
    escapeTemplate (c :: cs) = c :: escapeTemplate cs := by
  have hdollar : ¬(c = '$' ∧ cs.head? = some '\x7b') := by
    rintro ⟨rfl, hbrace⟩
    exact hkept ⟨rfl, hbrace⟩
  have hpercent : ¬(c = '%' ∧ (doubleSign '$' cs).head? = some '\x7b') := by
    rw [head?_doubleSign]
    rintro ⟨rfl, hbrace⟩
    exact hkept ⟨rfl, hbrace⟩
  rw [escapeTemplate, doubleSign_cons hdollar, doubleSign_cons hpercent, escapeTemplate]

/-- A marker is doubled, whichever sign it has. -/
theorem escapeTemplate_marker (hsign : isSign c = true) (rest : List Char) :
    escapeTemplate (c :: '\x7b' :: rest) = c :: c :: '\x7b' :: escapeTemplate rest := by
  have hbrace : ∀ sign cs, sign ≠ '\x7b' →
      doubleSign sign ('\x7b' :: cs) = '\x7b' :: doubleSign sign cs := by
    intro sign cs hne
    exact doubleSign_cons (fun hmarker => hne hmarker.1.symm)
  rcases isSign_iff.mp hsign with rfl | rfl
  · -- The second pass finds the doubled dollar signs and leaves them.
    have hfirst : doubleSign '$' ('$' :: '\x7b' :: rest) =
        '$' :: '$' :: '\x7b' :: doubleSign '$' rest := by
      simp [doubleSign]
    rw [escapeTemplate, hfirst, doubleSign_cons (by simp), doubleSign_cons (by simp),
      hbrace _ _ (by decide), escapeTemplate]
  · have hfirst : doubleSign '$' ('%' :: '\x7b' :: rest) =
        '%' :: '\x7b' :: doubleSign '$' rest := by
      rw [doubleSign_cons (by simp), hbrace _ _ (by decide)]
    rw [escapeTemplate, hfirst, doubleSign, if_pos ⟨rfl, rfl⟩, escapeTemplate]

/-- A template does not start with a marker that is not doubled. -/
theorem escapeTemplate_ne_marker (hsign : isSign c = true) :
    escapeTemplate cs ≠ c :: '\x7b' :: rest := by
  intro heq
  induction cs using marker_induction with
  | nil => cases heq
  | marker sign ds hsign' _ =>
    rw [escapeTemplate_marker hsign'] at heq
    obtain ⟨-, hsecond⟩ := List.cons.inj heq
    obtain ⟨rfl, -⟩ := List.cons.inj hsecond
    cases hsign'
  | kept d ds hkept _ =>
    rw [escapeTemplate_cons hkept] at heq
    obtain ⟨rfl, hrest⟩ := List.cons.inj heq
    have hhead := congrArg List.head? hrest
    rw [head?_escapeTemplate] at hhead
    exact hkept ⟨hsign, hhead⟩

/-- What starts no marker, doubled or not, is read as it stands. -/
theorem readTemplate?_cons (hdoubled : ∀ rest, isSign c = true → cs ≠ c :: '\x7b' :: rest)
    (hopen : ¬(isSign c ∧ cs.head? = some '\x7b')) :
    readTemplate? (c :: cs) = (readTemplate? cs).map (c :: ·) := by
  cases cs with
  | nil => rfl
  | cons d cs =>
    have hopen' : ¬(isSign c = true ∧ d = '\x7b') := by simpa using hopen
    cases cs with
    | nil => simp only [readTemplate?, if_neg hopen', Option.map_some]
    | cons e rest =>
      have hmarker : ¬(isSign c = true ∧ d = c ∧ e = '\x7b') := by
        rintro ⟨hsign, rfl, rfl⟩
        exact hdoubled rest hsign rfl
      rw [readTemplate?, if_neg hmarker, if_neg hopen']

/-- A text with its markers doubled opens nothing, and is read as the text. -/
theorem readTemplate?_escapeTemplate (cs : List Char) :
    readTemplate? (escapeTemplate cs) = some cs := by
  induction cs using marker_induction with
  | nil => rfl
  | marker sign rest hsign ih =>
    rw [escapeTemplate_marker hsign, readTemplate?, if_pos ⟨hsign, rfl, rfl⟩, ih, Option.map_some]
  | kept c rest hkept ih =>
    have hopen : ¬(isSign c ∧ (escapeTemplate rest).head? = some '\x7b') := by
      rwa [head?_escapeTemplate]
    rw [escapeTemplate_cons hkept,
      readTemplate?_cons (fun _ hsign => escapeTemplate_ne_marker hsign) hopen, ih, Option.map_some]

/-- What opens nothing is the text it is read as with the markers doubled. -/
theorem eq_escapeTemplate_of_readTemplate? : ∀ {template text : List Char},
    readTemplate? template = some text → template = escapeTemplate text
  | [], _, hread => by
    cases hread
    rfl
  | [c], _, hread => by
    cases hread
    rw [escapeTemplate_cons (by simp)]
    rfl
  | [c, d], _, hread => by
    rw [readTemplate?] at hread
    split at hread
    · cases hread
    · next hopen =>
      cases hread
      rw [escapeTemplate_cons (by simpa using hopen), escapeTemplate_cons (by simp)]
      rfl
  | c :: d :: e :: rest, _, hread => by
    rw [readTemplate?] at hread
    split at hread
    · next hmarker =>
      obtain ⟨hsign, rfl, rfl⟩ := hmarker
      obtain ⟨text, hrest, rfl⟩ := Option.map_eq_some_iff.mp hread
      rw [escapeTemplate_marker hsign, ← eq_escapeTemplate_of_readTemplate? hrest]
    · split at hread
      · cases hread
      · next hopen =>
        obtain ⟨text, hrest, rfl⟩ := Option.map_eq_some_iff.mp hread
        have htemplate := eq_escapeTemplate_of_readTemplate? hrest
        -- The text goes on as its template does, so the character starts no marker there either.
        have hkept : ¬(isSign c ∧ text.head? = some '\x7b') := by
          rw [← head?_escapeTemplate, ← htemplate]
          simpa using hopen
        rw [escapeTemplate_cons hkept, ← htemplate]

/-- The templates that open nothing are the texts with their markers doubled. -/
theorem readTemplate?_eq_some_iff {template text : List Char} :
    readTemplate? template = some text ↔ template = escapeTemplate text := by
  constructor
  · exact eq_escapeTemplate_of_readTemplate?
  · rintro rfl
    exact readTemplate?_escapeTemplate text

/-- Different texts have different templates. -/
theorem escapeTemplate_injective : Function.Injective escapeTemplate := by
  intro cs ds heq
  have hread := readTemplate?_escapeTemplate cs
  rw [heq, readTemplate?_escapeTemplate] at hread
  exact (Option.some.inj hread).symm

/-- Reading that pays no heed to open markers gives the same where there are none. -/
theorem readTemplate_of_readTemplate? :
    ∀ {cs text : List Char}, readTemplate? cs = some text → readTemplate cs = text
  | [], _, hread | [_], _, hread => Option.some.inj hread
  | [c, d], text, hread => by
    rw [readTemplate?] at hread
    split at hread
    · cases hread
    · exact Option.some.inj hread
  | c :: d :: e :: rest, text, hread => by
    rw [readTemplate?] at hread
    rw [readTemplate]
    split at hread
    · next hmarker =>
      obtain ⟨text', hrest, rfl⟩ := Option.map_eq_some_iff.mp hread
      rw [if_pos hmarker, readTemplate_of_readTemplate? hrest]
    · next hmarker =>
      split at hread
      · cases hread
      · obtain ⟨text', hrest, rfl⟩ := Option.map_eq_some_iff.mp hread
        rw [if_neg hmarker, readTemplate_of_readTemplate? hrest]

/-- Reading undoes the doubling of markers. -/
theorem readTemplate_escapeTemplate (cs : List Char) : readTemplate (escapeTemplate cs) = cs :=
  readTemplate_of_readTemplate? (readTemplate?_escapeTemplate cs)

end KubeHcl.Hcl
