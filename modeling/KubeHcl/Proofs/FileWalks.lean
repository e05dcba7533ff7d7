import KubeHcl.FileSystem
import KubeHcl.Proofs.Entries
import KubeHcl.Proofs.Outcome

/-!
# Walks through a file system

A walk looks at directories and links only. So a walk that gets somewhere gets there again when
directories and links have stayed as they were and nothing else became a link, whatever was added.
And a path goes on from where its beginning leads.
-/

namespace KubeHcl

namespace Path

/-- A name of something in a directory. -/
structure IsName (name : String) : Prop where
  nonempty : name ≠ ""
  noSlash : '/' ∉ name.toList
  notHere : name ≠ "."
  notAbove : name ≠ ".."

variable {name : String}

/-- A slash separates the names of what is before it from those of what is behind it. -/
theorem names_of_slash {path : String} {before after : List Char}
    (hpath : path.toList = before ++ '/' :: after) :
    names path = names (String.ofList before) ++ names (String.ofList after) := by
  simp [names, hpath, List.splitOn_append_cons_self]

/-- A name is a path of its own. -/
theorem IsName.names_eq (h : IsName name) : names name = [name] := by
  simp [names, List.splitOn_eq_singleton h.noSlash, h.nonempty]

/-- A path is what is before its last slash, if it ends with one. -/
theorem toList_of_endsWithSlash {path : String} (hends : endsWithSlash path = true) :
    ∃ front, path.toList = front ++ '/' :: [] := by
  rw [endsWithSlash, beq_iff_eq] at hends
  obtain ⟨front, hfront⟩ := List.getLast?_eq_some_iff.mp hends
  exact ⟨front, hfront⟩

/-- Joining a name to a path adds it to the names that the path goes through. -/
theorem names_join (path : String) (h : IsName name) :
    names (join path name) = names path ++ [name] := by
  unfold join
  split
  · next hcase =>
    rcases (Bool.or_eq_true _ _).mp hcase with hempty | hends
    · obtain rfl := String.isEmpty_iff.mp hempty
      rw [String.empty_append, h.names_eq]
      rfl
    · obtain ⟨front, hfront⟩ := toList_of_endsWithSlash hends
      have hjoined : (path ++ name).toList = front ++ '/' :: name.toList := by
        rw [String.toList_append, hfront, List.append_assoc, List.singleton_append]
      rw [names_of_slash hjoined, names_of_slash hfront, String.ofList_toList, h.names_eq]
      simp [names]
  · have hjoined : (path ++ "/" ++ name).toList = path.toList ++ '/' :: name.toList := by
      simp
    rw [names_of_slash hjoined, String.ofList_toList, String.ofList_toList, h.names_eq]

/-- A path ends with the name that was joined to it. -/
theorem toList_join (path name : String) :
    ∃ front, (join path name).toList = front ++ name.toList := by
  unfold join
  split
  · exact ⟨path.toList, by simp⟩
  · exact ⟨path.toList ++ ['/'], by simp⟩

/-- So it need not lead to a directory. -/
theorem endsWithSlash_join (path : String) (h : IsName name) :
    endsWithSlash (join path name) = false := by
  obtain ⟨front, hfront⟩ := toList_join path name
  have hne : name.toList ≠ [] := by simpa using h.nonempty
  rw [endsWithSlash, hfront, List.getLast?_append, List.getLast?_eq_some_getLast hne,
    Option.some_or, beq_eq_false_iff_ne]
  intro hlast
  exact h.noSlash (Option.some.inj hlast ▸ List.getLast_mem hne)

/-- A path begins where it did before a name was joined to it. -/
theorem isAbsolute_join (path : String) (h : IsName name) :
    isAbsolute (join path name) = isAbsolute path := by
  by_cases hempty : path = ""
  · subst hempty
    have hjoined : join "" name = name := by simp [join]
    have hfirst : name.toList.head? ≠ some '/' := fun hhead => h.noSlash (List.mem_of_head? hhead)
    rw [hjoined, isAbsolute, isAbsolute, beq_eq_false_iff_ne.mpr hfirst]
    rfl
  · have hne : path.toList ≠ [] := by simpa using hempty
    obtain ⟨c, cs, hpath⟩ := List.exists_cons_of_ne_nil hne
    have hhead : (join path name).toList.head? = path.toList.head? := by
      unfold join
      split <;> simp [hpath]
    rw [isAbsolute, isAbsolute, hhead]

end Path

namespace FileSystem

variable {fs fs' fs₁ : FileSystem} {here place : Names} {followLast : Bool}

/-- What was put at a place is there, and everything else stays. -/
theorem get?_put (hplace : place ≠ []) (n : Node) (other : Names) :
    (fs.put place n).get? other = if other = place then some n else fs.get? other := by
  by_cases hother : other = place
  · subst hother
    have hne : other.isEmpty = false := by simpa using hplace
    rw [if_pos rfl, get?, hne, put, Entries.find?_insert_self]
    rfl
  · rw [if_neg hother, get?, get?, put, Entries.find?_insert_of_ne hother]

/-- Directories and links are kept, and nothing else becomes a link. -/
structure Grows (fs fs' : FileSystem) : Prop where
  directory : ∀ place, fs.get? place = some .directory → fs'.get? place = some .directory
  link_iff : ∀ place target,
    fs'.get? place = some (.link target) ↔ fs.get? place = some (.link target)

/-- Nothing has to change. -/
theorem Grows.refl (fs : FileSystem) : fs.Grows fs := ⟨fun _ h => h, fun _ _ => Iff.rfl⟩

/-- What is kept twice is kept. -/
theorem Grows.trans (h₁ : fs.Grows fs₁) (h₂ : fs₁.Grows fs') : fs.Grows fs' where
  directory place hplace := h₂.directory place (h₁.directory place hplace)
  link_iff place target := (h₂.link_iff place target).trans (h₁.link_iff place target)

/-- Something that is no link, put at a place where no directory and no link is. -/
theorem Grows.put {n : Node} (hdirectory : fs.get? place ≠ some .directory)
    (hlink : ∀ target, fs.get? place ≠ some (.link target)) (hn : ∀ target, n ≠ .link target) :
    fs.Grows (fs.put place n) := by
  have hplace : place ≠ [] := by
    rintro rfl
    exact hdirectory rfl
  constructor
  · intro other hother
    have hne : other ≠ place := by
      rintro rfl
      exact hdirectory hother
    rw [get?_put hplace, if_neg hne, hother]
  · intro other target
    rw [get?_put hplace]
    split
    · next heq =>
      subst heq
      exact iff_of_false (by simpa using hn target) (hlink target)
    · exact Iff.rfl

/-! ## Walks -/

/-- From a directory, a name leads on to a place without a link in between. -/
inductive Enters (fs : FileSystem) (here : Names) : String → Names → Prop
  | same : Enters fs here "." here
  | above : Enters fs here ".." here.dropLast
  | below {name : String} (hhere : name ≠ ".") (habove : name ≠ "..")
      (hshort : ¬nameLimit < name.utf8ByteSize)
      (hlink : ∀ target, fs.get? (here ++ [name]) ≠ some (.link target)) :
      Enters fs here name (here ++ [name])

/-- From a directory, a name leads to a link. -/
structure MeetsLink (fs : FileSystem) (here : Names) (name target : String) : Prop where
  notHere : name ≠ "."
  notAbove : name ≠ ".."
  short : ¬nameLimit < name.utf8ByteSize
  link : fs.get? (here ++ [name]) = some (.link target)

variable {name : String} {names rest : List String} {progress : Progress}

/-- A name that leads on is taken. -/
theorem Enters.descend_eq {next : Names} (h : fs.Enters here name next)
    (hhere : fs.get? here = some .directory) :
    fs.descend followLast here (name :: rest) = fs.descend followLast next rest := by
  rw [descend, hhere]
  cases h with
  | same => rfl
  | above => rfl
  | below hne habove hshort hlink =>
    dsimp only
    rw [if_neg hne, if_neg habove, if_neg hshort]
    split
    · next target htarget => exact absurd htarget (hlink target)
    · rfl

/-- At a link the walk is interrupted, unless it may end there. -/
theorem MeetsLink.descend_eq {target : String} (h : fs.MeetsLink here name target)
    (hhere : fs.get? here = some .directory) :
    fs.descend followLast here (name :: rest) =
      if rest.isEmpty && !followLast then .ok (.arrived (here ++ [name]))
      else .ok (.atLink here target rest) := by
  rw [descend, hhere]
  dsimp only
  rw [if_neg h.notHere, if_neg h.notAbove, if_neg h.short, h.link]

/-- Nothing else is possible for a name that can be taken. -/
theorem descend_cons_ok (hdescend : fs.descend followLast here (name :: rest) = .ok progress) :
    fs.get? here = some .directory ∧
      ((∃ next, fs.Enters here name next) ∨ ∃ target, fs.MeetsLink here name target) := by
  rw [descend] at hdescend
  split at hdescend
  case h_1 | h_2 | h_3 => cases hdescend
  case h_4 hhere =>
    refine ⟨hhere, ?_⟩
    split at hdescend
    · next heq =>
      subst heq
      exact .inl ⟨here, .same⟩
    split at hdescend
    · next heq =>
      subst heq
      exact .inl ⟨here.dropLast, .above⟩
    split at hdescend
    · cases hdescend
    next hne habove hshort =>
    cases hnode : fs.get? (here ++ [name]) with
    | none => exact .inl ⟨_, .below hne habove hshort (by simp [hnode])⟩
    | some node =>
      cases node with
      | link target => exact .inr ⟨target, hne, habove, hshort, hnode⟩
      | _ => exact .inl ⟨_, .below hne habove hshort (by simp [hnode])⟩

/-- Where a name leads it leads as long as links are kept. -/
theorem Grows.enters (h : fs.Grows fs') {next : Names} (henters : fs.Enters here name next) :
    fs'.Enters here name next := by
  cases henters with
  | same => exact .same
  | above => exact .above
  | below hne habove hshort hlink =>
    refine .below hne habove hshort fun target htarget => ?_
    exact hlink target ((h.link_iff _ _).mp htarget)

/-- A link that is met is met as long as links are kept. -/
theorem Grows.meetsLink (h : fs.Grows fs') {target : String}
    (hmeets : fs.MeetsLink here name target) : fs'.MeetsLink here name target :=
  { hmeets with link := (h.link_iff _ _).mpr hmeets.link }

/-- A way without links stays as long as directories and links are kept. -/
theorem Grows.descend_eq (h : fs.Grows fs')
    (hdescend : fs.descend followLast here names = .ok progress) :
    fs'.descend followLast here names = .ok progress := by
  induction names generalizing here with
  | nil => exact hdescend
  | cons name rest ih =>
    obtain ⟨hhere, ⟨next, henters⟩ | ⟨target, hmeets⟩⟩ := descend_cons_ok hdescend
    · rw [henters.descend_eq hhere] at hdescend
      rw [(h.enters henters).descend_eq (h.directory _ hhere)]
      exact ih hdescend
    · rw [hmeets.descend_eq hhere] at hdescend
      rwa [(h.meetsLink hmeets).descend_eq (h.directory _ hhere)]

/-- A way without links goes on from where its beginning leads. -/
theorem descend_append (fs : FileSystem) (here : Names) (names more : List String) :
    fs.descend true here (names ++ more) =
      match fs.descend true here names with
      | .error e => .error e
      | .ok (.arrived place) => fs.descend true place more
      | .ok (.atLink directory target rest) => .ok (.atLink directory target (rest ++ more)) := by
  induction names generalizing here with
  | nil => rfl
  | cons name rest ih =>
    rw [List.cons_append, descend, descend]
    cases fs.get? here with
    | none => rfl
    | some node =>
      cases node with
      | file | link => rfl
      | directory =>
        dsimp only
        split
        · exact ih here
        split
        · exact ih here.dropLast
        split
        · rfl
        split
        · simp
        · exact ih (here ++ [name])

/-- A walk is a way without links, or one to a link and a walk from there. -/
theorem walkBy_eq (descend : Names → List String → Except FileError Progress) (here : Names)
    (names : List String) (links : Nat) : walkBy descend here names links =
      match descend here names with
      | .error e => .error e
      | .ok (.arrived place) => .ok place
      | .ok (.atLink directory target rest) =>
        match links with
        | 0 => .error .tooManyLinks
        | links + 1 => walkBy descend (if Path.isAbsolute target then [] else directory)
            (namesToWalk target ++ rest) links := by
  cases links <;> rw [walkBy] <;> cases descend here names with
  | error e => rfl
  | ok progress => cases progress <;> rfl

/-- The same for a walk that does not look up whole paths. -/
theorem walk_eq (fs : FileSystem) (followLast : Bool) (here : Names) (names : List String)
    (links : Nat) : fs.walk followLast here names links =
      match fs.descend followLast here names with
      | .error e => .error e
      | .ok (.arrived place) => .ok place
      | .ok (.atLink directory target rest) =>
        match links with
        | 0 => .error .tooManyLinks
        | links + 1 => fs.walk followLast (if Path.isAbsolute target then [] else directory)
            (namesToWalk target ++ rest) links :=
  walkBy_eq (fs.descend followLast) here names links

/-- A walk that gets somewhere begins with a way without links, which is all of it if it ends. -/
theorem descend_of_walk {links : Nat} (hwalk : fs.walk followLast here names links = .ok place) :
    ∃ progress, fs.descend followLast here names = .ok progress ∧
      ∀ arrived, progress = .arrived arrived → arrived = place := by
  rw [walk_eq] at hwalk
  cases hdescend : fs.descend followLast here names with
  | error e => simp [hdescend] at hwalk
  | ok progress =>
    refine ⟨progress, rfl, ?_⟩
    rintro arrived rfl
    rw [hdescend] at hwalk
    exact Except.ok.inj hwalk

/-- Only from a directory does a walk get anywhere. -/
theorem directory_of_walk {links : Nat}
    (hwalk : fs.walk followLast here (name :: rest) links = .ok place) :
    fs.get? here = some .directory := by
  obtain ⟨progress, hdescend, -⟩ := descend_of_walk hwalk
  exact (descend_cons_ok hdescend).1

/-- Two ways without links get to the same end, or to the same link and then to names of which the
second are to be taken instead of the first. -/
inductive Progress.Replaces (R : List String → List String → Prop) : Progress → Progress → Prop
  | arrived (place : Names) : Replaces R (.arrived place) (.arrived place)
  | atLink (directory : Names) (target : String) {rest rest' : List String} (h : R rest rest') :
      Replaces R (.atLink directory target rest) (.atLink directory target rest')

/-- A way may be taken instead of itself. -/
theorem Progress.Replaces.refl (progress : Progress) : Replaces Eq progress progress := by
  cases progress with
  | arrived place => exact .arrived place
  | atLink directory target rest => exact .atLink directory target rfl

/-- If a way without links may be replaced by another one, be it through other names or in another
file system, so may a walk. -/
theorem walk_replaced {R : List String → List String → Prop} {followLast' : Bool}
    {names names' : List String} {links : Nat}
    (happend : ∀ before {ns ms : List String}, R ns ms → R (before ++ ns) (before ++ ms))
    (hdescend : ∀ {here ns ms progress}, R ns ms → fs.descend followLast here ns = .ok progress →
      (∀ arrived, progress = .arrived arrived → arrived = place) →
      ∃ progress', fs'.descend followLast' here ms = .ok progress' ∧
        progress.Replaces R progress')
    (hnames : R names names') (hwalk : fs.walk followLast here names links = .ok place) :
    fs'.walk followLast' here names' links = .ok place := by
  induction links using Nat.strongRecOn generalizing here names names' with
  | ind links ih =>
    obtain ⟨progress, hway, hend⟩ := descend_of_walk hwalk
    obtain ⟨progress', hway', hreplaces⟩ := hdescend hnames hway hend
    rw [walk_eq, hway] at hwalk
    rw [walk_eq, hway']
    cases hreplaces with
    | arrived => exact hwalk
    | atLink directory target hrest =>
      cases links with
      | zero => cases hwalk
      | succ links => exact ih links (Nat.lt_succ_self links) (happend _ hrest) hwalk

/-- A walk stays as long as directories and links are kept. -/
theorem Grows.walk_eq (h : fs.Grows fs') {links : Nat}
    (hwalk : fs.walk followLast here names links = .ok place) :
    fs'.walk followLast here names links = .ok place := by
  refine walk_replaced (R := Eq) (fun _ _ _ hrest => congrArg _ hrest) ?_ rfl hwalk
  rintro here ns _ progress rfl hdescend -
  exact ⟨progress, h.descend_eq hdescend, .refl progress⟩

/-- A walk goes on from where its beginning leads, or stops where its beginning does. -/
theorem walk_append (fs : FileSystem) (here : Names) (names : List String) (links : Nat) :
    (∃ e, fs.walk true here names links = .error e ∧
        ∀ more, fs.walk true here (names ++ more) links = .error e) ∨
      ∃ place left, fs.walk true here names links = .ok place ∧
        ∀ more, fs.walk true here (names ++ more) links = fs.walk true place more left := by
  induction links using Nat.strongRecOn generalizing here names with
  | ind links ih =>
    rcases hdescend : fs.descend true here names with e | place | ⟨directory, target, rest⟩
    · refine .inl ⟨e, ?_, fun more => ?_⟩
      · rw [walk_eq, hdescend]
      · rw [walk_eq, descend_append, hdescend]
    · refine .inr ⟨place, links, ?_, fun more => ?_⟩
      · rw [walk_eq, hdescend]
      · rw [walk_eq, descend_append, hdescend, walk_eq fs true place]
    · cases links with
      | zero =>
        refine .inl ⟨.tooManyLinks, ?_, fun more => ?_⟩
        · rw [walk_eq, hdescend]
        · rw [walk_eq, descend_append, hdescend]
      | succ links =>
        -- What is left of the beginning is still in front of what comes after it.
        have hlink : ∀ more, fs.walk true here (names ++ more) (links + 1) =
            fs.walk true (if Path.isAbsolute target then [] else directory)
              ((namesToWalk target ++ rest) ++ more) links := by
          intro more
          rw [walk_eq, descend_append, hdescend, List.append_assoc]
        have hbeginning := hlink []
        rw [List.append_nil, List.append_nil] at hbeginning
        simp only [hbeginning, hlink]
        exact ih links (Nat.lt_succ_self links) _ _

/-- A way to a vacant place does not end at a link, so it makes no difference whether links at the
end are followed. -/
theorem descend_followed (hdescend : fs.descend false here names = .ok progress)
    (hvacant : ∀ arrived, progress = .arrived arrived → fs.get? arrived = none) :
    fs.descend true here names = .ok progress := by
  induction names generalizing here with
  | nil => exact hdescend
  | cons name rest ih =>
    obtain ⟨hhere, ⟨next, henters⟩ | ⟨target, hmeets⟩⟩ := descend_cons_ok hdescend
    · rw [henters.descend_eq hhere] at hdescend ⊢
      exact ih hdescend
    · rw [hmeets.descend_eq hhere] at hdescend ⊢
      split at hdescend
      · cases hdescend
        cases (hvacant _ rfl).symm.trans hmeets.link
      · simpa using hdescend

/-- The same for a walk. -/
theorem walk_followed {links : Nat} (hwalk : fs.walk false here names links = .ok place)
    (hvacant : fs.get? place = none) : fs.walk true here names links = .ok place := by
  refine walk_replaced (R := Eq) (fun _ _ _ hrest => congrArg _ hrest) ?_ rfl hwalk
  rintro here ns _ progress rfl hdescend hend
  refine ⟨progress, descend_followed hdescend ?_, .refl progress⟩
  intro arrived harrived
  rw [hend arrived harrived, hvacant]

/-! ## Paths -/

/-- The path leads to a directory at the place. -/
structure Leads (fs : FileSystem) (workDirectory : Names) (path : String) (place : Names) :
    Prop where
  walked : fs.walk true (startOf workDirectory path) (namesToWalk path) linkLimit = .ok place
  directory : fs.get? place = some .directory

variable {workDirectory : Names} {path : String}

/-- A path leads to one place only. -/
theorem Leads.unique {place' : Names} (h : fs.Leads workDirectory path place)
    (h' : fs.Leads workDirectory path place') : place = place' :=
  Except.ok.inj (h.walked.symm.trans h'.walked)

/-- It leads there as long as directories and links are kept. -/
theorem Grows.leads (h : fs.Grows fs') (hleads : fs.Leads workDirectory path place) :
    fs'.Leads workDirectory path place :=
  ⟨h.walk_eq hleads.walked, h.directory place hleads.directory⟩

/-- The name of a directory itself leads nowhere else. -/
theorem walk_here {links : Nat} (hplace : fs.get? place = some .directory) :
    fs.walk true place ["."] links = .ok place := by
  rw [walk_eq, Enters.same.descend_eq hplace, descend]

/-- A slash at the end of a path makes no difference when it leads to a directory. -/
theorem leads_iff : fs.Leads workDirectory path place ↔
    fs.walk true (startOf workDirectory path) (Path.names path) linkLimit = .ok place ∧
      fs.get? place = some .directory := by
  rcases fs.walk_append (startOf workDirectory path) (Path.names path) linkLimit with
    ⟨e, herror, hall⟩ | ⟨reached, left, hreached, hall⟩
  · constructor
    · intro h
      cases (hall _).symm.trans h.walked
    · rintro ⟨hwalk, -⟩
      cases herror.symm.trans hwalk
  · -- With the slash the walk goes on by the name of the directory itself.
    have hwalked : fs.get? reached = some .directory →
        fs.walk true (startOf workDirectory path) (namesToWalk path) linkLimit = .ok reached := by
      intro hdirectory
      unfold namesToWalk
      split
      · rw [hall, walk_here hdirectory]
      · rwa [List.append_nil]
    constructor
    · intro h
      have hdirectory : fs.get? reached = some .directory := by
        have hwalk := h.walked
        unfold namesToWalk at hwalk
        split at hwalk
        · rw [hall] at hwalk
          exact directory_of_walk hwalk
        · rw [List.append_nil, hreached] at hwalk
          rw [Except.ok.inj hwalk, h.directory]
      have hsame : place = reached := h.unique ⟨hwalked hdirectory, hdirectory⟩
      exact ⟨hsame ▸ hreached, h.directory⟩
    · rintro ⟨hwalk, hdirectory⟩
      obtain rfl : reached = place := Except.ok.inj (hreached.symm.trans hwalk)
      exact ⟨hwalked hdirectory, hdirectory⟩

/-- A place that was located is where the names lead. -/
theorem locate_ok (hlocate : fs.locate workDirectory followLast path names = .ok place) :
    fs.walk followLast (startOf workDirectory path) names linkLimit = .ok place := by
  obtain ⟨-, -, hlocate⟩ := bind_eq_ok hlocate
  dsimp only at hlocate
  split at hlocate
  · cases hlocate
  · exact hlocate

/-- A directory that is found is where the path leads. -/
theorem leads_of_find (hfind : fs.find workDirectory path = .ok (place, .directory)) :
    fs.Leads workDirectory path place := by
  obtain ⟨place', hlocate, hpresent⟩ := bind_eq_ok hfind
  unfold present at hpresent
  split at hpresent
  · next hnode =>
    cases hpresent
    exact ⟨locate_ok hlocate, hnode⟩
  · cases hpresent

/-- A directory that was made is at a place that was vacant, and the path leads there. -/
theorem makeDirectory_ok (hmade : fs.makeDirectory workDirectory path = .ok fs') :
    ∃ place, fs.get? place = none ∧ fs' = fs.put place .directory ∧
      fs'.Leads workDirectory path place := by
  obtain ⟨place, hlocate, hmade⟩ := bind_eq_ok hmade
  split at hmade
  · cases hmade
  next hvacant =>
  cases hmade
  have hgrows : fs.Grows (fs.put place .directory) := .put (by simp [hvacant]) (by simp [hvacant])
    (by simp)
  have hne : place ≠ [] := by
    rintro rfl
    cases hvacant
  refine ⟨place, hvacant, rfl, leads_iff.mpr ⟨?_, ?_⟩⟩
  · exact hgrows.walk_eq (walk_followed (locate_ok hlocate) hvacant)
  · rw [get?_put hne, if_pos rfl]

/-- A path begins in the same place with a name joined to it. -/
theorem startOf_join (workDirectory : Names) (path : String) (hname : Path.IsName name) :
    startOf workDirectory (Path.join path name) = startOf workDirectory path := by
  rw [startOf, startOf, Path.isAbsolute_join path hname]

/-- A path with a name joined to it goes on by the name from the directory that the path leads
to. -/
theorem Leads.walk_join_eq (h : fs.Leads workDirectory path place) (hname : Path.IsName name) :
    ∃ left, fs.walk true (startOf workDirectory (Path.join path name))
      (namesToWalk (Path.join path name)) linkLimit = fs.walk true place [name] left := by
  have hnames : namesToWalk (Path.join path name) = Path.names path ++ [name] := by
    simp [namesToWalk, Path.names_join path hname, Path.endsWithSlash_join path hname]
  rw [hnames, startOf_join workDirectory path hname]
  obtain ⟨hplace, -⟩ := leads_iff.mp h
  rcases fs.walk_append (startOf workDirectory path) (Path.names path) linkLimit with
    ⟨e, herror, -⟩ | ⟨place', left, hplace', hall⟩
  · cases herror.symm.trans hplace
  · obtain rfl : place' = place := Except.ok.inj (hplace'.symm.trans hplace)
    exact ⟨left, hall [name]⟩

/-- A name in the directory that a path leads to is where the path with the name leads, unless a
link is there. -/
theorem Leads.walk_join (h : fs.Leads workDirectory path place) (hname : Path.IsName name)
    (hlink : ∀ target, fs.get? (place ++ [name]) ≠ some (.link target)) {reached : Names}
    (hwalk : fs.walk true (startOf workDirectory (Path.join path name))
      (namesToWalk (Path.join path name)) linkLimit = .ok reached) : reached = place ++ [name] := by
  obtain ⟨left, hjoined⟩ := h.walk_join_eq hname
  rw [hjoined] at hwalk
  obtain ⟨progress, hdescend, hend⟩ := descend_of_walk hwalk
  obtain ⟨hdirectory, ⟨next, henters⟩ | ⟨target, hmeets⟩⟩ := descend_cons_ok hdescend
  · rw [henters.descend_eq hdirectory] at hdescend
    obtain rfl := hend next (Except.ok.inj hdescend).symm
    cases henters with
    | same => exact absurd rfl hname.notHere
    | above => exact absurd rfl hname.notAbove
    | below => rfl
  · exact absurd hmeets.link (hlink target)

/-- A text that is written to a name in the directory that a path leads to is a file there. -/
theorem writeText_ok {text : String} (hleads : fs.Leads workDirectory path place)
    (hname : Path.IsName name) (hlink : ∀ target, fs.get? (place ++ [name]) ≠ some (.link target))
    (hwritten : fs.writeText workDirectory (Path.join path name) text = .ok fs') :
    fs.get? (place ++ [name]) ≠ some .directory ∧
      fs' = fs.put (place ++ [name]) (.file text.toUTF8) := by
  obtain ⟨reached, hlocate, hwritten⟩ := bind_eq_ok hwritten
  obtain rfl := hleads.walk_join hname hlink (locate_ok hlocate)
  split at hwritten
  · cases hwritten
  · next hfile =>
    cases hwritten
    exact ⟨hfile, rfl⟩

/-- A directory that is found can be listed. -/
theorem list_of_find (hfind : fs.find workDirectory path = .ok (place, .directory)) :
    fs.list workDirectory path = .ok (fs.children place) := by
  rw [list, hfind]
  rfl

/-- A directory without children has nothing in it. -/
theorem get?_of_children (hchildren : fs.children place = []) (name : String) :
    fs.get? (place ++ [name]) = none := by
  cases hget : fs.get? (place ++ [name]) with
  | none => rfl
  | some n =>
    have hmem : (place ++ [name], n) ∈ fs.places := by
      rw [get?, if_neg (by simp)] at hget
      exact Entries.mem_of_find? hget
    have hchild : (name, n.kind) ∈ fs.children place :=
      List.mem_filterMap.mpr ⟨_, hmem, by simp⟩
    rw [hchildren] at hchild
    cases hchild

end FileSystem

end KubeHcl
