import KubeHcl.Proofs.MissingDirectories

/-!
# Paths that are resolved

A path that is resolved leads to where a walk leads, unless a place on the way has a path of its own
that is too long to look it up. So a file that a path was resolved to can be looked up by the path
to its place.
-/

namespace KubeHcl.FileSystem

/-- The place that a way without links got to, be it to a link in it. -/
def Progress.place : Progress → Names
  | arrived place => place
  | atLink directory _ _ => directory

variable {fs : FileSystem} {here workDirectory place : Names} {path name : String}
  {names rest : List String} {progress : Progress} {links : Nat}

/-- The path to a name that is in reach is not too long. -/
theorem short_of_not_outOfReach (hsome : (fs.get? here).isSome = true) (hhere : name ≠ ".")
    (habove : name ≠ "..") (hreach : ¬fs.outOfReach here (name :: rest) = true) :
    (Path.ofNames (here ++ [name])).utf8ByteSize < pathLimit := by
  have hfirst : (name :: rest).dropWhile (· = ".") = name :: rest := by simp [hhere]
  simp only [outOfReach, hfirst, Bool.and_eq_true, decide_eq_true_eq, not_and] at hreach
  have hlimit := hreach ⟨hsome, habove⟩
  omega

/-- Looking up every name by its path makes no difference for a way, unless it is too long. -/
theorem descendByPath_eq (fs : FileSystem) (here : Names) (names : List String) :
    fs.descendByPath here names = .error .nameTooLong ∨
      fs.descendByPath here names = fs.descend true here names := by
  induction names generalizing here with
  | nil => exact .inr rfl
  | cons name rest ih =>
    have hstep := fs.descend_append here [name] rest
    rw [List.singleton_append] at hstep
    rw [descendByPath, hstep]
    split
    · exact .inl rfl
    · rcases fs.descend true here [name] with e | place | ⟨directory, target, left⟩
      · exact .inr rfl
      · exact ih place
      · exact .inr rfl

/-- The same for a walk. -/
theorem walkBy_descendByPath_eq (fs : FileSystem) (here : Names) (names : List String)
    (links : Nat) : walkBy fs.descendByPath here names links = .error .nameTooLong ∨
      walkBy fs.descendByPath here names links = fs.walk true here names links := by
  induction links using Nat.strongRecOn generalizing here names with
  | ind links ih =>
    rw [walkBy_eq, walk_eq]
    rcases fs.descendByPath_eq here names with hlong | hsame
    · rw [hlong]
      exact .inl rfl
    · rw [hsame]
      rcases fs.descend true here names with e | place | ⟨directory, target, rest⟩
      · exact .inr rfl
      · exact .inr rfl
      · cases links with
        | zero => exact .inr rfl
        | succ links => exact ih links (Nat.lt_succ_self links) _ _

/-- A directory lies in a directory. -/
theorem Rooted.directory_dropLast (h : fs.Rooted) (hhere : fs.get? here = some .directory) :
    fs.get? here.dropLast = some .directory := by
  rcases List.eq_nil_or_concat here with rfl | ⟨front, name, rfl⟩
  · exact hhere
  · rw [List.concat_eq_append] at hhere ⊢
    rw [List.dropLast_concat]
    exact h front name (by simp [hhere])

/-- What can be looked up is a directory or has a path that is not too long. -/
def InReach (fs : FileSystem) (place : Names) : Prop :=
  fs.get? place ≠ some .directory → (Path.ofNames place).utf8ByteSize < pathLimit

/-- Looking up every name by its path, a way does not leave what is in reach. -/
theorem Rooted.inReach_of_descendByPath (h : fs.Rooted) (hhere : fs.InReach here)
    (hdescend : fs.descendByPath here names = .ok progress) : fs.InReach progress.place := by
  induction names generalizing here with
  | nil =>
    cases hdescend
    exact hhere
  | cons name rest ih =>
    rw [descendByPath] at hdescend
    split at hdescend
    · cases hdescend
    next hreach =>
    obtain ⟨step, hstep, hdescend⟩ := bind_eq_ok hdescend
    obtain ⟨hdirectory, ⟨next, henters⟩ | ⟨target, hmeets⟩⟩ := descend_cons_ok hstep
    · rw [henters.descend_eq hdirectory] at hstep
      cases hstep
      refine ih ?_ hdescend
      cases henters with
      | same => exact hhere
      | above => exact fun hnone => absurd (h.directory_dropLast hdirectory) hnone
      | below hne habove =>
        exact fun _ => short_of_not_outOfReach (by simp [hdirectory]) hne habove hreach
    · rw [hmeets.descend_eq hdirectory] at hstep
      cases hstep
      cases hdescend
      exact fun hnone => absurd hdirectory hnone

/-- A walk does not leave it either. -/
theorem Rooted.inReach_of_walkBy (h : fs.Rooted) (hhere : fs.InReach here)
    (hwalk : walkBy fs.descendByPath here names links = .ok place) : fs.InReach place := by
  induction links using Nat.strongRecOn generalizing here names with
  | ind links ih =>
    rw [walkBy_eq] at hwalk
    rcases hdescend : fs.descendByPath here names with e | progress
    · simp [hdescend] at hwalk
    have hprogress := h.inReach_of_descendByPath hhere hdescend
    rw [hdescend] at hwalk
    cases progress with
    | arrived place =>
      cases hwalk
      exact hprogress
    | atLink directory target rest =>
      cases links with
      | zero => cases hwalk
      | succ links =>
        refine ih links (Nat.lt_succ_self links) ?_ hwalk
        split
        · exact fun hnone => absurd rfl hnone
        · exact hprogress

/-- A path is resolved to what a walk finds, unless something on the way is out of reach. -/
theorem resolve_eq (fs : FileSystem) (workDirectory : Names) (path : String) :
    fs.resolve workDirectory path = .error .nameTooLong ∨
      fs.resolve workDirectory path = (do
        checkPath path
        fs.present (← fs.walk true (startOf workDirectory path) (namesToWalk path) linkLimit)) := by
  rw [resolve]
  rcases fs.walkBy_descendByPath_eq (startOf workDirectory path) (namesToWalk path) linkLimit with
    hlong | hsame
  · rw [hlong]
    cases checkPath path with
    | error e => exact .inr rfl
    | ok => exact .inl rfl
  · rw [hsame]
    exact .inr rfl

/-- The path to what a path was resolved to is not too long, unless that is a directory. -/
theorem Rooted.short_of_resolve (h : fs.Rooted) {n : Node}
    (hstart : fs.get? (startOf workDirectory path) = some .directory)
    (hresolve : fs.resolve workDirectory path = .ok (place, n)) (hn : n ≠ .directory) :
    (Path.ofNames place).utf8ByteSize < pathLimit := by
  obtain ⟨-, -, hresolve⟩ := bind_eq_ok hresolve
  obtain ⟨reached, hwalk, hpresent⟩ := bind_eq_ok hresolve
  have hreach := h.inReach_of_walkBy (fun hnone => absurd hstart hnone) hwalk
  unfold present at hpresent
  split at hpresent
  · next hnode =>
    cases hpresent
    exact hreach (by simpa [hnode] using hn)
  · cases hpresent

/-- A path that leads to a directory begins in one. -/
theorem Leads.start (h : fs.Leads workDirectory path place) :
    fs.get? (startOf workDirectory path) = some .directory := by
  have hwalked := h.walked
  cases hnames : namesToWalk path with
  | nil =>
    rw [hnames, walk_eq, descend] at hwalked
    rw [Except.ok.inj hwalked, h.directory]
  | cons name rest =>
    rw [hnames] at hwalked
    exact directory_of_walk hwalked

end KubeHcl.FileSystem
