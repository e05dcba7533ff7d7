import KubeHcl.Proofs.WorldRuns

/-!
# Runs that are watched

A host can be watched: it does what it did before, and of every file that is opened it notes the
path and what for. A watched job ends like the one that nobody watches, so what it notes is what
that one opens. Looking at directories and making them opens no file.
-/

namespace KubeHcl

/-- The path of a file that is opened, whether or not that succeeds, and what for. -/
inductive Access where
  | reading (path : String)
  | writing (path : String)
  deriving DecidableEq, Repr

/-- The effects of `m`, with a record of the files that are opened. -/
abbrev Watched (m : Type → Type) : Type → Type := StateT (List Access) m

namespace Watched

variable {m : Type → Type} [Monad m]

/-- An operation that opens a file. -/
def opening {α : Type} (access : Access) (operation : m α) : Watched m α := do
  modify (· ++ [access])
  liftM operation

instance [Host m] : Host (Watched m) where
  kind path := liftM (Host.kind path : m _)
  resolve path := liftM (Host.resolve path : m _)
  list path := liftM (Host.list path : m _)
  readText path := opening (.reading path) (Host.readText path)
  makeDirectory path := liftM (Host.makeDirectory path : m _)
  writeText path text := opening (.writing path) (Host.writeText path text)
  enter path := liftM (Host.enter path : m _)
  readInput := liftM (Host.readInput : m _)

end Watched

section Directories

variable {m : Type → Type} [Monad m] [LawfulMonad m] [Host m]

/-- Ensuring a directory opens no file. -/
theorem ensureDirectory_watched (path : String) :
    (ensureDirectory path : Watched m _) = liftM (ensureDirectory path : m _) := by
  rw [ensureDirectory, ensureDirectory, liftM_bind]
  refine congrArg (liftM (Host.makeDirectory path : m _) >>= ·) (funext fun made => ?_)
  cases made with
  | ok => exact (liftM_pure _).symm
  | error e =>
    dsimp only
    rw [liftM_bind]
    refine congrArg (liftM (Host.kind path : m _) >>= ·) (funext fun found => ?_)
    rcases found with _ | _ | _ | _ | _ <;> exact (liftM_pure _).symm

/-- Making directories opens no file. -/
theorem makeDirectories_watched (path : String) (parents : List String) :
    (makeDirectories path parents : Watched m _) = liftM (makeDirectories path parents : m _) := by
  induction parents generalizing path with
  | nil =>
    rw [makeDirectories, makeDirectories]
    split
    · exact (liftM_pure _).symm
    · exact ensureDirectory_watched path
  | cons parent outer ih =>
    rw [makeDirectories, makeDirectories, liftM_bind, ensureDirectory_watched]
    refine congrArg (liftM (ensureDirectory (m := m) path) >>= ·) (funext fun ensured => ?_)
    split
    · rw [liftM_bind, ih]
      refine congrArg (liftM (makeDirectories parent outer : m _) >>= ·) (funext fun made => ?_)
      cases made with
      | error e => exact (liftM_pure _).symm
      | ok => rfl
    · exact (liftM_pure _).symm

end Directories

namespace Job

variable {ε δ α β : Type} {ledger ledger₁ : Ledger} {w w₁ : World}

/-- A watched job ends in a world like a job that is not watched, and it opens files in turn. -/
def Opens (watched : Job (Watched (StateM World)) ε α) (job : Job (StateM World) ε α)
    (ledger : Ledger) (w : World) (opened : List Access) : Prop :=
  ∀ before, ((watched.run.run ledger).run before).run w =
    ((((job.run.run ledger).run w).1, before ++ opened), ((job.run.run ledger).run w).2)

/-- Wherever the watched job starts, it ends like the other one and opens no file. -/
def OpensNothing (watched : Job (Watched (StateM World)) ε α) (job : Job (StateM World) ε α) :
    Prop := ∀ ledger w, watched.Opens job ledger w []

section Parts

variable {watched : Job (Watched (StateM World)) ε α} {job : Job (StateM World) ε α}
  {watchedRest : α → Job (Watched (StateM World)) ε β} {rest : α → Job (StateM World) ε β}
  {opened more : List Access}

/-- What follows a job that gives a value opens its files after those of the job. -/
theorem Opens.bind {a : α} (hfirst : watched.Opens job ledger w opened)
    (hrun : job.runIn ledger w = (.ok a, ledger₁, w₁))
    (hrest : (watchedRest a).Opens (rest a) ledger₁ w₁ more) :
    Opens (watched >>= watchedRest) (job >>= rest) ledger w (opened ++ more) := by
  intro before
  have hwatched := hfirst before
  rw [run_eq_of_runIn hrun] at hwatched
  rw [ExceptT.run_bind, StateT.run_bind, StateT.run_bind, StateT.run_bind, hwatched,
    ExceptT.run_bind, StateT.run_bind, StateT.run_bind, run_eq_of_runIn hrun, ← List.append_assoc]
  exact hrest (before ++ opened)

/-- Nothing follows a job that fails. -/
theorem Opens.bind_error {e : ε} (hfirst : watched.Opens job ledger w opened)
    (hrun : job.runIn ledger w = (.error e, ledger₁, w₁)) :
    Opens (watched >>= watchedRest) (job >>= rest) ledger w opened := by
  intro before
  have hwatched := hfirst before
  rw [run_eq_of_runIn hrun] at hwatched
  rw [ExceptT.run_bind, StateT.run_bind, StateT.run_bind, StateT.run_bind, hwatched,
    ExceptT.run_bind, StateT.run_bind, StateT.run_bind, run_eq_of_runIn hrun]
  rfl

/-- A job opens its files and no others when what follows it opens none. -/
theorem Opens.bind_nothing (hfirst : watched.Opens job ledger w opened)
    (hrest : ∀ a, (watchedRest a).OpensNothing (rest a)) :
    Opens (watched >>= watchedRest) (job >>= rest) ledger w opened := by
  rcases hrun : job.runIn ledger w with ⟨e | a, ledger₁, w₁⟩
  · exact hfirst.bind_error hrun
  · have hopens := hfirst.bind hrun (hrest a ledger₁ w₁)
    rwa [List.append_nil] at hopens

/-- An operation that opens a file. -/
theorem Opens.opening (rename : δ → ε) (access : Access) (operation : StateM World (Except δ α)) :
    Opens (Job.attempt rename (Watched.opening access operation)) (Job.attempt rename operation)
      ledger w [access] :=
  fun _ => rfl

/-- What a watched job ends with in a world, the ledger and the world afterwards, and the files that
it opened. -/
def watchedIn (job : Job (Watched (StateM World)) ε α) (ledger : Ledger) (w : World) :
    (Except ε α × Ledger × World) × List Access :=
  let out := ((job.run.run ledger).run []).run w
  ((out.1.1.1, out.1.1.2, out.2), out.1.2)

/-- It ends with what the job that is not watched ends with. -/
theorem Opens.watchedIn_eq (h : watched.Opens job ledger w opened) :
    watched.watchedIn ledger w = (job.runIn ledger w, opened) := by
  rw [watchedIn, h []]
  rfl

namespace OpensNothing

/-- A job that ends like the one that is not watched and leaves the record as it was. -/
theorem of_run (hrun : ∀ ledger before w, ((watched.run.run ledger).run before).run w =
    ((((job.run.run ledger).run w).1, before), ((job.run.run ledger).run w).2)) :
    watched.OpensNothing job := by
  intro ledger w before
  rw [hrun, List.append_nil]

/-- A job in two parts that both open no file. -/
theorem bind (hfirst : watched.OpensNothing job)
    (hrest : ∀ a, (watchedRest a).OpensNothing (rest a)) :
    OpensNothing (watched >>= watchedRest) (job >>= rest) :=
  fun ledger w => (hfirst ledger w).bind_nothing hrest

/-- An operation whose failure the job looks at itself. -/
theorem lift (operation : StateM World α) :
    OpensNothing (liftM (liftM operation : Watched (StateM World) α))
      (liftM operation : Job (StateM World) ε α) :=
  of_run fun _ _ _ => rfl

/-- An operation that opens no file. -/
theorem attempt (rename : δ → ε) (operation : StateM World (Except δ α)) :
    OpensNothing (Job.attempt rename (liftM operation : Watched (StateM World) _))
      (Job.attempt rename operation) :=
  of_run fun _ _ _ => rfl

/-- A value on its own. -/
theorem pure (a : α) : OpensNothing (Pure.pure a : Job _ ε α) (Pure.pure a) :=
  of_run fun _ _ _ => rfl

/-- A failure on its own. -/
theorem throw (e : ε) : OpensNothing (MonadExcept.throw e : Job _ ε α) (MonadExcept.throw e) :=
  of_run fun _ _ _ => rfl

/-- A notice. -/
theorem note (n : Notice) : OpensNothing (Job.note n : Job _ ε Unit) (Job.note n) :=
  of_run fun _ _ _ => rfl

/-- Work on the collection. -/
theorem ofTask (rename : δ → ε) (task : Task δ α) :
    OpensNothing (Job.ofTask rename task) (Job.ofTask rename task) :=
  of_run fun _ _ _ => rfl

end OpensNothing

end Parts

end Job

/-- Preparing the output directory opens no file. -/
theorem prepareDirectory_opens (path : String) :
    Job.OpensNothing (prepareDirectory path) (prepareDirectory path) := by
  refine .bind (.lift _) fun kind => ?_
  split
  · refine .bind (.attempt _ _) fun entries => ?_
    split
    · exact .throw _
    · exact .pure ()
  · exact .throw _
  · refine .bind ?_ fun _ => .note _
    rw [makeDirectories_watched]
    exact .attempt _ _
  · exact .throw _

end KubeHcl
