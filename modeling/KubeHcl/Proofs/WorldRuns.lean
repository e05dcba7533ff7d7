import KubeHcl.Proofs.FileWalks
import KubeHcl.Proofs.RenderOutcome
import KubeHcl.Run

/-!
# Jobs in a world

A job that is run in a world ends with a result and leaves a ledger and a world. The rules below
follow the way in which jobs are put together. Jobs that do not write keep the files, whatever they
end with, and these are all jobs of a run before its declarations are written.
-/

namespace KubeHcl

variable {ε δ α β : Type}

/-- A failure that was named anew was a failure before. -/
theorem mapError_eq_error {rename : δ → ε} {result : Except δ α} {e : ε}
    (herror : result.mapError rename = .error e) : ∃ cause, result = .error cause ∧
      e = rename cause := by
  cases result with
  | error cause =>
    cases herror
    exact ⟨cause, rfl, rfl⟩
  | ok a => cases herror

namespace Job

/-- What a job ends with in a world, and the ledger and the world afterwards. -/
def runIn (job : Job (StateM World) ε α) (ledger : Ledger) (w : World) :
    Except ε α × Ledger × World :=
  let out := (job.run.run ledger).run w
  (out.1.1, out.1.2, out.2)

variable {ledger ledger₁ ledger' : Ledger} {w w₁ w' : World}

@[simp] theorem runIn_note (n : Notice) : (note n : Job (StateM World) ε Unit).runIn ledger w =
    (.ok (), { ledger with notices := ledger.notices ++ [n] }, w) := rfl

@[simp] theorem runIn_get : (get : Job (StateM World) ε Ledger).runIn ledger w =
    (.ok ledger, ledger, w) := rfl

/-- An operation whose failure is that of the job. -/
theorem runIn_attempt (rename : δ → ε) {operation : StateM World (Except δ α)}
    {result : Except δ α} (hrun : operation.run w = (result, w₁)) :
    (attempt rename operation).runIn ledger w = (result.mapError rename, ledger, w₁) := by
  have hattempt : (attempt rename operation).runIn ledger w =
      ((operation.run w).1.mapError rename, ledger, (operation.run w).2) := rfl
  rw [hattempt, hrun]

/-- An operation whose failure the job looks at itself. -/
theorem runIn_lift (operation : StateM World α) :
    (liftM operation : Job (StateM World) ε α).runIn ledger w =
      (.ok (operation.run w).1, ledger, (operation.run w).2) := rfl

/-- The task sees the collection and the notices given before, and no files. -/
theorem runIn_ofTask (rename : δ → ε) (task : Task δ α) :
    (ofTask rename task : Job (StateM World) ε α).runIn ledger w =
      ((task.run.run ledger).1.mapError rename, (task.run.run ledger).2, w) := rfl

/-- So what the task comes to is what the job comes to. -/
theorem exists_runIn_ofTask (rename : δ → ε) {task : Task δ α} {result : Except δ α}
    {c' : Collection} (hends : task.Ends ledger.collection result c') (w : World) :
    ∃ more, (ofTask rename task : Job (StateM World) ε α).runIn ledger w =
      (result.mapError rename, ⟨c', more⟩, w) := by
  obtain ⟨more, hrun⟩ := hends ledger.notices
  exact ⟨more, by rw [runIn_ofTask, hrun]⟩

/-- Naming failures anew changes nothing else. -/
theorem runIn_adapt (rename : δ → ε) (job : Job (StateM World) δ α) :
    runIn (ExceptT.adapt rename job) ledger w =
      ((job.runIn ledger w).1.mapError rename, (job.runIn ledger w).2) := rfl

variable {job : Job (StateM World) ε α} {f : α → Job (StateM World) ε β}

/-- What a job comes to, as it is run. -/
theorem run_eq_of_runIn {result : Except ε α} (hrun : job.runIn ledger w = (result, ledger₁, w₁)) :
    (job.run.run ledger).run w = ((result, ledger₁), w₁) := by
  obtain ⟨hresult, hrest⟩ := Prod.mk.inj hrun
  obtain ⟨hledger, hworld⟩ := Prod.mk.inj hrest
  exact Prod.ext (Prod.ext hresult hledger) hworld

/-- What follows a job that gives a value starts from there. -/
theorem runIn_bind_ok {a : α} (hfirst : job.runIn ledger w = (.ok a, ledger₁, w₁)) :
    (job >>= f).runIn ledger w = (f a).runIn ledger₁ w₁ := by
  unfold runIn
  rw [ExceptT.run_bind, StateT.run_bind, StateT.run_bind, run_eq_of_runIn hfirst]
  rfl

/-- Nothing follows a job that fails. -/
theorem runIn_bind_error {e : ε} (hfirst : job.runIn ledger w = (.error e, ledger₁, w₁)) :
    (job >>= f).runIn ledger w = (.error e, ledger₁, w₁) := by
  unfold runIn
  rw [ExceptT.run_bind, StateT.run_bind, StateT.run_bind, run_eq_of_runIn hfirst]
  rfl

/-- A job in two parts fails with the first part, or ends like the second one after it. -/
theorem runIn_bind {result : Except ε β}
    (hrun : (job >>= f).runIn ledger w = (result, ledger', w')) :
    (∃ e, result = .error e ∧ job.runIn ledger w = (.error e, ledger', w')) ∨
      ∃ a ledger₁ w₁, job.runIn ledger w = (.ok a, ledger₁, w₁) ∧
        (f a).runIn ledger₁ w₁ = (result, ledger', w') := by
  rcases hfirst : job.runIn ledger w with ⟨e | a, ledger₁, w₁⟩
  · rw [runIn_bind_error hfirst] at hrun
    cases hrun
    exact .inl ⟨e, rfl, rfl⟩
  · rw [runIn_bind_ok hfirst] at hrun
    exact .inr ⟨a, ledger₁, w₁, rfl, hrun⟩

/-- Whatever the job ends with, the files are what they were. -/
def KeepsFiles (job : Job (StateM World) ε α) : Prop :=
  ∀ ledger w, (job.runIn ledger w).2.2.files = w.files

namespace KeepsFiles

/-- The files after such a job. -/
theorem files_eq {result : Except ε α} (hjob : job.KeepsFiles)
    (hrun : job.runIn ledger w = (result, ledger', w')) : w'.files = w.files := by
  have hfiles := hjob ledger w
  rwa [hrun] at hfiles

/-- A job in two parts that both keep the files. -/
theorem bind (hjob : job.KeepsFiles) (hf : ∀ a, (f a).KeepsFiles) : (job >>= f).KeepsFiles := by
  intro ledger w
  rcases hrun : (job >>= f).runIn ledger w with ⟨result, ledger', w'⟩
  rcases runIn_bind hrun with ⟨e, -, hfirst⟩ | ⟨a, ledger₁, w₁, hfirst, hrest⟩
  · exact hjob.files_eq hfirst
  · exact ((hf a).files_eq hrest).trans (hjob.files_eq hfirst)

/-- A value on its own. -/
theorem pure (a : α) : (Pure.pure a : Job (StateM World) ε α).KeepsFiles := fun _ _ => rfl

/-- A failure on its own. -/
theorem throw (e : ε) : (MonadExcept.throw e : Job (StateM World) ε α).KeepsFiles := fun _ _ => rfl

/-- A notice. -/
theorem note (n : Notice) : (Job.note n : Job (StateM World) ε Unit).KeepsFiles := fun _ _ => rfl

/-- Work on the collection. -/
theorem ofTask (rename : δ → ε) (task : Task δ α) :
    (Job.ofTask rename task : Job (StateM World) ε α).KeepsFiles := fun _ _ => rfl

/-- An operation that keeps the files. -/
theorem attempt (rename : δ → ε) {operation : StateM World (Except δ α)}
    (hoperation : ∀ w, (operation.run w).2.files = w.files) :
    (Job.attempt rename operation).KeepsFiles := fun _ w => hoperation w

/-- An operation that keeps the files and whose failure the job looks at itself. -/
theorem lift {operation : StateM World α} (hoperation : ∀ w, (operation.run w).2.files = w.files) :
    KeepsFiles (liftM operation : Job (StateM World) ε α) := fun _ w => hoperation w

/-- The same job with its failures named anew. -/
theorem adapt (rename : ε → δ) (hjob : job.KeepsFiles) :
    KeepsFiles (ExceptT.adapt rename job) := hjob

end KeepsFiles

end Job

/-- Entering a directory keeps the files. -/
theorem World.files_enter (path : String) (w : World) : (w.enter path).2.files = w.files := by
  unfold enter
  split <;> rfl

/-- Entering directories keeps the files. -/
theorem enterDirectories_keepsFiles (directories : List String) :
    (enterDirectories (m := StateM World) directories).KeepsFiles := by
  induction directories with
  | nil => exact .pure ()
  | cons directory rest ih =>
    refine .bind (.attempt _ fun _ => rfl) fun place => ?_
    refine .bind (.attempt _ fun w => w.files_enter place) fun _ => ?_
    exact .bind (.note _) fun _ => ih

/-- Loading a file keeps the files. -/
theorem loadFile_keepsFiles (path : String) : (loadFile (m := StateM World) path).KeepsFiles := by
  refine .bind (.attempt _ fun _ => rfl) fun place => ?_
  exact .bind (.note _) fun _ => .bind (.attempt _ fun _ => rfl) fun _ => .ofTask _ _

/-- Loading files keeps the files. -/
theorem loadFiles_keepsFiles (directory : String) (names : List String) :
    (loadFiles (m := StateM World) directory names).KeepsFiles := by
  induction names with
  | nil => exact .pure ()
  | cons name rest ih => exact .bind (loadFile_keepsFiles _) fun _ => ih

/-- Loading a file or a directory keeps the files. -/
theorem load_keepsFiles (path : String) : (load (m := StateM World) path).KeepsFiles := by
  refine .bind (.lift fun _ => rfl) fun kind => ?_
  split
  · refine .bind (.attempt _ fun _ => rfl) fun entries => ?_
    dsimp only
    split
    · exact .bind (.throw _) fun _ => loadFiles_keepsFiles _ _
    · exact .bind (.pure _) fun _ => loadFiles_keepsFiles _ _
  · exact loadFile_keepsFiles path

/-- Loading the input keeps the files, whether it is read or found in files. -/
theorem loadInput_keepsFiles (input : String) :
    (loadInput (m := StateM World) input).KeepsFiles := by
  unfold loadInput
  split
  · exact .bind (.attempt _ fun _ => rfl) fun _ => .ofTask _ _
  · exact .adapt _ (load_keepsFiles input)

/-- A run that fails before it comes to writing keeps the files. -/
theorem convert_keepsFiles {directories : List String} {input output : String} {config : Config}
    {ledger ledger' : Ledger} {w w' : World} {e : RunError}
    (hrun : (convert directories input output config).runIn ledger w = (.error e, ledger', w'))
    (hbefore : ∀ cause, e ≠ .write cause) : w'.files = w.files := by
  rcases Job.runIn_bind hrun with ⟨e', -, hentered⟩ | ⟨⟨⟩, ledger₁, w₁, hentered, hrun⟩
  · exact (enterDirectories_keepsFiles directories).files_eq hentered
  have hfiles₁ := (enterDirectories_keepsFiles directories).files_eq hentered
  rcases Job.runIn_bind hrun with ⟨e', -, hloaded⟩ | ⟨⟨⟩, ledger₂, w₂, hloaded, hrun⟩
  · exact ((loadInput_keepsFiles input).files_eq hloaded).trans hfiles₁
  -- What is left can only fail in writing.
  rw [Job.runIn_bind_ok Job.runIn_get, Job.runIn_bind_ok (Job.runIn_note _),
    Job.runIn_adapt] at hrun
  obtain ⟨hresult, -⟩ := Prod.mk.inj hrun
  obtain ⟨cause, -, hcause⟩ := mapError_eq_error hresult
  exact absurd hcause (hbefore cause)

end KubeHcl
