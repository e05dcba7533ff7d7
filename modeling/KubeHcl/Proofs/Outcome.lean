import KubeHcl.Task

/-!
# What a task comes to

A task has a result and leaves a collection, and neither depends on what was noticed before it. The
rules below follow the way in which tasks are put together, so what a composed task comes to is read
off its parts.
-/

namespace KubeHcl

variable {ε α β : Type}

/-- A computation in two parts gives a value when the first part gives one and the second goes on
from it to that value. -/
theorem bind_eq_ok {x : Except ε α} {f : α → Except ε β} {b : β} (hok : (x >>= f) = .ok b) :
    ∃ a, x = .ok a ∧ f a = .ok b := by
  cases x with
  | error e => cases hok
  | ok a => exact ⟨a, rfl, hok⟩

/-- A computation in two parts fails in the first part, or in the second after a value of the first.
-/
theorem bind_eq_error {x : Except ε α} {f : α → Except ε β} {e : ε}
    (herror : (x >>= f) = .error e) : x = .error e ∨ ∃ a, x = .ok a ∧ f a = .error e := by
  cases x with
  | error e' =>
    cases herror
    exact .inl rfl
  | ok a => exact .inr ⟨a, rfl, herror⟩

namespace Task

/-- The result of a task on a collection and the collection afterwards. -/
def outcome (task : Task ε α) (c : Collection) : Except ε α × Collection :=
  ((task.runOn c).1, (task.runOn c).2.1)

/-- A task that is seen to succeed gives some value and leaves some collection. -/
theorem exists_of_isOk {task : Task ε α} {c : Collection}
    (hok : (task.outcome c).1.isOk = true) : ∃ a c', task.outcome c = (.ok a, c') := by
  rcases hout : task.outcome c with ⟨result, c'⟩
  rw [hout] at hok
  cases result with
  | error e => cases hok
  | ok a => exact ⟨a, c', rfl⟩

/-- On the collection `c` the task ends with `result` and leaves `c'`, whatever was noticed before.
-/
def Ends (task : Task ε α) (c : Collection) (result : Except ε α) (c' : Collection) : Prop :=
  ∀ notices, ∃ more, task.run.run ⟨c, notices⟩ = (result, ⟨c', more⟩)

namespace Ends

variable {task : Task ε α} {f : α → Task ε β} {c c₁ c₂ : Collection} {result : Except ε α}

/-- A task comes to what it ends with. -/
theorem outcome_eq (hends : task.Ends c result c₁) : task.outcome c = (result, c₁) := by
  obtain ⟨more, hrun⟩ := hends []
  simp only [outcome, runOn, hrun]

/-- What follows a task that gives a value starts from there. -/
theorem bind {a : α} {result : Except ε β} (hfirst : task.Ends c (.ok a) c₁)
    (hrest : (f a).Ends c₁ result c₂) : (task >>= f).Ends c result c₂ := by
  intro notices
  obtain ⟨seen, hseen⟩ := hfirst notices
  obtain ⟨more, hmore⟩ := hrest seen
  refine ⟨more, ?_⟩
  rw [ExceptT.run_bind, StateT.run_bind, hseen]
  exact hmore

/-- Nothing follows a task that fails. -/
theorem bind_error {e : ε} (hfirst : task.Ends c (.error e) c₁) :
    (task >>= f).Ends c (.error e) c₁ := by
  intro notices
  obtain ⟨seen, hseen⟩ := hfirst notices
  refine ⟨seen, ?_⟩
  rw [ExceptT.run_bind, StateT.run_bind, hseen]
  rfl

/-- A value on its own. -/
theorem pure (a : α) : (Pure.pure a : Task ε α).Ends c (.ok a) c :=
  fun notices => ⟨notices, rfl⟩

/-- A failure on its own. -/
theorem throw (e : ε) : (MonadExcept.throw e : Task ε α).Ends c (.error e) c :=
  fun notices => ⟨notices, rfl⟩

/-- Notices change neither the result nor the collection. -/
theorem noteAll (ns : List Notice) : Ends (Job.noteAll ns : Task ε Unit) c (.ok ()) c :=
  fun notices => ⟨notices ++ ns, rfl⟩

/-- A notice changes neither the result nor the collection. -/
theorem note (n : Notice) : Ends (Job.note n : Task ε Unit) c (.ok ()) c := noteAll [n]

/-- A task may look at the collection. -/
theorem collection : (Task.collection : Task ε Collection).Ends c (.ok c) c :=
  fun notices => ⟨notices, rfl⟩

/-- A task may replace the collection. -/
theorem setCollection (c' : Collection) :
    (Task.setCollection c' : Task ε Unit).Ends c (.ok ()) c' :=
  fun notices => ⟨notices, rfl⟩

end Ends

end Task

end KubeHcl
