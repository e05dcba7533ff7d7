import KubeHcl.Collection
import KubeHcl.Notice

/-!
# Work on a collection

A job may fail, and what it did to the collection and what it noticed stay either way. A task is a
job that needs nothing from outside.
-/

namespace KubeHcl

/-- A collection and the notices given so far. -/
structure Ledger where
  collection : Collection := {}
  notices : List Notice := []

/-- Work on a collection that may fail with an `ε` and has the effects of `m`. -/
abbrev Job (m : Type → Type) (ε : Type) := ExceptT ε (StateT Ledger m)

/-- Work on a collection that may fail with an `ε`. -/
abbrev Task (ε : Type) := Job Id ε

namespace Job

variable {m : Type → Type} [Monad m] {ε α : Type}

/-- Gives notices in order. -/
def noteAll (ns : List Notice) : Job m ε Unit :=
  modify fun ledger => { ledger with notices := ledger.notices ++ ns }

/-- Gives a notice. -/
def note (n : Notice) : Job m ε Unit := noteAll [n]

/-- A task as part of a job, with its failures named anew. -/
def ofTask {δ : Type} (rename : δ → ε) (task : Task δ α) : Job m ε α :=
  ExceptT.mk fun ledger =>
    let (result, ledger) := task.run.run ledger
    pure (result.mapError rename, ledger)

/-- An operation outside of the collection as part of a job, with its failures named anew. -/
def attempt {δ : Type} (rename : δ → ε) (operation : m (Except δ α)) : Job m ε α :=
  ExceptT.mk fun ledger => do pure ((← operation).mapError rename, ledger)

end Job

namespace Task

variable {ε α : Type}

/-- The collection as it is now. -/
def collection : Task ε Collection := return (← get).collection

/-- Replaces the collection. -/
def setCollection (c : Collection) : Task ε Unit :=
  modify fun ledger => { ledger with collection := c }

/-- The result of a task on a collection, the collection afterwards and the notices. -/
def runOn (task : Task ε α) (c : Collection) : Except ε α × Collection × List Notice :=
  let (result, ledger) := task.run.run ⟨c, []⟩
  (result, ledger.collection, ledger.notices)

end Task

end KubeHcl
