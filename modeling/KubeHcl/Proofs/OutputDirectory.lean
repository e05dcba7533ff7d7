import KubeHcl.Proofs.MissingDirectories
import KubeHcl.Proofs.WorldRuns

/-!
# The output directory

Before anything is rendered the output directory is looked at, and made if it is missing. What is
there after that is either what was there, or that and directories that the path and its parents
lead to.
-/

namespace KubeHcl

section OutputDirectory

variable {w : World} {path : String}

/-- What follows an operation starts from what it gives and leaves. -/
theorem run_bind_world {α β : Type} {x : StateM World α} {f : α → StateM World β} {a : α}
    {w₁ : World} (hx : x.run w = (a, w₁)) : (x >>= f).run w = (f a).run w₁ := by
  rw [StateT.run_bind, hx]
  rfl

/-- Making a directory, as the file system does it. -/
theorem run_makeDirectory (path : String) (w : World) :
    (Host.makeDirectory path : StateM World _).run w =
      match w.files.makeDirectory w.workDirectory path with
      | .ok files => (.ok (), { w with files })
      | .error e => (.error e, w) := rfl

/-- What a path leads to, as the file system finds it. -/
theorem run_kind (path : String) (w : World) :
    (Host.kind path : StateM World _).run w =
      ((w.files.find w.workDirectory path).map (·.2.kind), w) := rfl

/-- The names in a directory, as the file system lists them. -/
theorem run_list (path : String) (w : World) : (Host.list path : StateM World _).run w =
    (w.files.list w.workDirectory path, w) := rfl

/-- Ensuring a directory is making it or finding it. -/
theorem run_ensureDirectory (path : String) (w : World) :
    (ensureDirectory path : StateM World _).run w =
      match w.files.makeDirectory w.workDirectory path with
      | .ok files => (.ok (), { w with files })
      | .error e =>
        match w.files.find w.workDirectory path with
        | .ok (_, .directory) => (.ok (), w)
        | _ => (.error e, w) := by
  cases hmade : w.files.makeDirectory w.workDirectory path with
  | ok files =>
    have hrun := run_makeDirectory path w
    rw [hmade] at hrun
    rw [ensureDirectory, run_bind_world hrun]
    rfl
  | error e =>
    have hrun := run_makeDirectory path w
    rw [hmade] at hrun
    rw [ensureDirectory, run_bind_world hrun]
    dsimp only
    rw [run_bind_world (run_kind path w)]
    rcases w.files.find w.workDirectory path with e' | ⟨place, _ | _ | _⟩ <;> rfl

/-- A directory that is ensured is where the path leads, and at most it was made. -/
theorem ensureDirectory_spec (path : String) (w : World) :
    ∃ result files, (ensureDirectory path : StateM World _).run w = (result, { w with files }) ∧
      w.files.Made files w.workDirectory [path] ∧
      (result = .ok () → ∃ place, files.Leads w.workDirectory path place) := by
  rw [run_ensureDirectory]
  cases hmade : w.files.makeDirectory w.workDirectory path with
  | ok files =>
    obtain ⟨hmade, hleads⟩ := FileSystem.Made.of_makeDirectory hmade
    exact ⟨.ok (), files, rfl, hmade, fun _ => hleads⟩
  | error e =>
    dsimp only
    split
    · next place hfind =>
      have hleads := FileSystem.leads_of_find hfind
      exact ⟨.ok (), w.files, rfl, .refl _ _ _, fun _ => ⟨place, hleads⟩⟩
    · exact ⟨.error e, w.files, rfl, .refl _ _ _, by simp⟩

/-- Of the directories that are made, each is one that the path or a parent of it leads to, and the
path leads to a directory if all could be made. -/
theorem makeDirectories_spec (path : String) (parents : List String) (w : World)
    (hhere : w.files.get? w.workDirectory = some .directory) :
    ∃ result files,
      (makeDirectories path parents : StateM World _).run w = (result, { w with files }) ∧
      w.files.Made files w.workDirectory (path :: parents) ∧
      (result = .ok () → ∃ place, files.Leads w.workDirectory path place) := by
  induction parents generalizing path w with
  | nil =>
    rw [makeDirectories]
    split
    · next hempty =>
      obtain rfl := String.isEmpty_iff.mp hempty
      refine ⟨.ok (), w.files, rfl, .refl _ _ _, fun _ => ⟨w.workDirectory, ?_⟩⟩
      exact ⟨by rw [FileSystem.walk_eq]; rfl, hhere⟩
    · exact ensureDirectory_spec path w
  | cons parent outer ih =>
    obtain ⟨result₁, files₁, hrun₁, hmade₁, hleads₁⟩ := ensureDirectory_spec path w
    have hgrows₁ := hmade₁.grows
    have hpath : [path] ⊆ path :: parent :: outer := by simp
    rw [makeDirectories, run_bind_world hrun₁]
    split
    · -- The parent is made first, and after that it is tried again.
      obtain ⟨result₂, files₂, hrun₂, hmade₂, -⟩ :=
        ih parent { w with files := files₁ } (hgrows₁.directory _ hhere)
      have hmade := hmade₁.trans hmade₂ hpath (List.subset_cons_self path _)
      rw [run_bind_world hrun₂]
      cases result₂ with
      | error e => exact ⟨.error e, files₂, rfl, hmade, by simp⟩
      | ok =>
        obtain ⟨result₃, files₃, hrun₃, hmade₃, hleads₃⟩ :=
          ensureDirectory_spec path { w with files := files₂ }
        exact ⟨result₃, files₃, hrun₃, hmade.trans hmade₃ (List.Subset.refl _) hpath, hleads₃⟩
    · exact ⟨result₁, files₁, rfl, hmade₁.trans (.refl _ _ []) hpath (by simp), hleads₁⟩

/-- What preparing the output directory comes to, and the files afterwards. -/
inductive Prepared (w : World) (path : String) : Except WriteError Unit → FileSystem → Prop
  /-- The directory is there and has nothing in it. -/
  | found {place : Names} (hleads : w.files.Leads w.workDirectory path place)
      (hempty : ∀ name, w.files.get? (place ++ [name]) = none) : Prepared w path (.ok ()) w.files
  /-- The path led nowhere, and directories were made for it. -/
  | made {files : FileSystem} {place : Names}
      (hmissing : w.files.find w.workDirectory path = .error .notFound)
      (hrun : (makeDirectories path (Path.parents path) : StateM World _).run w =
        (.ok (), { w with files }))
      (hmade : w.files.Made files w.workDirectory (path :: Path.parents path))
      (hleads : files.Leads w.workDirectory path place) : Prepared w path (.ok ()) files
  /-- Something else is there. -/
  | notADirectory : Prepared w path (.error (.notADirectory path)) w.files
  /-- The directory has something in it. -/
  | notEmpty : Prepared w path (.error (.notEmpty path)) w.files
  /-- It could not be looked at or not be made, though some of its parents may have been. -/
  | failed {cause : FileError} {files : FileSystem}
      (hmade : w.files.Made files w.workDirectory (path :: Path.parents path)) :
      Prepared w path (.error (.io path cause)) files

/-- Preparing the output directory comes to what is listed, and leaves the collection. -/
theorem prepareDirectory_spec (path : String) (ledger : Ledger) (w : World)
    (hhere : w.files.get? w.workDirectory = some .directory) :
    ∃ result ledger' files,
      (prepareDirectory path).runIn ledger w = (result, ledger', { w with files }) ∧
      ledger'.collection = ledger.collection ∧ Prepared w path result files := by
  rw [prepareDirectory, Job.runIn_bind_ok (Job.runIn_lift _), run_kind]
  rcases hfind : w.files.find w.workDirectory path with e | ⟨place, node⟩
  · by_cases hmissing : e = .notFound
    · subst hmissing
      obtain ⟨result, files, hrun, hmade, hleads⟩ :=
        makeDirectories_spec path (Path.parents path) w hhere
      cases result with
      | error e =>
        exact ⟨_, ledger, files, Job.runIn_bind_error (Job.runIn_attempt _ hrun), rfl,
          .failed hmade⟩
      | ok =>
        obtain ⟨place, hleads⟩ := hleads rfl
        exact ⟨_, _, files, Job.runIn_bind_ok (Job.runIn_attempt _ hrun), rfl,
          .made hfind hrun hmade hleads⟩
    · refine ⟨.error (.io path e), ledger, w.files, ?_, rfl, .failed (.refl _ _ _)⟩
      cases e <;> first | rfl | exact absurd rfl hmissing
  · cases node with
    | file contents => exact ⟨_, ledger, w.files, rfl, rfl, .notADirectory⟩
    | link target => exact ⟨_, ledger, w.files, rfl, rfl, .notADirectory⟩
    | directory =>
      have hrun := run_list path w
      rw [FileSystem.list_of_find hfind] at hrun
      dsimp only [Except.map, FileSystem.Node.kind]
      rw [Job.runIn_bind_ok (Job.runIn_attempt _ hrun)]
      split
      · exact ⟨_, ledger, w.files, rfl, rfl, .notEmpty⟩
      · next hempty =>
        have hchildren : w.files.children place = [] := by simpa using hempty
        exact ⟨_, ledger, w.files, rfl, rfl, .found (FileSystem.leads_of_find hfind)
          (FileSystem.get?_of_children hchildren)⟩

/-- Everything lies in a directory, and so does the work directory, which is one itself. -/
structure World.WellFormed (w : World) : Prop where
  rooted : w.files.Rooted
  here : w.files.get? w.workDirectory = some .directory

/-- The path leads nowhere, and once its missing directories are made it leads to a directory that
had something in it all along. -/
def World.Overlooks (w : World) (path : String) : Prop :=
  w.files.find w.workDirectory path = .error .notFound ∧ ∃ files place name,
    (makeDirectories path (Path.parents path) : StateM World _).run w =
      (.ok (), { w with files }) ∧
    files.Leads w.workDirectory path place ∧ w.files.get? (place ++ [name]) ≠ none

/-- Only a path that goes back by `..` may overlook something, and the empty path. -/
theorem World.Overlooks.goes_back (hw : w.WellFormed) (h : w.Overlooks path) :
    path = "" ∨ ".." ∈ Path.names path := by
  by_contra hplain
  obtain ⟨hpath, habove⟩ := not_or.mp hplain
  obtain ⟨hfind, files, place, name, hrun, hleads, hpresent⟩ := h
  obtain ⟨result, files', hrun', hmade, -⟩ :=
    makeDirectories_spec path (Path.parents path) w hw.here
  obtain rfl : files = files' :=
    congrArg (fun out => out.2.files) (hrun.symm.trans hrun')
  have hvacant := hmade.leads_vacant hw.rooted
    (fun _ => FileSystem.not_leads_of_find hfind hpath) habove hleads
  exact hpresent (hw.rooted.below_vacant hvacant [name])

namespace Prepared

variable {result : Except WriteError Unit} {files : FileSystem}

/-- Whatever it comes to, at most directories were made. -/
theorem made_files (h : Prepared w path result files) :
    w.files.Made files w.workDirectory (path :: Path.parents path) := by
  cases h with
  | found | notADirectory | notEmpty => exact .refl _ _ _
  | made _ _ hmade | failed hmade => exact hmade

/-- A prepared directory had nothing in it, unless that was overlooked. -/
theorem empty (h : Prepared w path (.ok ()) files) :
    ∃ place, files.Leads w.workDirectory path place ∧
      (¬w.Overlooks path → ∀ name, w.files.get? (place ++ [name]) = none) := by
  cases h with
  | @found place hleads hempty => exact ⟨place, hleads, fun _ => hempty⟩
  | @made _ place hmissing hrun _ hleads =>
    refine ⟨place, hleads, fun hseen name => ?_⟩
    by_contra hpresent
    exact hseen ⟨hmissing, files, place, name, hrun, hleads, hpresent⟩

end Prepared

end OutputDirectory

end KubeHcl
