import KubeHcl.Input
import KubeHcl.Proofs.ByteOrder
import KubeHcl.Proofs.FileWalks
import KubeHcl.Proofs.LastSeparator

/-!
# Files of a directory

Of what is listed in a directory, the regular files are taken whose names have one of two
extensions, and they are taken in the order of the bytes of their names. So the order in which a
directory is listed makes no difference, whatever host lists it.
-/

namespace KubeHcl

/-- The name of a YAML file has something before its extension. -/
def IsYamlName (name : String) : Prop :=
  ∃ stem, stem ≠ "" ∧ (name = stem ++ ".yaml" ∨ name = stem ++ ".yml")

/-- It is one of two extensions that a name has then. -/
theorem isYamlName_iff {name : String} : IsYamlName name ↔
    Path.extension? name = some "yaml" ∨ Path.extension? name = some "yml" := by
  have hyaml : ∀ stem : String, stem ++ "." ++ "yaml" = stem ++ ".yaml" := fun stem =>
    String.append_assoc
  have hyml : ∀ stem : String, stem ++ "." ++ "yml" = stem ++ ".yml" := fun stem =>
    String.append_assoc
  simp only [Path.extension?_eq_some_iff, hyaml, hyml, IsYamlName, and_or_left, exists_or]
  constructor
  · rintro (h | h)
    · exact .inl ⟨by decide, h⟩
    · exact .inr ⟨by decide, h⟩
  · rintro (⟨-, h⟩ | ⟨-, h⟩)
    · exact .inl h
    · exact .inr h

/-- Regular files with such a name are taken. -/
theorem isYamlFile_iff {name : String} {kind : FileKind} :
    isYamlFile name kind = true ↔ kind = .file ∧ IsYamlName name := by
  simp [isYamlFile, isYamlName_iff]

section Listing

variable {entries entries' : List (String × FileKind)}

/-- The names that are taken are those of the files. -/
theorem mem_yamlFiles {name : String} :
    name ∈ yamlFiles entries ↔ (name, FileKind.file) ∈ entries ∧ IsYamlName name := by
  simp [yamlFiles, isYamlFile_iff]

/-- They are taken in order. -/
theorem pairwise_le_yamlFiles (entries : List (String × FileKind)) :
    (yamlFiles entries).Pairwise (· ≤ ·) := by
  have htrans : ∀ a b c : String, decide (a ≤ b) = true → decide (b ≤ c) = true →
      decide (a ≤ c) = true := fun a b c hab hbc =>
    decide_eq_true (le_trans (of_decide_eq_true hab) (of_decide_eq_true hbc))
  have htotal : ∀ a b : String, (decide (a ≤ b) || decide (b ≤ a)) = true := fun a b => by
    simpa using le_total a b
  exact (List.pairwise_mergeSort htrans htotal _).imp of_decide_eq_true

/-- In which order they are listed makes no difference. -/
theorem yamlFiles_perm (hperm : entries.Perm entries') :
    yamlFiles entries = yamlFiles entries' := by
  have hfiles : (yamlFiles entries).Perm (yamlFiles entries') := by
    unfold yamlFiles
    refine (List.mergeSort_perm _ _).trans (.trans ?_ (List.mergeSort_perm _ _).symm)
    exact (hperm.filter _).map _
  exact hfiles.eq_of_pairwise (fun _ _ _ _ => le_antisymm) (pairwise_le_yamlFiles entries)
    (pairwise_le_yamlFiles entries')

/-- If no name is listed twice, they are taken in the order of their bytes. -/
theorem pairwise_yamlFiles (hnodup : (entries.map Prod.fst).Nodup) :
    (yamlFiles entries).Pairwise fun name name' => utf8Bytes name < utf8Bytes name' := by
  have hfiles : (yamlFiles entries).Nodup := by
    refine (List.mergeSort_perm _ _).nodup_iff.mpr ?_
    exact hnodup.sublist (List.filter_sublist.map Prod.fst)
  refine ((pairwise_le_yamlFiles entries).and hfiles).imp fun ⟨hle, hne⟩ => ?_
  exact utf8Bytes_lt (lt_of_le_of_ne hle hne)

end Listing

namespace FileSystem

variable {fs : FileSystem} {directory : Names}

/-- A place is listed in a directory by its name in it. -/
theorem child_eq_some_iff {place : Names} {n : Node} {name : String} {kind : FileKind} :
    (if place.dropLast = directory then place.getLast?.map (·, n.kind) else none) =
      some (name, kind) ↔ place = directory ++ [name] ∧ n.kind = kind := by
  constructor
  · intro hsome
    split at hsome
    · next hparent =>
      obtain ⟨last, hlast, hentry⟩ := Option.map_eq_some_iff.mp hsome
      obtain ⟨rfl, hkind⟩ := Prod.mk.inj hentry
      obtain ⟨front, rfl⟩ := List.getLast?_eq_some_iff.mp hlast
      rw [List.dropLast_concat] at hparent
      exact ⟨hparent ▸ rfl, hkind⟩
    · cases hsome
  · rintro ⟨rfl, rfl⟩
    simp

/-- What is listed in a directory is what is there, if no place is listed twice. -/
theorem mem_children (hplaces : (fs.places.map Prod.fst).Nodup) {name : String} {kind : FileKind} :
    (name, kind) ∈ fs.children directory ↔
      ∃ n, fs.get? (directory ++ [name]) = some n ∧ n.kind = kind := by
  have hne : (directory ++ [name]).isEmpty = false := by simp
  simp only [children, List.mem_filterMap, child_eq_some_iff, get?, hne]
  constructor
  · rintro ⟨⟨place, n⟩, hmem, rfl, hkind⟩
    exact ⟨n, Entries.find?_of_mem hplaces hmem, hkind⟩
  · rintro ⟨n, hfound, hkind⟩
    exact ⟨_, Entries.mem_of_find? hfound, rfl, hkind⟩

/-- No name is listed twice then. -/
theorem nodup_children (hplaces : (fs.places.map Prod.fst).Nodup) (directory : Names) :
    ((fs.children directory).map Prod.fst).Nodup := by
  rw [children, List.map_filterMap, List.Nodup, List.pairwise_filterMap]
  have hplace : ∀ {place : Names} {n : Node} {name : String},
      ((if place.dropLast = directory then place.getLast?.map (·, n.kind) else none).map Prod.fst) =
        some name → place = directory ++ [name] := by
    intro place n name hname
    obtain ⟨⟨name', kind⟩, hchild, rfl⟩ := Option.map_eq_some_iff.mp hname
    exact (child_eq_some_iff.mp hchild).1
  refine (List.pairwise_map.mp hplaces).imp ?_
  rintro ⟨place, n⟩ ⟨place', n'⟩ hne name hname _ hname' rfl
  exact hne ((hplace hname).trans (hplace hname').symm)

/-- The files that are taken in a directory are its regular files with the name of a YAML file. -/
theorem mem_yamlFiles_children (hplaces : (fs.places.map Prod.fst).Nodup) {name : String} :
    name ∈ yamlFiles (fs.children directory) ↔
      (∃ contents, fs.get? (directory ++ [name]) = some (.file contents)) ∧ IsYamlName name := by
  rw [mem_yamlFiles, mem_children hplaces]
  refine and_congr_left fun _ => ⟨?_, ?_⟩
  · rintro ⟨n, hn, hkind⟩
    cases n with
    | file contents => exact ⟨contents, hn⟩
    | directory | link => cases hkind
  · rintro ⟨contents, hn⟩
    exact ⟨_, hn, rfl⟩

end FileSystem

/-! ## The order of the listing -/

section Order

variable {m : Type → Type} [Monad m]

/-- The same host, but for the order in which it lists a directory. -/
@[reducible]
def Host.reordered (host : Host m) (order : List (String × FileKind) → List (String × FileKind)) :
    Host m :=
  { host with list := fun path => (·.map order) <$> host.list path }

variable (host : Host m) {order : List (String × FileKind) → List (String × FileKind)}

/-- An operation as part of a job leaves the ledger. -/
theorem Job.run_attempt [LawfulMonad m] {ε δ α : Type} (rename : δ → ε)
    (operation : m (Except δ α)) (ledger : Ledger) :
    (Job.attempt rename operation).run.run ledger =
      (fun result => (result.mapError rename, ledger)) <$> operation :=
  bind_pure_comp _ _

/-- An operation whose value is changed, as part of a job. -/
theorem Job.attempt_map [LawfulMonad m] {ε δ α β : Type} (rename : δ → ε) (f : α → β)
    (operation : m (Except δ α)) :
    Job.attempt rename ((·.map f) <$> operation) = f <$> Job.attempt rename operation := by
  refine ExceptT.ext (StateT.ext fun ledger => ?_)
  rw [ExceptT.run_map, StateT.run_map, Job.run_attempt, Job.run_attempt, Functor.map_map,
    Functor.map_map]
  refine congrArg (· <$> operation) (funext fun result => ?_)
  cases result <;> rfl

/-- Files are loaded alike whatever the order is. -/
theorem loadFiles_reordered (path : String) (names : List String) :
    @loadFiles m _ (host.reordered order) path names = @loadFiles m _ host path names := by
  induction names with
  | nil => rfl
  | cons name rest ih =>
    exact congrArg (@loadFile m _ host (Path.join path name) >>= ·) (funext fun _ => ih)

/-- What is done with what a directory lists. -/
def loadListed (path : String) (entries : List (String × FileKind)) : Job m LoadError Unit := do
  if (yamlFiles entries).isEmpty then throw (.noFilesFound path)
  @loadFiles m _ host path (yamlFiles entries)

/-- A directory is loaded alike whatever the order is in which it is listed. -/
theorem loadDirectory_reordered [LawfulMonad m] (horder : ∀ entries, (order entries).Perm entries)
    (path : String) :
    @loadDirectory m _ (host.reordered order) path = @loadDirectory m _ host path := by
  have hlist : Job.attempt (LoadError.io path) ((host.reordered order).list path) =
      order <$> Job.attempt (LoadError.io path) (host.list path) := Job.attempt_map _ _ _
  have hlisted : ∀ entries, loadListed (host.reordered order) path (order entries) =
      loadListed host path entries := by
    intro entries
    rw [loadListed, loadListed, yamlFiles_perm (horder entries), loadFiles_reordered]
  calc @loadDirectory m _ (host.reordered order) path
      = Job.attempt (LoadError.io path) ((host.reordered order).list path) >>=
          loadListed (host.reordered order) path := rfl
    _ = order <$> Job.attempt (LoadError.io path) (host.list path) >>=
          loadListed (host.reordered order) path := by rw [hlist]
    _ = Job.attempt (LoadError.io path) (host.list path) >>= loadListed host path := by
        rw [bind_map_left, funext hlisted]
    _ = @loadDirectory m _ host path := rfl

end Order

end KubeHcl
