import KubeHcl.Proofs.ListedFiles
import KubeHcl.Proofs.LoadedPrefix
import KubeHcl.Proofs.OutputDirectory
import KubeHcl.Proofs.ReadFiles
import KubeHcl.Proofs.WatchedRuns

/-!
# How far a directory is loaded

The files of a directory are loaded one after the other, up to the first that fails. What was loaded
before stays, and that is the resources of all files before it and those of its own documents before
the bad one. The files after it are not opened.
-/

namespace KubeHcl

/-- The file with a name in the directory that a path leads to is found by the path and its name. -/
def World.Finds (w : World) (path : String) (directory : Names) (name : String)
    (contents : ByteArray) : Prop :=
  w.files.resolve w.workDirectory (Path.join path name) = .ok (directory ++ [name], .file contents)

/-- What loading a file in the directory that a path leads to comes to, and the name of the file if
it is opened. -/
inductive FileLoads (w : World) (path : String) (directory : Names) (name : String)
    (contents : ByteArray) (c : Collection) :
    Except LoadError Unit → Collection → List String → Prop
  /-- The way to it is too long to look up what is on it. So it is not opened. -/
  | outOfReach
      (hresolve : w.files.resolve w.workDirectory (Path.join path name) = .error .nameTooLong) :
      FileLoads w path directory name contents c
        (.error (.io (Path.join path name) .nameTooLong)) c []
  /-- It has bytes that are not those of a text. -/
  | notText (hfinds : w.Finds path directory name contents)
      (htext : ∀ text : String, contents ≠ text.toUTF8) :
      FileLoads w path directory name contents c
        (.error (.io (Path.ofNames (directory ++ [name])) .notText)) c [name]
  /-- Its documents are loaded up to the first that fails. -/
  | read {text : String} {result : Except LoadError Unit} {c' : Collection}
      (hfinds : w.Finds path directory name contents) (htext : contents = text.toUTF8)
      (hloads : LoadsUpTo (some (Path.ofNames (directory ++ [name]))) c (Yaml.documents text)
        result c') :
      FileLoads w path directory name contents c result c' [name]

/-- What loading the files with the given names in a directory into `c` comes to, and the names of
those that are opened. -/
inductive FilesLoad (w : World) (path : String) (directory : Names) :
    List String → Collection → Except LoadError Unit → Collection → List String → Prop
  /-- There are no more. -/
  | done {c : Collection} : FilesLoad w path directory [] c (.ok ()) c []
  /-- The first of them fails. -/
  | failed {name : String} {rest opened : List String} {contents : ByteArray} {c c' : Collection}
      {e : LoadError} (hfile : w.files.get? (directory ++ [name]) = some (.file contents))
      (hloads : FileLoads w path directory name contents c (.error e) c' opened) :
      FilesLoad w path directory (name :: rest) c (.error e) c' opened
  /-- The first of them is loaded, and the others are loaded after it. -/
  | next {name : String} {rest opened more : List String} {contents : ByteArray}
      {c c₁ c' : Collection} {result : Except LoadError Unit}
      (hfile : w.files.get? (directory ++ [name]) = some (.file contents))
      (hloads : FileLoads w path directory name contents c (.ok ()) c₁ opened)
      (hrest : FilesLoad w path directory rest c₁ result c' more) :
      FilesLoad w path directory (name :: rest) c result c' (opened ++ more)

/-- The files in a directory are those of texts. -/
def HaveTexts (fs : FileSystem) (directory : Names) (names texts : List String) : Prop :=
  List.Forall₂ (fun name text => fs.get? (directory ++ [name]) = some (.file text.toUTF8))
    names texts

/-- What loading a directory into `c` comes to whose files have the given names, and the names of
those that are opened. -/
inductive DirectoryLoads (w : World) (path : String) (directory : Names) (names : List String)
    (c : Collection) : Except LoadError Unit → Collection → List String → Prop
  /-- There are no files. -/
  | none (hnone : names = []) :
      DirectoryLoads w path directory names c (.error (.noFilesFound path)) c []
  /-- All of them are loaded, and their resources are put behind those that are there. -/
  | all {texts : List String} (hsome : names ≠ [])
      (htexts : HaveTexts w.files directory names texts) :
      DirectoryLoads w path directory names c (.ok ())
        (c.followedBy (texts.flatMap Yaml.documents)) names
  /-- One of them is the first to fail. The resources of those before it stay, with what was loaded
  of it, and those after it are not opened. -/
  | stopped {before after texts opened : List String} {name : String} {contents : ByteArray}
      {e : LoadError} {c' : Collection} (hsplit : names = before ++ name :: after)
      (htexts : HaveTexts w.files directory before texts)
      (hfile : w.files.get? (directory ++ [name]) = some (.file contents))
      (hfails : FileLoads w path directory name contents
        (c.followedBy (texts.flatMap Yaml.documents)) (.error e) c' opened) :
      DirectoryLoads w path directory names c (.error e) c' (before ++ opened)

variable {w : World} {path name : String} {directory : Names} {names opened : List String}
  {contents : ByteArray} {c c' : Collection} {result : Except LoadError Unit}

/-- A file that is loaded is opened. It is a text, and its resources are put behind those that are
there. -/
theorem FileLoads.ok (h : FileLoads w path directory name contents c (.ok ()) c' opened) :
    opened = [name] ∧
      ∃ text : String, contents = text.toUTF8 ∧ c' = c.followedBy (Yaml.documents text) := by
  cases h with
  | read _ htext hloads =>
    cases hloads with
    | all => exact ⟨rfl, _, htext, rfl⟩

namespace FilesLoad

/-- All files are opened if none fails, and their resources are put behind those that are there. -/
theorem all (h : FilesLoad w path directory names c (.ok ()) c' opened) :
    opened = names ∧ ∃ texts, HaveTexts w.files directory names texts ∧
      c' = c.followedBy (texts.flatMap Yaml.documents) := by
  generalize hresult : (Except.ok () : Except LoadError Unit) = result at h
  induction h with
  | done => exact ⟨rfl, [], .nil, by simp⟩
  | failed => cases hresult
  | next hfile hloads _ ih =>
    obtain ⟨rfl, texts, htexts, rfl⟩ := ih hresult
    obtain ⟨rfl, text, rfl, rfl⟩ := hloads.ok
    exact ⟨rfl, text :: texts, .cons hfile htexts, by simp⟩

/-- Otherwise one of them is the first to fail, and none is opened after it. -/
theorem stopped {e : LoadError} (h : FilesLoad w path directory names c (.error e) c' opened) :
    ∃ before name after texts contents last, names = before ++ name :: after ∧
      opened = before ++ last ∧ HaveTexts w.files directory before texts ∧
      w.files.get? (directory ++ [name]) = some (.file contents) ∧
      FileLoads w path directory name contents (c.followedBy (texts.flatMap Yaml.documents))
        (.error e) c' last := by
  generalize hresult : (Except.error e : Except LoadError Unit) = result at h
  induction h with
  | done => cases hresult
  | @failed name rest opened contents _ _ _ hfile hloads =>
    cases hresult
    exact ⟨[], name, rest, [], contents, opened, rfl, rfl, .nil, hfile, by simpa using hloads⟩
  | @next first _ _ _ _ _ _ _ _ hfile hloads _ ih =>
    obtain ⟨before, name, after, texts, contents, last, rfl, rfl, htexts, hbad, hfails⟩ :=
      ih hresult
    obtain ⟨rfl, text, rfl, rfl⟩ := hloads.ok
    exact ⟨first :: before, name, after, text :: texts, contents, last, rfl, rfl,
      .cons hfile htexts, hbad, by simpa using hfails⟩

/-- So loading some files is loading a directory that has no others. -/
theorem directoryLoads (hsome : names ≠ [])
    (h : FilesLoad w path directory names c result c' opened) :
    DirectoryLoads w path directory names c result c' opened := by
  cases result with
  | ok =>
    obtain ⟨rfl, texts, htexts, rfl⟩ := h.all
    exact .all hsome htexts
  | error e =>
    obtain ⟨before, name, after, texts, contents, last, hsplit, rfl, htexts, hfile, hfails⟩ :=
      h.stopped
    exact .stopped hsplit htexts hfile hfails

/-- Loading files never comes to there being none. -/
theorem ne_noFilesFound {p : String} (h : FilesLoad w path directory names c result c' opened) :
    result ≠ .error (.noFilesFound p) := by
  induction h with
  | done => simp
  | failed _ hloads =>
    rintro ⟨⟩
    cases hloads with
    | read _ _ hloads =>
      cases hloads with
      | failing _ _ hfails => cases hfails
  | next _ _ _ ih => exact ih

end FilesLoad

/-! ## Runs -/

/-- Contents are read as a text exactly if they are its bytes. -/
theorem FileSystem.textOf_eq_ok_iff {text : String} :
    textOf contents = .ok text ↔ contents = text.toUTF8 := by
  unfold textOf String.fromUTF8?
  constructor
  · intro hok
    split at hok
    · next hsome =>
      split at hsome
      · cases hsome
        cases hok
        rfl
      · cases hsome
    · cases hok
  · rintro rfl
    rw [String.toUTF8_eq_toByteArray, dif_pos text.isValidUTF8]
    rfl

/-- Otherwise they are those of no text. -/
theorem FileSystem.textOf_error {e : FileError} (herror : textOf contents = .error e) :
    e = .notText ∧ ∀ text : String, contents ≠ text.toUTF8 := by
  constructor
  · unfold textOf at herror
    split at herror
    · cases herror
    · exact (Except.error.inj herror).symm
  · intro text htext
    cases herror.symm.trans (textOf_eq_ok_iff.mpr htext)

/-- Adding the resources of a text, as part of a job. -/
theorem runIn_insertYaml (source : Option String) (text : String) (ledger : Ledger) (w : World) :
    ∃ result ledger', (Job.ofTask id (insertYaml source text) :
        Job (StateM World) LoadError Unit).runIn ledger w = (result, ledger', w) ∧
      LoadsUpTo source ledger.collection (Yaml.documents text) result ledger'.collection := by
  obtain ⟨result, c', -, hends⟩ :=
    insertDocuments_ends source (Yaml.documents text) 0 ledger.collection
  obtain ⟨more, hrun⟩ := Job.exists_runIn_ofTask id hends w
  refine ⟨result, ⟨c', more⟩, ?_, insertDocuments_outcome_iff.mp hends.outcome_eq⟩
  rw [insertYaml, hrun]
  cases result <;> rfl

/-- A path is resolved by what the file system says, and nothing changes. -/
theorem run_resolve (path : String) (w : World) : (Host.resolve path : StateM World _).run w =
    ((w.files.resolve w.workDirectory path).map (Path.ofNames ·.1), w) :=
  rfl

/-- A file that is loaded is opened by the path that its own is resolved to, and no other is. -/
theorem loadFile_opens {resolved : String} (ledger : Ledger)
    (hresolve : (Host.resolve path : StateM World _).run w = (.ok resolved, w)) :
    Job.Opens (loadFile path) (loadFile path) ledger w [.reading resolved] := by
  have hattempt := Job.OpensNothing.attempt (LoadError.io path) (Host.resolve path) ledger w
  refine hattempt.bind (Job.runIn_attempt _ hresolve) ?_
  refine (Job.OpensNothing.note _ ledger w).bind (Job.runIn_note _) ?_
  exact (Job.Opens.opening _ _ _).bind_nothing fun text => .ofTask _ _

/-- How a file is opened that is loaded from a directory. -/
def openedIn (directory : Names) (name : String) : Access :=
  .reading (Path.ofNames (directory ++ [name]))

/-- A file whose path cannot be resolved is not opened, and nothing is loaded. -/
theorem loadFile_unresolved {e : FileError} (ledger : Ledger)
    (hresolve : w.files.resolve w.workDirectory path = .error e) :
    (loadFile path).runIn ledger w = (.error (.io path e), ledger, w) ∧
      Job.Opens (loadFile path) (loadFile path) ledger w [] := by
  have hrun := run_resolve path w
  rw [hresolve] at hrun
  have hfails : (Job.attempt (LoadError.io path) (Host.resolve path) :
      Job (StateM World) LoadError String).runIn ledger w = (.error (.io path e), ledger, w) :=
    Job.runIn_attempt _ hrun
  exact ⟨Job.runIn_bind_error hfails, (Job.OpensNothing.attempt _ _ ledger w).bind_error hfails⟩

/-- A file that is found in a directory is opened by the path of its place, whatever path leads to
the directory, and loaded by what it holds. -/
theorem loadFile_found (h : w.files.Proper)
    (hfind : w.files.find w.workDirectory path = .ok (directory, .directory))
    (hfile : w.files.get? (directory ++ [name]) = some (.file contents))
    (hfinds : w.Finds path directory name contents) (ledger : Ledger) :
    ∃ result ledger', (loadFile (Path.join path name)).runIn ledger w = (result, ledger', w) ∧
      FileLoads w path directory name contents ledger.collection result ledger'.collection
        [name] ∧
      Job.Opens (loadFile (Path.join path name)) (loadFile (Path.join path name)) ledger w
        [openedIn directory name] := by
  let place := Path.ofNames (directory ++ [name])
  let noted : Ledger := { ledger with notices := ledger.notices ++ [.loadingFile place] }
  have hresolve := run_resolve (Path.join path name) w
  rw [hfinds] at hresolve
  have hname := (h.named (directory ++ [name]) (by simp [hfile]) name (by simp)).toIsName
  have hshort := h.short_of_resolve_join hfind hname hfinds
  have hread : (Host.readText place : StateM World _).run w = (FileSystem.textOf contents, w) :=
    congrArg (·, w) (h.readText_ofNames hfile hshort w.workDirectory)
  have hopens := loadFile_opens ledger hresolve
  rw [loadFile, Job.runIn_bind_ok (Job.runIn_attempt _ hresolve),
    Job.runIn_bind_ok (Job.runIn_note _)]
  cases htext : FileSystem.textOf contents with
  | error e =>
    obtain ⟨rfl, hnone⟩ := FileSystem.textOf_error htext
    rw [htext] at hread
    exact ⟨_, noted, Job.runIn_bind_error (Job.runIn_attempt _ hread), .notText hfinds hnone,
      hopens⟩
  | ok text =>
    rw [htext] at hread
    obtain ⟨result, ledger', hrun, hloads⟩ := runIn_insertYaml (some place) text noted w
    refine ⟨result, ledger', ?_, .read hfinds (FileSystem.textOf_eq_ok_iff.mp htext) hloads,
      hopens⟩
    rw [Job.runIn_bind_ok (Job.runIn_attempt _ hread)]
    exact hrun

/-- A file in a directory is loaded by what it holds, unless it is out of reach. -/
theorem loadFile_spec (h : w.files.Proper)
    (hfind : w.files.find w.workDirectory path = .ok (directory, .directory))
    (hfile : w.files.get? (directory ++ [name]) = some (.file contents)) (ledger : Ledger) :
    ∃ result ledger' opened,
      (loadFile (Path.join path name)).runIn ledger w = (result, ledger', w) ∧
      FileLoads w path directory name contents ledger.collection result ledger'.collection
        opened ∧
      Job.Opens (loadFile (Path.join path name)) (loadFile (Path.join path name)) ledger w
        (opened.map (openedIn directory)) := by
  rcases h.resolve_join hfind hfile with hlong | hfinds
  · obtain ⟨hrun, hopens⟩ := loadFile_unresolved ledger hlong
    exact ⟨_, ledger, [], hrun, .outOfReach hlong, hopens⟩
  · obtain ⟨result, ledger', hrun, hloads, hopens⟩ := loadFile_found h hfind hfile hfinds ledger
    exact ⟨result, ledger', [name], hrun, hloads, hopens⟩

/-- Files in a directory are loaded one after the other. -/
theorem loadFiles_spec (h : w.files.Proper)
    (hfind : w.files.find w.workDirectory path = .ok (directory, .directory))
    (hnames : ∀ name ∈ names, ∃ contents,
      w.files.get? (directory ++ [name]) = some (.file contents)) (ledger : Ledger) :
    ∃ result ledger' opened, (loadFiles path names).runIn ledger w = (result, ledger', w) ∧
      FilesLoad w path directory names ledger.collection result ledger'.collection opened ∧
      Job.Opens (loadFiles path names) (loadFiles path names) ledger w
        (opened.map (openedIn directory)) := by
  induction names generalizing ledger with
  | nil => exact ⟨.ok (), ledger, [], rfl, .done, Job.OpensNothing.pure () ledger w⟩
  | cons name rest ih =>
    obtain ⟨⟨contents, hfile⟩, hrest⟩ := List.forall_mem_cons.mp hnames
    obtain ⟨result, ledger₁, opened, hrun, hloads, hopens⟩ := loadFile_spec h hfind hfile ledger
    cases result with
    | error e =>
      exact ⟨.error e, ledger₁, opened, Job.runIn_bind_error hrun, .failed hfile hloads,
        hopens.bind_error hrun⟩
    | ok =>
      obtain ⟨result, ledger', more, hrun', hloads', hopens'⟩ := ih hrest ledger₁
      refine ⟨result, ledger', opened ++ more, ?_, .next hfile hloads hloads', ?_⟩
      · rw [loadFiles, Job.runIn_bind_ok hrun]
        exact hrun'
      · rw [List.map_append]
        exact hopens.bind hrun hopens'

/-- Loading files is loading each of them by its path. -/
theorem loadFiles_eq_forM {m : Type → Type} [Monad m] [Host m] (path : String)
    (names : List String) : (loadFiles path names : Job m LoadError Unit) =
      names.forM fun name => loadFile (Path.join path name) := by
  induction names with
  | nil => rfl
  | cons name rest ih =>
    rw [loadFiles, ih]
    rfl

/-- A directory is loaded by loading its files, if there are any. -/
theorem loadDirectory_spec (h : w.files.Proper)
    (hfind : w.files.find w.workDirectory path = .ok (directory, .directory))
    (hnames : names = yamlFiles (w.files.children directory)) (ledger : Ledger) :
    ∃ result ledger' opened, (loadDirectory path).runIn ledger w = (result, ledger', w) ∧
      Job.Opens (loadDirectory path) (loadDirectory path) ledger w
        (opened.map (openedIn directory)) ∧
      (names ≠ [] → (loadFiles path names).runIn ledger w = (result, ledger', w)) ∧
      (∀ p, result = .error (.noFilesFound p) ↔ names = [] ∧ p = path) ∧
      (names = [] → ledger' = ledger) ∧
      DirectoryLoads w path directory names ledger.collection result ledger'.collection
        opened := by
  subst hnames
  have hlist := run_list path w
  rw [FileSystem.list_of_find hfind] at hlist
  have hlisted : (Job.attempt (LoadError.io path) (Host.list path) :
      Job (StateM World) LoadError _).runIn ledger w =
        (.ok (w.files.children directory), ledger, w) := Job.runIn_attempt _ hlist
  have hopens := Job.OpensNothing.attempt (LoadError.io path) (Host.list path) ledger w
  by_cases hempty : yamlFiles (w.files.children directory) = []
  · have hnone : (yamlFiles (w.files.children directory)).isEmpty = true := by simp [hempty]
    refine ⟨.error (.noFilesFound path), ledger, [], ?run, ?opens, fun hsome => absurd hempty hsome,
      fun p => by simp [hempty, eq_comm], fun _ => rfl, .none hempty⟩
    case run =>
      rw [loadDirectory, Job.runIn_bind_ok hlisted]
      dsimp only
      rw [if_pos hnone]
      rfl
    case opens =>
      refine hopens.bind hlisted ?_
      dsimp only
      rw [if_pos hnone, if_pos hnone]
      exact (Job.OpensNothing.throw _ ledger w).bind_error rfl
  · have hsome : ¬(yamlFiles (w.files.children directory)).isEmpty = true := by simpa using hempty
    obtain ⟨result, ledger', opened, hrun, hloads, hfiles⟩ := loadFiles_spec h hfind
      (fun name hname => ((FileSystem.mem_yamlFiles_children h.distinct).mp hname).1) ledger
    refine ⟨result, ledger', opened, ?run, ?opens, fun _ => hrun, fun p => ?never,
      fun hnone => absurd hnone hempty, hloads.directoryLoads hempty⟩
    case run =>
      rw [loadDirectory, Job.runIn_bind_ok hlisted]
      dsimp only
      rw [if_neg hsome]
      exact hrun
    case opens =>
      refine hopens.bind hlisted ?_
      dsimp only
      rw [if_neg hsome, if_neg hsome]
      exact hfiles
    case never =>
      exact iff_of_false hloads.ne_noFilesFound fun hnone => hempty hnone.1

/-- A directory is loaded alike in whatever order its host lists it. Its files are those regular
files in it whose names have something before the extension `yaml` or `yml`, and they are loaded in
the order of the bytes of their names. There are none exactly if that is what is reported, and
then nothing has changed. Otherwise either all of them are loaded, and the resources of their
documents are put behind those that are there, or one of them is the first to fail. Then the
resources of all files before it stay, and those of its own documents before the bad one, and the
files after it are not opened. It is not opened itself if the way to it is too long. -/
theorem directory_loaded_in_byte_order :
    (∀ (m : Type → Type) [Monad m] [LawfulMonad m] (host : Host m)
      (order : List (String × FileKind) → List (String × FileKind)),
      (∀ entries, (order entries).Perm entries) → ∀ path,
        @loadDirectory m _ (host.reordered order) path = @loadDirectory m _ host path) ∧
    ∀ (w : World) (path : String) (directory : Names), w.files.Proper →
      w.files.find w.workDirectory path = .ok (directory, .directory) → ∃ names : List String,
        names.Pairwise (fun name name' => utf8Bytes name < utf8Bytes name') ∧
        (∀ name, name ∈ names ↔
          (∃ contents, w.files.get? (directory ++ [name]) = some (.file contents)) ∧
            IsYamlName name) ∧
        ∀ ledger, ∃ result ledger' opened,
          (loadDirectory path).runIn ledger w = (result, ledger', w) ∧
          (loadDirectory path).watchedIn ledger w =
            ((result, ledger', w), opened.map (openedIn directory)) ∧
          (names ≠ [] → (names.forM fun name => loadFile (Path.join path name)).runIn ledger w =
            (result, ledger', w)) ∧
          (∀ p, result = .error (.noFilesFound p) ↔ names = [] ∧ p = path) ∧
          (names = [] → ledger' = ledger) ∧
          DirectoryLoads w path directory names ledger.collection result ledger'.collection
            opened := by
  refine ⟨fun m _ _ host order horder path => loadDirectory_reordered host horder path, ?_⟩
  intro w path directory hproper hfind
  have hmem : ∀ name, name ∈ yamlFiles (w.files.children directory) ↔ _ := fun name =>
    FileSystem.mem_yamlFiles_children hproper.distinct
  have hsorted := pairwise_yamlFiles (FileSystem.nodup_children hproper.distinct directory)
  refine ⟨yamlFiles (w.files.children directory), hsorted, hmem, fun ledger => ?_⟩
  obtain ⟨result, ledger', opened, hrun, hopens, hfiles, hnone, hledger, hloads⟩ :=
    loadDirectory_spec hproper hfind rfl ledger
  have hwatched := hopens.watchedIn_eq
  rw [hrun] at hwatched
  refine ⟨result, ledger', opened, hrun, hwatched, fun hsome => ?_, hnone, hledger, hloads⟩
  rw [← loadFiles_eq_forM, hfiles hsome]

/-- A directory with two files to load, and with much that looks like one. -/
def World.manifests : World where
  files := ⟨[(["in"], .directory), (["in", "b.yml"], .file "kind: Role".toUTF8),
    (["in", "a.yaml"], .file "acme".toUTF8), (["in", ".yaml"], .file "acme".toUTF8),
    (["in", "c.YAML"], .file "acme".toUTF8), (["in", "d.yaml"], .directory),
    (["in", "d.yaml", "e.yaml"], .file "acme".toUTF8), (["in", "f.yaml"], .link "b.yml")]⟩

/-- Its two files are loaded in the order of their names, also if it is listed backwards. -/
theorem manifests_loaded :
    (@loadDirectory (StateM World) _ (Host.reordered inferInstance List.reverse) "in" =
      loadDirectory "in") ∧
    ∃ names, names.Pairwise (fun name name' => utf8Bytes name < utf8Bytes name') ∧
      (∀ name, name ∈ names ↔ name = "a.yaml" ∨ name = "b.yml") ∧
      ∃ result ledger' opened, (loadDirectory "in").watchedIn {} .manifests =
          ((result, ledger', .manifests), opened.map (openedIn ["in"])) ∧
        (∀ p, result ≠ .error (.noFilesFound p)) ∧
        DirectoryLoads .manifests "in" ["in"] names {} result ledger'.collection
          opened := by
  obtain ⟨horder, hloaded⟩ := directory_loaded_in_byte_order
  refine ⟨horder (StateM World) inferInstance List.reverse List.reverse_perm "in", ?_⟩
  have hproper : World.manifests.files.Proper := by
    refine .of_places ?_ (by decide) (by decide)
    simp [World.manifests, FileSystem.get?, Entries.find?]
  obtain ⟨names, hsorted, hmem, hruns⟩ := hloaded .manifests "in" ["in"] hproper rfl
  have hnames : ∀ name, name ∈ names ↔ name = "a.yaml" ∨ name = "b.yml" := by
    intro name
    rw [hmem]
    constructor
    · rintro ⟨⟨contents, hfile⟩, hyaml⟩
      have hplace : Entries.find? ["in", name] World.manifests.files.places =
          some (.file contents) := hfile
      have hentry : name = "b.yml" ∨ name = "a.yaml" ∨ name = ".yaml" ∨ name = "c.YAML" := by
        have hlisted := Entries.mem_of_find? hplace
        simp [World.manifests] at hlisted
        tauto
      rcases hentry with rfl | rfl | rfl | rfl
      · exact .inr rfl
      · exact .inl rfl
      · exact absurd (isYamlName_iff.mp hyaml) (by decide)
      · exact absurd (isYamlName_iff.mp hyaml) (by decide)
    · rintro (rfl | rfl)
      · exact ⟨⟨_, rfl⟩, "a", by decide, .inl rfl⟩
      · exact ⟨⟨_, rfl⟩, "b", by decide, .inr rfl⟩
  obtain ⟨result, ledger', opened, -, hwatched, -, hnone, -, hloads⟩ := hruns {}
  refine ⟨names, hsorted, hnames, result, ledger', opened, hwatched, fun p hresult => ?_, hloads⟩
  have hfile := (hnames "a.yaml").mpr (.inl rfl)
  rw [((hnone p).mp hresult).1] at hfile
  cases hfile

end KubeHcl
