import KubeHcl.Proofs.DistinctNames
import KubeHcl.Proofs.WatchedRuns
import KubeHcl.Proofs.WrittenFiles
import Mathlib.Logic.Relation

/-!
# Where files are opened

A resource is called what it likes, and a file is named after it. Still no file is opened outside of
the output directory: what a name is made of is neither a slash nor a dot nor NUL, so that the path
of a file goes on from the directory by one name. All paths that are opened while the declarations
are written are different.
-/

namespace KubeHcl

namespace Naming

/-- A name is valid, ends with an underscore and seven digits of the digest of an identity's text,
and has no character that means something in a path. -/
structure Plain (id : Identity) (name : String) : Prop where
  valid : IsValid name.toList
  fingerprinted : ∃ front, name.toList = front ++ '_' :: (Sha512.hexDigest id.text).take 7
  length : ((Sha512.hexDigest id.text).take 7).length = 7
  digits : ∀ d ∈ (Sha512.hexDigest id.text).take 7, d ∈ "0123456789abcdef".toList
  noSlash : '/' ∉ name.toList
  noDot : '.' ∉ name.toList
  noNul : '\x00' ∉ name.toList

/-- The readable part of a name ends with an underscore. -/
theorem sanitize_readable (r : Resource) : ∃ front, sanitize (readable r) = front ++ ['_'] := by
  have hreadable : readable r = (r.kind.toList ++ '_' :: r.originalName.toList) ++ ['_'] := by
    simp [readable]
  have hunderscore : sanitizeChar '_' = '_' := by decide +kernel
  refine ⟨sanitize (r.kind.toList ++ '_' :: r.originalName.toList), ?_⟩
  rw [hreadable, sanitize_append (by simp), List.map_singleton, hunderscore]

/-- The name of a resource is plain, whatever the resource is called. -/
theorem plain_identifier (r : Resource) : Plain r.origin (identifier r) := by
  have hvalid := isValid_identifier r
  obtain ⟨front, hfront⟩ := sanitize_readable r
  refine ⟨hvalid, ⟨front, ?_⟩, length_fingerprint r.origin,
    fun d hd => mem_hexDigits_of_mem_fingerprint hd, ?_, ?_, ?_⟩
  · rw [toList_identifier, hfront, List.append_assoc]
    rfl
  · exact notMem_of_isValid hvalid (by decide +kernel)
  · exact notMem_of_isValid hvalid (by decide +kernel)
  · exact notMem_of_isValid hvalid (by decide +kernel)

end Naming

/-- The identity a resource was loaded with stays through any number of rewrites. -/
theorem Resource.origin_of_rewrites {r₀ r : Resource}
    (h : Relation.ReflTransGen Resource.Rewritten r₀ r) : r.origin = r₀.origin := by
  induction h with
  | refl => rfl
  | tail _ hlast ih => rw [hlast.origin_eq, ih]

/-- The path is that of something right in the directory, with the given name: it goes through the
names of the directory and that one, from where the directory's path begins. So where the directory
is, and nothing there is a link of that name, it leads there and nowhere else. -/
structure Path.ChildOf (directory name path : String) : Prop where
  isName : Path.IsName name
  noNul : '\x00' ∉ name.toList
  names : Path.names path = Path.names directory ++ [name]
  start : Path.isAbsolute path = Path.isAbsolute directory
  leads : ∀ (fs : FileSystem) (workDirectory place reached : Names),
    fs.Leads workDirectory directory place →
    (∀ target, fs.get? (place ++ [name]) ≠ some (.link target)) →
    fs.walk true (FileSystem.startOf workDirectory path) (FileSystem.namesToWalk path)
      FileSystem.linkLimit = .ok reached → reached = place ++ [name]

/-- A name that is joined to the path of a directory is that of something in it. -/
theorem Path.IsName.childOf {name : String} (h : Path.IsName name) (hnul : '\x00' ∉ name.toList)
    (directory : String) : Path.ChildOf directory name (Path.join directory name) where
  isName := h
  noNul := hnul
  names := Path.names_join directory h
  start := Path.isAbsolute_join directory h
  leads _ _ _ _ hleads hlink hwalk := hleads.walk_join h hlink hwalk

/-- Different names make different paths in a directory. -/
theorem Path.join_inj {directory name name' : String}
    (heq : Path.join directory name = Path.join directory name') : name = name' := by
  unfold join at heq
  split at heq
  · exact String.append_right_inj _ |>.mp heq
  · exact String.append_right_inj _ |>.mp heq

/-- The names of the files that the declarations of a collection go into, in order. -/
def Collection.fileNames (c : Collection) : List String :=
  (mainStem :: variablesStem :: c.names).map (· ++ "." ++ fileExtension)

/-- The names of the files are those of something in a directory, and have no NUL. -/
theorem Collection.isName_of_mem_fileNames {c : Collection} {name : String}
    (hname : name ∈ c.fileNames) : Path.IsName name ∧ '\x00' ∉ name.toList := by
  obtain ⟨stem, hstem, rfl⟩ := List.mem_map.mp hname
  have hplain : '/' ∉ stem.toList ∧ '\x00' ∉ stem.toList := by
    rcases List.mem_cons.mp hstem with rfl | hstem
    · decide
    rcases List.mem_cons.mp hstem with rfl | hstem
    · decide
    obtain ⟨r, -, rfl⟩ := List.mem_map.mp hstem
    exact ⟨(Naming.plain_identifier r).noSlash, (Naming.plain_identifier r).noNul⟩
  refine ⟨isName_of_stem hplain.1, ?_⟩
  simpa [fileExtension] using hplain.2

/-- How a file is opened that is written into a directory. -/
def openedFor (path : String) (file : String × String) : Access :=
  .writing (Path.join path (file.1 ++ "." ++ fileExtension))

/-- The files that are opened while files are written are those up to the first that cannot be
written, and all if there is none. -/
theorem writeFiles_opens (path : String) (files : Files) (ledger : Ledger) (w : World) :
    ∃ opened, opened <+: files ∧
      (((writeFiles path files).runIn ledger w).1 = .ok () → opened = files) ∧
      Job.Opens (writeFiles path files) (writeFiles path files) ledger w
        (opened.map (openedFor path)) := by
  induction files generalizing ledger w with
  | nil => exact ⟨[], List.prefix_rfl, fun _ => rfl, Job.OpensNothing.pure () _ _⟩
  | cons file rest ih =>
    obtain ⟨stem, text⟩ := file
    let p := Path.join path (stem ++ "." ++ fileExtension)
    let attempted : Job (StateM World) WriteError Unit := .attempt (.io p) (Host.writeText p text)
    have hopens : Job.Opens (.attempt (.io p) (Host.writeText p text)) attempted ledger w
        [openedFor path (stem, text)] := .opening _ _ _
    rcases hrun : attempted.runIn ledger w with ⟨e | ⟨⟩, ledger₁, w₁⟩
    · refine ⟨[(stem, text)], ⟨rest, rfl⟩, fun hok => ?_, hopens.bind_error hrun⟩
      rw [writeFiles, Job.runIn_bind_error hrun] at hok
      cases hok
    · obtain ⟨opened, hinitial, hall, hrest⟩ := ih ledger₁ w₁
      refine ⟨(stem, text) :: opened, List.cons_prefix_cons.mpr ⟨rfl, hinitial⟩, fun hok => ?_,
        hopens.bind hrun hrest⟩
      rw [writeFiles, Job.runIn_bind_ok hrun] at hok
      rw [hall hok]

/-- Preparing the output directory leaves the collection. -/
theorem prepareDirectory_collection (path : String) (ledger : Ledger) (w : World) :
    ((prepareDirectory path).runIn ledger w).2.1.collection = ledger.collection := by
  rw [prepareDirectory, Job.runIn_bind_ok (Job.runIn_lift _), run_kind]
  dsimp only
  split
  · rcases hlist : (Host.list path : StateM World _).run w with ⟨e | entries, w₁⟩
    · rw [Job.runIn_bind_error (Job.runIn_attempt _ hlist)]
    · rw [Job.runIn_bind_ok (Job.runIn_attempt _ hlist)]
      split <;> rfl
  · rfl
  · rcases hmade : (makeDirectories path (Path.parents path) : StateM World _).run w with
      ⟨e | ⟨⟩, w₁⟩
    · rw [Job.runIn_bind_error (Job.runIn_attempt _ hmade)]
    · rw [Job.runIn_bind_ok (Job.runIn_attempt _ hmade)]
      rfl
  · rfl

/-- The files that rendering gives have the names of the collection, in order. -/
theorem renderAll_fileNames {config : Config} {c c' : Collection} {files : Files}
    (hok : (renderAll config).outcome c = (.ok files, c')) :
    files.map (·.1 ++ "." ++ fileExtension) = c.fileNames := by
  obtain ⟨-, hfiles, -⟩ := renderAll_ok hok
  have hall : c.names.take c.size = c.names := by
    rw [Collection.size, ← List.length_map Naming.identifier]
    exact List.take_length
  have hstems := hfiles.names_eq
  rw [hall] at hstems
  rw [Collection.fileNames, ← hstems, List.map_map]
  rfl

/-- They are all different, since rendering refuses names that are not. -/
theorem renderAll_fileNames_nodup {config : Config} {c c' : Collection} {files : Files}
    (hok : (renderAll config).outcome c = (.ok files, c')) : c.fileNames.Nodup := by
  have hinj : Function.Injective (· ++ "." ++ fileExtension) := by
    intro stem stem' heq
    have hplace : filePlace [] stem = filePlace [] stem' := congrArg ([·]) heq
    exact filePlace_inj hplace
  have hstems := (renderAll_names hok).2.map hinj
  rw [List.map_map] at hstems
  exact renderAll_fileNames hok ▸ hstems

/-- The files that are opened while what was rendered is written are those of the collection, up to
the first that cannot be written. -/
theorem writeFiles_opens_fileNames {config : Config} {c c' : Collection} {files : Files}
    (hok : (renderAll config).outcome c = (.ok files, c')) (path : String) (ledger : Ledger)
    (w : World) : ∃ names, names <+: c.fileNames ∧
      (((writeFiles path files).runIn ledger w).1 = .ok () → names = c.fileNames) ∧
      names.Nodup ∧ Job.Opens (writeFiles path files) (writeFiles path files) ledger w
        (names.map fun name => .writing (Path.join path name)) := by
  obtain ⟨opened, hinitial, hall, hopens⟩ := writeFiles_opens path files ledger w
  have hnames := renderAll_fileNames hok
  have hopened : opened.map (openedFor path) = (opened.map (·.1 ++ "." ++ fileExtension)).map
      fun name => .writing (Path.join path name) := by
    rw [List.map_map]
    rfl
  rw [hopened] at hopens
  have hinitial : opened.map (·.1 ++ "." ++ fileExtension) <+: c.fileNames :=
    hnames ▸ hinitial.map _
  refine ⟨opened.map (·.1 ++ "." ++ fileExtension), hinitial, fun hwrote => ?_,
    (renderAll_fileNames_nodup hok).sublist hinitial.sublist, hopens⟩
  rw [hall hwrote, hnames]

/-- Nothing is opened before what was rendered is written. -/
theorem write_opens (config : Config) (path : String) (ledger : Ledger) (w : World) :
    ∃ names, names <+: ledger.collection.fileNames ∧
      (((write config path).runIn ledger w).1 = .ok () → names = ledger.collection.fileNames) ∧
      names.Nodup ∧ Job.Opens (write config path) (write config path) ledger w
        (names.map fun name => .writing (Path.join path name)) := by
  have hprepare := prepareDirectory_opens path ledger w
  have hcollection := prepareDirectory_collection path ledger w
  rcases hprepared : (prepareDirectory path).runIn ledger w with ⟨e | ⟨⟩, ledger₁, w₁⟩
  · refine ⟨[], List.nil_prefix, fun hok => ?_, .nil, hprepare.bind_error hprepared⟩
    rw [write, Job.runIn_bind_error hprepared] at hok
    cases hok
  have hsame : ledger₁.collection = ledger.collection := by rw [← hcollection, hprepared]
  rw [← hsame]
  obtain ⟨rendered, c', hends, -⟩ := renderAll_ends config ledger₁.collection
  obtain ⟨more, hrender⟩ := Job.exists_runIn_ofTask WriteError.transform hends w₁
  have hopens := Job.OpensNothing.ofTask WriteError.transform (renderAll config) ledger₁ w₁
  cases rendered with
  | error e =>
    refine ⟨[], List.nil_prefix, fun hok => ?_, .nil,
      hprepare.bind hprepared (hopens.bind_error hrender)⟩
    rw [write, Job.runIn_bind_ok hprepared, Job.runIn_bind_error hrender] at hok
    cases hok
  | ok files =>
    obtain ⟨names, hinitial, hall, hnodup, hfiles⟩ :=
      writeFiles_opens_fileNames hends.outcome_eq path ⟨c', more⟩ w₁
    have hnoted := hfiles.bind_nothing fun _ => .note (.wroteDeclarations path files.length)
    refine ⟨names, hinitial, fun hok => hall ?_, hnodup,
      hprepare.bind hprepared (hopens.bind hrender hnoted)⟩
    rw [write, Job.runIn_bind_ok hprepared, Job.runIn_bind_ok hrender] at hok
    rcases hwrote : (writeFiles path files).runIn ⟨c', more⟩ w₁ with ⟨e | ⟨⟩, ledger₂, w₂⟩
    · rw [Job.runIn_bind_error hwrote] at hok
      cases hok
    · rfl

/-- Whatever resources are called and whatever was rewritten in them, they are declared under names
that are valid, end with a fingerprint of what they were loaded as and have no character that means
something in a path. So every path that is opened to write declarations, be it in a run that
succeeds or in one that fails, is that of something right in the output directory, and they are all
different. -/
theorem opened_paths_inside (config : Config) :
    (∀ t r₀ r, Resource.ofTree t = .ok r₀ → Relation.ReflTransGen Resource.Rewritten r₀ r →
      r.origin = r₀.id ∧ Naming.Plain r.origin (Naming.identifier r)) ∧
    ∀ (path : String) (ledger : Ledger) (w : World), ∃ names,
      (write config path).watchedIn ledger w = ((write config path).runIn ledger w,
        names.map fun name => .writing (Path.join path name)) ∧
      names <+: ledger.collection.fileNames ∧
      (((write config path).runIn ledger w).1 = .ok () → names = ledger.collection.fileNames) ∧
      (names.map (Path.join path)).Nodup ∧
      ∀ name ∈ names, Path.ChildOf path name (Path.join path name) := by
  constructor
  · intro t r₀ r hok hrewritten
    obtain ⟨-, horigin, -⟩ := Resource.ofTree_ok hok
    exact ⟨(Resource.origin_of_rewrites hrewritten).trans horigin, Naming.plain_identifier r⟩
  · intro path ledger w
    obtain ⟨names, hinitial, hall, hnodup, hopens⟩ := write_opens config path ledger w
    have hinj : Function.Injective (Path.join path) := fun _ _ => Path.join_inj
    refine ⟨names, hopens.watchedIn_eq, hinitial, hall, hnodup.map hinj, fun name hname => ?_⟩
    obtain ⟨hisName, hnul⟩ := Collection.isName_of_mem_fileNames (hinitial.subset hname)
    exact hisName.childOf hnul path

/-- A resource that is called like a path out of every directory. -/
def Resource.climbing : Resource where
  origin := ⟨"", "v1", "/", "..", "../\x00"⟩
  id := ⟨"", "v1", "/", "..", "../\x00"⟩
  fields :=
    [("apiVersion", .text "v1"), ("kind", .text "/"),
      ("metadata", .map [("name", .text "../\x00"), ("namespace", .text "..")])]

/-- It does not get anywhere. -/
theorem climbing_inside :
    Naming.Plain Resource.climbing.origin (Naming.identifier .climbing) ∧
      ∃ names, ((write {} "out").watchedIn ⟨⟨[.climbing]⟩, []⟩ {}).2 =
          names.map (fun name => .writing (Path.join "out" name)) ∧
        names = ["_main.tf", "_variables.tf", "_-_----_ae0ced6.tf"] ∧
        ∀ name ∈ names, Path.ChildOf "out" name (Path.join "out" name) := by
  obtain ⟨hnames, hpaths⟩ := opened_paths_inside {}
  obtain ⟨-, hplain⟩ := hnames Resource.climbing.tree .climbing .climbing rfl .refl
  refine ⟨hplain, ?_⟩
  obtain ⟨names, hwatched, -, hall, -, hchild⟩ := hpaths "out" ⟨⟨[.climbing]⟩, []⟩ {}
  have hok : ((write {} "out").runIn ⟨⟨[.climbing]⟩, []⟩ {}).1 = .ok () := by decide +kernel
  have hfiles : Collection.fileNames ⟨[.climbing]⟩ =
      ["_main.tf", "_variables.tf", "_-_----_ae0ced6.tf"] := by
    decide +kernel
  refine ⟨names, by rw [hwatched], (hall hok).trans hfiles, hchild⟩

end KubeHcl
