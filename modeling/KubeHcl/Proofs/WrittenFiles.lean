import KubeHcl.Proofs.OutputDirectory
import KubeHcl.Proofs.RenderedFiles
import KubeHcl.Proofs.ValidNames

/-!
# What writing leaves

After the output directory is prepared all files are rendered, and only then they are written one by
one. So a failure leaves nothing, or some directories, or these and the files that come before the
one that could not be written.
-/

namespace KubeHcl

/-- Where the file with a name goes, when its extension is put behind it. -/
def filePlace (directory : Names) (stem : String) : Names :=
  directory ++ [stem ++ "." ++ fileExtension]

/-- Different names give different files. -/
theorem filePlace_inj {directory : Names} {stem stem' : String}
    (heq : filePlace directory stem = filePlace directory stem') : stem = stem' := by
  have hnames := List.cons.inj (List.append_cancel_left heq)
  have hchars := congrArg String.toList hnames.1
  simp only [String.toList_append, List.append_assoc] at hchars
  exact String.toList_inj.mp (List.append_cancel_right hchars)

namespace FileSystem

variable {fs fs₁ fs' : FileSystem} {directory : Names} {files : Files}

/-- Files are in a directory with their texts, and everything else is as it was. -/
structure Written (fs fs' : FileSystem) (directory : Names) (files : Files) : Prop where
  written : ∀ file ∈ files, fs'.get? (filePlace directory file.1) = some (.file file.2.toUTF8)
  kept : ∀ place, (∀ file ∈ files, place ≠ filePlace directory file.1) →
    fs'.get? place = fs.get? place

/-- No file has to be there. -/
theorem Written.nil (fs : FileSystem) (directory : Names) : fs.Written fs directory [] :=
  ⟨by simp, fun _ _ => rfl⟩

/-- A file may be put there first, if none of the others has its name. -/
theorem Written.cons {stem text : String} (hnew : stem ∉ files.map Prod.fst)
    (h : (fs.put (filePlace directory stem) (.file text.toUTF8)).Written fs' directory files) :
    fs.Written fs' directory ((stem, text) :: files) := by
  have hne : filePlace directory stem ≠ [] := by simp [filePlace]
  have hother : ∀ file ∈ files, filePlace directory stem ≠ filePlace directory file.1 := by
    intro file hfile heq
    exact hnew (filePlace_inj heq ▸ List.mem_map_of_mem hfile)
  constructor
  · intro file hfile
    rcases List.mem_cons.mp hfile with rfl | hfile
    · rw [h.kept _ hother, get?_put hne, if_pos rfl]
    · exact h.written file hfile
  · intro place hplace
    obtain ⟨hfirst, hrest⟩ := List.forall_mem_cons.mp hplace
    rw [h.kept place hrest, get?_put hne, if_neg hfirst]

end FileSystem

/-- Writing a text, as the file system does it. -/
theorem run_writeText (path text : String) (w : World) :
    (Host.writeText path text : StateM World _).run w =
      match w.files.writeText w.workDirectory path text with
      | .ok files => (.ok (), { w with files })
      | .error e => (.error e, w) := rfl

/-- What writing files one by one comes to, the files and the files that were there before: all of
them are `done`, or those before one that cannot be written. -/
inductive WroteFiles (path : String) (files : Files) : Except WriteError Unit → Files → Prop
  | all : WroteFiles path files (.ok ()) files
  | some {done rest : Files} {stem text : String} {cause : FileError}
      (hsplit : files = done ++ (stem, text) :: rest) : WroteFiles path files
        (.error (.io (Path.join path (stem ++ "." ++ fileExtension)) cause)) done

/-- With one more file that was written before. -/
theorem WroteFiles.cons {path : String} {files done : Files} {result : Except WriteError Unit}
    (file : String × String) (h : WroteFiles path files result done) :
    WroteFiles path (file :: files) result (file :: done) := by
  cases h with
  | all => exact .all
  | some hsplit => exact .some (by rw [hsplit, List.cons_append])

/-- Those that were written are among the files. -/
theorem WroteFiles.subset {path : String} {files done : Files} {result : Except WriteError Unit}
    (h : WroteFiles path files result done) : done ⊆ files := by
  cases h with
  | all => exact List.Subset.refl files
  | some hsplit => exact hsplit ▸ List.subset_append_left done _

/-- Files are written one by one. If they have names of their own and no links are in the way, those
that could be written are in the directory that the path leads to, and nothing else has changed. -/
theorem writeFiles_spec (path : String) (files : Files) (ledger : Ledger) (w : World)
    (hnames : ∀ file ∈ files, Path.IsName (file.1 ++ "." ++ fileExtension))
    (hnodup : (files.map Prod.fst).Nodup) :
    ∃ result files' done, (writeFiles path files).runIn ledger w =
        (result, ledger, { w with files := files' }) ∧ WroteFiles path files result done ∧
      ∀ directory, w.files.Leads w.workDirectory path directory →
        (∀ file ∈ files, ∀ target,
          w.files.get? (filePlace directory file.1) ≠ some (.link target)) →
        w.files.Written files' directory done ∧ w.files.Grows files' := by
  induction files generalizing w with
  | nil => exact ⟨.ok (), w.files, [], rfl, .all, fun _ _ _ => ⟨.nil _ _, .refl _⟩⟩
  | cons file rest ih =>
    obtain ⟨stem, text⟩ := file
    obtain ⟨hname, hnames⟩ := List.forall_mem_cons.mp hnames
    obtain ⟨hnew, hnodup⟩ := List.nodup_cons.mp hnodup
    have hrun := run_writeText (Path.join path (stem ++ "." ++ fileExtension)) text w
    cases hwrite : w.files.writeText w.workDirectory
        (Path.join path (stem ++ "." ++ fileExtension)) text with
    | error e =>
      rw [hwrite] at hrun
      exact ⟨_, w.files, [], Job.runIn_bind_error (Job.runIn_attempt _ hrun), .some rfl,
        fun _ _ _ => ⟨.nil _ _, .refl _⟩⟩
    | ok files₁ =>
      rw [hwrite] at hrun
      obtain ⟨result, files', done, hrest, hdone, hwritten⟩ :=
        ih { w with files := files₁ } hnames hnodup
      refine ⟨result, files', (stem, text) :: done, ?_, hdone.cons (stem, text), ?_⟩
      · rw [writeFiles, Job.runIn_bind_ok (Job.runIn_attempt _ hrun)]
        exact hrest
      · intro directory hleads hlinks
        obtain ⟨hlink, hlinks⟩ := List.forall_mem_cons.mp hlinks
        obtain ⟨hfile, rfl⟩ := FileSystem.writeText_ok hleads hname hlink hwrite
        have hgrows : w.files.Grows (w.files.put (filePlace directory stem) (.file text.toUTF8)) :=
          .put hfile hlink (by simp)
        have hlinks' : ∀ file ∈ rest, ∀ target,
            (w.files.put (filePlace directory stem) (.file text.toUTF8)).get?
              (filePlace directory file.1) ≠ some (.link target) := by
          intro file hmem target htarget
          exact hlinks file hmem target ((hgrows.link_iff _ _).mp htarget)
        obtain ⟨hwritten, hgrows'⟩ := hwritten directory (hgrows.leads hleads) hlinks'
        have hnew' : stem ∉ done.map Prod.fst := fun hmem =>
          hnew (List.map_subset Prod.fst hdone.subset hmem)
        exact ⟨hwritten.cons hnew', hgrows.trans hgrows'⟩

/-! ## The names of the files -/

/-- A text without a slash is the name of a file once it has an extension. -/
theorem isName_of_stem {stem : String} (hstem : '/' ∉ stem.toList) :
    Path.IsName (stem ++ "." ++ fileExtension) := by
  have hlong : ∀ text : String, text.toList.length < 3 → stem ++ "." ++ fileExtension ≠ text := by
    rintro text hshort rfl
    simp only [fileExtension, String.toList_append, List.length_append] at hshort
    have hlength : ".".toList.length + "tf".toList.length = 3 := rfl
    omega
  refine ⟨hlong "" (by decide), ?_, hlong "." (by decide), hlong ".." (by decide)⟩
  simpa [fileExtension] using hstem

/-- The files that rendering gives have names, and each its own. -/
theorem renderAll_names {config : Config} {c c' : Collection} {files : Files}
    (hok : (renderAll config).outcome c = (.ok files, c')) :
    (∀ file ∈ files, Path.IsName (file.1 ++ "." ++ fileExtension)) ∧
      (files.map Prod.fst).Nodup := by
  obtain ⟨-, hfiles, -⟩ := renderAll_ok hok
  refine ⟨fun file hfile => isName_of_stem ?_, hfiles.nodup⟩
  have hstem := List.mem_map_of_mem (f := Prod.fst) hfile
  rw [hfiles.names_eq, List.mem_cons, List.mem_cons] at hstem
  rcases hstem with hmain | hvariables | hname
  · rw [hmain]
    decide
  · rw [hvariables]
    decide
  · obtain ⟨r, -, hr⟩ := List.mem_map.mp (List.mem_of_mem_take hname)
    have hvalid := Naming.isValid_identifier r
    exact hr ▸ Naming.notMem_of_isValid hvalid (by decide +kernel)

/-! ## The output -/

/-- The path leads to a directory in which there are files with their texts and which had nothing in
it before. Everything else is as it was, but for the missing directories of the path. These are not
in that directory unless the path goes back by `..`. -/
structure FileSystem.Output (before after : FileSystem) (workDirectory : Names) (path : String)
    (directory : Names) (files : Files) : Prop where
  leads : after.Leads workDirectory path directory
  fresh : ∀ rest ≠ [], before.get? (directory ++ rest) = none
  written : ∀ file ∈ files, after.get? (filePlace directory file.1) = some (.file file.2.toUTF8)
  kept : ∀ place, (∀ file ∈ files, place ≠ filePlace directory file.1) →
    after.get? place = before.get? place ∨
      before.MadeAt after workDirectory (path :: Path.parents path) place
  exact : ∀ rest ≠ [], after.get? (directory ++ rest) ≠ none →
    (∃ file ∈ files, directory ++ rest = filePlace directory file.1) ∨
      (".." ∈ Path.names path ∧
        before.MadeAt after workDirectory (path :: Path.parents path) (directory ++ rest))

/-- Files that are written into a prepared directory with nothing in it. -/
theorem Prepared.output {w : World} {path : String} {directory : Names} {files : Files}
    {prepared after : FileSystem} (hprepared : Prepared w path (.ok ()) prepared)
    (hrooted : w.files.Rooted) (hleads : prepared.Leads w.workDirectory path directory)
    (hempty : ∀ name, w.files.get? (directory ++ [name]) = none)
    (hwritten : prepared.Written after directory files) (hgrows : prepared.Grows after) :
    w.files.Output after w.workDirectory path directory files := by
  have hmade := hprepared.made_files
  have hfresh : ∀ rest ≠ [], w.files.get? (directory ++ rest) = none :=
    fun rest hrest => hrooted.below_empty hempty hrest
  refine ⟨hgrows.leads hleads, hfresh, hwritten.written, ?kept, ?exact⟩
  case kept =>
    intro place hplace
    rw [hwritten.kept place hplace]
    exact (hmade place).imp_right fun hnew => hnew.grows hgrows (List.Subset.refl _)
  case exact =>
    intro rest hrest hpresent
    by_cases hfile : ∃ file ∈ files, directory ++ rest = filePlace directory file.1
    · exact .inl hfile
    · have hplace : ∀ file ∈ files, directory ++ rest ≠ filePlace directory file.1 :=
        fun file hmem heq => hfile ⟨file, hmem, heq⟩
      rw [hwritten.kept _ hplace] at hpresent
      rcases hmade (directory ++ rest) with hkept | hnew
      · exact absurd (hkept.trans (hfresh rest hrest)) hpresent
      · refine .inr ⟨?_, hnew.grows hgrows (List.Subset.refl _)⟩
        by_contra habove
        exact hmade.not_madeAt_below hrooted habove hleads hrest hnew

/-- What writing comes to, and the collection and the files afterwards. -/
inductive Wrote (config : Config) (path : String) (w : World) (c : Collection) :
    Except WriteError Unit → Collection → FileSystem → Prop
  /-- The output directory could not be prepared. -/
  | unprepared {e : WriteError} {files : FileSystem}
      (hprepared : Prepared w path (.error e) files) :
      Wrote config path w c (.error e) c files
  /-- The collection could not be rendered. -/
  | unrendered {e : TransformError} {c' : Collection} {files : FileSystem}
      (hprepared : Prepared w path (.ok ()) files)
      (hrender : (renderAll config).outcome c = (.error e, c')) :
      Wrote config path w c (.error (.transform e)) c' files
  /-- Files were written, be it all of them or some. -/
  | wrote {rendered done : Files} {c' : Collection} {result : Except WriteError Unit}
      {files : FileSystem} (hrender : (renderAll config).outcome c = (.ok rendered, c'))
      (hwrote : WroteFiles path rendered result done)
      (houtput : ¬w.Overlooks path → ∃ directory,
        w.files.Output files w.workDirectory path directory done) :
      Wrote config path w c result c' files

namespace Wrote

variable {config : Config} {path p : String} {w : World} {c c' : Collection}
  {result : Except WriteError Unit} {files : FileSystem}

/-- A directory that is refused is left alone. -/
theorem refused (h : Wrote config path w c result c' files)
    (hresult : result = .error (.notADirectory p) ∨ result = .error (.notEmpty p)) :
    files = w.files ∧ c' = c := by
  cases h with
  | unprepared hprepared =>
    cases hprepared with
    | notADirectory | notEmpty => exact ⟨rfl, rfl⟩
    | failed => simp at hresult
  | unrendered => simp at hresult
  | wrote _ hwrote => cases hwrote <;> simp at hresult

/-- Without a rendering there are no files. -/
theorem unrenderable {e : TransformError}
    (h : Wrote config path w c (.error (.transform e)) c' files) :
    (renderAll config).outcome c = (.error e, c') ∧
      w.files.Made files w.workDirectory (path :: Path.parents path) := by
  cases h with
  | unprepared hprepared => cases hprepared
  | unrendered hprepared hrender => exact ⟨hrender, hprepared.made_files⟩
  | wrote _ hwrote => cases hwrote

/-- All files are there after a success. -/
theorem complete (h : Wrote config path w c (.ok ()) c' files) :
    ∃ rendered, (renderAll config).outcome c = (.ok rendered, c') ∧ (¬w.Overlooks path →
      ∃ directory, w.files.Output files w.workDirectory path directory rendered) := by
  cases h with
  | wrote hrender hwrote houtput =>
    cases hwrote with
    | all => exact ⟨_, hrender, houtput⟩

/-- Otherwise a directory or a file could not be made, and in the second case the files before it
are there. -/
theorem incomplete {cause : FileError}
    (h : Wrote config path w c (.error (.io p cause)) c' files) :
    (p = path ∧ c' = c ∧ w.files.Made files w.workDirectory (path :: Path.parents path)) ∨
      ∃ done stem text rest,
        (renderAll config).outcome c = (.ok (done ++ (stem, text) :: rest), c') ∧
        p = Path.join path (stem ++ "." ++ fileExtension) ∧ (¬w.Overlooks path →
          ∃ directory, w.files.Output files w.workDirectory path directory done) := by
  cases h with
  | unprepared hprepared =>
    cases hprepared with
    | failed hmade => exact .inl ⟨rfl, rfl, hmade⟩
  | wrote hrender hwrote houtput =>
    cases hwrote with
    | some hsplit => exact .inr ⟨_, _, _, _, hsplit ▸ hrender, rfl, houtput⟩

end Wrote

/-- Writing comes to what is listed and changes nothing but the collection and the files. -/
theorem write_ends (config : Config) (path : String) (ledger : Ledger) {w : World}
    (hw : w.WellFormed) : ∃ result ledger' files,
      (write config path).runIn ledger w = (result, ledger', { w with files }) ∧
      Wrote config path w ledger.collection result ledger'.collection files := by
  obtain ⟨prepared, ledger₀, files₀, hrun, hcollection, hprepared⟩ :=
    prepareDirectory_spec path ledger w hw.here
  rw [← hcollection]
  cases prepared with
  | error e => exact ⟨_, _, _, Job.runIn_bind_error hrun, .unprepared hprepared⟩
  | ok =>
    obtain ⟨rendered, c', hends, -⟩ := renderAll_ends config ledger₀.collection
    obtain ⟨more, hrender⟩ :=
      Job.exists_runIn_ofTask WriteError.transform hends { w with files := files₀ }
    cases rendered with
    | error e =>
      rw [write, Job.runIn_bind_ok hrun, Job.runIn_bind_error hrender]
      exact ⟨_, _, _, rfl, .unrendered hprepared hends.outcome_eq⟩
    | ok rendered =>
      obtain ⟨hnames, hnodup⟩ := renderAll_names hends.outcome_eq
      obtain ⟨result, files', done, hfiles, hwrote, hwritten⟩ :=
        writeFiles_spec path rendered ⟨c', more⟩ { w with files := files₀ } hnames hnodup
      have houtput : ¬w.Overlooks path → ∃ directory,
          w.files.Output files' w.workDirectory path directory done := by
        intro hseen
        obtain ⟨directory, hleads, hempty⟩ := hprepared.empty
        have hlinks : ∀ file ∈ rendered, ∀ target,
            files₀.get? (filePlace directory file.1) ≠ some (.link target) := by
          intro file _ target hlink
          cases (hempty hseen _).symm.trans ((hprepared.made_files.grows.link_iff _ _).mp hlink)
        obtain ⟨hwritten, hgrows⟩ := hwritten directory hleads hlinks
        exact ⟨directory, hprepared.output hw.rooted hleads (hempty hseen) hwritten hgrows⟩
      rw [write, Job.runIn_bind_ok hrun, Job.runIn_bind_ok hrender]
      cases result with
      | error e =>
        exact ⟨_, _, _, Job.runIn_bind_error hfiles, .wrote hends.outcome_eq hwrote houtput⟩
      | ok =>
        exact ⟨_, _, _, Job.runIn_bind_ok hfiles, .wrote hends.outcome_eq hwrote houtput⟩

/-- Writing touches nothing but the output. If the path leads to something else than an empty
directory, everything stays as it was. If a resource cannot be turned into a declaration, no file
was written, and at most the missing directories of the path were made. After a success the files
that were rendered are there and nothing else is, and if a file could not be written, those before
it are there and no others. The exception to the last two is a path that leads nowhere until its
missing directories are made, and then to a directory that is not empty; only a path that goes back
by `..` can do that, and the empty path. A run that fails before it comes to writing changes no
files. -/
theorem write_touches_only_output (config : Config) :
    (∀ (path : String) (ledger : Ledger) (w : World), w.WellFormed → ∃ result ledger' files,
      (write config path).runIn ledger w = (result, ledger', { w with files }) ∧
      (∀ p, result = .error (.notADirectory p) ∨ result = .error (.notEmpty p) →
        files = w.files ∧ ledger'.collection = ledger.collection) ∧
      (∀ e, result = .error (.transform e) →
        (renderAll config).outcome ledger.collection = (.error e, ledger'.collection) ∧
          w.files.Made files w.workDirectory (path :: Path.parents path)) ∧
      (result = .ok () → ∃ rendered,
        (renderAll config).outcome ledger.collection = (.ok rendered, ledger'.collection) ∧
          (¬w.Overlooks path → ∃ directory,
            w.files.Output files w.workDirectory path directory rendered)) ∧
      (∀ p cause, result = .error (.io p cause) →
        (p = path ∧ ledger'.collection = ledger.collection ∧
            w.files.Made files w.workDirectory (path :: Path.parents path)) ∨
          ∃ done stem text rest,
            (renderAll config).outcome ledger.collection =
              (.ok (done ++ (stem, text) :: rest), ledger'.collection) ∧
            p = Path.join path (stem ++ "." ++ fileExtension) ∧
            (¬w.Overlooks path → ∃ directory,
              w.files.Output files w.workDirectory path directory done)) ∧
      (w.Overlooks path → path = "" ∨ ".." ∈ Path.names path)) ∧
    ∀ (directories : List String) (input output : String) (ledger ledger' : Ledger) (w w' : World)
      (e : RunError),
      (convert directories input output config).runIn ledger w = (.error e, ledger', w') →
        (∀ cause, e ≠ .write cause) → w'.files = w.files := by
  refine ⟨?written, ?unloaded⟩
  case written =>
    intro path ledger w hw
    obtain ⟨result, ledger', files, hrun, hwrote⟩ := write_ends config path ledger hw
    refine ⟨result, ledger', files, hrun, fun _ hresult => hwrote.refused hresult, ?_, ?_, ?_,
      fun hover => hover.goes_back hw⟩
    · rintro e rfl
      exact hwrote.unrenderable
    · rintro rfl
      exact hwrote.complete
    · rintro p cause rfl
      exact hwrote.incomplete
  case unloaded =>
    intro directories input output ledger ledger' w w' e hrun hbefore
    exact convert_keepsFiles hrun hbefore

/-- Nothing but the root is a world of its own. -/
theorem World.empty_wellFormed : ({} : World).WellFormed where
  rooted := .of_places (by simp)
  here := rfl

/-- A namespace is written to an output directory that has to be made first, and a run without its
input changes nothing. -/
theorem acme_output :
    (∃ ledger' files rendered directory,
      (write {} "out/gen").runIn ⟨⟨[.acme]⟩, []⟩ {} = (.ok (), ledger', { files }) ∧
      (renderAll {}).outcome ⟨[.acme]⟩ = (.ok rendered, ledger'.collection) ∧
      FileSystem.Output {} files [] "out/gen" directory rendered) ∧
    ∃ ledger' w', (convert [] "in.yaml" "out/gen" {}).runIn {} {} =
      (.error (.load (.io "in.yaml" .notFound)), ledger', w') ∧ w'.files = {} := by
  obtain ⟨hwritten, hunloaded⟩ := write_touches_only_output {}
  constructor
  · obtain ⟨result, ledger', files, hrun, -, -, hsuccess, -, hback⟩ :=
      hwritten "out/gen" ⟨⟨[.acme]⟩, []⟩ {} World.empty_wellFormed
    have hok : ((write {} "out/gen").runIn ⟨⟨[.acme]⟩, []⟩ {}).1 = .ok () := by decide +kernel
    rw [hrun] at hok
    dsimp only at hok
    subst hok
    obtain ⟨rendered, hrender, houtput⟩ := hsuccess rfl
    have hplain : ¬("out/gen" = "" ∨ ".." ∈ Path.names "out/gen") := by decide +kernel
    obtain ⟨directory, houtput⟩ := houtput fun hover => hplain (hback hover)
    exact ⟨ledger', files, rendered, directory, hrun, hrender, houtput⟩
  · have herror : ((convert [] "in.yaml" "out/gen" {}).runIn {} {}).1 =
        .error (.load (.io "in.yaml" .notFound)) := by decide +kernel
    rcases hrun : (convert [] "in.yaml" "out/gen" {}).runIn {} {} with ⟨result, ledger', w'⟩
    rw [hrun] at herror
    dsimp only at herror
    subst herror
    exact ⟨ledger', w', rfl, hunloaded [] "in.yaml" "out/gen" {} ledger' {} w' _ hrun (by simp)⟩

/-- A directory in which a file is kept. -/
def World.keeping : World where
  files := ⟨[(["b"], .directory), (["b", "keep.txt"], .file "keep me".toUTF8)]⟩

/-- What is left after a namespace is written there, by way of a missing directory: the path goes
back from that one and on to the directory in which the file is kept. -/
def World.keepingWritten : Except WriteError Unit × FileSystem :=
  let out := (write {} "a/../b").runIn ⟨⟨[.acme]⟩, []⟩ .keeping
  (out.1, out.2.2.files)

/-- The path leads nowhere at first, so the directory is not looked at, and the files are written to
it. -/
theorem keeping_overlooked :
    World.keeping.WellFormed ∧ World.keepingWritten.1 = .ok () ∧
      (World.keepingWritten.2.list [] "b").map (·.map Prod.fst) =
        .ok ["keep.txt", "_main.tf", "_variables.tf", "Namespace_acme_bf2a56b.tf"] ∧
      ∀ directory rendered,
        ¬World.keeping.files.Output World.keepingWritten.2 [] "a/../b" directory rendered := by
  have hrun : World.keepingWritten.1 = .ok () ∧
      (World.keepingWritten.2.list [] "b").map (·.map Prod.fst) =
        .ok ["keep.txt", "_main.tf", "_variables.tf", "Namespace_acme_bf2a56b.tf"] ∧
      World.keepingWritten.2.walk true (FileSystem.startOf [] "a/../b")
        (FileSystem.namesToWalk "a/../b") FileSystem.linkLimit = .ok ["b"] := by
    decide +kernel
  obtain ⟨hok, hlist, hwalked⟩ := hrun
  refine ⟨⟨.of_places ?_, rfl⟩, hok, hlist, ?_⟩
  · simp [World.keeping, FileSystem.get?, Entries.find?]
  · intro directory rendered houtput
    obtain rfl : ["b"] = directory := Except.ok.inj (hwalked.symm.trans houtput.leads.walked)
    cases houtput.fresh ["keep.txt"] (by simp)

end KubeHcl
