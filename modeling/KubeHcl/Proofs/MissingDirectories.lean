import KubeHcl.Proofs.FileWalks
import Mathlib.Data.List.Induction

/-!
# Missing directories

A path that leads nowhere leads to a directory once the directories are made that its parents and
the path itself lead to. Unless it goes back by `..`, that is a place where nothing was before: what
was missing on the way is missing from there on.
-/

namespace KubeHcl

namespace Path

/-- Parts between separators have none. -/
theorem not_mem_of_mem_splitOn {α : Type} [BEq α] [LawfulBEq α] {a : α} {xs part : List α}
    (hpart : part ∈ xs.splitOn a) : a ∉ part := by
  induction xs generalizing part with
  | nil =>
    rw [List.splitOn_nil, List.mem_singleton] at hpart
    simp [hpart]
  | cons x xs ih =>
    rw [List.splitOn_cons_eq_if_modifyHead] at hpart
    split at hpart
    · rcases List.mem_cons.mp hpart with rfl | hpart
      · exact List.not_mem_nil
      · exact ih hpart
    · next hne =>
      obtain ⟨first, rest, hsplit⟩ := List.exists_cons_of_ne_nil (List.splitOn_ne_nil a xs)
      rw [hsplit, List.modifyHead_cons] at hpart
      rcases List.mem_cons.mp hpart with rfl | hpart
      · have hfirst : a ∉ first := ih (hsplit ▸ List.mem_cons_self)
        have hx : a ≠ x := by
          rintro rfl
          exact hne (beq_self_eq_true a)
        exact List.not_mem_cons_of_ne_of_not_mem hx hfirst
      · exact ih (hsplit ▸ List.mem_cons_of_mem first hpart)

/-- The names of a path are not empty and have no slash. -/
theorem of_mem_names {path name : String} (hname : name ∈ names path) :
    name ≠ "" ∧ '/' ∉ name.toList := by
  obtain ⟨part, hpart, rfl⟩ := List.mem_map.mp hname
  obtain ⟨hpart, hne⟩ := List.mem_filter.mp hpart
  refine ⟨?_, ?_⟩
  · intro hempty
    have hnil : part = [] := by simpa using congrArg String.toList hempty
    simp [hnil] at hne
  · rw [String.toList_ofList]
    exact not_mem_of_mem_splitOn hpart

/-- The names of a path are found again when they are put together. -/
theorem names_intercalate {ns : List String} (hns : ∀ n ∈ ns, n ≠ "" ∧ '/' ∉ n.toList) :
    names (String.intercalate "/" ns) = ns := by
  by_cases hnil : ns = []
  · subst hnil
    rfl
  have hslash : ∀ part ∈ ns.map String.toList, '/' ∉ part := by
    intro part hpart
    obtain ⟨n, hn, rfl⟩ := List.mem_map.mp hpart
    exact (hns n hn).2
  have hfull : ∀ part ∈ ns.map String.toList, (!part.isEmpty) = true := by
    intro part hpart
    obtain ⟨n, hn, rfl⟩ := List.mem_map.mp hpart
    simpa using (hns n hn).1
  have htext : (String.intercalate "/" ns).toList = ['/'].intercalate (ns.map String.toList) :=
    String.toList_intercalate
  rw [names, htext, List.splitOn_intercalate '/' hslash (by simpa using hnil),
    List.filter_eq_self.mpr hfull, List.map_map]
  simp

/-- The second list has the names of the first one without some that mean the directory itself. -/
inductive DropsDots : List String → List String → Prop
  | nil : DropsDots [] []
  | keep (name : String) {ns ms : List String} (h : DropsDots ns ms) :
      DropsDots (name :: ns) (name :: ms)
  | drop {ns ms : List String} (h : DropsDots ns ms) : DropsDots ("." :: ns) ms

namespace DropsDots

variable {ns ms : List String}

/-- All of them may be left out. -/
theorem filter (ns : List String) : DropsDots ns (ns.filter (· ≠ ".")) := by
  induction ns with
  | nil => exact .nil
  | cons name ns ih =>
    by_cases hname : name = "."
    · subst hname
      simpa using ih.drop
    · simpa [hname] using ih.keep name

/-- No names come to it. -/
theorem subset (h : DropsDots ns ms) : ms ⊆ ns := by
  induction h with
  | nil => exact List.Subset.refl []
  | keep name _ ih => exact List.cons_subset_cons name ih
  | drop _ ih => exact List.subset_cons_of_subset "." ih

/-- The same names may come first. -/
theorem append_left (before : List String) (h : DropsDots ns ms) :
    DropsDots (before ++ ns) (before ++ ms) := by
  induction before with
  | nil => exact h
  | cons name before ih => exact ih.keep name

/-- What is left of a beginning and of the rest is found apart. -/
theorem exists_append {before after : List String} (h : DropsDots ns (before ++ after)) :
    ∃ before' after', ns = before' ++ after' ∧ DropsDots before' before := by
  generalize hms : before ++ after = ms at h
  induction h generalizing before with
  | nil =>
    obtain ⟨rfl, -⟩ := List.append_eq_nil_iff.mp hms
    exact ⟨[], [], rfl, .nil⟩
  | @keep name ns ms h ih =>
    cases before with
    | nil => exact ⟨[], name :: ns, rfl, .nil⟩
    | cons first before =>
      obtain ⟨rfl, rfl⟩ := List.cons.inj hms
      obtain ⟨before', after', rfl, hbefore⟩ := ih rfl
      exact ⟨first :: before', after', rfl, hbefore.keep first⟩
  | drop h ih =>
    obtain ⟨before', after', rfl, hbefore⟩ := ih hms
    exact ⟨"." :: before', after', rfl, hbefore.drop⟩

end DropsDots

/-- A path without the names that mean the directory itself, other than a first one. -/
theorem dropsDots_plainNames (path : String) : DropsDots (names path) (plainNames path) := by
  unfold plainNames
  cases names path with
  | nil => exact .nil
  | cons name rest =>
    dsimp only
    split
    · exact .filter (name :: rest)
    · exact (DropsDots.filter rest).keep name

/-- A text that does not begin at the root does not because of what is put behind a slash. -/
theorem isAbsolute_intercalate {ns : List String} (hns : ∀ n ∈ ns, n ≠ "" ∧ '/' ∉ n.toList) :
    isAbsolute (String.intercalate "/" ns) = false := by
  rw [isAbsolute, beq_eq_false_iff_ne, String.toList_intercalate]
  cases ns with
  | nil => simp
  | cons n ns =>
    obtain ⟨hne, hslash⟩ := hns n List.mem_cons_self
    obtain ⟨c, cs, hn⟩ := List.exists_cons_of_ne_nil (String.toList_eq_nil_iff.not.mpr hne)
    have hc : c ≠ '/' := by
      rintro rfl
      exact hslash (hn ▸ List.mem_cons_self)
    cases ns <;> simp [hn, hc, List.intercalate]

/-- A parent of a path begins where the path does, and goes through names at its beginning. -/
theorem of_mem_parents {path parent : String} (hparent : parent ∈ parents path) :
    isAbsolute parent = isAbsolute path ∧
      ∃ before after, names path = before ++ after ∧ DropsDots before (names parent) := by
  obtain ⟨n, -, rfl⟩ := List.mem_map.mp hparent
  generalize hns : (plainNames path).dropLast.take ((plainNames path).dropLast.length - n) = ns
  have hbegins : ns <+: plainNames path :=
    hns ▸ (List.take_prefix _ _).trans (List.dropLast_prefix _)
  have hplain := dropsDots_plainNames path
  have hparts : ∀ n ∈ ns, n ≠ "" ∧ '/' ∉ n.toList :=
    fun n hn => of_mem_names (hplain.subset (hbegins.subset hn))
  obtain ⟨later, hlater⟩ := hbegins
  obtain ⟨before, after, hsplit, hbefore⟩ := (hlater ▸ hplain).exists_append
  split
  · next habsolute =>
    have htext : ("/" ++ String.intercalate "/" ns).toList =
        [] ++ '/' :: (String.intercalate "/" ns).toList := by
      simp
    have hnames : names ("/" ++ String.intercalate "/" ns) = ns := by
      rw [names_of_slash htext, String.ofList_toList, names_intercalate hparts]
      rfl
    refine ⟨?_, before, after, hsplit, hnames.symm ▸ hbefore⟩
    rw [habsolute, isAbsolute, htext]
    rfl
  · next hrelative =>
    rw [String.empty_append, names_intercalate hparts, isAbsolute_intercalate hparts]
    exact ⟨(Bool.eq_false_iff.mpr hrelative).symm, before, after, hsplit, hbefore⟩

end Path

namespace FileSystem

variable {fs fs₁ fs' : FileSystem} {workDirectory here place : Names} {paths paths' : List String}

/-! ## Names that mean the directory itself -/

/-- Names that mean the directory itself may be left out on a way without links. -/
theorem descend_dropsDots {ns ms : List String} {progress : Progress} (h : Path.DropsDots ns ms)
    (hdescend : fs.descend true here ns = .ok progress) :
    ∃ progress', fs.descend true here ms = .ok progress' ∧
      progress.Replaces Path.DropsDots progress' := by
  induction h generalizing here with
  | nil =>
    cases hdescend
    exact ⟨.arrived here, rfl, .arrived here⟩
  | @keep name ns ms h ih =>
    obtain ⟨hhere, ⟨next, henters⟩ | ⟨target, hmeets⟩⟩ := descend_cons_ok hdescend
    · rw [henters.descend_eq hhere] at hdescend ⊢
      exact ih hdescend
    · rw [hmeets.descend_eq hhere] at hdescend ⊢
      simp only [Bool.not_true, Bool.and_false, Bool.false_eq_true, if_false] at hdescend ⊢
      cases hdescend
      exact ⟨.atLink here target ms, rfl, .atLink here target h⟩
  | drop h ih =>
    obtain ⟨hhere, -⟩ := descend_cons_ok hdescend
    rw [Enters.same.descend_eq hhere] at hdescend
    exact ih hdescend

/-- They may be left out on a walk. -/
theorem walk_dropsDots {ns ms : List String} {links : Nat} (h : Path.DropsDots ns ms)
    (hwalk : fs.walk true here ns links = .ok place) : fs.walk true here ms links = .ok place :=
  walk_replaced (fun before _ _ hrest => hrest.append_left before)
    (fun hrest hdescend _ => descend_dropsDots hrest hdescend) h hwalk

/-! ## Directories that were made -/

/-- Everything lies in a directory. -/
def Rooted (fs : FileSystem) : Prop :=
  ∀ place name, fs.get? (place ++ [name]) ≠ none → fs.get? place = some .directory

/-- It is enough to look at the places that are listed. -/
theorem Rooted.of_places (h : ∀ entry ∈ fs.places, fs.get? entry.1.dropLast = some .directory) :
    fs.Rooted := by
  intro place name hpresent
  have hne : (place ++ [name]).isEmpty = false := by simp
  obtain ⟨n, hn⟩ := Option.ne_none_iff_exists'.mp hpresent
  rw [get?, hne] at hn
  have hparent := h _ (Entries.mem_of_find? hn)
  rwa [List.dropLast_concat] at hparent

/-- Nothing lies below a place that is vacant. -/
theorem Rooted.below_vacant (h : fs.Rooted) (hvacant : fs.get? place = none) (rest : Names) :
    fs.get? (place ++ rest) = none := by
  induction rest using List.reverseRecOn with
  | nil => rwa [List.append_nil]
  | append_singleton rest name ih =>
    cases hget : fs.get? (place ++ (rest ++ [name])) with
    | none => rfl
    | some n =>
      have hdirectory := h (place ++ rest) name (by simp [List.append_assoc, hget])
      cases ih.symm.trans hdirectory

/-- Nothing lies below a place where no name leads to anything. -/
theorem Rooted.below_empty (h : fs.Rooted) (hempty : ∀ name, fs.get? (place ++ [name]) = none)
    {rest : Names} (hrest : rest ≠ []) : fs.get? (place ++ rest) = none := by
  obtain ⟨name, rest, rfl⟩ := List.exists_cons_of_ne_nil hrest
  have hbelow := h.below_vacant (hempty name) rest
  rwa [List.append_assoc, List.singleton_append] at hbelow

/-- The place was vacant and became a directory that one of the paths leads to. -/
def MadeAt (fs fs' : FileSystem) (workDirectory : Names) (paths : List String) (place : Names) :
    Prop :=
  fs.get? place = none ∧ fs'.get? place = some .directory ∧
    ∃ path ∈ paths, fs'.Leads workDirectory path place

/-- Directories that paths lead to were made, and everything else stayed. -/
def Made (fs fs' : FileSystem) (workDirectory : Names) (paths : List String) : Prop :=
  ∀ place, fs'.get? place = fs.get? place ∨ fs.MadeAt fs' workDirectory paths place

/-- Nothing has to be made. -/
theorem Made.refl (fs : FileSystem) (workDirectory : Names) (paths : List String) :
    fs.Made fs workDirectory paths := fun _ => .inl rfl

/-- Making directories keeps directories and links. -/
theorem Made.grows (h : fs.Made fs' workDirectory paths) : fs.Grows fs' := by
  constructor
  · intro place hplace
    rcases h place with hkept | ⟨hvacant, -⟩
    · rw [hkept, hplace]
    · cases hvacant.symm.trans hplace
  · intro place target
    rcases h place with hkept | ⟨hvacant, hmade, -⟩
    · rw [hkept]
    · simp [hvacant, hmade]

/-- A place that became a directory is one as long as directories and links are kept. -/
theorem MadeAt.grows (h : fs.MadeAt fs₁ workDirectory paths place) (hgrows : fs₁.Grows fs')
    (hpaths : paths ⊆ paths') : fs.MadeAt fs' workDirectory paths' place := by
  obtain ⟨hvacant, hmade, path, hpath, hleads⟩ := h
  exact ⟨hvacant, hgrows.directory place hmade, path, hpaths hpath, hgrows.leads hleads⟩

/-- Directories may be made in two turns. -/
theorem Made.trans {paths₁ paths₂ : List String} (h₁ : fs.Made fs₁ workDirectory paths₁)
    (h₂ : fs₁.Made fs' workDirectory paths₂) (hpaths₁ : paths₁ ⊆ paths) (hpaths₂ : paths₂ ⊆ paths) :
    fs.Made fs' workDirectory paths := by
  intro place
  rcases h₂ place with hkept | hmade
  · rcases h₁ place with hkept₁ | hmade₁
    · exact .inl (hkept.trans hkept₁)
    · exact .inr (hmade₁.grows h₂.grows hpaths₁)
  · rcases h₁ place with hkept₁ | ⟨-, hdirectory, -⟩
    · obtain ⟨hvacant, hmade⟩ := hmade.grows (.refl fs') hpaths₂
      exact .inr ⟨hkept₁ ▸ hvacant, hmade⟩
    · cases hmade.1.symm.trans hdirectory

/-- A directory that was made. -/
theorem Made.of_makeDirectory {path : String}
    (hmade : fs.makeDirectory workDirectory path = .ok fs') :
    fs.Made fs' workDirectory [path] ∧ ∃ place, fs'.Leads workDirectory path place := by
  obtain ⟨place, hvacant, rfl, hleads⟩ := makeDirectory_ok hmade
  have hne : place ≠ [] := by
    rintro rfl
    cases hvacant
  refine ⟨fun other => ?_, place, hleads⟩
  by_cases hother : other = place
  · subst hother
    exact .inr ⟨hvacant, hleads.directory, path, List.mem_singleton_self path, hleads⟩
  · exact .inl (by rw [get?_put hne, if_neg hother])

/-! ## Where a path leads that led nowhere -/

/-- Below a vacant place there are at most directories that were made, so a way from there stays
below it unless it goes back. -/
theorem Made.descend_vacant (h : fs.Made fs' workDirectory paths) (hrooted : fs.Rooted)
    {names : List String} {progress : Progress} (habove : ".." ∉ names)
    (hvacant : fs.get? here = none) (hdescend : fs'.descend true here names = .ok progress) :
    ∃ more, progress = .arrived (here ++ more) := by
  induction names generalizing here with
  | nil =>
    cases hdescend
    exact ⟨[], by rw [List.append_nil]⟩
  | cons name rest ih =>
    obtain ⟨hname, hrest⟩ := List.ne_and_not_mem_of_not_mem_cons habove
    have hbelow := hrooted.below_vacant hvacant [name]
    obtain ⟨hhere, ⟨next, henters⟩ | ⟨target, hmeets⟩⟩ := descend_cons_ok hdescend
    · rw [henters.descend_eq hhere] at hdescend
      cases henters with
      | same => exact ih hrest hvacant hdescend
      | above => exact absurd rfl hname
      | below =>
        obtain ⟨more, hmore⟩ := ih hrest hbelow hdescend
        exact ⟨name :: more, by rw [hmore, List.append_assoc, List.singleton_append]⟩
    · cases hbelow.symm.trans ((h.grows.link_iff _ _).mp hmeets.link)

variable {path : String}

/-- A path that does not go back leads on below every directory that was made for it. -/
theorem Made.leads_below (h : fs.Made fs' workDirectory (path :: Path.parents path))
    (hrooted : fs.Rooted) (habove : ".." ∉ Path.names path)
    (hleads : fs'.Leads workDirectory path place) {made : Names}
    (hmade : fs.MadeAt fs' workDirectory (path :: Path.parents path) made) :
    ∃ more, place = made ++ more := by
  obtain ⟨hvacant, -, path', hpath', hleads'⟩ := hmade
  rcases List.mem_cons.mp hpath' with rfl | hparent
  · exact ⟨[], by rw [List.append_nil, hleads.unique hleads']⟩
  · -- The path goes on from where its parent leads.
    obtain ⟨habsolute, before, after, hnames, hdots⟩ := Path.of_mem_parents hparent
    have hstart : startOf workDirectory path' = startOf workDirectory path := by
      rw [startOf, startOf, habsolute]
    obtain ⟨hparent', -⟩ := leads_iff.mp hleads'
    obtain ⟨hwalk, -⟩ := leads_iff.mp hleads
    rw [hstart] at hparent'
    rw [hnames] at hwalk
    rcases fs'.walk_append (startOf workDirectory path) before linkLimit with
      ⟨e, -, herror⟩ | ⟨reached, left, hreached, hall⟩
    · cases (herror after).symm.trans hwalk
    · obtain rfl : reached = made :=
        Except.ok.inj ((walk_dropsDots hdots hreached).symm.trans hparent')
      have hafter : ".." ∉ after := fun hmem => habove (hnames ▸ List.mem_append_right _ hmem)
      rw [hall] at hwalk
      obtain ⟨progress, hdescend, hend⟩ := descend_of_walk hwalk
      obtain ⟨more, hprogress⟩ := h.descend_vacant hrooted hafter hvacant hdescend
      exact ⟨more, (hend _ hprogress).symm⟩

/-- So none of these directories lies below where the path leads. -/
theorem Made.not_madeAt_below (h : fs.Made fs' workDirectory (path :: Path.parents path))
    (hrooted : fs.Rooted) (habove : ".." ∉ Path.names path)
    (hleads : fs'.Leads workDirectory path place) {rest : Names} (hrest : rest ≠ []) :
    ¬fs.MadeAt fs' workDirectory (path :: Path.parents path) (place ++ rest) := by
  intro hmade
  obtain ⟨more, hmore⟩ := h.leads_below hrooted habove hleads hmade
  rw [List.append_assoc, List.self_eq_append_right] at hmore
  exact hrest (List.append_eq_nil_iff.mp hmore).1

/-- Nothing is different when nothing was made. -/
theorem Made.grows_back (h : fs.Made fs' workDirectory paths)
    (hnone : ∀ place, ¬fs.MadeAt fs' workDirectory paths place) : fs'.Grows fs := by
  have hsame : ∀ place, fs'.get? place = fs.get? place := fun place =>
    (h place).resolve_right (hnone place)
  exact ⟨fun place hplace => hsame place ▸ hplace, fun place target => by rw [hsame place]⟩

/-- A path that leads nowhere and does not go back leads to a place where nothing was, once its
missing directories are made. -/
theorem Made.leads_vacant (h : fs.Made fs' workDirectory (path :: Path.parents path))
    (hrooted : fs.Rooted) (hmissing : ∀ place, ¬fs.Leads workDirectory path place)
    (habove : ".." ∉ Path.names path) (hleads : fs'.Leads workDirectory path place) :
    fs.get? place = none := by
  by_contra hpresent
  refine hmissing place ((h.grows_back fun made hmade => hpresent ?_).leads hleads)
  obtain ⟨more, rfl⟩ := h.leads_below hrooted habove hleads hmade
  exact hrooted.below_vacant hmade.1 more

/-- A path that is not empty leads nowhere if nothing is found there. -/
theorem not_leads_of_find (hfind : fs.find workDirectory path = .error .notFound)
    (hpath : path ≠ "") : ¬fs.Leads workDirectory path place := by
  intro hleads
  rcases bind_eq_error hfind with hlocate | ⟨place', hlocate, hpresent⟩
  · rcases bind_eq_error hlocate with hcheck | ⟨-, -, hwalk⟩
    · rw [checkPath, if_neg (by simpa using hpath)] at hcheck
      split at hcheck <;> cases hcheck
    · dsimp only at hwalk
      split at hwalk
      · cases hwalk
      · cases hwalk.symm.trans hleads.walked
  · obtain rfl : place' = place := Except.ok.inj ((locate_ok hlocate).symm.trans hleads.walked)
    simp [present, hleads.directory] at hpresent

end FileSystem

end KubeHcl
