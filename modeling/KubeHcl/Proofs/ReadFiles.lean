import KubeHcl.Proofs.ResolvedPaths

/-!
# Files by way of a directory and by their places

A file is found by way of the directory that it is in, and its place is a path to it as well: from
the root through directories only. These hold of file systems in which every name can be one and
everything lies in a directory.
-/

namespace KubeHcl

namespace Path

/-- A path through names ends with the last of them. -/
theorem ofNames_concat {place : Names} {name : String} (hplace : ∀ n ∈ place, IsName n)
    (hname : IsName name) : ofNames (place ++ [name]) = join (ofNames place) name := by
  induction place using List.reverseRecOn generalizing name with
  | nil =>
    have hroot : ofNames [] = "/" := rfl
    have hslash : (("/" : String).isEmpty || endsWithSlash "/") = true := by decide
    rw [hroot, join, if_pos hslash, List.nil_append, ofNames, String.intercalate_singleton]
  | append_singleton place last ih =>
    obtain ⟨hplace, hlast⟩ := List.forall_mem_append.mp hplace
    have hlast := hlast last (List.mem_singleton_self last)
    have hends : endsWithSlash (ofNames (place ++ [last])) = false := by
      rw [ih hplace hlast]
      exact endsWithSlash_join _ hlast
    have hempty : (ofNames (place ++ [last])).isEmpty = false := by simp [ofNames]
    rw [join, hempty, hends, ofNames,
      String.intercalate_append_of_ne_nil (by simp) (List.cons_ne_nil name []),
      String.intercalate_singleton, ofNames]
    simp [String.append_assoc]

/-- A path from the root goes through its names. -/
theorem names_ofNames {place : Names} (hplace : ∀ n ∈ place, IsName n) :
    names (ofNames place) = place := by
  induction place using List.reverseRecOn with
  | nil => rfl
  | append_singleton place name ih =>
    obtain ⟨hplace, hname⟩ := List.forall_mem_append.mp hplace
    have hname := hname name (List.mem_singleton_self name)
    rw [ofNames_concat hplace hname, names_join _ hname, ih hplace]

end Path

namespace FileSystem

/-- A name of something in a file system. -/
structure IsNodeName (name : String) : Prop extends Path.IsName name where
  noNul : '\x00' ∉ name.toList
  short : ¬nameLimit < name.utf8ByteSize

instance (name : String) : Decidable (IsNodeName name) :=
  decidable_of_iff ((name ≠ "" ∧ '/' ∉ name.toList ∧ name ≠ "." ∧ name ≠ "..") ∧
      '\x00' ∉ name.toList ∧ ¬nameLimit < name.utf8ByteSize)
    ⟨fun ⟨⟨hne, hslash, hhere, habove⟩, hnul, hshort⟩ =>
        ⟨⟨hne, hslash, hhere, habove⟩, hnul, hshort⟩,
      fun h => ⟨⟨h.nonempty, h.noSlash, h.notHere, h.notAbove⟩, h.noNul, h.short⟩⟩

/-- Everything lies in a directory and has a name that is one, and no place is listed twice. -/
structure Proper (fs : FileSystem) : Prop where
  rooted : fs.Rooted
  distinct : (fs.places.map Prod.fst).Nodup
  named : ∀ place, fs.get? place ≠ none → ∀ name ∈ place, IsNodeName name

variable {fs : FileSystem} {workDirectory directory place : Names} {path name : String}
  {contents : ByteArray}

/-- It is enough to look at the places that are listed. -/
theorem Proper.of_places
    (hdirectories : ∀ entry ∈ fs.places, fs.get? entry.1.dropLast = some .directory)
    (hdistinct : (fs.places.map Prod.fst).Nodup)
    (hnames : ∀ entry ∈ fs.places, ∀ name ∈ entry.1, IsNodeName name) : fs.Proper where
  rooted := .of_places hdirectories
  distinct := hdistinct
  named place hpresent name hname := by
    have hne : place.isEmpty = false := by simpa using List.ne_nil_of_mem hname
    obtain ⟨n, hn⟩ := Option.ne_none_iff_exists'.mp hpresent
    rw [get?, hne] at hn
    exact hnames _ (Entries.mem_of_find? hn) name hname

/-- Everything that something lies below is a directory. -/
theorem Rooted.directory_of_append (h : fs.Rooted) {rest : Names} (hrest : rest ≠ [])
    (hpresent : fs.get? (place ++ rest) ≠ none) : fs.get? place = some .directory := by
  obtain ⟨name, rest, rfl⟩ := List.exists_cons_of_ne_nil hrest
  refine h place name fun hvacant => hpresent ?_
  have hbelow := h.below_vacant hvacant rest
  rwa [List.append_assoc, List.singleton_append] at hbelow

/-- From the root a place is reached without a link on the way. -/
theorem Proper.descend_place (h : fs.Proper) {n : Node} (hnode : fs.get? place = some n)
    (hlink : ∀ target, n ≠ .link target) {here rest : Names} (hplace : here ++ rest = place) :
    fs.descend true here rest = .ok (.arrived place) := by
  induction rest generalizing here with
  | nil =>
    rw [List.append_nil] at hplace
    rw [descend, hplace]
  | cons name rest ih =>
    subst hplace
    have hpresent : fs.get? (here ++ name :: rest) ≠ none := by simp [hnode]
    have hname := h.named _ hpresent name (by simp)
    have hhere := h.rooted.directory_of_append (List.cons_ne_nil name rest) hpresent
    have hnext : here ++ [name] ++ rest = here ++ name :: rest := by simp
    have henters : fs.Enters here name (here ++ [name]) := by
      refine .below hname.notHere hname.notAbove hname.short fun target htarget => ?_
      by_cases hrest : rest = []
      · subst hrest
        exact hlink target (Option.some.inj (hnode.symm.trans htarget))
      · have hdirectory := h.rooted.directory_of_append hrest (hnext ▸ hpresent)
        cases htarget.symm.trans hdirectory
    rw [henters.descend_eq hhere]
    exact ih hnext

/-- In a directory that a path leads to, the path with the name of something that is no link leads
to it. -/
theorem Leads.walk_join_node (h : fs.Leads workDirectory path directory) (hname : IsNodeName name)
    (hlink : ∀ target, fs.get? (directory ++ [name]) ≠ some (.link target)) :
    fs.walk true (startOf workDirectory (Path.join path name)) (namesToWalk (Path.join path name))
      linkLimit = .ok (directory ++ [name]) := by
  have henters : fs.Enters directory name (directory ++ [name]) :=
    .below hname.notHere hname.notAbove hname.short hlink
  obtain ⟨left, hjoined⟩ := h.walk_join_eq hname.toIsName
  rw [hjoined, walk_eq, henters.descend_eq h.directory]
  rfl

/-- A text can be a path if there is something in it but no NUL. -/
theorem checkPath_eq_ok_iff : checkPath path = .ok () ↔ path ≠ "" ∧ '\x00' ∉ path.toList := by
  unfold checkPath
  split
  · next hempty => simp [String.isEmpty_iff.mp hempty]
  · next hempty =>
    have hne : path ≠ "" := fun heq => hempty (String.isEmpty_iff.mpr heq)
    split <;> simp_all

/-- A path that something was found by can be one. -/
theorem checkPath_of_find {found : Names × Node} (hfind : fs.find workDirectory path = .ok found) :
    checkPath path = .ok () := by
  obtain ⟨_, hlocate, -⟩ := bind_eq_ok hfind
  obtain ⟨⟨⟩, hcheck, -⟩ := bind_eq_ok hlocate
  exact hcheck

/-- It can still be one with a name joined to it. -/
theorem checkPath_join (hpath : checkPath path = .ok ()) (hname : IsNodeName name) :
    checkPath (Path.join path name) = .ok () := by
  obtain ⟨hne, hnul⟩ := checkPath_eq_ok_iff.mp hpath
  have hname := hname.noNul
  rw [checkPath_eq_ok_iff, Path.join]
  split <;> simp [hne, hnul, hname]

/-- A path through names can be one. -/
theorem checkPath_ofNames (hplace : ∀ n ∈ place, IsNodeName n) :
    checkPath (Path.ofNames place) = .ok () := by
  induction place using List.reverseRecOn with
  | nil => rfl
  | append_singleton place name ih =>
    obtain ⟨hplace, hname⟩ := List.forall_mem_append.mp hplace
    have hname := hname name (List.mem_singleton_self name)
    rw [Path.ofNames_concat (fun n hn => (hplace n hn).toIsName) hname.toIsName]
    exact checkPath_join (ih hplace) hname

/-- A file in a directory is found by the path of the directory and its name, unless something on
the way is out of reach. -/
theorem Proper.resolve_join (h : fs.Proper)
    (hfind : fs.find workDirectory path = .ok (directory, .directory))
    (hfile : fs.get? (directory ++ [name]) = some (.file contents)) :
    fs.resolve workDirectory (Path.join path name) = .error .nameTooLong ∨
      fs.resolve workDirectory (Path.join path name) =
        .ok (directory ++ [name], .file contents) := by
  have hname := h.named (directory ++ [name]) (by simp [hfile]) name (by simp)
  have hcheck := checkPath_join (checkPath_of_find hfind) hname
  have hwalk := (leads_of_find hfind).walk_join_node hname (by simp [hfile])
  refine (fs.resolve_eq workDirectory (Path.join path name)).imp_right fun hresolve => ?_
  rw [hresolve, hcheck, hwalk]
  simp only [Bind.bind, Except.bind, present, hfile]

/-- Then the path to its place is not too long. -/
theorem Proper.short_of_resolve_join (h : fs.Proper)
    (hfind : fs.find workDirectory path = .ok (directory, .directory)) (hname : Path.IsName name)
    (hresolve : fs.resolve workDirectory (Path.join path name) = .ok (place, .file contents)) :
    (Path.ofNames place).utf8ByteSize < pathLimit := by
  have hstart := (leads_of_find hfind).start
  rw [← startOf_join workDirectory path hname] at hstart
  exact h.rooted.short_of_resolve hstart hresolve (by simp)

/-- The text of a file is read by the path of its place from the root, if that is not too long. -/
theorem Proper.readText_ofNames (h : fs.Proper)
    (hfile : fs.get? (directory ++ [name]) = some (.file contents))
    (hshort : (Path.ofNames (directory ++ [name])).utf8ByteSize < pathLimit)
    (workDirectory : Names) :
    fs.readText workDirectory (Path.ofNames (directory ++ [name])) = textOf contents := by
  have hnames := h.named (directory ++ [name]) (by simp [hfile])
  obtain ⟨hdirectory, hname⟩ := List.forall_mem_append.mp hnames
  have hname := hname name (List.mem_singleton_self name)
  have hcheck := checkPath_ofNames hnames
  have hwalk : fs.walk true (startOf workDirectory (Path.ofNames (directory ++ [name])))
      (namesToWalk (Path.ofNames (directory ++ [name]))) linkLimit = .ok (directory ++ [name]) := by
    have hstart : startOf workDirectory (Path.ofNames (directory ++ [name])) = [] := by
      simp [startOf, Path.isAbsolute, Path.ofNames]
    have hwalked : namesToWalk (Path.ofNames (directory ++ [name])) = directory ++ [name] := by
      rw [namesToWalk, Path.names_ofNames fun n hn => (hnames n hn).toIsName,
        Path.ofNames_concat (fun n hn => (hdirectory n hn).toIsName) hname.toIsName,
        Path.endsWithSlash_join _ hname.toIsName]
      simp
    rw [hstart, hwalked, walk_eq, h.descend_place hfile (by simp) (List.nil_append _)]
  rw [readText, find, locate, hcheck, hwalk]
  simp only [Bind.bind, Except.bind, if_neg (Nat.not_le_of_lt hshort), present, hfile]

end FileSystem

end KubeHcl
