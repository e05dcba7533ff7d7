import KubeHcl.Identity
import KubeHcl.Path
import Mathlib.Data.List.TakeWhile

/-!
# Texts that are taken apart at their last separator

An API version is taken apart at its last slash, and a name of a file at its last dot. Both look for
the separator from behind, and what they find is described by what stands before and behind it.
-/

namespace KubeHcl

section Separator

variable {separator : Char} {behind : List Char}

/-- Nothing is passed over but what stands behind the last separator. -/
theorem forall_mem_reverse_ne (hbehind : separator ∉ behind) :
    ∀ c ∈ behind.reverse, decide (c ≠ separator) = true := by
  intro c hc
  have hne : c ≠ separator := by
    rintro rfl
    exact hbehind (List.mem_reverse.mp hc)
  exact decide_eq_true hne

/-- What stands behind the last separator is what is found first from behind. -/
theorem takeWhile_reverse_append (before : List Char) (hbehind : separator ∉ behind) :
    (before ++ separator :: behind).reverse.takeWhile (· ≠ separator) = behind.reverse := by
  have hreverse : (before ++ separator :: behind).reverse =
      behind.reverse ++ separator :: before.reverse := by simp
  rw [hreverse, List.takeWhile_append_of_pos (forall_mem_reverse_ne hbehind)]
  simp

/-- The rest is the separator and what stands before it. -/
theorem dropWhile_reverse_append (before : List Char) (hbehind : separator ∉ behind) :
    (before ++ separator :: behind).reverse.dropWhile (· ≠ separator) =
      separator :: before.reverse := by
  have hreverse : (before ++ separator :: behind).reverse =
      behind.reverse ++ separator :: before.reverse := by simp
  rw [hreverse, List.dropWhile_append_of_pos (forall_mem_reverse_ne hbehind)]
  simp

/-- Without a separator there is no rest. -/
theorem dropWhile_reverse_of_notMem {cs : List Char} (hcs : separator ∉ cs) :
    cs.reverse.dropWhile (· ≠ separator) = [] :=
  List.dropWhile_eq_nil_iff.mpr (forall_mem_reverse_ne hcs)

/-- A text with a separator has a last one. -/
theorem exists_last_of_mem {cs : List Char} (hcs : separator ∈ cs) :
    ∃ before behind, cs = before ++ separator :: behind ∧ separator ∉ behind := by
  obtain ⟨behind, before, hreverse, hbehind⟩ :=
    List.eq_append_cons_of_mem (List.mem_reverse.mpr hcs)
  refine ⟨before.reverse, behind.reverse, ?_, by rwa [List.mem_reverse]⟩
  rw [← List.reverse_reverse cs, hreverse]
  simp

end Separator

namespace Identity

/-- A text without a slash is all version. -/
theorem splitApiVersion_of_notMem {cs : List Char} (hcs : '/' ∉ cs) :
    splitApiVersion cs = ([], cs) := by
  rw [splitApiVersion, dropWhile_reverse_of_notMem hcs]

/-- A text is split at its last slash. -/
theorem splitApiVersion_append (group : List Char) {version : List Char}
    (hversion : '/' ∉ version) : splitApiVersion (group ++ '/' :: version) = (group, version) := by
  rw [splitApiVersion, takeWhile_reverse_append group hversion,
    dropWhile_reverse_append group hversion, List.reverse_reverse]
  exact congrArg (·, version) (List.reverse_reverse group)

end Identity

namespace Path

variable {name extension : String}

/-- A name without a dot has no extension. -/
theorem extension?_of_notMem (hdot : '.' ∉ name.toList) : extension? name = none := by
  simp only [extension?, dropWhile_reverse_of_notMem hdot]

/-- A name that is taken apart at its last dot has the rest as its extension, unless nothing stands
before the dot. -/
theorem extension?_of_toList {before behind : List Char} (hbehind : '.' ∉ behind)
    (hname : name.toList = before ++ '.' :: behind) :
    extension? name = if before = [] then none else some (String.ofList behind) := by
  simp only [extension?, hname, dropWhile_reverse_append before hbehind,
    takeWhile_reverse_append before hbehind, List.reverse_reverse]
  cases hreverse : before.reverse with
  | nil => simp [List.reverse_eq_nil_iff.mp hreverse]
  | cons c cs =>
    have hne : before ≠ [] := by
      rintro rfl
      cases hreverse
    rw [if_neg hne]

/-- An extension is what stands behind the last dot, if something stands before it. -/
theorem extension?_eq_some_iff : extension? name = some extension ↔
    '.' ∉ extension.toList ∧ ∃ stem, stem ≠ "" ∧ name = stem ++ "." ++ extension := by
  constructor
  · intro hsome
    by_cases hdot : '.' ∈ name.toList
    · obtain ⟨before, behind, hname, hbehind⟩ := exists_last_of_mem hdot
      rw [extension?_of_toList hbehind hname] at hsome
      split at hsome
      · cases hsome
      · next hne =>
        obtain rfl := Option.some.inj hsome
        refine ⟨by rwa [String.toList_ofList], String.ofList before, by simpa using hne, ?_⟩
        refine String.toList_inj.mp ?_
        simp [hname]
    · rw [extension?_of_notMem hdot] at hsome
      cases hsome
  · rintro ⟨hextension, stem, hstem, rfl⟩
    have htext : (stem ++ "." ++ extension).toList = stem.toList ++ '.' :: extension.toList := by
      simp
    rw [extension?_of_toList hextension htext, if_neg (by simpa using hstem), String.ofList_toList]

end Path

end KubeHcl
