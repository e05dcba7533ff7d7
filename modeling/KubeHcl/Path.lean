/-!
# Paths

A path is a text in which slashes separate the names of directories. It begins at the root if it
begins with a slash, and at the work directory otherwise.
-/

namespace KubeHcl.Path

/-- The names that a path goes through. -/
def names (path : String) : List String :=
  ((path.toList.splitOn '/').filter (!·.isEmpty)).map String.ofList

/-- Whether a path begins at the root. -/
def isAbsolute (path : String) : Bool := path.toList.head? == some '/'

/-- Whether a path ends with a slash, so that it has to lead to a directory. -/
def endsWithSlash (path : String) : Bool := path.toList.getLast? == some '/'

/-- The path of a name in a directory. -/
def join (directory name : String) : String :=
  if directory.isEmpty || endsWithSlash directory then directory ++ name
  else directory ++ "/" ++ name

/-- The path from the root through names. -/
def ofNames (names : List String) : String := "/" ++ String.intercalate "/" names

/-- The names of a path without those that mean the directory itself, other than a first one. -/
def plainNames (path : String) : List String :=
  match names path with
  | [] => []
  | name :: rest =>
    if isAbsolute path then (name :: rest).filter (· ≠ ".") else name :: rest.filter (· ≠ ".")

/-- Whether a path is a single dash, which stands for the standard input. -/
def isDash (path : String) : Bool := !isAbsolute path && plainNames path == ["-"]

/-- The paths to the directories that a path goes through, the innermost first. -/
def parents (path : String) : List String :=
  let start := if isAbsolute path then "/" else ""
  let names := (plainNames path).dropLast
  (List.range names.length).map fun n =>
    start ++ String.intercalate "/" (names.take (names.length - n))

/-- The part of a name after its last dot, unless nothing is before that dot. -/
def extension? (name : String) : Option String :=
  let cs := name.toList.reverse
  match cs.dropWhile (· ≠ '.') with
  | _ :: _ :: _ => some (String.ofList (cs.takeWhile (· ≠ '.')).reverse)
  | _ => none

end KubeHcl.Path
