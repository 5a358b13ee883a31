/-!
# Path texts

Paths as a file system reads them: a text of parts separated by `/`. Empty parts (from a
repeated or trailing `/`) and `.` parts name nothing, except that a relative path may start
with `.`. A path starting with `/` is absolute.

The parent of a path drops its last part, and a path's extension is what follows the last dot
of its last part, unless that dot starts the name.
-/

namespace AdvisoryTrace.Disk.Path

/-- Whether a path text starts at the root. -/
def isAbsolute (s : String) : Bool := s.startsWith "/"

/-- The parts of a path text that name something, in order. A leading `.` of a relative path
is kept, as the part that the working directory is. -/
def parts (s : String) : List String :=
  match s.splitOn "/" with
  | "." :: rest => "." :: rest.filter fun p => p != "" && p != "."
  | all => all.filter fun p => p != "" && p != "."

/-- The parts of a path that lead somewhere below the directory it starts from: `.` names
that directory itself. -/
def steps (s : String) : List String :=
  ((s.toList.splitOn '/').map String.ofList).filter fun p => p != "" && p != "."

/-- The text of a path made of the given parts. -/
def ofParts (absolute : Bool) (ps : List String) : String :=
  (if absolute then "/" else "") ++ "/".intercalate ps

/-- The parent of a path: all but its last part. A path with no part (`""`, `/`) has none;
the parent of a single relative part is the empty path. -/
def parent? (s : String) : Option String :=
  match parts s with
  | [] => none
  | ps => some (ofParts (isAbsolute s) ps.dropLast)

/-- A path extended by another: an absolute one replaces it, and a `/` is put between them
unless the first is empty or already ends with one. -/
def join (base rel : String) : String :=
  if isAbsolute rel then rel
  else if base.isEmpty || base.endsWith "/" then base ++ rel
  else base ++ "/" ++ rel

/-- The extension of a file name: the text after its last dot, if that dot has something
before it (a name such as `.profile` has none). -/
def extension? (name : String) : Option String :=
  match (name.splitOn ".").reverse with
  | ext :: before :: more =>
    if name == ".." || (more.isEmpty && before.isEmpty) then none else some ext
  | _ => none

end AdvisoryTrace.Disk.Path
