import AdvisoryTrace.Failure
import AdvisoryTrace.Text.Blank
import AdvisoryTrace.Text.Quoted

/-!
# Cache directory names

Each repository gets one directory in the cache, named `owner__repo` after the last two
segments of its URL's path (one segment alone is the name). The scheme (`https://`), the host
of an scp-like address (`git@host:`), a trailing `.git`, and slashes at the end are dropped;
every character other than an ASCII letter or digit, `.`, `_` and `-` becomes `_`. An empty
name, `.` and `..` are refused.
-/

namespace AdvisoryTrace.Repository

/-- The text after the first occurrence of `sep`, if it occurs. -/
def afterFirst (s sep : String) : Option String :=
  (Text.splitAtFirst sep.toList s.toList).map fun (_, after) => String.ofList after

/-- The text after the last occurrence of a character, if it occurs. -/
def afterLast (s : String) (c : Char) : Option String :=
  match s.toList.splitOn c with
  | parts@(_ :: _ :: _) => parts.getLast?.map String.ofList
  | _ => none

/-- Whether a character may stand in a directory name as it is. -/
def isSafeNameChar (c : Char) : Bool :=
  (c.toNat < 128 && c.isAlphanum) || c == '.' || c == '_' || c == '-'

/-- A directory name with every other character made `_`. -/
def sanitize (s : String) : String :=
  String.ofList (s.toList.map fun c => if isSafeNameChar c then c else '_')

/-- The cache directory name of a repository URL. -/
def cacheDirName (url : String) : Except Failure String :=
  let trimmed := Text.trimEndMatches (Text.trim url) "/"
  let path := (afterFirst trimmed "://").getD trimmed
  let path := (afterLast path ':').getD path
  let segments := ((path.toList.splitOn '/').map String.ofList).filter (· != "")
  let joined := match segments.reverse with
    | [] => none
    | [only] => some only
    | repo :: owner :: _ => some (owner ++ "__" ++ repo)
  let name := joined.map fun n => sanitize ((Text.stripSuffix? n ".git").getD n)
  let refused := Failure.checkout ("cannot derive cache name from " ++ Text.quoted url)
  match name with
  | some n => if n.isEmpty || n == "." || n == ".." then .error refused else .ok n
  | none => .error refused

end AdvisoryTrace.Repository
