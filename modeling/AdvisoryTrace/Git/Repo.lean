/-!
# Git repositories

A repository as the cache sees it:

* its commits, each with the files of its tree, its parent and its message;
* its refs (branches, tags and remote-tracking branches, by full name), and the symbolic refs
  that follow another ref, such as a remote's `HEAD`;
* its `HEAD`, on a branch or detached at a commit;
* the reflogs of the refs that keep one, newest entry first;
* the upstream of each local branch that has one;
* the commit `FETCH_HEAD` names after a fetch;
* and the URL of its remote `origin`, for a clone.

Commits are named by ids of forty hexadecimal digits. Fixture commits get ids spread evenly
over that space from their repository name and position, so that seven digits tell them apart.
-/

namespace AdvisoryTrace.Git

/-- The files of a tree: each path from the top of the tree, with its bytes. -/
abbrev Tree := List (String × List UInt8)

/-- A commit: its id, its first parent, its tree and its message. -/
structure Commit where
  id : String
  parent : Option String
  tree : Tree
  message : String
  deriving BEq, Repr

/-- Where `HEAD` stands. -/
inductive Head where
  | branch (name : String)
  | detached (id : String)
  deriving BEq, Repr

/-- One entry of a reflog: the commit the ref left (none when the entry made the ref), the
commit it came to, and the reason written with it. -/
structure LogEntry where
  old : Option String
  new : String
  reason : String
  deriving BEq, Repr

/-- A repository. -/
structure Repo where
  commits : List Commit
  /-- Refs by full name, such as `refs/heads/main`. -/
  refs : List (String × String)
  head : Head
  /-- The URL of the remote `origin`. -/
  origin : Option String := none
  /-- Symbolic refs, each with the ref it follows. -/
  symrefs : List (String × String) := []
  /-- Reflogs by ref name (`HEAD` among them), newest entry first. -/
  logs : List (String × List LogEntry) := []
  /-- The upstream of each local branch that has one, as a full ref name. -/
  upstreams : List (String × String) := []
  /-- The commit `FETCH_HEAD` names, once something was fetched. -/
  fetchHead : Option String := none
  deriving BEq, Repr

/-- A 64-bit FNV-1a digest of a text. -/
def fnv (s : String) : UInt64 :=
  s.toUTF8.foldl (fun h b => (h ^^^ b.toUInt64) * 0x100000001b3) 0xcbf29ce484222325

/-- A 64-bit mixing step (from SplitMix). -/
def mix (x : UInt64) : UInt64 :=
  let x := (x ^^^ (x >>> 30)) * 0xbf58476d1ce4e5b9
  let x := (x ^^^ (x >>> 27)) * 0x94d049bb133111eb
  x ^^^ (x >>> 31)

/-- Sixteen lower-case hexadecimal digits of a 64-bit word. -/
def hex16 (x : UInt64) : String :=
  let ds := Nat.toDigits 16 x.toNat
  String.ofList (List.replicate (16 - ds.length) '0' ++ ds)

/-- The id of commit `index` of the fixture repository `name`. -/
def fixtureId (name : String) (index : Nat) : String :=
  let seed := fnv (name ++ "\x00" ++ toString index)
  let a := mix seed
  let b := mix (a + 0x9e3779b97f4a7c15)
  let c := mix (b + 0x9e3779b97f4a7c15)
  (hex16 a ++ hex16 b ++ hex16 c).take 40 |>.toString

/-- Whether a character is a hexadecimal digit. -/
def isHexDigit (c : Char) : Bool :=
  c.isDigit || ('a' ≤ c && c ≤ 'f') || ('A' ≤ c && c ≤ 'F')

/-- Whether a text is all hexadecimal digits. -/
def isHex (s : String) : Bool := s.toList.all isHexDigit

namespace Repo

/-- The commit of an id. -/
def commit? (r : Repo) (id : String) : Option Commit :=
  r.commits.find? (·.id == id)

/-- The tree of a commit; empty when there is none. -/
def treeOf (r : Repo) (id : Option String) : Tree :=
  (id.bind r.commit?).map (·.tree) |>.getD []

/-- The branch `HEAD` is on, if it is on one. -/
def currentBranch? (r : Repo) : Option String :=
  match r.head with
  | .branch b => some b
  | .detached _ => none

/-- The commit a ref names, following a symbolic ref to its target. -/
def refValue? (r : Repo) (name : String) : Option String :=
  match r.symrefs.lookup name with
  | some target => r.refs.lookup target
  | none => r.refs.lookup name

/-- The commit `HEAD` stands at. -/
def headId? (r : Repo) : Option String :=
  match r.head with
  | .branch b => r.refs.lookup ("refs/heads/" ++ b)
  | .detached id => some id

/-- The commit a name of the top of the ref space names: `HEAD`, `FETCH_HEAD`, or a ref. -/
def nameValue? (r : Repo) (name : String) : Option String :=
  if name == "HEAD" then r.headId?
  else if name == "FETCH_HEAD" then r.fetchHead
  else r.refValue? name

/-- The ref a name reads as, through a symbolic ref: `HEAD` on a branch reads as that branch. -/
def resolvedName (r : Repo) (name : String) : String :=
  if name == "HEAD" then
    match r.head with
    | .branch b => "refs/heads/" ++ b
    | .detached _ => "HEAD"
  else (r.symrefs.lookup name).getD name

/-- Points a ref at a commit. -/
def setRef (r : Repo) (name id : String) : Repo :=
  if (r.refs.lookup name).isSome then
    { r with refs := r.refs.map fun e => if e.1 == name then (name, id) else e }
  else { r with refs := r.refs ++ [(name, id)] }

/-- The reflog of a ref, newest entry first; none when the ref keeps none. -/
def log? (r : Repo) (name : String) : Option (List LogEntry) :=
  r.logs.lookup name

/-- Adds an entry at the top of a ref's reflog, starting the reflog when there is none. -/
def addLog (r : Repo) (name : String) (e : LogEntry) : Repo :=
  match r.log? name with
  | some es => { r with logs := r.logs.map fun l => if l.1 == name then (name, e :: es) else l }
  | none => { r with logs := r.logs ++ [(name, [e])] }

/-- Adds commits not yet known. -/
def addCommits (r : Repo) (cs : List Commit) : Repo :=
  { r with commits := r.commits ++ cs.filter fun c => (r.commit? c.id).isNone }

/-- The first parent of a commit, `n` times over. -/
def back (r : Repo) : Nat → String → Option String
  | 0, id => (r.commit? id).map (·.id)
  | n + 1, id => do back r n (← (← r.commit? id).parent)

/-- The commits from one back along first parents, itself first. -/
def ancestry (r : Repo) : Nat → String → List String
  | 0, _ => []
  | fuel + 1, id =>
    match r.commit? id with
    | some c => id :: (match c.parent with | some p => ancestry r fuel p | none => [])
    | none => []

end Repo

end AdvisoryTrace.Git
