import AdvisoryTrace.Git.Tool
import AdvisoryTrace.Repository.CacheName
import AdvisoryTrace.Failure
import AdvisoryTrace.Text.Blank

/-!
# The repository cache

Local clones of repositories, one directory per repository (named as `cacheDirName` says) in
the cache's root directory. Nothing is ever evicted.

To have a repository at a commit, the cache makes its root directory, then:

* with no clone there (no `.git` in the repository's directory), it clears what is left in
  the directory, clones, fetches and checks out the commit;
* with a clone there already at the commit (`HEAD` is what the commit names, which may be
  a tag or an abbreviated id), it is done;
* otherwise it fetches and checks out the commit.

Every git failure is a checkout failure naming the arguments, the exit status and git's error
text; so is a git that cannot be started.
-/

namespace AdvisoryTrace.Repository

/-- A cache of clones: its root directory, the git program to run, and how long one run may
take. -/
structure RepoCache where
  root : String
  program : String
  timeoutSecs : Nat
  deriving Repr

/-- What a program given for git turns out to be on the machine. -/
inductive Program where
  /-- Git itself. -/
  | git
  /-- A program that does nothing and succeeds, whatever its arguments (`true`, `echo`). -/
  | succeeds
  /-- A program that does nothing and fails with status 1 (`false`). -/
  | fails
  /-- No program: it cannot be started. -/
  | missing
  deriving BEq, Repr

/-- The program a name starts, found on the search path or at its full path in the system's
program directories. -/
def programOf (name : String) : Program :=
  let inBin := fun (base : String) => name == base || name == "/usr/bin/" ++ base || name == "/bin/" ++ base
  if inBin "git" || name == "/usr/lib/git-core/git" then .git
  else if inBin "true" || inBin "echo" then .succeeds
  else if inBin "false" then .fails
  else .missing

/-- A program that cannot be started. -/
def spawnFailure (program : String) : Failure :=
  .checkout ("spawn " ++ program ++ ": No such file or directory (os error 2)")

namespace RepoCache

/-- Runs git in a directory, giving its trimmed output; a program that cannot start (also in
a directory that is not there), a run that does not end within the time allowed, and a run that
fails are checkout failures. A run is given at least a moment, so only a limit of zero seconds
stops one. -/
def git (c : RepoCache) (cwd : List String) (args : List String) :
    StateM Git.Machine (Except Failure String) := do
  let m ← get
  let program := programOf c.program
  if program == .missing || !m.disk.isDir cwd then return .error (spawnFailure c.program)
  if c.timeoutSecs == 0 then
    return .error (.checkout ("git " ++ " ".intercalate args ++ " timed out after 0s"))
  let run := match program with
    | .git => m.run cwd args
    | .fails => (⟨1, "", ""⟩, m)
    | _ => (⟨0, "", ""⟩, m)
  let (run, m) := run
  set m
  if run.code != 0 then
    return .error (.checkout ("git " ++ " ".intercalate args ++ " failed (exit status: " ++
      toString run.code ++ "): " ++ Text.trim run.err))
  return .ok (Text.trim run.out)

/-- Whether `HEAD` of a clone already is the commit a revision names. -/
def atCommit (c : RepoCache) (repo : List String) (commit : String) : StateM Git.Machine Bool := do
  match ← c.git repo ["rev-parse", "--verify", "--quiet", commit ++ "^\x7bcommit\x7d"] with
  | .error _ => return false
  | .ok target =>
    match ← c.git repo ["rev-parse", "HEAD"] with
    | .ok head => return head == target
    | .error _ => return false

/-- Makes sure the clone of a repository is at a commit; gives the clone's directory. -/
def ensure (c : RepoCache) (url commit : String) : StateM Git.Machine (Except Failure String) := do
  let name ← match cacheDirName url with
    | .ok n => pure n
    | .error f => return .error f
  let m ← get
  let some root := Git.locateFrom m.disk [] c.root
    | return .error (.checkout ("create cache dir " ++ c.root ++ ": Permission denied (os error 13)"))
  match m.disk.createDirAll root with
  | .error e => return .error (.checkout ("create cache dir " ++ c.root ++ ": " ++ e))
  | .ok disk => set { m with disk }
  let repoText := Disk.Path.join c.root name
  let repo := root ++ [name]
  let m ← get
  if (m.disk.node? (repo ++ [".git"])).isNone then
    if (m.disk.node? repo).isSome then
      match m.disk.removeDirAll repo with
      | .error e => return .error (.checkout ("clear " ++ repoText ++ ": " ++ e))
      | .ok disk => set { m with disk }
    if let Except.error f := ← c.git root ["clone", "--quiet", url, repoText] then return .error f
  else if ← c.atCommit repo commit then return .ok repoText
  if let Except.error f := ← c.git repo ["fetch", "--quiet", "--all", "--tags"] then return .error f
  if let Except.error f := ← c.git repo ["checkout", "--quiet", "--detach", commit] then return .error f
  return .ok repoText

end RepoCache

end AdvisoryTrace.Repository
