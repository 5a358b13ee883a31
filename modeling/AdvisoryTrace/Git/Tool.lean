import AdvisoryTrace.Git.Revision
import AdvisoryTrace.Git.Remote
import AdvisoryTrace.Git.Commands
import AdvisoryTrace.Net.Url
import AdvisoryTrace.Disk.Basic

/-!
# Running git

A machine holds a disk and the git repositories on it, each by the directory of its work
tree; a repository counts only while its `.git` directory is there. Running git on a machine
gives the exit code, the output and the error text of the run, and the machine after it.

The commands are those a repository cache needs:

* `clone --quiet URL DEST` copies a repository reached by a local path (tried as given, and as
  the work tree of a `.git` directory) or a `file://` URL: all its commits, its tags, its
  branches as remote-tracking branches of `origin`, and a local branch for the one its `HEAD`
  is on, which is checked out.
* `fetch --quiet --all --tags` brings the remote's new commits, moves the remote-tracking
  branches and adds new tags. Local branches stay where they are.
* `checkout --quiet --detach REV` detaches `HEAD` at a revision and updates the work tree. A
  word that names no commit but a remote branch would make a new local branch, which cannot go
  with detaching; any other such word is taken for a path, which cannot either.
* `rev-parse --verify --quiet REV` prints the commit a revision names, or fails quietly;
  `rev-parse HEAD` prints where `HEAD` is.

Words starting with `-` are options to git: an unknown one is refused with the command's usage.
Network addresses cannot be reached.
-/

namespace AdvisoryTrace.Git

/-- A disk with the git repositories on it. -/
structure Machine where
  disk : Disk
  /-- Repositories by the directory of their work tree. -/
  repos : List (List String × Repo)

/-- What a run of git gave. -/
structure Run where
  code : Nat
  out : String
  err : String
  deriving BEq, Repr

namespace Run

/-- A run that succeeded with some output. -/
def ok (out : String) : Run := ⟨0, out, ""⟩

/-- A run that died with a fatal error. -/
def fatal (message : String) : Run := ⟨128, "", "fatal: " ++ message ++ "\n"⟩

end Run

/-- Resolves the `..` parts of a path. -/
def normalize (ps : List String) : List String :=
  ps.foldl (fun acc p => if p == ".." then acc.dropLast else acc ++ [p]) []

/-- Whether a path text is absolute: it starts at the root of the file system, or with the
disk's name. -/
def isRooted (d : Disk) (text : String) : Bool :=
  let rest := text.toList.drop d.root.length
  Disk.Path.isAbsolute text ||
    (d.root.toList.isPrefixOf text.toList && (rest.isEmpty || rest.head? == some '/'))

/-- The path a text names on a disk from a working directory; none for an absolute path off
the disk. -/
def locateFrom (d : Disk) (cwd : List String) (text : String) : Option (List String) :=
  let rest := text.toList.drop d.root.length
  if d.root.toList.isPrefixOf text.toList && (rest.isEmpty || rest.head? == some '/') then
    some (normalize (Disk.Path.steps (String.ofList rest)))
  else if Disk.Path.isAbsolute text then none
  else some (normalize (cwd ++ Disk.Path.steps text))

/-- What a new `.git` directory holds, by path within it. -/
def gitSkeleton : List (List String × Node) :=
  [(["HEAD"], .file "ref: refs/heads/main\n".toUTF8.toList),
   (["config"], .file "[core]\n\trepositoryformatversion = 0\n".toUTF8.toList),
   (["description"], .file "Unnamed repository.\n".toUTF8.toList),
   (["hooks"], .dir), (["info", "exclude"], .file "# exclude\n".toUTF8.toList),
   (["objects", "info"], .dir), (["objects", "pack"], .dir),
   (["refs", "heads"], .dir), (["refs", "tags"], .dir)]

/-- Whether the bytes of a `HEAD` file name a ref (`ref:`, blanks, then `refs/`) or a commit
(forty hexadecimal digits first). -/
def isHeadText (bytes : List UInt8) : Bool :=
  let cs := bytes.map (Char.ofNat ·.toNat)
  match cs with
  | 'r' :: 'e' :: 'f' :: ':' :: rest =>
    ['r', 'e', 'f', 's', '/'].isPrefixOf (rest.dropWhile (" \t\n\r\x0b\x0c".contains ·)) ||
      (cs.take 40).length == 40 && (cs.take 40).all isHexDigit
  | _ => (cs.take 40).length == 40 && (cs.take 40).all isHexDigit

namespace Machine

/-- Whether a directory is a git directory: it holds `objects` and `refs` directories and a
`HEAD` file that names a ref or a commit. -/
def isGitDir (m : Machine) (p : List String) : Bool :=
  m.disk.isDir (p ++ ["objects"]) && m.disk.isDir (p ++ ["refs"]) &&
    ((m.disk.read? (p ++ ["HEAD"])).map isHeadText).getD false

/-- Makes the `.git` directory of a new repository. -/
def makeGitDir (m : Machine) (dir : List String) : Option Machine := do
  let disk ← m.disk.makeDirs (dir ++ [".git"])
  let disk := gitSkeleton.foldl (fun d (p, node) => (d.place (dir ++ [".git"] ++ p) node).getD d) disk
  some { m with disk }

/-- The repository whose work tree is a directory. -/
def repoAt? (m : Machine) (dir : List String) : Option Repo :=
  if m.isGitDir (dir ++ [".git"]) then m.repos.lookup dir else none

/-- Records a repository for a directory. -/
def setRepo (m : Machine) (dir : List String) (r : Repo) : Machine :=
  { m with repos := (dir, r) :: m.repos.filter (·.1 != dir) }

/-- Writes the files of a tree into a directory. -/
def writeTree (m : Machine) (dir : List String) (tree : Tree) : Machine :=
  { m with disk := tree.foldl (fun d (path, bytes) =>
      (d.place (dir ++ Disk.Path.steps path) (.file bytes)).getD d) m.disk }

/-- The work tree whose `.git` directory a path is. -/
def gitDirOf? (m : Machine) (p : List String) : Option (List String) :=
  if p.getLast? == some ".git" && (m.repoAt? p.dropLast).isSome then some p.dropLast else none

/-- Whether a path of the disk is a file. -/
def isFile (m : Machine) (p : List String) : Bool :=
  match m.disk.node? p with
  | some (.file _) => true
  | _ => false

/-- The text of a directory of the disk, absolute. -/
def dirText (m : Machine) (p : List String) : String :=
  if p.isEmpty then m.disk.root else m.disk.root ++ "/" ++ "/".intercalate p

end Machine

/-- What a clone address that is a local path leads to. -/
inductive LocalSource where
  | repo (dir : List String)
  | bundle
  | nothing

/-- What a path given to the serving side of a transport leads to: a repository, a file (with
the path that reached it), or nothing. -/
inductive Served where
  | repo (dir : List String)
  | file (reached : String)
  | nothing

/-- The suffixes git tries on a repository path, in order. -/
def repoSuffixes : List String := ["/.git", "", ".git/.git", ".git"]

namespace Machine

/-- Looks for a repository at a local path as clone does: the path with `/.git`, as it is, with
`.git/.git` and with `.git` added; then a file there (with `.bundle` added, or as it is) is taken
for a bundle. -/
def findLocal (m : Machine) (cwd : List String) (text : String) : LocalSource :=
  let tried := fun (suffix : String) => locateFrom m.disk cwd (text ++ suffix)
  match repoSuffixes.findSome? fun s => (tried s).bind m.gitDirOf? with
  | some dir => .repo dir
  | none =>
    if [".bundle", ""].any fun s => ((tried s).map m.isFile).getD false then .bundle else .nothing

/-- Looks for a repository as the serving side of a transport does: with the same suffixes, the
first that is a repository or a file. -/
def serve (m : Machine) (cwd : List String) (text : String) : Served :=
  let hit := repoSuffixes.findSome? fun s => do
    let p ← locateFrom m.disk cwd (text ++ s)
    match m.gitDirOf? p with
    | some dir => some (Served.repo dir)
    | none => if m.isFile p then some (Served.file (text ++ s)) else none
  hit.getD .nothing

end Machine

/-- Where the path of an address starts: at the first `/`, or where the disk's name (which
stands for an absolute path) starts. -/
def pathStart (root : List Char) : List Char → Option (List Char)
  | [] => none
  | c :: rest =>
    if c == '/' || root.isPrefixOf (c :: rest) then some (c :: rest) else pathStart root rest

/-- The local path a `file://` address names on a disk: what follows the host, with `%XX`
escapes decoded; none when no path follows. -/
def fileUrlPath? (d : Disk) (url : String) : Option String := do
  let rest ← url.dropPrefix? "file://"
  let decoded := (String.fromUTF8? ⟨(Net.Url.percentDecode rest.toString.toUTF8.toList).toArray⟩).getD rest.toString
  (pathStart d.root.toList decoded.toList).map String.ofList

/-- What the fetching side says when the serving side could not be reached. -/
def unreadable (why : String) : Run := ⟨128, "", Remote.readFailure ("fatal: " ++ why)⟩

/-- The refusal of a network address, which cannot be reached. -/
def unreachable (url : String) : Run :=
  unreadable ("'" ++ url ++ "' does not appear to be a git repository")

/-- What a transport to a served path gives: the repository, or the failure. -/
def Served.open (path : String) : Served → Except Run (List String)
  | .repo dir => .ok dir
  | .file reached => .error (unreadable ("invalid gitfile format: " ++ reached))
  | .nothing => .error (unreadable ("'" ++ path ++ "' does not appear to be a git repository"))

namespace Machine

/-- The repository a transport address leads to: a `file://` address or a local path as the
serving side finds it; any other address is refused as its route says. -/
def reach (m : Machine) (cwd : List String) (url : String) : Except Run (List String) :=
  match Remote.route url with
  | .fileUrl =>
    match fileUrlPath? m.disk url with
    | some path => (m.serve cwd path).open path
    | none => .error (Run.fatal "no path specified; see 'git help pull' for valid url syntax")
  | .localPath => (m.serve cwd url).open url
  | .refused why => .error ⟨128, "", why⟩

/-- The source of a clone: the origin's work tree and the address to keep for it (a local path
made absolute), or the failure. -/
def cloneSource (m : Machine) (cwd : List String) (url : String) : Except Run (List String × String) :=
  let absolute := if isRooted m.disk url then url else m.dirText cwd ++ "/" ++ url
  match m.findLocal cwd url with
  | .repo dir => .ok (dir, absolute)
  | .bundle =>
    .error ⟨128, "", "error: '" ++ absolute ++ "' does not look like a v2 or v3 bundle file\n" ++
      (unreadable ("invalid gitfile format: " ++ absolute)).err⟩
  | .nothing =>
    if url.contains ':' then (m.reach cwd url).map fun dir => (dir, url)
    else .error (Run.fatal ("repository '" ++ url ++ "' does not exist"))

/-- The reflog entry a clone starts its refs with. -/
def cloneEntry (stored id : String) : LogEntry := ⟨none, id, "clone: from " ++ stored⟩

/-- `git clone --quiet URL DEST`: all the origin's commits, its tags, its branches as
remote-tracking branches of `origin` with `origin/HEAD` following the one its `HEAD` is on, and a
local branch for that one, checked out, with `origin`'s branch as its upstream. -/
def clone (m : Machine) (cwd : List String) (url destText : String) : Run × Machine :=
  match m.cloneSource cwd url, locateFrom m.disk cwd destText with
  | .error run, _ => (run, m)
  | _, none => (Run.fatal ("could not create leading directories of '" ++ destText ++ "'"), m)
  | .ok (src, stored), some dest =>
    match m.repoAt? src with
    | none => (unreachable url, m)
    | some origin =>
      let occupied := match m.disk.node? dest with
        | some (.file _) => true
        | some .dir => m.disk.nodes.any fun (p, _) => dest.isPrefixOf p && p != dest
        | none => false
      if occupied then
        (Run.fatal ("destination path '" ++ destText ++ "' already exists and is not an empty directory."), m)
      else
        match m.makeGitDir dest with
        | none => (Run.fatal ("could not create leading directories of '" ++ destText ++ "'"), m)
        | some made =>
          let headId := origin.headId?
          let branch := origin.currentBranch?
          let remoteRefs := origin.refs.filterMap fun (name, id) =>
            (name.dropPrefix? "refs/heads/").map fun b => ("refs/remotes/origin/" ++ b.toString, id)
          let tags := origin.refs.filter fun (name, _) => name.startsWith "refs/tags/"
          let (own, follow, logs, upstreams) := match branch, headId with
            | some b, some id =>
              let entry := cloneEntry stored id
              ([("refs/heads/" ++ b, id)], [("refs/remotes/origin/HEAD", "refs/remotes/origin/" ++ b)],
                [("HEAD", [entry]), ("refs/heads/" ++ b, [entry]), ("refs/remotes/origin/HEAD", [entry])],
                [(b, "refs/remotes/origin/" ++ b)])
            | _, _ => ([], [], [], [])
          let repo : Repo :=
            { commits := origin.commits
              refs := own ++ remoteRefs ++ tags
              head := match branch, headId with
                | some b, _ => .branch b
                | none, some id => .detached id
                | none, none => .branch "main"
              origin := some stored
              symrefs := follow
              logs
              upstreams }
          let m := made.setRepo dest repo
          (Run.ok "", m.writeTree dest (origin.treeOf headId))

/-- The directory clone makes for a repository when it is given none: the last part of the
address, without a `.git` or `.bundle` ending. -/
def guessDir (url : String) : String :=
  let parts := (url.splitOn "/").filter (!·.isEmpty)
  let last := (parts.filter (· != ".git")).getLast?.getD url
  ((last.dropSuffix? ".git").orElse fun _ => last.dropSuffix? ".bundle").map (·.toString) |>.getD last

/-- `git clone` with its words: the options are read, then the repository and the directory. -/
def cloneCommand (m : Machine) (cwd : List String) (args : List String) : Run × Machine :=
  match Options.readAll Commands.cloneSpecs Commands.cloneHeads false args with
  | .stopped stop => (⟨stop.code, stop.out, stop.err⟩, m)
  | .read _ words =>
    let usage := Options.usage Commands.cloneHeads Commands.cloneSpecs false true
    match words with
    | [] => (⟨129, "", "fatal: You must specify a repository to clone.\n\n" ++ usage⟩, m)
    | [url] => m.clone cwd url (guessDir url)
    | [url, dest] => m.clone cwd url dest
    | _ => (⟨129, "", "fatal: Too many arguments.\n\n" ++ usage⟩, m)

/-- The commit `FETCH_HEAD` names after a fetch: the upstream of the current branch when the
origin has it, otherwise the first of the origin's branches and then its tags, by name. -/
def fetchHeadOf (r origin : Repo) : Option String :=
  let sorted := fun (start : String) =>
    ((origin.refs.filterMap fun (name, id) => (name.dropPrefix? start).map fun b => (b.toString, id)).mergeSort
      fun a b => decide (a.1 ≤ b.1))
  let branches := sorted "refs/heads/"
  let merged := do
    let b ← r.currentBranch?
    let u ← r.upstreams.lookup b
    let name ← u.dropPrefix? "refs/remotes/origin/"
    branches.lookup name.toString
  merged <|> (branches ++ sorted "refs/tags/").head?.map (·.2)

/-- `git fetch --quiet --all --tags`: the origin's new commits, its branches into the
remote-tracking branches (each move written to their reflogs), its new tags, and `FETCH_HEAD`.
Local branches stay where they are. -/
def fetch (m : Machine) (cwd : List String) : Run × Machine :=
  match m.repoAt? cwd with
  | none => (Run.fatal "not a git repository (or any of the parent directories): .git", m)
  | some r =>
    match r.origin with
    | none => (unreadable "'origin' does not appear to be a git repository", m)
    | some url =>
      match (m.reach cwd url).toOption.bind m.repoAt?, m.reach cwd url with
      | some origin, _ =>
        let r := r.addCommits origin.commits
        let r := origin.refs.foldl (fun r (name, id) =>
          match name.dropPrefix? "refs/heads/" with
          | some b =>
            let tracking := "refs/remotes/origin/" ++ b.toString
            match r.refs.lookup tracking with
            | some old =>
              if old == id then r
              else (r.setRef tracking id).addLog tracking ⟨some old, id, "fetch: fast-forward"⟩
            | none => (r.setRef tracking id).addLog tracking ⟨none, id, "fetch: storing head"⟩
          | none =>
            if name.startsWith "refs/tags/" && (r.refs.lookup name).isNone then r.setRef name id
            else r) r
        let r := { r with fetchHead := fetchHeadOf r origin <|> r.fetchHead }
        (Run.ok "", m.setRepo cwd r)
      | none, .error run => (run, m)
      | none, .ok _ => (unreachable url, m)

/-- Removes a file of a work tree, then each directory above it (below the top) left empty. -/
def pruneFrom (d : Disk) (top : List String) : Nat → List String → Disk
  | 0, _ => d
  | fuel + 1, p =>
    if p.length ≤ top.length then d
    else if d.nodes.any (fun (q, _) => p.isPrefixOf q && q != p) then d
    else pruneFrom (d.removeTree p) top fuel p.dropLast

/-- An error block of a refused checkout: the head line, each path on a tab, and the advice. -/
def refusal (head advice : String) (paths : List String) : String :=
  if paths.isEmpty then ""
  else "error: " ++ head ++ "\n" ++ String.join (paths.map fun p => "\t" ++ p ++ "\n") ++ advice ++ "\n"

/-- Detaches `HEAD` of a repository at a commit, as checkout does. The work tree changes only
where the two trees differ; where it holds changes of its own there (a tracked file changed, or
a file in the way of a new one), nothing changes and checkout refuses, listing them. `HEAD`'s
reflog gets an entry when it moves or leaves a branch. -/
def detachAt (m : Machine) (dir : List String) (r : Repo) (id target before : String)
    (force : Bool := false) : Run × Machine :=
  let old := r.treeOf r.headId?
  let new := r.treeOf (some id)
  let paths := ((old.map (·.1)) ++ (new.map (·.1))).eraseDups.mergeSort fun a b => decide (a ≤ b)
  let here := fun p => m.disk.node? (dir ++ Disk.Path.steps p)
  let changed := paths.filter fun p =>
    old.lookup p != new.lookup p || (force && (new.lookup p).map .file != here p)
  let modified := changed.filter fun p =>
    match old.lookup p, here p with
    | some bytes, some (.file b) => b != bytes
    | some _, some .dir => true
    | _, _ => false
  let untracked := changed.filter fun p => (old.lookup p).isNone && (here p).isSome
  if !force && (!modified.isEmpty || !untracked.isEmpty) then
    (⟨1, "", before ++
      refusal "Your local changes to the following files would be overwritten by checkout:"
        "Please commit your changes or stash them before you switch branches." modified ++
      refusal "The following untracked working tree files would be overwritten by checkout:"
        "Please move or remove them before you switch branches." untracked ++
      "Aborting\n"⟩, m)
  else
    let disk := changed.foldl (fun d p =>
      if (new.lookup p).isNone then
        let full := dir ++ Disk.Path.steps p
        pruneFrom (d.removeTree full) dir full.length full.dropLast
      else d) m.disk
    let disk := changed.foldl (fun d p =>
      match new.lookup p with
      | some bytes =>
        let full := dir ++ Disk.Path.steps p
        ((d.removeTree full).place full (.file bytes)).getD d
      | none => d) disk
    let leaving := match r.head with
      | .branch b => b
      | .detached old => old
    let moved := r.currentBranch?.isSome || r.headId? != some id
    let r := if moved then r.addLog "HEAD" ⟨r.headId?, id, "checkout: moving from " ++ leaving ++ " to " ++ target⟩
      else r
    (Run.ok "", ({ m with disk } : Machine).setRepo dir { r with head := .detached id })

/-- Whether a name may be a branch name: not empty, `HEAD` or `@`, not starting with `-`, no
part empty or starting with `.` or ending in `.lock`, no `..` or `@{`, no control character,
space or any of `~^:?*[\`, and not ending in `.`. -/
def isBranchName (name : String) : Bool :=
  let cs := name.toList
  let parts := name.splitOn "/"
  !cs.isEmpty && name != "HEAD" && name != "@" && cs.head? != some '-' && cs.getLast? != some '.' &&
    parts.all (fun p => !p.isEmpty && !p.startsWith "." && !p.endsWith ".lock") &&
    (name.splitOn "..").length == 1 && (name.splitOn "@\x7b").length == 1 &&
    cs.all fun c => c.toNat > 32 && c.toNat != 127 && !"~^:?*[\\".contains c

/-- Whether a word has a character special to path patterns. -/
def hasWildcard (s : String) : Bool := s.toList.any fun c => "*?[\\".contains c

/-- Whether a character may be a one-letter pathspec magic mark. -/
def isMagicChar (c : Char) : Bool := "!\"#%&',-/:;<=>@_\x60~".contains c

/-- The long pathspec magic names. -/
def magicNames : List String := ["top", "literal", "glob", "icase", "exclude", "attr"]

/-- Reads the magic of a pathspec: whether it is read from the top, and the path after the
magic; or why git refuses it. Long magic is `:(name,...)`; short magic is `:` with marks up to
the next `:` or the first character that is no mark (`/` for the top, `!` and `^` to exclude). -/
def pathspecBody (arg : String) : Except String (Bool × String) :=
  match arg.toList with
  | ':' :: '(' :: rest =>
    let inner := rest.takeWhile (· != ')')
    let names := ((String.ofList inner).splitOn ",").filter (!·.isEmpty)
    match names.find? fun n => !magicNames.contains n && !n.startsWith "attr:" && !n.startsWith "prefix:" with
    | some n => .error ("Invalid pathspec magic '" ++ n ++ "' in '" ++ arg ++ "'")
    | none =>
      if inner.length == rest.length then
        .error ("Missing ')' at the end of pathspec magic in '" ++ arg ++ "'")
      else .ok (names.contains "top", String.ofList (rest.drop (inner.length + 1)))
  | ':' :: rest =>
    let marks := rest.takeWhile fun c => c != ':' && (c == '^' || isMagicChar c)
    match marks.find? fun c => c != '^' && c != '!' && c != '/' with
    | some c => .error ("Unimplemented pathspec magic '" ++ String.singleton c ++ "' in '" ++ arg ++ "'")
    | none =>
      let after := rest.drop marks.length
      let after := match after with
        | ':' :: more => more
        | _ => after
      .ok (marks.contains '/', String.ofList after)
  | _ => .ok (false, arg)

/-- The refusal of a word checkout takes for a path, which cannot go with detaching; a path
that leaves the work tree, or a pathspec with bad magic, is refused first. -/
def pathRefusal (m : Machine) (cwd : List String) (arg : String) : String :=
  if arg.isEmpty then "empty string is not a valid pathspec. please use . instead if you meant to match all paths"
  else match pathspecBody arg with
    | .error why => why
    | .ok (_, body) =>
      let inside := if isRooted m.disk body then
          ((locateFrom m.disk [] body).map cwd.isPrefixOf).getD false
        else (plainParts body).isSome
      if inside then "git checkout: --detach does not take a path argument '" ++ arg ++ "'"
      else arg ++ ": '" ++ body ++ "' is outside repository at '" ++ m.dirText cwd ++ "'"

/-- What checkout does with a word that names nothing: when `origin` has a branch of that name
(and the word is no pattern) it would make a new local branch, which cannot go with detaching;
otherwise the word is taken for a path. -/
def guessRemote (m : Machine) (cwd : List String) (r : Repo) (arg name : String)
    (notes : List String) : Run :=
  let fail := fun (notes : List String) (msg : String) =>
    (⟨128, "", String.join (notes.map (· ++ "\n")) ++ "fatal: " ++ msg ++ "\n"⟩ : Run)
  if hasWildcard name then fail notes (m.pathRefusal cwd arg)
  else
    match (r.lookup (m.dirText cwd) false ("refs/remotes/origin/" ++ name)).run.run notes with
    | (.error msg, notes) => fail notes msg
    | (.ok none, notes) => fail notes (m.pathRefusal cwd arg)
    | (.ok (some o), notes) =>
      if ((locateFrom m.disk cwd name).bind m.disk.node?).isSome then
        fail notes ("'" ++ name ++ "' could be both a local file and a tracking branch.\n" ++
          "Please use -- (and optionally --no-guess) to disambiguate")
      else match o with
        | .blob _ | .missing _ => fail notes ("reference is not a tree: refs/remotes/origin/" ++ name)
        | _ =>
          if isBranchName name then fail notes "'--detach' cannot be used with '-b/-B/--orphan'"
          else fail notes ("'" ++ name ++ "' is not a valid branch name")

/-- The refusal of checkout for a word that names nothing and is no path it could take. -/
def checkoutWord (m : Machine) (cwd : List String) (r : Repo) (arg : String) : Run × Machine :=
  let name := if arg == "-" then "@\x7b-1\x7d" else arg
  match (r.lookupForCheckout (m.dirText cwd) name).run.run [] with
  | (.error msg, notes) =>
    (⟨128, "", String.join (notes.map (· ++ "\n")) ++ "fatal: " ++ msg ++ "\n"⟩, m)
  | (.ok (some (.commit id)), notes) =>
    let target := ((r.substitute false name).toOption.join).getD name
    m.detachAt cwd r id target (String.join (notes.map (· ++ "\n")))
  | (.ok (some (.tree _)), notes) =>
    (⟨128, "", String.join (notes.map (· ++ "\n")) ++
      "fatal: Cannot switch branch to a non-commit '" ++ name ++ "'\n"⟩, m)
  | (.ok (some _), notes) =>
    (⟨128, "", String.join (notes.map (· ++ "\n")) ++ "fatal: reference is not a tree: " ++ name ++ "\n"⟩, m)
  | (.ok none, notes) => (m.guessRemote cwd r arg name notes, m)

/-- What checkout refuses in the options it was given, in the order git checks them: the
conflict style, more than one new branch, `--track` with no branch, the pathspec file options, the
name of a new branch, then what cannot go with updating paths (`--patch`) or with switching
branches. -/
def checkoutRefusal (r : Repo) (given : List Options.Given) (words : List String) : Option String :=
  let conflict := Options.valueOf? given "conflict"
  let merge := Options.isOn given "merge" || conflict.isSome
  let force := Options.isOn given "force"
  let detach := Options.isOn given "detach"
  let patch := Options.isOn given "patch"
  let overlay := Options.last? given "overlay"
  let tracked := (Options.last? given "track").isSome
  let stage := (Options.last? given "ours").isSome || (Options.last? given "theirs").isSome
  let asked := [Options.valueOf? given "b", Options.valueOf? given "B", Options.valueOf? given "orphan"]
  let newBranch := (Options.valueOf? given "orphan").orElse fun _ =>
    (Options.valueOf? given "B").orElse fun _ => Options.valueOf? given "b"
  if let some style := conflict.filter fun c => !(["merge", "diff3", "zdiff3"].contains c) then
    some ("unknown style '" ++ style ++ "' given for 'merge.conflictstyle'")
  else if (asked.filter Option.isSome).length > 1 then
    some "options '-b', '-B', and '--orphan' cannot be used together"
  else if overlay.map (!·.unset) == some true && patch then
    some "options '-p' and '--overlay' cannot be used together"
  else if tracked && newBranch.isNone && (words.isEmpty || words.head? == some "--") then
    some "--track needs a branch name"
  else if Options.valueOf? given "pathspec-from-file" |>.isSome then
    if detach then some "options '--pathspec-from-file' and '--detach' cannot be used together"
    else if patch then some "options '--pathspec-from-file' and '--patch' cannot be used together"
    else none
  else if Options.isOn given "pathspec-file-nul" then
    some "the option '--pathspec-file-nul' requires '--pathspec-from-file'"
  else if let some b := newBranch.filter fun b => !isBranchName b then
    some ("'" ++ b ++ "' is not a valid branch name")
  else if let some b := newBranch.filter fun b =>
      (Options.valueOf? given "B").isNone && (r.refs.lookup ("refs/heads/" ++ b)).isSome then
    some ("a branch named '" ++ b ++ "' already exists")
  else if patch then
    if tracked then some "'--track' cannot be used with updating paths"
    else if Options.isOn given "l" then some "'-l' cannot be used with updating paths"
    else if force then some "'--force' cannot be used with updating paths"
    else if detach then some "'--detach' cannot be used with updating paths"
    else if merge then some "options '--merge' and '--patch' cannot be used together"
    else newBranch.map fun b => "Cannot update paths and switch to branch '" ++ b ++ "' at the same time."
  else if overlay.isSome then some "'--[no]-overlay' cannot be used with switching branches"
  else if stage then some "'--ours/--theirs' cannot be used with switching branches"
  else if force && merge then some "'-f' cannot be used with '-m'"
  else if detach && newBranch.isSome then some "'--detach' cannot be used with '-b/-B/--orphan'"
  else none

/-- `git checkout` with its words, as the cache runs it (`--quiet --detach REV`): the options are
read and checked; a word left is a revision to detach at, as `checkoutWord` does; with none,
`HEAD` is detached where it stands (throwing local changes away with `--force`), or nothing
happens when `--no-detach` turned detaching off. -/
def checkout (m : Machine) (cwd : List String) (args : List String) : Run × Machine :=
  match m.repoAt? cwd with
  | none => (Run.fatal "not a git repository (or any of the parent directories): .git", m)
  | some r =>
    match Options.readAll Commands.checkoutSpecs Commands.checkoutHeads true args with
    | .stopped stop => (⟨stop.code, stop.out, stop.err⟩, m)
    | .read given words =>
      let refusal := checkoutRefusal r given words
      let words := if words.head? == some "--" then words.drop 1 else words
      match words, refusal with
      | _, some why => (Run.fatal why, m)
      | [arg], none => m.checkoutWord cwd r arg
      | _, none =>
        if !Options.isOn given "detach" then (Run.ok "", m)
        else match r.headId? with
          | some id => m.detachAt cwd r id "HEAD" "" (Options.isOn given "force")
          | none => (Run.ok "", m)

/-- `git rev-parse`, for `--verify --quiet REV` and `HEAD`: the commit a revision names. -/
def revParse (m : Machine) (cwd : List String) (rev : String) (quiet : Bool) : Run :=
  match m.repoAt? cwd with
  | none => Run.fatal "not a git repository (or any of the parent directories): .git"
  | some r =>
    match (r.lookup (m.dirText cwd) quiet rev).run.run [] with
    | (.ok (some (.commit id)), _) => Run.ok (id ++ "\n")
    | _ =>
      if quiet then ⟨1, "", ""⟩
      else ⟨128, rev ++ "\n", "fatal: ambiguous argument '" ++ rev ++
        "': unknown revision or path not in the working tree.\n" ++
        "Use '--' to separate paths from revisions, like this:\n" ++
        "'git <command> [<revision>...] -- [<file>...]'\n"⟩

/-- `git init` with `main` as the first branch. -/
def init (m : Machine) (dir : List String) : Machine :=
  match m.makeGitDir dir with
  | some made => made.setRepo dir { commits := [], refs := [], head := .branch "main" }
  | none => m

/-- Changes the work tree of a repository and commits all of it on the current branch as the
commit `id` with a message, as `git add -A` and `git commit` do: the files are written, the paths
removed (a directory with everything below it), and the commit's tree is every file of the work
tree outside `.git`. Then a tag is put at the commit when given and no tag of that name is there
(`git tag` refuses to move one), and a branch when given (`git branch -f`). -/
def commitAll (m : Machine) (dir : List String) (id message : String) (writes : Tree)
    (removes : List String) (tag branch : Option String) : Machine :=
  match m.repoAt? dir with
  | none => m
  | some r =>
    let parent := r.headId?
    let m := m.writeTree dir writes
    let disk := removes.foldl (fun (d : Disk) p => d.removeTree (dir ++ Disk.Path.steps p)) m.disk
    let tree := (disk.filesBelow dir [".git"]).map fun (rel, bytes) => ("/".intercalate rel, bytes)
    let m : Machine := { m with disk }
    let r := { r with commits := r.commits ++ [({ id, parent, tree, message } : Commit)] }
    let r := match r.head with
      | .branch b => r.setRef ("refs/heads/" ++ b) id
      | .detached _ => { r with head := .detached id }
    let r := match tag with
      | some t => if (r.refs.lookup ("refs/tags/" ++ t)).isSome then r else r.setRef ("refs/tags/" ++ t) id
      | none => r
    let r := match branch with | some b => r.setRef ("refs/heads/" ++ b) id | none => r
    m.setRepo dir r

/-- Runs git with arguments in a working directory. -/
def run (m : Machine) (cwd : List String) (args : List String) : Run × Machine :=
  match args with
  | "clone" :: rest => m.cloneCommand cwd rest
  | ["fetch", "--quiet", "--all", "--tags"] => m.fetch cwd
  | "checkout" :: rest => m.checkout cwd rest
  | ["rev-parse", "--verify", "--quiet", rev] => (m.revParse cwd rev true, m)
  | ["rev-parse", rev] => (m.revParse cwd rev false, m)
  | cmd :: _ => (⟨1, "", "git: '" ++ cmd ++ "' is not a git command. See 'git --help'.\n"⟩, m)
  | [] => (⟨1, "", ""⟩, m)

end Machine

end AdvisoryTrace.Git
