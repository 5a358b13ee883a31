import AdvisoryTrace.Git.Options

/-!
# The options of clone and checkout

The option tables of `git clone` and `git checkout`, in the order git lists them, with the
usage each prints, and the checks some options make of their values as soon as they are read.
-/

namespace AdvisoryTrace.Git.Commands

open Options

/-- Whether a text is a whole number as git reads one for a setting: a sign, decimal digits (or
hexadecimal after `0x`), and one of the units `k`, `m` or `g`. -/
def isSettingNumber (v : String) : Bool :=
  let cs := match v.toList with
    | '+' :: rest | '-' :: rest => rest
    | cs => cs
  let cs := match cs.getLast? with
    | some u => if "kKmMgG".contains u then cs.dropLast else cs
    | none => cs
  match cs with
  | '0' :: 'x' :: hex | '0' :: 'X' :: hex => !hex.isEmpty && hex.all fun c => c.isDigit || "abcdefABCDEF".contains c
  | _ => !cs.isEmpty && cs.all Char.isDigit

/-- Whether a text is a boolean as git reads one: empty, `true`, `yes`, `on`, `false`, `no` or
`off` in any case, or a number. -/
def isBoolText (v : String) : Bool :=
  v.isEmpty || ["true", "yes", "on", "false", "no", "off"].contains v.toLower || isSettingNumber v

/-- The value of `--recurse-submodules` for checkout must be a boolean. -/
def recurseCheck (v : String) : Option Stop :=
  if isBoolText v then none else some ⟨128, "", "fatal: bad recurse-submodules argument: " ++ v ++ "\n"⟩

/-- The value of `--track` must be `direct` or `inherit`. -/
def trackCheck (v : String) : Option Stop :=
  if v == "direct" || v == "inherit" then none
  else some (refuse "option \x60--track' expects \"direct\" or \"inherit\"")

/-- Whether a text is an unsigned size as git reads one: no `-`, a number with a unit. -/
def isSize (v : String) : Bool := !v.contains '-' && isSettingNumber v

/-- The value of `--filter` must be an object filter: `blob:none`, `blob:limit=SIZE`,
`tree:DEPTH`, `sparse:oid=...`, `object:type=TYPE` or `combine:...`. -/
def filterCheck (v : String) : Option Stop :=
  let stop := fun (msg : String) => some (⟨128, "", "fatal: " ++ msg ++ "\n"⟩ : Stop)
  if v == "blob:none" then none
  else if let some limit := v.dropPrefix? "blob:limit=" then
    if isSize limit.toString then none else stop ("invalid filter-spec '" ++ v ++ "'")
  else if let some depth := v.dropPrefix? "tree:" then
    if isSize depth.toString then none else stop "expected 'tree:<depth>'"
  else if v.startsWith "sparse:oid=" then none
  else if v.startsWith "sparse:path=" then stop "sparse:path filters support has been dropped"
  else if let some kind := v.dropPrefix? "object:type=" then
    if ["blob", "tree", "commit", "tag"].contains kind.toString then none
    else stop ("'" ++ kind.toString ++ "' for 'object:type=<type>' is not a valid object type")
  else if v.startsWith "combine:" then none
  else stop ("invalid filter-spec '" ++ v ++ "'")

/-- The first lines of the usage of clone. -/
def cloneHeads : List String := ["usage: git clone [<options>] [--] <repo> [<dir>]"]

/-- The options of clone. -/
def cloneSpecs : List Spec :=
  [{ short := some 'v', long := some "verbose", shown := "-v, --verbose", help := "be more verbose" },
   { short := some 'q', long := some "quiet", shown := "-q, --quiet", help := "be more quiet" },
   { long := some "progress", shown := "--progress", help := "force progress reporting" },
   { long := some "reject-shallow", shown := "--reject-shallow", help := "don't clone shallow repository" },
   { short := some 'n', long := some "no-checkout", shown := "-n, --no-checkout", help := "don't create a checkout" },
   { long := some "bare", shown := "--bare", help := "create a bare repository" },
   { long := some "naked", shown := "--naked", help := "create a bare repository", hidden := true },
   { long := some "mirror", shown := "--mirror", help := "create a mirror repository (implies bare)" },
   { short := some 'l', long := some "local", shown := "-l, --local", help := "to clone from a local repository" },
   { long := some "no-hardlinks", shown := "--no-hardlinks", help := "don't use local hardlinks, always copy" },
   { short := some 's', long := some "shared", shown := "-s, --shared", help := "setup as shared repository" },
   { long := some "recurse-submodules", takes := .optionalValue, shown := "--recurse-submodules[=<pathspec>]",
     help := "initialize submodules in the clone" },
   { long := some "recursive", takes := .optionalValue, aliasOf := some "recurse-submodules",
     shown := "--recursive[=<pathspec>]", rawShown := some "--recursive ...",
     help := "alias of --recurse-submodules" },
   { short := some 'j', long := some "jobs", takes := .number, shown := "-j, --jobs <n>",
     help := "number of submodules cloned in parallel" },
   { long := some "template", takes := .value, shown := "--template <template-directory>",
     help := "directory from which templates will be used" },
   { long := some "reference", takes := .value, shown := "--reference <repo>", help := "reference repository" },
   { long := some "reference-if-able", takes := .value, shown := "--reference-if-able <repo>",
     help := "reference repository" },
   { long := some "dissociate", shown := "--dissociate", help := "use --reference only while cloning" },
   { short := some 'o', long := some "origin", takes := .value, shown := "-o, --origin <name>",
     help := "use <name> instead of 'origin' to track upstream" },
   { short := some 'b', long := some "branch", takes := .value, shown := "-b, --branch <branch>",
     help := "checkout <branch> instead of the remote's HEAD" },
   { short := some 'u', long := some "upload-pack", takes := .value, shown := "-u, --upload-pack <path>",
     help := "path to git-upload-pack on the remote" },
   { long := some "depth", takes := .value, shown := "--depth <depth>", help := "create a shallow clone of that depth" },
   { long := some "shallow-since", takes := .value, shown := "--shallow-since <time>",
     help := "create a shallow clone since a specific time" },
   { long := some "shallow-exclude", takes := .value, shown := "--shallow-exclude <revision>",
     help := "deepen history of shallow clone, excluding rev" },
   { long := some "single-branch", shown := "--single-branch", help := "clone only one branch, HEAD or --branch" },
   { long := some "no-tags", shown := "--no-tags",
     help := "don't clone any tags, and make later fetches not to follow them" },
   { long := some "shallow-submodules", shown := "--shallow-submodules", help := "any cloned submodules will be shallow" },
   { long := some "separate-git-dir", takes := .value, shown := "--separate-git-dir <gitdir>",
     help := "separate git dir from working tree" },
   { short := some 'c', long := some "config", takes := .value, shown := "-c, --config <key=value>",
     help := "set config inside the new repository" },
   { long := some "server-option", takes := .value, shown := "--server-option <server-specific>",
     help := "option to transmit" },
   { short := some '4', long := some "ipv4", negatable := false, shown := "-4, --ipv4", help := "use IPv4 addresses only" },
   { short := some '6', long := some "ipv6", negatable := false, shown := "-6, --ipv6", help := "use IPv6 addresses only" },
   { long := some "filter", takes := .value, shown := "--filter <args>", help := "object filtering", check := filterCheck },
   { long := some "also-filter-submodules", shown := "--also-filter-submodules",
     help := "apply partial clone filters to submodules" },
   { long := some "remote-submodules", shown := "--remote-submodules",
     help := "any cloned submodules will use their remote-tracking branch" },
   { long := some "sparse", shown := "--sparse", help := "initialize sparse-checkout file to include only files at root" },
   { long := some "bundle-uri", takes := .value, shown := "--bundle-uri <uri>",
     help := "a URI for downloading bundles before fetching from origin remote" }]

/-- The first lines of the usage of checkout. -/
def checkoutHeads : List String :=
  ["usage: git checkout [<options>] <branch>", "   or: git checkout [<options>] [<branch>] -- <file>..."]

/-- The options of checkout. -/
def checkoutSpecs : List Spec :=
  [{ short := some 'b', takes := .value, shown := "-b <branch>", help := "create and checkout a new branch" },
   { short := some 'B', takes := .value, shown := "-B <branch>", help := "create/reset and checkout a branch" },
   { short := some 'l', shown := "-l", help := "create reflog for new branch" },
   { long := some "guess", shown := "--guess", help := "second guess 'git checkout <no-such-branch>' (default)" },
   { long := some "overlay", shown := "--overlay", help := "use overlay mode (default)" },
   { short := some 'q', long := some "quiet", shown := "-q, --quiet", help := "suppress progress reporting" },
   { long := some "recurse-submodules", takes := .optionalValue, shown := "--recurse-submodules[=<checkout>]",
     help := "control recursive updating of submodules", check := recurseCheck },
   { long := some "progress", shown := "--progress", help := "force progress reporting" },
   { short := some 'm', long := some "merge", shown := "-m, --merge", help := "perform a 3-way merge with the new branch" },
   { long := some "conflict", takes := .value, shown := "--conflict <style>",
     help := "conflict style (merge, diff3, or zdiff3)" },
   { short := some 'd', long := some "detach", shown := "-d, --detach", help := "detach HEAD at named commit" },
   { short := some 't', long := some "track", takes := .optionalValue, shown := "-t, --track[=(direct|inherit)]",
     help := "set branch tracking configuration", check := trackCheck },
   { short := some 'f', long := some "force", shown := "-f, --force",
     help := "force checkout (throw away local modifications)" },
   { long := some "orphan", takes := .value, shown := "--orphan <new-branch>", help := "new unparented branch" },
   { long := some "overwrite-ignore", shown := "--overwrite-ignore", help := "update ignored files (default)" },
   { long := some "ignore-other-worktrees", shown := "--ignore-other-worktrees",
     help := "do not check if another worktree is holding the given ref" },
   { short := some '2', long := some "ours", negatable := false, shown := "-2, --ours",
     help := "checkout our version for unmerged files" },
   { short := some '3', long := some "theirs", negatable := false, shown := "-3, --theirs",
     help := "checkout their version for unmerged files" },
   { short := some 'p', long := some "patch", shown := "-p, --patch", help := "select hunks interactively" },
   { long := some "ignore-skip-worktree-bits", shown := "--ignore-skip-worktree-bits",
     help := "do not limit pathspecs to sparse entries only" },
   { long := some "pathspec-from-file", takes := .value, shown := "--pathspec-from-file <file>",
     help := "read pathspec from file" },
   { long := some "pathspec-file-nul", shown := "--pathspec-file-nul",
     help := "with --pathspec-from-file, pathspec elements are separated with NUL character" }]

end AdvisoryTrace.Git.Commands
