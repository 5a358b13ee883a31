import AdvisoryTrace.Git.Repo
import AdvisoryTrace.Git.ObjectId
import AdvisoryTrace.Git.Regex
import AdvisoryTrace.Text.Blank

/-!
# Revisions

How git reads a revision into the object it names. Looking a revision up gives the object or
nothing; on the way git may print error lines, which are kept, and may stop with a fatal error.

The forms, tried in the order git tries them:

* `REV~N` and `REV^N`, read from the end: steps back along first parents (`~` and `^` alone
  count one, `^0` is the commit itself; a count past the C `int` range names nothing);
* `REV^{kind}`: the object peeled to a `commit`, `tree`, `blob`, `tag` or any `object`, a
  commit reaching its tree, with an error line when it cannot; `REV^{}` the object itself;
  `REV^{/text}` the youngest commit from `REV` back whose message matches `text`;
* a full id (an object the repository lacks still reads, as missing);
* `@{-N}`: the branch or commit `HEAD` left at the `N`th checkout back;
* `NAME@{N}`: the `N`th entry back of the reflog of the ref `NAME` reaches (`@{N}` alone the
  current branch's, or `HEAD`'s when detached); `NAME@{date}` for a time;
* `NAME@{upstream}`, `NAME@{u}`, `NAME@{push}`: the upstream of a branch, the current one
  when `NAME` is empty or `HEAD`; a detached `HEAD`, a missing branch, or a branch with no
  upstream stops git, unless it is asked to be quiet;
* a ref name, tried as written, under `refs/`, `refs/tags/`, `refs/heads/`, `refs/remotes/`,
  and as a remote's `HEAD`; `@` alone is `HEAD`; names with empty, `.` or `..` parts are not
  refs;
* describe output `...-gHEX`, and an id prefix of four to forty digits naming one commit;
* then, for the whole name only: `:/text`, the youngest commit reachable from any ref whose
  message matches; `:path` and `:N:path`, a file of the index (the tree `HEAD` stands at);
  and `REV:path`, the tree or file at a path of the tree of `REV`.

All fixture commits share one date, so "youngest first" is the order of the starting list,
with each parent queued behind the commits already waiting.
-/

namespace AdvisoryTrace.Git

/-- What a revision can name: a commit, a tree or a file's bytes, or a full id of no object the
repository has. -/
inductive Obj where
  | commit (id : String)
  | tree (files : Tree)
  | blob (bytes : List UInt8)
  | missing (id : String)
  deriving BEq, Repr

/-- The commit an object is, if it is one. -/
def Obj.commitId? : Obj → Option String
  | .commit id => some id
  | _ => none

/-- The kinds `^{kind}` peels to. -/
inductive Kind where
  | commit | tree | blob | tag | any
  deriving BEq, Repr

/-- The name of a kind, as git writes it. -/
def Kind.name : Kind → String
  | .commit => "commit"
  | .tree => "tree"
  | .blob => "blob"
  | .tag => "tag"
  | .any => "object"

/-- What `^{...}` asks for: a kind, the object itself (`^{}`), or a message search. -/
inductive Peeling where
  | toKind (k : Kind)
  | itself
  | search (text : List Char)

/-- Looking a revision up: the error lines git prints on the way are kept, and a fatal error
ends the lookup. -/
abbrev Lookup := ExceptT String (StateM (List String))

/-- Keeps an error line git prints. -/
def note (line : String) : Lookup Unit := modify (· ++ [line])

/-- Takes the result of a step that may stop git. -/
def fromExcept {α : Type} : Except String α → Lookup α
  | .ok a => pure a
  | .error e => throw e

/-- Whether C counts a character as blank space. -/
def isCSpace (c : Char) : Bool :=
  c == ' ' || ('\t' ≤ c && c ≤ '\r')

/-- The value of a list of decimal digits. -/
def digitsValue (ds : List Char) : Nat :=
  ds.foldl (fun n d => n * 10 + (d.toNat - 48)) 0

/-- The object at a path below a tree: the tree itself for an empty path or a path ending in
`/` after a directory, a file's bytes, or a subtree; none when nothing is there. -/
def pathIn : Tree → List String → Option Obj
  | t, [] => some (.tree t)
  | t, [""] => some (.tree t)
  | t, c :: rest =>
    match t.lookup c with
    | some bytes => if rest.isEmpty then some (.blob bytes) else none
    | none =>
      let sub := t.filterMap fun (p, b) => (p.dropPrefix? (c ++ "/")).map fun q => (q.toString, b)
      if c.isEmpty || sub.isEmpty then none else pathIn sub rest

/-- The parts of a relative path with `.` and empty parts dropped and `..` taken back; none when
it leaves the top. -/
def plainParts (p : String) : Option (List String) :=
  (p.splitOn "/").foldl (fun (acc : Option (List String)) part => do
    let acc ← acc
    if part == "" || part == "." then some acc
    else if part == ".." then (if acc.isEmpty then none else some acc.dropLast)
    else some (acc ++ [part])) (some [])

/-- A path given to a tree or the index: one starting with `./` or `../` is made plain from the
top of the work tree, and stops git when it leaves the top. -/
def plainPath (worktree p : String) : Except String String :=
  if p.startsWith "./" || p.startsWith "../" then
    match plainParts p with
    | some parts => .ok ("/".intercalate parts)
    | none => .error ("'" ++ p ++ "' is outside repository at '" ++ worktree ++ "'")
  else .ok p

/-- Whether a name has an empty part, or ends in a part of dots only: such a name is no ref. -/
def ambiguousPath : List Char → Bool → Bool
  | [], slash => slash
  | '/' :: rest, slash => if slash then true else ambiguousPath rest true
  | '.' :: rest, slash => ambiguousPath rest slash
  | _ :: rest, _ => ambiguousPath rest false

/-- The length of an upstream or push mark a text starts with, in any case. -/
def markLength (cs : List Char) : Option Nat :=
  let lower := cs.map Char.toLower
  if "@\x7bupstream\x7d".toList.isPrefixOf lower then some 11
  else if "@\x7bu\x7d".toList.isPrefixOf lower then some 4
  else if "@\x7bpush\x7d".toList.isPrefixOf lower then some 7
  else none

/-- Reads `@{-N}` at the start of a name: N, with blanks and a sign allowed before it as C reads
numbers, and the length of the mark. -/
def priorMark? (cs : List Char) : Option (Int × Nat) :=
  match cs with
  | '@' :: '\x7b' :: '-' :: rest =>
    let inner := rest.takeWhile (· != '\x7d')
    if inner.length == rest.length then none
    else
      let body := inner.dropWhile isCSpace
      let (negative, ds) := match body with
        | '+' :: d => (false, d)
        | '-' :: d => (true, d)
        | d => (false, d)
      if ds.isEmpty || !ds.all Char.isDigit then none
      else
        let n : Int := digitsValue ds
        some (if negative then -n else n, inner.length + 4)
  | _ => none

/-- The start of the last `@{` of a name that leaves room for a character and the closing
brace. -/
def lastMark? (cs : List Char) : Option Nat :=
  (List.range (cs.length - 3)).reverse.find? fun i =>
    cs[i]? == some '@' && cs[i + 1]? == some '\x7b'

/-- Reads `~N` or `^N` at the end of a name: the name before it, the sign, and the count (one
when no digits follow; none when it does not fit a C `int`). -/
def stepSuffix? (cs : List Char) : Option (List Char × Char × Option Nat) :=
  let rev := cs.reverse
  let ds := (rev.takeWhile Char.isDigit).reverse
  match rev.drop ds.length with
  | c :: restRev =>
    if c == '~' || c == '^' then
      let value := digitsValue ds
      let count := if value > 2147483647 then none else some (if ds.isEmpty then 1 else value)
      some (restRev.reverse, c, count)
    else none
  | [] => none

/-- Reads `^{...}` at the end of a name, at its last `^{`: the name before it and what stands
between the braces. -/
def peelSuffix? (cs : List Char) : Option (List Char × List Char) :=
  if cs.length < 4 || cs.getLast? != some '\x7d' then none
  else
    let sp := (List.range cs.length).reverse.find? fun i =>
      i > 0 && cs[i]? == some '\x7b' && cs[i - 1]? == some '^'
    sp.map fun i => (cs.take (i - 1), (cs.drop (i + 1)).dropLast)

/-- What the text between the braces of `^{...}` asks for. -/
def peeling? (inner : List Char) : Option Peeling :=
  let rest := inner ++ ['\x7d']
  if "commit\x7d".toList.isPrefixOf rest then some (.toKind .commit)
  else if "tag\x7d".toList.isPrefixOf rest then some (.toKind .tag)
  else if "tree\x7d".toList.isPrefixOf rest then some (.toKind .tree)
  else if "blob\x7d".toList.isPrefixOf rest then some (.toKind .blob)
  else if "object\x7d".toList.isPrefixOf rest then some (.toKind .any)
  else if rest.head? == some '\x7d' then some .itself
  else match inner with
    | '/' :: text => some (.search text)
    | _ => none

/-- The hex digits of describe output `...-gHEX` at the end of a name. -/
def describedHex? (cs : List Char) : Option (List Char) :=
  let run := (cs.reverse.takeWhile isHexDigit).length
  if run + 2 ≥ cs.length then none
  else
    let cp := cs.length - 1 - run
    if cs[cp]? == some 'g' && cs[cp - 1]? == some '-' then some (cs.drop (cp + 1)) else none

/-- The first colon of a name outside braces. -/
def colonAt : List Char → Nat → Nat → Option Nat
  | [], _, _ => none
  | c :: rest, i, depth =>
    if c == '\x7b' then colonAt rest (i + 1) (depth + 1)
    else if depth > 0 && c == '\x7d' then colonAt rest (i + 1) (depth - 1)
    else if depth == 0 && c == ':' then some i
    else colonAt rest (i + 1) depth

/-- How a reflog selector that is no count reads as a time, as far as reflogs made moments ago
can tell: the present, any time before them, the start of time, or no time at all. -/
inductive When where
  | present
  | before
  | never
  | unreadable

/-- The names of the months, the special words and the number words git's loose date reader
knows. -/
def monthNames : List String :=
  ["january", "february", "march", "april", "may", "june", "july", "august", "september",
    "october", "november", "december"]

/-- The words the loose date reader takes only in full. -/
def specialWords : List String := ["yesterday", "noon", "midnight", "tea", "pm", "am", "never", "now"]

/-- The number words, and `last`. -/
def numberWords : List String :=
  ["one", "two", "three", "four", "five", "six", "seven", "eight", "nine", "ten", "last"]

/-- Whether a word of letters is one the loose date reader takes: three or more letters of a
month's name, or a special or number word in full. -/
def isDateWord (w : String) : Bool :=
  (w.length ≥ 3 && monthNames.any (w.isPrefixOf ·)) || specialWords.contains w ||
    numberWords.contains w

/-- The runs of letters of a text, each with the letters already read (reversed). -/
def letterRuns : List Char → List Char → List String
  | [], acc => if acc.isEmpty then [] else [String.ofList acc.reverse]
  | c :: rest, acc =>
    if c.isAlpha then letterRuns rest (c :: acc)
    else if acc.isEmpty then letterRuns rest []
    else String.ofList acc.reverse :: letterRuns rest []

/-- Reads a reflog selector that is no count: digits or a known word make it a time. -/
def readWhen (sel : List Char) : When :=
  let lower := sel.map Char.toLower
  let text := String.ofList lower
  if text == "now" then .present
  else if text == "never" then .never
  else if sel.any Char.isDigit || (letterRuns lower []).any isDateWord then .before
  else .unreadable

/-- The commit `n` entries back in a reflog, newest first (the ref's current commit when the log
is empty and `n` is 0); when the log is one entry short and its oldest entry says where the ref
was before, that commit. Otherwise git stops, naming the ref as the revision wrote it. -/
def readLog (current : String) (entries : List LogEntry) (n : Nat) (label : String) :
    Except String String :=
  if n == 0 && entries.isEmpty then .ok current
  else match entries[n]? with
    | some e => .ok e.new
    | none =>
      match entries.getLast?.bind (·.old) with
      | some old =>
        if n == entries.length then .ok old
        else .error ("log for '" ++ label ++ "' only has " ++ toString entries.length ++ " entries")
      | none => .error ("log for '" ++ label ++ "' only has " ++ toString entries.length ++ " entries")

namespace Repo

/-- The object a commit id names here. -/
def objectOf (r : Repo) (id : String) : Obj :=
  if (r.commit? id).isSome then .commit id else .missing id

/-- The tree an object leads to: a commit's tree, or a tree. -/
def treeOfObj (r : Repo) : Obj → Option Tree
  | .commit id => some (r.treeOf (some id))
  | .tree t => some t
  | _ => none

/-- A file of the index, which is the tree `HEAD` stands at. -/
def indexEntry (r : Repo) (path : String) : Option Obj :=
  ((r.treeOf r.headId?).lookup path).map .blob

/-- The one commit whose id starts with some hex digits (four to forty, in either case). -/
def byPrefix? (r : Repo) (hex : List Char) : Option Obj :=
  if hex.length < 4 || hex.length > 40 || !hex.all isHexDigit then none
  else
    let p := (String.ofList hex).toLower
    match r.commits.filter (·.id.startsWith p) with
    | [c] => some (.commit c.id)
    | _ => none

/-- Peels an object to a kind, as `^{kind}` does, a commit reaching its tree: nothing when the
object is missing or cannot reach the kind, and then git says why, naming the revision. -/
def peel (r : Repo) (name : String) (o : Obj) (k : Kind) : Lookup (Option Obj) :=
  match k, o with
  | _, .missing _ => pure none
  | .any, _ | .commit, .commit _ | .tree, .tree _ | .blob, .blob _ => pure (some o)
  | .tree, .commit id => pure (some (.tree (r.treeOf (some id))))
  | _, _ => do
    let reached := match o with
      | .blob _ => "blob"
      | _ => "tree"
    note ("error: " ++ name ++ ": expected " ++ k.name ++
      " type, but the object dereferences to " ++ reached ++ " type")
    pure none

/-- The commit test of a message search: `!-` before the pattern asks for messages that do not
match it, `!!` stands for a `!`, and `!` before anything else is refused, as is a pattern that
cannot be read. -/
def messageTest (text : String) : Option (Commit → Bool) := do
  let (negative, pattern) ← match text.toList with
    | '!' :: '-' :: rest => some (true, String.ofList rest)
    | '!' :: '!' :: rest => some (false, String.ofList ('!' :: rest))
    | '!' :: _ => none
    | _ => some (false, text)
  let re ← Regex.parse pattern
  some fun c => re.search c.message != negative

/-- Walks commits from a queue, the front first, queueing each commit's parent at the back when
it was not seen before, and gives the first that passes a test. Every commit enters the queue
once beyond the starts, so fuel of the starts and the commits is enough. -/
def firstMatching (r : Repo) (test : Commit → Bool) :
    Nat → List String → List String → Option String
  | 0, _, _ => none
  | _ + 1, [], _ => none
  | fuel + 1, id :: queue, seen =>
    match r.commit? id with
    | none => firstMatching r test fuel queue seen
    | some c =>
      if test c then some id
      else match c.parent with
        | some p =>
          if seen.contains p then firstMatching r test fuel queue seen
          else firstMatching r test fuel (queue ++ [p]) (p :: seen)
        | none => firstMatching r test fuel queue seen

/-- The youngest commit from some starts back whose message passes a search. -/
def searchFrom (r : Repo) (text : String) (starts : List String) : Option String := do
  let test ← messageTest text
  r.firstMatching test (starts.length + r.commits.length + 1) starts starts

/-- The starts of a search over all refs: `HEAD`, then the commits of the refs in the reverse
order of their names, as git gathers them. -/
def refCommits (r : Repo) : List String :=
  let names := (r.refs.map (·.1) ++ r.symrefs.map (·.1)).mergeSort fun a b => decide (a ≤ b)
  r.headId?.toList ++ names.reverse.filterMap r.refValue?

/-- The upstream a `@{upstream}` or `@{push}` mark reads for a branch (the current one for an
empty name or `HEAD`), or why there is none. -/
def upstreamOf (r : Repo) (branch : String) : Except String String :=
  let b := if branch.isEmpty || branch == "HEAD" then r.currentBranch? else some branch
  match b with
  | none => .error "HEAD does not point to a branch"
  | some b =>
    match r.upstreams.lookup b with
    | some u => .ok u
    | none =>
      if (r.refs.lookup ("refs/heads/" ++ b)).isSome then
        .error ("no upstream configured for branch '" ++ b ++ "'")
      else .error ("no such branch: '" ++ b ++ "'")

/-- The branch or commit `HEAD` left at the `n`th checkout back, read from the reasons of its
reflog. -/
def priorCheckout? (r : Repo) (n : Nat) : Option String :=
  let moves := ((r.log? "HEAD").getD []).filterMap fun e => do
    let rest ← e.reason.dropPrefix? "checkout: moving from "
    match rest.toString.splitOn " to " with
    | first :: _ :: _ => some first
    | _ => none
  if n == 0 then none else moves[n - 1]?

/-- Looks for upstream and push marks at each `@` of a name, left to right: the first mark
found decides. `@` alone is `HEAD`. -/
def substituteMarks (r : Repo) (quiet : Bool) (cs : List Char) :
    Nat → List Char → Except String (Option String)
  | _, [] => .ok none
  | i, c :: rest =>
    if c != '@' then substituteMarks r quiet cs (i + 1) rest
    else if i == 0 && cs == ['@'] then .ok (some "HEAD")
    else match markLength (c :: rest) with
      | some len =>
        if (cs.take i).contains ':' then substituteMarks r quiet cs (i + 1) rest
        else match r.upstreamOf (String.ofList (cs.take i)) with
          | .ok u => .ok (if i + len == cs.length then some u else none)
          | .error e => if quiet then substituteMarks r quiet cs (i + 1) rest else .error e
      | none => substituteMarks r quiet cs (i + 1) rest

/-- The name a shorthand stands for, when it makes up the whole name: `@{-N}` the branch or
commit of the `N`th checkout back, `@` alone `HEAD`, and upstream and push marks. -/
def substitute (r : Repo) (quiet : Bool) (s : String) : Except String (Option String) :=
  let cs := s.toList
  match priorMark? cs with
  | some (n, len) =>
    if n > 0 then
      match r.priorCheckout? n.toNat with
      | some name => .ok (if len == cs.length then some name else none)
      | none => .ok none
    else r.substituteMarks quiet cs 0 cs
  | none => r.substituteMarks quiet cs 0 cs

/-- The refs a name may stand for, in the order git tries them. -/
def dwimNames (name : String) : List String :=
  [name, "refs/" ++ name, "refs/tags/" ++ name, "refs/heads/" ++ name, "refs/remotes/" ++ name,
    "refs/remotes/" ++ name ++ "/HEAD"]

/-- The first ref a name reaches once shorthands are read: the ref it reads as and its
commit. -/
def dwimRef (r : Repo) (quiet : Bool) (name : String) : Except String (Option (String × String)) := do
  let name := (← r.substitute quiet name).getD name
  pure ((dwimNames name).findSome? fun p => (r.nameValue? p).map fun v => (r.resolvedName p, v))

/-- The first ref a name reaches that keeps a reflog (itself, or the ref it follows): that ref
and its commit. -/
def dwimLog (r : Repo) (name : String) : Except String (Option (String × String)) := do
  let name := (← r.substitute false name).getD name
  pure ((dwimNames name).findSome? fun p => do
    let v ← r.nameValue? p
    if (r.log? p).isSome then some (p, v)
    else
      let q := r.resolvedName p
      if q != p && (r.log? q).isSome then some (q, v) else none)

/-- A name read as a full id, a ref, or a ref with a reflog selector or prior-checkout mark. -/
def basic (r : Repo) (quiet : Bool) (cs : List Char) : Lookup (Option Obj) := do
  let s := String.ofList cs
  if cs.length == 40 && isHex s then return some (r.objectOf s.toLower)
  let found := if cs.getLast? == some '\x7d' then lastMark? cs else none
  let parsed : Option (Bool × Option (List Char × List Char)) := match found with
    | none => some (false, none)
    | some i =>
      if cs[i + 2]? == some '-' then (if i != 0 then none else some (true, none))
      else if (markLength (cs.drop i)).isSome then some (false, none)
      else some (false, some (cs.take i, (cs.drop (i + 2)).dropLast))
  let some (prior, selector) := parsed | return none
  let base := match selector with
    | some (b, _) => b
    | none => cs
  if !base.isEmpty && ambiguousPath base true then return none
  if prior then
    if let some (n, _) := priorMark? cs then
      if n > 0 then
        if let some name := r.priorCheckout? n.toNat then
          if name.length == 40 && isHex name then return some (r.objectOf name.toLower)
  match selector with
  | none =>
    match ← fromExcept (r.dwimRef quiet s) with
    | some (_, v) => return some (r.objectOf v)
    | none => return none
  | some (baseCs, sel) =>
    let ref ← if baseCs.isEmpty then fromExcept (r.dwimRef quiet "HEAD")
      else fromExcept (r.dwimLog (String.ofList baseCs))
    let some (refName, current) := ref | return none
    let label := if baseCs.isEmpty then
        ((refName.dropPrefix? "refs/heads/").map (·.toString)).getD "HEAD"
      else String.ofList baseCs
    let entries := (r.log? refName).getD []
    let oldest := (entries.getLast?.map fun e => e.old.getD e.new).getD current
    if sel.all Char.isDigit then
      let n := digitsValue sel
      if n ≥ 100000000 then
        return some (r.objectOf (if n < 1735689600 then oldest else current))
      else return some (r.objectOf (← fromExcept (readLog current entries n label)))
    else match readWhen sel with
      | .present => return some (r.objectOf current)
      | .before => return some (r.objectOf oldest)
      | .never => throw ("log for '" ++ label ++ "' only has " ++ toString entries.length ++ " entries")
      | .unreadable => return none

/-- An object peeled as `^{...}` asks; `name` is the whole revision, for error lines. -/
def peelAs (r : Repo) (name : String) (o : Obj) : Peeling → Lookup (Option Obj)
  | .toKind k => r.peel name o k
  | .itself => pure (match o with | .missing _ => none | _ => some o)
  | .search text => do
    let some c ← r.peel name o .commit | return none
    match text with
    | [] | '\x7d' :: _ => return some c
    | _ =>
      match c.commitId? with
      | some id => return (r.searchFrom (String.ofList text) [id]).map .commit
      | none => return none

/-- A name read as git reads a revision before looking for colons: steps back, peeling, full
ids and refs, describe output and id prefixes. -/
def lookupOne (r : Repo) (quiet : Bool) : Nat → List Char → Lookup (Option Obj)
  | 0, _ => pure none
  | fuel + 1, cs =>
    match stepSuffix? cs with
    | some (base, sign, count) => do
      let some n := count | return none
      let some o ← lookupOne r quiet fuel base | return none
      let some id := o.commitId? | do
        match o with
        | .tree t => note ("error: object " ++ ObjectId.treeId t ++ " is a tree, not a commit")
        | .blob bytes => note ("error: object " ++ ObjectId.blobId bytes ++ " is a blob, not a commit")
        | _ => pure ()
        return none
      if sign == '^' then
        if n == 0 then return some (.commit id)
        else if n == 1 then return ((r.commit? id).bind (·.parent)).map .commit
        else return none
      else return (r.back n id).map .commit
    | none => do
      let peeled ← match peelSuffix? cs with
        | some (baseCs, inner) =>
          match peeling? inner with
          | some p => do
            match ← lookupOne r quiet fuel baseCs with
            | some o => r.peelAs (String.ofList cs) o p
            | none => pure none
          | none => pure none
        | none => pure none
      if let some o := peeled then return some o
      if let some o ← r.basic quiet cs then return some o
      if let some hex := describedHex? cs then
        if let some o := r.byPrefix? hex then return some o
      return r.byPrefix? cs

/-- The object a revision names in a repository whose work tree is at `worktree`; `quiet` keeps
upstream marks from stopping git. -/
def lookup (r : Repo) (worktree : String) (quiet : Bool) (name : String) : Lookup (Option Obj) := do
  let cs := name.toList
  if let some o ← r.lookupOne quiet (cs.length + 1) cs then return some o
  match cs with
  | ':' :: '/' :: text@(_ :: _) => return (r.searchFrom (String.ofList text) r.refCommits).map .commit
  | ':' :: rest =>
    let (stage, path) := match rest with
      | d :: ':' :: p => if '0' ≤ d && d ≤ '3' then (d.toNat - 48, p) else (0, rest)
      | _ => (0, rest)
    let p ← fromExcept (plainPath worktree (String.ofList path))
    if stage != 0 then return none
    return r.indexEntry p
  | _ =>
    match colonAt cs 0 0 with
    | none => return none
    | some i =>
      let some o ← r.lookupOne quiet (i + 1) (cs.take i) | return none
      let p ← fromExcept (plainPath worktree (String.ofList (cs.drop (i + 1))))
      let some t := r.treeOfObj o | return none
      return pathIn t (p.splitOn "/")

/-- The revision checkout reads: `A...B` as the one best common ancestor of two commits (each
`HEAD` when left out), anything else as `lookup` does. -/
def lookupForCheckout (r : Repo) (worktree name : String) : Lookup (Option Obj) := do
  match Text.splitAtFirst "...".toList name.toList with
  | some (leftCs, rightCs) =>
    let left := String.ofList leftCs
    let right := String.ofList rightCs
    let some one ← r.lookup worktree false (if left.isEmpty then "HEAD" else left) | return none
    let some a := one.commitId? | return none
    let some two ← r.lookup worktree false (if right.isEmpty then "HEAD" else right) | return none
    let some b := two.commitId? | return none
    let fromB := r.ancestry (r.commits.length + 1) b
    return ((r.ancestry (r.commits.length + 1) a).find? fromB.contains).map .commit
  | none => r.lookup worktree false name

end Repo

end AdvisoryTrace.Git
