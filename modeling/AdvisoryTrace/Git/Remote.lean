/-!
# Remote addresses

How git reaches a repository from the address of a remote, when the address is not a local
repository or bundle that clone finds on its own:

* `NAME::ADDRESS` hands the address to the remote helper `NAME`;
* an address starting `rsync:` is refused;
* `SCHEME://...` is a URL: `file` is read from the disk, `ssh` (also `git+ssh` and `ssh+git`) and
  `git` are spoken by git itself, and any other scheme goes to the remote helper of its name;
* an address with a `/` before its first `:`, or with no `:`, is a local path;
* any other, `[USER@]HOST:PATH`, is reached over ssh.

Nothing but the disk can be reached: a host name does not resolve, and the loopback host
refuses every connection. The helpers are those git ships: `http`, `https`, `ftp` and `ftps`
(which fail to connect the same way), `fd` (which takes no URL) and `ext` (which is not allowed).
For a helper git does not have, git names the helpers closest to it by an edit distance.
-/

namespace AdvisoryTrace.Git.Remote

/-- Where an address leads. -/
inductive Route where
  /-- A path of the local disk, served there. -/
  | localPath
  /-- A `file://` URL. -/
  | fileUrl
  /-- Nothing; git stops with status 128 and says why. -/
  | refused (why : String)
  deriving BEq, Repr

/-- Whether a character may stand in a URL scheme: a letter or digit, or after the first one
also `+`, `-` or `.`. -/
def isSchemeChar (first : Bool) (c : Char) : Bool :=
  c.isAlphanum || (!first && (c == '+' || c == '-' || c == '.'))

/-- The scheme characters at the start of an address and what follows them. -/
def schemeSplit (cs : List Char) : List Char × List Char :=
  match cs with
  | c :: rest =>
    if isSchemeChar true c then
      let more := rest.takeWhile (isSchemeChar false)
      (c :: more, rest.drop more.length)
    else ([], cs)
  | [] => ([], [])

/-- The scheme of a URL: an address that is a scheme and `://`. -/
def urlScheme? (cs : List Char) : Option String :=
  match schemeSplit cs with
  | ([], _) => none
  | (scheme, ':' :: '/' :: '/' :: _) => some (String.ofList scheme)
  | _ => none

/-- The helper an address names with `NAME::`, and the address after it. -/
def helperPrefix? (cs : List Char) : Option (String × List Char) :=
  match schemeSplit cs with
  | ([], _) => none
  | (name, ':' :: ':' :: rest) => some (String.ofList name, rest)
  | _ => none

/-- Whether an address without a scheme is a local path: it has no `:`, or a `/` before it. -/
def isLocalPath (cs : List Char) : Bool :=
  match cs.findIdx? (· == ':') with
  | none => true
  | some colon =>
    match cs.findIdx? (· == '/') with
    | some slash => slash < colon
    | none => false

/-- The distance git measures between a mistyped command and a command: turning the first into
the second, a swap of neighbours costs nothing, a substitution 2, an insertion 1 and a deletion
3. It runs row by row over the first word, keeping the two rows before. -/
def editDistance (a b : List Char) : Nat :=
  let aa := a.toArray
  let bb := b.toArray
  let first : Array Nat := (List.range (b.length + 1)).toArray
  let (_, last) := (List.range a.length).foldl (fun (rows : Array Nat × Array Nat) i =>
    let (row0, row1) := rows
    let row2 := (List.range b.length).foldl (fun (row2 : Array Nat) j =>
      let substituted := row1.getD j 0 + (if aa[i]? != bb[j]? then 2 else 0)
      let swapped :=
        if i > 0 && j > 0 && aa[i - 1]? == bb[j]? && aa[i]? == bb[j - 1]? &&
            substituted > row0.getD (j - 1) 0 then row0.getD (j - 1) 0
        else substituted
      let deleted := min swapped (row1.getD (j + 1) 0 + 3)
      row2.push (min deleted (row2.getD j 0 + 1))) #[(i + 1) * 3]
    (row1, row2)) (first, first)
  last.getD b.length 0

/-- The remote helpers and the command nearest them that git has. -/
def helperCommands : List String :=
  ["remote", "remote-ext", "remote-fd", "remote-ftp", "remote-ftps", "remote-http", "remote-https"]

/-- The commands git suggests for one it does not have: those at the least distance (plus one),
when that is under 7, by name. -/
def similarCommands (cmd : String) : List String :=
  let scored := helperCommands.map fun c => (editDistance cmd.toList c.toList + 1, c)
  match (scored.map (·.1)).min? with
  | some best =>
    if best < 7 then ((scored.filter (·.1 == best)).map (·.2)).mergeSort (fun x y => decide (x ≤ y))
    else []
  | none => []

/-- What git says when a command it was asked to run does not exist. -/
def unknownCommand (cmd : String) : String :=
  let line := "git: '" ++ cmd ++ "' is not a git command. See 'git --help'.\n"
  match similarCommands cmd with
  | [] => line
  | [one] => line ++ "\nThe most similar command is\n\t" ++ one ++ "\n"
  | many => line ++ "\nThe most similar commands are\n" ++ String.join (many.map ("\t" ++ · ++ "\n"))

/-- What the fetching side says when the serving side could not be reached. -/
def readFailure (why : String) : String :=
  why ++ "\n" ++ "fatal: Could not read from remote repository.\n\n" ++
    "Please make sure you have the correct access rights\nand the repository exists.\n"

/-- A host and its port, cut from `HOST[:PORT]`, a bracketed host losing its brackets. -/
def hostPort (cs : List Char) : String × Option String :=
  match cs with
  | '[' :: rest =>
    let inside := rest.takeWhile (· != ']')
    let after := rest.drop (inside.length + 1)
    (String.ofList inside, match after with
      | ':' :: port => some (String.ofList port)
      | _ => none)
  | _ =>
    let host := cs.takeWhile (· != ':')
    (String.ofList host, match cs.drop host.length with
      | ':' :: port => some (String.ofList port)
      | _ => none)

/-- The part of an authority after the user, which ends at its last `@`. -/
def withoutUser (cs : List Char) : List Char :=
  match cs.reverse.findIdx? (· == '@') with
  | some k => cs.drop (cs.length - k)
  | none => cs

/-- Whether a host is this machine: `localhost`, an address `127.*`, or `::1`. -/
def isLoopback (host : String) : Bool :=
  host == "localhost" || host.startsWith "127." || host == "::1"

/-- Whether a host is written as an IPv4 address. -/
def isNumericHost (host : String) : Bool :=
  !host.isEmpty && host.toList.all fun c => c.isDigit || c == '.'

/-- What the curl helpers say for a URL: none of its hosts can be reached. The URL is shown
without its user and with a `/` at the end. -/
def curlFailure (scheme : String) (rest : List Char) : String :=
  let authority := rest.takeWhile (· != '/')
  let path := rest.drop authority.length
  let shownAuthority := withoutUser authority
  let (host, port) := hostPort shownAuthority
  let shown := scheme ++ "://" ++ String.ofList shownAuthority ++ String.ofList path
  let shown := if shown.endsWith "/" then shown else shown ++ "/"
  let defaultPort := match scheme with
    | "http" => "80"
    | "https" => "443"
    | "ftp" => "21"
    | _ => "990"
  let why := if isLoopback host || isNumericHost host then
      "Failed to connect to " ++ host ++ " port " ++ port.getD defaultPort ++
        " after 0 ms: Couldn't connect to server"
    else "Could not resolve host: " ++ host
  "fatal: unable to access '" ++ shown ++ "': " ++ why ++ "\n"

/-- What a remote helper does with an address. -/
def helperRoute (name : String) (address : List Char) : Route :=
  if ["http", "https", "ftp", "ftps"].contains name then
    match urlScheme? address with
    | some scheme => .refused (curlFailure scheme (address.drop (scheme.length + 3)))
    | none =>
      let shown := String.ofList address ++ (if address.getLast? == some '/' then "" else "/")
      .refused ("warning: url has no scheme: " ++ shown ++ "\nfatal: credential url cannot be parsed: " ++
        shown ++ "\n")
  else if name == "ext" then .refused "fatal: transport 'ext' not allowed\n"
  else if name == "fd" then .refused "fatal: Bad URL syntax\n"
  else .refused (unknownCommand ("remote-" ++ name))

/-- What ssh says for a host and port it cannot reach. -/
def sshFailure (host port : String) : String :=
  if isLoopback host then
    readFailure ("ssh: connect to host " ++ host ++ " port " ++ port ++ ": Connection refused\r")
  else if isNumericHost host then
    readFailure ("ssh: connect to host " ++ host ++ " port " ++ port ++ ": Network is unreachable\r")
  else readFailure ("ssh: Could not resolve hostname " ++ host.toLower ++
    ": Temporary failure in name resolution\r")

/-- The route over ssh to a host (with its user) and a path. -/
def sshRoute (userHost : List Char) (port : Option String) (path : List Char) : Route :=
  let (host, _) := hostPort (withoutUser userHost)
  if path.isEmpty then .refused "fatal: no path specified; see 'git help pull' for valid url syntax\n"
  else if path.head? == some '-' then .refused ("fatal: strange pathname '" ++ String.ofList path ++ "' blocked\n")
  else if userHost.head? == some '-' then
    .refused ("fatal: strange hostname '" ++ String.ofList userHost ++ "' blocked\n")
  else .refused (sshFailure host (port.getD "22"))

/-- The route of a URL whose scheme git speaks itself, given what follows `://`. -/
def builtinRoute (scheme : String) (rest : List Char) : Route :=
  let authority := rest.takeWhile (· != '/')
  let path := rest.drop authority.length
  let (_, port) := hostPort (withoutUser authority)
  if scheme == "git" then
    let (host, _) := hostPort authority
    if path.isEmpty then .refused "fatal: no path specified; see 'git help pull' for valid url syntax\n"
    else if isLoopback host then
      let address := if host == "::1" then "::1" else "127.0.0.1"
      .refused ("fatal: unable to connect to " ++ host ++ ":\n" ++ host ++ "[0: " ++ address ++
        "]: errno=Connection refused\n")
    else .refused ("fatal: unable to look up " ++ host ++ " (port " ++ port.getD "9418" ++
      ") (Temporary failure in name resolution)\n")
  else
    let userHost := match authority.reverse.findIdx? (· == ':'), authority.contains ']' with
      | some k, false => authority.take (authority.length - k - 1)
      | _, _ => authority
    sshRoute userHost port path

/-- The route of an address. -/
def route (url : String) : Route :=
  let cs := url.toList
  match urlScheme? cs, helperPrefix? cs with
  | none, some (name, rest) => helperRoute name rest
  | scheme, _ =>
    if url.startsWith "rsync:" then .refused "fatal: git-over-rsync is no longer supported\n"
    else match scheme with
      | some "file" => .fileUrl
      | some "ssh" | some "git+ssh" | some "ssh+git" | some "git" =>
        builtinRoute (if scheme == some "git" then "git" else "ssh") (cs.drop ((scheme.getD "").length + 3))
      | some other => helperRoute other cs
      | none =>
        if isLocalPath cs then .localPath
        else
          let userHost := match cs with
            | '[' :: _ => cs.takeWhile (· != ']') ++ [']']
            | _ => cs.takeWhile (· != ':')
          let rest := cs.drop userHost.length
          sshRoute userHost none (rest.drop 1)

end AdvisoryTrace.Git.Remote
