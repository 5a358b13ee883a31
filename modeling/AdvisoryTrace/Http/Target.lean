/-!
# Request targets

The target of a request is checked before the request is sent, the way an HTTP client library
builds a URI:

* a target starting with `/` is a path, then an optional query after `?`; a fragment after
  `#` is dropped unread. The path may hold the unreserved and sub-delimiter characters, `:`,
  `@`, `[`, `]`, `^`, `|`, `"`, braces and any non-ASCII character; the query may hold every
  visible ASCII character but `"`, `<` and `>`, and any non-ASCII character (delete is in
  neither);
* `*` alone is the asterisk form, and one other character an authority;
* otherwise a scheme (letters, digits, `+`, `-`, `.` before `://`) may lead; what follows is
  an authority up to the first `/`, `?` or `#`, then a path and query as above; nothing at
  all after the scheme is an empty target. Without a scheme the authority must be the whole
  target.

An authority may hold the URI characters (with `%` only in credentials or a zone), at most one
port colon outside brackets, balanced brackets, and something after its `@`.

The path of a target without one is empty, and `/` when a scheme leads.
-/

namespace AdvisoryTrace.Http

/-- Why a target is refused, worded as the client library words it. -/
inductive TargetError where
  | empty
  | tooLong
  | invalidCharacter
  | invalidAuthority
  | invalidFormat
  | schemeTooLong
  deriving BEq, Repr

/-- The wording of a refusal. -/
def TargetError.text : TargetError → String
  | .empty => "empty string"
  | .tooLong => "uri too long"
  | .invalidCharacter => "invalid uri character"
  | .invalidAuthority => "invalid authority"
  | .invalidFormat => "invalid format"
  | .schemeTooLong => "scheme too long"

/-- A checked target: the path, and the query when there is a `?`. -/
structure Target where
  path : String
  query : Option String := none
  deriving BEq, Repr

/-- The longest target taken, in bytes. -/
def maxLength : Nat := 65534

/-- The longest scheme taken. -/
def maxSchemeLength : Nat := 64

/-- Whether a character may stand in a scheme. -/
def isSchemeChar (c : Char) : Bool :=
  (c.toNat < 128 && c.isAlphanum) || c == '+' || c == '-' || c == '.'

/-- Whether a character is one of the URI characters an authority is made of. -/
def isUriChar (c : Char) : Bool :=
  let b := c.toNat
  (48 ≤ b && b ≤ 59) || (63 ≤ b && b ≤ 91) || (97 ≤ b && b ≤ 122) ||
    [33, 35, 36, 38, 39, 40, 41, 42, 43, 44, 45, 46, 47, 61, 93, 95, 126].contains b

/-- Whether a character may stand in a path unencoded. -/
def isPathChar (c : Char) : Bool :=
  let b := c.toNat
  b == 0x21 || (0x24 ≤ b && b ≤ 0x3B) || b == 0x3D || (0x40 ≤ b && b ≤ 0x5F) ||
    (0x61 ≤ b && b ≤ 0x7A) || b == 0x7C || b == 0x7E || b ≥ 0x80 || b == 0x22 || b == 0x7B ||
    b == 0x7D

/-- Whether a character may stand in a query unencoded. -/
def isQueryChar (c : Char) : Bool :=
  let b := c.toNat
  b == 0x21 || (0x24 ≤ b && b ≤ 0x3B) || b == 0x3D || (0x3F ≤ b && b ≤ 0x7E) || b ≥ 0x80

/-- Where a scheme ends: the index of its colon when `://` follows a run of scheme characters
in a target of more than three bytes, or none. The common schemes `http` and `https` are
recognised in any case. -/
def schemeEnd (cs : List Char) (bytes : Nat) : Except TargetError (Option Nat) :=
  let lower := cs.map Char.toLower
  if "http://".toList.isPrefixOf lower then .ok (some 4)
  else if "https://".toList.isPrefixOf lower then .ok (some 5)
  else if bytes ≤ 3 then .ok none
  else
    let i := (cs.takeWhile isSchemeChar).length
    match cs.drop i with
    | ':' :: '/' :: '/' :: _ => if i > maxSchemeLength then .error .schemeTooLong else .ok (some i)
    | _ => .ok none

/-- The state of reading an authority: port colons since the last `@` or `]`, brackets seen,
a `%` not yet explained, and where the last `@` was. -/
structure AuthorityScan where
  colons : Nat := 0
  opened : Bool := false
  closed : Bool := false
  percent : Bool := false
  at? : Option Nat := none

/-- Reads an authority from the start of a target: how many bytes it takes. -/
def authorityLength (cs : List Char) : Except TargetError Nat := do
  let step : Except TargetError (AuthorityScan × Option Nat) → Char × Nat →
      Except TargetError (AuthorityScan × Option Nat) := fun acc (c, i) => do
    let (s, stop) ← acc
    if stop.isSome then return (s, stop)
    if c == '/' || c == '?' || c == '#' then return (s, some i)
    if c == '%' then return ({ s with percent := true }, none)
    if !isUriChar c then throw .invalidCharacter
    if c == ':' then
      if s.colons ≥ 8 then throw .invalidAuthority
      return ({ s with colons := s.colons + 1 }, none)
    if c == '[' then
      if s.percent || s.opened then throw .invalidAuthority
      return ({ s with opened := true }, none)
    if c == ']' then
      if !s.opened || s.closed then throw .invalidAuthority
      return ({ s with closed := true, colons := 0, percent := false }, none)
    if c == '@' then return ({ s with at? := some i, colons := 0, percent := false }, none)
    return (s, none)
  let (s, stop) ← cs.zipIdx.foldl step (.ok ({}, none))
  let stopAt := stop.getD cs.length
  if s.opened != s.closed then throw .invalidAuthority
  if s.colons > 1 then throw .invalidAuthority
  if stopAt > 0 && s.at? == some (stopAt - 1) then throw .invalidAuthority
  if s.percent then throw .invalidAuthority
  return stopAt

/-- Reads a path and query (a fragment is dropped). -/
def pathAndQuery (cs : List Char) : Except TargetError Target := do
  let path := cs.takeWhile fun c => c != '?' && c != '#'
  if !path.all isPathChar then throw .invalidCharacter
  match cs.drop path.length with
  | '?' :: rest =>
    let query := rest.takeWhile (· != '#')
    if !query.all isQueryChar then throw .invalidCharacter
    return { path := String.ofList path, query := some (String.ofList query) }
  | _ => return { path := String.ofList path }

/-- Checks a request target. -/
def Target.read (target : String) : Except TargetError Target := do
  let cs := target.toList
  if target.utf8ByteSize > maxLength then throw .tooLong
  match cs with
  | [] => throw .empty
  | ['/'] => return { path := "/" }
  | ['*'] => return { path := "*" }
  | [_] =>
    if (← authorityLength cs) != 1 then throw .invalidCharacter
    return { path := "" }
  | '/' :: _ => pathAndQuery cs
  | _ =>
    match ← schemeEnd cs target.utf8ByteSize with
    | none =>
      if (← authorityLength cs) != cs.length then throw .invalidFormat
      return { path := "" }
    | some i =>
      let rest := cs.drop (i + 3)
      if rest.isEmpty then throw .empty
      let n ← authorityLength rest
      if n == 0 then throw .invalidFormat
      let t ← pathAndQuery (rest.drop n)
      return { t with path := if t.path.isEmpty then "/" else t.path }

end AdvisoryTrace.Http
