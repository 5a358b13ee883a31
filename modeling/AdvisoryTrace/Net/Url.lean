import AdvisoryTrace.Net.Idna

/-!
# URLs

Reading a URL text without a base, as the URL standard does it, and writing it back in its
canonical form; then adding a query pair, as an HTML form encodes it.

Reading first drops the control characters and spaces at either end and every tab and line
break. A URL then starts with its scheme (a letter, then letters, digits, `+`, `-` or `.`) and
a colon; the scheme is written in lower case.

For the special schemes (`http`, `https`, `ws`, `wss`, `ftp`, `file`) the slashes after the
colon do not matter, and the authority runs to the next `/`, `\`, `?` or `#`. It holds
credentials before its last `@`, then a host and an optional port. The host is an IPv6 address
in brackets, an IPv4 address when its last label is a number (parts may be octal or
hexadecimal, and the last part fills the bytes left), or a domain, percent-decoded and written
in ASCII as international domain names are. The default port of the scheme is dropped. Other
schemes keep their host as written, and may leave it empty after `//`; a URL with no `//` after
the scheme keeps its path whole instead of cutting it into segments.

The path is cut into segments at `/` (and at `\` for the special schemes); a segment `.` is
dropped and a segment `..` removes the segment before it, unless that one looks like a drive
letter (a letter, then `:` or `|`). A `file` URL writes a drive letter that starts its path with
`:`. Characters that may not stand in a part are percent-encoded as UTF-8 bytes; the sets differ
by part.

A text that is not a URL is refused with the reason: no scheme, an empty host where one is
needed (or credentials or a port with none), a port that is not a number up to 65535, a bad
address, a bad domain.
-/

namespace AdvisoryTrace.Net

/-- The host of a URL. -/
inductive Host where
  | domain (name : String)
  | ipv4 (address : Nat)
  | ipv6 (pieces : List Nat)
  /-- A host that is kept as written (for schemes that are not special). -/
  | verbatim (text : String)
  deriving BEq, Repr

/-- A URL, in parts. -/
structure Url where
  scheme : String
  username : String := ""
  password : String := ""
  host : Option Host := none
  port : Option Nat := none
  /-- The path segments, or the path of a URL without a host, kept whole. -/
  path : Sum (List String) String := .inl []
  query : Option String := none
  fragment : Option String := none
  deriving BEq, Repr

/-- Why a text is not a URL, as the URL reader words it. -/
inductive UrlError where
  | emptyHost
  | idna
  | invalidPort
  | invalidIpv4
  | invalidIpv6
  | invalidDomainCharacter
  | relativeWithoutBase
  deriving BEq, Repr

/-- The wording of a refusal. -/
def UrlError.text : UrlError → String
  | .emptyHost => "empty host"
  | .idna => "invalid international domain name"
  | .invalidPort => "invalid port number"
  | .invalidIpv4 => "invalid IPv4 address"
  | .invalidIpv6 => "invalid IPv6 address"
  | .invalidDomainCharacter => "invalid domain character"
  | .relativeWithoutBase => "relative URL without a base"

namespace Url

/-- The special schemes with their default ports (none for `file`). -/
def specialSchemes : List (String × Option Nat) :=
  [("ftp", some 21), ("file", none), ("http", some 80), ("https", some 443), ("ws", some 80),
    ("wss", some 443)]

/-- Whether a scheme is special. -/
def isSpecial (scheme : String) : Bool := (specialSchemes.lookup scheme).isSome

/-- An upper-case hexadecimal digit. -/
def hexUpper (n : Nat) : Char :=
  if n < 10 then Char.ofNat (48 + n) else Char.ofNat (55 + n)

/-- A byte as `%XX`. -/
def percentByte (b : UInt8) : List Char :=
  ['%', hexUpper (b.toNat / 16), hexUpper (b.toNat % 16)]

/-- The UTF-8 bytes of a character. -/
def utf8 (c : Char) : List UInt8 := (String.singleton c).toUTF8.toList

/-- Whether a character is a C0 control or lies beyond `~`: always percent-encoded. -/
def isControl (c : Char) : Bool := c.toNat < 0x20 || c.toNat > 0x7E

/-- The characters the fragment encodes. -/
def inFragmentSet (c : Char) : Bool := isControl c || " \"<>`".contains c

/-- The characters the query encodes. -/
def inQuerySet (c : Char) : Bool := isControl c || " \"#<>".contains c

/-- The characters the query of a special URL encodes. -/
def inSpecialQuerySet (c : Char) : Bool := inQuerySet c || c == '\''

/-- The characters a path segment encodes. -/
def inPathSet (c : Char) : Bool := inFragmentSet c || "#?\x7b\x7d".contains c

/-- The characters credentials encode. -/
def inUserinfoSet (c : Char) : Bool := inPathSet c || "/:;=@[\\]^|".contains c

/-- Percent-encodes the characters of a set. -/
def encodeWith (set : Char → Bool) (cs : List Char) : String :=
  String.ofList (cs.flatMap fun c => if set c then (utf8 c).flatMap percentByte else [c])

/-- The value of a hexadecimal digit. -/
def hexValue (c : Char) : Option Nat :=
  if c.isDigit then some (c.toNat - 48)
  else if 'a' ≤ c && c ≤ 'f' then some (c.toNat - 87)
  else if 'A' ≤ c && c ≤ 'F' then some (c.toNat - 55)
  else none

/-- The bytes of a text with its `%XX` escapes decoded. -/
def percentDecode : List UInt8 → List UInt8
  | [] => []
  | b :: h :: l :: more =>
    if b == 37 then
      match hexValue (Char.ofNat h.toNat), hexValue (Char.ofNat l.toNat) with
      | some x, some y => UInt8.ofNat (x * 16 + y) :: percentDecode more
      | _, _ => b :: percentDecode (h :: l :: more)
    else b :: percentDecode (h :: l :: more)
  | b :: rest => b :: percentDecode rest

/-- Cuts a character list at every character of a set. -/
def splitAt (stop : Char → Bool) : List Char → List (List Char)
  | [] => [[]]
  | c :: rest =>
    let parts := splitAt stop rest
    if stop c then [] :: parts
    else match parts with
      | p :: ps => (c :: p) :: ps
      | [] => [[c]]

/-- The characters no host may hold. -/
def isForbiddenHost (c : Char) : Bool :=
  "\x00\t\n\r #/:<>?@[\\]^|".contains c

/-- Reads one part of an IPv4 host: decimal, octal after a `0`, hexadecimal after `0x`. A part
with a character that is not a digit of its base is not a number (none); a number of 32 bits
or more is read, but has no value (`some none`). -/
def ipv4Number (s : String) : Option (Option Nat) :=
  let cs := s.toList
  if cs.isEmpty then none
  else
    let (radix, digits) := match cs with
      | '0' :: 'x' :: rest | '0' :: 'X' :: rest => (16, rest)
      | '0' :: rest@(_ :: _) => (8, rest)
      | _ => (10, cs)
    let values := digits.map fun c =>
      if radix == 16 then hexValue c
      else if c.isDigit && c.toNat - 48 < radix then some (c.toNat - 48) else none
    if values.any (·.isNone) then none
    else
      let v := values.foldl (fun acc d => acc * radix + d.getD 0) 0
      some (if v < Nat.pow 2 32 then some v else none)

/-- Whether a domain ends in a number, so that it must be an IPv4 address. -/
def endsInNumber (s : String) : Bool :=
  let parts := (s.splitOn ".").reverse
  let last := match parts with
    | "" :: next :: _ => some next
    | "" :: _ => none
    | p :: _ => some p
    | [] => none
  match last with
  | none => false
  | some l => (!l.isEmpty && l.toList.all Char.isDigit) || (ipv4Number l).isSome

/-- Reads an IPv4 host as its 32-bit address. -/
def parseIpv4 (s : String) : Option Nat := do
  let parts := s.splitOn "."
  let parts := if parts.getLast? == some "" && parts.length > 1 then parts.dropLast else parts
  if parts.length > 4 then none
  let numbers ← parts.mapM fun p => (ipv4Number p).join
  let last ← numbers.getLast?
  let front := numbers.dropLast
  if last ≥ Nat.pow 256 (4 - front.length) then none
  if front.any (· > 255) then none
  return front.zipIdx.foldl (fun acc (n, i) => acc + n * Nat.pow 256 (3 - i)) last

/-- Reads up to four hexadecimal digits at the front: their value, their count, and what
follows. -/
def hexPiece (cs : List Char) : Nat × Nat × List Char :=
  let ds := (cs.take 4).takeWhile (hexValue · |>.isSome)
  (ds.foldl (fun acc c => acc * 16 + (hexValue c).getD 0) 0, ds.length, cs.drop ds.length)

/-- An IPv6 host part way through: its eight pieces, the index of the next piece, and the index
after the `::`, if one was read. -/
structure Ipv6Reading where
  pieces : List Nat
  next : Nat
  compress : Option Nat

/-- Reads the decimal numbers of a dotted IPv4 tail into the pieces, two numbers to a piece;
`seen` counts the numbers read. Each round reads at least one digit, so the fuel (one more than
the characters) is enough. -/
def ipv6Dotted : Nat → List Char → Ipv6Reading → Nat → Option Ipv6Reading
  | 0, _, _, _ => none
  | _ + 1, [], st, seen => if seen == 4 then some st else none
  | fuel + 1, cs, st, seen => do
    let cs ← if seen == 0 then some cs
      else match cs with
        | '.' :: r => if seen < 4 then some r else none
        | _ => none
    let ds := cs.takeWhile Char.isDigit
    if ds.isEmpty || (ds.length > 1 && ds.head? == some '0') then none
    let v := ds.foldl (fun acc c => acc * 10 + (c.toNat - 48)) 0
    if v > 255 then none
    let piece := (st.pieces[st.next]?).getD 0 * 256 + v
    let st := { st with pieces := st.pieces.set st.next piece }
    let st := if seen + 1 == 2 || seen + 1 == 4 then { st with next := st.next + 1 } else st
    ipv6Dotted fuel (cs.drop ds.length) st (seen + 1)

/-- Reads the pieces of an IPv6 host, one piece or `::` at a time. -/
def ipv6Groups : Nat → List Char → Ipv6Reading → Option Ipv6Reading
  | 0, _, _ => none
  | _ + 1, [], st => some st
  | fuel + 1, cs@(c :: rest), st =>
    if st.next == 8 then none
    else if c == ':' then
      if st.compress.isSome then none
      else ipv6Groups fuel rest { st with next := st.next + 1, compress := some (st.next + 1) }
    else
      let (value, used, after) := hexPiece cs
      let stored := { st with pieces := st.pieces.set st.next value, next := st.next + 1 }
      match after with
      | '.' :: _ => if used == 0 || st.next > 6 then none else ipv6Dotted (cs.length + 1) cs st 0
      | ':' :: more => if more.isEmpty then none else ipv6Groups fuel more stored
      | [] => some stored
      | _ => none

/-- Reads an IPv6 host (between its brackets) as its eight pieces. -/
def parseIpv6 (s : String) : Option (List Nat) := do
  let cs := s.toList
  if cs.length < 2 then none
  let start : Ipv6Reading := ⟨List.replicate 8 0, 0, none⟩
  let (cs, start) ← match cs with
    | ':' :: ':' :: rest => some (rest, { start with next := 1, compress := some 1 })
    | ':' :: _ => none
    | _ => some (cs, start)
  let st ← ipv6Groups (cs.length + 1) cs start
  match st.compress with
  | some k =>
    some (st.pieces.take k ++ List.replicate (8 - st.next) 0 ++ (st.pieces.drop k).take (st.next - k))
  | none => if st.next == 8 then some st.pieces else none

/-- Reads the address between the brackets of an IPv6 host. -/
def bracketed (text : String) : Except UrlError Host :=
  if !text.endsWith "]" then .error .invalidIpv6
  else match parseIpv6 ((text.drop 1).dropEnd 1).toString with
    | some pieces => .ok (.ipv6 pieces)
    | none => .error .invalidIpv6

/-- Reads the host of a special URL. A domain is percent-decoded and written in ASCII as an
international domain name; one that is not UTF-8 or that the name rules refuse is a bad
international name. -/
def parseHost (text : String) : Except UrlError Host :=
  if text.startsWith "[" then bracketed text
  else do
    let bytes := percentDecode text.toUTF8.toList
    let some decoded := String.fromUTF8? (ByteArray.mk bytes.toArray) | throw .idna
    let some domain := Idna.toAscii decoded.toList | throw .idna
    if domain.isEmpty then throw .emptyHost
    if endsInNumber domain then
      match parseIpv4 domain with
      | some a => return .ipv4 a
      | none => throw .invalidIpv4
    else return .domain domain

/-- Reads the host of a URL whose scheme is not special: kept as written, encoded. -/
def parseVerbatimHost (text : String) : Except UrlError Host :=
  if text.startsWith "[" then bracketed text
  else if text.toList.any isForbiddenHost then .error .invalidDomainCharacter
  else .ok (.verbatim (encodeWith isControl text.toList))

/-- Whether a segment, as encoded, is `.`. -/
def isSingleDot (s : String) : Bool := s == "." || s.toLower == "%2e"

/-- Whether a segment, as encoded, is `..`. -/
def isDoubleDot (s : String) : Bool :=
  let l := s.toLower
  l == ".." || l == ".%2e" || l == "%2e." || l == "%2e%2e"

/-- Whether a text is a drive letter: an ASCII letter, then `:` or `|`. -/
def isDriveLetter (cs : List Char) : Bool :=
  match cs with
  | [a, b] => a.toNat < 0x80 && a.isAlpha && (b == ':' || b == '|')
  | _ => false

/-- Whether a text starts with a drive letter that ends there or before `/`, `\`, `?` or `#`. -/
def startsWithDriveLetter (cs : List Char) : Bool :=
  isDriveLetter (cs.take 2) && match cs.drop 2 with
    | [] => true
    | c :: _ => "/\\?#".contains c

/-- Adds the segments of a path text to a path, resolving `.` and `..`, and tells whether a
drive letter was written as the first segment. A `..` after a segment that looks like a drive
letter keeps it; in a `file` URL a drive letter that comes when the path is empty is written
with `:`. -/
def addSegmentsNoting (special file : Bool) (text : List Char) (path : List String) :
    List String × Bool :=
  let raw := splitAt (fun c => c == '/' || (special && c == '\\')) text
  let n := raw.length
  raw.zipIdx.foldl (fun (path, drive) (seg, i) =>
    let seg := encodeWith inPathSet seg
    let last := i + 1 == n
    if isDoubleDot seg then
      let kept := match path.getLast? with
        | some prev => if startsWithDriveLetter (prev.toList ++ ['/']) then path else path.dropLast
        | none => path
      (kept ++ (if last then [""] else []), drive)
    else if isSingleDot seg then (path ++ (if last then [""] else []), drive)
    else if file && path.isEmpty && isDriveLetter seg.toList then
      (path ++ [String.ofList (seg.toList.take 1 ++ [':'])], true)
    else (path ++ [seg], drive)) (path, false)

/-- Adds the segments of a path text to a path, resolving `.` and `..`. -/
def addSegments (special file : Bool) (text : List Char) (path : List String) : List String :=
  (addSegmentsNoting special file text path).1

/-- Splits off the part of a text before the first character of a set. -/
def cut (stop : Char → Bool) (cs : List Char) : List Char × List Char :=
  (cs.takeWhile (!stop ·), cs.dropWhile (!stop ·))

/-- Reads the query and fragment after the path. -/
def tail (special : Bool) (cs : List Char) : Option String × Option String :=
  match cs with
  | '?' :: rest =>
    let (q, r) := cut (· == '#') rest
    (some (encodeWith (if special then inSpecialQuerySet else inQuerySet) q),
      match r with | _ :: f => some (encodeWith inFragmentSet f) | [] => none)
  | '#' :: f => (none, some (encodeWith inFragmentSet f))
  | _ => (none, none)

/-- What an authority holds: credentials, a host (the empty host of a scheme that is not
special is `.verbatim ""`), a port, and what follows the port but belongs to the path (a port
ends at a `\\`). -/
structure Authority where
  username : String
  password : String
  host : Host
  port : Option Nat
  rest : List Char

/-- Reads a port: decimal digits up to 65535, ending the text or before a `\\`. The default port
of the scheme is dropped, and so is an empty port. -/
def readPort (scheme : String) (cs : List Char) : Except UrlError (Option Nat × List Char) := do
  let ds := cs.takeWhile Char.isDigit
  let rest := cs.drop ds.length
  if !(rest.isEmpty || rest.head? == some '\\') then throw .invalidPort
  let v : Nat := ds.foldl (fun acc c => acc * 10 + (c.toNat - 48)) 0
  if v > 65535 then throw .invalidPort
  if ds.isEmpty || (specialSchemes.lookup scheme).join == some v then return (none, rest)
  return (some v, rest)

/-- Splits a host and port at the first `:` outside brackets. -/
def splitPort : Bool → List Char → List Char → List Char × Option (List Char)
  | _, [], acc => (acc.reverse, none)
  | inside, c :: rest, acc =>
    if c == ':' && !inside then (acc.reverse, some rest)
    else splitPort (if c == '[' then true else if c == ']' then false else inside) rest (c :: acc)

/-- Reads the credentials, host and port of an authority; `atEnd` tells whether the URL text
ends with it. Credentials are what stands before the last `@`, the username up to the first
`:`. An `@` alone before a `/`, `?` or `#` leaves the host empty, as do credentials or a port
with no host; only a scheme that is not special may have an empty host. -/
def authority (scheme : String) (text : List Char) (atEnd : Bool) : Except UrlError Authority := do
  let special := isSpecial scheme
  let (userinfo, hostport) :=
    if text.contains '@' then
      let i := text.length - 1 - (text.reverse.idxOf '@')
      (some (text.take i), text.drop (i + 1))
    else (none, text)
  let (user, pass) := match userinfo with
    | some u => (encodeWith inUserinfoSet (u.takeWhile (· != ':')),
        encodeWith inUserinfoSet ((u.dropWhile (· != ':')).drop 1))
    | none => ("", "")
  if userinfo == some [] && hostport.isEmpty && !atEnd then throw .emptyHost
  let (hostText, portText) := splitPort false hostport []
  if special && hostText.isEmpty then throw .emptyHost
  let host ←
    if special then parseHost (String.ofList hostText)
    else parseVerbatimHost (String.ofList hostText)
  if hostText.isEmpty && portText.isSome then throw .emptyHost
  let (port, rest) ← match portText with
    | none => pure (none, [])
    | some cs => readPort scheme cs
  if hostText.isEmpty && (!user.isEmpty || !pass.isEmpty) then throw .emptyHost
  return ⟨user, pass, host, port, rest⟩

/-- Reads what follows `file:`: the host, and the path text with its query and fragment. After
two slashes (either way) comes a host, up to the next slash, `?` or `#`; an empty host or
`localhost` is none, and a drive letter there is no host but the start of the path. One slash
or none starts the path at once. -/
def fileHostAndPath (rest : List Char) : Except UrlError (Option Host × List Char) :=
  let isSlash := fun c => c == '/' || c == '\\'
  match rest with
  | a :: b :: r =>
    if isSlash a && isSlash b then
      let (auth, after) := cut (fun c => isSlash c || c == '?' || c == '#') r
      if isDriveLetter auth then .ok (none, r)
      else
        let pathText := match after with
          | c :: t => if isSlash c then t else after
          | [] => []
        if auth.isEmpty then .ok (none, pathText)
        else do
          let host ← parseHost (String.ofList auth)
          return (if host == .domain "localhost" then none else some host, pathText)
    else if isSlash a then .ok (none, b :: r)
    else .ok (none, rest)
  | [a] => .ok (none, if isSlash a then [] else [a])
  | [] => .ok (none, [])

/-- Reads a URL text, or tells why it is not one. -/
def read (text : String) : Except UrlError Url := do
  let cs := text.toList
  let trimmed := ((cs.dropWhile (·.toNat ≤ 0x20)).reverse.dropWhile (·.toNat ≤ 0x20)).reverse
  let cs := trimmed.filter fun c => c != '\t' && c != '\n' && c != '\r'
  let (schemeText, rest) := cut (· == ':') cs
  let some first := schemeText.head? | throw .relativeWithoutBase
  if !(first.toNat < 128 && first.isAlpha) then throw .relativeWithoutBase
  if !schemeText.all (fun c => c.toNat < 128 && (c.isAlphanum || c == '+' || c == '-' || c == '.')) then
    throw .relativeWithoutBase
  let rest ← match rest with | _ :: r => pure r | [] => throw .relativeWithoutBase
  let scheme := (String.ofList schemeText).toLower
  let special := isSpecial scheme
  let file := scheme == "file"
  let isSlash := fun c => c == '/' || (special && c == '\\')
  let ends := fun c => isSlash c || c == '?' || c == '#'
  if file then
    let (host, pathText) ← fileHostAndPath rest
    let (pathText, more) := cut (fun c => c == '?' || c == '#') pathText
    let (query, fragment) := tail true more
    let (path, drive) := addSegmentsNoting true true pathText []
    return { scheme, host := if drive then none else host, path := .inl path, query, fragment }
  else if special then
    let afterSlashes := rest.dropWhile isSlash
    let (auth, more) := cut ends afterSlashes
    let a ← authority scheme auth more.isEmpty
    let (pathText, more) := cut (fun c => c == '?' || c == '#') more
    let pathText := match pathText with | c :: r => if isSlash c then r else c :: r | [] => []
    let (query, fragment) := tail true more
    return { scheme, username := a.username, password := a.password, host := some a.host,
             port := a.port, path := .inl (addSegments true false pathText []), query, fragment }
  else
    let (host, user, pass, port, more) ← match rest with
      | '/' :: '/' :: r =>
        let (auth, more) := cut ends r
        let a ← authority scheme auth more.isEmpty
        pure (some a.host, a.username, a.password, a.port, a.rest ++ more)
      | r => pure (none, "", "", none, r)
    let (pathText, more) := cut (fun c => c == '?' || c == '#') more
    let (query, fragment) := tail false more
    match pathText with
    | c :: r =>
      if c == '/' then
        return { scheme, username := user, password := pass, host, port,
                 path := .inl (addSegments false false r []), query, fragment }
      else if host.isNone then
        return { scheme, path := .inr (encodeWith isControl (c :: r)), query, fragment }
      else
        return { scheme, username := user, password := pass, host, port,
                 path := .inl (addSegments false false (c :: r) []), query, fragment }
    | [] =>
      if host.isNone then return { scheme, path := .inr "", query, fragment }
      else
        return { scheme, username := user, password := pass, host, port, path := .inl [],
                 query, fragment }

/-- Reads a URL text. -/
def parse? (text : String) : Option Url := (read text).toOption

/-- The text of a host. -/
def hostText : Host → String
  | .domain name => name
  | .verbatim text => text
  | .ipv4 a => ".".intercalate ([a / Nat.pow 2 24, a / Nat.pow 2 16 % 256, a / 256 % 256, a % 256].map toString)
  | .ipv6 pieces =>
    let step := fun (acc : (Nat × Nat) × (Nat × Nat)) (ix : Nat × Nat) =>
      let ((bs, bl), (cs, cl)) := acc
      let (x, i) := ix
      if x == 0 then
        let cur := if cl == 0 then (i, 1) else (cs, cl + 1)
        (if cur.2 > bl then cur else (bs, bl), cur)
      else ((bs, bl), (0, 0))
    let (start, len) := (pieces.zipIdx.foldl step ((0, 0), (0, 0))).1
    let hex := fun (xs : List Nat) => ":".intercalate (xs.map fun n => String.ofList (Nat.toDigits 16 n))
    "[" ++ (if len > 1 then hex (pieces.take start) ++ "::" ++ hex (pieces.drop (start + len))
      else hex pieces) ++ "]"

/-- Whether the URL has a host; an empty host counts as none. -/
def hasHost (u : Url) : Bool :=
  match u.host with
  | some (.verbatim "") | none => false
  | some _ => true

/-- The canonical text of a URL. A path is written as it is, also when a URL with no host has a
path whose first segment is empty (it then reads back with an authority). -/
def toText (u : Url) : String :=
  let auth := match u.host with
    | some h =>
      let cred := if u.username.isEmpty && u.password.isEmpty then ""
        else u.username ++ (if u.password.isEmpty then "" else ":" ++ u.password) ++ "@"
      "//" ++ cred ++ hostText h ++ (u.port.map (":" ++ toString ·)).getD ""
    | none => if u.scheme == "file" then "//" else ""
  let path := match u.path with
    | .inl segs => String.join (segs.map ("/" ++ ·))
    | .inr text => text
  u.scheme ++ ":" ++ auth ++ path ++ (u.query.map ("?" ++ ·)).getD "" ++
    (u.fragment.map ("#" ++ ·)).getD ""

/-- A credential as the text it encodes, when that is UTF-8. -/
def decodeCredential (s : String) : Option String :=
  String.fromUTF8? (ByteArray.mk (percentDecode s.toUTF8.toList).toArray)

/-- The URL an HTTP request goes to: its credentials are moved to an authorization header, and
taken out of the URL when the username decodes as UTF-8 and is not empty, or the password is
not empty and decodes. Otherwise the URL is left as it is. -/
def withoutCredentials (u : Url) : Url :=
  match decodeCredential u.username with
  | none => u
  | some user =>
    let pass := if u.password.isEmpty then none else decodeCredential u.password
    if !user.isEmpty || pass.isSome then { u with username := "", password := "" } else u

/-- A text as an HTML form encodes it: letters, digits and `*-._` stay, a space becomes `+`,
and every other byte is percent-encoded. -/
def formEncode (s : String) : String :=
  String.ofList (s.toList.flatMap fun c =>
    if c == ' ' then ['+']
    else if (c.isAlphanum && c.toNat < 0x80) || "*-._".contains c then [c]
    else (utf8 c).flatMap percentByte)

/-- Adds a pair to the query, after an `&` when the query is not empty. -/
def appendPair (u : Url) (key value : String) : Url :=
  let q := u.query.getD ""
  { u with query := some (q ++ (if q.isEmpty then "" else "&") ++ formEncode key ++ "=" ++
      formEncode value) }

end Url

end AdvisoryTrace.Net
