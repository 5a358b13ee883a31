/-!
# Socket addresses

An address to listen on: an IPv4 address and a port, `a.b.c.d:port`, or an IPv6 address in
brackets with an optional numeric scope and a port, `[addr%scope]:port`.

Reading is strict. An IPv4 address has exactly four decimal parts of at most three digits, each
at most 255 and without a leading zero. An IPv6 address has up to eight groups of one to four
hexadecimal digits, may shorten one run of zero groups to `::`, and may end in an IPv4 address.
A port is a decimal number below 65536; leading zeros are allowed there.

Writing is canonical. IPv6 groups are written in lower-case hexadecimal without leading zeros,
and the longest run of two or more zero groups (the first of equal runs) is written `::`. An
IPv4 address mapped into IPv6 (`::ffff:a.b.c.d`) is written with its IPv4 part.
-/

namespace AdvisoryTrace.Net

/-- A reader of a prefix of a character list: what it read and what is left, or nothing. -/
abbrev Reader (α : Type) := List Char → Option (α × List Char)

/-- The value of a digit in a radix. -/
def digitIn (radix : Nat) (c : Char) : Option Nat :=
  if c.isDigit then (if c.toNat - 48 < radix then some (c.toNat - 48) else none)
  else if 'a' ≤ c && c ≤ 'f' then (if c.toNat - 87 < radix then some (c.toNat - 87) else none)
  else if 'A' ≤ c && c ≤ 'F' then (if c.toNat - 55 < radix then some (c.toNat - 55) else none)
  else none

/-- The longest run of digits of a radix at the front, with the rest. -/
def digitRun (radix : Nat) : List Char → List Nat × List Char
  | [] => ([], [])
  | c :: cs =>
    match digitIn radix c with
    | some d => let (ds, rest) := digitRun radix cs; (d :: ds, rest)
    | none => ([], c :: cs)

/-- Reads a number in a radix that is at most `bound`, from at least one and (when given) at
most `maxDigits` digits; a leading zero followed by more digits is refused unless allowed. -/
def number (radix : Nat) (maxDigits : Option Nat) (zeroPrefix : Bool) (bound : Nat) :
    Reader Nat := fun cs =>
  let (ds, rest) := digitRun radix cs
  let value := ds.foldl (fun acc d => acc * radix + d) 0
  if ds.isEmpty then none
  else if maxDigits.any (ds.length > ·) then none
  else if !zeroPrefix && ds.head? == some 0 && ds.length > 1 then none
  else if value > bound then none
  else some (value, rest)

/-- Reads one given character. -/
def given (c : Char) : Reader Unit
  | d :: rest => if c == d then some ((), rest) else none
  | [] => none

/-- Reads an IPv4 address as its four octets. -/
def ipv4 : Reader (List Nat) := fun cs => do
  let (a, cs) ← number 10 (some 3) false 255 cs
  let ((), cs) ← given '.' cs
  let (b, cs) ← number 10 (some 3) false 255 cs
  let ((), cs) ← given '.' cs
  let (c, cs) ← number 10 (some 3) false 255 cs
  let ((), cs) ← given '.' cs
  let (d, cs) ← number 10 (some 3) false 255 cs
  return ([a, b, c, d], cs)

/-- Reads colon-separated IPv6 groups into at most `limit` slots, where a trailing IPv4 address
fills two slots when at least two are left. Gives the groups read, whether an IPv4 address
ended them, and the rest; reading stops (without consuming a separator) at the first slot that
cannot be read. -/
def groups (limit : Nat) (cs : List Char) : List Nat × Bool × List Char :=
  go limit 0 [] cs
where
  /-- Reads the slot at index `i` with `left` slots still free. -/
  go : Nat → Nat → List Nat → List Char → List Nat × Bool × List Char
    | 0, _, acc, cs => (acc, false, cs)
    | left + 1, i, acc, cs =>
      let sep : Reader Unit := fun cs => if i > 0 then given ':' cs else some ((), cs)
      let v4 := if i + 1 < limit then (sep cs).bind fun (_, r) => ipv4 r else none
      match v4 with
      | some (octets, rest) =>
        match octets with
        | [a, b, c, d] => (acc ++ [a * 256 + b, c * 256 + d], true, rest)
        | _ => (acc, false, cs)
      | none =>
        match (sep cs).bind fun (_, r) => number 16 (some 4) true 0xFFFF r with
        | some (g, rest) => go left (i + 1) (acc ++ [g]) rest
        | none => (acc, false, cs)

/-- Reads an IPv6 address as its eight groups. -/
def ipv6 : Reader (List Nat) := fun cs =>
  let (head, headV4, cs) := groups 8 cs
  if head.length == 8 then some (head, cs)
  else if headV4 then none
  else do
    let ((), cs) ← given ':' cs
    let ((), cs) ← given ':' cs
    let (tail, _, cs) := groups (8 - (head.length + 1)) cs
    return (head ++ List.replicate (8 - head.length - tail.length) 0 ++ tail, cs)

/-- A socket address: an IPv4 address (four octets) or an IPv6 address (eight groups) with its
scope, and a port. -/
inductive SocketAddr where
  | v4 (octets : List Nat) (port : Nat)
  | v6 (segments : List Nat) (scope : Nat) (port : Nat)
  deriving BEq, Repr

/-- Reads a port after its colon. -/
def port : Reader Nat := fun cs => do
  let ((), cs) ← given ':' cs
  number 10 none true 0xFFFF cs

/-- Reads `a.b.c.d:port`. -/
def socketV4 : Reader SocketAddr := fun cs => do
  let (ip, cs) ← ipv4 cs
  let (p, cs) ← port cs
  return (.v4 ip p, cs)

/-- Reads `[addr]:port` or `[addr%scope]:port`. -/
def socketV6 : Reader SocketAddr := fun cs => do
  let ((), cs) ← given '[' cs
  let (ip, cs) ← ipv6 cs
  let (scope, cs) := match given '%' cs with
    | some ((), r) => (number 10 none true 0xFFFFFFFF r).getD (0, cs)
    | none => (0, cs)
  let ((), cs) ← given ']' cs
  let (p, cs) ← port cs
  return (.v6 ip scope p, cs)

namespace SocketAddr

/-- Reads a whole text as a socket address. -/
def parse? (s : String) : Option SocketAddr :=
  match socketV4 s.toList with
  | some (a, []) => some a
  | some _ => none
  | none =>
    match socketV6 s.toList with
    | some (a, []) => some a
    | _ => none

/-- The start and length of the first longest run of zeros in a list. -/
def zeroRun (xs : List Nat) : Nat × Nat :=
  let step := fun (acc : (Nat × Nat) × (Nat × Nat)) (ix : Nat × Nat) =>
    let ((bestStart, bestLen), (curStart, curLen)) := acc
    let (x, i) := ix
    if x == 0 then
      let cur := if curLen == 0 then (i, 1) else (curStart, curLen + 1)
      (if cur.2 > bestLen then cur else (bestStart, bestLen), cur)
    else ((bestStart, bestLen), (0, 0))
  (xs.zipIdx.foldl step ((0, 0), (0, 0))).1

/-- A number in lower-case hexadecimal. -/
def hex (n : Nat) : String := String.ofList (Nat.toDigits 16 n)

/-- Groups joined by colons. -/
def joinGroups (xs : List Nat) : String := ":".intercalate (xs.map hex)

/-- The canonical text of an IPv4 address. -/
def ipv4Text (octets : List Nat) : String := ".".intercalate (octets.map toString)

/-- The canonical text of an IPv6 address. -/
def ipv6Text (segments : List Nat) : String :=
  match segments with
  | [0, 0, 0, 0, 0, 0xFFFF, hi, lo] => "::ffff:" ++ ipv4Text [hi / 256, hi % 256, lo / 256, lo % 256]
  | _ =>
    let (start, len) := zeroRun segments
    if len > 1 then
      joinGroups (segments.take start) ++ "::" ++ joinGroups (segments.drop (start + len))
    else joinGroups segments

/-- The canonical text of a socket address. -/
def toText : SocketAddr → String
  | .v4 octets p => ipv4Text octets ++ ":" ++ toString p
  | .v6 segments scope p =>
    "[" ++ ipv6Text segments ++ (if scope == 0 then "" else "%" ++ toString scope) ++ "]:" ++
      toString p

end SocketAddr

end AdvisoryTrace.Net
