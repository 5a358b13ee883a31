import AdvisoryTrace.Toml.Document
import AdvisoryTrace.Toml.Fault

/-!
# Reading TOML

The TOML 1.0 grammar, read into a `Document`. A text is accepted exactly when it follows the
grammar and the document rules:

* keys are bare (`A-Z a-z 0-9 - _`) or quoted, dotted with optional blanks around the dots,
  and have fewer than 80 parts;
* strings are basic (with escapes), literal, and both kinds multi-line (a newline right after
  the opening is dropped, a backslash at a line's end joins it to the next text, and up to two
  quotes may stand before the closing three);
* integers are decimal (no leading zero) or `0x`, `0o`, `0b`, with `_` only between digits,
  and fit 64 signed bits; floats need a fraction or an exponent (or are `inf`, `nan`) and must
  not overflow to positive infinity;
* date-times are RFC 3339 dates, times, or both, with real months, days, hours and minutes;
* arrays and inline tables nest at most 79 deep; inline tables stay on one line;
* a pair or header ends its line (a comment may follow); comments hold no control
  characters but the tab.

A refused text is refused at the first place where no reading goes on, with the notes of the
readings around it (see `Stop`). Where the grammar offers a choice, a reading that stops early
(an open stop) gives way to the next choice; a reading past the point of no return (a `commit`)
stops the whole text. Each loop carries a fuel argument that the length of the text bounds.
-/

namespace AdvisoryTrace.Toml

/-- A reader of TOML text: given the length of the whole text and the characters left, a
result and the characters after it, or where and why it stopped. -/
abbrev Scan := ReaderT Nat (StateT (List Char) (Except Stop))

namespace Scan

/-- The offset of the next character. -/
def position : Scan Nat := do return (← read) - (← get).length

/-- The next character. -/
def peek : Scan (Option Char) := do return (← get).head?

/-- Passes over `k` characters. -/
def skip (k : Nat) : Scan Unit := modify (·.drop k)

/-- Whether the text goes on with `s`. -/
def ahead (s : String) : Scan Bool := do return s.toList.isPrefixOf (← get)

/-- Whether the text is all read. -/
def atEnd : Scan Bool := do return (← get).isEmpty

/-- An open stop here. -/
def halt : Scan α := fun total cs => .error { pos := total - cs.length }

/-- An open stop at an offset. -/
def haltAt (pos : Nat) : Scan α := fun _ _ => .error { pos }

/-- An open stop at an offset, for a broken rule. -/
def refuseAt (pos : Nat) (cause : String) : Scan α := fun _ _ => .error { pos, cause := some cause }

/-- Makes every stop of a reading final. -/
def commit (p : Scan α) : Scan α := fun total cs =>
  match p total cs with
  | .error s => .error { s with final := true }
  | r => r

/-- Adds notes to every stop of a reading. -/
def noted (ns : List Note) (p : Scan α) : Scan α := fun total cs =>
  match p total cs with
  | .error s => .error { s with notes := s.notes ++ ns }
  | r => r

/-- Runs a reading; when it stops open, leaves the text as it was and gives nothing. -/
def attempt (p : Scan α) : Scan (Option α) := fun total cs =>
  match p total cs with
  | .ok (a, rest) => .ok (some a, rest)
  | .error s => if s.final then .error s else .ok (none, cs)

/-- The first reading, or the second from the same place when the first stops open. -/
def orElse (p q : Scan α) : Scan α := fun total cs =>
  match p total cs with
  | .error s => if s.final then .error s else q total cs
  | r => r

/-- Runs a reading without taking its text; a stop is placed where it began. -/
def lookahead (p : Scan α) : Scan α := fun total cs =>
  match p total cs with
  | .ok (a, _) => .ok (a, cs)
  | .error s => .error { s with pos := total - cs.length }

/-- Checks the result of a reading; a broken rule stops open where the reading began. -/
def checked (p : Scan α) (check : α → Except String β) : Scan β := do
  let start ← position
  let a ← p
  match check a with
  | .ok b => return b
  | .error why => refuseAt start why

/-- Takes `s`, which must come next. -/
def expect (s : String) : Scan Unit := do
  if ← ahead s then skip s.length else halt

/-- Takes the longest run of characters with a property. -/
def takeWhile (p : Char → Bool) : Scan (List Char) := do
  let (front, rest) := (← get).span p
  set rest
  return front

/-- Takes a nonempty run of characters with a property. -/
def takeSome (p : Char → Bool) : Scan (List Char) := do
  let cs ← takeWhile p
  if cs.isEmpty then halt else return cs

/-- Takes one character with a property. -/
def one (p : Char → Bool) : Scan Char := do
  let some c ← peek | halt
  if p c then do skip 1; return c else halt

/-- The text that a reading takes, with its result. -/
def withText (p : Scan α) : Scan (α × String) := do
  let before ← get
  let a ← p
  let after ← get
  return (a, String.ofList (before.take (before.length - after.length)))

end Scan

open Scan

/-- Blanks: space and tab. -/
def isBlank (c : Char) : Bool := c == ' ' || c == '\t'

/-- Characters of a bare key. -/
def isKeyChar (c : Char) : Bool := c.isAlphanum || c == '-' || c == '_'

/-- Characters outside ASCII, which strings and comments take as they are. -/
def isNonAscii (c : Char) : Bool := c.toNat ≥ 0x80

/-- Characters a basic string holds without an escape. -/
def isBasicChar (c : Char) : Bool :=
  isBlank c || c == '!' || ('#' ≤ c && c ≤ '[') || (']' ≤ c && c ≤ '~') || isNonAscii c

/-- Characters a literal string holds. -/
def isLiteralChar (c : Char) : Bool :=
  c == '\t' || (' ' ≤ c && c ≤ '&') || ('(' ≤ c && c ≤ '~') || isNonAscii c

/-- Characters a comment holds. -/
def isCommentChar (c : Char) : Bool := c == '\t' || (' ' ≤ c && c ≤ '~') || isNonAscii c

/-- Decimal digits. -/
def isDigit (c : Char) : Bool := '0' ≤ c && c ≤ '9'

/-- The value of a digit in a radix up to 16. -/
def digitValue (radix : Nat) (c : Char) : Option Nat :=
  let v := if isDigit c then some (c.toNat - 48)
    else if 'a' ≤ c && c ≤ 'f' then some (c.toNat - 87)
    else if 'A' ≤ c && c ≤ 'F' then some (c.toNat - 55)
    else none
  v.filter (· < radix)

/-- Whether a character is a digit in a radix. -/
def isDigitIn (radix : Nat) (c : Char) : Bool := (digitValue radix c).isSome

/-- The number that digits write in a radix. -/
def digitsValue (radix : Nat) (ds : List Char) : Nat :=
  ds.foldl (fun acc c => acc * radix + (digitValue radix c).getD 0) 0

/-- The notes of a place where a value was looked for and none of its kinds begins: it is
taken for a string missing its quotes. -/
def stringNotes : List Note := [.label "string", .sought (.char '"'), .sought (.char '\'')]

/-- The notes of a place where a line should end. -/
def lineEndNotes : List Note := [.sought (.char '\n'), .sought (.char '#')]

/-- The notes of a place where a key should go on or meet its `=`. -/
def keyEndNotes : List Note := [.sought (.char '.'), .sought (.char '=')]

/-- A line ending: a line feed, or a carriage return and a line feed. -/
def newline : Scan Unit := do
  if ← ahead "\n" then skip 1 else if ← ahead "\r\n" then skip 2 else halt

/-- Blanks, if any. -/
def blanks : Scan Unit := discard (takeWhile isBlank)

/-- A comment, up to the end of its line. -/
def comment : Scan Unit := do
  expect "#"
  discard (takeWhile isCommentChar)

/-- The end of a line or of the text. -/
def lineEnd : Scan Unit := do
  if ← atEnd then pure () else newline

/-- What may close a line after a pair or a header: blanks, a comment, the line's end. -/
def lineTrailing : Scan Unit := do
  blanks
  if (← peek) == some '#' then comment
  lineEnd

/-- Blanks, comments and line endings, between the items of an array. -/
def gap : Nat → Scan Unit
  | 0 => halt
  | n + 1 => do
    blanks
    match ← peek with
    | some '#' => do comment; newline; gap n
    | some '\n' | some '\r' => do newline; gap n
    | _ => pure ()

/-- Blanks and line endings, if any. -/
def spaceLines : Nat → Scan Unit
  | 0 => halt
  | n + 1 => do
    match ← peek with
    | some ' ' | some '\t' => do skip 1; spaceLines n
    | some '\n' | some '\r' =>
      match ← attempt newline with
      | some () => spaceLines n
      | none => pure ()
    | _ => pure ()

/-- Whether a number is a Unicode scalar value. -/
def isScalar (v : Nat) : Bool := v < 0xD800 || (0xE000 ≤ v && v ≤ 0x10FFFF)

/-- The character of `\u` (4 digits) or `\U` (8 digits). -/
def hexEscape (n : Nat) : Scan Char :=
  checked (do
    let ds := ((← get).take n).takeWhile (isDigitIn 16)
    if ds.length != n then halt
    skip n
    return digitsValue 16 ds)
    fun v => if isScalar v then .ok (Char.ofNat v) else .error "value is out of range"

/-- The characters an escape may name after its backslash. -/
def escapeNotes : List Note :=
  .label "escape sequence" :: ['b', 'f', 'n', 'r', 't', 'u', 'U', '\\', '"'].map (.sought ∘ .char)

/-- The character an escape stands for, after its backslash. An unknown escape is refused
after its character when that is ASCII, and at it otherwise (the text is read byte by byte,
and a place inside a character is the character's). -/
def escape : Scan Char := do
  let start ← position
  let some c ← peek | halt
  skip 1
  match c with
  | 'b' => return Char.ofNat 8
  | 'f' => return Char.ofNat 12
  | 'n' => return '\n'
  | 'r' => return '\r'
  | 't' => return '\t'
  | 'u' => noted [.label "unicode 4-digit hex code"] (commit (hexEscape 4))
  | 'U' => noted [.label "unicode 8-digit hex code"] (commit (hexEscape 8))
  | '\\' => return '\\'
  | '"' => return '"'
  | _ => noted escapeNotes (commit (if c.toNat < 0x80 then halt else haltAt start))

/-- A backslash and the escape after it. -/
def escaped : Scan (List Char) := do
  expect "\\"
  return [← escape]

/-- Pieces of a string, as many as follow, gathered in reverse. -/
def pieces (piece : Scan (List Char)) : Nat → List Char → Scan (List Char)
  | 0, _ => halt
  | n + 1, acc => do
    match ← attempt piece with
    | some cs => pieces piece n (cs.reverse ++ acc)
    | none => return acc

/-- A basic string, quotes included. -/
def basicString (fuel : Nat) : Scan String := do
  expect "\""
  let acc ← pieces (orElse (takeSome isBasicChar) escaped) fuel []
  noted [.label "basic string"] (commit (expect "\""))
  return String.ofList acc.reverse

/-- A literal string, quotes included. -/
def literalString : Scan String := noted [.label "literal string"] do
  expect "'"
  let cs ← takeWhile isLiteralChar
  commit (expect "'")
  return String.ofList cs

/-- One or two quote characters that `term` follows, without taking what follows. -/
def quotes (q : Char) (term : Scan Unit) : Scan (List Char) :=
  orElse (do expect (String.ofList [q, q]); lookahead term; return [q, q])
    (do expect q.toString; lookahead term; return [q])

/-- Any character but a quote character. -/
def notQuote (q : Char) : Scan Unit := discard (one (· != q))

/-- A backslash at a line's end, with the blanks and line endings after it. -/
def escapedNewline (fuel : Nat) : Scan (List Char) := do
  expect "\\"
  blanks
  newline
  spaceLines fuel
  return []

/-- A piece of a multi-line basic string. -/
def mlBasicPiece (fuel : Nat) : Scan (List Char) :=
  orElse (takeSome isBasicChar) <| orElse (escapedNewline fuel) <| orElse escaped
    (do newline; return ['\n'])

/-- The quotes inside a multi-line basic string, each run followed by more text. A run of
quotes that no text follows is passed over. -/
def mlBasicQuotes (fuel : Nat) : Nat → List Char → Scan (List Char)
  | 0, _ => halt
  | n + 1, acc => do
    match ← attempt (quotes '"' (notQuote '"')) with
    | none => return acc
    | some q =>
      match ← attempt (mlBasicPiece fuel) with
      | none => return acc
      | some c => mlBasicQuotes fuel n (← pieces (mlBasicPiece fuel) fuel (c.reverse ++ q ++ acc))

/-- A multi-line basic string, delimiters included. -/
def mlBasicString (fuel : Nat) : Scan String := noted [.label "multiline basic string"] do
  expect "\"\"\""
  discard (attempt newline)
  let acc ← commit (do
    let acc ← pieces (mlBasicPiece fuel) fuel []
    let acc ← mlBasicQuotes fuel fuel acc
    match ← attempt (quotes '"' (expect "\"\"\"")) with
    | some q => return q ++ acc
    | none => return acc)
  commit (expect "\"\"\"")
  return String.ofList acc.reverse

/-- A piece of a multi-line literal string: one character or a line ending. -/
def mlLiteralPiece : Scan (List Char) :=
  orElse (do return [← one isLiteralChar]) (do newline; return ['\n'])

/-- Quotes inside a multi-line literal string, each run with the text after it. -/
def mlLiteralQuotes (fuel : Nat) : Nat → List Char → Scan (List Char)
  | 0, _ => halt
  | n + 1, acc => do
    let run := do
      let q ← quotes '\'' (notQuote '\'')
      let first ← mlLiteralPiece
      pieces mlLiteralPiece fuel (first.reverse ++ q ++ acc)
    match ← attempt run with
    | some acc => mlLiteralQuotes fuel n acc
    | none => return acc

/-- A multi-line literal string, delimiters included. -/
def mlLiteralString (fuel : Nat) : Scan String := noted [.label "multiline literal string"] do
  expect "'''"
  discard (attempt newline)
  let acc ← commit (do
    let acc ← pieces mlLiteralPiece fuel []
    let acc ← mlLiteralQuotes fuel fuel acc
    match ← attempt (quotes '\'' (expect "'''")) with
    | some q => return q ++ acc
    | none => return acc)
  commit (expect "'''")
  return String.ofList acc.reverse

/-- A string of any of the four kinds. -/
def stringValue (fuel : Nat) : Scan String :=
  orElse (mlBasicString fuel) <| orElse (basicString fuel) <| orElse (mlLiteralString fuel)
    literalString

/-- The most parts a key may have, plus one. -/
def keyDepthLimit : Nat := 80

/-- The name a part of a key gives: quoted, or bare. -/
def keyName (fuel : Nat) : Scan String := do
  match ← peek with
  | some '"' => basicString fuel
  | some '\'' => literalString
  | _ => return String.ofList (← takeSome isKeyChar)

/-- One part of a key, with the text it was written as and where. -/
def simpleKey (fuel : Nat) : Scan Key := do
  let start ← position
  let (name, raw) ← withText (keyName fuel)
  return ⟨name, raw, ⟨start, ← position⟩⟩

/-- One part of a key with the blanks around it. -/
def keyPart (fuel : Nat) : Scan Key := do
  blanks
  let k ← simpleKey fuel
  blanks
  return k

/-- The parts after the first, each after a dot. -/
def moreParts (fuel : Nat) : Nat → List Key → Scan (List Key)
  | 0, _ => halt
  | n + 1, acc => do
    match ← attempt (do expect "."; keyPart fuel) with
    | some k => moreParts fuel n (k :: acc)
    | none => return acc.reverse

/-- A key: its parts, separated by dots; not too many of them. -/
def key (fuel : Nat) : Scan (List Key) :=
  checked (noted [.label "key"] (do moreParts fuel fuel [← keyPart fuel]))
    fun ks => if ks.length ≥ keyDepthLimit then .error "recursion limit exceeded" else .ok ks

/-- Digits with a property, the first one given, with each `_` between two digits. -/
def digitTail (p : Char → Bool) : Nat → List Char → Scan (List Char)
  | 0, _ => halt
  | n + 1, acc => do
    match ← peek with
    | some '_' => do
      skip 1
      let c ← noted [.sought (.description "digit")] (commit (one p))
      digitTail p n (c :: acc)
    | some c => if p c then do skip 1; digitTail p n (c :: acc) else return acc.reverse
    | none => return acc.reverse

/-- A decimal integer's sign (whether negative) and digits: no leading zero but in `0`. -/
def decimalDigits (fuel : Nat) : Scan (Bool × List Char) := noted [.label "integer"] do
  let sign ← peek
  if sign == some '-' || sign == some '+' then skip 1
  let some c ← peek | halt
  if '1' ≤ c && c ≤ '9' then do skip 1; return (sign == some '-', ← digitTail isDigit fuel [c])
  else if c == '0' then do skip 1; return (sign == some '-', ['0'])
  else halt

/-- The least 64-bit signed integer. -/
def int64Min : Int := -(Int.pow 2 63)

/-- The greatest 64-bit signed integer. -/
def int64Max : Int := Int.pow 2 63 - 1

/-- A number that must fit 64 signed bits. -/
def fitInt64 (v : Int) : Except String Int :=
  if v > int64Max then .error "number too large to fit in target type"
  else if v < int64Min then .error "number too small to fit in target type"
  else .ok v

/-- Digits in a radix after its prefix (`0x`, `0o`, `0b`), the first required. -/
def radixDigits (fuel : Nat) (radix : Nat) (prefixText label : String) : Scan (List Char) :=
  noted [.label label] do
    expect prefixText
    commit (do digitTail (isDigitIn radix) fuel [← one (isDigitIn radix)])

/-- An integer: decimal, or hexadecimal, octal or binary after `0x`, `0o`, `0b`. An integer
that does not fit stops where it begins. -/
def integerValue (fuel : Nat) : Scan Int := do
  let hex ← ahead "0x"
  let octal ← ahead "0o"
  let binary ← ahead "0b"
  let radix := if hex then 16 else if octal then 8 else if binary then 2 else 10
  if radix != 10 then
    let label := if radix == 16 then "hexadecimal integer" else if radix == 8 then
      "octal integer" else "binary integer"
    let prefixText := if radix == 16 then "0x" else if radix == 8 then "0o" else "0b"
    commit (checked (radixDigits fuel radix prefixText label) fun ds =>
      fitInt64 (digitsValue radix ds))
  else
    let start ← position
    let (negative, ds) ← decimalDigits fuel
    let v : Int := if negative then -(digitsValue 10 ds : Int) else digitsValue 10 ds
    match fitInt64 v with
    | .ok v => return v
    | .error why => commit (refuseAt start why)

/-- The size of a double nearest to `m · 10^e`, infinite when it is too large. -/
def decimalMagnitude (m : Nat) (e : Int) : Float :=
  let size : Int := (Nat.toDigits 10 m).length
  if m == 0 then 0
  else if e + size > 310 then 1.0 / 0.0
  else if e + size < -400 then 0
  else if e ≥ 0 then Float.ofScientific m false e.toNat else Float.ofScientific m true (-e).toNat

/-- Digits that may start with zeros, each `_` between two digits. -/
def zeroPrefixable (fuel : Nat) : Scan (List Char) := do
  digitTail isDigit fuel [← one isDigit]

/-- A fraction after its point. -/
def fraction (fuel : Nat) : Scan (List Char) := do
  expect "."
  noted [.sought (.description "digit")] (commit (zeroPrefixable fuel))

/-- An exponent after its `e`: its value. -/
def exponent (fuel : Nat) : Scan Int := do
  discard (one fun c => c == 'e' || c == 'E')
  let sign ← peek
  if sign == some '-' || sign == some '+' then skip 1
  let ds ← commit (zeroPrefixable fuel)
  let v : Int := digitsValue 10 ds
  return if sign == some '-' then -v else v

/-- A float with a fraction or an exponent; one that overflows to positive infinity stops
where it begins. -/
def finiteFloat (fuel : Nat) : Scan Float := do
  let start ← position
  let (negative, whole) ← decimalDigits fuel
  let (frac, exp) ← orElse (do return ([], some (← exponent fuel)))
    (do
      let frac ← fraction fuel
      return (frac, ← attempt (exponent fuel)))
  let magnitude := decimalMagnitude (digitsValue 10 (whole ++ frac)) (exp.getD 0 - frac.length)
  if !negative && magnitude.isInf then commit (haltAt start) else
  return if negative then -magnitude else magnitude

/-- `inf` or `nan`, with an optional sign. -/
def specialFloat : Scan Float := do
  let sign ← peek
  if sign == some '-' || sign == some '+' then skip 1
  if ← ahead "inf" then do skip 3; return if sign == some '-' then -(1.0 / 0.0) else 1.0 / 0.0
  else if ← ahead "nan" then do skip 3; return 0.0 / 0.0
  else halt

/-- A float of either kind. -/
def floatValue (fuel : Nat) : Scan Float :=
  noted [.label "floating-point number"] (orElse (finiteFloat fuel) specialFloat)

/-- Between `lo` and `hi` decimal digits. -/
def digitsBetween (lo hi : Nat) : Scan (List Char) := do
  let ds := ((← get).take hi).takeWhile isDigit
  if ds.length < lo then halt
  skip ds.length
  return ds

/-- Two digits with a value in a range. -/
def twoDigits (lo hi : Nat) : Scan Nat :=
  checked (digitsBetween 2 2) fun ds =>
    let v := digitsValue 10 ds
    if lo ≤ v && v ≤ hi then .ok v else .error "value is out of range"

/-- The days of a month of a year (with leap years). -/
def daysIn (year month : Nat) : Nat :=
  if month == 2 then
    if year % 4 == 0 && (year % 100 != 0 || year % 400 == 0) then 29 else 28
  else if month == 4 || month == 6 || month == 9 || month == 11 then 30
  else 31

/-- A date `YYYY-MM-DD` of a real day. -/
def fullDate : Scan Unit := do
  let year := digitsValue 10 (← digitsBetween 4 4)
  expect "-"
  let month ← commit (twoDigits 1 12)
  commit (expect "-")
  let dayStart ← position
  let day ← commit (twoDigits 1 31)
  if day > daysIn year month then commit (refuseAt dayStart "value is out of range")

/-- A time `hh:mm:ss` with optional fractional seconds. -/
def partialTime : Scan Unit := do
  discard (twoDigits 0 23)
  expect ":"
  commit (do
    discard (twoDigits 0 59)
    expect ":"
    discard (twoDigits 0 60)
    discard (attempt (do expect "."; digitsBetween 1 (← get).length)))

/-- A time offset: `Z`, or a signed `hh:mm`. -/
def timeOffset : Scan Unit := noted [.label "time offset"] do
  orElse (discard (one fun c => c == 'Z' || c == 'z')) (do
    discard (one fun c => c == '+' || c == '-')
    commit (do
      discard (twoDigits 0 23)
      expect ":"
      discard (twoDigits 0 59)))

/-- A date with an optional time and offset, or a time alone. -/
def dateTime : Scan Unit := noted [.label "date-time"] <|
  orElse (do
    fullDate
    discard (attempt (do
      discard (one fun c => c == 'T' || c == 't' || c == ' ')
      partialTime
      discard (attempt timeOffset))))
    partialTime

/-- A pair of an inline table: its key, its value and where the value was written. -/
abbrev Pair := List Key × Value × Span

/-- The deepest nesting of arrays and inline tables that a document may have, plus one. -/
def nestingLimit : Nat := 80

/-- Builds an inline table from its pairs. -/
def buildTable (pairs : List Pair) : Except String Value := do
  let t ← pairs.foldlM (fun t (keys, v, pos) =>
    let (last, front) := Document.split keys
    (t.insert front last v pos).mapError Clash.message) InlineTable.empty
  return .table t.entries

mutual

/-- A value and where it was written; `depth` counts the arrays and inline tables around
it. -/
def value : Nat → Nat → Scan (Value × Span)
  | 0, _ => halt
  | n + 1, depth => do
    let start ← position
    let v ← valueBody n depth
    return (v, ⟨start, ← position⟩)

/-- A value, by the kind its first character begins: strings, arrays, inline tables, numbers
and date-times, booleans, and the special floats. A `_` or a `.` is read as a number missing
its leading digit, and anything else as a string missing its quotes. -/
def valueBody : Nat → Nat → Scan Value
  | 0, _ => halt
  | n + 1, depth => do
    match ← peek with
    | some '"' | some '\'' => return .string (← stringValue n)
    | some '[' => array n depth
    | some '\x7b' => inlineTable n depth
    | some '_' => noted [.sought (.description "leading digit")] (.integer <$> integerValue n)
    | some '.' => noted [.sought (.description "leading digit")] (.float <$> floatValue n)
    | some 't' => noted stringNotes (commit (expect "true") *> pure (.boolean true))
    | some 'f' => noted stringNotes (commit (expect "false") *> pure (.boolean false))
    | some 'i' | some 'n' =>
      noted stringNotes (.float <$> orElse (expect "inf" *> pure (1.0 / 0.0))
        (expect "nan" *> pure (0.0 / 0.0)))
    | some c =>
      if c == '+' || c == '-' || isDigit c then
        orElse ((fun r => .datetime r.2) <$> withText dateTime) <|
          orElse (.float <$> floatValue n) (.integer <$> integerValue n)
      else noted stringNotes halt
    | none => halt

/-- An array, from its opening bracket. -/
def array : Nat → Nat → Scan Value
  | 0, _ => halt
  | n + 1, depth => do
    expect "["
    let items ← commit (arrayItems n (depth + 1))
    noted [.label "array", .sought (.char ']')] (commit (expect "]"))
    return .array items

/-- The items of an array, a comma after each but the last one optional. -/
def arrayItems : Nat → Nat → Scan (List (Value × Span))
  | 0, _ => halt
  | n + 1, depth => do
    if depth ≥ nestingLimit then refuseAt (← position) "recursion limit exceeded"
    let items ← match ← attempt (arrayItem n depth) with
      | none => pure []
      | some first => do
        let items ← moreItems n depth [first]
        discard (attempt (expect ","))
        pure items
    gap n
    return items

/-- One item of an array, with the blanks, comments and line endings around it. -/
def arrayItem : Nat → Nat → Scan (Value × Span)
  | 0, _ => halt
  | n + 1, depth => do
    gap n
    let v ← value n depth
    gap n
    return v

/-- The items of an array after the first, each after a comma. -/
def moreItems : Nat → Nat → List (Value × Span) → Scan (List (Value × Span))
  | 0, _, _ => halt
  | n + 1, depth, acc => do
    match ← attempt (do expect ","; arrayItem n depth) with
    | some v => moreItems n depth (v :: acc)
    | none => return acc.reverse

/-- An inline table, from its opening brace. -/
def inlineTable : Nat → Nat → Scan Value
  | 0, _ => halt
  | n + 1, depth => do
    expect "\x7b"
    let v ← commit (checked (inlinePairs n (depth + 1)) buildTable)
    noted [.label "inline table", .sought (.char '\x7d')] (commit (expect "\x7d"))
    return v

/-- The pairs of an inline table, separated by commas, and the blanks after them. -/
def inlinePairs : Nat → Nat → Scan (List Pair)
  | 0, _ => halt
  | n + 1, depth => do
    if depth ≥ nestingLimit then refuseAt (← position) "recursion limit exceeded"
    let pairs ← match ← attempt (inlinePair n depth) with
      | none => pure []
      | some first => morePairs n depth [first]
    blanks
    return pairs

/-- One pair of an inline table. -/
def inlinePair : Nat → Nat → Scan Pair
  | 0, _ => halt
  | n + 1, depth => do
    let keys ← key n
    commit (do
      noted keyEndNotes (expect "=")
      blanks
      let (v, pos) ← value n depth
      blanks
      return (keys, v, pos))

/-- The pairs of an inline table after the first, each after a comma. -/
def morePairs : Nat → Nat → List Pair → Scan (List Pair)
  | 0, _, _ => halt
  | n + 1, depth, acc => do
    match ← attempt (do expect ","; inlinePair n depth) with
    | some p => morePairs n depth (p :: acc)
    | none => return acc.reverse

end

/-- A header line: `[key]` or `[[key]]`, applied to the document. -/
def header (fuel : Nat) (d : Document) : Scan Document := noted [.label "table header"] do
  let array ← ahead "[["
  let (openText, closeText) := if array then ("[[", "]]") else ("[", "]")
  checked (do
    let start ← position
    expect openText
    let keys ← commit (key fuel)
    noted [.sought (.char '.'), .sought (.text closeText)] (commit (expect closeText))
    let stop ← position
    noted lineEndNotes (commit lineTrailing)
    return (keys, Span.mk start stop))
    fun (keys, span) =>
      (if array then d.openArrayTable keys span else d.openTable keys span).mapError Clash.message

/-- A pair line: `key = value`, applied to the document. -/
def pair (fuel : Nat) (d : Document) : Scan Document :=
  checked (do
    let keys ← key fuel
    commit (do
      noted keyEndNotes (expect "=")
      blanks
      let (v, pos) ← value fuel 0
      noted lineEndNotes lineTrailing
      return (keys, v, pos)))
    fun (keys, v, pos) => (d.insert keys v pos).mapError Clash.message

/-- The lines of a document, up to the end of the text or to a line ending that is not
one. -/
def lines (fuel : Nat) : Nat → Document → Scan Document
  | 0, _ => halt
  | n + 1, d => do
    blanks
    match ← peek with
    | none => return d
    | some '#' => do commit (do comment; lineEnd); lines fuel n d
    | some '[' => lines fuel n (← commit (header fuel d))
    | some '\n' | some '\r' =>
      match ← attempt newline with
      | some () => lines fuel n d
      | none => return d
    | some _ => lines fuel n (← commit (pair fuel d))

/-- The whole text as a document; a byte-order mark may start it. -/
def document (fuel : Nat) : Scan Document := do
  if (← peek) == some (Char.ofNat 0xFEFF) then skip 1
  let d ← lines fuel fuel Document.empty
  if !(← atEnd) then halt
  return d

/-- The document a text holds, or why it holds none. -/
def Document.read (text : String) : Except Diagnosis Document :=
  let cs := text.toList
  match document (8 * (cs.length + 1)) cs.length cs with
  | .ok (d, _) => .ok d
  | .error s => .error ⟨s.message, some (.point s.pos)⟩

end AdvisoryTrace.Toml
