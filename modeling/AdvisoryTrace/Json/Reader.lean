import AdvisoryTrace.Schema

/-!
# Reading JSON

A streaming reader over the bytes of a text that is asked for a `Shape` and reads only as far
as it needs: a record from an object or from an array of its fields in order, a list, one of
several names (a string, or an object of one name with `null`), numbers of the asked kind, and
any value when only the syntax matters. The first fault ends the read.

Faults are of two kinds. A syntax fault carries the line and column where it was found: the
column counts the bytes of the line read so far, and a fault about the next byte counts that
byte too. A data fault (a mismatch of shape) gets the position the reader has reached when it
leaves the value that failed, after closing its array or object if it can. Either kind also
records the way down to the innermost value whose reading it arose in: a syntax fault between
the items or members of a container belongs to the container, and one inside an item or member
to that item or member, skipped members included.

Numbers: an integer without fraction or exponent is kept as an unsigned or negative 64-bit
integer when it fits and as a double otherwise; a double is its significand (at most 19
digits, further digits only scale) times a power of ten, multiplied or divided in one step.
Nesting deeper than 127 arrays and objects is refused.
-/

namespace AdvisoryTrace.Json

/-- The syntax faults of the reader. -/
inductive Code where
  | eofList
  | eofObject
  | eofString
  | eofValue
  | expectedColon
  | expectedListCommaOrEnd
  | expectedObjectCommaOrEnd
  | expectedIdent
  | expectedValue
  | invalidEscape
  | invalidNumber
  | numberOutOfRange
  | invalidCodePoint
  | controlCharacter
  | keyMustBeString
  | loneLeadingSurrogate
  | trailingComma
  | trailingCharacters
  | unexpectedEndOfHexEscape
  | recursionLimit
  deriving BEq

/-- The wording of a syntax fault. -/
def Code.text : Code → String
  | .eofList => "EOF while parsing a list"
  | .eofObject => "EOF while parsing an object"
  | .eofString => "EOF while parsing a string"
  | .eofValue => "EOF while parsing a value"
  | .expectedColon => "expected `:`"
  | .expectedListCommaOrEnd => "expected `,` or `]`"
  | .expectedObjectCommaOrEnd => "expected `,` or `\x7d`"
  | .expectedIdent => "expected ident"
  | .expectedValue => "expected value"
  | .invalidEscape => "invalid escape"
  | .invalidNumber => "invalid number"
  | .numberOutOfRange => "number out of range"
  | .invalidCodePoint => "invalid unicode code point"
  | .controlCharacter => "control character (\\u0000-\\u001F) found while parsing a string"
  | .keyMustBeString => "key must be a string"
  | .loneLeadingSurrogate => "lone leading surrogate in hex escape"
  | .trailingComma => "trailing comma"
  | .trailingCharacters => "trailing characters"
  | .unexpectedEndOfHexEscape => "unexpected end of hex escape"
  | .recursionLimit => "recursion limit exceeded"

/-- Whether a syntax fault is the input ending early. -/
def Code.isEnd : Code → Bool
  | .eofList | .eofObject | .eofString | .eofValue => true
  | _ => false

/-- One step from a value down to a part of it: the member of a key, or the item at a
position. -/
inductive Segment where
  | key (name : String)
  | index (position : Nat)
  deriving BEq

/-- The text of a way down a value: keys joined by dots, positions in brackets with no dot
before them (`ids[2].name`). -/
def Segment.pathText (path : List Segment) : String :=
  (path.foldl (fun (acc : String × Bool) s =>
    match s with
    | .key name => (acc.1 ++ (if acc.2 then "." else "") ++ name, true)
    | .index n => (acc.1 ++ "[" ++ toString n ++ "]", true)) ("", false)).1

/-- A fault of the reader: a syntax fault at a line and column, or a mismatch of shape with
the position once it is known; either may carry the way down to the value being read when it
arose. -/
inductive Fault where
  | malformed (code : Code) (line column : Nat)
  | data (message : String) (position : Option (Nat × Nat))
  | within (path : List Segment) (fault : Fault)

/-- The text of a fault: its wording and, when known, ` at line L column C`. -/
def Fault.text : Fault → String
  | .malformed code line column =>
    code.text ++ " at line " ++ toString line ++ " column " ++ toString column
  | .data message (some (line, column)) =>
    message ++ " at line " ++ toString line ++ " column " ++ toString column
  | .data message none => message
  | .within _ f => f.text

/-- The text of a fault led by the way down to where it arose, when that is not the top. -/
def Fault.tracedText : Fault → String
  | .within [] f => f.text
  | .within path f => Segment.pathText path ++ ": " ++ f.text
  | f => f.text

/-- The kind of a fault: the input ended, the syntax is wrong, or the shape is wrong. -/
inductive FaultKind where
  | ended
  | malformed
  | shape
  deriving BEq

/-- The kind of a fault. -/
def Fault.kind : Fault → FaultKind
  | .malformed code _ _ => if code.isEnd then .ended else .malformed
  | .data _ _ => .shape
  | .within _ f => f.kind

/-- Line (from 1) and column (bytes since the line's start) of a byte index. -/
def positionOf (bytes : ByteArray) (index : Nat) : Nat × Nat :=
  let before := (bytes.extract 0 index).toList
  let (line, start, _) := before.foldl
    (fun (acc : Nat × Nat × Nat) (b : UInt8) =>
      let (line, start, i) := acc
      if b == 10 then (line + 1, i + 1, i + 1) else (line, start, i + 1))
    (1, 0, 0)
  (line, index - start)

/-- What a number is when it is not what was asked. -/
def Number.unexpected : Number → Unexpected
  | .nat n => .unsigned n
  | .negative n => .signed (-(n : Int))
  | .float f => .float f

/-- The reader: the bytes, and the index of the next byte as state that a fault leaves as it
was when the fault arose. -/
abbrev Read := ReaderT ByteArray (ExceptT Fault (StateM Nat))

namespace Read

/-- The next byte, if any. -/
def peek : Read (Option UInt8) := do
  let bytes ← read
  let i ← get
  return bytes[i]?

/-- Steps over one byte. -/
def eat : Read Unit := modify (· + 1)

/-- Reads one byte. -/
def next : Read (Option UInt8) := do
  let c ← peek
  if c.isSome then eat
  return c

/-- A syntax fault at the bytes read so far. -/
def fail (code : Code) : Read α := do
  let (line, column) := positionOf (← read) (← get)
  throw (.malformed code line column)

/-- A syntax fault about the next byte, which the column counts. -/
def failNext (code : Code) : Read α := do
  let bytes ← read
  let (line, column) := positionOf bytes (min bytes.size ((← get) + 1))
  throw (.malformed code line column)

/-- A mismatch of shape, positioned later. -/
def mismatch (message : String) : Read α := throw (.data message none)

/-- Gives an unpositioned mismatch the current position. -/
def place : Fault → Read Fault
  | .data message none => do
    let (line, column) := positionOf (← read) (← get)
    return .data message (some (line, column))
  | .within path f => do return .within path (← place f)
  | f => return f

/-- Runs the reading of one value: a fault that arose in it and not deeper is marked as
arising here. -/
def mark (act : Read α) : Read α :=
  tryCatch act fun f =>
    match f with
    | .within _ _ => throw f
    | f => throw (.within [] f)

/-- Runs the reading of a part of a value, one step down: the way to a fault marked inside
starts with that step. -/
def under (step : Segment) (act : Read α) : Read α :=
  tryCatch act fun f =>
    match f with
    | .within path g => throw (.within (step :: path) g)
    | f => throw f

/-- Runs `act`, placing a mismatch it raises at the position reached. -/
def placing (act : Read α) : Read α :=
  tryCatch act fun f => do throw (← place f)

/-- Runs `act` and returns its outcome instead of raising it. -/
def attempt (act : Read α) : Read (Except Fault α) :=
  tryCatch (Except.ok <$> act) fun f => pure (Except.error f)

/-- Skips blanks (space, tab, line feed, carriage return) and shows the next byte. -/
def skipBlanks : Read (Option UInt8) := do
  let bytes ← read
  let start ← get
  let rec go (i : Nat) : Nat → Nat
    | 0 => i
    | fuel + 1 =>
      match bytes[i]? with
      | some b => if b == 32 || b == 9 || b == 10 || b == 13 then go (i + 1) fuel else i
      | none => i
  set (go start (bytes.size - start + 1))
  peek

/-- Reads the rest of a keyword such as `ull` after `n`. -/
def keyword (rest : List UInt8) : Read Unit := do
  for expected in rest do
    match ← next with
    | none => fail .eofValue
    | some b => if b != expected then fail .expectedIdent

/-- Whether a byte is an ASCII digit. -/
def isDigit (b : UInt8) : Bool := 48 ≤ b && b ≤ 57

/-- Value of a hexadecimal digit. -/
def hexValue (b : UInt8) : Option Nat :=
  if 48 ≤ b && b ≤ 57 then some (b.toNat - 48)
  else if 65 ≤ b && b ≤ 70 then some (b.toNat - 55)
  else if 97 ≤ b && b ≤ 102 then some (b.toNat - 87)
  else none

/-- Reads four hexadecimal digits of a `\u` escape. -/
def hexQuad : Read Nat := do
  let bytes ← read
  let i ← get
  if i + 4 ≤ bytes.size then
    set (i + 4)
    let digits := [bytes[i]?, bytes[i + 1]?, bytes[i + 2]?, bytes[i + 3]?]
    match digits.mapM (fun d => d.bind hexValue) with
    | some ds => return ds.foldl (fun n d => n * 16 + d) 0
    | none => fail .invalidEscape
  else
    set bytes.size
    fail .eofString

/-- The UTF-8 bytes of a code point. -/
def utf8 (n : Nat) : ByteArray := (String.singleton (Char.ofNat n)).toUTF8

/-- Reads a `\u` escape (the `u` already read), pairing surrogates. -/
def unicodeEscape (acc : ByteArray) : Read ByteArray := do
  let n ← hexQuad
  if 0xDC00 ≤ n && n ≤ 0xDFFF then fail .loneLeadingSurrogate
  if n < 0xD800 || n > 0xDBFF then return acc ++ utf8 n
  match ← peek with
  | none => fail .eofString
  | some b =>
    if b != 92 then
      eat
      fail .unexpectedEndOfHexEscape
  eat
  match ← peek with
  | none => fail .eofString
  | some b =>
    if b != 117 then
      eat
      fail .unexpectedEndOfHexEscape
  eat
  let n2 ← hexQuad
  if n2 < 0xDC00 || n2 > 0xDFFF then fail .loneLeadingSurrogate
  return acc ++ utf8 ((((n - 0xD800) * 1024) ||| (n2 - 0xDC00)) + 0x10000)

/-- Reads one escape after a backslash. -/
def escape (acc : ByteArray) : Read ByteArray := do
  match ← next with
  | none => fail .eofString
  | some c =>
    match c with
    | 34 => return acc.push 34
    | 92 => return acc.push 92
    | 47 => return acc.push 47
    | 98 => return acc.push 8
    | 102 => return acc.push 12
    | 110 => return acc.push 10
    | 114 => return acc.push 13
    | 116 => return acc.push 9
    | 117 => unicodeEscape acc
    | _ => fail .invalidEscape

/-- Reads the rest of a string (the opening quote already read). -/
def stringBody : Read String := do
  let bytes ← read
  let rec go (acc : ByteArray) : Nat → Read ByteArray
    | 0 => fail .eofString
    | fuel + 1 => do
      match ← peek with
      | none => fail .eofString
      | some 34 => eat; return acc
      | some 92 => eat; go (← escape acc) fuel
      | some c =>
        eat
        if c < 32 then fail .controlCharacter
        go (acc.push c) fuel
  let raw ← go ByteArray.empty (bytes.size + 1)
  match String.fromUTF8? raw with
  | some s => return s
  | none => fail .invalidCodePoint

/-- `10^k` as a double. -/
def pow10 (k : Nat) : Float := Float.ofScientific 1 false k

/-- A double from a significand and a power of ten. -/
def fromParts (positive : Bool) (significand : Nat) (exponent : Int) : Read Float := do
  let rec go (f : Float) (e : Int) : Nat → Read Float
    | 0 => return f
    | fuel + 1 => do
      if e.natAbs ≤ 308 then
        if e ≥ 0 then
          let g := f * pow10 e.natAbs
          if g.isInf then fail .numberOutOfRange
          return g
        else return f / pow10 e.natAbs
      else
        if f == 0 then return f
        if e ≥ 0 then fail .numberOutOfRange
        go (f / 1e308) (e + 308) fuel
  let f ← go (Float.ofNat significand) exponent 8
  return if positive then f else -f

/-- The largest value of a 64-bit unsigned integer. -/
def u64Max : Nat := Nat.pow 2 64 - 1

/-- The largest value of a 32-bit signed integer. -/
def i32Max : Int := Int.pow 2 31 - 1

/-- Whether `n * 10 + d` exceeds `limit`. -/
def overflows (n d limit : Nat) : Bool :=
  n ≥ limit / 10 && (n > limit / 10 || d > limit % 10)

/-- Skips digits. -/
def skipDigits : Read Unit := do
  let bytes ← read
  let start ← get
  let rec go (i : Nat) : Nat → Nat
    | 0 => i
    | fuel + 1 => match bytes[i]? with
      | some b => if isDigit b then go (i + 1) fuel else i
      | none => i
  set (go start (bytes.size - start + 1))

/-- Reads an exponent after `e` and builds the double. -/
def exponentPart (positive : Bool) (significand : Nat) (start : Int) : Read Float := do
  eat
  let positiveExp ← match ← peek with
    | some 43 => do eat; pure true
    | some 45 => do eat; pure false
    | _ => pure true
  let first ← match ← next with
    | none => fail .eofValue
    | some b => if isDigit b then pure (b.toNat - 48) else fail .invalidNumber
  let bytes ← read
  let rec go (e : Nat) : Nat → Read (Option Nat)
    | 0 => return some e
    | fuel + 1 => do
      match ← peek with
      | some b =>
        if isDigit b then
          eat
          let d := b.toNat - 48
          if overflows e d i32Max.toNat then return none
          go (e * 10 + d) fuel
        else return some e
      | none => return some e
  match ← go first (bytes.size + 1) with
  | none =>
    if significand != 0 && positiveExp then fail .numberOutOfRange
    skipDigits
    return if positive then 0.0 else -0.0
  | some e =>
    let total := if positiveExp then start + e else start - e
    let clamped := max (-(Int.pow 2 31)) (min i32Max total)
    fromParts positive significand clamped

/-- Reads a fraction after `.` and builds the double. -/
def fractionPart (positive : Bool) (significand : Nat) (before : Int) : Read Float := do
  eat
  let bytes ← read
  let rec go (s : Nat) (after : Int) : Nat → Read (Nat × Int × Bool)
    | 0 => return (s, after, false)
    | fuel + 1 => do
      match ← peek with
      | some b =>
        if isDigit b then
          let d := b.toNat - 48
          if overflows s d u64Max then return (s, after, true)
          eat
          go (s * 10 + d) (after - 1) fuel
        else return (s, after, false)
      | none => return (s, after, false)
  let (s, after, overflowed) ← go significand 0 (bytes.size + 1)
  if overflowed then
    skipDigits
    match ← peek with
    | some 101 | some 69 => exponentPart positive s (before + after)
    | _ => fromParts positive s (before + after)
  else
    if after == 0 then
      match ← peek with
      | some _ => failNext .invalidNumber
      | none => failNext .eofValue
    match ← peek with
    | some 101 | some 69 => exponentPart positive s (before + after)
    | _ => fromParts positive s (before + after)

/-- The rest of a number after its integer digits. -/
def numberRest (positive : Bool) (significand : Nat) : Read Number := do
  match ← peek with
  | some 46 => return .float (← fractionPart positive significand 0)
  | some 101 | some 69 => return .float (← exponentPart positive significand 0)
  | _ =>
    if positive then return .nat significand
    else if 1 ≤ significand && significand ≤ Nat.pow 2 63 then return .negative significand
    else return .float (-(Float.ofNat significand))

/-- Integer digits beyond 64 bits: they only scale the significand. -/
def longInteger (positive : Bool) (significand : Nat) : Read Float := do
  let bytes ← read
  let rec go (e : Nat) : Nat → Read Float
    | 0 => fromParts positive significand e
    | fuel + 1 => do
      match ← peek with
      | some b =>
        if isDigit b then eat; go (e + 1) fuel
        else if b == 46 then fractionPart positive significand e
        else if b == 101 || b == 69 then exponentPart positive significand e
        else fromParts positive significand e
      | none => fromParts positive significand e
  go 0 (bytes.size + 1)

/-- Reads a number (after its sign). -/
def number (positive : Bool) : Read Number := do
  match ← next with
  | none => fail .eofValue
  | some 48 =>
    match ← peek with
    | some b => if isDigit b then failNext .invalidNumber else numberRest positive 0
    | none => numberRest positive 0
  | some c =>
    if 49 ≤ c && c ≤ 57 then
      let bytes ← read
      let rec go (s : Nat) : Nat → Read Number
        | 0 => numberRest positive s
        | fuel + 1 => do
          match ← peek with
          | some b =>
            if isDigit b then
              let d := b.toNat - 48
              if overflows s d u64Max then return .float (← longInteger positive s)
              eat
              go (s * 10 + d) fuel
            else numberRest positive s
          | none => numberRest positive s
      go (c.toNat - 48) (bytes.size + 1)
    else fail .invalidNumber

/-- The fault for a value of the wrong kind, found by reading it. -/
def invalidType (expected : String) : Read α := do
  match ← peek with
  | some 110 => eat; keyword [117, 108, 108]; mismatch (AdvisoryTrace.invalidType .json .unit expected)
  | some 116 => eat; keyword [114, 117, 101]
                mismatch (AdvisoryTrace.invalidType .json (.bool true) expected)
  | some 102 => eat; keyword [97, 108, 115, 101]
                mismatch (AdvisoryTrace.invalidType .json (.bool false) expected)
  | some 45 => eat; let n ← number false
               mismatch (AdvisoryTrace.invalidType .json n.unexpected expected)
  | some 34 => eat; let s ← stringBody
               mismatch (AdvisoryTrace.invalidType .json (.str s) expected)
  | some 91 => mismatch (AdvisoryTrace.invalidType .json .seq expected)
  | some 123 => mismatch (AdvisoryTrace.invalidType .json .map expected)
  | some b =>
    if isDigit b then
      let n ← number true
      mismatch (AdvisoryTrace.invalidType .json n.unexpected expected)
    else failNext .expectedValue
  | none => failNext .expectedValue

/-- Accepts a number for a numeric shape or raises the mismatch. -/
def numberAs (shape : Shape) (n : Number) : Read Value :=
  match shape, n with
  | .real, .nat k => return .num (.float (Float.ofNat k))
  | .real, .negative k => return .num (.float (-(Float.ofNat k)))
  | .real, .float f => return .num (.float f)
  | .byte, .nat k =>
    if k ≤ 255 then return .num (.nat k)
    else mismatch (invalidValue .json (.unsigned k) "u8")
  | .size, .nat k => return .num (.nat k)
  | s, .negative k => mismatch (invalidValue .json (.signed (-(k : Int))) s.expectation)
  | s, n => mismatch (AdvisoryTrace.invalidType .json n.unexpected s.expectation)

/-- Skips one value, checking its syntax only. -/
def skipValue : Read Unit := do
  let bytes ← read
  -- `stack` holds the open containers (`true` for an array), innermost first
  let rec scalarOrOpen : Read (Option Bool) := do
    match ← skipBlanks with
    | none => failNext .eofValue
    | some 110 => eat; keyword [117, 108, 108]; return none
    | some 116 => eat; keyword [114, 117, 101]; return none
    | some 102 => eat; keyword [97, 108, 115, 101]; return none
    | some 45 => eat; skipNumber; return none
    | some 34 => eat; skipString; return none
    | some 91 => eat; return some true
    | some 123 => eat; return some false
    | some b => if isDigit b then skipNumber; return none else failNext .expectedValue
  let rec closeLoop (stack : List Bool) (acceptComma : Bool) : Nat → Read (Option (List Bool))
    | 0 => return none
    | fuel + 1 => do
      match stack with
      | [] => return none
      | frame :: outer =>
        match ← skipBlanks with
        | some 44 =>
          if acceptComma then eat; return some stack
          else return some stack
        | some 93 =>
          if frame then eat; closeLoop outer true fuel
          else if acceptComma then failNext .expectedObjectCommaOrEnd else return some stack
        | some 125 =>
          if !frame then eat; closeLoop outer true fuel
          else if acceptComma then failNext .expectedListCommaOrEnd else return some stack
        | some _ =>
          if acceptComma then
            failNext (if frame then .expectedListCommaOrEnd else .expectedObjectCommaOrEnd)
          else return some stack
        | none => failNext (if frame then .eofList else .eofObject)
  let rec loop (stack : List Bool) : Nat → Read Unit
    | 0 => return
    | fuel + 1 => do
      let opened ← scalarOrOpen
      let (stack', acceptComma) := match opened with
        | some frame => (frame :: stack, false)
        | none => (stack, true)
      if stack'.isEmpty then return
      match ← closeLoop stack' acceptComma (bytes.size + 1) with
      | none => return
      | some s =>
        match s with
        | false :: _ =>
          match ← skipBlanks with
          | some 34 => eat
          | some _ => failNext .keyMustBeString
          | none => failNext .eofObject
          skipString
          match ← skipBlanks with
          | some 58 => eat
          | some _ => failNext .expectedColon
          | none => failNext .eofObject
          loop s fuel
        | _ => loop s fuel
  loop [] (bytes.size + 2)
where
  /-- Skips a number's syntax. -/
  skipNumber : Read Unit := do
    match ← next with
    | some 48 =>
      match ← peek with
      | some b => if isDigit b then failNext .invalidNumber
      | none => pure ()
    | some b => if 49 ≤ b && b ≤ 57 then skipDigits else fail .invalidNumber
    | none => fail .invalidNumber
    match ← peek with
    | some 46 =>
      eat
      match ← peek with
      | some b => if isDigit b then skipDigits else failNext .invalidNumber
      | none => failNext .invalidNumber
      match ← peek with
      | some 101 | some 69 => skipExponent
      | _ => pure ()
    | some 101 | some 69 => skipExponent
    | _ => pure ()
  /-- Skips an exponent's syntax. -/
  skipExponent : Read Unit := do
    eat
    match ← peek with
    | some 43 | some 45 => eat
    | _ => pure ()
    match ← next with
    | some b => if isDigit b then skipDigits else fail .invalidNumber
    | none => fail .invalidNumber
  /-- Skips a string's syntax (after its opening quote). -/
  skipString : Read Unit := do
    let bytes ← read
    let rec go : Nat → Read Unit
      | 0 => fail .eofString
      | fuel + 1 => do
        match ← peek with
        | none => fail .eofString
        | some 34 => eat
        | some 92 =>
          eat
          match ← next with
          | none => fail .eofString
          | some c =>
            if c == 117 then discard hexQuad
            else if [34, 92, 47, 98, 102, 110, 114, 116].contains c then pure ()
            else fail .invalidEscape
          go fuel
        | some c => if c < 32 then fail .controlCharacter else eat; go fuel
    go (bytes.size + 1)

/-- Expects a colon between a key and its value. -/
def colon : Read Unit := do
  match ← skipBlanks with
  | some 58 => eat
  | some _ => failNext .expectedColon
  | none => failNext .eofObject

/-- Closes an array after its items were read. -/
def closeArray : Read Unit := do
  match ← skipBlanks with
  | some 93 => eat
  | some 44 =>
    eat
    match ← skipBlanks with
    | some 93 => failNext .trailingComma
    | _ => failNext .trailingCharacters
  | some _ => failNext .trailingCharacters
  | none => failNext .eofList

/-- Closes an object after its members were read. -/
def closeObject : Read Unit := do
  match ← skipBlanks with
  | some 125 => eat
  | some 44 => failNext .trailingComma
  | some _ => failNext .trailingCharacters
  | none => failNext .eofObject

/-- Moves to the next item of an array: `none` at its end. -/
def nextItem (first : Bool) : Read (Option Unit) := do
  let c ← match ← skipBlanks with
    | some 93 => return none
    | some 44 => if first then failNext .expectedListCommaOrEnd else eat; skipBlanks
    | some b => if first then pure (some b) else failNext .expectedListCommaOrEnd
    | none => failNext .eofList
  match c with
  | some 93 => failNext .trailingComma
  | some _ => return some ()
  | none => failNext .eofValue

/-- Reads the next key of an object: `none` at its end. -/
def nextKey (first : Bool) : Read (Option String) := do
  let c ← match ← skipBlanks with
    | some 125 => return none
    | some 44 => if first then failNext .expectedObjectCommaOrEnd else eat; skipBlanks
    | some b => if first then pure (some b) else failNext .expectedObjectCommaOrEnd
    | none => failNext .eofObject
  match c with
  | some 34 => eat; return some (← stringBody)
  | some 125 => failNext .trailingComma
  | some _ => failNext .keyMustBeString
  | none => failNext .eofValue

/-- Runs the reading of a container's contents and its closing; a fault of the contents wins,
and is placed after the closing was tried. -/
def container (contents : Read α) (close : Read Unit) : Read α := do
  let r ← attempt contents
  let c ← attempt close
  match r, c with
  | .ok v, .ok () => return v
  | .error f, _ => throw (← place f)
  | .ok _, .error f => throw (← place f)

/-- Enters a nested container, refusing nesting beyond the limit. -/
def enter (depth : Nat) : Read Nat := do
  if depth ≤ 1 then failNext .recursionLimit
  eat
  return depth - 1

/-- Reads a name among `variants`. -/
def variantName (variants : List String) : Read String := do
  match ← skipBlanks with
  | none => failNext .eofValue
  | some 34 =>
    eat
    let s ← stringBody
    if variants.contains s then return s
    else placing (mismatch (unknownVariant s variants))
  | some _ => placing (invalidType "variant identifier")

/-- The fields of a record in declared order, absent ones filled or reported. -/
def complete (fields : List (String × Shape × Bool)) (found : List (String × Value)) :
    Read (List (String × Value)) :=
  fields.mapM fun (key, shape, defaulted) =>
    match found.lookup key with
    | some v => return (key, v)
    | none =>
      match shape with
      | .optional _ => return (key, .null)
      | _ => if defaulted then return (key, shape.emptyValue) else mismatch (missingField key)

mutual
/-- Reads a value of the asked shape. `depth` counts the nesting still allowed. -/
def shaped (depth : Nat) : Nat → Shape → Read Value
  | 0, _ => failNext .recursionLimit
  | fuel + 1, shape => mark do
    match shape with
    | .text =>
      match ← skipBlanks with
      | none => failNext .eofValue
      | some 34 => eat; return .str (← stringBody)
      | some _ => placing (invalidType "a string")
    | .real | .byte | .size =>
      match ← skipBlanks with
      | none => failNext .eofValue
      | some 45 => eat; let n ← number false; placing (numberAs shape n)
      | some b =>
        if isDigit b then let n ← number true; placing (numberAs shape n)
        else placing (invalidType shape.expectation)
    | .unit =>
      match ← skipBlanks with
      | none => failNext .eofValue
      | some 110 => eat; keyword [117, 108, 108]; return .null
      | some _ => placing (invalidType "unit")
    | .optional inner =>
      match ← skipBlanks with
      | some 110 => eat; keyword [117, 108, 108]; return .null
      | _ => shaped depth fuel inner
    | .list item =>
      match ← skipBlanks with
      | none => failNext .eofValue
      | some 91 =>
        let d ← enter depth
        container (return .arr (← items d fuel item 0)) closeArray
      | some _ => placing (invalidType "a sequence")
    | .choice _ variants =>
      match ← skipBlanks with
      | some 123 =>
        let d ← enter depth
        let v ← variantName variants
        colon
        discard (shaped d fuel .unit)
        match ← skipBlanks with
        | some 125 => eat; return .str v
        | some _ => fail .expectedValue
        | none => fail .eofObject
      | some 34 => return .str (← variantName variants)
      | some _ => failNext .expectedValue
      | none => failNext .eofValue
    | .record name fields =>
      match ← skipBlanks with
      | none => failNext .eofValue
      | some 91 =>
        let d ← enter depth
        container (return .obj (← positional d fuel name fields.length 0 fields)) closeArray
      | some 123 =>
        let d ← enter depth
        container (do
          let found ← members d fuel fields true []
          return .obj (← complete fields found)) closeObject
      | some _ => placing (invalidType ("struct " ++ name))

/-- Reads the items of an array. -/
def items (depth : Nat) : Nat → Shape → Nat → Read (List Value)
  | 0, _, _ => failNext .recursionLimit
  | fuel + 1, item, index => do
    match ← nextItem (index == 0) with
    | none => return []
    | some () =>
      let v ← under (.index index) (shaped depth fuel item)
      return v :: (← items depth fuel item (index + 1))

/-- Reads a record's fields from an array, in order. -/
def positional (depth : Nat) : Nat → String → Nat → Nat → List (String × Shape × Bool) →
    Read (List (String × Value))
  | 0, _, _, _, _ => failNext .recursionLimit
  | _, _, _, _, [] => return []
  | fuel + 1, name, count, index, (key, shape, defaulted) :: rest => do
    match ← nextItem (index == 0) with
    | some () =>
      let v ← under (.index index) (shaped depth fuel shape)
      return (key, v) :: (← positional depth fuel name count (index + 1) rest)
    | none =>
      if defaulted then
        -- an absent defaulted field ends the array for all that follow
        let tail ← positional depth fuel name count (index + 1) rest
        return (key, shape.emptyValue) :: tail
      else mismatch (invalidLength index (Shape.recordLength name count))

/-- Reads an object's members; known fields once each, others skipped. -/
def members (depth : Nat) : Nat → List (String × Shape × Bool) → Bool →
    List (String × Value) → Read (List (String × Value))
  | 0, _, _, _ => failNext .recursionLimit
  | fuel + 1, fields, first, found => do
    match ← nextKey first with
    | none => return found
    | some key =>
      match fields.find? (fun f => f.1 == key) with
      | some (_, shape, _) =>
        if (found.lookup key).isSome then mismatch (duplicateField key)
        colon
        let v ← under (.key key) (shaped depth fuel shape)
        members depth fuel fields false (found ++ [(key, v)])
      | none =>
        colon
        under (.key key) (mark skipValue)
        members depth fuel fields false found
end

mutual
/-- Reads any value. Members of an object with a repeated key keep the last value. -/
def anyValue (depth : Nat) : Nat → Read Value
  | 0 => failNext .recursionLimit
  | fuel + 1 => placing do
    match ← skipBlanks with
    | none => failNext .eofValue
    | some 110 => eat; keyword [117, 108, 108]; return .null
    | some 116 => eat; keyword [114, 117, 101]; return .bool true
    | some 102 => eat; keyword [97, 108, 115, 101]; return .bool false
    | some 45 => eat; return .num (← number false)
    | some 34 => eat; return .str (← stringBody)
    | some 91 =>
      let d ← enter depth
      container (return .arr (← anyItems d fuel true)) closeArray
    | some 123 =>
      let d ← enter depth
      container (return .obj (← anyMembers d fuel true [])) closeObject
    | some b => if isDigit b then return .num (← number true) else failNext .expectedValue

/-- Reads the items of an array of any values. -/
def anyItems (depth : Nat) : Nat → Bool → Read (List Value)
  | 0, _ => failNext .recursionLimit
  | fuel + 1, first => do
    match ← nextItem first with
    | none => return []
    | some () =>
      let v ← anyValue depth fuel
      return v :: (← anyItems depth fuel false)

/-- Reads the members of an object of any values. -/
def anyMembers (depth : Nat) : Nat → Bool → List (String × Value) → Read (List (String × Value))
  | 0, _, _ => failNext .recursionLimit
  | fuel + 1, first, found => do
    match ← nextKey first with
    | none => return found
    | some key =>
      colon
      let v ← anyValue depth fuel
      let found' :=
        if (found.lookup key).isSome then found.map fun (k, w) => if k == key then (k, v) else (k, w)
        else found ++ [(key, v)]
      anyMembers depth fuel false found'
end

/-- Expects nothing but blanks after the value. -/
def finish : Read Unit := do
  match ← skipBlanks with
  | some _ => failNext .trailingCharacters
  | none => pure ()

end Read

/-- Runs a reader over bytes. -/
def runRead (bytes : ByteArray) (act : Read α) : Except Fault α :=
  ((act.run bytes).run.run 0).1

/-- Nesting allowed below the top level. -/
def depthLimit : Nat := 128

/-- Reads a whole text as a value of the asked shape. -/
def readBytesAs (bytes : ByteArray) (shape : Shape) : Except Fault Value :=
  runRead bytes do
    let v ← Read.shaped depthLimit (4 * bytes.size + 16) shape
    Read.finish
    return v

/-- Reads a whole text as a value of the asked shape. -/
def readAs (text : String) (shape : Shape) : Except Fault Value :=
  readBytesAs text.toUTF8 shape

/-- Reads a whole text as any value. -/
def parseBytes (bytes : ByteArray) : Except Fault Value :=
  runRead bytes do
    let v ← Read.anyValue depthLimit (4 * bytes.size + 16)
    Read.finish
    return v

/-- Reads a whole text as any value. -/
def parse (text : String) : Except Fault Value :=
  parseBytes text.toUTF8

end AdvisoryTrace.Json
