/-!
# Delimiter nesting depth

A quick byte scan that finds how deeply `(`, `[` and `{` nest in a source text, so that a
file too deep for the parser is refused before it is parsed. The scan skips comments (block
comments nest), string literals (with escapes), raw strings (`r"…"`, `r#"…"#`, also after
`b`), and character literals; a quote that does not start a character literal is a
lifetime and is passed over. A closing delimiter at depth zero leaves the depth at zero.

The scan is deliberately rough: it only looks at bytes, and a few odd texts (a lone `'\\`
at the end, a raw string that never closes) are read in whatever way its simple rules give.
-/

namespace AdvisoryTrace.Source

namespace Nesting

/-- Whether a byte may belong to an identifier: an ASCII letter, digit or underscore. -/
def isWordByte (b : UInt8) : Bool :=
  (48 ≤ b && b ≤ 57) || (65 ≤ b && b ≤ 90) || (97 ≤ b && b ≤ 122) || b == 95

/-- The text from the end of the current line on (the newline is kept). -/
def lineRest : List UInt8 → List UInt8
  | [] => []
  | 10 :: rest => 10 :: rest
  | _ :: rest => lineRest rest

/-- The text after a block comment whose opening is already taken, with `open` comments
still to close. -/
def blockRest : Nat → List UInt8 → List UInt8
  | 0, cs => cs
  | _, [] => []
  | n + 1, 47 :: 42 :: rest => blockRest (n + 2) rest
  | n + 1, 42 :: 47 :: rest => blockRest n rest
  | n + 1, _ :: rest => blockRest (n + 1) rest

/-- The text after a quoted string whose opening quote is taken; a backslash skips the next
byte. -/
def quotedRest : List UInt8 → List UInt8
  | [] => []
  | 34 :: rest => rest
  | 92 :: _ :: rest => quotedRest rest
  | [92] => []
  | _ :: rest => quotedRest rest

/-- The text after a raw string whose opening is taken: it ends at a quote followed by as many
`#` as it opened with. -/
def rawRest (hashes : Nat) : List UInt8 → List UInt8
  | [] => []
  | 34 :: rest =>
    if ((rest.take hashes).filter (· == 35)).length == hashes then rest.drop hashes
    else rawRest hashes rest
  | _ :: rest => rawRest hashes rest

/-- The text after the next single quote. -/
def charRest : List UInt8 → List UInt8
  | [] => []
  | 39 :: rest => rest
  | _ :: rest => charRest rest

/-- The number of `#` at the front. -/
def hashCount : List UInt8 → Nat
  | 35 :: rest => hashCount rest + 1
  | _ => 0

/-- Whether an `r` (with this text after it) opens a raw string: `#`s and then a quote. -/
def opensRaw (rest : List UInt8) : Bool :=
  (rest.drop (hashCount rest)).head? == some 34

/-- Where the scan stands: the bytes left, whether the byte before them may belong to an
identifier other than a `b`, the current depth and the deepest seen. -/
structure State where
  rest : List UInt8
  wordBefore : Bool
  depth : Nat
  deepest : Nat

/-- One step of the scan at byte `b` with `rest` after it: a delimiter moves the depth, a
comment or a literal is passed over whole, and any other byte is passed alone. -/
def step (b : UInt8) (rest : List UInt8) (wordBefore : Bool) (depth deepest : Nat) : State :=
  if b == 40 || b == 91 || b == 123 then ⟨rest, false, depth + 1, max deepest (depth + 1)⟩
  else if b == 41 || b == 93 || b == 125 then ⟨rest, false, depth - 1, deepest⟩
  else if b == 47 && rest.head? == some 47 then ⟨lineRest rest, false, depth, deepest⟩
  else if b == 47 && rest.head? == some 42 then ⟨blockRest 1 (rest.drop 1), false, depth, deepest⟩
  else if b == 114 && !wordBefore && opensRaw rest then
    let hashes := hashCount rest
    ⟨rawRest hashes (rest.drop (hashes + 1)), false, depth, deepest⟩
  else if b == 34 then ⟨quotedRest rest, false, depth, deepest⟩
  else if b == 39 then
    if rest.head? == some 92 then ⟨charRest (rest.drop 2), false, depth, deepest⟩
    else if rest[1]? == some 39 then ⟨rest.drop 2, false, depth, deepest⟩
    else ⟨rest, false, depth, deepest⟩
  else ⟨rest, isWordByte b && b != 98, depth, deepest⟩

/-- The scan from a state to the end of its bytes, giving the deepest nesting seen. `fuel`
exceeds the number of bytes left, and every step takes at least one byte. -/
def scan : Nat → State → Nat
  | 0, s => s.deepest
  | _ + 1, ⟨[], _, _, deepest⟩ => deepest
  | fuel + 1, ⟨b :: rest, wordBefore, depth, deepest⟩ =>
    scan fuel (step b rest wordBefore depth deepest)

end Nesting

/-- The deepest nesting of `(`, `[` and `{` in a text, outside comments and literals. -/
def maxNesting (src : String) : Nat :=
  let bytes := src.toUTF8.toList
  Nesting.scan (bytes.length + 1) ⟨bytes, false, 0, 0⟩

end AdvisoryTrace.Source
