import AdvisoryTrace.Text.Blank
import AdvisoryTrace.Text.Identifier

/-!
# Rust tokens

Rust source text as token trees: identifiers (possibly raw, `r#name`), punctuation characters
with their spacing, literals by kind with their text, and groups delimited by parentheses,
brackets or braces. Blanks and comments separate tokens; a doc comment becomes the attribute it
stands for (`#[doc = "..."]`, with `!` for an inner one). The text `(/*ERROR*/)`, which stands
for a literal that could not be written, is a literal of its own. Text that does not lex (an
unclosed group, an unterminated literal, a stray character, a lifetime followed by `#`) is
refused as a whole.

Each lexing step reports how many characters its token takes; the main loop drops that many,
and ends because every step takes at least one.
-/

namespace AdvisoryTrace.Source

/-- The delimiters of a group. -/
inductive Delimiter where
  | paren
  | bracket
  | brace
  deriving BEq, DecidableEq, Repr

/-- The kinds of literal. -/
inductive LiteralKind where
  | str
  | byteStr
  | cStr
  | byte
  | char
  | int
  | float
  /-- The text `(/*ERROR*/)`. -/
  | placeholder
  deriving BEq, DecidableEq, Repr

/-- A token tree. An identifier's name spells one; a punctuation character is joint when
another one follows it directly; a literal keeps its text as written (a doc comment's, its
comment text). -/
inductive TokenTree where
  | group (delimiter : Delimiter) (tokens : List TokenTree)
  | ident (name : String) (raw : Bool) (valid : Text.isIdentBody name.toList = true)
  | punct (c : Char) (joint : Bool)
  | literal (kind : LiteralKind) (text : String)
  deriving Repr, Inhabited

namespace Lex

/-- Whether `cs` starts with the characters of `p`. -/
def startsWith (cs : List Char) (p : String) : Bool := p.toList.isPrefixOf cs

/-- Blank characters: the Unicode white space and the two direction marks. -/
def isSpace (c : Char) : Bool := Text.isBlank c || c.toNat == 0x200e || c.toNat == 0x200f

/-- The characters before the end of the line: a newline, or a carriage return right before
one. -/
def lineLength : List Char → Nat
  | [] => 0
  | '\n' :: _ => 0
  | '\r' :: '\n' :: _ => 0
  | _ :: rest => lineLength rest + 1

/-- The length of the block comment at the front, nested comments balanced, if it closes. -/
def blockCommentLength (cs : List Char) : Option Nat :=
  go cs 0 0
where
  go : List Char → Nat → Nat → Option Nat
    | '/' :: '*' :: rest, depth, n => go rest (depth + 1) (n + 2)
    | '*' :: '/' :: rest, depth, n => if depth ≤ 1 then some (n + 2) else go rest (depth - 1) (n + 2)
    | _ :: rest, depth, n => go rest depth (n + 1)
    | [], _, _ => none

/-- How many characters the blank or plain comment at the front takes; zero when none. -/
def blankStep (cs : List Char) : Nat :=
  if startsWith cs "//" && (!startsWith cs "///" || startsWith cs "////") && !startsWith cs "//!" then
    lineLength cs
  else if startsWith cs "/**/" then 4
  else if startsWith cs "/*" && (!startsWith cs "/**" || startsWith cs "/***") && !startsWith cs "/*!" then
    (blockCommentLength cs).getD 0
  else
    match cs with
    | c :: _ => if isSpace c then 1 else 0
    | [] => 0

/-- How many characters the blanks and plain comments at the front take. -/
def blankCount (cs : List Char) : Nat :=
  match cs with
  | [] => 0
  | c :: rest =>
    let n := blankStep (c :: rest)
    if _ : 0 < n then n + blankCount ((c :: rest).drop n) else 0
termination_by cs.length
decreasing_by simp only [List.length_drop, List.length_cons]; omega

/-- The value of a hexadecimal digit. -/
def hexDigit? (c : Char) : Option Nat :=
  if c.isDigit then some (c.toNat - 48)
  else if 'a' ≤ c && c ≤ 'f' then some (c.toNat - 87)
  else if 'A' ≤ c && c ≤ 'F' then some (c.toNat - 55)
  else none

/-- Whether a number is a Unicode scalar value. -/
def isScalar (n : Nat) : Bool := n < 0xd800 || (0xdfff < n && n ≤ 0x10ffff)

/-- A braced Unicode escape after its `u`: up to six hex digits, underscores after the first,
then `}`. Gives the characters taken and the value. -/
def unicodeEscape (cs : List Char) : Option (Nat × Nat) :=
  match cs with
  | '{' :: rest => go rest 0 0 1
  | _ => none
where
  go : List Char → Nat → Nat → Nat → Option (Nat × Nat)
    | c :: rest, v, len, n =>
      match hexDigit? c with
      | some d => if len == 6 then none else go rest (v * 16 + d) (len + 1) (n + 1)
      | none =>
        if c == '_' && 0 < len then go rest v len (n + 1)
        else if c == '}' && 0 < len then (if isScalar v then some (n + 1, v) else none)
        else none
    | [], _, _, _ => none

/-- The characters an identifier takes at the front (not raw); zero when none starts. -/
def identLength (cs : List Char) : Nat :=
  match cs with
  | c :: rest => if Text.isIdentStart c then (rest.takeWhile Text.isIdentContinue).length + 1 else 0
  | [] => 0

/-- The characters an identifier takes at the front spell it. -/
theorem isIdentBody_take_identLength {cs : List Char} (h : identLength cs ≠ 0) :
    Text.isIdentBody (cs.take (identLength cs)) = true := by
  match cs, h with
  | c :: rest, h =>
    simp only [identLength] at h ⊢
    by_cases hc : Text.isIdentStart c = true
    · rw [if_pos hc, List.take_succ_cons, ← List.prefix_iff_eq_take.mp (List.takeWhile_prefix _)]
      simp [Text.isIdentBody, hc, List.all_takeWhile]
    · simp [hc] at h

/-- Characters taken by a literal's suffix. -/
def suffixLength (cs : List Char) : Nat := identLength cs

/-- What may follow a string's line-ending backslash: blanks and line ends, then anything. -/
def skipContinuation : List Char → Nat → Option Nat
  | ' ' :: rest, n => skipContinuation rest (n + 1)
  | '\t' :: rest, n => skipContinuation rest (n + 1)
  | '\n' :: rest, n => skipContinuation rest (n + 1)
  | '\r' :: '\n' :: rest, n => skipContinuation rest (n + 2)
  | '\r' :: _, _ => none
  | _ :: _, n => some n
  | [], _ => none

/-- The three flavours of quoted literal: text, bytes, and NUL-free text. -/
inductive Flavour where
  | text
  | bytes
  | nulFree
  deriving BEq

/-- The body of a quoted literal after its opening quote, through the closing quote. -/
def quotedLength (f : Flavour) (cs : List Char) : Option Nat :=
  go cs 0 false
where
  go : List Char → Nat → Bool → Option Nat
    | [], _, _ => none
    | c :: rest, n, true =>
      -- after a line-ending backslash: skip blanks and line ends
      if c == ' ' || c == '\t' || c == '\n' then go rest (n + 1) true
      else if c == '\r' then
        match rest with
        | '\n' :: rest' => go rest' (n + 2) true
        | _ => none
      else go (c :: rest) n false
    | '"' :: _, n, false => some (n + 1)
    | '\r' :: '\n' :: rest, n, false => go rest (n + 2) false
    | '\r' :: _, _, false => none
    | '\\' :: 'x' :: a :: b :: rest, n, false =>
      let ok := match f with
        | .text => '0' ≤ a && a ≤ '7' && (hexDigit? b).isSome
        | .bytes => (hexDigit? a).isSome && (hexDigit? b).isSome
        | .nulFree => (hexDigit? a).isSome && (hexDigit? b).isSome && !(a == '0' && b == '0')
      if ok then go rest (n + 4) false else none
    | '\\' :: 'u' :: rest, n, false =>
      if f == .bytes then none
      else
        match unicodeEscape rest with
        | some (k, v) => if f == .nulFree && v == 0 then none else go (rest.drop k) (n + 2 + k) false
        | none => none
    | '\\' :: '\n' :: rest, n, false => go rest (n + 2) true
    | '\\' :: '\r' :: '\n' :: rest, n, false => go rest (n + 3) true
    | '\\' :: c :: rest, n, false =>
      if c == 'n' || c == 'r' || c == 't' || c == '\\' || c == '\'' || c == '"' || (c == '0' && f != .nulFree) then
        go rest (n + 2) false
      else none
    | c :: rest, n, false =>
      if f == .bytes && 128 ≤ c.toNat then none
      else if f == .nulFree && c.toNat == 0 then none
      else go rest (n + 1) false
  termination_by cs _ skipping => 2 * cs.length + skipping.toNat
  decreasing_by
    all_goals simp only [List.length_cons, List.length_drop, Bool.toNat_true, Bool.toNat_false]
    all_goals omega

/-- The body of a raw literal after its opening quote, closed by a quote and `hashes` hashes. -/
def rawBodyLength (f : Flavour) (hashes : Nat) : List Char → Nat → Option Nat
  | [], _ => none
  | '"' :: rest, n =>
    if rest.length ≥ hashes && (rest.take hashes).all (· == '#') then some (n + 1 + hashes)
    else rawBodyLength f hashes rest (n + 1)
  | '\r' :: '\n' :: rest, n => rawBodyLength f hashes rest (n + 2)
  | '\r' :: _, _ => none
  | c :: rest, n =>
    if f == .bytes && 128 ≤ c.toNat then none
    else if f == .nulFree && c.toNat == 0 then none
    else rawBodyLength f hashes rest (n + 1)

/-- A raw literal after its `r`: hashes (at most 255), a quote, the body. -/
def rawLength (f : Flavour) (cs : List Char) : Option Nat :=
  let hashes := (cs.takeWhile (· == '#')).length
  match cs.drop hashes with
  | '"' :: rest =>
    if hashes > 255 then none
    else (rawBodyLength f hashes rest 0).map (hashes + 1 + ·)
  | _ => none

/-- A quoted or raw literal with the given prefixes, its suffix included. -/
def stringish (f : Flavour) (quoted raw : String) (cs : List Char) : Option Nat :=
  let withSuffix (n : Nat) := n + suffixLength (cs.drop n)
  if startsWith cs quoted then
    (quotedLength f (cs.drop quoted.length)).map fun n => withSuffix (quoted.length + n)
  else if startsWith cs raw then
    (rawLength f (cs.drop raw.length)).map fun n => withSuffix (raw.length + n)
  else none

/-- A byte literal `b'x'`: one ASCII character or escape, then the closing quote. -/
def byteLength (cs : List Char) : Option Nat :=
  if !startsWith cs "b'" then none
  else
    let body : Option Nat :=
      match cs.drop 2 with
      | '\\' :: 'x' :: a :: b :: _ => if (hexDigit? a).isSome && (hexDigit? b).isSome then some 4 else none
      | '\\' :: c :: _ =>
        if c == 'n' || c == 'r' || c == 't' || c == '\\' || c == '0' || c == '\'' || c == '"' then some 2
        else none
      | c :: _ => if c.toNat < 128 then some 1 else none
      | [] => none
    match body with
    | some k =>
      match cs.drop (2 + k) with
      | '\'' :: _ => some (3 + k + suffixLength (cs.drop (3 + k)))
      | _ => none
    | none => none

/-- A character literal `'x'`: one character or escape, then the closing quote. -/
def charLength (cs : List Char) : Option Nat :=
  match cs with
  | '\'' :: rest =>
    let body : Option Nat :=
      match rest with
      | '\\' :: 'x' :: a :: b :: _ => if '0' ≤ a && a ≤ '7' && (hexDigit? b).isSome then some 4 else none
      | '\\' :: 'u' :: more => (unicodeEscape more).map (2 + ·.1)
      | '\\' :: c :: _ =>
        if c == 'n' || c == 'r' || c == 't' || c == '\\' || c == '0' || c == '\'' || c == '"' then some 2
        else none
      | _ :: _ => some 1
      | [] => none
    match body with
    | some k =>
      match rest.drop k with
      | '\'' :: _ => some (2 + k + suffixLength (rest.drop (k + 1)))
      | _ => none
    | none => none
  | [] => none
  | _ :: _ => none

/-- Whether a number ends where a word may end: no identifier character follows. -/
def wordBreak (cs : List Char) : Bool :=
  match cs with
  | c :: _ => !Text.isIdentContinue c
  | [] => true

/-- The digits of a decimal float (a point or an exponent is required), before any suffix. -/
def floatDigits (cs : List Char) : Option Nat :=
  match cs with
  | c :: rest => if c.isDigit then mantissa rest 1 false else none
  | [] => none
where
  mantissa : List Char → Nat → Bool → Option Nat
    | c :: rest, len, dot =>
      if c.isDigit || c == '_' then mantissa rest (len + 1) dot
      else if c == '.' then
        if dot then finish len dot false (c :: rest)
        else
          match rest with
          | d :: _ => if d == '.' || Text.isIdentStart d then none else mantissa rest (len + 1) true
          | [] => mantissa rest (len + 1) true
      else if c == 'e' || c == 'E' then exponent rest (len + 1) dot len false false
      else finish len dot false (c :: rest)
    | [], len, dot => finish len dot false []
  finish (len : Nat) (dot exp : Bool) (_ : List Char) : Option Nat :=
    if dot || exp then some len else none
  exponent : List Char → Nat → Bool → Nat → Bool → Bool → Option Nat
    | c :: rest, len, dot, before, sign, value =>
      if c == '+' || c == '-' then
        if value then done len dot before value
        else if sign then (if dot then some before else none)
        else exponent rest (len + 1) dot before true value
      else if c.isDigit then exponent rest (len + 1) dot before sign true
      else if c == '_' then exponent rest (len + 1) dot before sign value
      else done len dot before value
    | [], len, dot, before, _, value => done len dot before value
  done (len : Nat) (dot : Bool) (before : Nat) (value : Bool) : Option Nat :=
    if value then some len else if dot then some before else none

/-- A float literal: its digits, an optional suffix, then a word break. -/
def floatLength (cs : List Char) : Option Nat :=
  match floatDigits cs with
  | some n =>
    let rest := cs.drop n
    let n := match rest with
      | c :: _ => if Text.isIdentStart c then n + identLength rest else n
      | [] => n
    if wordBreak (cs.drop n) then some n else none
  | none => none

/-- The digits of an integer in its base (`0x`, `0o`, `0b` or decimal), underscores allowed
after the first digit. -/
def intDigits (cs : List Char) : Option Nat :=
  let (base, skip) :=
    if startsWith cs "0x" then (16, 2) else if startsWith cs "0o" then (8, 2)
    else if startsWith cs "0b" then (2, 2) else (10, 0)
  (go base (cs.drop skip) 0 true).map (skip + ·)
where
  go (base : Nat) : List Char → Nat → Bool → Option Nat
    | c :: rest, len, empty =>
      if c.isDigit then
        if c.toNat - 48 ≥ base then none else go base rest (len + 1) false
      else if ('a' ≤ c && c ≤ 'f') || ('A' ≤ c && c ≤ 'F') then
        if base ≤ 10 then (if empty then none else some len) else go base rest (len + 1) false
      else if c == '_' then
        if empty && base == 10 then none else go base rest (len + 1) empty
      else if empty then none else some len
    | [], len, empty => if empty then none else some len

/-- An integer literal: its digits, an optional suffix, then a word break. -/
def intLength (cs : List Char) : Option Nat :=
  match intDigits cs with
  | some n =>
    let rest := cs.drop n
    let n := match rest with
      | c :: _ => if Text.isIdentStart c then n + identLength rest else n
      | [] => n
    if wordBreak (cs.drop n) then some n else none
  | none => none

/-- The literal at the front, by kind and length. -/
def literal? (cs : List Char) : Option (LiteralKind × Nat) :=
  match stringish .text "\"" "r" cs with
  | some n => some (.str, n)
  | none =>
  match stringish .bytes "b\"" "br" cs with
  | some n => some (.byteStr, n)
  | none =>
  match stringish .nulFree "c\"" "cr" cs with
  | some n => some (.cStr, n)
  | none =>
  match byteLength cs with
  | some n => some (.byte, n)
  | none =>
  match charLength cs with
  | some n => some (.char, n)
  | none =>
  match floatLength cs with
  | some n => some (.float, n)
  | none => (intLength cs).map fun n => (.int, n)

/-- The punctuation characters. -/
def isPunctChar (c : Char) : Bool := "~!@#$%^&*-=+|;:,<.>/?'".toList.contains c

/-- A punctuation character at the front; a slash that opens a comment is not one. -/
def punctChar? (cs : List Char) : Option Char :=
  if startsWith cs "//" || startsWith cs "/*" then none
  else
    match cs with
    | c :: _ => if isPunctChar c then some c else none
    | [] => none

/-- An identifier at the front, raw or not: its name, rawness and length. The raw form does
not take `_`, `super`, `self`, `Self` or `crate`. -/
def identAny? (cs : List Char) : Option (String × Bool × Nat) :=
  let raw := startsWith cs "r#"
  let rest := if raw then cs.drop 2 else cs
  let n := identLength rest
  if n == 0 then none
  else
    let name := String.ofList (rest.take n)
    if raw && ["_", "super", "self", "Self", "crate"].contains name then none
    else some (name, raw, n + (if raw then 2 else 0))

/-- An identifier read at the front is spelled as one. -/
theorem identAny?_valid {cs : List Char} {name : String} {raw : Bool} {n : Nat}
    (h : identAny? cs = some (name, raw, n)) : Text.isIdentBody name.toList = true := by
  unfold identAny? at h
  simp only at h
  -- the name is read the same way after an optional raw prefix
  generalize (if startsWith cs "r#" = true then cs.drop 2 else cs) = rest at h
  split at h
  · exact absurd h (by simp)
  · rename_i h0
    split at h
    · exact absurd h (by simp)
    · obtain ⟨rfl, -, -⟩ := Prod.mk.inj (Option.some.inj h).symm
      rw [String.toList_ofList]
      exact isIdentBody_take_identLength (by simpa using h0)

/-- A punctuation token at the front and its spacing. A quote must start a lifetime: an
identifier followed by neither another quote nor, unless it is raw, a `#`. -/
def punct? (cs : List Char) : Option (Char × Bool) :=
  match punctChar? cs with
  | some '\'' =>
    match identAny? (cs.drop 1) with
    | some (_, _, n) =>
      match cs.drop (1 + n) with
      | '\'' :: _ => none
      | '#' :: _ => if startsWith (cs.drop 1) "r#" then some ('\'', true) else none
      | _ => some ('\'', true)
    | none => none
  | some c => some (c, (punctChar? (cs.drop 1)).isSome)
  | none => none

/-- The prefixes that belong to literals, never to identifiers. -/
def literalPrefixes : List String :=
  ["r\"", "r#\"", "r##", "b\"", "b'", "br\"", "br#", "c\"", "cr\"", "cr#"]

/-- An identifier token at the front. -/
def ident? (cs : List Char) : Option (String × Bool × Nat) :=
  if literalPrefixes.any (startsWith cs) then none else identAny? cs

theorem ident?_valid {cs : List Char} {name : String} {raw : Bool} {n : Nat}
    (h : ident? cs = some (name, raw, n)) : Text.isIdentBody name.toList = true := by
  unfold ident? at h
  split at h
  · cases h
  · exact identAny?_valid h

/-- A doc comment at the front: its length, whether it is inner, and its text. -/
def docComment? (cs : List Char) : Option (Nat × Bool × List Char) :=
  if startsWith cs "//!" then
    let n := lineLength (cs.drop 3)
    some (3 + n, true, (cs.drop 3).take n)
  else if startsWith cs "/*!" then
    (blockCommentLength cs).map fun n => (n, true, (cs.take (n - 2)).drop 3)
  else if startsWith cs "///" then
    if startsWith (cs.drop 3) "/" then none
    else
      let n := lineLength (cs.drop 3)
      some (3 + n, false, (cs.drop 3).take n)
  else if startsWith cs "/**" && !startsWith (cs.drop 3) "*" then
    (blockCommentLength cs).map fun n => (n, false, (cs.take (n - 2)).drop 3)
  else none

/-- Whether a text has a carriage return that no newline follows. -/
def hasBareReturn : List Char → Bool
  | '\r' :: '\n' :: rest => hasBareReturn rest
  | '\r' :: _ => true
  | _ :: rest => hasBareReturn rest
  | [] => false

/-- The tokens a doc comment stands for: `#`, `!` if inner, and `[doc = "..."]`. -/
def docTokens (inner : Bool) (text : List Char) : List TokenTree :=
  let attr := TokenTree.group .bracket
    [.ident "doc" false rfl, .punct '=' false, .literal .str (String.ofList text)]
  if inner then [attr, .punct '!' false, .punct '#' false] else [attr, .punct '#' false]

/-- The text that stands for a literal that could not be written. -/
def placeholderText : String := "(/*ERROR*/)"

/-- The token at the front that is not a delimiter, and its length. -/
def leaf? (cs : List Char) : Option (TokenTree × Nat) :=
  match literal? cs with
  | some (kind, n) => some (.literal kind (String.ofList (cs.take n)), n)
  | none =>
    match punct? cs with
    | some (c, joint) => some (.punct c joint, 1)
    | none =>
      match h : ident? cs with
      | some (name, raw, n) => some (.ident name raw (ident?_valid h), n)
      | none =>
        if startsWith cs placeholderText then
          some (.literal .placeholder placeholderText, placeholderText.length)
        else none

/-- An open group: its delimiter and the trees before it, newest first. -/
structure Frame where
  delimiter : Delimiter
  outer : List TokenTree

/-- The delimiter a character opens. -/
def opens : Char → Option Delimiter
  | '(' => some .paren
  | '[' => some .bracket
  | '{' => some .brace
  | _ => none

/-- The delimiter a character closes. -/
def closes : Char → Option Delimiter
  | ')' => some .paren
  | ']' => some .bracket
  | '}' => some .brace
  | _ => none

/-- Lexes from `cs` with the open groups `stack` and the trees so far, newest first. -/
def trees (cs : List Char) (stack : List Frame) (acc : List TokenTree) : Option (List TokenTree) :=
  let rest := cs.drop (blankCount cs)
  have hr : rest.length ≤ cs.length := by simp [rest]
  match h : rest with
  | [] => if stack.isEmpty then some acc.reverse else none
  | c :: tail =>
    let doc := docComment? (c :: tail)
    match doc with
    | some (n, inner, text) =>
      if hn : 0 < n ∧ !hasBareReturn text then
        trees ((c :: tail).drop n) stack (docTokens inner text ++ acc)
      else plain c tail stack acc
    | none => plain c tail stack acc
termination_by 2 * cs.length + 1
decreasing_by
  all_goals simp only [List.length_drop, List.length_cons] at *
  all_goals omega
where
  /-- One token that is not a doc comment, at `c :: tail`. -/
  plain (c : Char) (tail : List Char) (stack : List Frame) (acc : List TokenTree) :
      Option (List TokenTree) :=
    match (if startsWith (c :: tail) placeholderText then none else opens c) with
    | some d => trees tail (⟨d, acc⟩ :: stack) []
    | none =>
      match closes c with
      | some d =>
        match stack with
        | frame :: outer =>
          if frame.delimiter == d then trees tail outer (.group d acc.reverse :: frame.outer)
          else none
        | [] => none
      | none =>
        match leaf? (c :: tail) with
        | some (t, n) => if hn : 0 < n then trees ((c :: tail).drop n) stack (t :: acc) else none
        | none => none
  termination_by 2 * (tail.length + 1)
  decreasing_by
    all_goals (try simp only [List.length_drop, List.length_cons] at *)
    all_goals omega

end Lex

/-- The token trees of a text, or nothing when it does not lex. -/
def tokenize (s : String) : Option (List TokenTree) := Lex.trees s.toList [] []

end AdvisoryTrace.Source
