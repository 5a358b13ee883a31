/-!
# Extended regular expressions

The POSIX extended regular expressions git searches commit messages with (`:/text` and
`rev^{/text}`), read as the C library reads them in the C locale, and the search asking whether
a pattern matches anywhere in a text.

What a pattern may hold:

* `.` for any character but NUL; a bracket expression `[...]`, where a first `]` stands for
  itself, a first `^` negates, `a-z` is a range in code point order, `[:alpha:]` and the other
  eleven names are classes, and `[=c=]` and `[.c.]` stand for one character; `\w`, `\W`, `\s`
  and `\S` for word and space characters;
* `^` and `$` for the start and the end of the text, wherever they stand; `\b`, `\B`, `\<` and
  `\>` for word edges, and `\` followed by a back quote or by `'` for the start and the end;
* groups in parentheses, alternatives split by `|` (either side may be empty), and `\1` to `\9`
  for the text a group already closed has matched;
* the repetitions `*`, `+`, `?`, `{m}`, `{m,}`, `{m,n}` and `{,n}`, any number of them after an
  atom;
* a `)` with no group open, a `]` or `}` alone, and `\` before any other character, which stand
  for themselves.

A pattern is refused when a repetition has nothing to repeat (at the start of a branch or
group, or after an anchor), when an interval is badly written, goes past 32767 or has its
bounds the wrong way round, when a group or bracket is not closed, when a class name is not
known, when a range is backwards or has a class at one end, when a back reference names a
group not yet closed, and when the pattern ends in `\`.
-/

namespace AdvisoryTrace.Git

/-- A named class of characters of a bracket expression, as the C locale has it. -/
inductive CharClass where
  | alpha | upper | lower | digit | xdigit | space | print | punct | graph | cntrl | blank | alnum
  deriving BEq, Repr

namespace CharClass

/-- The class a name stands for. -/
def ofName? : List Char → Option CharClass
  | ['a', 'l', 'p', 'h', 'a'] => some .alpha
  | ['u', 'p', 'p', 'e', 'r'] => some .upper
  | ['l', 'o', 'w', 'e', 'r'] => some .lower
  | ['d', 'i', 'g', 'i', 't'] => some .digit
  | ['x', 'd', 'i', 'g', 'i', 't'] => some .xdigit
  | ['s', 'p', 'a', 'c', 'e'] => some .space
  | ['p', 'r', 'i', 'n', 't'] => some .print
  | ['p', 'u', 'n', 'c', 't'] => some .punct
  | ['g', 'r', 'a', 'p', 'h'] => some .graph
  | ['c', 'n', 't', 'r', 'l'] => some .cntrl
  | ['b', 'l', 'a', 'n', 'k'] => some .blank
  | ['a', 'l', 'n', 'u', 'm'] => some .alnum
  | _ => none

/-- Whether a character is in a class. -/
def holds (k : CharClass) (c : Char) : Bool :=
  let n := c.toNat
  match k with
  | .alpha => c.isAlpha
  | .upper => c.isUpper
  | .lower => c.isLower
  | .digit => c.isDigit
  | .xdigit => c.isDigit || ('a' ≤ c && c ≤ 'f') || ('A' ≤ c && c ≤ 'F')
  | .space => n == 32 || (9 ≤ n && n ≤ 13)
  | .print => 32 ≤ n && n < 127
  | .punct => 33 ≤ n && n < 127 && !c.isAlphanum
  | .graph => 33 ≤ n && n < 127
  | .cntrl => n < 32 || n == 127
  | .blank => n == 32 || n == 9
  | .alnum => c.isAlphanum

end CharClass

/-- One member of a bracket expression: the characters from one to another, or a class. -/
inductive Member where
  | span (lo hi : Char)
  | named (k : CharClass)
  deriving BEq, Repr

/-- Whether a character is a member. -/
def Member.holds : Member → Char → Bool
  | .span lo hi, c => lo ≤ c && c ≤ hi
  | .named k, c => k.holds c

/-- Whether a character belongs to words: a letter, a digit or `_`. -/
def isWordChar (c : Char) : Bool := c.isAlphanum || c == '_'

/-- A test made at a place of the text, between two characters. -/
inductive Assertion where
  | textStart | textEnd | wordEdge | notWordEdge | wordStart | wordEnd
  deriving BEq, Repr

/-- Whether a test holds at a position of a text. -/
def Assertion.holds (text : Array Char) (pos : Nat) (a : Assertion) : Bool :=
  let before := pos > 0 && (text[pos - 1]?).any isWordChar
  let after := (text[pos]?).any isWordChar
  match a with
  | .textStart => pos == 0
  | .textEnd => pos == text.size
  | .wordEdge => before != after
  | .notWordEdge => before == after
  | .wordStart => !before && after
  | .wordEnd => before && !after

/-- A pattern, read. Groups are numbered from 1 in the order they open. -/
inductive Regex where
  | empty
  | char (c : Char)
  | any
  | bracket (negated : Bool) (members : List Member)
  | assert (a : Assertion)
  | backref (group : Nat)
  | group (index : Nat) (body : Regex)
  | seq (first rest : Regex)
  | alt (left right : Regex)
  | rep (body : Regex) (least : Nat) (most : Option Nat)
  deriving Repr

namespace Regex

/-- The word characters, as a bracket. -/
def wordChars : List Member := [.named .alnum, .span '_' '_']

/-- A pattern being read: the characters left, how many groups have opened, and the groups
closed so far that a back reference may name. -/
structure Reading where
  rest : List Char
  opened : Nat
  closed : List Nat

/-- The largest bound an interval may have. -/
def boundLimit : Nat := 32767

/-- Reads one bound of an interval up to a `,` or `}`: `-1` when there are no digits, `-2` when
something else stands there, and the number otherwise (held at one past the limit); with the
character it stopped at and what follows. None at the end of the pattern. -/
def readBound : List Char → Int → Option (Int × Char × List Char)
  | [], _ => none
  | c :: rest, acc =>
    if c == '\x7d' || c == ',' then some (acc, c, rest)
    else
      let acc : Int :=
        if !c.isDigit || acc == -2 then -2
        else if acc == -1 then (c.toNat - 48 : Nat)
        else min (boundLimit + 1 : Nat) (acc * 10 + (c.toNat - 48 : Nat))
      readBound rest acc

/-- Reads an interval after its `{`: the least and most counts (none for no most) and what
follows the `}`. -/
def readInterval (cs : List Char) : Option (Nat × Option Nat × List Char) := do
  let (first, stop, rest) ← readBound cs (-1)
  let least : Int ← if first == -1 then (if stop == ',' then some 0 else none) else some first
  if least < 0 then none
  let (most, rest) ← if stop == '\x7d' then some (least, rest) else do
    let (second, stop, rest) ← readBound rest (-1)
    if second == -2 || stop != '\x7d' then none
    some (second, rest)
  if most != -1 && least > most then none
  if (if most == -1 then least else most) > boundLimit then none
  some (least.toNat, if most == -1 then none else some most.toNat, rest)

/-- Reads the name of a class or symbol after `[:`, `[=` or `[.`, up to the same mark and `]`;
at most 31 characters. -/
def readSymbol (delim : Char) : List Char → Nat → Option (List Char × List Char)
  | [], _ => none
  | _, 0 => none
  | c :: rest, n + 1 =>
    match rest with
    | [] => none
    | ']' :: after =>
      if c == delim then some ([], after)
      else (readSymbol delim rest n).map fun (s, r) => (c :: s, r)
    | _ => (readSymbol delim rest n).map fun (s, r) => (c :: s, r)

/-- One element of a bracket expression. -/
inductive Element where
  | single (c : Char)
  | named (k : CharClass)
  | equivalent (c : Char)

/-- Reads one element of a bracket expression; a `-` may only be one when `hyphen` allows it
or a `]` follows. -/
def readElement (hyphen : Bool) : List Char → Option (Element × List Char)
  | '[' :: ':' :: rest => do
    let (name, rest) ← readSymbol ':' rest 32
    some (.named (← CharClass.ofName? name), rest)
  | '[' :: '=' :: rest => do
    match ← readSymbol '=' rest 32 with
    | ([c], rest) => some (.equivalent c, rest)
    | _ => none
  | '[' :: '.' :: rest => do
    match ← readSymbol '.' rest 32 with
    | ([c], rest) => some (.single c, rest)
    | _ => none
  | '-' :: rest =>
    if hyphen then some (.single '-', rest)
    else match rest with
      | ']' :: _ => some (.single '-', rest)
      | _ => none
  | c :: rest => some (.single c, rest)
  | [] => none

/-- The member an element stands for. -/
def Element.member : Element → Member
  | .single c | .equivalent c => .span c c
  | .named k => .named k

/-- Reads the members of a bracket expression up to its closing `]`. -/
def readMembers : Nat → Bool → List Char → List Member → Option (List Member × List Char)
  | 0, _, _, _ => none
  | fuel + 1, first, cs, acc =>
    match first, cs with
    | false, ']' :: rest => some (acc.reverse, rest)
    | _, _ => do
      let (start, rest) ← readElement first cs
      match start, rest with
      | _, [] => none
      | .single lo, '-' :: after =>
        match after with
        | [] => none
        | ']' :: _ => readMembers fuel false after (.span '-' '-' :: .span lo lo :: acc)
        | _ => do
          let (stop, rest) ← readElement true after
          match stop with
          | .single hi => if hi < lo then none else readMembers fuel false rest (.span lo hi :: acc)
          | _ => none
      | _, _ => readMembers fuel false rest (start.member :: acc)

/-- Reads a bracket expression after its `[`. -/
def readBracket (cs : List Char) : Option (Regex × List Char) :=
  let (negated, cs) := match cs with
    | '^' :: rest => (true, rest)
    | _ => (false, cs)
  if cs.isEmpty then none
  else (readMembers (cs.length + 1) true cs []).map fun (ms, rest) => (.bracket negated ms, rest)

/-- Reads the repetitions after an atom. -/
def readRepeats : Nat → Regex → Reading → Option (Regex × Reading)
  | 0, _, _ => none
  | fuel + 1, atom, st =>
    match st.rest with
    | '*' :: rest => readRepeats fuel (.rep atom 0 none) { st with rest }
    | '+' :: rest => readRepeats fuel (.rep atom 1 none) { st with rest }
    | '?' :: rest => readRepeats fuel (.rep atom 0 (some 1)) { st with rest }
    | '\x7b' :: rest => do
      let (least, most, rest) ← readInterval rest
      let atom := if least == 0 && most == some 0 then .empty else .rep atom least most
      readRepeats fuel atom { st with rest }
    | _ => some (atom, st)

/-- The test an escaped letter stands for, if it is one. -/
def escapedAssertion : Char → Option Assertion
  | 'b' => some .wordEdge
  | 'B' => some .notWordEdge
  | '<' => some .wordStart
  | '>' => some .wordEnd
  | '\x60' => some .textStart
  | '\'' => some .textEnd
  | _ => none

/-- The atom an escaped character other than a test stands for, given the groups closed. -/
def escapedAtom (closed : List Nat) (c : Char) : Option Regex :=
  if '1' ≤ c && c ≤ '9' then
    let n := c.toNat - 48
    if closed.contains n then some (.backref n) else none
  else match c with
    | 'w' => some (.bracket false wordChars)
    | 'W' => some (.bracket true wordChars)
    | 's' => some (.bracket false [.named .space])
    | 'S' => some (.bracket true [.named .space])
    | _ => some (.char c)

mutual

/-- Reads alternatives up to the end, or up to a `)` inside `nest` open groups. -/
def readAlternatives : Nat → Nat → Reading → Option (Regex × Reading)
  | 0, _, _ => none
  | fuel + 1, nest, st => do
    let (first, st') ← readBranch fuel nest st
    readMoreBranches fuel nest st.closed first st'

/-- Reads the branches after the first: each after a `|`, with the groups closed before the
alternatives as the only ones it may name. -/
def readMoreBranches : Nat → Nat → List Nat → Regex → Reading → Option (Regex × Reading)
  | 0, _, _, _, _ => none
  | fuel + 1, nest, before, acc, st =>
    match st.rest with
    | '|' :: rest =>
      let stops := match rest with
        | [] | '|' :: _ => true
        | ')' :: _ => nest > 0
        | _ => false
      if stops then readMoreBranches fuel nest before (.alt acc .empty) { st with rest }
      else do
        let (branch, st') ← readBranch fuel nest { st with rest, closed := before }
        readMoreBranches fuel nest before (.alt acc branch)
          { st' with closed := st'.closed ++ st.closed }
    | _ => some (acc, st)

/-- Reads expressions up to a `|`, the end, or a `)` inside a group. -/
def readBranch : Nat → Nat → Reading → Option (Regex × Reading)
  | 0, _, _ => none
  | fuel + 1, nest, st =>
    match st.rest with
    | [] | '|' :: _ => some (.empty, st)
    | ')' :: _ =>
      if nest > 0 then some (.empty, st)
      else do
        let (e, st) ← readExpression fuel nest st
        let (more, st) ← readBranch fuel nest st
        some (.seq e more, st)
    | _ => do
      let (e, st) ← readExpression fuel nest st
      let (more, st) ← readBranch fuel nest st
      some (.seq e more, st)

/-- Reads one atom with its repetitions; an anchor takes none. -/
def readExpression : Nat → Nat → Reading → Option (Regex × Reading)
  | 0, _, _ => none
  | fuel + 1, nest, st =>
    match st.rest with
    | '^' :: rest => some (.assert .textStart, { st with rest })
    | '$' :: rest => some (.assert .textEnd, { st with rest })
    | '*' :: _ | '+' :: _ | '?' :: _ | '\x7b' :: _ => none
    | '\\' :: c :: rest =>
      match escapedAssertion c with
      | some a => some (.assert a, { st with rest })
      | none => do readRepeats fuel (← escapedAtom st.closed c) { st with rest }
    | '(' :: rest => do
      let n := st.opened + 1
      let st := { st with rest, opened := n }
      match rest with
      | ')' :: after => readRepeats fuel (.group n .empty) { st with rest := after, closed := n :: st.closed }
      | _ =>
        let (body, st) ← readAlternatives fuel (nest + 1) st
        match st.rest with
        | ')' :: after => readRepeats fuel (.group n body) { st with rest := after, closed := n :: st.closed }
        | _ => none
    | '[' :: rest => do
      let (atom, rest) ← readBracket rest
      readRepeats fuel atom { st with rest }
    | '.' :: rest => readRepeats fuel .any { st with rest }
    | c :: rest => if c == '\\' then none else readRepeats fuel (.char c) { st with rest }
    | [] => some (.empty, st)

end

/-- Reads a pattern; none when it is refused. -/
def parse (pattern : String) : Option Regex := do
  let cs := pattern.toList
  let (r, st) ← readAlternatives (4 * cs.length + 8) 0 ⟨cs, 0, []⟩
  if st.rest.isEmpty then some r else none

/-- A measure of a pattern's size, counting the bounds of its repetitions. -/
def weight : Regex → Nat
  | .group _ b => b.weight + 1
  | .seq a b | .alt a b => a.weight + b.weight + 1
  | .rep b least most => b.weight + least + most.getD 0 + 1
  | _ => 1

/-- A place in the text being matched: the position, and where each group last matched. -/
structure Cursor where
  pos : Nat
  groups : List (Nat × Nat × Nat)

/-- Matches a pattern at a cursor and hands every place a match can end to `k`, until `k`
accepts one. Every step spends fuel, so a search that runs out gives up. -/
def run (text : Array Char) : Nat → Regex → Cursor → (Cursor → Bool) → Bool
  | 0, _, _, _ => false
  | fuel + 1, r, c, k =>
    match r with
    | .empty => k c
    | .char ch => text[c.pos]? == some ch && k { c with pos := c.pos + 1 }
    | .any => (text[c.pos]?).any (· != '\x00') && k { c with pos := c.pos + 1 }
    | .bracket negated ms =>
      (text[c.pos]?).any (fun ch => ms.any (·.holds ch) != negated) && k { c with pos := c.pos + 1 }
    | .assert a => a.holds text c.pos && k c
    | .backref n =>
      match c.groups.lookup n with
      | some (s, e) =>
        let seg := text.extract s e
        text.extract c.pos (c.pos + seg.size) == seg && k { c with pos := c.pos + seg.size }
      | none => false
    | .group n body => run text fuel body c fun d => k { d with groups := (n, c.pos, d.pos) :: d.groups }
    | .seq a b => run text fuel a c fun d => run text fuel b d k
    | .alt a b => run text fuel a c k || run text fuel b c k
    | .rep body least most =>
      (most != some 0 && run text fuel body c fun d =>
        (least > 0 || d.pos != c.pos) &&
          run text fuel (.rep body (least - 1) (most.map (· - 1))) d k) ||
      (least == 0 && k c)

/-- Whether a pattern matches somewhere in a text. -/
def search (r : Regex) (text : String) : Bool :=
  let t := text.toList.toArray
  let fuel := 4 * (t.size + 2) * (r.weight + 2)
  (List.range (t.size + 1)).any fun s => r.run t fuel ⟨s, []⟩ fun _ => true

end Regex

end AdvisoryTrace.Git
