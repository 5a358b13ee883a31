import AdvisoryTrace.Text.Blank
import AdvisoryTrace.Text.Alphanumeric

/-!
# Environment files

A `.env` file sets environment variables that are not set already. A byte order mark at its
start is dropped, and a line that is not UTF-8 ends the reading.

The file is read in logical lines. A line goes on past its line break while a quote is open or
a backslash waits for its character, so quoted values may span lines; after a blank (outside
quotes) a `#` starts a comment that ends the line; and a line whose first non-blank character
is `#` is a comment. The file must not end inside a quote, after a backslash or after a blank.

A logical line, without its trailing blanks, is blank, a comment, or `KEY=value`, optionally
after `export`. A key starts with an ASCII letter or `_` and goes on with ASCII letters, digits,
`_` and `.`; blanks may stand around the `=`.

A value is read character by character: single quotes keep what they hold as it is, double
quotes allow the escapes `\\`, `\'`, `\"`, `\$`, `\ ` and `\n`, and a backslash outside quotes
escapes the same way. `$NAME` and `${NAME}` are replaced by the variable of that name (from the
environment, else from a line above, else nothing), where a bare name is made of letters and
numbers. A space or tab outside quotes ends the value: only spaces, tabs or a `#` comment may
follow. Reading stops at the first line that does not read; the lines above it still count.

Blanks here are the characters with the Unicode `White_Space` property.
-/

namespace AdvisoryTrace.Daemon

/-- Where a stretch of a file leaves the reading of a logical line: done, after a backslash,
inside single or double quotes (perhaps after a backslash there), or after a blank. -/
inductive Continuation where
  | complete
  | escape
  | strong
  | strongEscape
  | weak
  | weakEscape
  | blank
  deriving BEq

namespace Continuation

/-- The state after one more character; a `#` after a blank is a comment, which the caller
sees first. -/
def next : Continuation → Char → Continuation
  | .escape, _ => .complete
  | .weak, c => if c == '\\' then .weakEscape else if c == '"' then .complete else .weak
  | .weakEscape, _ => .weak
  | .strong, c => if c == '\\' then .strongEscape else if c == '\'' then .complete else .strong
  | .strongEscape, _ => .strong
  | .blank, c =>
    if c == '\\' then .escape else if c == '"' then .weak else if c == '\'' then .strong
    else .complete
  | .complete, c =>
    if Text.isBlank c && c != '\n' && c != '\r' then .blank
    else if c == '\\' then .escape else if c == '"' then .weak else if c == '\'' then .strong
    else .complete

/-- Reads a physical line from a state: where a comment starts in it, or the state at its
end. -/
def scan (st : Continuation) : List Char → Sum Nat Continuation
  | [] => .inr st
  | c :: cs =>
    if st == .blank && c == '#' then .inl 0
    else match scan (st.next c) cs with
      | .inl k => .inl (k + 1)
      | .inr s => .inr s

end Continuation

/-- Cuts bytes after each line feed: the lines of a file, each with its line break. -/
def byteLines : List UInt8 → List UInt8 → List (List UInt8)
  | [], acc => if acc.isEmpty then [] else [acc.reverse]
  | b :: rest, acc => if b == 10 then (b :: acc).reverse :: byteLines rest [] else byteLines rest (b :: acc)

/-- The physical lines of a file, each with its line break; none for a line that is not
UTF-8. -/
def physicalLines (bytes : List UInt8) : List (Option (List Char)) :=
  (byteLines bytes []).map fun l => (String.fromUTF8? (ByteArray.mk l.toArray)).map (·.toList)

/-- Drops a line break (with a carriage return before it) at the end. -/
def dropBreak (cs : List Char) : List Char :=
  match cs.reverse with
  | '\n' :: '\r' :: rest => rest.reverse
  | '\n' :: rest => rest.reverse
  | _ => cs

/-- Joins physical lines into logical ones, going on from `buf` read in state `st`; `none`
marks a line that is not UTF-8 or a file that ends in the middle of a line. -/
def logicalLines (buf : List Char) (st : Continuation) :
    List (Option (List Char)) → List (Option (List Char))
  | [] => if st == .complete then [] else [none]
  | none :: _ => [none]
  | some l :: ls =>
    let whole := buf ++ l
    if (whole.dropWhile Text.isBlank).head? == some '#' then some [] :: logicalLines [] .complete ls
    else match Continuation.scan st l with
      | .inl k => some (buf ++ l.take k) :: logicalLines [] .complete ls
      | .inr .complete => some (dropBreak whole) :: logicalLines [] .complete ls
      | .inr s => logicalLines whole s ls

/-- How a `$` reference is being read. -/
inductive Reference where
  | none
  | bare
  | braced
  deriving BEq

/-- The state of reading a value. -/
structure ValueScan where
  out : String := ""
  strong : Bool := false
  weak : Bool := false
  escaped : Bool := false
  expectingEnd : Bool := false
  done : Bool := false
  failed : Bool := false
  reference : Reference := .none
  name : String := ""

/-- Reads a value; `lookup` gives what a reference stands for. -/
def readValue (lookup : String → String) (cs : List Char) : Option String :=
  let step (s : ValueScan) (c : Char) : ValueScan :=
    if s.done || s.failed then s
    else if s.expectingEnd then
      if c == ' ' || c == '\t' then s
      else if c == '#' then { s with done := true }
      else { s with failed := true }
    else if s.escaped then
      if "\\'\"$ ".contains c then { s with out := s.out.push c, escaped := false }
      else if c == 'n' then { s with out := s.out.push '\n', escaped := false }
      else { s with failed := true }
    else if s.strong then
      if c == '\'' then { s with strong := false } else { s with out := s.out.push c }
    else if s.reference != .none then
      if Text.isAlphanumeric c then { s with name := s.name.push c }
      else
        match s.reference with
        | .braced =>
          if c == '\x7d' then { s with reference := .none, out := s.out ++ lookup s.name, name := "" }
          else { s with name := s.name.push c }
        | _ =>
          if c == '\x7b' && s.name.isEmpty then { s with reference := .braced }
          else
            let s := { s with out := s.out ++ lookup s.name, name := "" }
            if c == '$' then { s with reference := .bare }
            else { s with reference := .none, out := s.out.push c }
    else if c == '$' then { s with reference := .bare }
    else if s.weak then
      if c == '"' then { s with weak := false }
      else if c == '\\' then { s with escaped := true }
      else { s with out := s.out.push c }
    else if c == '\'' then { s with strong := true }
    else if c == '"' then { s with weak := true }
    else if c == '\\' then { s with escaped := true }
    else if c == ' ' || c == '\t' then { s with expectingEnd := true }
    else { s with out := s.out.push c }
  let s := cs.foldl step {}
  if s.failed || s.reference == .braced || s.strong || s.weak then none
  else some (s.out ++ lookup s.name)

/-- Reads a key from the start of a line, with the rest. -/
def readKey (cs : List Char) : Option (String × List Char) :=
  match cs with
  | c :: _ =>
    if (c.toNat < 128 && c.isAlpha) || c == '_' then
      let key := cs.takeWhile fun c => (c.toNat < 128 && c.isAlphanum) || c == '_' || c == '.'
      some (String.ofList key, cs.drop key.length)
    else none
  | [] => none

/-- Drops blanks at the start. -/
def dropBlanks (cs : List Char) : List Char := cs.dropWhile Text.isBlank

/-- Reads one logical line: nothing for a blank or comment line, a key and value, or a
refusal. -/
def readLine (lookup : String → String) (line : List Char) :
    Except Unit (Option (String × String)) := do
  let cs := dropBlanks (Text.dropBlanksRight line)
  if cs.isEmpty || cs.head? == some '#' then return none
  let some (key, rest) := readKey cs | throw ()
  let rest := dropBlanks rest
  let (key, rest) ← match key, rest with
    | _, '=' :: more => pure (key, more)
    | "export", _ =>
      let some (key, more) := readKey rest | throw ()
      match dropBlanks more with
      | '=' :: more => pure (key, more)
      | _ => throw ()
    | _, _ => throw ()
  let rest := dropBlanks rest
  if rest.isEmpty || rest.head? == some '#' then return some (key, "")
  match readValue lookup rest with
  | some v => return some (key, v)
  | none => throw ()

/-- The variables a file sets over an environment, in order, stopping at the first line that
does not read. A variable already set keeps its value, also one set by a line above; a
reference sees the environment with what the lines above set. -/
def envFileVars (env : List (String × String)) (bytes : List UInt8) : List (String × String) :=
  let bytes := match bytes with
    | 0xEF :: 0xBB :: 0xBF :: rest => rest
    | bs => bs
  let step (acc : List (String × String) × Bool) (line : Option (List Char)) :=
    let (set, stopped) := acc
    if stopped then acc
    else
      let lookup := fun name => ((env.lookup name).orElse fun _ => set.lookup name).getD ""
      match line.map (readLine lookup) with
      | some (.ok (some (k, v))) =>
        if (env.lookup k).isSome || (set.lookup k).isSome then (set, false) else (set ++ [(k, v)], false)
      | some (.ok none) => (set, false)
      | some (.error ()) | none => (set, true)
  ((logicalLines [] .complete (physicalLines bytes)).foldl step ([], false)).1

end AdvisoryTrace.Daemon
