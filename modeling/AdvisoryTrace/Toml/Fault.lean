import AdvisoryTrace.Toml.Value

/-!
# Why a TOML text is refused

A reading of TOML text stops at a place in the text. On its way out of the readings that
contain it, a stop gathers notes: the name of what was being read (`invalid key`) and what
would have been accepted there (`expected ``.``, ``=```). A stop is either open, and then an
enclosing reading may try another way from where it began, or final, and then the whole text
is refused. A stop may also carry the rule the text broke, such as a key given twice.

A refusal is reported with an excerpt of the text: the line and column of the place, the
line itself, and carets under the stretch it points at.
-/

namespace AdvisoryTrace.Toml

/-- Something a reading looked for where it stopped. -/
inductive Sought where
  | char (c : Char)
  | text (s : String)
  | description (s : String)
  deriving Repr

/-- How a sought thing is named: a line feed as `newline`, characters and texts quoted. -/
def Sought.name : Sought → String
  | .char '\n' => "newline"
  | .char c => "`" ++ c.toString ++ "`"
  | .text s => "`" ++ s ++ "`"
  | .description s => s

/-- A note that a stop gathers: what was being read, or what was looked for. -/
inductive Note where
  | label (what : String)
  | sought (s : Sought)
  deriving Repr

/-- Where and why a reading stopped: the offset (in characters) where it stopped, whether it
is final, its notes from the innermost reading out, and the rule the text broke. -/
structure Stop where
  pos : Nat
  final : Bool := false
  notes : List Note := []
  cause : Option String := none
  deriving Repr

namespace Stop

/-- The first name of what was being read. -/
def label? (s : Stop) : Option String :=
  s.notes.findSome? fun n => match n with
    | .label w => some w
    | .sought _ => none

/-- Everything that was looked for, in the order the notes were gathered. -/
def sought (s : Stop) : List String :=
  s.notes.filterMap fun n => match n with
    | .sought x => some x.name
    | .label _ => none

/-- The message of a stop: `invalid` and the innermost label, then what was expected, then
the broken rule, each on its own line when present. -/
def message (s : Stop) : String :=
  "\n".intercalate ((s.label?.map ("invalid " ++ ·)).toList ++
    (if s.sought.isEmpty then [] else ["expected " ++ ", ".intercalate s.sought]) ++
    s.cause.toList)

end Stop

/-- What a refusal points at: one character at an offset, all of its bytes (nothing at the
end of the text), or a stretch of the text. -/
inductive Spot where
  | point (pos : Nat)
  | stretch (span : Span)
  deriving Repr

/-- A refusal of a TOML text: its message and, when it has one, what it points at. -/
structure Diagnosis where
  message : String
  spot : Option Spot := none
  deriving Repr

namespace Diagnosis

/-- The number of bytes of the text's characters between two offsets. -/
def byteWidth (cs : List Char) (start stop : Nat) : Nat :=
  ((cs.drop start).take (stop - start)).foldl (fun n c => n + c.utf8Size) 0

/-- The line and column (from zero) of an offset. The column counts characters, except where
the character at the offset is outside ASCII, where it counts bytes; past the end it is one
more than the column of the last character. -/
def position (cs : List Char) (pos : Nat) : Nat × Nat :=
  if cs.isEmpty then (0, pos)
  else
    let safe := min pos (cs.length - 1)
    let before := cs.take safe
    let line := before.count '\n'
    let lineStart := before.length - (before.reverse.takeWhile (· != '\n')).length
    let column := match cs[safe]? with
      | some c => if pos == safe && c.toNat ≥ 0x80 then byteWidth cs lineStart safe else safe - lineStart
      | none => safe - lineStart
    (line, column + (pos - safe))

/-- A run of `n` copies of a character. -/
def run (n : Nat) (c : Char) : String := String.ofList (List.replicate n c)

/-- The report of a refusal of `text`: with an excerpt when it points somewhere. -/
def render (d : Diagnosis) (text : String) : String :=
  match d.spot with
  | none => d.message ++ "\n"
  | some spot =>
    let cs := text.toList
    let (start, width) := match spot with
      | .point pos => (pos, (cs[pos]?.map Char.utf8Size).getD 0)
      | .stretch s => (s.start, byteWidth cs s.start s.stop)
    let (line, column) := position cs start
    let number := toString (line + 1)
    let content := ((text.splitOn "\n")[line]?).getD ""
    let highlight := min width (content.utf8ByteSize - column)
    let pad := run (number.length + 1) ' '
    "TOML parse error at line " ++ number ++ ", column " ++ toString (column + 1) ++ "\n" ++
      pad ++ "|\n" ++
      number ++ " | " ++ content ++ "\n" ++
      pad ++ "|" ++ run (column + 1) ' ' ++ "^" ++ run (highlight - 1) '^' ++ "\n" ++
      d.message ++ "\n"

end Diagnosis

end AdvisoryTrace.Toml
