import AdvisoryTrace.Json.Value
import AdvisoryTrace.Decimal.Shortest

/-!
# Writing JSON

Two layouts of one value: compact (no blanks) and pretty (two spaces per level, a line per
member, `": "` after keys, empty containers as `[]` and `{}`). Strings escape the quote, the
backslash and the controls below U+0020 (short forms for backspace, tab, line feed, form
feed and carriage return, `\u00xx` in lower-case hex otherwise); all else is written as is.
Doubles take their shortest text; non-finite doubles are written `null`.
-/

namespace AdvisoryTrace.Json

/-- Hexadecimal digit in lower case. -/
def hexDigit (n : Nat) : Char :=
  if n < 10 then Char.ofNat (48 + n) else Char.ofNat (87 + n)

/-- The escaped form of one character inside a JSON string. -/
def escapeChar (c : Char) : List Char :=
  match c with
  | '"' => ['\\', '"']
  | '\\' => ['\\', '\\']
  | '\n' => ['\\', 'n']
  | '\r' => ['\\', 'r']
  | '\t' => ['\\', 't']
  | '\x08' => ['\\', 'b']
  | '\x0c' => ['\\', 'f']
  | c =>
    if c.toNat < 0x20 then
      ['\\', 'u', '0', '0', hexDigit (c.toNat / 16), hexDigit (c.toNat % 16)]
    else [c]

/-- A string as a JSON string literal. -/
def quote (s : String) : String :=
  String.ofList ('"' :: s.toList.flatMap escapeChar ++ ['"'])

/-- The text of a number. -/
def Number.text : Number → String
  | .nat n => toString n
  | .negative n => "-" ++ toString n
  | .float f =>
    if f.isNaN || f.isInf then "null"
    else Decimal.SignedDecimal.scientific (Decimal.shortest f)

mutual
/-- Compact text of a value. -/
def Value.compact : Value → String
  | .null => "null"
  | .bool b => if b then "true" else "false"
  | .num n => n.text
  | .str s => quote s
  | .arr items => "[" ++ ",".intercalate (compactItems items) ++ "]"
  | .obj fields => "\x7b" ++ ",".intercalate (compactFields fields) ++ "\x7d"

/-- Compact texts of array items. -/
def compactItems : List Value → List String
  | [] => []
  | v :: rest => v.compact :: compactItems rest

/-- Compact texts of object members. -/
def compactFields : List (String × Value) → List String
  | [] => []
  | (k, v) :: rest => (quote k ++ ":" ++ v.compact) :: compactFields rest
end

/-- Indentation of a nesting level. -/
def indent (level : Nat) : String := String.ofList (List.replicate (2 * level) ' ')

mutual
/-- Pretty text of a value whose first line is already indented to `level`. -/
def Value.pretty (level : Nat) : Value → String
  | .arr [] => "[]"
  | .obj [] => "\x7b\x7d"
  | .arr items =>
    "[\n" ++ ",\n".intercalate (prettyItems (level + 1) items) ++ "\n" ++ indent level ++ "]"
  | .obj fields =>
    "\x7b\n" ++ ",\n".intercalate (prettyFields (level + 1) fields) ++ "\n" ++ indent level ++ "\x7d"
  | v => v.compact

/-- Pretty texts of array items, each indented. -/
def prettyItems (level : Nat) : List Value → List String
  | [] => []
  | v :: rest => (indent level ++ v.pretty level) :: prettyItems level rest

/-- Pretty texts of object members, each indented. -/
def prettyFields (level : Nat) : List (String × Value) → List String
  | [] => []
  | (k, v) :: rest => (indent level ++ quote k ++ ": " ++ v.pretty level) :: prettyFields level rest
end

/-- Pretty text of a value at the top level. -/
def Value.prettyText (v : Value) : String := v.pretty 0

end AdvisoryTrace.Json
