import AdvisoryTrace.Source.Token

/-!
# Integer literals and tuple indices

What the text of an integer literal stands for, and the rule for the numbers that name the
fields of a tuple (`t.0`, `S { 0: x }`).

An integer literal is an optional base prefix (`0x`, `0o`, `0b`), digits of that base with `_`
anywhere, and a suffix: the rest of the text, which is empty or an identifier. A decimal text
with a `.` or an exponent is a float instead, and so is a text whose digits do not fit the base.

A field index is an integer literal without a suffix whose value fits in 32 bits. Where a float
literal follows the dot of a field access (`t.0.1`), it stands for several indices, one for each
part of its text between dots; a float ending in a dot ends with an index whose own dot opens
the next field.
-/

namespace AdvisoryTrace.Source

namespace Literal

/-- The value of a digit in a base, if it is one. -/
def digitValue (base : Nat) (c : Char) : Option Nat :=
  let v := if c.isDigit then some (c.toNat - 48)
    else if 'a' ≤ c && c ≤ 'f' then some (c.toNat - 87)
    else if 'A' ≤ c && c ≤ 'F' then some (c.toNat - 55)
    else none
  v.bind fun d => if d < base then some d else none

/-- Whether an exponent follows a decimal `e`: digits and `_`, with no sign, until the text
ends or an identifier starts after at least one digit. -/
def exponentAhead : List Char → Bool → Bool
  | [], digits => digits
  | c :: rest, digits =>
    if c == '_' then exponentAhead rest digits
    else if c == '+' || c == '-' then true
    else if c.isDigit then exponentAhead rest true
    else digits && Text.isIdentStart c && rest.all Text.isIdentContinue

/-- Reads digits of a base from the front: the value so far, whether a digit was read, and
what follows; none when the text reads as a float. -/
def digits (base : Nat) : List Char → Nat → Bool → Option (Nat × Bool × List Char)
  | [], v, seen => some (v, seen, [])
  | c :: rest, v, seen =>
    if c == '_' then digits base rest v seen
    else if base == 10 && c == '.' then none
    else if base == 10 && (c == 'e' || c == 'E') then
      if exponentAhead rest false then none else some (v, seen, c :: rest)
    else if c.isDigit || (base > 10 && (digitValue 16 c).isSome) then
      match digitValue base c with
      | some d => digits base rest (v * base + d) true
      | none => none
    else some (v, seen, c :: rest)

/-- Whether a text is an identifier (a suffix). -/
def isSuffix : List Char → Bool
  | [] => false
  | c :: rest => (Text.isIdentStart c) && rest.all Text.isIdentContinue

/-- The value and suffix of an integer literal's text; none when the text is not one. -/
def intParts? (text : String) : Option (Nat × String) := do
  let (base, body) := match text.toList with
    | '0' :: 'x' :: rest => (16, rest)
    | '0' :: 'o' :: rest => (8, rest)
    | '0' :: 'b' :: rest => (2, rest)
    | cs => (10, cs)
  if base == 10 && !(body.head?.any Char.isDigit) then none
  let (v, seen, rest) ← digits base body 0 false
  if !seen then none
  if rest.isEmpty || isSuffix rest then some (v, String.ofList rest) else none

/-- The largest field index and one: indices have 32 bits. -/
def indexBound : Nat := Nat.pow 2 32

/-- The field index an integer literal's text names, or why it names none. -/
def indexOf (text : String) : Except String Nat :=
  match intParts? text with
  | none => .error "expected integer literal"
  | some (v, suffix) =>
    if !suffix.isEmpty then .error "expected unsuffixed integer"
    else if v ≥ indexBound then .error "number too large to fit in target type"
    else .ok v

/-- The field index a part of a float's text names: the part must be an integer literal on
its own. -/
def partIndex (part : String) : Except String Nat :=
  match Lex.literal? part.toList with
  | some (.int, n) => if n == part.length then indexOf part else .error "expected integer literal"
  | _ => .error "expected integer literal"

/-- The field indices a float literal's text names after a dot, and whether it ends in a dot
(so that another field follows). -/
def floatIndices (text : String) : Except String (List Nat × Bool) := do
  let trailing := text.endsWith "."
  let body := if trailing then (text.dropEnd 1).toString else text
  let indices ← (body.splitOn ".").mapM partIndex
  return (indices, trailing)

end Literal

end AdvisoryTrace.Source
