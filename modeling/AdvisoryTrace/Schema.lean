import AdvisoryTrace.Json.Value
import AdvisoryTrace.Text.Quoted
import AdvisoryTrace.Decimal.Shortest

/-!
# Shapes of expected data

What a reader of structured text (JSON, TOML) is asked for: a string, a double, a byte, a
size, an optional or a list of something, one of several names, or a record of named fields.
A reader returns a `Json.Value` of the asked shape; this module also holds the wording of the
mismatches a reader reports: what it found, what it expected, which field is missing or
repeated, and which name is unknown.
-/

namespace AdvisoryTrace

/-- The shape of data a reader is asked for. A record lists its fields with their shapes and
whether a missing field takes the empty value of its shape. -/
inductive Shape where
  | text
  | real
  | byte
  | size
  | unit
  | optional (inner : Shape)
  | list (item : Shape)
  | choice (name : String) (variants : List String)
  | record (name : String) (fields : List (String × Shape × Bool))

namespace Shape

/-- What a mismatch message says was expected. -/
def expectation : Shape → String
  | .text => "a string"
  | .real => "f64"
  | .byte => "u8"
  | .size => "usize"
  | .unit => "unit"
  | .optional _ => "option"
  | .list _ => "a sequence"
  | .choice name _ => "enum " ++ name
  | .record name _ => "struct " ++ name

/-- The value a missing field takes: `null` for an optional, the empty list or text for a
defaulted field. -/
def emptyValue : Shape → Json.Value
  | .list _ => .arr []
  | .text => .str ""
  | .real => .num (.float 0)
  | .byte | .size => .num (.nat 0)
  | _ => .null

/-- A shape without its optional wrappers, and whether it had any. -/
def unwrapOptional : Shape → Bool × Shape
  | .optional inner => (true, (unwrapOptional inner).2)
  | s => (false, s)

/-- The seq-form expectation of a record: `struct R with n elements` (`1 element`). -/
def recordLength (name : String) (count : Nat) : String :=
  "struct " ++ name ++ " with " ++ toString count ++ (if count == 1 then " element" else " elements")

end Shape

/-- What a reader found where it expected something else. -/
inductive Unexpected where
  | bool (b : Bool)
  | unsigned (n : Nat)
  | signed (n : Int)
  | float (f : Float)
  | str (s : String)
  | unit
  | seq
  | map

/-- How a family of readers words the null value and doubles in its messages. -/
structure MismatchStyle where
  unitWord : String
  floatText : Float → String

/-- The JSON reader names `null` and writes doubles in their shortest scientific form. -/
def MismatchStyle.json : MismatchStyle :=
  ⟨"null", Decimal.floatText Decimal.SignedDecimal.scientific⟩

/-- Positional double text that always shows a decimal point. -/
def pointedFloat (f : Float) : String :=
  let t := Decimal.floatText Decimal.SignedDecimal.positional f
  if f.isNaN || f.isInf || t.toList.contains '.' then t else t ++ ".0"

/-- Other readers say `unit value` and write doubles positionally with a point. -/
def MismatchStyle.plain : MismatchStyle :=
  ⟨"unit value", pointedFloat⟩

/-- The description of a found value. -/
def Unexpected.describe (style : MismatchStyle) : Unexpected → String
  | .bool b => "boolean `" ++ (if b then "true" else "false") ++ "`"
  | .unsigned n => "integer `" ++ toString n ++ "`"
  | .signed n => "integer `" ++ toString n ++ "`"
  | .float f => "floating point `" ++ style.floatText f ++ "`"
  | .str s => "string " ++ Text.quoted s
  | .unit => style.unitWord
  | .seq => "sequence"
  | .map => "map"

/-- `invalid type: FOUND, expected WHAT`. -/
def invalidType (style : MismatchStyle) (found : Unexpected) (expected : String) : String :=
  "invalid type: " ++ found.describe style ++ ", expected " ++ expected

/-- `invalid value: FOUND, expected WHAT`. -/
def invalidValue (style : MismatchStyle) (found : Unexpected) (expected : String) : String :=
  "invalid value: " ++ found.describe style ++ ", expected " ++ expected

/-- `invalid length N, expected WHAT`. -/
def invalidLength (n : Nat) (expected : String) : String :=
  "invalid length " ++ toString n ++ ", expected " ++ expected

/-- `missing field `NAME``. -/
def missingField (name : String) : String := "missing field `" ++ name ++ "`"

/-- `duplicate field `NAME``. -/
def duplicateField (name : String) : String := "duplicate field `" ++ name ++ "`"

/-- The list of allowed names in an unknown-name message. -/
def oneOf (names : List String) : String :=
  match names with
  | [a] => "`" ++ a ++ "`"
  | [a, b] => "`" ++ a ++ "` or `" ++ b ++ "`"
  | _ => "one of " ++ ", ".intercalate (names.map fun n => "`" ++ n ++ "`")

/-- `unknown variant `X`, expected ...`. -/
def unknownVariant (name : String) (variants : List String) : String :=
  if variants.isEmpty then "unknown variant `" ++ name ++ "`, there are no variants"
  else "unknown variant `" ++ name ++ "`, expected " ++ oneOf variants

end AdvisoryTrace
