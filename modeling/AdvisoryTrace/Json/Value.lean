/-!
# JSON values

A JSON document as data: numbers keep the reader's three kinds (unsigned and negative 64-bit
integers, and doubles), objects keep their members in order.
-/

namespace AdvisoryTrace.Json

/-- A JSON number: an integer in `0 .. 2^64 - 1`, a negative integer `-n` with
`n ≤ 2^63`, or a double. -/
inductive Number where
  | nat (n : Nat)
  | negative (n : Nat)
  | float (f : Float)

/-- A JSON value; an object is its members in order. -/
inductive Value where
  | null
  | bool (b : Bool)
  | num (n : Number)
  | str (s : String)
  | arr (items : List Value)
  | obj (fields : List (String × Value))

namespace Value

/-- The member `key` of an object (the first one of that name). -/
def get? (v : Value) (key : String) : Option Value :=
  match v with
  | .obj fields => fields.lookup key
  | _ => none

/-- The text of a string value. -/
def asString? : Value → Option String
  | .str s => some s
  | _ => none

/-- The items of an array value. -/
def asArray? : Value → Option (List Value)
  | .arr items => some items
  | _ => none

/-- The truth value of a boolean. -/
def asBool? : Value → Option Bool
  | .bool b => some b
  | _ => none

/-- A non-negative integer value. -/
def asNat? : Value → Option Nat
  | .num (.nat n) => some n
  | _ => none

/-- A number read as a double. -/
def asFloat? : Value → Option Float
  | .num (.nat n) => some (Float.ofNat n)
  | .num (.negative n) => some (-(Float.ofNat n))
  | .num (.float f) => some f
  | _ => none

/-- A natural number as a value. -/
def ofNat (n : Nat) : Value := .num (.nat n)

/-- An optional text as a value (`null` when absent). -/
def ofOption (s : Option String) : Value :=
  match s with
  | some s => .str s
  | none => .null

end Value

end AdvisoryTrace.Json
