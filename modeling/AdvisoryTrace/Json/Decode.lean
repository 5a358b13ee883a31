import AdvisoryTrace.Schema

/-!
# Reading a parsed value against a shape

The value form of reading: a value already parsed is checked against a shape and normalised
(records to their fields in declared order, absent optional fields as null). Members of an
object are visited in their order, so the first bad member reports; missing fields are then
reported in declared order. An array read as a record gives its fields by position and must
not be longer than the record. Messages carry no position.
-/

namespace AdvisoryTrace.Json

/-- What a value shows when it is not what was asked. -/
def Value.unexpected : Value → Unexpected
  | .null => .unit
  | .bool b => .bool b
  | .num (.nat n) => .unsigned n
  | .num (.negative n) => .signed (-(n : Int))
  | .num (.float f) => .float f
  | .str s => .str s
  | .arr _ => .seq
  | .obj _ => .map

/-- A mismatch message in the JSON style. -/
def mistyped (v : Value) (expected : String) : Except String α :=
  .error (invalidType .json v.unexpected expected)

/-- A number read as an unsigned integer no larger than `limit`. -/
def unsignedAs (limit : Nat) (expected : String) (v : Value) : Except String Value :=
  match v with
  | .num (.nat n) =>
    if n ≤ limit then .ok v else .error (invalidValue .json (.unsigned n) expected)
  | .num (.negative n) => .error (invalidValue .json (.signed (-(n : Int))) expected)
  | _ => mistyped v expected

/-- What a mismatch says was expected: a name among variants is asked as a string or a
single-member map. -/
def shapeExpectation : Shape → String
  | .choice _ _ => "string or map"
  | shape => shape.expectation

/-- The error for an array longer than what reads it. -/
def tooLong (n : Nat) : Except String α := .error (invalidLength n "fewer elements in array")

/-- The fields left when an array ran out: defaulted ones take their empty value. -/
def fillDefaults (name : String) (count : Nat) :
    Nat → List (String × Shape × Bool) → Except String (List (String × Value))
  | _, [] => .ok []
  | index, (key, shape, defaulted) :: rest =>
    if defaulted then return (key, shape.emptyValue) :: (← fillDefaults name count (index + 1) rest)
    else .error (invalidLength index (Shape.recordLength name count))

/-- The record's fields with absent ones filled or reported, in declared order. -/
def completeFields (fields : List (String × Shape × Bool)) (found : List (String × Value)) :
    Except String (List (String × Value)) :=
  fields.mapM fun (key, shape, defaulted) =>
    match found.lookup key with
    | some w => .ok (key, w)
    | none => match shape with
      | .optional _ => .ok (key, .null)
      | _ => if defaulted then .ok (key, shape.emptyValue) else .error (missingField key)

mutual

/-- A value read as the asked shape. -/
def Value.decode (shape : Shape) (v : Value) : Except String Value :=
  let (optional, shape) := shape.unwrapOptional
  match v with
  | .null =>
    if optional then .ok .null
    else match shape with
      | .unit => .ok .null
      | shape => mistyped .null (shapeExpectation shape)
  | .bool b => mistyped (.bool b) (shapeExpectation shape)
  | .num n =>
    match shape, n with
    | .real, .nat k => .ok (.num (.float k.toFloat))
    | .real, .negative k => .ok (.num (.float (-(k.toFloat))))
    | .real, .float f => .ok (.num (.float f))
    | .byte, n => unsignedAs 255 "u8" (.num n)
    | .size, n => unsignedAs (Nat.pow 2 64 - 1) "usize" (.num n)
    | shape, n => mistyped (.num n) (shapeExpectation shape)
  | .str s =>
    match shape with
    | .text => .ok (.str s)
    | .choice _ variants =>
      if variants.contains s then .ok (.str s) else .error (unknownVariant s variants)
    | shape => mistyped (.str s) (shapeExpectation shape)
  | .arr xs =>
    match shape with
    | .list item => return .arr (← decodeItems item xs)
    | .record name fields => return .obj (← decodePositional name fields.length 0 fields xs)
    | shape => mistyped (.arr xs) (shapeExpectation shape)
  | .obj members =>
    match shape, members with
    | .choice _ variants, [(s, inner)] =>
      if variants.contains s then
        match inner with
        | .null => .ok (.str s)
        | _ => mistyped inner "unit"
      else .error (unknownVariant s variants)
    | .choice _ _, _ => .error (invalidValue .json .map "map with a single key")
    | .record _ fields, _ => do
      let found ← decodeMembers fields members
      return .obj (← completeFields fields found)
    | shape, _ => mistyped (.obj members) (shapeExpectation shape)

/-- The items of an array, each read as `item`. -/
def decodeItems (item : Shape) : List Value → Except String (List Value)
  | [] => .ok []
  | x :: xs => return (← Value.decode item x) :: (← decodeItems item xs)

/-- A record's fields taken by position; extra items are refused. -/
def decodePositional (name : String) (count index : Nat) (fields : List (String × Shape × Bool)) :
    List Value → Except String (List (String × Value))
  | [] => fillDefaults name count index fields
  | x :: xs => match fields with
    | [] => tooLong count
    | (key, shape, _) :: rest =>
      return (key, ← Value.decode shape x) :: (← decodePositional name count (index + 1) rest xs)

/-- The known members of an object, read in the object's order; others are ignored. -/
def decodeMembers (fields : List (String × Shape × Bool)) :
    List (String × Value) → Except String (List (String × Value))
  | [] => .ok []
  | (key, x) :: rest =>
    match fields.find? (fun f => f.1 == key) with
    | some (_, shape, _) => return (key, ← Value.decode shape x) :: (← decodeMembers fields rest)
    | none => decodeMembers fields rest

end

end AdvisoryTrace.Json
