/-!
# TOML values

The values a TOML document holds: strings, integers, floats, booleans, date-times (kept as
their text), arrays, and tables with their entries in order. Every value inside an array or an
inline table keeps the stretch of text it was written in, and every entry of a table the stretch
of its key, so that a reader of the values can point at what it does not accept.

An inline table is built from its key/value pairs the way a document is: a dotted key makes
the tables on its way, which are marked as made by dotted keys; a key may not be given twice,
a dotted key may not go through something that is not a table, and a pair with a dotted key
may only land in a table made by dotted keys.
-/

namespace AdvisoryTrace.Toml

/-- A stretch of the text: the offset of its first character and of the character after its
last, counted in characters from the start of the text. -/
structure Span where
  start : Nat
  stop : Nat
  deriving BEq, Repr, Inhabited

/-- One part of a key: its name, the text it was written as (quoted or bare), and where. -/
structure Key where
  name : String
  raw : String
  span : Span
  deriving Repr, Inhabited

/-- A path of keys as messages show it: each part as it was written, joined by dots. -/
def Key.pathText (ks : List Key) : String := ".".intercalate (ks.map (·.raw))

/-- Where an entry of a table was written: its key, and its value unless a dotted key made
the entry as a table on its way. -/
structure Mark where
  key : Span
  value : Option Span
  deriving Repr, Inhabited

/-- A TOML value. -/
inductive Value where
  | string (s : String)
  | integer (n : Int)
  | float (f : Float)
  | boolean (b : Bool)
  | datetime (text : String)
  | array (items : List (Value × Span))
  | table (entries : List (String × Value × Mark))
  deriving Inhabited

namespace Value

/-- The text of a string value. -/
def asString? : Value → Option String
  | .string s => some s
  | _ => none

/-- The name of a value's type, as messages give it. -/
def typeName : Value → String
  | .string _ => "string"
  | .integer _ => "integer"
  | .float _ => "float"
  | .boolean _ => "boolean"
  | .datetime _ => "datetime"
  | .array _ => "array"
  | .table _ => "inline table"

end Value

/-- Why a key/value pair or a header cannot go where it was written. -/
inductive Clash where
  /-- A key given twice: in a named table (the empty path is the root), or in no named one. -/
  | duplicate (key : String) (table : Option (List Key))
  /-- A dotted key whose path goes through a value of the named type. -/
  | extend (path : List Key) (found : String)
  deriving Repr

namespace Clash

/-- What went wrong, as reported. -/
def message : Clash → String
  | .duplicate key none => "duplicate key `" ++ key ++ "`"
  | .duplicate key (some []) => "duplicate key `" ++ key ++ "` in document root"
  | .duplicate key (some table) =>
    "duplicate key `" ++ key ++ "` in table `" ++ Key.pathText table ++ "`"
  | .extend path found =>
    "dotted key `" ++ Key.pathText path ++ "` attempted to extend non-table type (" ++ found ++ ")"

end Clash

/-- The value at a path of keys below a table's entries. -/
def lookupPath : List String → List (String × Value × Mark) → Option Value
  | [], es => some (.table es)
  | [k], es => (es.lookup k).map (·.1)
  | k :: ks, es =>
    match es.lookup k with
    | some (.table inner, _) => lookupPath ks inner
    | _ => none

/-- Changes the entries of the table at a path below a table's entries, making the missing
tables on the way (each marked by the key that names it); keeps what is not a table. -/
def updatePath : List Key → (List (String × Value × Mark) → List (String × Value × Mark)) →
    List (String × Value × Mark) → List (String × Value × Mark)
  | [], f, es => f es
  | k :: ks, f, es =>
    match es.lookup k.name with
    | some (.table inner, m) =>
      es.map fun e => if e.1 == k.name then (k.name, .table (updatePath ks f inner), m) else e
    | some _ => es
    | none => es ++ [(k.name, .table (updatePath ks f []), ⟨k.span, none⟩)]

/-- An inline table being built: its entries, and the paths of the tables that dotted keys
made. -/
structure InlineTable where
  entries : List (String × Value × Mark)
  dotted : List (List String)

namespace InlineTable

/-- The inline table with no entries. -/
def empty : InlineTable := ⟨[], []⟩

/-- Checks the tables a dotted path goes through: each that is there must be a table made by
a dotted key. -/
def checkPath (t : InlineTable) (path : List Key) : Except Clash Unit :=
  (List.range path.length).forM fun i => do
    let prefixKeys := path.take (i + 1)
    let names := prefixKeys.map (·.name)
    match lookupPath names t.entries with
    | none => pure ()
    | some (.table _) =>
      if t.dotted.contains names then pure ()
      else throw (.duplicate ((path[i]?.map (·.name)).getD "") none)
    | some v => throw (.extend prefixKeys v.typeName)

/-- Adds one pair: `path` is the dotted part of its key, `key` the last part, and `pos` where
its value was written. -/
def insert (t : InlineTable) (path : List Key) (key : Key) (v : Value) (pos : Span) :
    Except Clash InlineTable := do
  t.checkPath path
  let names := path.map (·.name)
  let made := ((List.range path.length).map fun k => names.take (k + 1)).filter fun p =>
    (lookupPath p t.entries).isNone
  match lookupPath (names ++ [key.name]) t.entries with
  | some _ => throw (.duplicate key.name none)
  | none =>
    let entries := updatePath path (fun es => es ++ [(key.name, v, ⟨key.span, some pos⟩)]) t.entries
    return ⟨entries, t.dotted ++ made⟩

end InlineTable

end AdvisoryTrace.Toml
