import AdvisoryTrace.Toml.Reader
import AdvisoryTrace.Wire
import AdvisoryTrace.Failure
import AdvisoryTrace.Text.Blank
import AdvisoryTrace.Text.Quoted
import AdvisoryTrace.Schema

/-!
# Advisory catalogs

A catalog says, for each advisory id, where its vulnerable code lives. It is written in TOML
as an array of tables `advisory`, each with the strings `id`, `repo_url`, `commit` and
`test_id` (other keys are ignored; no `advisory` at all is an empty catalog).

Ids are trimmed of blanks, both when the catalog is read and when an id is looked up; of two
entries with one id, the later wins. An entry whose id is blank refuses the whole catalog.

A text that is not a catalog is refused with a report that points into it: where the TOML
stops, or the first thing that does not have the shape of a catalog. Entries are checked in
order, and the fields of an entry in the order they were written: a field that is not a
string is refused at its value, and then a missing field at the whole entry. An entry may
also be an inline table, or an array of the four strings in order.
-/

namespace AdvisoryTrace

/-- Why a catalog text was refused: it is not a catalog (with the report of why), or an entry
has a blank id. -/
inductive CatalogError where
  | malformed (detail : String)
  | blankId
  deriving BEq, Repr

namespace CatalogError

/-- What went wrong, as reported. -/
def message : CatalogError → String
  | .malformed _ => "parse advisory catalog"
  | .blankId => "advisory catalog entry with empty id"

/-- What caused it, outermost first. -/
def causes : CatalogError → List String
  | .malformed detail => [detail]
  | .blankId => []

end CatalogError

/-- An advisory catalog: each id with its resolution, in the order first given. -/
structure Catalog where
  entries : List (String × Resolution)

namespace Catalog

/-- The catalog with no entries. -/
def empty : Catalog := ⟨[]⟩

/-- The number of advisories. -/
def size (c : Catalog) : Nat := c.entries.length

/-- Whether the catalog has no advisory. -/
def isEmpty (c : Catalog) : Bool := c.entries.isEmpty

/-- Records a resolution for an id, in place of an earlier one. -/
def insert (c : Catalog) (id : String) (r : Resolution) : Catalog :=
  if c.entries.any (·.1 == id) then
    ⟨c.entries.map fun e => if e.1 == id then (id, r) else e⟩
  else ⟨c.entries ++ [(id, r)]⟩

/-- The fields of a catalog entry, in the order they are declared. -/
def fields : List String := ["id", "repo_url", "commit", "test_id"]

/-- What a TOML value is, in a mismatch message: date-times read as maps. -/
def found : Toml.Value → Unexpected
  | .string s => .str s
  | .integer n => .signed n
  | .float f => .float f
  | .boolean b => .bool b
  | .datetime _ => .map
  | .array _ => .seq
  | .table _ => .map

/-- A refusal pointing at a stretch of the text, when there is one. -/
def refusal (message : String) (pos : Option Toml.Span) : Toml.Diagnosis :=
  ⟨message, pos.map .stretch⟩

/-- What a field of an entry holds: a string, or something else and where it was written. -/
inductive Field where
  | text (s : String)
  | other (what : Unexpected) (pos : Option Toml.Span)

/-- One entry from its fields in the order written: the first field of the entry that holds no
string is refused; then the first field missing, pointing at the whole entry. -/
def entryOf (given : List (String × Field)) (whole : Option Toml.Span) :
    Except Toml.Diagnosis (String × Resolution) := do
  for (name, f) in given do
    if fields.contains name then
      if let .other what pos := f then
        throw (refusal (invalidType .plain what "a string") pos)
  let field := fun name => match given.lookup name with
    | some (.text s) => some s
    | _ => none
  match fields.find? fun name => (field name).isNone with
  | some name => throw (refusal (missingField name) whole)
  | none =>
    return ((field "id").getD "",
      ⟨(field "repo_url").getD "", (field "commit").getD "", (field "test_id").getD ""⟩)

/-- What a node of a document holds as a field; a table without a place of its own and an
array of tables are found at their key. -/
def nodeField : Toml.Node → Option Toml.Span → Field
  | .value (.string s) _, _ => .text s
  | .value v pos, _ => .other (found v) (some pos)
  | .table _ _ pos, key => .other .map (pos <|> key)
  | .tables _, key => .other .seq key

/-- An entry written as a table of the document, at a path. -/
def tableEntry (d : Toml.Document) (path : List Toml.Segment) :
    Except Toml.Diagnosis (String × Resolution) :=
  let whole := match d.node? path with
    | some (.table _ _ pos) => pos
    | _ => none
  entryOf ((d.children path).map fun (k, n, key) => (k, nodeField n key)) whole

/-- An entry written as a value, at a stretch: an inline table, or an array of the four
fields in order. -/
def valueEntry (v : Toml.Value) (pos : Toml.Span) : Except Toml.Diagnosis (String × Resolution) :=
  let expected := "struct CatalogEntry"
  match v with
  | .table entries =>
    entryOf (entries.map fun (k, v, m) => match v with
      | .string s => (k, .text s)
      | v => (k, .other (found v) (m.value <|> some m.key))) (some pos)
  | .array items => do
    let texts ← (List.range fields.length).mapM fun i => match items[i]? with
      | some (Toml.Value.string s, _) => pure s
      | some (v, vat) => throw (refusal (invalidType .plain (found v) "a string") (some vat))
      | none => throw (refusal (invalidLength i (Shape.recordLength "CatalogEntry" 4)) (some pos))
    match texts with
    | [id, url, commit, test] => return (id, ⟨url, commit, test⟩)
    | _ => throw (refusal (invalidLength texts.length expected) (some pos))
  | .datetime _ => throw (refusal (missingField "id") (some pos))
  | v => throw (refusal (invalidType .plain (found v) expected) (some pos))

/-- The entries a document lists under `advisory`: an array of tables, or an array value
whose items are entries. Anything else there is refused as not a sequence. -/
def entriesOf (d : Toml.Document) : Except Toml.Diagnosis (List (String × Resolution)) :=
  let path := [Toml.Segment.key "advisory"]
  match d.node? path with
  | none => .ok []
  | some (.tables n) => (List.range n).mapM fun i => tableEntry d (path ++ [.index i])
  | some (.table _ _ pos) => .error (refusal (invalidType .plain .map "a sequence") (pos <|> d.keySpan? path))
  | some (.value (.array items) _) => items.mapM fun (v, pos) => valueEntry v pos
  | some (.value v pos) => .error (refusal (invalidType .plain (found v) "a sequence") (some pos))

/-- Reads a catalog from its TOML text. -/
def ofToml (text : String) : Except CatalogError Catalog := do
  let refused := fun (e : Toml.Diagnosis) => CatalogError.malformed (e.render text)
  let d ← (Toml.Document.read text).mapError refused
  let entries ← (entriesOf d).mapError refused
  entries.foldlM (fun c (id, r) =>
    let id := Text.trim id
    if id.isEmpty then throw .blankId else pure (c.insert id r)) empty

/-- Where an advisory's code lives; an id not in the catalog fails the resolution. -/
def resolve (c : Catalog) (id : String) : Except Failure Resolution :=
  match c.entries.lookup (Text.trim id) with
  | some r => .ok r
  | none => .error (.resolution ("unknown advisory " ++ Text.quoted id))

end Catalog

end AdvisoryTrace
