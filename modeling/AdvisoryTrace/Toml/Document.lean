import AdvisoryTrace.Toml.Value

/-!
# TOML documents

A document as it is read: every table, array of tables and value by its path from the root,
where a path goes through a key of a table or an element of an array of tables. Key/value
pairs go into the current table, which a header changes.

The rules that keep a document well defined:

* a header `[a.b]` may not name something already there, except a table that was only made on
  the way to another table (and not by a dotted key);
* a header `[[a.b]]` adds a table to an array of tables, and may not name anything else;
* a key may not be given twice in a table, and a dotted key may not go through a table that a
  header defined nor through a value;
* on the way to a header, an array of tables stands for its last table.

Each node keeps where it was written: a table the stretch from its header to the end of its
last value, a value its own text; and each path the key that first named it.
-/

namespace AdvisoryTrace.Toml

/-- A step of a path in a document. -/
inductive Segment where
  | key (name : String)
  | index (i : Nat)
  deriving BEq, Repr

/-- What a path of a document holds: a table (whether it was only made on the way to another,
whether by a dotted key, and where its header stands), an array of `count` tables, or a value
with where it was written. -/
inductive Node where
  | table (implicit dotted : Bool) (span : Option Span)
  | tables (count : Nat)
  | value (v : Value) (span : Span)
  deriving Inhabited

/-- A document being read: its nodes in the order they were made, where the key of each path
was written, the current table, and the keys of the header that made it current. -/
structure Document where
  nodes : List (List Segment × Node)
  keys : List (List Segment × Span)
  current : List Segment
  header : List Key

namespace Document

/-- The document with nothing in it; the root is the current table. -/
def empty : Document := ⟨[], [], [], []⟩

/-- What a path holds; the root is a table defined by the document itself. -/
def node? (d : Document) (path : List Segment) : Option Node :=
  if path.isEmpty then some (.table false false none) else (d.nodes.find? (·.1 == path)).map (·.2)

/-- Where the key naming a path was written. -/
def keySpan? (d : Document) (path : List Segment) : Option Span :=
  (d.keys.find? (·.1 == path)).map (·.2)

/-- The paths directly below a table, with what they hold, in the order they were made. -/
def children (d : Document) (table : List Segment) : List (String × Node × Option Span) :=
  d.nodes.filterMap fun (p, n) =>
    match p.drop table.length with
    | [.key k] => if p.take table.length == table then some (k, n, d.keySpan? p) else none
    | _ => none

/-- Puts a node at a path, in place of what was there. -/
def set (d : Document) (path : List Segment) (n : Node) : Document :=
  if d.nodes.any (·.1 == path) then
    { d with nodes := d.nodes.map fun e => if e.1 == path then (path, n) else e }
  else { d with nodes := d.nodes ++ [(path, n)] }

/-- Records where the key naming a path was written, in place of an earlier record. -/
def nameAt (d : Document) (path : List Segment) (pos : Span) : Document :=
  { d with keys := d.keys.filter (·.1 != path) ++ [(path, pos)] }

/-- Follows keys from a table, making the missing tables (marked `dotted` or not), and going
into the last table of an array of tables. A dotted key may not enter a table that a header
defined, and no key may enter a value. -/
def descend (d : Document) (start : List Segment) (keys : List Key) (dotted : Bool) :
    Except Clash (Document × List Segment) :=
  (keys.zipIdx).foldlM (fun (d, here) (k, i) =>
    let child := here ++ [.key k.name]
    match d.node? child with
    | none => .ok ((d.set child (.table true dotted none)).nameAt child k.span, child)
    | some (.value v _) => .error (.extend (keys.take (i + 1)) v.typeName)
    | some (.tables n) => .ok (d, child ++ [.index (n - 1)])
    | some (.table implicit _ _) =>
      if dotted && !implicit then .error (.duplicate k.name none) else .ok (d, child))
    (d, start)

/-- The last key of a header, and the ones before it. -/
def split (keys : List Key) : Key × List Key := (keys.getLast?.getD default, keys.dropLast)

/-- The header `[keys]`, written at `span`: defines the table and makes it current. -/
def openTable (d : Document) (keys : List Key) (span : Span) : Except Clash Document := do
  let (last, front) := split keys
  let (d, parent) ← d.descend [] front false
  let path := parent ++ [.key last.name]
  match d.node? path with
  | none | some (.table true false _) =>
    return { (d.set path (.table false false (some span))).nameAt path last.span with
      current := path, header := keys }
  | _ => throw (.duplicate last.raw (some front))

/-- The header `[[keys]]`, written at `span`: adds a table to the array and makes it current. -/
def openArrayTable (d : Document) (keys : List Key) (span : Span) : Except Clash Document := do
  let (last, front) := split keys
  let (d, parent) ← d.descend [] front false
  let path := parent ++ [.key last.name]
  let (d, count) ← match d.node? path with
    | none => pure (d.nameAt path last.span, 0)
    | some (.tables n) => pure (d, n)
    | _ => throw (.duplicate last.raw (some front))
  let element := path ++ [.index count]
  return { (d.set path (.tables (count + 1))).set element (.table false false (some span)) with
    current := element, header := keys }

/-- Stretches the current table's place to the end of a value written in it. -/
def reach (d : Document) (pos : Span) : Document :=
  match d.node? d.current with
  | some (.table implicit dotted (some s)) =>
    if d.current.isEmpty then d else d.set d.current (.table implicit dotted (some ⟨s.start, pos.stop⟩))
  | _ => d

/-- The pair `keys = v` in the current table, its value written at `pos`. -/
def insert (d : Document) (keys : List Key) (v : Value) (pos : Span) : Except Clash Document := do
  let (last, path) := split keys
  let d := d.reach pos
  let (d, table) ← d.descend d.current path true
  let dotted := match d.node? table with
    | some (.table _ dotted _) => dotted
    | _ => false
  if dotted == path.isEmpty then throw (.duplicate last.name none)
  let target := table ++ [.key last.name]
  if (d.node? target).isSome then throw (.duplicate last.name (some d.header))
  return (d.set target (.value v pos)).nameAt target last.span

end Document

end AdvisoryTrace.Toml
