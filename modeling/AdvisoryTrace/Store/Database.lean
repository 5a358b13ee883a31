import AdvisoryTrace.Store.Call

/-!
# Tasks kept in the database

The database store keeps one row per record in the `analysis` table, keyed by its task and its
position under a unique index, and one row per task in the `task` table. The task row is written
even for a task with no records, so that an empty task is told apart from an unknown one.

Each call is a few statements, run one after another:

* creating a task writes its task row, refused when the row exists or when the id cannot name a
  row, then inserts the record rows;
* reading a task reads its task row, then its record rows ordered by position;
* completing a record updates its row only while the row is pending, setting status,
  confidence, chain and error at once from the outcome. When no row was updated, it reads the
  row to report its status, and failing that the task row, to tell an unknown record from an
  unknown task.

Positions are signed 64-bit numbers: an index is written as one by wrapping, so an index from
`2^63` on reads as a negative position.

The rows' timestamps are left out: no call reads them back.
-/

namespace AdvisoryTrace

/-- How the database writes a record id: as it is when it is a word of ASCII letters, digits
and underscores that is not all digits, else between angle brackets. -/
def recordIdText (id : String) : String :=
  let cs := id.toList
  if cs.all (fun c => c.toNat < 128 && (c.isAlphanum || c == '_')) && !cs.all Char.isDigit then id
  else "⟨" ++ String.intercalate "\\⟩" (id.splitOn "⟩") ++ "⟩"

/-- The database's refusal of a task id it cannot name a record by. -/
def invalidRecordId (id : String) : StoreError :=
  .backend ("Found " ++ id ++ " for the Record ID but this is not a valid id")

/-- A row of the `analysis` table: one record of a task, at its position. -/
structure Row where
  task : String
  position : Int
  id : String
  status : Status
  confidence : Option UInt8
  chain : Option String
  error : Option String
  deriving BEq, Repr

namespace Row

/-- The record a row holds. -/
def record (r : Row) : Record := ⟨r.id, r.status, r.confidence, r.chain, r.error⟩

/-- The row after the conditional update: every field the outcome speaks of, and the others
cleared. -/
def overwrite (r : Row) : Outcome → Row
  | .done chain confidence =>
    { r with status := .done, confidence := some confidence, chain := some chain, error := none }
  | .failed error => { r with status := .failed, confidence := none, chain := none, error := some error }

/-- Whether a row is the one at a task's position. -/
def isAt (task : String) (pos : Int) (r : Row) : Bool := r.task == task && r.position == pos

end Row

/-- The two tables: the ids of the task rows, and the record rows. -/
structure Database where
  tasks : List String
  rows : List Row

namespace Database

/-- An empty database with the schema applied. -/
def empty : Database := ⟨[], []⟩

/-- An unsigned index written as a signed 64-bit number (`as i64`). -/
def signed (n : Nat) : Int := (n : Int).bmod (Nat.pow 2 64)

/-- The id of a task's row; an empty id names none. -/
def taskRowId (task : String) : Except StoreError Unit :=
  if task.isEmpty then .error (invalidRecordId task) else .ok ()

/-- `CREATE` of the task row: refused when the row exists. -/
def createTask (db : Database) (task : String) : Except StoreError Database := do
  taskRowId task
  if db.tasks.contains task then
    throw (.backend ("Database record \x60task:" ++ recordIdText task ++ "\x60 already exists"))
  return { db with tasks := db.tasks ++ [task] }

/-- `SELECT` of the task row: whether it exists. -/
def hasTask (db : Database) (task : String) : Except StoreError Bool := do
  taskRowId task
  return db.tasks.contains task

/-- `INSERT` of record rows, refused when a row's task and position are taken (the unique
index on them). -/
def insertRows (db : Database) (rows : List Row) : Except StoreError Database :=
  if ((db.rows ++ rows).map fun r => (r.task, r.position)).Nodup then
    .ok { db with rows := db.rows ++ rows }
  else .error (.backend "Database index \x60analysis_task_position\x60 already contains the key")

/-- `SELECT` of a task's record rows, ordered by position. -/
def rowsOf (db : Database) (task : String) : List Row :=
  (db.rows.filter (·.task == task)).mergeSort fun a b => a.position ≤ b.position

/-- `SELECT` of the first row at a task's position. -/
def rowAt (db : Database) (task : String) (pos : Int) : Option Row :=
  db.rows.find? (Row.isAt task pos)

/-- Whether the conditional update takes a row: at the position, and still pending. -/
def isOpen (task : String) (pos : Int) (r : Row) : Bool :=
  r.isAt task pos && r.status == .pending

/-- The conditional `UPDATE` of the row at a task's position while it is pending; gives the
positions of the rows it updated. -/
def update (db : Database) (task : String) (pos : Int) (o : Outcome) : Database × List Int :=
  ({ db with rows := db.rows.map fun r => if isOpen task pos r then r.overwrite o else r },
   (db.rows.filter (isOpen task pos)).map (·.position))

/-- The pending rows of a task's ids, at their positions. -/
def pendingRows (task : String) (ids : List String) : List Row :=
  ids.zipIdx.map fun (id, i) => ⟨task, signed i, id, .pending, none, none, none⟩

/-- Starts a task: its task row, then one pending row per id. -/
def create (db : Database) (task : String) (ids : List String) :
    Except StoreError (Database × List Record) := do
  let rows := pendingRows task ids
  let db ← db.createTask task
  let db ← if rows.isEmpty then pure db else db.insertRows rows
  return (db, rows.map Row.record)

/-- The records of a task in position order, if its task row exists. -/
def get (db : Database) (task : String) : Except StoreError (Option (List Record)) := do
  if !(← db.hasTask task) then return none
  return some ((db.rowsOf task).map Row.record)

/-- Why no row was updated: the row's status when it is there, else whether the task is. -/
def classify (db : Database) (task : String) (index : Nat) : Except StoreError Database :=
  match db.rowAt task (signed index) with
  | some r => .error (.alreadyTerminal task index r.status)
  | none => do
    if ← db.hasTask task then throw (.unknownRecord task index)
    else throw (.unknownTask task)

/-- Applies an outcome to the row at a task's position while it is pending. -/
def complete (db : Database) (task : String) (index : Nat) (o : Outcome) :
    Except StoreError Database :=
  let (db, updated) := db.update task (signed index) o
  if updated.isEmpty then db.classify task index else .ok db

/-- Answers a call. A refused call leaves the database as it was: the insert after a new task
row is the one statement that could leave a trace, and it is never refused, since a new task
has no rows yet. -/
def perform (db : Database) : Call → Database × Reply
  | .create task ids =>
    match db.create task ids with
    | .ok (db', records) => (db', .ok (.created records))
    | .error e => (db, .error e)
  | .get task => (db, (db.get task).map .found)
  | .complete task index o =>
    match db.complete task index o with
    | .ok db' => (db', .ok .completed)
    | .error e => (db, .error e)

/-- The database after a sequence of calls. -/
def run (db : Database) (calls : List Call) : Database :=
  calls.foldl (fun db c => (db.perform c).1) db

end Database

end AdvisoryTrace
