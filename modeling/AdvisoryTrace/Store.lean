import AdvisoryTrace.Store.Memory
import AdvisoryTrace.Store.Database

/-!
# Task stores

The daemon keeps its tasks in one of two stores: in memory, or in the database. The two answer
the same calls; they differ in what they refuse. The database names a task by a record id, so
it refuses an empty task id, and it words a repeated task as a database record that already
exists.
-/

namespace AdvisoryTrace

/-- Where a store keeps its tasks. -/
inductive Backend where
  | memory
  | database
  deriving BEq, Repr

/-- Tasks and their records, in a backend. -/
inductive TaskStore where
  | memory (s : MemoryStore)
  | database (db : Database)

namespace TaskStore

/-- A store with no tasks. -/
def empty : Backend → TaskStore
  | .memory => .memory .empty
  | .database => .database .empty

/-- Starts a task with one pending record per id, in order; a task id is used once. -/
def create : TaskStore → String → List String → Except StoreError (TaskStore × List Record)
  | .memory s, task, ids => (s.create task ids).map fun (s, records) => (.memory s, records)
  | .database db, task, ids => (db.create task ids).map fun (db, records) => (.database db, records)

/-- The records of a task, if it is known. -/
def get : TaskStore → String → Except StoreError (Option (List Record))
  | .memory s, task => .ok (s.get task)
  | .database db, task => db.get task

/-- Applies an outcome to a pending record of a task. -/
def complete : TaskStore → String → Nat → Outcome → Except StoreError TaskStore
  | .memory s, task, index, o => (s.complete task index o).map .memory
  | .database db, task, index, o => (db.complete task index o).map .database

end TaskStore

end AdvisoryTrace
