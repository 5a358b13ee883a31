import AdvisoryTrace.Store.Call

/-!
# Tasks kept in memory

The store held in memory is a table from task ids to their records. It takes any task id it does
not have yet. It applies an outcome only to a record that exists and is still pending, and it
checks that in a fixed order: the task, then the position, then the status. A refused call
changes nothing.
-/

namespace AdvisoryTrace

/-- Tasks and their records, held in memory in the order the tasks were created. -/
structure MemoryStore where
  tasks : List (String × List Record)

namespace MemoryStore

/-- A store with no tasks. -/
def empty : MemoryStore := ⟨[]⟩

/-- The records of a task, if it is known. -/
def get (s : MemoryStore) (task : String) : Option (List Record) :=
  s.tasks.lookup task

/-- Starts a task with one pending record per id, in order; a task id is used once. -/
def create (s : MemoryStore) (task : String) (ids : List String) :
    Except StoreError (MemoryStore × List Record) :=
  if (s.get task).isSome then .error (.backend ("task " ++ task ++ " already exists"))
  else
    let records := ids.map Record.pending
    .ok (⟨s.tasks ++ [(task, records)]⟩, records)

/-- The store with the records of a task replaced. -/
def replace (s : MemoryStore) (task : String) (records : List Record) : MemoryStore :=
  ⟨s.tasks.map fun e => if e.1 == task then (task, records) else e⟩

/-- Applies an outcome to a pending record of a task. -/
def complete (s : MemoryStore) (task : String) (index : Nat) (o : Outcome) :
    Except StoreError MemoryStore :=
  match s.get task with
  | none => .error (.unknownTask task)
  | some records =>
    match records[index]? with
    | none => .error (.unknownRecord task index)
    | some r =>
      if r.status.isTerminal then .error (.alreadyTerminal task index r.status)
      else .ok (s.replace task (records.set index (r.apply o)))

/-- Answers a call; a refused call leaves the store as it was. -/
def perform (s : MemoryStore) : Call → MemoryStore × Reply
  | .create task ids =>
    match s.create task ids with
    | .ok (s', records) => (s', .ok (.created records))
    | .error e => (s, .error e)
  | .get task => (s, .ok (.found (s.get task)))
  | .complete task index o =>
    match s.complete task index o with
    | .ok s' => (s', .ok .completed)
    | .error e => (s, .error e)

/-- The store after a sequence of calls. -/
def run (s : MemoryStore) (calls : List Call) : MemoryStore :=
  calls.foldl (fun s c => (s.perform c).1) s

end MemoryStore

end AdvisoryTrace
