import AdvisoryTrace.Store.Database

/-!
# Calls served side by side

The database runs each statement atomically, but a call is a few statements, and the statements
of calls made at once interleave. A call part-way through is a `Phase`: what the statements it
has run so far told it. `Phase.step` runs its next statement, the same statement that
`Database.create`, `Database.get` and `Database.complete` run at that point.

A `Session` is the database with the calls in flight and the history of calls made and
answered. A step starts a call or runs one statement of a call in flight. Callers promise one
thing (`Call.Clashes`): a task is not read or completed while a create of it runs, nor created
while a read or a completion of it runs. The daemon keeps that promise: it creates a task under
a fresh id before it queues any job of it, and it reads a task only for the client that created
it.
-/

namespace AdvisoryTrace

/-- Whether a call creates a task. -/
def Call.isCreate : Call → Bool
  | .create .. => true
  | _ => false

/-- Two calls that callers never let overlap: a create of a task, and a get or a complete of
the same task. -/
def Call.Clashes (c d : Call) : Prop := c.task = d.task ∧ c.isCreate ≠ d.isCreate

/-- A call part-way through its statements. -/
inductive Phase where
  /-- Nothing has run yet. -/
  | start (c : Call)
  /-- A create whose task row is written: its record rows go in next. -/
  | insert (task : String) (ids : List String)
  /-- A get that found the task row: its record rows are read next. -/
  | read (task : String)
  /-- A complete that updated no row: the row at its position is read next. -/
  | lookup (task : String) (index : Nat)
  /-- A complete that found no row at its position: the task row is read next. -/
  | probe (task : String) (index : Nat)

/-- What a statement leaves of a call: its next phase, or its reply. -/
inductive Progress where
  | next (p : Phase)
  | reply (r : Reply)

namespace Phase

open Database in
/-- Runs a call's next statement on the database. -/
def step (db : Database) : Phase → Database × Progress
  | .start (.create task ids) =>
    match db.createTask task with
    | .error e => (db, .reply (.error e))
    | .ok db' =>
      if (pendingRows task ids).isEmpty then (db', .reply (.ok (.created [])))
      else (db', .next (.insert task ids))
  | .insert task ids =>
    match db.insertRows (pendingRows task ids) with
    | .ok db' => (db', .reply (.ok (.created ((pendingRows task ids).map Row.record))))
    | .error e => (db, .reply (.error e))
  | .start (.get task) =>
    match db.hasTask task with
    | .error e => (db, .reply (.error e))
    | .ok false => (db, .reply (.ok (.found none)))
    | .ok true => (db, .next (.read task))
  | .read task => (db, .reply (.ok (.found (some ((db.rowsOf task).map Row.record)))))
  | .start (.complete task index o) =>
    let (db', updated) := db.update task (signed index) o
    if updated.isEmpty then (db', .next (.lookup task index)) else (db', .reply (.ok .completed))
  | .lookup task index =>
    match db.rowAt task (signed index) with
    | some r => (db, .reply (.error (.alreadyTerminal task index r.status)))
    | none => (db, .next (.probe task index))
  | .probe task index =>
    match db.hasTask task with
    | .error e => (db, .reply (.error e))
    | .ok true => (db, .reply (.error (.unknownRecord task index)))
    | .ok false => (db, .reply (.error (.unknownTask task)))

end Phase

/-- A call in flight: its number, the call, and how far its statements have got. -/
structure Running where
  id : Nat
  call : Call
  phase : Phase

/-- An entry of a history: a call made under a number, or the reply to it. -/
inductive Event where
  | invoke (id : Nat) (c : Call)
  | respond (id : Nat) (r : Reply)

/-- The database serving calls side by side: the calls in flight, the history so far, and the
number the next call takes. -/
structure Session where
  db : Database
  running : List Running
  history : List Event
  next : Nat

namespace Session

/-- An empty database, with no call made yet. -/
def initial : Session := ⟨.empty, [], [], 0⟩

/-- Makes a call under the next number. -/
def invoke (s : Session) (c : Call) : Session :=
  { s with
    running := s.running ++ [⟨s.next, c, .start c⟩]
    history := s.history ++ [.invoke s.next c]
    next := s.next + 1 }

/-- Runs the next statement of a call in flight: the call moves on, or it replies and leaves. -/
def advance (s : Session) (r : Running) : Session :=
  match r.phase.step s.db with
  | (db, .next p) =>
    { s with db, running := s.running.map fun q => if q.id = r.id then { q with phase := p } else q }
  | (db, .reply a) =>
    { s with db, running := s.running.filter (·.id != r.id), history := s.history ++ [.respond r.id a] }

/-- A step: a new call that clashes with no call in flight, or the next statement of a call in
flight. -/
inductive Step : Session → Session → Prop
  | invoke (s : Session) (c : Call) (free : ∀ q ∈ s.running, ¬ c.Clashes q.call) :
      Step s (s.invoke c)
  | advance (s : Session) (r : Running) (mem : r ∈ s.running) : Step s (s.advance r)

/-- The sessions that steps reach from an empty database. -/
inductive Run : Session → Prop
  | initial : Run initial
  | step {s s' : Session} : Run s → Step s s' → Run s'

end Session

end AdvisoryTrace
