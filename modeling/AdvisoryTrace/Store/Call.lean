import AdvisoryTrace.Record

/-!
# Calls to a task store

A task store keeps, for each task, the records of its advisories in the order they were
submitted, and moves a record once from pending to a terminal status. It answers three calls:
create a task with its ids, get a task's records, and complete one record with an outcome.
-/

namespace AdvisoryTrace

/-- Why a store refused an operation. -/
inductive StoreError where
  | unknownTask (task : String)
  | unknownRecord (task : String) (index : Nat)
  | alreadyTerminal (task : String) (index : Nat) (status : Status)
  | backend (message : String)
  deriving BEq, Repr

namespace StoreError

/-- The kind of refusal, as reported. -/
def kind : StoreError → String
  | .unknownTask _ => "UnknownTask"
  | .unknownRecord .. => "UnknownRecord"
  | .alreadyTerminal .. => "AlreadyTerminal"
  | .backend _ => "Backend"

/-- What went wrong. -/
def message : StoreError → String
  | .unknownTask task => "unknown task: " ++ task
  | .unknownRecord task index => "task " ++ task ++ " has no record at position " ++ toString index
  | .alreadyTerminal task index status =>
    "record " ++ toString index ++ " of task " ++ task ++ " is already " ++ status.name
  | .backend message => "store backend: " ++ message

end StoreError

/-- A call to a task store. -/
inductive Call where
  | create (task : String) (ids : List String)
  | get (task : String)
  | complete (task : String) (index : Nat) (outcome : Outcome)

/-- The task a call is about. -/
def Call.task : Call → String
  | .create task _ | .get task | .complete task .. => task

/-- What a call gives back when the store does not refuse it. -/
inductive Answer where
  | created (records : List Record)
  | found (records : Option (List Record))
  | completed

/-- A call's answer, or the store's refusal. -/
abbrev Reply := Except StoreError Answer

/-- The replies to calls made one after another, each to the state the calls before it left. -/
def Call.replies {σ : Type} (perform : σ → Call → σ × Reply) (s : σ) : List Call → List Reply
  | [] => []
  | c :: cs => (perform s c).2 :: Call.replies perform (perform s c).1 cs

end AdvisoryTrace
