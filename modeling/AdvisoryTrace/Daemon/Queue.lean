import AdvisoryTrace.Worker

/-!
# The job queue

Submitted jobs wait in a bounded queue until a worker takes them, first in first out. A queue
holds at least one job. Submitting never waits: a closed queue refuses the job, and so does a
full one. Closing a queue drops the jobs still waiting in it.
-/

namespace AdvisoryTrace.Daemon

/-- Why a job was not queued. -/
inductive EnqueueError where
  | full
  | closed
  deriving BEq, Repr

/-- The wording of a refusal. -/
def EnqueueError.text : EnqueueError → String
  | .full => "job queue is full"
  | .closed => "job queue is closed"

/-- A bounded queue of jobs. -/
structure JobQueue where
  capacity : Nat
  waiting : List Job := []
  closed : Bool := false
  deriving Repr

namespace JobQueue

/-- An empty open queue holding at most `capacity` jobs, and at least one. -/
def bounded (capacity : Nat) : JobQueue := { capacity := max capacity 1 }

/-- Adds a job at the back, unless the queue is closed or full. -/
def submit (q : JobQueue) (job : Job) : Except EnqueueError JobQueue :=
  if q.closed then .error .closed
  else if q.waiting.length ≥ q.capacity then .error .full
  else .ok { q with waiting := q.waiting ++ [job] }

/-- Takes the job at the front. -/
def take? (q : JobQueue) : Option (Job × JobQueue) :=
  match q.waiting with
  | [] => none
  | job :: rest => some (job, { q with waiting := rest })

/-- Closes the queue, dropping what waits in it. -/
def close (q : JobQueue) : JobQueue := { q with waiting := [], closed := true }

end JobQueue

end AdvisoryTrace.Daemon
