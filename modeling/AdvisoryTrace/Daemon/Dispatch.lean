import AdvisoryTrace.Daemon.Service

/-!
# Submissions and workers side by side

The daemon answers `POST /analyze` while its workers run the jobs already queued, and the two
meet in the task store and the job queue. Here each store call and each queue operation is one
step, and the steps of the handlers and of the workers interleave in any order:

* a submission arrives under a task id not handed out before and creates its task;
* its handler offers the job to the queue. Queued, the answer is 200. Refused, the handler fails
  the task's records one by one with the refusal's text, and then answers 503;
* an idle worker takes the job at the front of the queue, runs its advisories in order, one
  analysis and one `complete` each, and is idle again when the job is done. An analysis that
  panics is a breakdown (`Halt.abort`), and fails its record like any other failure.

A poll reads the store and changes nothing, so what a poll sees is a state the steps reach. The
memory store serves each call under its lock, and the database answers calls that do not clash
as the memory store does one after another (`Session`), so a store call is one step: the calls
the daemon may have in flight never clash, and its runs on the database are runs of a session
(`Dispatch.Run.refines_sessions`).

The state also keeps what the daemon's logs show: the answers given, the jobs the workers
started, and every `complete` call with who made it and what the store said.
-/

namespace AdvisoryTrace.Daemon

/-- A `POST /analyze` between its steps. -/
inductive Handler where
  /-- The task is created with these ids and records; the job is offered to the queue next. -/
  | offering (task : String) (ids : List String) (records : List Record)
  /-- The queue refused the job: of the task's `count` records, those from `next` on are still
  to be failed. -/
  | failing (task : String) (count next : Nat) (refusal : EnqueueError)

/-- The task a handler serves. -/
def Handler.task : Handler → String
  | .offering task .. | .failing task .. => task

@[simp] theorem Handler.task_offering (task : String) (ids : List String) (records : List Record) :
    (Handler.offering task ids records).task = task := rfl

@[simp] theorem Handler.task_failing (task : String) (count next : Nat) (e : EnqueueError) :
    (Handler.failing task count next e).task = task := rfl

/-- A worker: waiting for a job, or part-way through one, with the advisories still to run from
position `index` on. -/
inductive Runner where
  | idle
  | busy (task : String) (index : Nat) (rest : List String)

/-- Who makes a store call: a worker running a job, or a handler failing a refused one. -/
inductive Caller where
  | worker
  | handler
  deriving DecidableEq

/-- A `complete` call, with the store's answer to it. -/
structure Completion where
  caller : Caller
  task : String
  index : Nat
  outcome : Outcome
  answer : Except StoreError Unit

/-- The daemon under load: its store and queue, the handlers in flight and the workers, and what
its logs show: the answers given (task and status), the tasks of the jobs the workers started,
and the `complete` calls made. -/
structure Dispatch where
  store : TaskStore
  queue : JobQueue
  handlers : List Handler
  workers : List Runner
  answers : List (String × Nat)
  started : List String
  completions : List Completion

namespace Dispatch

/-- The daemon before any request, with `workers` workers and a queue of `capacity` jobs, at
least one of each. -/
def initial (b : Backend) (workers capacity : Nat) : Dispatch where
  store := .empty b
  queue := .bounded capacity
  handlers := []
  workers := List.replicate (max workers 1) .idle
  answers := []
  started := []
  completions := []

/-- The task ids handed out so far: those of the handlers in flight and those answered. -/
def taskIds (s : Dispatch) : List String := s.handlers.map Handler.task ++ s.answers.map (·.1)

/-- A `complete` call, logged; a refusal leaves the store as it was. -/
def complete (s : Dispatch) (caller : Caller) (task : String) (index : Nat) (o : Outcome) :
    Dispatch :=
  match s.store.complete task index o with
  | .ok store => { s with store, completions := s.completions ++ [⟨caller, task, index, o, .ok ()⟩] }
  | .error e => { s with completions := s.completions ++ [⟨caller, task, index, o, .error e⟩] }

/-- The handler of `task` goes on as `h`. -/
def continueAs (s : Dispatch) (task : String) (h : Handler) : Dispatch :=
  { s with handlers := s.handlers.filter (·.task != task) ++ [h] }

/-- The handler of `task` answers with `status` and leaves. -/
def answer (s : Dispatch) (task : String) (status : Nat) : Dispatch :=
  { s with handlers := s.handlers.filter (·.task != task), answers := s.answers ++ [(task, status)] }

/-- A submission of `ids` arrives under `task` and creates its task; a create the store refuses
is answered at once. -/
def arrive (s : Dispatch) (task : String) (ids : List String) : Dispatch :=
  match s.store.create task ids with
  | .error e => { s with answers := s.answers ++ [(task, (storeAnswer e).status)] }
  | .ok (store, records) => { s with store, handlers := s.handlers ++ [.offering task ids records] }

/-- The next step of a handler: offering the job, failing the next record of a refused one, or
answering 503 once every record is failed. -/
def handle (s : Dispatch) : Handler → Dispatch
  | .offering task ids records =>
    match s.queue.submit ⟨task, ids⟩ with
    | .ok queue => { s with queue }.answer task 200
    | .error e => s.continueAs task (.failing task records.length 0 e)
  | .failing task count next e =>
    if next < count then
      (s.complete .handler task next (.failed e.text)).continueAs task (.failing task count (next + 1) e)
    else s.answer task 503

/-- The next step of worker `i`: an idle worker takes the job at the front of the queue, if
any; a busy one records the outcome of its next advisory, whose analysis gave `r`, or goes idle
when none is left. -/
def work (s : Dispatch) (i : Nat) (r : Except Halt Verdict) : Dispatch :=
  match s.workers[i]? with
  | none => s
  | some .idle =>
    match s.queue.take? with
    | none => s
    | some (job, queue) =>
      { s with queue, workers := s.workers.set i (.busy job.taskId 0 job.ids),
               started := s.started ++ [job.taskId] }
  | some (.busy _ _ []) => { s with workers := s.workers.set i .idle }
  | some (.busy task index (_ :: rest)) =>
    { s.complete .worker task index (Outcome.ofAnalysis r) with
      workers := s.workers.set i (.busy task (index + 1) rest) }

/-- A step of the daemon: a submission under a task id not handed out before, with fewer ids
than a vector holds; the next step of a handler in flight; or the next step of a worker. -/
inductive Step : Dispatch → Dispatch → Prop
  | arrive (s : Dispatch) (task : String) (ids : List String) (fresh : task ∉ s.taskIds)
      (fits : ids.length < Nat.pow 2 63) : Step s (s.arrive task ids)
  | handle (s : Dispatch) (h : Handler) (mem : h ∈ s.handlers) : Step s (s.handle h)
  | work (s : Dispatch) (i : Nat) (r : Except Halt Verdict) (mem : i < s.workers.length) :
      Step s (s.work i r)

/-- The states a daemon reaches from its start. -/
inductive Run (b : Backend) (workers capacity : Nat) : Dispatch → Prop
  | initial : Run b workers capacity (initial b workers capacity)
  | step {s s' : Dispatch} : Run b workers capacity s → Step s s' → Run b workers capacity s'

end Dispatch

end AdvisoryTrace.Daemon
