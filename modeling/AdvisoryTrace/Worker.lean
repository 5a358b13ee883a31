import AdvisoryTrace.Pipeline
import AdvisoryTrace.Store

/-!
# Jobs and workers

A job is one submitted batch: a task id and its advisory ids. A worker runs the advisories of a
job in order through the pipeline, and records each outcome at the advisory's position in the
task: a verdict is done (and is also handed to the worker's saver), a failure or a breakdown
is failed. What the store or the saver refuse does not stop the job.
-/

namespace AdvisoryTrace

/-- One submitted batch. -/
structure Job where
  taskId : String
  ids : List String
  deriving BEq, Repr

/-- The outcome of an analysis: a verdict is done, a failure or a breakdown is failed. -/
def Outcome.ofAnalysis : Except Halt Verdict → Outcome
  | .ok v => .done v.chain v.confidence
  | .error h => .ofFailure h.toFailure

/-- What the workers share: the pipeline, how an outcome is recorded, and what else is done
with a verdict. -/
structure Workers (σ : Type) where
  pipeline : Pipeline σ
  record : String → Nat → Outcome → StateM σ Unit
  save : Verdict → StateM σ Unit

namespace Workers

/-- The outcome of one advisory, once analysed; a verdict is also handed to the saver. -/
def settle {σ : Type} (w : Workers σ) (id : String) : StateM σ Outcome := do
  let r ← (w.pipeline.analyze id).run
  if let .ok v := r then w.save v
  return Outcome.ofAnalysis r

/-- Runs the advisories from position `index` on. -/
def runFrom {σ : Type} (w : Workers σ) (task : String) : Nat → List String → StateM σ Unit
  | _, [] => pure ()
  | index, id :: rest => do
    let o ← w.settle id
    w.record task index o
    w.runFrom task (index + 1) rest

/-- Runs every advisory of a job, in order. -/
def runJob {σ : Type} (w : Workers σ) (job : Job) : StateM σ Unit :=
  w.runFrom job.taskId 0 job.ids

end Workers

/-- Records an outcome in a store, passing over a refusal. -/
def TaskStore.record (s : TaskStore) (task : String) (index : Nat) (o : Outcome) : TaskStore :=
  match s.complete task index o with
  | .ok s => s
  | .error _ => s

end AdvisoryTrace
