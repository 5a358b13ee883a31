import AdvisoryTrace.Catalog
import AdvisoryTrace.Source.Folder
import AdvisoryTrace.Verdict

/-!
# The analysis pipeline

One advisory is analysed in five stages: its id is resolved in the catalog, its repository is
checked out at the commit, the call chain from its test is traced in the checkout, a model is
asked for its own chain, and the two chains are judged together into a verdict.

The checkout and the model act on an environment `σ` (a disk with a repository cache, a model
server), which the pipeline threads through. A stage stops the analysis with a failure, or
breaks down. A model that is unavailable counts as an empty answer with score 0 when the
pipeline allows the static chain alone.
-/

namespace AdvisoryTrace

/-- A working copy of a repository: the disk it is on and its path there. -/
structure WorkingCopy where
  disk : Disk
  path : String

/-- How a stage stops the analysis of one advisory: with a failure, or by breaking down. -/
inductive Halt where
  | failure (f : Failure)
  | abort (message : String)

namespace Halt

/-- The failure an analysis records: a breakdown is an aborted analysis. -/
def toFailure : Halt → Failure
  | .failure f => f
  | .abort message => .analysis ("pipeline task aborted: " ++ message)

end Halt

/-- A stage acting on an environment `σ`. -/
abbrev Stage (σ : Type) := ExceptT Halt (StateM σ)

/-- A stage from a result that does not touch the environment. -/
def Stage.lift {σ α : Type} (r : Except Failure α) : Stage σ α :=
  match r with
  | .ok a => pure a
  | .error f => throw (.failure f)

/-- The five stages of an analysis, each of any behaviour, and whether the static chain may
stand alone when the model is unavailable. -/
structure Stages (σ : Type) where
  resolve : String → Stage σ Resolution
  ensure : String → String → Stage σ WorkingCopy
  staticChain : WorkingCopy → String → Stage σ Chain
  generate : WorkingCopy → String → Chain → Stage σ ModelChain
  crossValidate : Chain → ModelChain → Stage σ Verdict
  allowStaticOnly : Bool

namespace Stages

/-- The model's chain; an unavailable model is an empty chain with score 0 when the static
chain may stand alone. -/
def modelChain {σ : Type} (p : Stages σ) (copy : WorkingCopy) (testId : String)
    (static : Chain) : Stage σ ModelChain :=
  tryCatch (p.generate copy testId static) fun
    | .failure (.unavailable message) =>
      if p.allowStaticOnly then pure ⟨[], 0⟩ else throw (.failure (.unavailable message))
    | h => throw h

/-- Analyses one advisory: resolve, check out, trace, ask the model, judge. -/
def analyze {σ : Type} (p : Stages σ) (id : String) : Stage σ Verdict := do
  let res ← p.resolve id
  let copy ← p.ensure res.repoUrl res.commit
  let static ← p.staticChain copy res.testId
  let model ← p.modelChain copy res.testId static
  p.crossValidate static model

end Stages

/-- The stages of the analysis as the daemon wires them: the catalog, a checkout, the call
chain of the working copy's Rust sources, a model and the agreement validator. -/
structure Pipeline (σ : Type) where
  catalog : Catalog
  checkout : String → String → Stage σ WorkingCopy
  maxDepth : Nat
  model : WorkingCopy → String → Chain → StateM σ (Except Failure ModelChain)
  validator : Validator
  allowStaticOnly : Bool

namespace Pipeline

/-- The model as a stage: its failure stops the analysis. -/
def generate {σ : Type} (p : Pipeline σ) (copy : WorkingCopy) (testId : String)
    (static : Chain) : Stage σ ModelChain := do
  match ← (p.model copy testId static : StateM σ _) with
  | .ok m => pure m
  | .error f => throw (.failure f)

/-- The five stages of the wiring. -/
def stages {σ : Type} (p : Pipeline σ) : Stages σ where
  resolve id := .lift (p.catalog.resolve id)
  ensure := p.checkout
  staticChain copy testId := .lift (Source.traceFolder copy.disk copy.path testId p.maxDepth)
  generate := p.generate
  crossValidate static model := .lift (p.validator.judge static model)
  allowStaticOnly := p.allowStaticOnly

/-- Analyses one advisory through the wired stages. -/
def analyze {σ : Type} (p : Pipeline σ) (id : String) : Stage σ Verdict := p.stages.analyze id

end Pipeline

end AdvisoryTrace
