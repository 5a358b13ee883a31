import AdvisoryTrace.Chain.Basic
import AdvisoryTrace.Double
import AdvisoryTrace.Failure

/-!
# Agreement of two call chains

The static analysis and the model each propose a chain. The verdict keeps the static chain (or,
when it is empty, the model's names as a flat chain) and a confidence that blends the model's
own score with how much the two agree: `w * score + (1 - w) * 100 * J`, where `J` is the
Jaccard index of the two sets of function names and `w` the model's weight in `[0, 1]`, all
computed in doubles. The blend is rounded half away from zero and cut to `0..100`; a weight
that is not a number gives confidence zero. Two empty chains are refused.
-/

namespace AdvisoryTrace

/-- The model's proposal: function names, entry first, and its own score. -/
structure ModelChain where
  functions : List String
  score : UInt8
  deriving BEq, Repr

/-- The combined result for one advisory. -/
structure Verdict where
  chain : String
  confidence : UInt8
  deriving BEq, Repr

/-- A blend of model score and agreement; the weight is kept within `[0, 1]`. -/
structure Validator where
  weight : Double

namespace Validator

/-- A weight cut to `[0, 1]`; a weight that is not a number stays so. -/
def clampUnit (w : Double) : Double :=
  let w := if w < 0 then 0 else w
  if w > 1 then 1 else w

/-- The validator with the given model weight. -/
def ofWeight (w : Double) : Validator := ⟨clampUnit w⟩

/-- The validator with the model weight a float holds. -/
def new (w : Float) : Validator := ofWeight (Double.ofFloat w)

/-- The default validator weighs score and agreement equally. -/
def standard : Validator := ofWeight 0.5

/-- The Jaccard index of the two name sets, zero when both are empty. -/
def agreement (static : Chain) (model : ModelChain) : Double :=
  let a := static.functions
  let b := Chain.sortedNames model.functions
  let union := (Chain.sortedNames (a ++ b)).length
  let common := (a.filter b.contains).length
  if union == 0 then 0 else Double.ofNat common / Double.ofNat union

/-- The blended confidence: rounded, cut to `0..100`, not-a-number as zero. -/
def confidence (v : Validator) (static : Chain) (model : ModelChain) : UInt8 :=
  let score := Double.ofNat (min model.score 100).toNat
  let blended := v.weight * score + (1 - v.weight) * 100 * agreement static model
  let r := blended.round
  let r := if r < 0 then 0 else r
  let r := if r > 100 then 100 else r
  r.toUInt8

/-- The verdict of two chains; two empty chains are a validation failure. -/
def judge (v : Validator) (static : Chain) (model : ModelChain) : Except Failure Verdict :=
  if static.isEmpty && model.functions.isEmpty then
    .error (.validation "static and model call chains are both empty")
  else
    let chain := if static.isEmpty then (Chain.flat model.functions).render else static.render
    .ok ⟨chain, v.confidence static model⟩

end Validator

end AdvisoryTrace
