/-!
# Failures of an analysis

Each stage of analysing one advisory can fail: resolving the advisory, checking out its
repository, the static analysis, the model, or combining the two chains. A failure's text is
the stage's label and the message; it is what a failed record keeps.
-/

namespace AdvisoryTrace

/-- Why the analysis of one advisory stopped, by stage. -/
inductive Failure where
  | resolution (message : String)
  | checkout (message : String)
  | analysis (message : String)
  | unavailable (message : String)
  | validation (message : String)
  deriving BEq, Repr

namespace Failure

/-- The message without the stage label. -/
def detail : Failure → String
  | .resolution m | .checkout m | .analysis m | .unavailable m | .validation m => m

/-- The full text: the stage's label, a colon and the message. -/
def text : Failure → String
  | .resolution m => "resolution error: " ++ m
  | .checkout m => "checkout error: " ++ m
  | .analysis m => "analysis error: " ++ m
  | .unavailable m => "model unavailable: " ++ m
  | .validation m => "validation error: " ++ m

/-- The stage's name in logs. -/
def stage : Failure → String
  | .resolution _ => "resolve"
  | .checkout _ => "checkout"
  | .analysis _ => "static_analysis"
  | .unavailable _ => "model"
  | .validation _ => "validate"

end Failure

end AdvisoryTrace
