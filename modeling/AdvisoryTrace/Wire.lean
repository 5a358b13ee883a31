import AdvisoryTrace.Chain.Basic
import AdvisoryTrace.Schema
import AdvisoryTrace.Json.Writer

/-!
# Wire forms

The JSON forms of what the daemon and its client exchange: call steps, the body of an analysis
request (the advisory ids), the body of an error answer, and where an advisory's code lives.
Each comes with its shape, so that reading it reports mismatches in the usual words.
-/

namespace AdvisoryTrace

namespace Step

/-- The shape of a step. -/
def shape : Shape := .record "CallStep" [("function", .text, false), ("depth", .size, false)]

/-- A step's wire form. -/
def toValue (s : Step) : Json.Value :=
  .obj [("function", .str s.function), ("depth", .ofNat s.depth)]

/-- A step from a value of its shape. -/
def ofValue (v : Json.Value) : Step :=
  ⟨((v.get? "function").bind (·.asString?)).getD "", ((v.get? "depth").bind (·.asNat?)).getD 0⟩

end Step

/-- A chain's steps as a wire list. -/
def Chain.toValue (c : Chain) : Json.Value := .arr (c.steps.map Step.toValue)

/-- The body of a request to analyse advisories. -/
structure AnalyzeRequest where
  ids : List String
  deriving BEq, Repr

namespace AnalyzeRequest

/-- The shape of the request body. -/
def shape : Shape := .record "AnalyzeRequest" [("rustsec_ids", .list .text, false)]

/-- The request body's wire form. -/
def toValue (r : AnalyzeRequest) : Json.Value := .obj [("rustsec_ids", .arr (r.ids.map .str))]

/-- A request from a value of its shape. -/
def ofValue (v : Json.Value) : AnalyzeRequest :=
  ⟨(((v.get? "rustsec_ids").bind (·.asArray?)).getD []).filterMap (·.asString?)⟩

end AnalyzeRequest

/-- The body of an error answer. -/
structure ErrorBody where
  error : String
  deriving BEq, Repr

namespace ErrorBody

/-- The shape of an error body. -/
def shape : Shape := .record "ErrorBody" [("error", .text, false)]

/-- The error body's wire form. -/
def toValue (e : ErrorBody) : Json.Value := .obj [("error", .str e.error)]

/-- An error body from a value of its shape. -/
def ofValue (v : Json.Value) : ErrorBody := ⟨((v.get? "error").bind (·.asString?)).getD ""⟩

end ErrorBody

/-- Where an advisory's vulnerable code lives: a repository, a commit, and the test that
reaches it. -/
structure Resolution where
  repoUrl : String
  commit : String
  testId : String
  deriving BEq, Repr

namespace Resolution

/-- The shape of a resolution. -/
def shape : Shape :=
  .record "Resolution" [("repo_url", .text, false), ("commit", .text, false), ("test_id", .text, false)]

/-- The resolution's wire form. -/
def toValue (r : Resolution) : Json.Value :=
  .obj [("repo_url", .str r.repoUrl), ("commit", .str r.commit), ("test_id", .str r.testId)]

end Resolution

end AdvisoryTrace
