import AdvisoryTrace.Failure
import AdvisoryTrace.Schema
import AdvisoryTrace.Json.Writer

/-!
# Analysis records

One record per submitted advisory: its id, a status, and once the analysis ends either a
call chain with its confidence or an error. A record starts pending; an outcome moves it to
done or failed. Applying an outcome sets only the fields that outcome speaks of, so a record
that was done and then fails keeps its chain and confidence beside the new error.
-/

namespace AdvisoryTrace

/-- Where a record is in its life. -/
inductive Status where
  | pending
  | done
  | failed
  deriving BEq, DecidableEq, Repr

namespace Status

/-- The status's wire spelling. -/
def name : Status → String
  | .pending => "pending"
  | .done => "done"
  | .failed => "failed"

/-- A record can no longer change once it is done or failed. -/
def isTerminal : Status → Bool
  | .pending => false
  | _ => true

/-- The status named by a wire spelling. -/
def ofName? : String → Option Status
  | "pending" => some .pending
  | "done" => some .done
  | "failed" => some .failed
  | _ => none

/-- The shape of a status on the wire. -/
def shape : Shape := .choice "AnalysisStatus" ["pending", "done", "failed"]

end Status

/-- The result kept for one advisory. Confidence is a byte; the analysis writes 0 to 100. -/
structure Record where
  id : String
  status : Status
  confidence : Option UInt8
  chain : Option String
  error : Option String
  deriving BEq, Repr

/-- How an analysis ended. -/
inductive Outcome where
  | done (chain : String) (confidence : UInt8)
  | failed (error : String)
  deriving BEq, Repr

namespace Outcome

/-- The outcome of a failure: its full text. -/
def ofFailure (e : Failure) : Outcome := .failed e.text

/-- The status an outcome moves a record into. -/
def status : Outcome → Status
  | .done .. => .done
  | .failed _ => .failed

end Outcome

namespace Record

/-- A fresh record: pending, nothing else known. -/
def pending (id : String) : Record := ⟨id, .pending, none, none, none⟩

/-- Applies an outcome: done sets status, chain and confidence; failed sets status and error. -/
def apply (r : Record) : Outcome → Record
  | .done chain confidence => { r with status := .done, chain := some chain, confidence := some confidence }
  | .failed error => { r with status := .failed, error := some error }

/-- The wire form, fields in their fixed order, absent values as null. -/
def toValue (r : Record) : Json.Value :=
  .obj [("id", .str r.id), ("status", .str r.status.name),
    ("confidence", match r.confidence with | some c => .ofNat c.toNat | none => .null),
    ("call_chain", .ofOption r.chain), ("error", .ofOption r.error)]

/-- The shape of a record on the wire. -/
def shape : Shape :=
  .record "AnalysisRecord" [("id", .text, false), ("status", Status.shape, false),
    ("confidence", .optional .byte, false), ("call_chain", .optional .text, false),
    ("error", .optional .text, false)]

/-- A record from a value of its shape. -/
def ofValue (v : Json.Value) : Record :=
  { id := ((v.get? "id").bind (·.asString?)).getD ""
    status := (((v.get? "status").bind (·.asString?)).bind Status.ofName?).getD .pending
    confidence := ((v.get? "confidence").bind (·.asNat?)).map Nat.toUInt8
    chain := (v.get? "call_chain").bind (·.asString?)
    error := (v.get? "error").bind (·.asString?) }

/-- The compact wire text. -/
def compact (r : Record) : String := r.toValue.compact

end Record

end AdvisoryTrace
