import AdvisoryTrace.Pipeline
import AdvisoryTrace.Text.Quoted

/-!
# Prepared working copies

A checkout that serves working copies prepared beforehand, one per repository URL, whatever
the commit asked for. A URL may instead be set to refuse with a message, or to break down;
a URL with nothing prepared is refused.
-/

namespace AdvisoryTrace.Repository

/-- What is prepared for one repository URL. -/
inductive Prepared where
  | copy (c : WorkingCopy)
  | refusal (message : String)
  | breakdown (message : String)

/-- The checkout stage over prepared copies. -/
def checkoutPrepared {σ : Type} (table : List (String × Prepared)) (url _commit : String) :
    Stage σ WorkingCopy :=
  match table.lookup url with
  | some (.copy c) => pure c
  | some (.refusal message) => throw (.failure (.checkout message))
  | some (.breakdown message) => throw (.abort message)
  | none => throw (.failure (.checkout ("no fixture for " ++ Text.quoted url)))

end AdvisoryTrace.Repository
