import Mathlib.Data.List.Induction
import AdvisoryTrace.Proofs.SettleOnce

/-!
# Outcomes applied in turn

`Record.apply` sets only the fields its outcome speaks of: a done outcome writes the status,
the chain and the confidence, a failed one the status and the error. So each optional field of
a record is a register of its own, written by one kind of outcome and left as it is by the
other, and a record that outcomes are applied to in turn (also once it is terminal, where the
store would refuse them) carries the last value each kind wrote.

* `foldl_last_write`: after a run, a register holds the last value written to it;
* `Record.foldl_apply_chain` and its siblings: each field after outcomes applied in turn;
* `outcomes_applied_in_turn`: the record that outcomes applied in turn make of a pending one.
-/

namespace AdvisoryTrace

namespace Outcome

/-- The chain and confidence a done outcome carries. -/
def done? : Outcome → Option (String × UInt8)
  | .done chain confidence => some (chain, confidence)
  | .failed _ => none

/-- The error a failed outcome carries. -/
def error? : Outcome → Option String
  | .done .. => none
  | .failed error => some error

end Outcome

/-- A register that each step either overwrites or leaves as it is holds, after a run, the
last value written, or what it held before the run when nothing was written. -/
theorem foldl_last_write {σ α β : Type} (step : σ → α → σ) (read : σ → Option β)
    (write : α → Option β) (h : ∀ s a, read (step s a) = (write a).or (read s)) (s : σ)
    (xs : List α) : read (xs.foldl step s) = (xs.filterMap write).getLast?.or (read s) := by
  induction xs using List.reverseRecOn with
  | nil => rfl
  | append_singleton xs a ih =>
    rw [List.foldl_append, List.foldl_cons, List.foldl_nil, h, ih, List.filterMap_append,
      List.getLast?_append, Option.or_assoc]
    -- the last step writes, and its value is the last one, or it leaves the register
    cases hw : write a <;> simp [hw]

namespace Record

attribute [ext] Record

theorem apply_chain (r : Record) (o : Outcome) :
    (r.apply o).chain = (o.done?.map Prod.fst).or r.chain := by
  cases o <;> rfl

theorem apply_confidence (r : Record) (o : Outcome) :
    (r.apply o).confidence = (o.done?.map Prod.snd).or r.confidence := by
  cases o <;> rfl

theorem apply_error (r : Record) (o : Outcome) : (r.apply o).error = o.error?.or r.error := by
  cases o <;> rfl

theorem foldl_apply_id (r : Record) (os : List Outcome) : (os.foldl apply r).id = r.id := by
  induction os generalizing r with
  | nil => rfl
  | cons o os ih => rw [List.foldl_cons, ih, apply_id]

/-- Every outcome writes the status, so it is the last outcome's. -/
theorem foldl_apply_status (r : Record) (os : List Outcome) :
    (os.foldl apply r).status = (os.getLast?.map Outcome.status).getD r.status := by
  induction os using List.reverseRecOn with
  | nil => rfl
  | append_singleton os o _ => simp [List.foldl_append]

theorem foldl_apply_chain (r : Record) (os : List Outcome) :
    (os.foldl apply r).chain =
      ((os.filterMap Outcome.done?).getLast?.map Prod.fst).or r.chain := by
  rw [foldl_last_write apply chain _ apply_chain, ← List.getLast?_map, List.map_filterMap]

theorem foldl_apply_confidence (r : Record) (os : List Outcome) :
    (os.foldl apply r).confidence =
      ((os.filterMap Outcome.done?).getLast?.map Prod.snd).or r.confidence := by
  rw [foldl_last_write apply confidence _ apply_confidence, ← List.getLast?_map,
    List.map_filterMap]

theorem foldl_apply_error (r : Record) (os : List Outcome) :
    (os.foldl apply r).error = (os.filterMap Outcome.error?).getLast?.or r.error :=
  foldl_last_write apply error _ apply_error r os

end Record

/-- Outcomes applied in turn to a pending record, terminal or not, leave its id; its status is
the last outcome's (pending when there is none); its chain and confidence are the last done
outcome's and its error the last failed outcome's (none when there is no such outcome). -/
theorem outcomes_applied_in_turn (id : String) (os : List Outcome) :
    os.foldl Record.apply (Record.pending id) =
      { id
        status := (os.getLast?.map Outcome.status).getD .pending
        confidence := (os.filterMap Outcome.done?).getLast?.map Prod.snd
        chain := (os.filterMap Outcome.done?).getLast?.map Prod.fst
        error := (os.filterMap Outcome.error?).getLast? } := by
  ext1
  · exact Record.foldl_apply_id _ os
  · exact Record.foldl_apply_status _ os
  · exact (Record.foldl_apply_confidence _ os).trans Option.or_none
  · exact (Record.foldl_apply_chain _ os).trans Option.or_none
  · exact (Record.foldl_apply_error _ os).trans Option.or_none

/-- A done record that then fails keeps its chain and confidence beside the error. -/
example : [.done "main()" 90, .failed "boom"].foldl Record.apply (Record.pending "x") =
    ⟨"x", .failed, some 90, some "main()", some "boom"⟩ := rfl

end AdvisoryTrace
