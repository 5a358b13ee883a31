import Mathlib
import AdvisoryTrace.Proofs.DispatchSlices

/-!
# Settled records come first

A worker completes a job's records in order, one call at a time, and so does a handler failing
a refused job; a task is served by one of the two only, and every call goes through. So at any
moment the records of a task are settled from the first on: the statuses a poll of
`GET /result/{task}` reads are terminal ones followed by pending ones. On the database such a
poll is a read that clashes with no call in flight (`Dispatch.Run.makes_never_clash`).

* `Record.SettledFirst`: the statuses of a list are terminal, then pending;
* `Record.settledFirst_settleFirst`: records settled in order have that form;
* `Dispatch.Run.settled_first`: in every state a run reaches, every task's records have it.
-/

namespace AdvisoryTrace

namespace Record

/-- The statuses of the records are terminal ones followed by pending ones. -/
def SettledFirst (rs : List Record) : Prop :=
  ∃ settled waiting, rs.map (·.status) = settled ++ waiting ∧
    (∀ st ∈ settled, st.isTerminal) ∧ ∀ st ∈ waiting, st = .pending

theorem isTerminal_status (o : Outcome) : o.status.isTerminal := by
  cases o <;> rfl

/-- Records settled in order: the outcomes' statuses, then pending ones. -/
theorem statuses_settleFirst {ids : List String} {os : List Outcome} (h : os.length ≤ ids.length) :
    (settleFirst ids os).map (·.status) =
      os.map Outcome.status ++ List.replicate (ids.length - os.length) .pending := by
  induction os generalizing ids with
  | nil =>
    rw [settleFirst_nil, List.map_map, List.length_nil, Nat.sub_zero, List.map_nil,
      List.nil_append]
    exact List.map_const'
  | cons o os ih =>
    cases ids with
    | nil => simp at h
    | cons id ids =>
      simp only [settleFirst, List.map_cons, apply_status, List.length_cons,
        Nat.add_sub_add_right, List.cons_append]
      rw [ih (by simpa using h)]

theorem settledFirst_settleFirst {ids : List String} {os : List Outcome}
    (h : os.length ≤ ids.length) : SettledFirst (settleFirst ids os) := by
  refine ⟨_, _, statuses_settleFirst h, ?_, ?_⟩
  · intro st hst
    obtain ⟨o, -, rfl⟩ := List.mem_map.mp hst
    exact isTerminal_status o
  · intro st hst
    exact List.eq_of_mem_replicate hst

/-- Among records settled first, a record before a terminal one is terminal too. -/
theorem SettledFirst.isTerminal_of_lt {rs : List Record} (h : SettledFirst rs) {i : Nat}
    (hi : i < rs.length) (ht : rs[i].status.isTerminal) {j : Nat} (hj : j < i) :
    rs[j].status.isTerminal := by
  obtain ⟨settled, waiting, hmap, hs, hw⟩ := h
  have hlen : settled.length + waiting.length = rs.length := by
    simpa using (congrArg List.length hmap).symm
  have hstatus (k : Nat) (hk : k < rs.length) (hk' : k < (settled ++ waiting).length) :
      rs[k].status = (settled ++ waiting)[k] := by
    simp only [← hmap, List.getElem_map]
  have hin : i < settled.length := by
    by_contra hge
    have hk : i - settled.length < waiting.length := by omega
    have hp := hw _ (List.getElem_mem hk)
    rw [hstatus i hi (by simp; omega), List.getElem_append_right (by omega), hp] at ht
    cases ht
  rw [hstatus j (by omega) (by simp; omega), List.getElem_append_left (by omega)]
  exact hs _ (List.getElem_mem _)

end Record

namespace Daemon

open Record

/-- A task's records in any form of its slice are settled first. -/
theorem Slice.Ok.settledFirst {t : String} {sl : Slice} (h : sl.Ok t) {rs : List Record}
    (hr : sl.records = some rs) : SettledFirst rs := by
  cases h with
  | unknown => cases hr
  | offering ids | queued ids =>
    obtain rfl := Option.some.inj hr
    simpa using settledFirst_settleFirst (show ([] : List Outcome).length ≤ ids.length by simp)
  | failing ids hk =>
    obtain rfl := Option.some.inj hr
    exact settledFirst_settleFirst (by simpa using hk)
  | refused ids =>
    obtain rfl := Option.some.inj hr
    exact settledFirst_settleFirst (by simp)
  | running ids hos =>
    obtain rfl := Option.some.inj hr
    exact settledFirst_settleFirst hos
  | finished ids hos =>
    obtain rfl := Option.some.inj hr
    exact settledFirst_settleFirst hos.le

namespace Dispatch

variable {s : Dispatch}

/-- In every state a run of the daemon reaches, on either store, a task's records are settled
from the first on: a record before a done or failed one is done or failed, so a poll reads
terminal statuses followed by pending ones. -/
theorem Run.settled_first {b : Backend} {workers capacity : Nat} (hs : s.Run b workers capacity)
    {t : String} {rs : List Record} (hg : s.store.get t = .ok (some rs)) :
    (∀ i (hi : i < rs.length), rs[i].status.isTerminal →
      ∀ j (hj : j < i), rs[j].status.isTerminal) ∧ SettledFirst rs := by
  obtain ⟨m, h⟩ := hs.tracks
  have hsettled : SettledFirst rs := (h.slices t).settledFirst (h.holds.get_of_ok hg)
  exact ⟨fun _ hi ht _ hj => hsettled.isTerminal_of_lt hi ht hj, hsettled⟩

/-- One worker part-way through a job of two advisories: the first record is done, the second
still pending. -/
theorem settled_first_part_way :
    let s₁ := (Dispatch.initial .memory 1 1).arrive "a" ["x", "y"]
    let s₂ := s₁.handle (.offering "a" ["x", "y"] [Record.pending "x", Record.pending "y"])
    let s₃ := s₂.work 0 (.ok ⟨"main()", 90⟩)
    let s₄ := s₃.work 0 (.ok ⟨"main()", 90⟩)
    let rs := [(Record.pending "x").apply (.done "main()" 90), Record.pending "y"]
    s₄.Run .memory 1 1 ∧ s₄.store.get "a" = .ok (some rs) ∧
      (∀ i (hi : i < rs.length), rs[i].status.isTerminal →
        ∀ j (hj : j < i), rs[j].status.isTerminal) ∧ SettledFirst rs := by
  intro s₁ s₂ s₃ s₄ rs
  have h₁ : s₁.Run .memory 1 1 := .step .initial (.arrive _ _ _ (by decide) (by decide))
  have h₂ : s₂.Run .memory 1 1 := .step h₁ (.handle _ _ (List.mem_singleton.mpr rfl))
  have h₃ : s₃.Run .memory 1 1 := .step h₂ (.work _ 0 _ (by decide))
  have h₄ : s₄.Run .memory 1 1 := .step h₃ (.work _ 0 _ (by decide))
  have hg : s₄.store.get "a" = .ok (some rs) := rfl
  exact ⟨h₄, hg, h₄.settled_first hg⟩

end Dispatch

end Daemon

end AdvisoryTrace
