import Mathlib
import AdvisoryTrace.Proofs.DispatchSlices

/-!
# Every record is completed once

Whatever the submissions, the number of workers and the queue's room, whatever the analyses
give and however the steps of handlers and workers interleave, and on either store:

* every `complete` call a worker or a handler makes goes through;
* no record gets two calls, and a record holds the outcome of its call, so the first terminal
  outcome of a record is the one it keeps;
* once no handler is in flight, no job waits and every worker is idle, every record has had
  exactly one call;
* a submission answered 503 had every record failed with the queue's refusal before the answer,
  and no worker ever took its job.

Each is read off the slices of `Dispatch.Tracks`, which every run keeps. On the database, where
a store call is a few statements, each run is a run of a session serving the calls one at a time,
and the calls in flight together never clash (`Dispatch.Run.refines_sessions`).
-/

namespace AdvisoryTrace.Daemon

namespace Dispatch

/-- No handler is in flight, no job waits in the queue, and every worker is idle. -/
def Quiet (s : Dispatch) : Prop :=
  s.handlers = [] ∧ s.queue.waiting = [] ∧ ∀ w ∈ s.workers, w = .idle

/-- How many `complete` calls record `i` of task `t` got. -/
def callsOn (s : Dispatch) (t : String) (i : Nat) : Nat :=
  s.completions.countP fun c => c.task == t && c.index == i

/-- What the daemon promises of the `complete` calls of its handlers and workers. -/
structure CompletesOnce (s : Dispatch) : Prop where
  /-- Every call went through. -/
  succeeded : ∀ c ∈ s.completions, c.answer = .ok ()
  /-- No record got two calls. -/
  atMostOnce : ∀ t i, s.callsOn t i ≤ 1
  /-- A record holds the outcome of its call. -/
  kept : ∀ c ∈ s.completions, ∃ rs r, s.store.get c.task = .ok (some rs) ∧
    rs[c.index]? = some r ∧ r = (Record.pending r.id).apply c.outcome
  /-- With nothing in flight, every record got exactly one call. -/
  exactlyOnce : s.Quiet → ∀ t rs, s.store.get t = .ok (some rs) → ∀ i < rs.length,
    s.callsOn t i = 1
  /-- A submission answered 503 has every record failed with the refusal, no worker took its
  job, and only its handler made calls on it. -/
  refused : ∀ t, (t, 503) ∈ s.answers →
    (∃ rs, s.store.get t = .ok (some rs) ∧
      ∀ r ∈ rs, r.status = .failed ∧ r.error = some "job queue is full") ∧
    t ∉ s.started ∧ ∀ c ∈ s.completions, c.task = t → c.caller = .handler

end Dispatch

namespace Slice.Ok

open Record Completion

variable {t : String} {sl : Slice}

/-- A slice's calls are one run of calls over its first records, which hold their outcomes. -/
theorem completions_logged (h : sl.Ok t) :
    ∃ caller os, sl.completions = logged caller t os ∧
      (os ≠ [] → ∃ ids, os.length ≤ ids.length ∧ sl.records = some (settleFirst ids os)) := by
  cases h with
  | unknown | offering | queued => exact ⟨.worker, [], rfl, fun h => absurd rfl h⟩
  | failing ids hk => exact ⟨_, _, rfl, fun _ => ⟨ids, by simpa using hk, rfl⟩⟩
  | refused ids => exact ⟨_, _, rfl, fun _ => ⟨ids, by simp, rfl⟩⟩
  | running ids hos => exact ⟨_, _, rfl, fun _ => ⟨ids, hos, rfl⟩⟩
  | finished ids hos => exact ⟨_, _, rfl, fun _ => ⟨ids, hos.le, rfl⟩⟩

/-- With no handler, no job and no worker, a known task has a call for every record. -/
theorem of_quiet {rs : List Record} (h : sl.Ok t) (hh : sl.handlers = []) (hj : sl.jobs = [])
    (hr : sl.runners = []) (hrec : sl.records = some rs) :
    ∃ caller os, sl.completions = logged caller t os ∧ os.length = rs.length := by
  cases h with
  | refused ids =>
    obtain rfl := Option.some.inj hrec
    exact ⟨_, _, rfl, by simp⟩
  | finished ids hos =>
    obtain rfl := Option.some.inj hrec
    exact ⟨_, _, rfl, by simp [hos]⟩
  | _ => simp_all

theorem of_refused (h : sl.Ok t) (ha : 503 ∈ sl.answers) :
    ∃ ids, sl = ⟨some (settleFirst ids (List.replicate ids.length refusal)), [], [503], [], [], [],
      logged .handler t (List.replicate ids.length refusal)⟩ := by
  cases h with
  | unknown hu => exact absurd ha hu.2
  | refused ids => exact ⟨ids, rfl⟩
  | _ => simp_all

end Slice.Ok

namespace Dispatch

open Record Completion

variable {s : Dispatch} {m : MemoryStore}

theorem mem_slice_completions {c : Completion} (hc : c ∈ s.completions) :
    c ∈ (s.slice m c.task).completions :=
  List.mem_filter.mpr ⟨hc, by simp⟩

/-- The calls on a record are counted among the calls on its task. -/
theorem callsOn_eq (s : Dispatch) (m : MemoryStore) (t : String) (i : Nat) :
    s.callsOn t i = (s.slice m t).completions.countP fun c => c.task == t && c.index == i := by
  simp only [callsOn, slice, List.countP_filter]
  congr 1
  funext c
  cases c.task == t <;> simp

theorem Tracks.succeeded (h : s.Tracks m) {c : Completion} (hc : c ∈ s.completions) :
    c.answer = .ok () := by
  obtain ⟨caller, os, hlog, -⟩ := (h.slices c.task).completions_logged
  obtain ⟨j, hj, hcj⟩ := mem_logged (hlog ▸ mem_slice_completions hc)
  exact congrArg Completion.answer hcj

theorem Tracks.atMostOnce (h : s.Tracks m) (t : String) (i : Nat) : s.callsOn t i ≤ 1 := by
  obtain ⟨caller, os, hlog, -⟩ := (h.slices t).completions_logged
  rw [callsOn_eq s m, hlog, countP_logged]
  split <;> omega

theorem Tracks.kept (h : s.Tracks m) {c : Completion} (hc : c ∈ s.completions) :
    ∃ rs r, s.store.get c.task = .ok (some rs) ∧ rs[c.index]? = some r ∧
      r = (Record.pending r.id).apply c.outcome := by
  obtain ⟨caller, os, hlog, hrec⟩ := (h.slices c.task).completions_logged
  have hmem := hlog ▸ mem_slice_completions (m := m) hc
  obtain ⟨j, hj, hcj⟩ := mem_logged hmem
  obtain ⟨ids, hos, hr⟩ := hrec (List.ne_nil_of_length_pos (by omega))
  have hget : m.get c.task = some (settleFirst ids os) := hr
  have hidx : c.index = j := congrArg Completion.index hcj
  have hout : c.outcome = os[j] := congrArg Completion.outcome hcj
  refine ⟨_, (pending ids[j]).apply os[j], h.holds.get hget, ?_, ?_⟩
  · rw [hidx]
    exact getElem?_settleFirst_of_lt hj hos
  · rw [hout, apply_id]
    rfl

theorem Tracks.exactlyOnce (h : s.Tracks m) (hq : s.Quiet) {t : String} {rs : List Record}
    (hg : s.store.get t = .ok (some rs)) {i : Nat} (hi : i < rs.length) : s.callsOn t i = 1 := by
  obtain ⟨hh, hj, hw⟩ := hq
  have hr : s.workers.filter (Runner.on t) = [] :=
    List.filter_eq_nil_iff.mpr fun w hmem => by simp [hw w hmem]
  obtain ⟨caller, os, hlog, hlen⟩ := (h.slices t).of_quiet (by simp [slice, hh])
    (by simp [slice, hj]) hr (h.holds.get_of_ok hg)
  rw [callsOn_eq s m, hlog, countP_logged, if_pos (hlen ▸ hi)]

theorem Tracks.refused (h : s.Tracks m) {t : String} (ha : (t, 503) ∈ s.answers) :
    (∃ rs, s.store.get t = .ok (some rs) ∧
      ∀ r ∈ rs, r.status = .failed ∧ r.error = some "job queue is full") ∧
    t ∉ s.started ∧ ∀ c ∈ s.completions, c.task = t → c.caller = .handler := by
  have ha' : 503 ∈ (s.slice m t).answers :=
    List.mem_map.mpr ⟨(t, 503), List.mem_filter.mpr ⟨ha, by simp⟩, rfl⟩
  obtain ⟨ids, hsl⟩ := (h.slices t).of_refused ha'
  simp only [slice, Slice.mk.injEq] at hsl
  obtain ⟨hg, -, -, -, -, hst, hc⟩ := hsl
  refine ⟨⟨_, h.holds.get hg, fun r hr => ?_⟩, fun ht => ?_, fun c hc' hct => ?_⟩
  · rw [settleFirst_replicate] at hr
    obtain ⟨id, -, rfl⟩ := List.mem_map.mp hr
    exact ⟨rfl, rfl⟩
  · have : t ∈ s.started.filter (· == t) := List.mem_filter.mpr ⟨ht, by simp⟩
    rw [hst] at this
    cases this
  · have hmem : c ∈ s.completions.filter (·.task == t) := List.mem_filter.mpr ⟨hc', by simp [hct]⟩
    rw [hc] at hmem
    obtain ⟨j, hj, rfl⟩ := mem_logged hmem
    rfl

/-- Every state a run of the daemon reaches keeps its promises on `complete` calls. -/
theorem Run.completes_once {b : Backend} {workers capacity : Nat} (hs : s.Run b workers capacity) :
    s.CompletesOnce := by
  obtain ⟨m, h⟩ := hs.tracks
  exact ⟨fun _ hc => h.succeeded hc, h.atMostOnce, fun _ hc => h.kept hc,
    fun hq _ _ hg _ hi => h.exactlyOnce hq hg hi, fun _ ha => h.refused ha⟩

/-- One worker and room for one job: the first submission is queued, and the second is refused,
its record failed, and answered 503. -/
theorem completes_once_with_a_refusal :
    let s₁ := (Dispatch.initial .memory 1 1).arrive "a" ["x"]
    let s₂ := s₁.handle (.offering "a" ["x"] [Record.pending "x"])
    let s₃ := s₂.arrive "b" ["y"]
    let s₄ := s₃.handle (.offering "b" ["y"] [Record.pending "y"])
    let s₅ := s₄.handle (.failing "b" 1 0 .full)
    let s₆ := s₅.handle (.failing "b" 1 1 .full)
    s₆.Run .memory 1 1 ∧ ("b", 503) ∈ s₆.answers ∧ s₆.CompletesOnce := by
  intro s₁ s₂ s₃ s₄ s₅ s₆
  have h₁ : s₁.Run .memory 1 1 := .step .initial (.arrive _ _ _ (by decide) (by decide))
  have h₂ : s₂.Run .memory 1 1 := .step h₁ (.handle _ _ (List.mem_singleton.mpr rfl))
  have h₃ : s₃.Run .memory 1 1 := .step h₂ (.arrive _ _ _ (by decide) (by decide))
  have h₄ : s₄.Run .memory 1 1 := .step h₃ (.handle _ _ (List.mem_singleton.mpr rfl))
  have h₅ : s₅.Run .memory 1 1 := .step h₄ (.handle _ _ (List.mem_singleton.mpr rfl))
  have h₆ : s₆.Run .memory 1 1 := .step h₅ (.handle _ _ (List.mem_singleton.mpr rfl))
  exact ⟨h₆, by decide, h₆.completes_once⟩

end Dispatch

end AdvisoryTrace.Daemon
