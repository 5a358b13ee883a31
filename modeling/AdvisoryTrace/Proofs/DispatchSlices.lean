import Mathlib
import AdvisoryTrace.Daemon.Dispatch
import AdvisoryTrace.Proofs.StoreRefinement

/-!
# What a daemon under load holds of each task

The store is followed through the memory store that holds the same records
(`TaskStore.Holds`): the store itself when it is in memory, or the memory store that the
database's rows mirror (`Mirrors`). A create of a new task and a complete of a pending record go
through on either, with the same effect on that memory store.

A state is cut into slices, one per task (`Dispatch.slice`): the task's records, its handler in
flight, the statuses it was answered with, its job in the queue, the workers on it, its starts
in the workers' log, and its `complete` calls. A step changes the slice of one task, and
`Slice.Ok` lists the forms a slice takes, one per stage of a submission:

    unknown → offering → queued → running → finished
                       ↘ failing → refused

`Dispatch.Tracks` is the invariant: the store holds the memory store, the queue stays open, and
every slice has one of these forms. `Dispatch.Run.tracks` proves it of every state a run
reaches, from one lemma per kind of step.
-/

namespace AdvisoryTrace

section Lists

variable {α : Type} {l : List α} {p : α → Bool} {i : Nat} {x y : α}

theorem eq_take_cons_drop (hy : l[i]? = some y) : l = l.take i ++ y :: l.drop (i + 1) := by
  obtain ⟨hi, rfl⟩ := List.getElem?_eq_some_iff.mp hy
  rw [← List.drop_eq_getElem_cons hi, List.take_append_drop]

theorem filter_eq_around (hy : l[i]? = some y) :
    l.filter p = (l.take i).filter p ++ (if p y then [y] else []) ++ (l.drop (i + 1)).filter p := by
  conv_lhs => rw [eq_take_cons_drop hy]
  rw [List.filter_append, List.filter_cons]
  split <;> simp

theorem filter_set_eq (hy : l[i]? = some y) :
    (l.set i x).filter p =
      (l.take i).filter p ++ (if p x then [x] else []) ++ (l.drop (i + 1)).filter p := by
  have hi : i < l.length := (List.getElem?_eq_some_iff.mp hy).1
  rw [List.set_eq_take_append_cons_drop, if_pos hi, List.filter_append, List.filter_cons]
  split <;> simp

/-- Replacing the one entry a filter could keep: the filter keeps the new entry, if anything. -/
theorem filter_set_of_only (hy : l[i]? = some y) (hl : l.filter p = if p y then [y] else []) :
    (l.set i x).filter p = if p x then [x] else [] := by
  rw [filter_eq_around hy] at hl
  -- what stands around position `i` passes the filter nowhere
  have hlen := congrArg List.length hl
  simp only [List.length_append] at hlen
  have h₁ : (l.take i).filter p = [] := List.eq_nil_of_length_eq_zero (by omega)
  have h₂ : (l.drop (i + 1)).filter p = [] := List.eq_nil_of_length_eq_zero (by omega)
  rw [filter_set_eq hy, h₁, h₂, List.nil_append, List.append_nil]

theorem filter_set_of_not (hy : l[i]? = some y) (hpy : p y = false) (hpx : p x = false) :
    (l.set i x).filter p = l.filter p := by
  rw [filter_set_eq hy, filter_eq_around hy]
  simp [hpx, hpy]

theorem filter_filter_ne (key : α → String) {t u : String} (hu : u ≠ t) (l : List α) :
    (l.filter (key · != t)).filter (key · == u) = l.filter (key · == u) := by
  rw [List.filter_filter]
  apply List.filter_congr
  intro a _
  by_cases h : key a = u <;> simp [h, hu]

end Lists

namespace Record

/-- The records of `ids` once the outcomes `os` are applied, in order, to the first of them. -/
def settleFirst : List String → List Outcome → List Record
  | ids, [] => ids.map pending
  | [], _ :: _ => []
  | id :: ids, o :: os => (pending id).apply o :: settleFirst ids os

@[simp] theorem settleFirst_nil (ids : List String) : settleFirst ids [] = ids.map pending := by
  cases ids <;> rfl

@[simp] theorem length_settleFirst (ids : List String) (os : List Outcome) :
    (settleFirst ids os).length = ids.length := by
  fun_induction settleFirst ids os <;> simp_all

/-- The first record no outcome reached is still pending. -/
theorem getElem?_settleFirst_length {ids : List String} {os : List Outcome}
    (h : os.length < ids.length) :
    (settleFirst ids os)[os.length]? = some (pending ids[os.length]) := by
  induction os generalizing ids with
  | nil => rw [settleFirst_nil, List.getElem?_map, List.getElem?_eq_getElem h]; rfl
  | cons o os ih =>
    cases ids with
    | nil => simp at h
    | cons id ids => simpa [settleFirst] using ih (by simpa using h)

/-- A record an outcome reached holds that outcome. -/
theorem getElem?_settleFirst_of_lt {ids : List String} {os : List Outcome} {j : Nat}
    (hj : j < os.length) (h : os.length ≤ ids.length) :
    (settleFirst ids os)[j]? = some ((pending ids[j]).apply os[j]) := by
  induction os generalizing ids j with
  | nil => simp at hj
  | cons o os ih =>
    cases ids with
    | nil => simp at h
    | cons id ids =>
      cases j with
      | zero => simp [settleFirst]
      | succ j => simpa [settleFirst] using ih (by simpa using hj) (by simpa using h)

/-- One more outcome settles the next record. -/
theorem settleFirst_concat {ids : List String} {os : List Outcome} (h : os.length < ids.length)
    (o : Outcome) :
    settleFirst ids (os ++ [o]) = (settleFirst ids os).set os.length ((pending ids[os.length]).apply o) := by
  induction os generalizing ids with
  | nil =>
    cases ids with
    | nil => simp at h
    | cons id ids => simp [settleFirst]
  | cons o' os ih =>
    cases ids with
    | nil => simp at h
    | cons id ids => simpa [settleFirst] using ih (by simpa using h)

theorem settleFirst_replicate (ids : List String) (o : Outcome) :
    settleFirst ids (List.replicate ids.length o) = ids.map fun id => (pending id).apply o := by
  induction ids with
  | nil => rfl
  | cons id ids ih => simp [List.replicate_succ, settleFirst, ih]

end Record

namespace MemoryStore

/-- A complete of a pending record goes through and applies the outcome to it. -/
theorem complete_of_pending {m : MemoryStore} {t : String} {rs : List Record} {i : Nat}
    {r : Record} (hg : m.get t = some rs) (hr : rs[i]? = some r) (hp : r.status = .pending)
    (o : Outcome) : m.complete t i o = .ok (m.replace t (rs.set i (r.apply o))) := by
  simp [complete, hg, hr, hp, Status.isTerminal]

end MemoryStore

namespace TaskStore

/-- A store holds the records of a memory store: it is that store, or a database whose rows
mirror it, with no task under the empty id. -/
def Holds : TaskStore → MemoryStore → Prop
  | .memory s, m => s = m
  | .database db, m => Mirrors db m (fun _ => False) ∧ m.get "" = none

variable {st st' : TaskStore} {m : MemoryStore} {t : String}

theorem holds_empty (b : Backend) : (TaskStore.empty b).Holds .empty := by
  cases b with
  | memory => rfl
  | database => exact ⟨Mirrors.empty, rfl⟩

/-- A create that goes through starts a new task with one pending record per id, on either
store. -/
theorem Holds.create {ids : List String} {rs : List Record} (h : st.Holds m)
    (hn : m.get t = none) (hl : ids.length < 2 ^ 63) (hc : st.create t ids = .ok (st', rs)) :
    rs = ids.map Record.pending ∧ st'.Holds ⟨m.tasks ++ [(t, rs)]⟩ := by
  cases st with
  | memory s =>
    obtain rfl : s = m := h
    cases hs : s.create t ids with
    | error e => simp [TaskStore.create, hs, Except.map] at hc
    | ok p =>
      simp only [TaskStore.create, hs, Except.map, Except.ok.injEq] at hc
      obtain ⟨rfl, rfl⟩ := Prod.mk.inj hc
      obtain ⟨-, hrs, hs'⟩ := MemoryStore.create_eq_ok hs
      exact ⟨hrs, hs'⟩
  | database db =>
    obtain ⟨hm, he⟩ := h
    by_cases ht : t = ""
    · -- the database names no task row by the empty id
      subst ht
      simp [TaskStore.create, Database.create, Database.createTask, Database.taskRowId, bind,
        Except.bind, Except.map] at hc
    · obtain ⟨hdb, h'⟩ := hm.create_of_new ht hn hl
      simp only [TaskStore.create, hdb, Except.map, Except.ok.injEq, Prod.mk.injEq] at hc
      obtain ⟨rfl, rfl⟩ := hc
      refine ⟨rfl, h', ?_⟩
      rw [MemoryStore.get_append m hn, if_neg (Ne.symm ht), he]

/-- A complete of a pending record goes through on either store, and applies the outcome to
the record. -/
theorem Holds.complete {rs : List Record} {i : Nat} {r : Record} (h : st.Holds m)
    (hg : m.get t = some rs) (hr : rs[i]? = some r) (hp : r.status = .pending) (o : Outcome) :
    ∃ st', st.complete t i o = .ok st' ∧ st'.Holds (m.replace t (rs.set i (r.apply o))) := by
  have hm := MemoryStore.complete_of_pending hg hr hp o
  cases st with
  | memory s =>
    obtain rfl : s = m := h
    exact ⟨.memory (s.replace t (rs.set i (r.apply o))), by simp [TaskStore.complete, hm, Except.map],
      rfl⟩
  | database db =>
    obtain ⟨hmir, he⟩ := h
    have ht : t ≠ "" := fun ht => by rw [ht, he] at hg; cases hg
    have hi : i < 2 ^ 64 := by
      have hlt := hmir.length_lt t
      rw [hg, Option.getD_some] at hlt
      have := (List.getElem?_eq_some_iff.mp hr).1
      omega
    obtain ⟨hne, h'⟩ := hmir.update_of_completed (fun h => h) hi hm
    refine ⟨.database (db.update t (Database.signed i) o).1, ?_, h', ?_⟩
    · simp [TaskStore.complete, Database.complete, List.isEmpty_iff, hne, Except.map]
    · rw [MemoryStore.get_replace, if_neg (Ne.symm ht), he]

/-- A known task reads back as the memory store holds it. -/
theorem Holds.get {rs : List Record} (h : st.Holds m) (hg : m.get t = some rs) :
    st.get t = .ok (some rs) := by
  cases st with
  | memory s =>
    obtain rfl : s = m := h
    simp [TaskStore.get, hg]
  | database db =>
    obtain ⟨hmir, he⟩ := h
    have ht : t ≠ "" := fun ht => by rw [ht, he] at hg; cases hg
    simp only [TaskStore.get, hmir.get_eq ht (fun h => h), hg]

/-- What a store reads back is what the memory store holds. -/
theorem Holds.get_of_ok {r : Option (List Record)} (h : st.Holds m) (hg : st.get t = .ok r) :
    m.get t = r := by
  cases st with
  | memory s =>
    obtain rfl : s = m := h
    simpa [TaskStore.get] using hg
  | database db =>
    obtain ⟨hmir, -⟩ := h
    by_cases ht : t = ""
    · subst ht
      simp [TaskStore.get, Database.get, Database.hasTask, Database.taskRowId, bind,
        Except.bind] at hg
    · simpa [TaskStore.get, hmir.get_eq ht (fun h => h)] using hg

end TaskStore

namespace Daemon

namespace JobQueue

variable {q q' : JobQueue} {job : Job}

theorem submit_eq_ok (h : q.submit job = .ok q') : q' = { q with waiting := q.waiting ++ [job] } := by
  unfold submit at h
  split at h
  · cases h
  · split at h
    · cases h
    · exact (Except.ok.inj h).symm

/-- An open queue refuses a job only when it is full. -/
theorem submit_eq_error {e : EnqueueError} (h : q.submit job = .error e) (hc : q.closed = false) :
    e = .full := by
  unfold submit at h
  simp only [hc, Bool.false_eq_true, if_false] at h
  split at h
  · exact (Except.error.inj h).symm
  · cases h

theorem take?_eq_some (h : q.take? = some (job, q')) :
    q.waiting = job :: q'.waiting ∧ q' = { q with waiting := q'.waiting } := by
  unfold take? at h
  split at h
  · cases h
  · rename_i job' rest hw
    simp only [Option.some.injEq, Prod.mk.injEq] at h
    obtain ⟨rfl, rfl⟩ := h
    exact ⟨hw, rfl⟩

end JobQueue

/-- Whether a worker is on task `t`. -/
def Runner.on (t : String) : Runner → Bool
  | .idle => false
  | .busy task .. => task == t

@[simp] theorem Runner.on_idle (t : String) : Runner.idle.on t = false := rfl

@[simp] theorem Runner.on_busy (t task : String) (k : Nat) (rest : List String) :
    (Runner.busy task k rest).on t = (task == t) := rfl

/-- The `complete` calls that settled a task's first records in order, with the outcomes `os`,
each taken by the store. -/
def Completion.logged (caller : Caller) (task : String) (os : List Outcome) : List Completion :=
  os.zipIdx.map fun (o, j) => ⟨caller, task, j, o, .ok ()⟩

namespace Completion

variable {c : Caller} {t : String} {os : List Outcome}

@[simp] theorem logged_nil : logged c t [] = [] := rfl

theorem logged_concat (o : Outcome) :
    logged c t (os ++ [o]) = logged c t os ++ [⟨c, t, os.length, o, .ok ()⟩] := by
  simp [logged, List.zipIdx_append]

theorem mem_logged {x : Completion} (hx : x ∈ logged c t os) :
    ∃ j, ∃ h : j < os.length, x = ⟨c, t, j, os[j], .ok ()⟩ := by
  obtain ⟨⟨o, j⟩, hmem, rfl⟩ := List.mem_map.mp hx
  obtain ⟨-, hj, ho⟩ := List.mem_zipIdx hmem
  exact ⟨j, by simpa using hj, by simp [ho]⟩

/-- A logged run of calls makes one call per record it reached. -/
theorem countP_logged (i : Nat) :
    (logged c t os).countP (fun x => x.task == t && x.index == i) = if i < os.length then 1 else 0 := by
  induction os using List.reverseRecOn with
  | nil => simp
  | append_singleton os o ih =>
    rw [logged_concat, List.countP_append, ih, List.countP_singleton]
    simp only [beq_self_eq_true, Bool.true_and, beq_iff_eq, List.length_append,
      List.length_singleton]
    split_ifs <;> omega

end Completion

/-- What a state holds of one task: its records, its handler in flight, the statuses it was
answered with, its job in the queue, the workers on it, its starts in the workers' log, and its
`complete` calls. -/
structure Slice where
  records : Option (List Record)
  handlers : List Handler
  answers : List Nat
  jobs : List Job
  runners : List Runner
  started : List String
  completions : List Completion

/-- The slice of task `t`, with the memory store `m` holding the records. -/
def Dispatch.slice (s : Dispatch) (m : MemoryStore) (t : String) : Slice where
  records := m.get t
  handlers := s.handlers.filter (·.task == t)
  answers := (s.answers.filter (·.1 == t)).map (·.2)
  jobs := s.queue.waiting.filter (·.taskId == t)
  runners := s.workers.filter (Runner.on t)
  started := s.started.filter (· == t)
  completions := s.completions.filter (·.task == t)

/-- The outcome a refused job's records are failed with. -/
def refusal : Outcome := .failed EnqueueError.full.text

open Record in
/-- The forms the slice of task `t` takes, one per stage of a submission. -/
inductive Slice.Ok (t : String) : Slice → Prop
  /-- No task is created under `t`; a refused create is answered with neither 200 nor 503. -/
  | unknown {answers : List Nat} (h : 200 ∉ answers ∧ 503 ∉ answers) :
      Ok t ⟨none, [], answers, [], [], [], []⟩
  /-- The task is created, and its handler offers the job next. -/
  | offering (ids : List String) :
      Ok t ⟨some (ids.map pending), [.offering t ids (ids.map pending)], [], [], [], [], []⟩
  /-- The queue refused the job, and the handler has failed the first `k` records. -/
  | failing (ids : List String) {k : Nat} (hk : k ≤ ids.length) :
      Ok t ⟨some (settleFirst ids (List.replicate k refusal)), [.failing t ids.length k .full],
        [], [], [], [], Completion.logged .handler t (List.replicate k refusal)⟩
  /-- Every record of the refused job is failed, and the answer was 503. -/
  | refused (ids : List String) :
      Ok t ⟨some (settleFirst ids (List.replicate ids.length refusal)), [], [503], [], [], [],
        Completion.logged .handler t (List.replicate ids.length refusal)⟩
  /-- The job waits in the queue, and the answer was 200. -/
  | queued (ids : List String) :
      Ok t ⟨some (ids.map pending), [], [200], [⟨t, ids⟩], [], [], []⟩
  /-- A worker runs the job, and has settled the first records with the outcomes `os`. -/
  | running (ids : List String) {os : List Outcome} (h : os.length ≤ ids.length) :
      Ok t ⟨some (settleFirst ids os), [], [200], [], [.busy t os.length (ids.drop os.length)],
        [t], Completion.logged .worker t os⟩
  /-- The worker is done with the job. -/
  | finished (ids : List String) {os : List Outcome} (h : os.length = ids.length) :
      Ok t ⟨some (settleFirst ids os), [], [200], [], [], [t], Completion.logged .worker t os⟩

namespace Slice.Ok

variable {t : String} {sl : Slice}

/-- A task with no handler and no answer is unknown. -/
theorem of_fresh (h : sl.Ok t) (hh : sl.handlers = []) (ha : sl.answers = []) :
    sl = ⟨none, [], [], [], [], [], []⟩ := by
  cases h <;> simp_all

theorem of_offering {t' : String} {ids : List String} {rs : List Record} (h : sl.Ok t)
    (hm : Handler.offering t' ids rs ∈ sl.handlers) :
    rs = ids.map Record.pending ∧
      sl = ⟨some (ids.map Record.pending), [.offering t ids (ids.map Record.pending)], [], [], [],
        [], []⟩ := by
  cases h <;> simp_all

theorem of_failing {t' : String} {n k : Nat} {e : EnqueueError} (h : sl.Ok t)
    (hm : Handler.failing t' n k e ∈ sl.handlers) :
    ∃ ids, n = ids.length ∧ e = .full ∧ k ≤ ids.length ∧
      sl = ⟨some (Record.settleFirst ids (List.replicate k refusal)), [.failing t n k .full],
        [], [], [], [], Completion.logged .handler t (List.replicate k refusal)⟩ := by
  cases h with
  | failing ids hk =>
    simp only [List.mem_singleton, Handler.failing.injEq] at hm
    obtain ⟨-, rfl, rfl, rfl⟩ := hm
    exact ⟨ids, rfl, rfl, hk, rfl⟩
  | _ => simp_all

theorem of_job {job : Job} (h : sl.Ok t) (hm : job ∈ sl.jobs) :
    job.taskId = t ∧
      sl = ⟨some (job.ids.map Record.pending), [], [200], [job], [], [], []⟩ := by
  cases h with
  | queued ids =>
    obtain rfl := List.mem_singleton.mp hm
    exact ⟨rfl, rfl⟩
  | _ => simp_all

theorem of_runner {t' : String} {k : Nat} {rest : List String} (h : sl.Ok t)
    (hm : Runner.busy t' k rest ∈ sl.runners) :
    ∃ ids os, os.length ≤ ids.length ∧ k = os.length ∧ rest = ids.drop os.length ∧
      sl = ⟨some (Record.settleFirst ids os), [], [200], [], [.busy t k rest], [t],
        Completion.logged .worker t os⟩ := by
  cases h with
  | running ids hos =>
    simp only [List.mem_singleton, Runner.busy.injEq] at hm
    obtain ⟨-, rfl, rfl⟩ := hm
    exact ⟨ids, _, hos, rfl, rfl, rfl⟩
  | _ => simp_all

end Slice.Ok

/-- The invariant of a daemon under load, with the memory store `m` holding its records: the
queue stays open, and every task's slice has one of the forms of `Slice.Ok`. -/
structure Dispatch.Tracks (s : Dispatch) (m : MemoryStore) : Prop where
  holds : s.store.Holds m
  opened : s.queue.closed = false
  slices : ∀ t, (s.slice m t).Ok t

namespace Dispatch

variable {s : Dispatch} {m : MemoryStore}

/-- A step that changes the slice of `t` alone keeps the invariant when that slice keeps a form
of `Slice.Ok`. -/
theorem Tracks.of_slice {s' : Dispatch} {m' : MemoryStore} {t : String} (h : s.Tracks m)
    (hs : s'.store.Holds m') (ho : s'.queue.closed = false) (ht : (s'.slice m' t).Ok t)
    (hu : ∀ u ≠ t, s'.slice m' u = s.slice m u) : s'.Tracks m' where
  holds := hs
  opened := ho
  slices u := by
    by_cases hut : u = t
    · exact hut ▸ ht
    · exact hu u hut ▸ h.slices u

theorem Tracks.initial (b : Backend) (workers capacity : Nat) :
    (Dispatch.initial b workers capacity).Tracks .empty where
  holds := TaskStore.holds_empty b
  opened := rfl
  slices t := by
    have hw : (List.replicate (max workers 1) Runner.idle).filter (Runner.on t) = [] := by
      simp [Runner.on]
    simp only [slice, Dispatch.initial, hw]
    exact .unknown (by simp)

theorem storeAnswer_status (e : StoreError) : (storeAnswer e).status ≠ 200 ∧ (storeAnswer e).status ≠ 503 := by
  cases e <;> simp [storeAnswer, errorAnswer, Http.Response.json]


open Record Completion in
/-- A submission under a fresh id starts its task, or is answered at once. -/
theorem Tracks.arrive {t : String} {ids : List String} (h : s.Tracks m) (hfresh : t ∉ s.taskIds)
    (hl : ids.length < 2 ^ 63) : ∃ m', (s.arrive t ids).Tracks m' := by
  have hh : s.handlers.filter (·.task == t) = [] :=
    List.filter_eq_nil_iff.mpr fun x hx hxt => hfresh (List.mem_append_left _
      (List.mem_map.mpr ⟨x, hx, beq_iff_eq.mp hxt⟩))
  have ha : s.answers.filter (·.1 == t) = [] :=
    List.filter_eq_nil_iff.mpr fun x hx hxt => hfresh (List.mem_append_right _
      (List.mem_map.mpr ⟨x, hx, beq_iff_eq.mp hxt⟩))
  have hsl := (h.slices t).of_fresh hh (by simp [slice, ha])
  simp only [slice, Slice.mk.injEq] at hsl
  obtain ⟨hn, -, -, hj, hw, hst, hc⟩ := hsl
  cases hcr : s.store.create t ids with
  | error e =>
    have hs' : s.arrive t ids = { s with answers := s.answers ++ [(t, (storeAnswer e).status)] } := by
      simp [Dispatch.arrive, hcr]
    rw [hs']
    refine ⟨m, h.of_slice h.holds h.opened (t := t) ?_ fun u hu => ?_⟩
    · have hsl' : ({ s with answers := s.answers ++ [(t, (storeAnswer e).status)] } : Dispatch).slice m t =
          ⟨none, [], [(storeAnswer e).status], [], [], [], []⟩ := by
        simp [slice, List.filter_append, hn, hh, ha, hj, hw, hst, hc]
      rw [hsl']
      have := storeAnswer_status e
      exact .unknown (by simp only [List.mem_singleton]; omega)
    · simp [slice, List.filter_append, Ne.symm hu]
  | ok p =>
    obtain ⟨st', rs⟩ := p
    obtain ⟨rfl, hs'⟩ := h.holds.create hn hl hcr
    have hs : s.arrive t ids =
        { s with store := st', handlers := s.handlers ++ [.offering t ids (ids.map pending)] } := by
      simp [Dispatch.arrive, hcr]
    rw [hs]
    refine ⟨_, h.of_slice hs' h.opened (t := t) ?_ fun u hu => ?_⟩
    · have hsl' : ({ s with store := st', handlers := s.handlers ++ [.offering t ids (ids.map pending)] } :
          Dispatch).slice ⟨m.tasks ++ [(t, ids.map pending)]⟩ t =
          ⟨some (ids.map pending), [.offering t ids (ids.map pending)], [], [], [], [], []⟩ := by
        simp [slice, List.filter_append, MemoryStore.get_append m hn, hh, ha, hj, hw, hst, hc]
      rw [hsl']
      exact .offering ids
    · simp [slice, List.filter_append, MemoryStore.get_append m hn, hu, Ne.symm hu]

open Record Completion in
/-- A handler offering its job: queued, it answers 200; refused, it starts failing the task's
records. -/
theorem Tracks.handle_offering {t : String} {ids : List String} {rs : List Record}
    (h : s.Tracks m) (hmem : Handler.offering t ids rs ∈ s.handlers) :
    ∃ m', (s.handle (.offering t ids rs)).Tracks m' := by
  have hin : Handler.offering t ids rs ∈ (s.slice m t).handlers :=
    List.mem_filter.mpr ⟨hmem, by simp⟩
  obtain ⟨rfl, hsl⟩ := (h.slices t).of_offering hin
  simp only [slice, Slice.mk.injEq] at hsl
  obtain ⟨hg, hh, ha, hj, hw, hst, hc⟩ := hsl
  cases hq : s.queue.submit ⟨t, ids⟩ with
  | ok q =>
    have hq' := JobQueue.submit_eq_ok hq
    have hs : s.handle (.offering t ids (ids.map pending)) = ({ s with queue := q } : Dispatch).answer t 200 := by
      simp [handle, hq]
    rw [hs]
    refine ⟨m, h.of_slice h.holds (by simp [answer, hq', h.opened]) (t := t) ?_ fun u hu => ?_⟩
    · have hsl' : (({ s with queue := q } : Dispatch).answer t 200).slice m t =
          ⟨some (ids.map pending), [], [200], [⟨t, ids⟩], [], [], []⟩ := by
        simp [slice, answer, hq', List.filter_append, hg, ha, hj, hw, hst, hc]
      rw [hsl']
      exact .queued ids
    · simp [slice, answer, hq', List.filter_append, filter_filter_ne Handler.task hu, Ne.symm hu]
  | error e =>
    obtain rfl := JobQueue.submit_eq_error hq h.opened
    have hs : s.handle (.offering t ids (ids.map pending)) =
        s.continueAs t (.failing t ids.length 0 .full) := by
      simp [handle, hq]
    rw [hs]
    refine ⟨m, h.of_slice h.holds h.opened (t := t) ?_ fun u hu => ?_⟩
    · have hsl' : (s.continueAs t (.failing t ids.length 0 .full)).slice m t =
          ⟨some (settleFirst ids (List.replicate 0 refusal)), [.failing t ids.length 0 .full], [],
            [], [], [], logged .handler t (List.replicate 0 refusal)⟩ := by
        simp [slice, continueAs, List.filter_append, hg, ha, hj,
          hw, hst, hc]
      rw [hsl']
      exact .failing ids (Nat.zero_le _)
    · simp [slice, continueAs, List.filter_append, filter_filter_ne Handler.task hu,
        Ne.symm hu]

open Record Completion in
/-- A handler failing a refused job's records: the next one goes through, and once all are
failed the handler answers 503. -/
theorem Tracks.handle_failing {t : String} {n k : Nat} {e : EnqueueError} (h : s.Tracks m)
    (hmem : Handler.failing t n k e ∈ s.handlers) :
    ∃ m', (s.handle (.failing t n k e)).Tracks m' := by
  have hin : Handler.failing t n k e ∈ (s.slice m t).handlers :=
    List.mem_filter.mpr ⟨hmem, by simp⟩
  obtain ⟨ids, rfl, rfl, hk, hsl⟩ := (h.slices t).of_failing hin
  simp only [slice, Slice.mk.injEq] at hsl
  obtain ⟨hg, hh, ha, hj, hw, hst, hc⟩ := hsl
  by_cases hlt : k < ids.length
  · -- the next record is still pending, so failing it goes through
    have hlt' : (List.replicate k refusal).length < ids.length := by simpa using hlt
    have hr := getElem?_settleFirst_length hlt'
    simp only [List.length_replicate] at hr
    obtain ⟨st', hst', hholds⟩ := h.holds.complete hg hr rfl refusal
    have hs : s.handle (.failing t ids.length k .full) =
        ({ s with store := st', completions := s.completions ++ [⟨.handler, t, k, refusal, .ok ()⟩] } :
          Dispatch).continueAs t (.failing t ids.length (k + 1) .full) := by
      simp only [refusal] at hst' ⊢
      simp [handle, hlt, Dispatch.complete, hst']
    rw [hs]
    refine ⟨_, h.of_slice hholds h.opened (t := t) ?_ fun u hu => ?_⟩
    · have hrec := settleFirst_concat hlt' refusal
      have hlog : logged .handler t (List.replicate k refusal ++ [refusal]) =
          logged .handler t (List.replicate k refusal) ++
            [⟨.handler, t, (List.replicate k refusal).length, refusal, .ok ()⟩] :=
        logged_concat refusal
      rw [← List.replicate_succ'] at hrec hlog
      simp only [List.length_replicate] at hrec hlog
      have hsl' : (({ s with store := st', completions := s.completions ++ [⟨.handler, t, k, refusal, .ok ()⟩] } :
          Dispatch).continueAs t (.failing t ids.length (k + 1) .full)).slice
            (m.replace t ((settleFirst ids (List.replicate k refusal)).set k ((pending ids[k]).apply refusal))) t =
          ⟨some (settleFirst ids (List.replicate (k + 1) refusal)), [.failing t ids.length (k + 1) .full],
            [], [], [], [], logged .handler t (List.replicate (k + 1) refusal)⟩ := by
        simp [slice, continueAs, List.filter_append, hg, ha, hj, hw, hst, hc, hrec, hlog]
      rw [hsl']
      exact .failing ids hlt
    · simp [slice, continueAs, List.filter_append, filter_filter_ne Handler.task hu, hu, Ne.symm hu]
  · obtain rfl : k = ids.length := by omega
    have hs : s.handle (.failing t ids.length ids.length .full) = s.answer t 503 := by
      simp [handle]
    rw [hs]
    refine ⟨m, h.of_slice h.holds h.opened (t := t) ?_ fun u hu => ?_⟩
    · have hsl' : (s.answer t 503).slice m t =
          ⟨some (settleFirst ids (List.replicate ids.length refusal)), [], [503], [], [], [],
            logged .handler t (List.replicate ids.length refusal)⟩ := by
        simp [slice, answer, List.filter_append, hg, ha, hj, hw, hst, hc]
      rw [hsl']
      exact .refused ids
    · simp [slice, answer, List.filter_append, filter_filter_ne Handler.task hu, Ne.symm hu]

theorem Tracks.handle {hd : Handler} (h : s.Tracks m) (hmem : hd ∈ s.handlers) :
    ∃ m', (s.handle hd).Tracks m' := by
  cases hd with
  | offering t ids rs => exact h.handle_offering hmem
  | failing t n k e => exact h.handle_failing hmem

open Record Completion in
/-- An idle worker takes the job at the front of the queue, if there is one. -/
theorem Tracks.take {i : Nat} (h : s.Tracks m) (hw : s.workers[i]? = some .idle)
    (r : Except Halt Verdict) : ∃ m', (s.work i r).Tracks m' := by
  cases hq : s.queue.take? with
  | none => exact ⟨m, by simpa [Dispatch.work, hw, hq] using h⟩
  | some p =>
    obtain ⟨job, q⟩ := p
    obtain ⟨hwait, hq'⟩ := JobQueue.take?_eq_some hq
    have hin : job ∈ (s.slice m job.taskId).jobs :=
      List.mem_filter.mpr ⟨hwait ▸ List.mem_cons_self, by simp⟩
    obtain ⟨-, hsl⟩ := (h.slices job.taskId).of_job hin
    simp only [slice, Slice.mk.injEq] at hsl
    obtain ⟨hg, hh, ha, hj, hr, hst, hc⟩ := hsl
    have hs : s.work i r =
        { s with
          queue := q
          workers := s.workers.set i (.busy job.taskId 0 job.ids)
          started := s.started ++ [job.taskId] } := by
      simp [Dispatch.work, hw, hq]
    rw [hs]
    refine ⟨m, h.of_slice h.holds (by rw [hq']; exact h.opened) (t := job.taskId) ?_
      fun u hu => ?_⟩
    · -- the job was the task's one job in the queue, and no worker was on the task
      have hrest : q.waiting.filter (·.taskId == job.taskId) = [] := by
        rw [hwait, List.filter_cons, if_pos (by simp)] at hj
        exact (List.cons.inj hj).2
      have hrun : (s.workers.set i (.busy job.taskId 0 job.ids)).filter (Runner.on job.taskId) =
          [.busy job.taskId 0 job.ids] := by
        rw [filter_set_of_only hw (by simp [hr])]
        simp
      have hsl' : ({ s with
          queue := q
          workers := s.workers.set i (.busy job.taskId 0 job.ids)
          started := s.started ++ [job.taskId] } : Dispatch).slice m job.taskId =
          ⟨some (settleFirst job.ids []), [], [200], [],
            [.busy job.taskId ([] : List Outcome).length (job.ids.drop 0)], [job.taskId],
            logged .worker job.taskId []⟩ := by
        simp [slice, List.filter_append, hg, hh, ha, hrest, hrun, hst, hc]
      rw [hsl']
      exact .running job.ids (Nat.zero_le _)
    · have hrun := filter_set_of_not (p := Runner.on u) (x := .busy job.taskId 0 job.ids) hw rfl
        (by simp [Ne.symm hu])
      simp [slice, hwait, hrun, List.filter_append, Ne.symm hu]

open Record Completion in
/-- A worker with no advisory left goes idle, done with its job. -/
theorem Tracks.finish {i k : Nat} {t : String} (h : s.Tracks m)
    (hw : s.workers[i]? = some (.busy t k [])) (r : Except Halt Verdict) :
    ∃ m', (s.work i r).Tracks m' := by
  have hin : Runner.busy t k [] ∈ (s.slice m t).runners :=
    List.mem_filter.mpr ⟨List.mem_of_getElem? hw, by simp⟩
  obtain ⟨ids, os, hos, rfl, hdrop, hsl⟩ := (h.slices t).of_runner hin
  simp only [slice, Slice.mk.injEq] at hsl
  obtain ⟨hg, hh, ha, hj, hr, hst, hc⟩ := hsl
  have hlen : os.length = ids.length := by
    have := congrArg List.length hdrop
    simp only [List.length_nil, List.length_drop] at this
    omega
  have hs : s.work i r = { s with workers := s.workers.set i .idle } := by
    simp [Dispatch.work, hw]
  rw [hs]
  refine ⟨m, h.of_slice h.holds h.opened (t := t) ?_ fun u hu => ?_⟩
  · have hrun : (s.workers.set i .idle).filter (Runner.on t) = [] := by
      rw [filter_set_of_only hw (by simp [hr])]
      simp
    have hsl' : ({ s with workers := s.workers.set i .idle } : Dispatch).slice m t =
        ⟨some (settleFirst ids os), [], [200], [], [], [t], logged .worker t os⟩ := by
      simp [slice, hg, hh, ha, hj, hrun, hst, hc]
    rw [hsl']
    exact .finished ids hlen
  · have hrun := filter_set_of_not (p := Runner.on u) (x := .idle) hw (by simp [Ne.symm hu]) rfl
    simp [slice, hrun]

open Record Completion in
/-- A worker records the outcome of its next advisory, which goes through. -/
theorem Tracks.advance {i k : Nat} {t a : String} {rest : List String} (h : s.Tracks m)
    (hw : s.workers[i]? = some (.busy t k (a :: rest))) (r : Except Halt Verdict) :
    ∃ m', (s.work i r).Tracks m' := by
  have hin : Runner.busy t k (a :: rest) ∈ (s.slice m t).runners :=
    List.mem_filter.mpr ⟨List.mem_of_getElem? hw, by simp⟩
  obtain ⟨ids, os, hos, rfl, hdrop, hsl⟩ := (h.slices t).of_runner hin
  simp only [slice, Slice.mk.injEq] at hsl
  obtain ⟨hg, hh, ha, hj, hr, hst, hc⟩ := hsl
  have hlt : os.length < ids.length := by
    have := congrArg List.length hdrop
    simp only [List.length_cons, List.length_drop] at this
    omega
  have hrest : rest = ids.drop (os.length + 1) := by
    rw [List.drop_eq_getElem_cons hlt] at hdrop
    exact (List.cons.inj hdrop).2
  subst hrest
  obtain ⟨st', hst', hholds⟩ :=
    h.holds.complete hg (getElem?_settleFirst_length hlt) rfl (Outcome.ofAnalysis r)
  have hs : s.work i r =
      { s with
        store := st'
        completions := s.completions ++ [⟨.worker, t, os.length, Outcome.ofAnalysis r, .ok ()⟩]
        workers := s.workers.set i (.busy t (os.length + 1) (ids.drop (os.length + 1))) } := by
    simp [Dispatch.work, hw, Dispatch.complete, hst']
  rw [hs]
  refine ⟨_, h.of_slice hholds h.opened (t := t) ?_ fun u hu => ?_⟩
  · have hrun : (s.workers.set i (.busy t (os.length + 1) (ids.drop (os.length + 1)))).filter (Runner.on t) =
        [.busy t (os.length + 1) (ids.drop (os.length + 1))] := by
      rw [filter_set_of_only hw (by simp [hr])]
      simp
    have hrec := settleFirst_concat hlt (Outcome.ofAnalysis r)
    have hlog : logged .worker t (os ++ [Outcome.ofAnalysis r]) =
        logged .worker t os ++ [⟨.worker, t, os.length, Outcome.ofAnalysis r, .ok ()⟩] :=
      logged_concat (Outcome.ofAnalysis r)
    have hsl' : ({ s with
        store := st'
        completions := s.completions ++ [⟨.worker, t, os.length, Outcome.ofAnalysis r, .ok ()⟩]
        workers := s.workers.set i (.busy t (os.length + 1) (ids.drop (os.length + 1))) } : Dispatch).slice
          (m.replace t ((settleFirst ids os).set os.length ((pending ids[os.length]).apply
            (Outcome.ofAnalysis r)))) t =
        ⟨some (settleFirst ids (os ++ [Outcome.ofAnalysis r])), [], [200], [],
          [.busy t (os ++ [Outcome.ofAnalysis r]).length (ids.drop (os ++ [Outcome.ofAnalysis r]).length)],
          [t], logged .worker t (os ++ [Outcome.ofAnalysis r])⟩ := by
      simp [slice, List.filter_append, hg, hh, ha, hj, hrun, hst, hc, hrec, hlog]
    rw [hsl']
    exact .running ids (by simpa using hlt)
  · have hrun := filter_set_of_not (p := Runner.on u) (x := .busy t (os.length + 1) (ids.drop (os.length + 1))) hw
      (by simp [Ne.symm hu]) (by simp [Ne.symm hu])
    simp [slice, hrun, List.filter_append, hu, Ne.symm hu]

/-- A worker's next step keeps the invariant, whatever its analysis gives. -/
theorem Tracks.work {i : Nat} (h : s.Tracks m) (r : Except Halt Verdict) :
    ∃ m', (s.work i r).Tracks m' := by
  cases hw : s.workers[i]? with
  | none => exact ⟨m, by simpa [Dispatch.work, hw] using h⟩
  | some w =>
    cases w with
    | idle => exact h.take hw r
    | busy t k rest =>
      cases rest with
      | nil => exact h.finish hw r
      | cons a rest => exact h.advance hw r

theorem Tracks.step {s' : Dispatch} (h : s.Tracks m) (hs : Step s s') : ∃ m', s'.Tracks m' := by
  cases hs with
  | arrive t ids fresh fits => exact h.arrive fresh fits
  | handle hd mem => exact h.handle mem
  | work i r _ => exact h.work r

/-- Every state a run reaches keeps the invariant. -/
theorem Run.tracks {b : Backend} {workers capacity : Nat} (hs : s.Run b workers capacity) :
    ∃ m, s.Tracks m := by
  induction hs with
  | initial => exact ⟨_, Tracks.initial b workers capacity⟩
  | step _ hstep ih =>
    obtain ⟨m, hm⟩ := ih
    exact hm.step hstep

end Dispatch

end Daemon

end AdvisoryTrace
