import Mathlib
import AdvisoryTrace.Proofs.DispatchSlices
import AdvisoryTrace.Proofs.StoreLinearizability

/-!
# The daemon's store calls as calls of a session

`Dispatch` takes a store call as one step. On the database a call is a few statements, and the
statements of calls made at once interleave (`Session`); the session answers as the memory store
does, one call after another, as long as no two calls in flight clash (`Call.Clashes`). This
module shows that the daemon keeps that promise, and that its runs on the database are runs of a
session.

* `Dispatch.Makes`: the calls the daemon may have in flight in a state: a create under a task id
  not handed out, the next `complete` of a handler failing a refused job or of a busy worker, and
  a read of a task whose submission was answered, as a client polls the task its answer names;
* `Dispatch.Step.calls`: a step makes at most one store call, and it is one of these;
* `Dispatch.Run.makes_never_clash`: in every state a run reaches, no two of them clash;
* `Phase.Finishes` and `Session.serve`: a call served alone runs its statements to the reply
  that `Database.perform` gives, its record rows going in when the database mirrors the memory
  store;
* `Dispatch.Run.refines_sessions`: every run of the daemon on the database is a run of a session
  that serves each store call alone (`Dispatch.Serves`); from that session, the calls the daemon
  may have in flight, made together and run statement by statement in any order, are again a run
  of the session, so `Session.Run.tracks` applies to them.
-/

namespace AdvisoryTrace

open Database

/-- An update that takes no row leaves the database as it was. -/
theorem Database.update_of_isEmpty {db : Database} {t : String} {p : Int} {o : Outcome}
    (h : (db.update t p o).2.isEmpty = true) : db.update t p o = (db, []) := by
  apply update_of_closed o
  intro q hq
  simp only [update, List.isEmpty_iff, List.map_eq_nil_iff, List.filter_eq_nil_iff] at h
  simpa using h q hq

/-- `classify` is only reached to say why: it always refuses. -/
theorem Database.classify_eq_error (db : Database) (t : String) (i : Nat) :
    ∃ e, db.classify t i = .error e := by
  unfold classify
  cases db.rowAt t (signed i) with
  | some r => exact ⟨_, rfl⟩
  | none =>
    cases db.hasTask t with
    | error e => exact ⟨e, rfl⟩
    | ok known => cases known <;> exact ⟨_, rfl⟩

/-- After a create of a task that the database did not know, the rows of its records go in. -/
theorem Mirrors.insertRows_of_createTask {db : Database} {m : MemoryStore}
    (h : Mirrors db m fun _ => False) {t : String} {ids : List String} (hl : ids.length < 2 ^ 63)
    {db₁ : Database} (hc : db.createTask t = .ok db₁) :
    ∃ db₂, db₁.insertRows (pendingRows t ids) = .ok db₂ := by
  have ht : t ≠ "" := by
    rintro rfl
    have hempty : db.createTask "" = .error (invalidRecordId "") := rfl
    rw [hempty] at hc
    cases hc
  cases hg : m.get t with
  | some rs =>
    rw [h.createTask_of_known ht (by simp [hg])] at hc
    cases hc
  | none =>
    rw [h.createTask_of_new ht hg] at hc
    cases hc
    obtain ⟨hins, -⟩ := (h.addTask hg hl).insert (Or.inr rfl)
      (by rw [MemoryStore.get_append m hg, if_pos rfl])
    exact ⟨_, hins⟩

namespace Phase

/-- A call's statements, from phase `p` on a database `db`, run alone to reply `a`, leaving
`db'`. -/
inductive Finishes : Database → Phase → Database → Reply → Prop
  | reply {db db' : Database} {p : Phase} {a : Reply} (h : p.step db = (db', .reply a)) :
      Finishes db p db' a
  | next {db db₁ db' : Database} {p p' : Phase} {a : Reply} (h : p.step db = (db₁, .next p')) :
      Finishes db₁ p' db' a → Finishes db p db' a

variable {db : Database}

theorem finishes_create {t : String} {ids : List String}
    (hins : ∀ db₁, db.createTask t = .ok db₁ → (pendingRows t ids).isEmpty = false →
      ∃ db₂, db₁.insertRows (pendingRows t ids) = .ok db₂) :
    Finishes db (.start (.create t ids)) (db.perform (.create t ids)).1
      (db.perform (.create t ids)).2 := by
  cases hct : db.createTask t with
  | error e =>
    have hc : db.create t ids = .error e := by
      simp only [Database.create, hct]
      rfl
    simp only [Database.perform, hc]
    exact .reply (by simp only [step, hct])
  | ok db₁ =>
    cases he : (pendingRows t ids).isEmpty with
    | true =>
      have hc : db.create t ids = .ok (db₁, []) := by
        simp [Database.create, hct, List.isEmpty_iff.mp he]
      simp only [Database.perform, hc]
      exact .reply (by simp only [step, hct, he, if_true])
    | false =>
      obtain ⟨db₂, hins⟩ := hins db₁ hct he
      have hc : db.create t ids = .ok (db₂, (pendingRows t ids).map Row.record) := by
        simp only [Database.create, hct, he, Bool.false_eq_true, if_false, bind, Except.bind, hins]
        rfl
      simp only [Database.perform, hc]
      exact .next (by simp only [step, hct, he]; rfl) (.reply (by simp only [step, hins]))

theorem finishes_get {t : String} :
    Finishes db (.start (.get t)) (db.perform (.get t)).1 (db.perform (.get t)).2 := by
  cases hh : db.hasTask t with
  | error e =>
    have hg : db.get t = .error e := by
      simp only [Database.get, hh]
      rfl
    simp only [Database.perform, hg]
    exact .reply (by simp only [step, hh]; rfl)
  | ok known =>
    cases known with
    | false =>
      have hg : db.get t = .ok none := by
        simp only [Database.get, hh]
        rfl
      simp only [Database.perform, hg]
      exact .reply (by simp only [step, hh]; rfl)
    | true =>
      have hg : db.get t = .ok (some ((db.rowsOf t).map Row.record)) := by
        simp only [Database.get, hh]
        rfl
      have hstart : (Phase.start (.get t)).step db = (db, .next (.read t)) := by
        simp only [step, hh]
      simp only [Database.perform, hg]
      exact .next hstart (.reply rfl)

/-- A complete that updated no row reads why, as `Database.classify` does: the row at its
position, then the task row. -/
theorem finishes_lookup {t : String} {i : Nat} {e : StoreError} (h : db.classify t i = .error e) :
    Finishes db (.lookup t i) db (.error e) := by
  unfold classify at h
  cases hr : db.rowAt t (signed i) with
  | some r =>
    rw [hr] at h
    cases h
    exact .reply (by simp [step, hr])
  | none =>
    rw [hr] at h
    have hlookup : (Phase.lookup t i).step db = (db, .next (.probe t i)) := by
      simp [step, hr]
    refine .next hlookup (.reply ?_)
    cases hh : db.hasTask t with
    | error e' =>
      rw [hh] at h
      cases h
      simp [step, hh]
    | ok known =>
      cases known <;> (rw [hh] at h; cases h; simp [step, hh])

theorem finishes_complete {t : String} {i : Nat} {o : Outcome} :
    Finishes db (.start (.complete t i o)) (db.perform (.complete t i o)).1
      (db.perform (.complete t i o)).2 := by
  cases hu : db.update t (signed i) o with
  | mk db' updated =>
  cases he : updated.isEmpty with
  | false =>
    have hc : db.complete t i o = .ok db' := by
      simp [Database.complete, hu, he]
    simp only [Database.perform, hc]
    exact .reply (by simp [step, hu, he])
  | true =>
    obtain ⟨hdb, rfl⟩ := Prod.mk.inj (hu.symm.trans (update_of_isEmpty (by rw [hu]; exact he)))
    subst db'
    obtain ⟨e, hcl⟩ := db.classify_eq_error t i
    have hc : db.complete t i o = .error e := by
      simp [Database.complete, hu, hcl]
    simp only [Database.perform, hc]
    exact .next (by simp [step, hu]) (finishes_lookup hcl)

end Phase

namespace Session

/-- A call alone in flight runs its statements to its reply, each a step of the session. -/
theorem reaches_of_finishes {db db' : Database} {p : Phase} {a : Reply}
    (hf : Phase.Finishes db p db' a) (k : Nat) (c : Call) (h : List Event) (n : Nat) :
    Relation.ReflTransGen Step ⟨db, [⟨k, c, p⟩], h, n⟩ ⟨db', [], h ++ [.respond k a], n⟩ := by
  induction hf with
  | @reply db db' p a hp =>
    have hstep := Step.advance ⟨db, [⟨k, c, p⟩], h, n⟩ ⟨k, c, p⟩ List.mem_cons_self
    rw [advance_of_reply (s := ⟨db, [⟨k, c, p⟩], h, n⟩) (r := ⟨k, c, p⟩) hp] at hstep
    exact .single (by simpa using hstep)
  | @next db db₁ db' p p' a hp _ ih =>
    have hstep := Step.advance ⟨db, [⟨k, c, p⟩], h, n⟩ ⟨k, c, p⟩ List.mem_cons_self
    rw [advance_of_next (s := ⟨db, [⟨k, c, p⟩], h, n⟩) (r := ⟨k, c, p⟩) hp] at hstep
    exact .head (by simpa using hstep) ih

/-- A call made with no other in flight, its statements run to its reply. -/
theorem serve {s : Session} (hr : s.running = []) {c : Call} {db' : Database} {a : Reply}
    (hf : Phase.Finishes s.db (.start c) db' a) :
    Relation.ReflTransGen Step s
      ⟨db', [], s.history ++ [.invoke s.next c, .respond s.next a], s.next + 1⟩ := by
  have hinv : Step s (s.invoke c) := .invoke s c (by simp [hr])
  have hrun := reaches_of_finishes hf s.next c (s.history ++ [.invoke s.next c]) (s.next + 1)
  refine .head hinv ?_
  simpa [invoke, hr] using hrun

theorem Run.of_reaches {s s' : Session} (hs : s.Run) (h : Relation.ReflTransGen Step s s') :
    s'.Run := by
  induction h with
  | refl => exact hs
  | tail _ hstep ih => exact .step ih hstep

/-- A call in flight after a statement ran was in flight before it. -/
theorem call_of_mem_advance {s : Session} {r q : Running} (hq : q ∈ (s.advance r).running) :
    ∃ q₀ ∈ s.running, q.call = q₀.call := by
  unfold advance at hq
  split at hq
  · obtain ⟨q₀, hq₀, rfl⟩ := List.mem_map.mp hq
    exact ⟨q₀, hq₀, by split <;> rfl⟩
  · exact ⟨q, (List.mem_filter.mp hq).1, rfl⟩

end Session

namespace Daemon

namespace Dispatch

/-- The store calls the daemon may have in flight in a state. -/
inductive Makes (s : Dispatch) : Call → Prop
  /-- A submission under a task id not handed out, with fewer ids than a vector holds, creates
  its task. -/
  | arrive {task : String} (ids : List String) (fresh : task ∉ s.taskIds)
      (fits : ids.length < Nat.pow 2 63) : Makes s (.create task ids)
  /-- A handler failing a refused job fails its next record. -/
  | fail {task : String} {count next : Nat} {e : EnqueueError}
      (mem : Handler.failing task count next e ∈ s.handlers) (lt : next < count) :
      Makes s (.complete task next (.failed e.text))
  /-- A busy worker with an advisory left records its outcome. -/
  | record {i : Nat} {task : String} {index : Nat} {id : String} {rest : List String}
      (busy : s.workers[i]? = some (.busy task index (id :: rest))) (o : Outcome) :
      Makes s (.complete task index o)
  /-- A client reads the task its answer named. -/
  | poll {task : String} {status : Nat} (answered : (task, status) ∈ s.answers) :
      Makes s (.get task)

variable {s : Dispatch}

theorem Makes.fits_of_create {t : String} {ids : List String} (h : s.Makes (.create t ids)) :
    ids.length < Nat.pow 2 63 := by
  cases h with
  | arrive _ _ fits => exact fits

/-- A create is of a task not handed out yet. -/
theorem Makes.task_not_mem {c : Call} (h : s.Makes c) (hk : c.isCreate = true) :
    c.task ∉ s.taskIds := by
  cases h with
  | arrive _ fresh _ => exact fresh
  | _ => cases hk

/-- Every other call is on a task already handed out: a busy worker's task was answered 200. -/
theorem Makes.task_mem {m : MemoryStore} (ht : s.Tracks m) {c : Call} (h : s.Makes c)
    (hk : c.isCreate = false) : c.task ∈ s.taskIds := by
  cases h with
  | arrive => cases hk
  | fail mem _ => exact List.mem_append_left _ (List.mem_map_of_mem (f := Handler.task) mem)
  | @record i task index id rest busy o =>
    have hmem : Runner.busy task index (id :: rest) ∈ (s.slice m task).runners :=
      List.mem_filter.mpr ⟨List.mem_of_getElem? busy, by simp⟩
    obtain ⟨ids, os, -, -, -, hsl⟩ := (ht.slices task).of_runner hmem
    have h200 : 200 ∈ (s.slice m task).answers := by
      rw [hsl]
      simp
    obtain ⟨a, ha, -⟩ := List.mem_map.mp h200
    obtain ⟨ha, hat⟩ := List.mem_filter.mp ha
    exact List.mem_append_right _ (List.mem_map.mpr ⟨a, ha, by simpa [Call.task] using hat⟩)
  | poll answered => exact List.mem_append_right _ (List.mem_map_of_mem (f := (·.1)) answered)

/-- In every state a run reaches, no two calls the daemon may have in flight clash: a create is
of a task not handed out, and every other call is on a task handed out. -/
theorem Run.makes_never_clash {b : Backend} {workers capacity : Nat}
    (hs : s.Run b workers capacity) {c d : Call} (hc : s.Makes c) (hd : s.Makes d) :
    ¬ c.Clashes d := by
  obtain ⟨m, ht⟩ := hs.tracks
  rintro ⟨htask, hkind⟩
  cases hkc : c.isCreate with
  | true =>
    have hkd : d.isCreate = false := by simpa [hkc] using hkind.symm
    exact hc.task_not_mem hkc (htask ▸ hd.task_mem ht hkd)
  | false =>
    have hkd : d.isCreate = true := by simpa [hkc] using hkind.symm
    exact hd.task_not_mem hkd (htask.symm ▸ hc.task_mem ht hkc)

/-- What a step does to a database store `db`: nothing, or one call the state makes: a create,
or a `complete` that it logs with the database's answer. -/
inductive Calls (s : Dispatch) (db : Database) (s' : Dispatch) : Prop
  | none (store : s'.store = s.store) (log : s'.completions = s.completions)
  | create {t : String} {ids : List String} (makes : s.Makes (.create t ids))
      (store : s'.store = .database (db.perform (.create t ids)).1)
      (log : s'.completions = s.completions)
  | complete (cm : Completion) (makes : s.Makes (.complete cm.task cm.index cm.outcome))
      (store : s'.store = .database (db.perform (.complete cm.task cm.index cm.outcome)).1)
      (log : s'.completions = s.completions ++ [cm])
      (answer : cm.answer.map (fun _ => Answer.completed) =
        (db.perform (.complete cm.task cm.index cm.outcome)).2)

variable {db : Database}

theorem arrive_database (hdb : s.store = .database db) (task : String) (ids : List String) :
    (s.arrive task ids).store = .database (db.perform (.create task ids)).1 ∧
      (s.arrive task ids).completions = s.completions := by
  unfold arrive
  rw [hdb]
  cases hc : db.create task ids with
  | error e => simp [TaskStore.create, hc, Except.map, Database.perform]
  | ok p => simp [TaskStore.create, hc, Except.map, Database.perform]

theorem complete_database (hdb : s.store = .database db) (caller : Caller) (task : String)
    (index : Nat) (o : Outcome) :
    ∃ a, (s.complete caller task index o).store =
        .database (db.perform (.complete task index o)).1 ∧
      (s.complete caller task index o).completions = s.completions ++ [⟨caller, task, index, o, a⟩] ∧
      a.map (fun _ => Answer.completed) = (db.perform (.complete task index o)).2 := by
  unfold Dispatch.complete
  rw [hdb]
  cases hc : db.complete task index o with
  | error e => exact ⟨.error e, by simp [TaskStore.complete, hc, Except.map, Database.perform]⟩
  | ok db' => exact ⟨.ok (), by simp [TaskStore.complete, hc, Except.map, Database.perform]⟩

/-- Every step on a database store makes at most one store call, and that call is one the state
makes. -/
theorem Step.calls {s' : Dispatch} (hs : Step s s') (hdb : s.store = .database db) :
    Calls s db s' := by
  cases hs with
  | arrive task ids fresh fits =>
    obtain ⟨hstore, hlog⟩ := arrive_database hdb task ids
    exact .create (.arrive ids fresh fits) hstore hlog
  | handle h mem =>
    cases h with
    | offering task ids records =>
      simp only [Dispatch.handle]
      split <;> exact .none rfl rfl
    | failing task count next e =>
      simp only [Dispatch.handle]
      split
      · next hlt =>
        obtain ⟨a, hstore, hlog, hans⟩ :=
          complete_database hdb .handler task next (.failed e.text)
        exact .complete ⟨.handler, task, next, .failed e.text, a⟩ (.fail mem hlt) hstore hlog hans
      · exact .none rfl rfl
  | work i r _ =>
    simp only [Dispatch.work]
    split
    · exact .none rfl rfl
    · split <;> exact .none rfl rfl
    · exact .none rfl rfl
    · next task index id rest hw =>
      obtain ⟨a, hstore, hlog, hans⟩ :=
        complete_database hdb .worker task index (Outcome.ofAnalysis r)
      exact .complete ⟨.worker, task, index, _, a⟩ (.record hw _) hstore hlog hans

/-- A session that serves a state of the daemon on the database: a run of the session with no
call in flight, holding the daemon's database, whose history has every `complete` call the daemon
logged, answered as the daemon logged it. -/
structure Serves (s : Dispatch) (ses : Session) : Prop where
  run : ses.Run
  idle : ses.running = []
  store : s.store = .database ses.db
  logged : ∀ cm ∈ s.completions, ∃ i,
    Event.invoke i (.complete cm.task cm.index cm.outcome) ∈ ses.history ∧
      Event.respond i (cm.answer.map fun _ => .completed) ∈ ses.history

variable {ses : Session}

theorem Serves.initial (workers capacity : Nat) :
    (Dispatch.initial .database workers capacity).Serves Session.initial where
  run := .initial
  idle := rfl
  store := rfl
  logged _ h := by cases h

/-- The session serves the next state once it serves the one call the step makes alone. -/
theorem Serves.serve (h : s.Serves ses) {s' : Dispatch} {c : Call}
    (hf : Phase.Finishes ses.db (.start c) (ses.db.perform c).1 (ses.db.perform c).2)
    (hstore : s'.store = .database (ses.db.perform c).1)
    (hlog : ∀ cm ∈ s'.completions, cm ∈ s.completions ∨
      c = .complete cm.task cm.index cm.outcome ∧
        cm.answer.map (fun _ => Answer.completed) = (ses.db.perform c).2) :
    ∃ ses', s'.Serves ses' := by
  have hreach := Session.serve h.idle hf
  refine ⟨_, h.run.of_reaches hreach, rfl, hstore, fun cm hcm => ?_⟩
  rcases hlog cm hcm with hold | ⟨rfl, hans⟩
  · obtain ⟨i, hi, hr⟩ := h.logged cm hold
    exact ⟨i, List.mem_append_left _ hi, List.mem_append_left _ hr⟩
  · exact ⟨ses.next, List.mem_append_right _ (by simp), List.mem_append_right _ (by simp [hans])⟩

/-- Each step of the daemon on the database is served by the session: a step that calls the
store is the call served alone. -/
theorem Serves.step (h : s.Serves ses) {m : MemoryStore} (ht : s.Tracks m) {s' : Dispatch}
    (hs : Step s s') : ∃ ses', s'.Serves ses' := by
  cases hs.calls h.store with
  | none hstore hlog => exact ⟨ses, h.run, h.idle, hstore.trans h.store, hlog ▸ h.logged⟩
  | create makes hstore hlog =>
    have hm : Mirrors ses.db m (fun _ => False) := by
      have hholds := ht.holds
      rw [h.store] at hholds
      exact hholds.1
    exact h.serve
      (Phase.finishes_create fun _ hc _ => hm.insertRows_of_createTask makes.fits_of_create hc)
      hstore fun cm hcm => .inl (hlog ▸ hcm)
  | complete cm makes hstore hlog hans =>
    refine h.serve Phase.finishes_complete hstore fun cm' hcm' => ?_
    rw [hlog] at hcm'
    rcases List.mem_append.mp hcm' with hold | hnew
    · exact .inl hold
    · obtain rfl := List.mem_singleton.mp hnew
      exact .inr ⟨rfl, hans⟩

/-- Every state a run of the daemon on the database reaches is served by a session. -/
theorem Run.serves {workers capacity : Nat} (hs : s.Run .database workers capacity) :
    ∃ ses, s.Serves ses := by
  induction hs with
  | initial => exact ⟨_, Serves.initial _ _⟩
  | step hrun hstep ih =>
    obtain ⟨ses, h⟩ := ih
    obtain ⟨m, ht⟩ := hrun.tracks
    exact h.step ht hstep

/-- The calls of a state in flight together: any of the calls the state makes is made, and any
statement of a call in flight runs. -/
inductive Overlap (s : Dispatch) : Session → Session → Prop
  | invoke (ses : Session) {c : Call} (makes : s.Makes c) : Overlap s ses (ses.invoke c)
  | advance (ses : Session) (r : Running) (mem : r ∈ ses.running) : Overlap s ses (ses.advance r)

/-- Calls that never clash, made together from a session run, keep it a session run: every call
in flight is one of them, so none clashes with a new one. -/
theorem Overlap.run (hnever : ∀ c d, s.Makes c → s.Makes d → ¬ c.Clashes d) {ses' : Session}
    (hses : ses.Run) (hmakes : ∀ q ∈ ses.running, s.Makes q.call)
    (h : Relation.ReflTransGen (Overlap s) ses ses') :
    ses'.Run ∧ ∀ q ∈ ses'.running, s.Makes q.call := by
  induction h with
  | refl => exact ⟨hses, hmakes⟩
  | tail _ hstep ih =>
    obtain ⟨hrun, hin⟩ := ih
    cases hstep with
    | invoke makes =>
      refine ⟨.step hrun (.invoke _ _ fun q hq => hnever _ _ makes (hin q hq)), fun q hq => ?_⟩
      rcases List.mem_append.mp hq with hq | hq
      · exact hin q hq
      · obtain rfl := List.mem_singleton.mp hq
        exact makes
    | advance r mem =>
      refine ⟨.step hrun (.advance _ r mem), fun q hq => ?_⟩
      obtain ⟨q₀, hq₀, hcall⟩ := Session.call_of_mem_advance hq
      exact hcall ▸ hin q₀ hq₀

/-- Every run of the daemon on the database is a run of a session in which each store call is
served alone, and from that session the calls the daemon may have in flight, made together and
run statement by statement in any order, are again a run of the session. -/
theorem Run.refines_sessions {workers capacity : Nat} (hs : s.Run .database workers capacity) :
    ∃ ses, s.Serves ses ∧ ∀ ses', Relation.ReflTransGen (Overlap s) ses ses' → ses'.Run := by
  obtain ⟨ses, h⟩ := hs.serves
  refine ⟨ses, h, fun ses' hov => ?_⟩
  exact (Overlap.run (fun _ _ => hs.makes_never_clash) h.run (by simp [h.idle]) hov).1

end Dispatch

end Daemon

end AdvisoryTrace
