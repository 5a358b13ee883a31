import Mathlib
import AdvisoryTrace.Proofs.SettleOnce

/-!
# The database answers as the memory store does

The database keeps a task's records as rows keyed by task and position, and works by statements:
a conditional update that overwrites every field of a pending row, then two queries that tell
why nothing was updated. The memory store applies an outcome to a record it has checked.

`Mirrors db m hidden` relates the two: the same task rows, and for each task the rows of its
records at their positions, save the tasks in `hidden`, whose rows are not inserted yet. Each
statement is described on those rows by one lemma; each call, built from its statements, then
keeps the relation and answers as the memory store does, for calls the original's types allow
(`Call.Fits`) on a task id that names a database record (`Call.Valid`). The empty task id names
none: the database refuses every call on it, and calls made one after another get the same
replies from both stores exactly when none is on the empty task id (`replies_agree_iff`).
-/

namespace AdvisoryTrace

/-- A refusal without the backend's own words: what the two stores must agree on. -/
def StoreError.plain : StoreError → StoreError
  | .backend _ => .backend ""
  | e => e

/-- A call that the original's types allow: fewer than `2^63` ids (a vector's length), an index
below `2^64` (a `usize`). -/
def Call.Fits : Call → Prop
  | .create _ ids => ids.length < 2 ^ 63
  | .get _ => True
  | .complete _ index _ => index < 2 ^ 64

/-- A call the database can serve: within the original's types, on a task id that names a
database record. -/
def Call.Valid (c : Call) : Prop := c.task ≠ "" ∧ c.Fits

theorem Status.beq_eq_true_iff {a b : Status} : (a == b) = true ↔ a = b := by
  cases a <;> cases b <;> decide

namespace Database

/-- The row that keeps a task's record at a position. -/
def rowOf (task : String) (i : Nat) (r : Record) : Row :=
  ⟨task, signed i, r.id, r.status, r.confidence, r.chain, r.error⟩

/-- The rows that keep a task's records, from position `i` on. -/
def rowsFrom (task : String) : Nat → List Record → List Row
  | _, [] => []
  | i, r :: rs => rowOf task i r :: rowsFrom task (i + 1) rs

theorem signed_eq {n : Nat} (h : n < 2 ^ 64) :
    signed n = if n < 2 ^ 63 then (n : Int) else n - 2 ^ 64 := by
  have hp : Nat.pow 2 64 = 18446744073709551616 := rfl
  unfold signed
  rw [hp, Int.bmod_eq_emod]
  have hm : (n : Int) % ((18446744073709551616 : Nat) : Int) = n :=
    Int.emod_eq_of_lt (by omega) (by omega)
  rw [hm]
  by_cases h63 : n < 2 ^ 63
  · rw [if_pos h63, if_neg (by omega)]
    simp
  · rw [if_neg h63, if_pos (by omega)]
    omega

theorem signed_of_lt {n : Nat} (h : n < 2 ^ 63) : signed n = n := by
  rw [signed_eq (by omega), if_pos h]

/-- Two indices of a `usize` are written as the same position only when they are equal. -/
theorem signed_inj {a b : Nat} (ha : a < 2 ^ 64) (hb : b < 2 ^ 64) :
    signed a = signed b ↔ a = b := by
  rw [signed_eq ha, signed_eq hb]
  constructor
  · intro h
    by_cases h₁ : a < 2 ^ 63 <;> by_cases h₂ : b < 2 ^ 63 <;> simp only [h₁, h₂, if_true,
      if_false] at h <;> omega
  · rintro rfl
    rfl

@[simp] theorem record_rowOf (task : String) (i : Nat) (r : Record) :
    (rowOf task i r).record = r := rfl

@[simp] theorem length_rowsFrom (task : String) (i : Nat) (rs : List Record) :
    (rowsFrom task i rs).length = rs.length := by
  induction rs generalizing i with
  | nil => rfl
  | cons r rs ih => simp [rowsFrom, ih]

theorem getElem?_rowsFrom (task : String) (i : Nat) (rs : List Record) (j : Nat) :
    (rowsFrom task i rs)[j]? = rs[j]?.map (rowOf task (i + j)) := by
  induction rs generalizing i j with
  | nil => simp [rowsFrom]
  | cons r rs ih =>
    cases j with
    | zero => simp [rowsFrom]
    | succ j =>
      simp only [rowsFrom, List.getElem?_cons_succ, ih]
      congr 2
      omega

theorem records_rowsFrom (task : String) (i : Nat) (rs : List Record) :
    (rowsFrom task i rs).map Row.record = rs := by
  induction rs generalizing i with
  | nil => rfl
  | cons r rs ih => simp [rowsFrom, ih]

theorem task_of_mem_rowsFrom {task : String} {i : Nat} {rs : List Record} {r : Row}
    (h : r ∈ rowsFrom task i rs) : r.task = task := by
  induction rs generalizing i with
  | nil => simp [rowsFrom] at h
  | cons x xs ih =>
    rcases List.mem_cons.mp h with rfl | h
    · rfl
    · exact ih h

theorem pendingRows_eq (task : String) (ids : List String) :
    pendingRows task ids = rowsFrom task 0 (ids.map Record.pending) := by
  apply List.ext_getElem?
  intro k
  rw [pendingRows, List.getElem?_map, List.getElem?_zipIdx, getElem?_rowsFrom, List.getElem?_map]
  cases ids[k]? <;> rfl

/-- The positions of a task's rows, from `i` on, all lie in `[i, i + n)`. -/
theorem position_of_mem_rowsFrom {task : String} {i : Nat} {rs : List Record} {r : Row}
    (h : r ∈ rowsFrom task i rs) : ∃ j, i ≤ j ∧ j < i + rs.length ∧ r.position = signed j := by
  induction rs generalizing i with
  | nil => simp [rowsFrom] at h
  | cons x xs ih =>
    rcases List.mem_cons.mp h with rfl | h
    · refine ⟨i, le_refl i, by rw [List.length_cons]; omega, ?_⟩
      simp only [rowOf]
    · obtain ⟨j, hij, hj, hp⟩ := ih h
      exact ⟨j, by omega, by rw [List.length_cons]; omega, hp⟩

theorem mem_rowsFrom {task : String} {i : Nat} {rs : List Record} {q : Row} :
    q ∈ rowsFrom task i rs ↔ ∃ k r, rs[k]? = some r ∧ rowOf task (i + k) r = q := by
  simp only [List.mem_iff_getElem?, getElem?_rowsFrom, Option.map_eq_some_iff]

/-- A record's row is at the position of an index exactly when it was written for that index. -/
theorem isAt_rowOf {task t : String} {k i : Nat} (r : Record) (hk : k < 2 ^ 64) (hi : i < 2 ^ 64) :
    (rowOf t k r).isAt task (signed i) = true ↔ t = task ∧ k = i := by
  simp only [Row.isAt, rowOf, Bool.and_eq_true, beq_iff_eq, signed_inj hk hi]

/-- The conditional update fills a pending record's row as the outcome fills the record. -/
theorem overwrite_rowOf {t : String} {i : Nat} {r : Record} (hr : r.Shaped)
    (hp : r.status = .pending) (o : Outcome) :
    (rowOf t i r).overwrite o = rowOf t i (r.apply o) := by
  obtain ⟨hc, hch, he⟩ := hr.of_pending hp
  cases o <;> simp [rowOf, Row.overwrite, Record.apply, hc, hch, he]

@[simp] theorem task_overwrite (q : Row) (o : Outcome) : (q.overwrite o).task = q.task := by
  cases o <;> rfl

@[simp] theorem position_overwrite (q : Row) (o : Outcome) :
    (q.overwrite o).position = q.position := by
  cases o <;> rfl

/-- When no row is open, the conditional update changes nothing and reports nothing. -/
theorem update_of_closed {db : Database} {t : String} {p : Int} (o : Outcome)
    (h : ∀ q ∈ db.rows, isOpen t p q = false) : db.update t p o = (db, []) := by
  have hmap : (db.rows.map fun q => if isOpen t p q then q.overwrite o else q) = db.rows := by
    conv => rhs; rw [← List.map_id db.rows]
    exact List.map_congr_left fun q hq => by simp [h q hq]
  have hfil : db.rows.filter (isOpen t p) = [] :=
    List.filter_eq_nil_iff.mpr fun q hq => by simp [h q hq]
  simp only [update, hmap, hfil, List.map_nil]

/-- The rows of a task after the conditional update: each updated where it was open. -/
theorem filter_update (db : Database) (t t' : String) (p : Int) (o : Outcome) :
    (db.update t p o).1.rows.filter (·.task == t') =
      (db.rows.filter (·.task == t')).map fun q => if isOpen t p q then q.overwrite o else q := by
  simp only [update, List.filter_map]
  congr 1
  apply List.filter_congr
  intro q _
  simp only [Function.comp_apply]
  split <;> simp

/-- Positions below `2^63` are written as themselves, so a task's rows are in position order. -/
theorem rowsFrom_sorted {task : String} {i : Nat} {rs : List Record}
    (h : i + rs.length ≤ 2 ^ 63) :
    (rowsFrom task i rs).Pairwise fun a b => a.position ≤ b.position := by
  induction rs generalizing i with
  | nil => exact .nil
  | cons x xs ih =>
    rw [List.length_cons] at h
    refine List.Pairwise.cons ?_ (ih (by omega))
    intro b hb
    obtain ⟨j, hij, hj, hp⟩ := position_of_mem_rowsFrom hb
    simp only [rowOf]
    rw [hp, signed_of_lt (by omega), signed_of_lt (by omega)]
    omega

/-- The positions of a task's rows differ. -/
theorem keys_rowsFrom_nodup {task : String} {i : Nat} {rs : List Record}
    (h : i + rs.length ≤ 2 ^ 64) :
    ((rowsFrom task i rs).map fun r => (r.task, r.position)).Nodup := by
  induction rs generalizing i with
  | nil => exact .nil
  | cons x xs ih =>
    rw [List.length_cons] at h
    simp only [rowsFrom, List.map_cons, List.nodup_cons, List.mem_map, not_exists, not_and]
    refine ⟨fun b hb hk => ?_, ih (by omega)⟩
    obtain ⟨j, hij, hj, hp⟩ := position_of_mem_rowsFrom hb
    have heq : signed j = signed i := by
      simp only [rowOf, Prod.mk.injEq] at hk
      rw [← hp, hk.2]
    rw [signed_inj (by omega) (by omega)] at heq
    omega

/-- The update of a pending record's row, read back on its task's rows: the record's outcome
applied at its index, and every other row as it was. -/
theorem map_update_rowsFrom {t : String} {rs : List Record} {i : Nat} {r : Record}
    (hlen : rs.length < 2 ^ 63) (hi : i < 2 ^ 64) (hr : rs[i]? = some r) (hs : r.Shaped)
    (hp : r.status = .pending) (o : Outcome) :
    (rowsFrom t 0 rs).map (fun q => if isOpen t (signed i) q then q.overwrite o else q) =
      rowsFrom t 0 (rs.set i (r.apply o)) := by
  apply List.ext_getElem?
  intro k
  rw [List.getElem?_map, getElem?_rowsFrom, getElem?_rowsFrom, List.getElem?_set, Option.map_map,
    Nat.zero_add]
  by_cases hk : i = k
  · subst hk
    have hopen : isOpen t (signed i) (rowOf t i r) = true := by
      simp only [isOpen, Bool.and_eq_true, (isAt_rowOf r hi hi).mpr ⟨rfl, rfl⟩, true_and]
      show (r.status == .pending) = true
      rw [hp]
      rfl
    rw [if_pos rfl, if_pos (List.getElem?_eq_some_iff.mp hr).1, hr]
    simp only [Option.map_some, Function.comp_apply, hopen, if_true, overwrite_rowOf hs hp]
  · rw [if_neg hk]
    cases hx : rs[k]? with
    | none => rfl
    | some x =>
      have hk' : k < 2 ^ 63 := by
        have := (List.getElem?_eq_some_iff.mp hx).1
        omega
      have hclosed : isOpen t (signed i) (rowOf t k x) = false := by
        simp only [isOpen, Bool.and_eq_false_iff]
        left
        rw [Bool.eq_false_iff]
        intro hat
        exact hk ((isAt_rowOf x (by omega) hi).mp hat).2.symm
      simp only [Option.map_some, Function.comp_apply, hclosed]
      rfl

/-- The conditional update leaves the rows of other tasks as they were. -/
theorem map_update_rowsFrom_of_ne {t u : String} (hne : u ≠ t) (p : Int) (o : Outcome) (i : Nat)
    (rs : List Record) :
    (rowsFrom u i rs).map (fun q => if isOpen t p q then q.overwrite o else q) = rowsFrom u i rs := by
  conv => rhs; rw [← List.map_id (rowsFrom u i rs)]
  apply List.map_congr_left
  intro q hq
  have hclosed : isOpen t p q = false := by
    simp [isOpen, Row.isAt, task_of_mem_rowsFrom hq, hne]
  simp [hclosed]

/-- The refusals a completion can meet, as the tables show them: the row at the position and its
terminal status, or no row there and whether the task row exists. -/
def Explains (db : Database) (t : String) (i : Nat) : StoreError → Prop
  | .alreadyTerminal t' i' st =>
    t' = t ∧ i' = i ∧ st ≠ .pending ∧ ∃ q, db.rowAt t (signed i) = some q ∧ q.status = st
  | .unknownRecord t' i' => t' = t ∧ i' = i ∧ db.rowAt t (signed i) = none ∧ t ∈ db.tasks
  | .unknownTask t' => t' = t ∧ db.rowAt t (signed i) = none ∧ t ∉ db.tasks
  | .backend _ => False

theorem hasTask_of_ne {db : Database} {t : String} (ht : t ≠ "") :
    db.hasTask t = .ok (db.tasks.contains t) := by
  simp [hasTask, taskRowId, ht]

/-- The two queries after an update that took no row give the refusal the tables explain. -/
theorem classify_of_explains {db : Database} {t : String} (ht : t ≠ "") {i : Nat} {e : StoreError}
    (h : db.Explains t i e) : db.classify t i = .error e := by
  cases e with
  | alreadyTerminal t' i' st =>
    obtain ⟨rfl, rfl, -, q, hq, rfl⟩ := h
    simp [classify, hq]
  | unknownRecord t' i' =>
    obtain ⟨rfl, rfl, hq, hm⟩ := h
    simp [classify, hq, hasTask_of_ne ht, hm]
    rfl
  | unknownTask t' =>
    obtain ⟨rfl, hq, hm⟩ := h
    simp [classify, hq, hasTask_of_ne ht, hm]
    rfl
  | backend _ => exact h.elim

end Database

namespace MemoryStore

/-- Replacing a task's records keeps the task ids. -/
theorem keys_replace (s : MemoryStore) (task : String) (rs : List Record) :
    (s.replace task rs).tasks.map (·.1) = s.tasks.map (·.1) := by
  simp only [replace, List.map_map]
  apply List.map_congr_left
  intro e _
  simp only [Function.comp_apply]
  split
  · rename_i h
    exact (beq_iff_eq.mp h).symm
  · rfl

/-- A call on another task leaves a task's records as they were. -/
theorem get_perform_of_ne (s : MemoryStore) {c : Call} {t : String} (ht : c.task ≠ t) :
    (s.perform c).1.get t = s.get t := by
  cases c with
  | create u ids =>
    simp only [perform]
    split
    · rename_i s' rs hc
      obtain ⟨hn, -, rfl⟩ := create_eq_ok hc
      rw [get_append s hn, if_neg fun h => ht h.symm]
    · rfl
  | get u => rfl
  | complete u i o =>
    simp only [perform]
    split
    · rename_i s' hc
      obtain ⟨rs, r, -, -, -, rfl⟩ := complete_eq_ok hc
      rw [get_replace, if_neg fun h => ht h.symm]
    · rfl

/-- The memory store refuses a call on a task it does not know only as an unknown task, never
as a backend. -/
theorem perform_plain_ne_backend (s : MemoryStore) {c : Call} (hn : s.get c.task = none) :
    (s.perform c).2.mapError StoreError.plain ≠ .error (.backend "") := by
  cases c with
  | create t ids =>
    simp only [Call.task] at hn
    simp [perform, create, hn, Except.mapError]
  | get t => simp [perform, Except.mapError]
  | complete t i o =>
    simp only [Call.task] at hn
    simp [perform, complete, hn, Except.mapError, StoreError.plain]

theorem isSome_get_iff (s : MemoryStore) (task : String) :
    (s.get task).isSome ↔ task ∈ s.tasks.map (·.1) := by
  simp only [get, List.lookup_isSome_iff, List.mem_map, beq_iff_eq]
  constructor
  · rintro ⟨e, he, rfl⟩
    exact ⟨e, he, rfl⟩
  · rintro ⟨e, he, rfl⟩
    exact ⟨e, he, rfl⟩

end MemoryStore

open Database

/-- The database keeps what the memory store keeps: the same task rows, and for each task the
rows of its records at their positions, save the tasks in `hidden`, whose rows are yet to come.
Two facts of the memory store ride along: no task has `2^63` records, and every record has one
of its three shapes. -/
structure Mirrors (db : Database) (m : MemoryStore) (hidden : String → Prop) : Prop where
  tasks : db.tasks = m.tasks.map (·.1)
  rows : ∀ t, ¬ hidden t → db.rows.filter (·.task == t) = rowsFrom t 0 ((m.get t).getD [])
  unseen : ∀ t, hidden t → db.rows.filter (·.task == t) = []
  keys : (db.rows.map fun q => (q.task, q.position)).Nodup
  short : ∀ e ∈ m.tasks, e.2.length < 2 ^ 63
  shaped : m.Shaped

namespace Mirrors

variable {db : Database} {m : MemoryStore} {hidden : String → Prop}

theorem empty : Mirrors .empty .empty fun _ => False where
  tasks := rfl
  rows _ _ := rfl
  unseen _ h := h.elim
  keys := .nil
  short _ h := by cases h
  shaped _ h := by cases h

theorem of_hidden_iff (h : Mirrors db m hidden) {hidden' : String → Prop}
    (hh : ∀ t, hidden' t ↔ hidden t) : Mirrors db m hidden' :=
  ⟨h.tasks, fun t ht => h.rows t (mt (hh t).mpr ht), fun t ht => h.unseen t ((hh t).mp ht), h.keys,
    h.short, h.shaped⟩

theorem length_lt (h : Mirrors db m hidden) (t : String) : ((m.get t).getD []).length < 2 ^ 63 := by
  cases hg : m.get t with
  | none =>
    rw [Option.getD_none, List.length_nil]
    omega
  | some rs => exact h.short _ (MemoryStore.mem_of_get hg)

theorem mem_tasks_iff (h : Mirrors db m hidden) (t : String) : t ∈ db.tasks ↔ (m.get t).isSome := by
  rw [h.tasks, MemoryStore.isSome_get_iff]

/-- Reading the task row says whether the memory store knows the task. -/
theorem hasTask_eq (h : Mirrors db m hidden) {t : String} (ht : t ≠ "") :
    db.hasTask t = .ok (m.get t).isSome := by
  rw [hasTask_of_ne ht]
  congr 1
  exact Bool.eq_iff_iff.mpr (by simp [h.mem_tasks_iff t])

/-- A task row is refused for a task the memory store knows. -/
theorem createTask_of_known (h : Mirrors db m hidden) {t : String} (ht : t ≠ "")
    (hk : (m.get t).isSome) :
    db.createTask t = .error (.backend ("Database record \x60task:" ++ recordIdText t ++ "\x60 already exists")) := by
  have hc : t ∈ db.tasks := (h.mem_tasks_iff t).mpr hk
  simp [createTask, taskRowId, ht, hc]
  rfl

/-- A task row is written for a task the memory store does not know. -/
theorem createTask_of_new (h : Mirrors db m hidden) {t : String} (ht : t ≠ "")
    (hn : m.get t = none) : db.createTask t = .ok ⟨db.tasks ++ [t], db.rows⟩ := by
  have hc : t ∉ db.tasks := by simp [h.mem_tasks_iff t, hn]
  simp [createTask, taskRowId, ht, hc]

/-- A new task joins both stores, its rows yet to come. -/
theorem addTask (h : Mirrors db m hidden) {t : String} (hn : m.get t = none) {ids : List String}
    (hl : ids.length < 2 ^ 63) :
    Mirrors ⟨db.tasks ++ [t], db.rows⟩ ⟨m.tasks ++ [(t, ids.map Record.pending)]⟩
      fun u => hidden u ∨ u = t where
  tasks := by simp [h.tasks]
  rows u hu := by
    obtain ⟨hu, hne⟩ := not_or.mp hu
    rw [h.rows u hu, MemoryStore.get_append m hn, if_neg hne]
  unseen u hu := by
    by_cases hh : hidden u
    · exact h.unseen u hh
    · obtain rfl := hu.resolve_left hh
      rw [h.rows u hh, hn]
      rfl
  keys := h.keys
  short e he := by
    rcases List.mem_append.mp he with he | he
    · exact h.short e he
    · rw [List.mem_singleton.mp he, List.length_map]
      exact hl
  shaped e he r hr := by
    rcases List.mem_append.mp he with he | he
    · exact h.shaped e he r hr
    · obtain rfl := List.mem_singleton.mp he
      obtain ⟨id, -, rfl⟩ := List.mem_map.mp hr
      exact Record.pending_shaped id

/-- The rows of a hidden task's pending records go in, refused by no key, and the task shows. -/
theorem insert (h : Mirrors db m hidden) {t : String} (ht : hidden t) {ids : List String}
    (hg : m.get t = some (ids.map Record.pending)) :
    db.insertRows (pendingRows t ids) = .ok ⟨db.tasks, db.rows ++ pendingRows t ids⟩ ∧
      Mirrors ⟨db.tasks, db.rows ++ pendingRows t ids⟩ m fun u => hidden u ∧ u ≠ t := by
  have hl : ids.length < 2 ^ 63 := by
    simpa using h.short _ (MemoryStore.mem_of_get hg)
  have hnew : pendingRows t ids = rowsFrom t 0 (ids.map Record.pending) := pendingRows_eq t ids
  have htask : ∀ q ∈ pendingRows t ids, q.task = t := fun q hq =>
    task_of_mem_rowsFrom (hnew ▸ hq)
  -- the new keys all name the task, which has no row yet
  have hkeys : ((db.rows ++ pendingRows t ids).map fun q => (q.task, q.position)).Nodup := by
    rw [List.map_append, List.nodup_append]
    refine ⟨h.keys, hnew ▸ keys_rowsFrom_nodup (by simp; omega), ?_⟩
    rintro _ ha _ hb rfl
    obtain ⟨q, hq, hqk⟩ := List.mem_map.mp ha
    obtain ⟨q', hq', hqk'⟩ := List.mem_map.mp hb
    have hqt : q.task = t := by
      rw [← htask q' hq']
      exact (Prod.mk.inj (hqk.trans hqk'.symm)).1
    have : q ∈ db.rows.filter (·.task == t) := List.mem_filter.mpr ⟨hq, by simp [hqt]⟩
    rw [h.unseen t ht] at this
    cases this
  refine ⟨by rw [insertRows, if_pos hkeys], ?_⟩
  refine ⟨h.tasks, fun u hu => ?_, fun u hu => ?_, hkeys, h.short, h.shaped⟩
  · rw [List.filter_append]
    by_cases hut : u = t
    · subst hut
      rw [h.unseen u ht, List.nil_append, hg, Option.getD_some, ← hnew]
      exact List.filter_eq_self.mpr fun q hq => by simp [htask q hq]
    · have hu' : ¬ hidden u := fun hh => hu ⟨hh, hut⟩
      rw [h.rows u hu', List.filter_eq_nil_iff.mpr fun q hq => by simp [htask q hq, Ne.symm hut],
        List.append_nil]
  · rw [List.filter_append, h.unseen u hu.1, List.nil_append]
    exact List.filter_eq_nil_iff.mpr fun q hq => by simp [htask q hq, Ne.symm hu.2]

/-- Reading a visible task's rows in position order gives its records. -/
theorem rowsOf_eq (h : Mirrors db m hidden) {t : String} (ht : ¬ hidden t) :
    (db.rowsOf t).map Row.record = (m.get t).getD [] := by
  have hsorted : (rowsFrom t 0 ((m.get t).getD [])).Pairwise fun a b => a.position ≤ b.position :=
    rowsFrom_sorted (by have := h.length_lt t; omega)
  rw [rowsOf, h.rows t ht, List.mergeSort_of_pairwise (hsorted.imp decide_eq_true),
    records_rowsFrom]

/-- A get on a visible task answers as the memory store does. -/
theorem get_eq (h : Mirrors db m hidden) {t : String} (ht : t ≠ "") (hh : ¬ hidden t) :
    db.get t = .ok (m.get t) := by
  cases hg : m.get t with
  | none => simp [Database.get, h.hasTask_eq ht, hg]; rfl
  | some rs =>
    have hrows := h.rowsOf_eq hh
    rw [hg, Option.getD_some] at hrows
    simp [Database.get, h.hasTask_eq ht, hg, hrows]
    rfl

theorem rowOf_mem (h : Mirrors db m hidden) {t : String} (ht : ¬ hidden t) {i : Nat} {r : Record}
    (hr : ((m.get t).getD [])[i]? = some r) : rowOf t i r ∈ db.rows := by
  have hmem : rowOf t i r ∈ rowsFrom t 0 ((m.get t).getD []) :=
    mem_rowsFrom.mpr ⟨i, r, hr, by rw [Nat.zero_add]⟩
  rw [← h.rows t ht] at hmem
  exact List.mem_of_mem_filter hmem

/-- A row at a visible task's position for an index is the row of its record at that index. -/
theorem isAt_iff (h : Mirrors db m hidden) {t : String} (ht : ¬ hidden t) {i : Nat}
    (hi : i < 2 ^ 64) {q : Row} (hq : q ∈ db.rows) :
    q.isAt t (signed i) = true ↔ ∃ r, ((m.get t).getD [])[i]? = some r ∧ rowOf t i r = q := by
  constructor
  · intro hat
    have htask : q.task = t := by
      simp only [Row.isAt, Bool.and_eq_true, beq_iff_eq] at hat
      exact hat.1
    have hmem : q ∈ rowsFrom t 0 ((m.get t).getD []) := by
      rw [← h.rows t ht]
      exact List.mem_filter.mpr ⟨hq, by simp [htask]⟩
    obtain ⟨k, r, hr, rfl⟩ := mem_rowsFrom.mp hmem
    have hk : k < 2 ^ 63 := by
      have := (List.getElem?_eq_some_iff.mp hr).1
      have := h.length_lt t
      omega
    rw [Nat.zero_add] at hat ⊢
    obtain ⟨-, rfl⟩ := (isAt_rowOf r (by omega) hi).mp hat
    exact ⟨r, hr, rfl⟩
  · rintro ⟨r, -, rfl⟩
    exact (isAt_rowOf r hi hi).mpr ⟨rfl, rfl⟩

/-- Reading the row at a visible task's position gives the row of its record at that index. -/
theorem rowAt_eq (h : Mirrors db m hidden) {t : String} (ht : ¬ hidden t) {i : Nat}
    (hi : i < 2 ^ 64) : db.rowAt t (signed i) = ((m.get t).getD [])[i]?.map (rowOf t i) := by
  unfold rowAt
  cases hf : db.rows.find? (Row.isAt t (signed i)) with
  | none =>
    cases hr : ((m.get t).getD [])[i]? with
    | none => rfl
    | some r =>
      have hmem := h.rowOf_mem ht hr
      exact absurd ((h.isAt_iff ht hi hmem).mpr ⟨r, hr, rfl⟩) (List.find?_eq_none.mp hf _ hmem)
  | some q =>
    obtain ⟨r, hr, rfl⟩ :=
      (h.isAt_iff ht hi (List.mem_of_find?_eq_some hf)).mp (List.find?_some hf)
    rw [hr]
    rfl

/-- The update takes a row of a visible task exactly when the record at the index is pending. -/
theorem isOpen_iff (h : Mirrors db m hidden) {t : String} (ht : ¬ hidden t) {i : Nat}
    (hi : i < 2 ^ 64) {q : Row} (hq : q ∈ db.rows) :
    isOpen t (signed i) q = true ↔
      ∃ r, ((m.get t).getD [])[i]? = some r ∧ r.status = .pending ∧ rowOf t i r = q := by
  rw [isOpen, Bool.and_eq_true, h.isAt_iff ht hi hq]
  constructor
  · rintro ⟨⟨r, hr, rfl⟩, hp⟩
    exact ⟨r, hr, Status.beq_eq_true_iff.mp hp, rfl⟩
  · rintro ⟨r, hr, hp, rfl⟩
    exact ⟨⟨r, hr, rfl⟩, Status.beq_eq_true_iff.mpr hp⟩

/-- A completion the memory store refuses takes no row, and the tables explain the refusal. -/
theorem explains_of_refused (h : Mirrors db m hidden) {t : String} (ht : ¬ hidden t) {i : Nat}
    (hi : i < 2 ^ 64) {o : Outcome} {e : StoreError} (hc : m.complete t i o = .error e) :
    db.update t (signed i) o = (db, []) ∧ db.Explains t i e := by
  have hrow := h.rowAt_eq ht hi
  unfold MemoryStore.complete at hc
  split at hc
  · rename_i hg
    cases hc
    have hclosed : ∀ q ∈ db.rows, isOpen t (signed i) q = false := fun q hq => by
      rw [Bool.eq_false_iff, ne_eq, h.isOpen_iff ht hi hq, hg]
      simp
    refine ⟨update_of_closed o hclosed, rfl, by rw [hrow, hg]; rfl, ?_⟩
    simp [h.mem_tasks_iff t, hg]
  · rename_i rs hg
    split at hc
    · rename_i hr
      cases hc
      have hclosed : ∀ q ∈ db.rows, isOpen t (signed i) q = false := fun q hq => by
        rw [Bool.eq_false_iff, ne_eq, h.isOpen_iff ht hi hq, hg, Option.getD_some, hr]
        simp
      refine ⟨update_of_closed o hclosed, rfl, rfl, by rw [hrow, hg, Option.getD_some, hr]; rfl, ?_⟩
      simp [h.mem_tasks_iff t, hg]
    · rename_i r hr
      split at hc
      · rename_i hterm
        cases hc
        have hclosed : ∀ q ∈ db.rows, isOpen t (signed i) q = false := fun q hq => by
          rw [Bool.eq_false_iff, ne_eq, h.isOpen_iff ht hi hq, hg, Option.getD_some, hr]
          rintro ⟨r', hr', hp, -⟩
          cases hr'
          simp [hp, Status.isTerminal] at hterm
        have hst : r.status ≠ .pending := fun hp => by simp [hp, Status.isTerminal] at hterm
        refine ⟨update_of_closed o hclosed, rfl, rfl, hst, rowOf t i r, ?_, rfl⟩
        rw [hrow, hg, Option.getD_some, hr]
        rfl
      · cases hc

/-- A completion the memory store makes updates the record's row, and the stores still agree. -/
theorem update_of_completed (h : Mirrors db m hidden) {t : String} (ht : ¬ hidden t) {i : Nat}
    (hi : i < 2 ^ 64) {o : Outcome} {m' : MemoryStore} (hc : m.complete t i o = .ok m') :
    (db.update t (signed i) o).2 ≠ [] ∧ Mirrors (db.update t (signed i) o).1 m' hidden := by
  have hshaped : m'.Shaped := by
    simpa [MemoryStore.perform, hc] using MemoryStore.perform_shaped m (.complete t i o) h.shaped
  obtain ⟨rs, r, hrs, hr, hp, rfl⟩ := MemoryStore.complete_eq_ok hc
  have hget : (m.get t).getD [] = rs := by rw [hrs, Option.getD_some]
  have hmem := h.rowOf_mem ht (hget ▸ hr)
  have hopen : isOpen t (signed i) (rowOf t i r) = true :=
    (h.isOpen_iff ht hi hmem).mpr ⟨r, hget ▸ hr, hp, rfl⟩
  have hlen : rs.length < 2 ^ 63 := hget ▸ h.length_lt t
  constructor
  · intro hnil
    simp only [update, List.map_eq_nil_iff, List.filter_eq_nil_iff] at hnil
    exact hnil _ hmem hopen
  refine ⟨by rw [MemoryStore.keys_replace]; exact h.tasks, fun u hu => ?_, fun u hu => ?_, ?_, ?_,
    hshaped⟩
  · rw [filter_update, h.rows u hu, MemoryStore.get_replace]
    by_cases hut : u = t
    · subst hut
      rw [if_pos rfl, hrs]
      simp only [Option.map_some, Option.getD_some]
      have hs := h.shaped _ (MemoryStore.mem_of_get hrs) r (List.mem_of_getElem? hr)
      exact map_update_rowsFrom hlen hi hr hs hp o
    · rw [if_neg hut]
      exact map_update_rowsFrom_of_ne hut _ o 0 _
  · rw [filter_update, h.unseen u hu, List.map_nil]
  · simp only [update, List.map_map]
    convert h.keys using 2
    funext q
    simp only [Function.comp_apply]
    split <;> simp
  · intro e he
    obtain ⟨e₀, he₀, rfl⟩ := List.mem_map.mp he
    split
    · rename_i heq
      rw [List.length_set]
      have := h.short e₀ he₀
      obtain rfl : e₀.1 = t := beq_iff_eq.mp heq
      rw [← hget]
      exact h.length_lt _
    · exact h.short e₀ he₀

/-- A create of a task the memory store does not know writes the task row and the rows of its
pending records, and the stores agree again. -/
theorem create_of_new (h : Mirrors db m fun _ => False) {t : String} (ht : t ≠ "")
    (hn : m.get t = none) {ids : List String} (hl : ids.length < 2 ^ 63) :
    db.create t ids = .ok (⟨db.tasks ++ [t], db.rows ++ pendingRows t ids⟩, ids.map Record.pending) ∧
      Mirrors ⟨db.tasks ++ [t], db.rows ++ pendingRows t ids⟩
        ⟨m.tasks ++ [(t, ids.map Record.pending)]⟩ fun _ => False := by
  have h₁ := h.addTask hn hl
  obtain ⟨hins, h₂⟩ := h₁.insert (Or.inr rfl) (by rw [MemoryStore.get_append m hn, if_pos rfl])
  have hrec : (pendingRows t ids).map Row.record = ids.map Record.pending := by
    rw [pendingRows_eq, records_rowsFrom]
  refine ⟨?_, h₂.of_hidden_iff fun u => by simp⟩
  by_cases hids : ids = []
  · subst hids
    simp [Database.create, h.createTask_of_new ht hn, pendingRows]
  · have hne : (pendingRows t ids).isEmpty = false := by
      simpa [pendingRows] using hids
    simp only [Database.create, h.createTask_of_new ht hn, hne, Bool.false_eq_true, if_false,
      bind, Except.bind, hins, ← hrec]
    rfl

/-- One call made on both stores, with no task hidden: the stores agree again, and the replies
differ at most in a backend's words. -/
theorem perform (h : Mirrors db m fun _ => False) {c : Call} (hc : c.Valid) :
    Mirrors (db.perform c).1 (m.perform c).1 (fun _ => False) ∧
      (db.perform c).2.mapError StoreError.plain = (m.perform c).2.mapError StoreError.plain := by
  cases c with
  | create t ids =>
    obtain ⟨ht, hl⟩ : t ≠ "" ∧ ids.length < 2 ^ 63 := hc
    cases hg : m.get t with
    | some rs =>
      have hm : m.create t ids = .error (.backend ("task " ++ t ++ " already exists")) := by
        simp [MemoryStore.create, hg]
      have hdb : db.create t ids =
          .error (.backend ("Database record \x60task:" ++ recordIdText t ++ "\x60 already exists")) := by
        simp [Database.create, h.createTask_of_known ht (by simp [hg])]
        rfl
      simp only [Database.perform, hdb, MemoryStore.perform, hm]
      exact ⟨h, rfl⟩
    | none =>
      obtain ⟨hdb, h'⟩ := h.create_of_new ht hg hl
      have hm : m.create t ids =
          .ok (⟨m.tasks ++ [(t, ids.map Record.pending)]⟩, ids.map Record.pending) := by
        simp [MemoryStore.create, hg]
      simp only [Database.perform, hdb, MemoryStore.perform, hm]
      exact ⟨h', trivial⟩
  | get t =>
    have hget : db.get t = .ok (m.get t) := h.get_eq hc.1 fun h => h
    simp only [Database.perform, MemoryStore.perform, hget]
    exact ⟨h, rfl⟩
  | complete t i o =>
    obtain ⟨ht, hi⟩ : t ≠ "" ∧ i < 2 ^ 64 := hc
    cases hm : m.complete t i o with
    | error e =>
      obtain ⟨hup, hex⟩ := h.explains_of_refused (fun h => h) hi hm
      have hdb : db.complete t i o = .error e := by
        simp [Database.complete, hup, classify_of_explains ht hex]
      simp only [Database.perform, hdb, MemoryStore.perform, hm]
      exact ⟨h, trivial⟩
    | ok m' =>
      obtain ⟨hne, h'⟩ := h.update_of_completed (fun h => h) hi hm
      have hdb : db.complete t i o = .ok (db.update t (signed i) o).1 := by
        simp [Database.complete, List.isEmpty_iff, hne]
      simp only [Database.perform, hdb, MemoryStore.perform, hm]
      exact ⟨h', trivial⟩

/-- The database refuses every call on the empty task id as a backend, since the id names no
database record, and the memory store, not knowing the task, never does. -/
theorem perform_empty (h : Mirrors db m fun _ => False) (hn : m.get "" = none) {c : Call}
    (hc : c.task = "") :
    (db.perform c).2.mapError StoreError.plain = .error (.backend "") ∧
      (m.perform c).2.mapError StoreError.plain ≠ .error (.backend "") := by
  refine ⟨?_, m.perform_plain_ne_backend (hc ▸ hn)⟩
  cases c with
  | create t ids =>
    obtain rfl : t = "" := hc
    simp [Database.perform, Database.create, createTask, taskRowId, bind, Except.bind]
    rfl
  | get t =>
    obtain rfl : t = "" := hc
    simp [Database.perform, Database.get, hasTask, taskRowId, bind, Except.bind]
    rfl
  | complete t i o =>
    obtain rfl : t = "" := hc
    -- no row belongs to the empty task, so nothing is updated and the task row is probed
    have hnone : ∀ q ∈ db.rows, q.task ≠ "" := fun q hq hq' => by
      have hmem : q ∈ db.rows.filter (·.task == "") := List.mem_filter.mpr ⟨hq, by simp [hq']⟩
      rw [h.rows "" id, hn] at hmem
      cases hmem
    have hclosed : ∀ q ∈ db.rows, isOpen "" (signed i) q = false := fun q hq => by
      simp [isOpen, Row.isAt, hnone q hq]
    have hrow : db.rowAt "" (signed i) = none :=
      List.find?_eq_none.mpr fun q hq => by simp [Row.isAt, hnone q hq]
    simp [Database.perform, Database.complete, update_of_closed o hclosed, classify, hrow, hasTask,
      taskRowId, bind, Except.bind]
    rfl

/-- Calls made one after another on two stores that agree, with no task hidden and the empty
task unknown, get the same replies, but for a backend's words, exactly when none of them is on
the empty task id. -/
theorem replies_agree_iff (h : Mirrors db m fun _ => False) (hn : m.get "" = none)
    {calls : List Call} (hf : ∀ c ∈ calls, c.Fits) :
    (Call.replies Database.perform db calls).map (Except.mapError StoreError.plain) =
        (Call.replies MemoryStore.perform m calls).map (Except.mapError StoreError.plain) ↔
      ∀ c ∈ calls, c.task ≠ "" := by
  induction calls generalizing db m with
  | nil => simp [Call.replies]
  | cons c cs ih =>
    simp only [Call.replies, List.map_cons, List.cons.injEq, List.forall_mem_cons]
    by_cases hc : c.task = ""
    · -- the first call on the empty task id: the database refuses it as a backend
      obtain ⟨hdb, hmem⟩ := h.perform_empty hn hc
      rw [hdb]
      exact ⟨fun hh => absurd hh.1.symm hmem, fun hh => absurd hc hh.1⟩
    · obtain ⟨h', hr⟩ := h.perform ⟨hc, hf c List.mem_cons_self⟩
      rw [hr, ih h' (by rw [m.get_perform_of_ne hc, hn]) fun c' hc' =>
        hf c' (List.mem_cons_of_mem _ hc')]
      simp [hc]

end Mirrors

end AdvisoryTrace
