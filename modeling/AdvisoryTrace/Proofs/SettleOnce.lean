import Mathlib.Data.List.Forall2
import AdvisoryTrace.Store

/-!
# Records settle once

In the store held in memory a record is pending until one outcome is applied to it, and from
then on it does not change. Applying an outcome sets only the fields that outcome speaks of, so
a record's optional fields match its status only because the store refuses a second outcome.

* `Record.Shaped`: the three shapes a record can have;
* `Record.Settles`: how a record may differ at a later time;
* `records_settle_once`: after any calls every stored record has a shape, a created task holds
  one pending record per id in order, and from then on its records only settle.
-/

namespace AdvisoryTrace

namespace Record

/-- The three shapes of a record: pending with nothing else set, done with a confidence and a
chain, failed with an error. -/
def Shaped (r : Record) : Prop :=
  r.status = .pending ∧ r.confidence = none ∧ r.chain = none ∧ r.error = none ∨
  r.status = .done ∧ r.confidence.isSome ∧ r.chain.isSome ∧ r.error = none ∨
  r.status = .failed ∧ r.confidence = none ∧ r.chain = none ∧ r.error.isSome

/-- How a record may differ at a later time: not at all, or, when it was pending, by one
outcome applied to it. -/
def Settles (r r' : Record) : Prop :=
  r' = r ∨ r.status = .pending ∧ ∃ o, r' = r.apply o

@[simp] theorem apply_status (r : Record) (o : Outcome) : (r.apply o).status = o.status := by
  cases o <;> rfl

@[simp] theorem apply_id (r : Record) (o : Outcome) : (r.apply o).id = r.id := by
  cases o <;> rfl

theorem outcome_status_ne_pending (o : Outcome) : o.status ≠ .pending := by
  cases o <;> simp [Outcome.status]

theorem pending_shaped (id : String) : (pending id).Shaped :=
  Or.inl ⟨rfl, rfl, rfl, rfl⟩

theorem Shaped.of_pending {r : Record} (hr : r.Shaped) (hp : r.status = .pending) :
    r.confidence = none ∧ r.chain = none ∧ r.error = none := by
  rcases hr with ⟨-, h⟩ | ⟨hs, -⟩ | ⟨hs, -⟩
  · exact h
  · simp [hs] at hp
  · simp [hs] at hp

/-- An outcome applied to a pending record gives the shape of its status. -/
theorem Shaped.apply {r : Record} (hr : r.Shaped) (hp : r.status = .pending) (o : Outcome) :
    (r.apply o).Shaped := by
  obtain ⟨hc, hch, he⟩ := hr.of_pending hp
  cases o with
  | done chain confidence => exact Or.inr (Or.inl ⟨rfl, rfl, rfl, he⟩)
  | failed error => exact Or.inr (Or.inr ⟨rfl, hc, hch, rfl⟩)

theorem Settles.refl (r : Record) : r.Settles r := Or.inl rfl

theorem Settles.trans {r r' r'' : Record} (h : r.Settles r') (h' : r'.Settles r'') :
    r.Settles r'' := by
  rcases h with rfl | ⟨hp, o, rfl⟩
  · exact h'
  · rcases h' with rfl | ⟨hp', -⟩
    · exact Or.inr ⟨hp, o, rfl⟩
    · exact absurd (by simpa using hp') (outcome_status_ne_pending o)

theorem Settles.id_eq {r r' : Record} (h : r.Settles r') : r'.id = r.id := by
  rcases h with rfl | ⟨-, o, rfl⟩
  · rfl
  · exact apply_id r o

/-- A record that is done or failed never changes again. -/
theorem Settles.eq_of_terminal {r r' : Record} (h : r.Settles r') (ht : r.status ≠ .pending) :
    r' = r := by
  rcases h with rfl | ⟨hp, -⟩
  · rfl
  · exact absurd hp ht

end Record

theorem Status.isTerminal_eq_false {s : Status} : s.isTerminal = false ↔ s = .pending := by
  cases s <;> simp [Status.isTerminal]

open Record

theorem forall₂_settles_refl (rs : List Record) : List.Forall₂ Settles rs rs :=
  List.forall₂_same.mpr fun r _ => Settles.refl r

theorem forall₂_settles_trans {rs rs' rs'' : List Record} (h : List.Forall₂ Settles rs rs')
    (h' : List.Forall₂ Settles rs' rs'') : List.Forall₂ Settles rs rs'' := by
  induction h generalizing rs'' with
  | nil => exact h'
  | cons hr _ ih =>
    cases h' with
    | cons hr' rest => exact .cons (hr.trans hr') (ih rest)

/-- Applying an outcome to one pending record lets the list settle. -/
theorem forall₂_settles_set {rs : List Record} {i : Nat} {r : Record} (hi : rs[i]? = some r)
    (hp : r.status = .pending) (o : Outcome) :
    List.Forall₂ Settles rs (rs.set i (r.apply o)) := by
  induction rs generalizing i with
  | nil => simp at hi
  | cons x xs ih =>
    cases i with
    | zero =>
      obtain rfl : x = r := by simpa using hi
      exact .cons (Or.inr ⟨hp, o, rfl⟩) (forall₂_settles_refl xs)
    | succ i => exact .cons (Settles.refl x) (ih (by simpa using hi))

theorem forall₂_settles_ids {rs rs' : List Record} (h : List.Forall₂ Settles rs rs') :
    rs'.map (·.id) = rs.map (·.id) := by
  induction h with
  | nil => rfl
  | cons hr _ ih => simp [hr.id_eq, ih]

namespace MemoryStore

theorem lookup_replace (tasks : List (String × List Record)) (task task' : String)
    (rs : List Record) :
    (tasks.map fun e => if e.1 == task then (task, rs) else e).lookup task' =
      if task' = task then (tasks.lookup task).map fun _ => rs else tasks.lookup task' := by
  induction tasks with
  | nil => by_cases h : task' = task <;> simp [h]
  | cons e es ih =>
    obtain ⟨k, v⟩ := e
    -- the head entry is the task being replaced, or it is kept
    by_cases hk : k = task <;> grind

@[simp] theorem get_replace (s : MemoryStore) (task task' : String) (rs : List Record) :
    (s.replace task rs).get task' =
      if task' = task then (s.get task).map fun _ => rs else s.get task' :=
  lookup_replace s.tasks task task' rs

theorem get_append (s : MemoryStore) {task : String} (h : s.get task = none) (task' : String)
    (rs : List Record) :
    (⟨s.tasks ++ [(task, rs)]⟩ : MemoryStore).get task' =
      if task' = task then some rs else s.get task' := by
  simp only [get] at h ⊢
  by_cases ht : task' = task <;> grind

theorem mem_of_get {s : MemoryStore} {task : String} {rs : List Record}
    (h : s.get task = some rs) : (task, rs) ∈ s.tasks := by
  obtain ⟨l₁, l₂, hl, -⟩ := List.lookup_eq_some_iff.mp h
  simp [hl]

/-- A create that succeeds appends the task with one pending record per id. -/
theorem create_eq_ok {s s' : MemoryStore} {task : String} {ids : List String}
    {rs : List Record} (h : s.create task ids = .ok (s', rs)) :
    s.get task = none ∧ rs = ids.map Record.pending ∧ s' = ⟨s.tasks ++ [(task, rs)]⟩ := by
  unfold create at h
  split at h
  · cases h
  · rename_i hn
    simp only [Except.ok.injEq, Prod.mk.injEq] at h
    obtain ⟨rfl, rfl⟩ := h
    exact ⟨by simpa using hn, rfl, rfl⟩

/-- A complete that succeeds found the record pending and applied the outcome to it. -/
theorem complete_eq_ok {s s' : MemoryStore} {task : String} {index : Nat} {o : Outcome}
    (h : s.complete task index o = .ok s') :
    ∃ rs r, s.get task = some rs ∧ rs[index]? = some r ∧ r.status = .pending ∧
      s' = s.replace task (rs.set index (r.apply o)) := by
  unfold complete at h
  split at h
  · cases h
  · rename_i rs hrs
    split at h
    · cases h
    · rename_i r hr
      split at h
      · cases h
      · rename_i ht
        cases h
        exact ⟨rs, r, hrs, hr, by simpa [Status.isTerminal_eq_false] using ht, rfl⟩

/-- Every stored record has one of the three shapes. -/
def Shaped (s : MemoryStore) : Prop := ∀ e ∈ s.tasks, ∀ r ∈ e.2, r.Shaped

theorem shaped_replace {s : MemoryStore} (hs : s.Shaped) {task : String} {rs : List Record}
    (hrs : ∀ r ∈ rs, r.Shaped) : (s.replace task rs).Shaped := by
  intro e he r hr
  obtain ⟨e₀, he₀, rfl⟩ := List.mem_map.mp he
  split at hr
  · exact hrs r hr
  · exact hs e₀ he₀ r hr

theorem perform_shaped (s : MemoryStore) (c : Call) (hs : s.Shaped) :
    (s.perform c).1.Shaped := by
  cases c with
  | create task ids =>
    simp only [perform]
    split
    · rename_i s' rs h
      obtain ⟨-, rfl, rfl⟩ := create_eq_ok h
      intro e he r hr
      rcases List.mem_append.mp he with he | he
      · exact hs e he r hr
      · obtain rfl : e = (task, ids.map Record.pending) := by simpa using he
        obtain ⟨id, -, rfl⟩ := List.mem_map.mp hr
        exact pending_shaped id
    · exact hs
  | get task => exact hs
  | complete task index o =>
    simp only [perform]
    split
    · rename_i s' h
      obtain ⟨rs, r, hrs, hr, hp, rfl⟩ := complete_eq_ok h
      have old := hs _ (mem_of_get hrs)
      apply shaped_replace hs
      intro x hx
      rcases List.mem_or_eq_of_mem_set hx with hx | rfl
      · exact old x hx
      · exact (old r (List.mem_of_getElem? hr)).apply hp o
    · exact hs

theorem perform_settles (s : MemoryStore) (c : Call) {task : String} {rs : List Record}
    (h : s.get task = some rs) :
    ∃ rs', (s.perform c).1.get task = some rs' ∧ List.Forall₂ Settles rs rs' := by
  cases c with
  | create t ids =>
    simp only [perform]
    split
    · rename_i s' rs₁ hc
      obtain ⟨hn, -, rfl⟩ := create_eq_ok hc
      have ht : task ≠ t := by
        rintro rfl
        simp [h] at hn
      exact ⟨rs, by rw [get_append s hn, if_neg ht, h], forall₂_settles_refl rs⟩
    · exact ⟨rs, h, forall₂_settles_refl rs⟩
  | get t => exact ⟨rs, h, forall₂_settles_refl rs⟩
  | complete t index o =>
    simp only [perform]
    split
    · rename_i s' hc
      obtain ⟨rs₁, r, hrs, hr, hp, rfl⟩ := complete_eq_ok hc
      by_cases ht : task = t
      · subst ht
        obtain rfl : rs₁ = rs := Option.some.inj (hrs.symm.trans h)
        exact ⟨_, by simp [h], forall₂_settles_set hr hp o⟩
      · exact ⟨rs, by simp [ht, h], forall₂_settles_refl rs⟩
    · exact ⟨rs, h, forall₂_settles_refl rs⟩

theorem run_shaped (s : MemoryStore) (calls : List Call) (hs : s.Shaped) :
    (s.run calls).Shaped := by
  induction calls generalizing s with
  | nil => exact hs
  | cons c calls ih => exact ih _ (perform_shaped s c hs)

theorem run_settles (s : MemoryStore) (calls : List Call) {task : String} {rs : List Record}
    (h : s.get task = some rs) :
    ∃ rs', (s.run calls).get task = some rs' ∧ List.Forall₂ Settles rs rs' := by
  induction calls generalizing s rs with
  | nil => exact ⟨rs, h, forall₂_settles_refl rs⟩
  | cons c calls ih =>
    obtain ⟨rs₁, h₁, step⟩ := perform_settles s c h
    obtain ⟨rs', h', rest⟩ := ih _ h₁
    exact ⟨rs', h', forall₂_settles_trans step rest⟩

end MemoryStore

/-- After any calls on the store held in memory, every stored record has one of the three
shapes; a create that succeeds holds one pending record per id, in order and with repeats; and
from then on a task keeps its ids, and each of its records changes at most once, from pending to
an outcome applied to it (whose status it takes), and never again. -/
theorem records_settle_once (before after : List Call) :
    let s := MemoryStore.empty.run before
    (∀ e ∈ s.tasks, ∀ r ∈ e.2, r.Shaped) ∧
    (∀ task ids s' rs, s.create task ids = .ok (s', rs) →
      rs = ids.map Record.pending ∧ s'.get task = some rs) ∧
    ∀ task rs, s.get task = some rs →
      ∃ rs', (s.run after).get task = some rs' ∧ rs'.map (·.id) = rs.map (·.id) ∧
        List.Forall₂ Record.Settles rs rs' := by
  intro s
  refine ⟨MemoryStore.run_shaped _ before (by simp [MemoryStore.Shaped, MemoryStore.empty]),
    fun task ids s' rs h => ?_, fun task rs h => ?_⟩
  · obtain ⟨hn, rfl, rfl⟩ := MemoryStore.create_eq_ok h
    exact ⟨rfl, by simp [MemoryStore.get_append s hn]⟩
  · obtain ⟨rs', h', settles⟩ := MemoryStore.run_settles s after h
    exact ⟨rs', h', forall₂_settles_ids settles, settles⟩

end AdvisoryTrace
