import AdvisoryTrace.Proofs.SettleOnce

/-!
# What the store held in memory checks, and what it changes

The store held in memory checks a completion in a fixed order: the task, then the position,
then the status of the record there. It applies the outcome only when all three pass, and a
create only to a task id it does not know. Between the checks and the one write nothing else
happens, so a refused call leaves the store as it was, and a call that goes through changes one
place: the record it names, or the task it adds.

* `MemoryStore.complete_eq_error_iff`: the refusal a completion meets, as the store's contents
  explain it (`MemoryStore.Refuses`);
* `MemoryStore.complete_isOk_iff`: a completion goes through exactly when its record is pending;
* `MemoryStore.complete_frame`, `MemoryStore.create_frame`: what a call that goes through
  changes, and that nothing else changes;
* `MemoryStore.perform_error`: a refused call leaves the whole store as it was;
* `MemoryStore.calls_checked_then_local`: the five together.
-/

namespace AdvisoryTrace

namespace MemoryStore

/-- Why a completion of record `i` of task `t` is refused, in the order the store checks: the
task is unknown; else it has no record at the position; else the record there is done or
failed, with that status. The store never refuses a completion as a backend. -/
def Refuses (s : MemoryStore) (t : String) (i : Nat) : StoreError → Prop
  | .unknownTask t' => t' = t ∧ s.get t = none
  | .unknownRecord t' i' => t' = t ∧ i' = i ∧ ∃ rs, s.get t = some rs ∧ rs.length ≤ i
  | .alreadyTerminal t' i' st =>
    t' = t ∧ i' = i ∧ st ≠ .pending ∧ ∃ rs r, s.get t = some rs ∧ rs[i]? = some r ∧ r.status = st
  | .backend _ => False

/-- A completion that may go ahead: the task is known and its record at the position is
pending. -/
def Completable (s : MemoryStore) (t : String) (i : Nat) : Prop :=
  ∃ rs r, s.get t = some rs ∧ rs[i]? = some r ∧ r.status = .pending

variable {s : MemoryStore} {t : String} {i : Nat} {o : Outcome}

/-- A completion is refused exactly as the store's contents explain. -/
theorem complete_eq_error_iff {e : StoreError} :
    s.complete t i o = .error e ↔ s.Refuses t i e := by
  unfold complete
  cases hget : s.get t with
  | none => cases e <;> simp [Refuses, hget, eq_comm]
  | some rs =>
    cases hr : rs[i]? with
    | none =>
      have hlen : rs.length ≤ i := List.getElem?_eq_none_iff.mp hr
      cases e <;> simp [Refuses, hget, hlen, eq_comm]
    | some r =>
      have hlt : ¬ rs.length ≤ i := fun h => by simp [List.getElem?_eq_none_iff.mpr h] at hr
      cases hs : r.status <;> cases e <;> simp [Refuses, hget, hr, hs, hlt, Status.isTerminal] <;>
        grind

/-- A completion goes through exactly when the task is known and its record at the position is
pending. -/
theorem complete_isOk_iff : (∃ s', s.complete t i o = .ok s') ↔ s.Completable t i := by
  constructor
  · rintro ⟨s', h⟩
    obtain ⟨rs, r, hrs, hr, hp, -⟩ := complete_eq_ok h
    exact ⟨rs, r, hrs, hr, hp⟩
  · rintro ⟨rs, r, hrs, hr, hp⟩
    exact ⟨s.replace t (rs.set i (r.apply o)), by simp [complete, hrs, hr, hp, Status.isTerminal]⟩

/-- A completion that goes through applies the outcome to the pending record it names; every
other record of the task, and every other task, is as it was. -/
theorem complete_frame {s' : MemoryStore} (h : s.complete t i o = .ok s') :
    ∃ rs r, s.get t = some rs ∧ rs[i]? = some r ∧ r.status = .pending ∧
      ∃ rs', s'.get t = some rs' ∧ rs'[i]? = some (r.apply o) ∧
        (∀ j, j ≠ i → rs'[j]? = rs[j]?) ∧ ∀ t', t' ≠ t → s'.get t' = s.get t' := by
  obtain ⟨rs, r, hrs, hr, hp, rfl⟩ := complete_eq_ok h
  have hlt : i < rs.length := (List.getElem?_eq_some_iff.mp hr).1
  refine ⟨rs, r, hrs, hr, hp, rs.set i (r.apply o), by simp [hrs], by simp [hlt],
    fun j hj => ?_, fun t' ht' => by simp [ht']⟩
  rw [List.getElem?_set_ne (Ne.symm hj)]

/-- A create is refused exactly when the task id is known, as a backend refusal naming it. -/
theorem create_eq_error_iff {ids : List String} {e : StoreError} :
    s.create t ids = .error e ↔
      (s.get t).isSome ∧ e = .backend ("task " ++ t ++ " already exists") := by
  unfold create
  split
  · rename_i hknown
    simp [hknown, eq_comm]
  · rename_i hnew
    simp [hnew]

/-- A create that goes through adds the task with one pending record per id, and every other
task is as it was. -/
theorem create_frame {ids : List String} {s' : MemoryStore} {rs : List Record}
    (h : s.create t ids = .ok (s', rs)) :
    s.get t = none ∧ rs = ids.map Record.pending ∧ s'.get t = some rs ∧
      ∀ t', t' ≠ t → s'.get t' = s.get t' := by
  obtain ⟨hn, rfl, rfl⟩ := create_eq_ok h
  exact ⟨hn, rfl, by simp [get_append s hn], fun t' ht' => by simp [get_append s hn, ht']⟩

/-- A refused call leaves the whole store as it was. -/
theorem perform_error {c : Call} {e : StoreError} (h : (s.perform c).2 = .error e) :
    (s.perform c).1 = s := by
  cases c with
  | create t ids =>
    simp only [perform] at h ⊢
    split
    · rename_i hc
      rw [hc] at h
      cases h
    · rfl
  | get t => cases h
  | complete t i o =>
    simp only [perform] at h ⊢
    split
    · rename_i hc
      rw [hc] at h
      cases h
    · rfl

/-- For every state of the store held in memory: a completion is refused as unknown task,
unknown record or already terminal, checked in that order, and goes through exactly when its
record is pending; a create fails exactly when its task id is known; a refused call leaves the
whole store as it was; a completion that goes through changes only the record it names, and a
create only adds its task. -/
theorem calls_checked_then_local (s : MemoryStore) :
    (∀ t i o e, s.complete t i o = .error e ↔ s.Refuses t i e) ∧
    (∀ t i o, (∃ s', s.complete t i o = .ok s') ↔ s.Completable t i) ∧
    (∀ t ids, (∃ e, s.create t ids = .error e) ↔ (s.get t).isSome) ∧
    (∀ c e, (s.perform c).2 = .error e → (s.perform c).1 = s) ∧
    (∀ t i o s', s.complete t i o = .ok s' →
      ∃ rs r, s.get t = some rs ∧ rs[i]? = some r ∧ r.status = .pending ∧
        ∃ rs', s'.get t = some rs' ∧ rs'[i]? = some (r.apply o) ∧
          (∀ j, j ≠ i → rs'[j]? = rs[j]?) ∧ ∀ t', t' ≠ t → s'.get t' = s.get t') ∧
    (∀ t ids s' rs, s.create t ids = .ok (s', rs) →
      rs = ids.map Record.pending ∧ s'.get t = some rs ∧ ∀ t', t' ≠ t → s'.get t' = s.get t') := by
  refine ⟨fun _ _ _ _ => complete_eq_error_iff, fun _ _ _ => complete_isOk_iff,
    fun t ids => ⟨fun ⟨_, h⟩ => (create_eq_error_iff.mp h).1, fun hk => ?_⟩,
    fun _ _ => perform_error, fun _ _ _ _ => complete_frame, fun _ _ _ _ h => (create_frame h).2⟩
  exact ⟨_, create_eq_error_iff.mpr ⟨hk, rfl⟩⟩

end MemoryStore

end AdvisoryTrace
