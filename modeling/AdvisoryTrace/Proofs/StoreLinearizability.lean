import Mathlib
import AdvisoryTrace.Proofs.StoreHistory

/-!
# Calls served side by side answer as the memory store does

The calls of a session take effect in an order: a create when it writes its task row, a
complete when it updates a row or finds none to update, a get when it reads its records (or finds
no task row), and a refused create when its task row is refused. The invariant `Session.Tracks`
says what holds of a session and the order of the calls that have taken effect:

* the tables mirror the memory store after the order's calls, except for the tasks whose record
  rows a create is about to insert (`Hides`);
* the order is sequential and explains the history;
* every call in flight has settled what its phase says (`Running.Settled`): a call not yet in
  the order has run nothing that shows, and a call in the order has its reply there, with what
  its remaining statements read already in the tables.

Each step keeps it, for some longer order: `Session.Tracks.invoke` and
`Session.Tracks.advance`, one lemma per phase. What another call's statement can do to a call's
view of the tables is said once, for each kind of statement (`Running.Settled.place`, `addTask`,
`addRows`, `update`); the callers' promise is what keeps those statements off the tasks that
matter.
-/

namespace AdvisoryTrace

open Database

theorem Call.Clashes.symm {c d : Call} (h : c.Clashes d) : d.Clashes c := ⟨h.1.symm, Ne.symm h.2⟩

theorem Call.not_clashes_self (c : Call) : ¬ c.Clashes c := fun h => h.2 rfl

/-- The tasks whose create has written the task row and not yet the record rows. -/
def Hides (running : List Running) (t : String) : Prop :=
  ∃ q ∈ running, ∃ ids, q.phase = .insert t ids

/-- What a call in flight has settled. A call not yet in the order has run nothing that shows:
its first statement is still to run, or it is a get that has seen its task row. A call in the
order has its reply there, and what its remaining statements read is in the tables already: a
create's records are in the memory store, a refused completion's reason is in the tables. -/
def Running.Settled (db : Database) (m : MemoryStore) (lin : List (Nat × Call × Reply))
    (q : Running) : Prop :=
  match q.phase with
  | .start c => q.call = c ∧ q.id ∉ lin.map (·.1)
  | .read t => q.call = .get t ∧ q.id ∉ lin.map (·.1) ∧ t ∈ db.tasks
  | .insert t ids => q.call = .create t ids ∧
      (q.id, q.call, .ok (.created (ids.map Record.pending))) ∈ lin ∧
      m.get t = some (ids.map Record.pending)
  | .lookup t i => ∃ o e, q.call = .complete t i o ∧ (q.id, q.call, .error e) ∈ lin ∧
      db.Explains t i e
  | .probe t i => ∃ o e, q.call = .complete t i o ∧ (q.id, q.call, .error e) ∈ lin ∧
      db.Explains t i e ∧ ∀ st, e ≠ .alreadyTerminal t i st

/-- The invariant of a session and of the order of the calls that have taken effect: the tables
mirror the memory store after the order, hiding the tasks being inserted; the order is
sequential and explains the history; every call in flight has settled what its phase says; and
the numbers of calls and the callers' promise are kept. -/
structure Session.Tracks (s : Session) (lin : List (Nat × Call × Reply)) : Prop where
  mirrors : Mirrors s.db (storeAfter lin) (Hides s.running)
  sequential : Sequential lin
  linearizes : Linearizes s.history lin
  settled : ∀ q ∈ s.running, q.Settled s.db (storeAfter lin) lin
  invoked : ∀ q ∈ s.running, Event.invoke q.id q.call ∈ s.history
  fresh : ∀ i c, Event.invoke i c ∈ s.history → i < s.next
  ids : (s.running.map (·.id)).Nodup
  free : ∀ q ∈ s.running, ∀ q' ∈ s.running, ¬ q.call.Clashes q'.call
  inserts : ∀ q ∈ s.running, ∀ q' ∈ s.running, ∀ t ids ids', q.phase = .insert t ids →
    q'.phase = .insert t ids' → q = q'

namespace Database

/-- The update changes no row's task or position, so the row found at a position is the one
found before, updated. -/
theorem rowAt_update (db : Database) (t : String) (p : Int) (o : Outcome) (u : String) (p' : Int) :
    (db.update t p o).1.rowAt u p' =
      (db.rowAt u p').map fun q => if isOpen t p q then q.overwrite o else q := by
  simp only [update, rowAt, List.find?_map]
  congr 2
  funext q
  simp only [Function.comp_apply]
  split <;> simp [Row.isAt]

theorem rowAt_addRows (db : Database) {u : String} {new : List Row} (hnew : ∀ q ∈ new, q.task ≠ u)
    (p : Int) : (⟨db.tasks, db.rows ++ new⟩ : Database).rowAt u p = db.rowAt u p := by
  have hnone : new.find? (Row.isAt u p) = none :=
    List.find?_eq_none.mpr fun q hq => by simp [Row.isAt, hnew q hq]
  simp only [rowAt, List.find?_append, hnone, Option.or_none]

namespace Explains

variable {db : Database} {u : String} {j : Nat} {e : StoreError}

/-- The conditional update keeps the reason for a refusal: it fills only pending rows, and the
reason names a terminal row or no row at all. -/
theorem update (h : db.Explains u j e) (t : String) (p : Int) (o : Outcome) :
    (db.update t p o).1.Explains u j e := by
  cases e with
  | alreadyTerminal u' j' st =>
    obtain ⟨rfl, rfl, hst, q, hq, rfl⟩ := h
    have hclosed : isOpen t p q = false := by
      rw [isOpen, Bool.and_eq_false_iff]
      exact Or.inr (Bool.eq_false_iff.mpr fun hb => hst (Status.beq_eq_true_iff.mp hb))
    refine ⟨rfl, rfl, hst, q, ?_, rfl⟩
    rw [rowAt_update, hq, Option.map_some, hclosed, if_neg Bool.false_ne_true]
  | unknownRecord u' j' =>
    obtain ⟨rfl, rfl, hq, hm⟩ := h
    exact ⟨rfl, rfl, by rw [rowAt_update, hq]; rfl, hm⟩
  | unknownTask u' =>
    obtain ⟨rfl, hq, hm⟩ := h
    exact ⟨rfl, by rw [rowAt_update, hq]; rfl, hm⟩
  | backend _ => exact h.elim

/-- A task row of another task keeps the reason for a refusal. -/
theorem addTask (h : db.Explains u j e) {t : String} (ht : t ≠ u) :
    (⟨db.tasks ++ [t], db.rows⟩ : Database).Explains u j e := by
  have hmem : u ∈ db.tasks ++ [t] ↔ u ∈ db.tasks := by
    simp [List.mem_append, Ne.symm ht]
  cases e with
  | alreadyTerminal => exact h
  | unknownRecord => exact ⟨h.1, h.2.1, h.2.2.1, hmem.mpr h.2.2.2⟩
  | unknownTask => exact ⟨h.1, h.2.1, mt hmem.mp h.2.2⟩
  | backend _ => exact h.elim

/-- Rows of other tasks keep the reason for a refusal. -/
theorem addRows (h : db.Explains u j e) {new : List Row} (hnew : ∀ q ∈ new, q.task ≠ u) :
    (⟨db.tasks, db.rows ++ new⟩ : Database).Explains u j e := by
  have hrow := rowAt_addRows db hnew (signed j)
  cases e with
  | alreadyTerminal => exact ⟨h.1, h.2.1, h.2.2.1, hrow ▸ h.2.2.2⟩
  | unknownRecord => exact ⟨h.1, h.2.1, hrow ▸ h.2.2.1, h.2.2.2⟩
  | unknownTask => exact ⟨h.1, hrow ▸ h.2.1, h.2.2⟩
  | backend _ => exact h.elim

end Explains

end Database

/-- A task whose create has no records shows as soon as its task row is written. -/
theorem Mirrors.unhide_nil {db : Database} {m : MemoryStore} {hidden : String → Prop}
    (h : Mirrors db m hidden) {t : String} (hg : m.get t = some []) :
    Mirrors db m fun u => hidden u ∧ u ≠ t where
  tasks := h.tasks
  rows u hu := by
    by_cases hut : u = t
    · subst hut
      rw [hg]
      by_cases hh : hidden u
      · exact h.unseen u hh
      · rw [h.rows u hh, hg]
    · exact h.rows u fun hh => hu ⟨hh, hut⟩
  unseen u hu := h.unseen u hu.1
  keys := h.keys
  short := h.short
  shaped := h.shaped

namespace Running.Settled

variable {db : Database} {m : MemoryStore} {lin : List (Nat × Call × Reply)} {q : Running}

theorem not_mem_concat {i : Nat} (hi : i ∉ lin.map (·.1)) {x : Nat × Call × Reply} (hx : x.1 ≠ i) :
    i ∉ (lin ++ [x]).map (·.1) := by
  rw [List.map_append, List.mem_append, List.map_singleton, List.mem_singleton]
  exact fun h => h.elim hi fun h => hx h.symm

/-- Another call placed in the order, with the tables and the memory store as they were. -/
theorem place (h : q.Settled db m lin) {x : Nat × Call × Reply} (hx : x.1 ≠ q.id) :
    q.Settled db m (lin ++ [x]) := by
  unfold Running.Settled at h ⊢
  split at h
  · exact ⟨h.1, not_mem_concat h.2 hx⟩
  · exact ⟨h.1, not_mem_concat h.2.1 hx, h.2.2⟩
  · exact ⟨h.1, List.mem_append_left _ h.2.1, h.2.2⟩
  · obtain ⟨o, e, hc, hin, he⟩ := h
    exact ⟨o, e, hc, List.mem_append_left _ hin, he⟩
  · obtain ⟨o, e, hc, hin, he, hne⟩ := h
    exact ⟨o, e, hc, List.mem_append_left _ hin, he, hne⟩

/-- A create's task row, and its records in the memory store, seen by a call that does not clash
with it. -/
theorem addTask (h : q.Settled db m lin) {t : String} {ids : List String} (hn : m.get t = none)
    (hfree : ¬ q.call.Clashes (.create t ids)) {x : Nat × Call × Reply} (hx : x.1 ≠ q.id) :
    q.Settled ⟨db.tasks ++ [t], db.rows⟩ ⟨m.tasks ++ [(t, ids.map Record.pending)]⟩
      (lin ++ [x]) := by
  unfold Running.Settled at h ⊢
  split at h
  · exact ⟨h.1, not_mem_concat h.2 hx⟩
  · exact ⟨h.1, not_mem_concat h.2.1 hx, List.mem_append_left _ h.2.2⟩
  · rename_i u ids' _
    obtain ⟨hc, hin, hg⟩ := h
    have hne : u ≠ t := by
      rintro rfl
      simp [hg] at hn
    exact ⟨hc, List.mem_append_left _ hin, by rw [MemoryStore.get_append m hn, if_neg hne, hg]⟩
  · rename_i u i _
    obtain ⟨o, e, hc, hin, he⟩ := h
    have hne : t ≠ u := fun ht => hfree ⟨by rw [hc, ht]; rfl, by rw [hc]; simp [Call.isCreate]⟩
    exact ⟨o, e, hc, List.mem_append_left _ hin, he.addTask hne⟩
  · rename_i u i _
    obtain ⟨o, e, hc, hin, he, hnt⟩ := h
    have hne : t ≠ u := fun ht => hfree ⟨by rw [hc, ht]; rfl, by rw [hc]; simp [Call.isCreate]⟩
    exact ⟨o, e, hc, List.mem_append_left _ hin, he.addTask hne, hnt⟩

/-- A create's record rows, seen by a call that does not clash with it. -/
theorem addRows (h : q.Settled db m lin) {t : String} {ids : List String}
    (hfree : ¬ q.call.Clashes (.create t ids)) :
    q.Settled ⟨db.tasks, db.rows ++ pendingRows t ids⟩ m lin := by
  have hnew : ∀ u, q.call.task = u → ¬ q.call.isCreate → ∀ r ∈ pendingRows t ids, r.task ≠ u := by
    intro u hu hk r hr hru
    have hrt : r.task = t := task_of_mem_rowsFrom ((pendingRows_eq t ids) ▸ hr)
    exact hfree ⟨by rw [hu, ← hru, hrt]; rfl, by simpa [Call.isCreate] using hk⟩
  unfold Running.Settled at h ⊢
  split at h
  · exact h
  · exact h
  · exact h
  · rename_i u i _
    obtain ⟨o, e, hc, hin, he⟩ := h
    exact ⟨o, e, hc, hin, he.addRows (hnew u (by rw [hc]; rfl) (by rw [hc]; simp [Call.isCreate]))⟩
  · rename_i u i _
    obtain ⟨o, e, hc, hin, he, hnt⟩ := h
    exact ⟨o, e, hc, hin, he.addRows (hnew u (by rw [hc]; rfl) (by rw [hc]; simp [Call.isCreate])), hnt⟩

/-- A completion's update, and its record replaced in the memory store, seen by a call that does
not clash with it. -/
theorem update (h : q.Settled db m lin) {t : String} {i : Nat} {o : Outcome} {rs : List Record}
    (hfree : ¬ q.call.Clashes (.complete t i o)) {x : Nat × Call × Reply} (hx : x.1 ≠ q.id) :
    q.Settled (db.update t (signed i) o).1 (m.replace t rs) (lin ++ [x]) := by
  unfold Running.Settled at h ⊢
  split at h
  · exact ⟨h.1, not_mem_concat h.2 hx⟩
  · exact ⟨h.1, not_mem_concat h.2.1 hx, h.2.2⟩
  · rename_i u ids _
    obtain ⟨hc, hin, hg⟩ := h
    have hne : u ≠ t := fun hut => hfree ⟨by rw [hc, hut]; rfl, by rw [hc]; simp [Call.isCreate]⟩
    exact ⟨hc, List.mem_append_left _ hin, by rw [MemoryStore.get_replace, if_neg hne, hg]⟩
  · obtain ⟨o', e, hc, hin, he⟩ := h
    exact ⟨o', e, hc, List.mem_append_left _ hin, he.update t _ o⟩
  · obtain ⟨o', e, hc, hin, he, hnt⟩ := h
    exact ⟨o', e, hc, List.mem_append_left _ hin, he.update t _ o, hnt⟩

end Running.Settled

section Running

variable {qs : List Running} {r : Running}

/-- The calls in flight after one of them moves on: that one in its new phase, and the others. -/
theorem mem_moveOn (hids : (qs.map (·.id)).Nodup) (hr : r ∈ qs) {p : Phase} {q : Running} :
    q ∈ qs.map (fun q => if q.id = r.id then { q with phase := p } else q) ↔
      q = { r with phase := p } ∨ q ∈ qs ∧ q.id ≠ r.id := by
  rw [List.mem_map]
  constructor
  · rintro ⟨q₀, hq₀, rfl⟩
    by_cases hid : q₀.id = r.id
    · obtain rfl := List.inj_on_of_nodup_map hids hq₀ hr hid
      exact Or.inl (by simp)
    · rw [if_neg hid]
      exact Or.inr ⟨hq₀, hid⟩
  · rintro (rfl | ⟨hq, hid⟩)
    · exact ⟨r, hr, by simp⟩
    · exact ⟨q, hq, by simp [hid]⟩

theorem mem_filter_ne {q : Running} : q ∈ qs.filter (·.id != r.id) ↔ q ∈ qs ∧ q.id ≠ r.id := by
  simp [List.mem_filter]

/-- Moving on keeps the hidden tasks, and adds the one a create's new phase inserts. -/
theorem hides_moveOn (hids : (qs.map (·.id)).Nodup) (hr : r ∈ qs)
    (hold : ∀ t ids, r.phase ≠ .insert t ids) (p : Phase) (u : String) :
    Hides (qs.map fun q => if q.id = r.id then { q with phase := p } else q) u ↔
      Hides qs u ∨ ∃ ids, p = .insert u ids := by
  unfold Hides
  constructor
  · rintro ⟨q, hq, ids, hp⟩
    rcases (mem_moveOn hids hr).mp hq with rfl | ⟨hq, -⟩
    · exact Or.inr ⟨ids, hp⟩
    · exact Or.inl ⟨q, hq, ids, hp⟩
  · rintro (⟨q, hq, ids, hp⟩ | ⟨ids, hp⟩)
    · have hqr : q.id ≠ r.id := fun hid => by
        obtain rfl := List.inj_on_of_nodup_map hids hq hr hid
        exact hold u ids hp
      exact ⟨q, (mem_moveOn hids hr).mpr (Or.inr ⟨hq, hqr⟩), ids, hp⟩
    · exact ⟨{ r with phase := p }, (mem_moveOn hids hr).mpr (Or.inl rfl), ids, hp⟩

/-- A call that replies leaves the hidden tasks as they were, but for the one it inserted. -/
theorem hides_filter (hids : (qs.map (·.id)).Nodup) (hr : r ∈ qs)
    (hins : ∀ q ∈ qs, ∀ q' ∈ qs, ∀ t ids ids', q.phase = .insert t ids →
      q'.phase = .insert t ids' → q = q') (u : String) :
    Hides (qs.filter (·.id != r.id)) u ↔ Hides qs u ∧ ∀ ids, r.phase ≠ .insert u ids := by
  unfold Hides
  simp only [mem_filter_ne]
  constructor
  · rintro ⟨q, ⟨hq, hid⟩, ids, hp⟩
    refine ⟨⟨q, hq, ids, hp⟩, fun ids' hr' => hid ?_⟩
    rw [hins q hq r hr u ids ids' hp hr']
  · rintro ⟨⟨q, hq, ids, hp⟩, hnot⟩
    refine ⟨q, ⟨hq, fun hid => ?_⟩, ids, hp⟩
    obtain rfl := List.inj_on_of_nodup_map hids hq hr hid
    exact hnot ids hp

end Running

namespace Session

variable {s : Session} {lin : List (Nat × Call × Reply)} {r : Running}

theorem advance_of_next {db : Database} {p : Phase} (h : r.phase.step s.db = (db, .next p)) :
    s.advance r = { s with
      db, running := s.running.map fun q => if q.id = r.id then { q with phase := p } else q } := by
  simp only [advance, h]

theorem advance_of_reply {db : Database} {a : Reply} (h : r.phase.step s.db = (db, .reply a)) :
    s.advance r = { s with
      db, running := s.running.filter (·.id != r.id), history := s.history ++ [.respond r.id a] } := by
  simp only [advance, h]

namespace Tracks

theorem id_not_mem (hs : s.Tracks lin) {i : Nat} (hi : s.next ≤ i) : i ∉ lin.map (·.1) := by
  intro h
  obtain ⟨e, he, rfl⟩ := List.mem_map.mp h
  have := hs.fresh _ _ (hs.linearizes.invoked e he)
  omega

theorem initial : Session.initial.Tracks [] where
  mirrors := Mirrors.empty.of_hidden_iff fun u => by simp [Hides, Session.initial]
  sequential := rfl
  linearizes := Linearizes.nil
  settled _ h := by cases h
  invoked _ h := by cases h
  fresh _ _ h := by cases h
  ids := .nil
  free _ h := by cases h
  inserts _ h := by cases h

/-- A new call, clashing with no call in flight, keeps the invariant: it has run nothing yet. -/
theorem invoke (hs : s.Tracks lin) {c : Call} (hfree : ∀ q ∈ s.running, ¬ c.Clashes q.call) :
    (s.invoke c).Tracks lin where
  mirrors := hs.mirrors.of_hidden_iff fun u => by
    simp only [Session.invoke, Hides, List.mem_append, List.mem_singleton]
    constructor
    · rintro ⟨q, hq | rfl, ids, hp⟩
      · exact ⟨q, hq, ids, hp⟩
      · cases hp
    · rintro ⟨q, hq, ids, hp⟩
      exact ⟨q, Or.inl hq, ids, hp⟩
  sequential := hs.sequential
  linearizes := hs.linearizes.invoke (hs.id_not_mem le_rfl) c
  settled q hq := by
    rcases List.mem_append.mp hq with hq | hq
    · exact hs.settled q hq
    · rw [List.mem_singleton.mp hq]
      exact ⟨rfl, hs.id_not_mem le_rfl⟩
  invoked q hq := by
    rcases List.mem_append.mp hq with hq | hq
    · exact List.mem_append_left _ (hs.invoked q hq)
    · rw [List.mem_singleton.mp hq]
      exact List.mem_append_right _ (List.mem_singleton_self _)
  fresh i c' h := by
    rcases List.mem_append.mp h with h | h
    · have := hs.fresh i c' h
      simp only [Session.invoke]
      omega
    · obtain ⟨rfl, -⟩ := Event.invoke.inj (List.mem_singleton.mp h)
      simp [Session.invoke]
  ids := by
    rw [Session.invoke, List.map_append, List.nodup_append]
    refine ⟨hs.ids, List.nodup_singleton _, fun i hi j hj hij => ?_⟩
    obtain ⟨q, hq, rfl⟩ := List.mem_map.mp hi
    have hjn : j = s.next := by simpa using hj
    have := hs.fresh _ _ (hs.invoked q hq)
    omega
  free q hq q' hq' := by
    simp only [Session.invoke, List.mem_append, List.mem_singleton] at hq hq'
    rcases hq with hq | rfl <;> rcases hq' with hq' | rfl
    · exact hs.free q hq q' hq'
    · exact fun h => hfree q hq h.symm
    · exact hfree q' hq'
    · exact Call.not_clashes_self c
  inserts q hq q' hq' t ids ids' hp hp' := by
    simp only [Session.invoke, List.mem_append, List.mem_singleton] at hq hq'
    rcases hq with hq | rfl
    · rcases hq' with hq' | rfl
      · exact hs.inserts q hq q' hq' t ids ids' hp hp'
      · cases hp'
    · cases hp

/-- A call that moves on keeps the invariant, given the parts that depend on its statement. -/
theorem moveOn (hs : s.Tracks lin) (hr : r ∈ s.running) {db : Database} {p : Phase}
    {lin' : List (Nat × Call × Reply)} (hold : ∀ t ids, r.phase ≠ .insert t ids)
    (hmirrors : Mirrors db (storeAfter lin') fun u => Hides s.running u ∨ ∃ ids, p = .insert u ids)
    (hseq : Sequential lin') (hlin : Linearizes s.history lin')
    (hself : ({ r with phase := p } : Running).Settled db (storeAfter lin') lin')
    (hothers : ∀ q ∈ s.running, q.id ≠ r.id → q.Settled db (storeAfter lin') lin')
    (hnew : ∀ t ids, p = .insert t ids → ∀ q ∈ s.running, ∀ ids', q.phase ≠ .insert t ids') :
    Session.Tracks { s with
      db, running := s.running.map fun q => if q.id = r.id then { q with phase := p } else q }
      lin' where
  mirrors := hmirrors.of_hidden_iff (hides_moveOn hs.ids hr hold p)
  sequential := hseq
  linearizes := hlin
  settled q hq := by
    rcases (mem_moveOn hs.ids hr).mp hq with rfl | ⟨hq, hid⟩
    · exact hself
    · exact hothers q hq hid
  invoked q hq := by
    rcases (mem_moveOn hs.ids hr).mp hq with rfl | ⟨hq, -⟩
    · exact hs.invoked r hr
    · exact hs.invoked q hq
  fresh := hs.fresh
  ids := by
    rw [List.map_map]
    convert hs.ids using 1
    apply List.map_congr_left
    intro q _
    simp only [Function.comp_apply]
    split <;> rfl
  free q hq q' hq' := by
    have hcall : ∀ x ∈ s.running.map fun q => if q.id = r.id then { q with phase := p } else q,
        ∃ y ∈ s.running, x.call = y.call := fun x hx => by
      rcases (mem_moveOn hs.ids hr).mp hx with rfl | ⟨hx, -⟩
      · exact ⟨r, hr, rfl⟩
      · exact ⟨x, hx, rfl⟩
    obtain ⟨y, hy, hyc⟩ := hcall q hq
    obtain ⟨y', hy', hyc'⟩ := hcall q' hq'
    rw [hyc, hyc']
    exact hs.free y hy y' hy'
  inserts q hq q' hq' t ids ids' hp hp' := by
    rcases (mem_moveOn hs.ids hr).mp hq with rfl | ⟨hq, -⟩ <;>
      rcases (mem_moveOn hs.ids hr).mp hq' with rfl | ⟨hq', -⟩
    · rfl
    · exact absurd hp' (hnew t ids hp q' hq' ids')
    · exact absurd hp (hnew t ids' hp' q hq ids)
    · exact hs.inserts q hq q' hq' t ids ids' hp hp'

/-- A call that replies keeps the invariant, given the parts that depend on its statement. -/
theorem reply (hs : s.Tracks lin) (hr : r ∈ s.running) {db : Database} {a : Reply}
    {lin' : List (Nat × Call × Reply)}
    (hmirrors : Mirrors db (storeAfter lin') fun u =>
      Hides s.running u ∧ ∀ ids, r.phase ≠ .insert u ids)
    (hseq : Sequential lin') (hlin : Linearizes s.history lin') (hin : (r.id, r.call, a) ∈ lin')
    (hothers : ∀ q ∈ s.running, q.id ≠ r.id → q.Settled db (storeAfter lin') lin') :
    Session.Tracks { s with
      db, running := s.running.filter (·.id != r.id), history := s.history ++ [.respond r.id a] }
      lin' where
  mirrors := hmirrors.of_hidden_iff (hides_filter hs.ids hr hs.inserts)
  sequential := hseq
  linearizes := hlin.respond hin
  settled q hq := hothers q (mem_filter_ne.mp hq).1 (mem_filter_ne.mp hq).2
  invoked q hq := List.mem_append_left _ (hs.invoked q (mem_filter_ne.mp hq).1)
  fresh i c h := by
    rcases List.mem_append.mp h with h | h
    · exact hs.fresh i c h
    · simp at h
  ids := hs.ids.sublist (List.filter_sublist.map _)
  free q hq q' hq' := hs.free q (mem_filter_ne.mp hq).1 q' (mem_filter_ne.mp hq').1
  inserts q hq q' hq' := hs.inserts q (mem_filter_ne.mp hq).1 q' (mem_filter_ne.mp hq').1

/-- A call that moves on, neither from nor to an insert, keeps the invariant: the hidden tasks
stay as they were. -/
theorem moveOn_plain (hs : s.Tracks lin) (hr : r ∈ s.running) {db : Database} {p : Phase}
    {lin' : List (Nat × Call × Reply)} (hold : ∀ t ids, r.phase ≠ .insert t ids)
    (hp : ∀ t ids, p ≠ .insert t ids) (hmirrors : Mirrors db (storeAfter lin') (Hides s.running))
    (hseq : Sequential lin') (hlin : Linearizes s.history lin')
    (hself : ({ r with phase := p } : Running).Settled db (storeAfter lin') lin')
    (hothers : ∀ q ∈ s.running, q.id ≠ r.id → q.Settled db (storeAfter lin') lin') :
    Session.Tracks { s with
      db, running := s.running.map fun q => if q.id = r.id then { q with phase := p } else q }
      lin' := by
  have hhidden : ∀ u, (Hides s.running u ∨ ∃ ids, p = .insert u ids) ↔ Hides s.running u :=
    fun u => ⟨fun h => h.elim id fun ⟨ids, h⟩ => absurd h (hp u ids), Or.inl⟩
  exact hs.moveOn hr hold (hmirrors.of_hidden_iff hhidden) hseq hlin hself hothers
    fun t ids h => absurd h (hp t ids)

/-- A call that replies from a phase other than an insert keeps the invariant: the hidden tasks
stay as they were. -/
theorem reply_plain (hs : s.Tracks lin) (hr : r ∈ s.running) (hold : ∀ t ids, r.phase ≠ .insert t ids)
    {db : Database} {a : Reply} {lin' : List (Nat × Call × Reply)}
    (hmirrors : Mirrors db (storeAfter lin') (Hides s.running))
    (hseq : Sequential lin') (hlin : Linearizes s.history lin') (hin : (r.id, r.call, a) ∈ lin')
    (hothers : ∀ q ∈ s.running, q.id ≠ r.id → q.Settled db (storeAfter lin') lin') :
    Session.Tracks { s with
      db, running := s.running.filter (·.id != r.id), history := s.history ++ [.respond r.id a] }
      lin' :=
  hs.reply hr (hmirrors.of_hidden_iff fun u => ⟨And.left, fun h => ⟨h, hold u⟩⟩) hseq hlin hin
    hothers

/-- A statement that only reads the tables and moves its call on, to a phase other than an
insert, keeps the invariant with the same order. -/
theorem readOn (hs : s.Tracks lin) (hr : r ∈ s.running) (hold : ∀ t ids, r.phase ≠ .insert t ids)
    {p : Phase} (hp : ∀ t ids, p ≠ .insert t ids) (hstep : r.phase.step s.db = (s.db, .next p))
    (hself : ({ r with phase := p } : Running).Settled s.db (storeAfter lin) lin) :
    ∃ lin', (s.advance r).Tracks lin' := by
  rw [advance_of_next hstep]
  exact ⟨lin, hs.moveOn_plain hr hold hp hs.mirrors hs.sequential hs.linearizes hself
    fun q hq _ => hs.settled q hq⟩

/-- A statement that only reads the tables and replies with what the order already holds for
its call keeps the invariant with the same order. -/
theorem readReply (hs : s.Tracks lin) (hr : r ∈ s.running) (hold : ∀ t ids, r.phase ≠ .insert t ids)
    {a : Reply} (hstep : r.phase.step s.db = (s.db, .reply a)) (hin : (r.id, r.call, a) ∈ lin) :
    ∃ lin', (s.advance r).Tracks lin' := by
  rw [advance_of_reply hstep]
  exact ⟨lin, hs.reply_plain hr hold hs.mirrors hs.sequential hs.linearizes hin
    fun q hq _ => hs.settled q hq⟩

theorem call_of_insert (hs : s.Tracks lin) {q : Running} (hq : q ∈ s.running) {t : String}
    {ids : List String} (hp : q.phase = .insert t ids) : q.call = .create t ids := by
  have h := hs.settled q hq
  simp only [Running.Settled, hp] at h
  exact h.1

/-- The task of a get or a complete in flight is not hidden: its create has finished. -/
theorem not_hides (hs : s.Tracks lin) (hr : r ∈ s.running) (hk : r.call.isCreate = false) :
    ¬ Hides s.running r.call.task := by
  rintro ⟨q, hq, ids, hp⟩
  have hqc := hs.call_of_insert hq hp
  exact hs.free q hq r hr ⟨by rw [hqc]; rfl, by rw [hqc, hk]; simp [Call.isCreate]⟩

theorem not_hides_of_get_none (hs : s.Tracks lin) {t : String} (hg : (storeAfter lin).get t = none) :
    ¬ Hides s.running t := by
  rintro ⟨q, hq, ids, hp⟩
  have h := hs.settled q hq
  simp only [Running.Settled, hp] at h
  simp [h.2.2] at hg

/-- A call in flight that takes effect and replies at once, leaving the tables and the memory
store as they were. -/
theorem placeReply (hs : s.Tracks lin) (hr : r ∈ s.running) (hnot : r.id ∉ lin.map (·.1))
    (hold : ∀ u ids, r.phase ≠ .insert u ids) {a : Reply}
    (hkeep : ((storeAfter lin).perform r.call).1 = storeAfter lin)
    (ha : ((storeAfter lin).perform r.call).2.mapError StoreError.plain =
      a.mapError StoreError.plain) :
    Session.Tracks { s with
      db := s.db, running := s.running.filter (·.id != r.id),
      history := s.history ++ [.respond r.id a] }
      (lin ++ [(r.id, r.call, a)]) := by
  have hafter : storeAfter (lin ++ [(r.id, r.call, a)]) = storeAfter lin := by
    rw [storeAfter_concat, hkeep]
  refine hs.reply_plain hr hold ?_ (hs.sequential.concat ha)
    (hs.linearizes.place hnot (hs.invoked r hr) a) (List.mem_append_right _ (List.mem_singleton_self _))
    fun q hq hid => ?_
  · rw [hafter]
    exact hs.mirrors
  · rw [hafter]
    exact (hs.settled q hq).place (Ne.symm hid)

/-- A create's first statement: the task row, refused for a known task, and otherwise written;
the create takes effect here. -/
theorem advance_create (hs : s.Tracks lin) (hr : r ∈ s.running) {t : String} {ids : List String}
    (hp : r.phase = .start (.create t ids)) (hv : r.call.Valid) :
    ∃ lin', (s.advance r).Tracks lin' := by
  obtain ⟨hc, hnot⟩ : r.call = .create t ids ∧ r.id ∉ lin.map (·.1) := by
    simpa [Running.Settled, hp] using hs.settled r hr
  obtain ⟨ht, hl⟩ : t ≠ "" ∧ ids.length < 2 ^ 63 := by
    rw [hc] at hv
    exact hv
  have hold : ∀ u ids', r.phase ≠ .insert u ids' := by simp [hp]
  cases hg : (storeAfter lin).get t with
  | some rs =>
    have hstep : r.phase.step s.db = (s.db, .reply (.error (.backend
        ("Database record \x60task:" ++ recordIdText t ++ "\x60 already exists")))) := by
      rw [hp]
      simp [Phase.step, hs.mirrors.createTask_of_known ht (by simp [hg])]
    have hmc : (storeAfter lin).create t ids = .error (.backend ("task " ++ t ++ " already exists")) := by
      simp [MemoryStore.create, hg]
    rw [advance_of_reply hstep]
    exact ⟨_, hs.placeReply hr hnot hold (by rw [hc]; simp [MemoryStore.perform, hmc])
      (by rw [hc]; simp [MemoryStore.perform, hmc]; rfl)⟩
  | none =>
    have hdb := hs.mirrors.createTask_of_new ht hg
    have hmc : (storeAfter lin).create t ids =
        .ok (⟨(storeAfter lin).tasks ++ [(t, ids.map Record.pending)]⟩, ids.map Record.pending) := by
      simp [MemoryStore.create, hg]
    let a : Reply := .ok (.created (ids.map Record.pending))
    have hafter : storeAfter (lin ++ [(r.id, r.call, a)]) =
        ⟨(storeAfter lin).tasks ++ [(t, ids.map Record.pending)]⟩ := by
      rw [storeAfter_concat, hc]
      simp [MemoryStore.perform, hmc]
    have hseq : Sequential (lin ++ [(r.id, r.call, a)]) :=
      hs.sequential.concat (by rw [hc]; simp [MemoryStore.perform, hmc, a])
    have hlin := hs.linearizes.place hnot (hs.invoked r hr) a
    have hothers : ∀ q ∈ s.running, q.id ≠ r.id →
        q.Settled ⟨s.db.tasks ++ [t], s.db.rows⟩ (storeAfter (lin ++ [(r.id, r.call, a)]))
          (lin ++ [(r.id, r.call, a)]) := fun q hq hid => by
      rw [hafter]
      exact (hs.settled q hq).addTask hg (fun h => hs.free q hq r hr (hc ▸ h)) (Ne.symm hid)
    have hmirrors := hs.mirrors.addTask hg hl
    rw [← hafter] at hmirrors
    have hvis := hs.not_hides_of_get_none hg
    by_cases hids : ids = []
    · -- no records: the create replies at once, and the task shows with no rows
      subst hids
      have hstep : r.phase.step s.db = (⟨s.db.tasks ++ [t], s.db.rows⟩, .reply a) := by
        rw [hp]
        simp [Phase.step, hdb, pendingRows, a]
      rw [advance_of_reply hstep]
      refine ⟨_, hs.reply hr ?_ hseq hlin (List.mem_append_right _ (List.mem_singleton_self _))
        hothers⟩
      refine (Mirrors.unhide_nil hmirrors (t := t) ?_).of_hidden_iff fun u => ?_
      · rw [hafter, MemoryStore.get_append _ hg, if_pos rfl]
        rfl
      · constructor
        · rintro ⟨hu, -⟩
          exact ⟨Or.inl hu, fun hut => hvis (hut ▸ hu)⟩
        · rintro ⟨hu | rfl, hne⟩
          · exact ⟨hu, hold u⟩
          · exact absurd rfl hne
    · -- records to come: the create moves on to insert them, its task hidden until then
      have hne : (pendingRows t ids).isEmpty = false := by simpa [pendingRows] using hids
      have hstep : r.phase.step s.db = (⟨s.db.tasks ++ [t], s.db.rows⟩, .next (.insert t ids)) := by
        rw [hp]
        simp [Phase.step, hdb, hne]
      rw [advance_of_next hstep]
      refine ⟨_, hs.moveOn hr hold (hmirrors.of_hidden_iff fun u => ?_) hseq hlin ?_ hothers ?_⟩
      · constructor
        · rintro (hu | ⟨ids', h⟩)
          · exact Or.inl hu
          · exact Or.inr (Phase.insert.inj h).1.symm
        · rintro (hu | rfl)
          · exact Or.inl hu
          · exact Or.inr ⟨ids, rfl⟩
      · show r.call = .create t ids ∧ (r.id, r.call, a) ∈ lin ++ [(r.id, r.call, a)] ∧
          (storeAfter (lin ++ [(r.id, r.call, a)])).get t = some (ids.map Record.pending)
        refine ⟨hc, List.mem_append_right _ (List.mem_singleton_self _), ?_⟩
        rw [hafter, MemoryStore.get_append _ hg, if_pos rfl]
      · rintro u ids' h q hq ids'' hqp
        obtain ⟨rfl, -⟩ := Phase.insert.inj h
        exact hvis ⟨q, hq, ids'', hqp⟩

/-- A create's second statement: its record rows go in, and its task shows. -/
theorem advance_insert (hs : s.Tracks lin) (hr : r ∈ s.running) {t : String} {ids : List String}
    (hp : r.phase = .insert t ids) : ∃ lin', (s.advance r).Tracks lin' := by
  have hset := hs.settled r hr
  simp only [Running.Settled, hp] at hset
  obtain ⟨hc, hin, hg⟩ := hset
  obtain ⟨hins, hmirrors⟩ := hs.mirrors.insert ⟨r, hr, ids, hp⟩ hg
  have hrec : (pendingRows t ids).map Row.record = ids.map Record.pending := by
    rw [pendingRows_eq, records_rowsFrom]
  have hstep : r.phase.step s.db = (⟨s.db.tasks, s.db.rows ++ pendingRows t ids⟩,
      .reply (.ok (.created (ids.map Record.pending)))) := by
    rw [hp]
    simp [Phase.step, hins, hrec]
  rw [advance_of_reply hstep]
  refine ⟨lin, hs.reply hr (hmirrors.of_hidden_iff fun u => ?_) hs.sequential hs.linearizes hin
    fun q hq _ => (hs.settled q hq).addRows fun h => hs.free q hq r hr (hc ▸ h)⟩
  rw [hp]
  constructor
  · rintro ⟨hu, hne⟩
    exact ⟨hu, fun hut => hne ids (by rw [hut])⟩
  · rintro ⟨hu, hne⟩
    exact ⟨hu, fun ids' h => hne (Phase.insert.inj h).1.symm⟩

/-- A get's first statement: the task row. A get of an unknown task takes effect here. -/
theorem advance_get (hs : s.Tracks lin) (hr : r ∈ s.running) {t : String}
    (hp : r.phase = .start (.get t)) (hv : r.call.Valid) : ∃ lin', (s.advance r).Tracks lin' := by
  obtain ⟨hc, hnot⟩ : r.call = .get t ∧ r.id ∉ lin.map (·.1) := by
    simpa [Running.Settled, hp] using hs.settled r hr
  have ht : t ≠ "" := by
    rw [hc] at hv
    exact hv.1
  have hold : ∀ u ids, r.phase ≠ .insert u ids := by simp [hp]
  have hhas := hs.mirrors.hasTask_eq ht
  cases hg : (storeAfter lin).get t with
  | none =>
    have hstep : r.phase.step s.db = (s.db, .reply (.ok (.found none))) := by
      rw [hp]
      simp [Phase.step, hhas, hg]
    rw [advance_of_reply hstep]
    exact ⟨_, hs.placeReply hr hnot hold (by rw [hc]; rfl)
      (by rw [hc]; simp [MemoryStore.perform, hg])⟩
  | some rs =>
    have hstep : r.phase.step s.db = (s.db, .next (.read t)) := by
      rw [hp]
      simp [Phase.step, hhas, hg]
    refine hs.readOn hr hold (fun _ _ h => by cases h) hstep ?_
    show r.call = .get t ∧ r.id ∉ lin.map (·.1) ∧ t ∈ s.db.tasks
    exact ⟨hc, hnot, (hs.mirrors.mem_tasks_iff t).mpr (by simp [hg])⟩

/-- A get's second statement: the record rows of a task whose row it has seen; the get takes
effect here. -/
theorem advance_read (hs : s.Tracks lin) (hr : r ∈ s.running) {t : String}
    (hp : r.phase = .read t) : ∃ lin', (s.advance r).Tracks lin' := by
  obtain ⟨hc, hnot, ht⟩ : r.call = .get t ∧ r.id ∉ lin.map (·.1) ∧ t ∈ s.db.tasks := by
    simpa [Running.Settled, hp] using hs.settled r hr
  have hvis : ¬ Hides s.running t := by
    simpa [hc, Call.task] using hs.not_hides hr (by rw [hc]; rfl)
  obtain ⟨rs, hg⟩ := Option.isSome_iff_exists.mp ((hs.mirrors.mem_tasks_iff t).mp ht)
  have hrows := hs.mirrors.rowsOf_eq hvis
  rw [hg, Option.getD_some] at hrows
  have hstep : r.phase.step s.db = (s.db, .reply (.ok (.found (some rs)))) := by
    rw [hp]
    simp [Phase.step, hrows]
  rw [advance_of_reply hstep]
  exact ⟨_, hs.placeReply hr hnot (by simp [hp]) (by rw [hc]; rfl)
    (by rw [hc]; simp [MemoryStore.perform, hg])⟩

/-- A complete's first statement: the conditional update. The complete takes effect here,
whether it updates a row or not. -/
theorem advance_complete (hs : s.Tracks lin) (hr : r ∈ s.running) {t : String} {i : Nat}
    {o : Outcome} (hp : r.phase = .start (.complete t i o)) (hv : r.call.Valid) :
    ∃ lin', (s.advance r).Tracks lin' := by
  obtain ⟨hc, hnot⟩ : r.call = .complete t i o ∧ r.id ∉ lin.map (·.1) := by
    simpa [Running.Settled, hp] using hs.settled r hr
  obtain ⟨ht, hi⟩ : t ≠ "" ∧ i < 2 ^ 64 := by
    rw [hc] at hv
    exact hv
  have hvis : ¬ Hides s.running t := by
    simpa [hc, Call.task] using hs.not_hides hr (by rw [hc]; rfl)
  have hold : ∀ u ids, r.phase ≠ .insert u ids := by simp [hp]
  cases hmc : (storeAfter lin).complete t i o with
  | ok m' =>
    obtain ⟨hne, hmirrors⟩ := hs.mirrors.update_of_completed hvis hi hmc
    obtain ⟨rs, r₀, -, -, -, hm'⟩ := MemoryStore.complete_eq_ok hmc
    have hstep : r.phase.step s.db = ((s.db.update t (signed i) o).1, .reply (.ok .completed)) := by
      rw [hp]
      simp [Phase.step, List.isEmpty_iff, hne]
    rw [advance_of_reply hstep]
    have hafter : storeAfter (lin ++ [(r.id, r.call, .ok .completed)]) = m' := by
      rw [storeAfter_concat, hc]
      simp [MemoryStore.perform, hmc]
    refine ⟨_, hs.reply_plain hr hold ?_ (hs.sequential.concat ?_)
      (hs.linearizes.place hnot (hs.invoked r hr) _) (List.mem_append_right _ (List.mem_singleton_self _))
      fun q hq hid => ?_⟩
    · rw [hafter]
      exact hmirrors
    · rw [hc]
      simp [MemoryStore.perform, hmc]
    · rw [hafter, hm']
      exact (hs.settled q hq).update (fun h => hs.free q hq r hr (hc ▸ h)) (Ne.symm hid)
  | error e =>
    obtain ⟨hup, hex⟩ := hs.mirrors.explains_of_refused hvis hi hmc
    have hstep : r.phase.step s.db = (s.db, .next (.lookup t i)) := by
      rw [hp]
      simp [Phase.step, hup]
    rw [advance_of_next hstep]
    have hafter : storeAfter (lin ++ [(r.id, r.call, .error e)]) = storeAfter lin := by
      rw [storeAfter_concat, hc]
      simp [MemoryStore.perform, hmc]
    refine ⟨lin ++ [(r.id, r.call, .error e)], hs.moveOn_plain hr hold (fun _ _ h => by cases h) ?_
      (hs.sequential.concat ?_) (hs.linearizes.place hnot (hs.invoked r hr) _) ?_
      fun q hq hid => ?_⟩
    · rw [hafter]
      exact hs.mirrors
    · rw [hc]
      simp [MemoryStore.perform, hmc]
    · show ∃ o' e', r.call = .complete t i o' ∧
        (r.id, r.call, .error e') ∈ lin ++ [(r.id, r.call, .error e)] ∧ s.db.Explains t i e'
      exact ⟨o, e, hc, List.mem_append_right _ (List.mem_singleton_self _), hex⟩
    · rw [hafter]
      exact (hs.settled q hq).place (Ne.symm hid)

/-- A refused complete's second statement: the row at its position, whose status it reports. -/
theorem advance_lookup (hs : s.Tracks lin) (hr : r ∈ s.running) {t : String} {i : Nat}
    (hp : r.phase = .lookup t i) : ∃ lin', (s.advance r).Tracks lin' := by
  obtain ⟨o, e, hc, hin, hex⟩ : ∃ o e, r.call = .complete t i o ∧
      (r.id, r.call, .error e) ∈ lin ∧ s.db.Explains t i e := by
    simpa [Running.Settled, hp] using hs.settled r hr
  have hold : ∀ u ids, r.phase ≠ .insert u ids := by simp [hp]
  have hmove : ∀ e', (∀ st, e' ≠ .alreadyTerminal t i st) → s.db.Explains t i e' →
      (r.id, r.call, .error e') ∈ lin → s.db.rowAt t (signed i) = none →
      ∃ lin', (s.advance r).Tracks lin' := fun e' hnt hex' hin' hrow => by
    have hstep : r.phase.step s.db = (s.db, .next (.probe t i)) := by
      rw [hp]
      simp [Phase.step, hrow]
    exact hs.readOn hr hold (fun _ _ h => by cases h) hstep ⟨o, e', hc, hin', hex', hnt⟩
  cases e with
  | alreadyTerminal t' i' st =>
    obtain ⟨rfl, rfl, -, q, hq, rfl⟩ := hex
    have hstep : r.phase.step s.db = (s.db, .reply (.error (.alreadyTerminal t' i' q.status))) := by
      rw [hp]
      simp [Phase.step, hq]
    exact hs.readReply hr hold hstep hin
  | unknownRecord t' i' =>
    exact hmove _ (fun st h => by cases h) hex hin hex.2.2.1
  | unknownTask t' =>
    exact hmove _ (fun st h => by cases h) hex hin hex.2.1
  | backend _ => exact hex.elim

/-- A refused complete's last statement: the task row, which tells an unknown record from an
unknown task. -/
theorem advance_probe (hs : s.Tracks lin) (hr : r ∈ s.running) {t : String} {i : Nat}
    (hp : r.phase = .probe t i) (hv : r.call.Valid) : ∃ lin', (s.advance r).Tracks lin' := by
  obtain ⟨o, e, hc, hin, hex, hnt⟩ : ∃ o e, r.call = .complete t i o ∧
      (r.id, r.call, .error e) ∈ lin ∧ s.db.Explains t i e ∧ ∀ st, e ≠ .alreadyTerminal t i st := by
    simpa [Running.Settled, hp] using hs.settled r hr
  have ht : t ≠ "" := by
    rw [hc] at hv
    exact hv.1
  have hold : ∀ u ids, r.phase ≠ .insert u ids := by simp [hp]
  have hstep : r.phase.step s.db = (s.db, .reply (.error e)) := by
    rw [hp]
    cases e with
    | alreadyTerminal t' i' st =>
      obtain ⟨rfl, rfl, -⟩ := hex
      exact absurd rfl (hnt st)
    | unknownRecord t' i' =>
      obtain ⟨rfl, rfl, -, hm⟩ := hex
      simp [Phase.step, hasTask_of_ne ht, hm]
    | unknownTask t' =>
      obtain ⟨rfl, -, hm⟩ := hex
      simp [Phase.step, hasTask_of_ne ht, hm]
    | backend _ => exact hex.elim
  exact hs.readReply hr hold hstep hin

/-- The next statement of any call in flight keeps the invariant, for a longer order. -/
theorem advance (hs : s.Tracks lin) (hr : r ∈ s.running) (hv : r.call.Valid) :
    ∃ lin', (s.advance r).Tracks lin' := by
  cases hp : r.phase with
  | start c =>
    cases c with
    | create t ids => exact hs.advance_create hr hp hv
    | get t => exact hs.advance_get hr hp hv
    | complete t i o => exact hs.advance_complete hr hp hv
  | insert t ids => exact hs.advance_insert hr hp
  | read t => exact hs.advance_read hr hp
  | lookup t i => exact hs.advance_lookup hr hp
  | probe t i => exact hs.advance_probe hr hp hv

end Tracks

theorem Step.history_sub {s s' : Session} (h : Step s s') : ∀ e ∈ s.history, e ∈ s'.history := by
  intro e he
  cases h with
  | invoke c _ => exact List.mem_append_left _ he
  | advance r _ =>
    rcases hst : r.phase.step s.db with ⟨db, p | a⟩
    · rw [advance_of_next hst]
      exact he
    · rw [advance_of_reply hst]
      exact List.mem_append_left _ he

/-- Every session a run reaches, with valid calls, keeps the invariant for some order. -/
theorem Run.tracks {s : Session} (hs : s.Run) (hv : ∀ i c, Event.invoke i c ∈ s.history → c.Valid) :
    ∃ lin, s.Tracks lin := by
  induction hs with
  | initial => exact ⟨[], Tracks.initial⟩
  | step _ hstep ih =>
    have hsub := hstep.history_sub
    obtain ⟨lin, hl⟩ := ih fun i c h => hv i c (hsub _ h)
    cases hstep with
    | invoke c free => exact ⟨lin, hl.invoke free⟩
    | advance r mem => exact hl.advance mem (hv _ _ (hsub _ (hl.invoked r mem)))

end Session

/-- The database store answers as the memory store does, but for a backend's words, on the calls
the original's types allow. Calls made one after another from empty stores get the same replies
exactly when none of them is on the empty task id, which names no database record. Calls on
non-empty task ids served side by side, where the callers keep a create of a task apart from
the gets and completes of it, get the replies that the memory store gives to an order of them
that keeps their real-time order. -/
theorem database_answers_as_memory (calls : List Call) (hf : ∀ c ∈ calls, c.Fits) (s : Session)
    (hs : s.Run) (hv : ∀ i c, Event.invoke i c ∈ s.history → c.Valid) :
    ((Call.replies Database.perform .empty calls).map (Except.mapError StoreError.plain) =
        (Call.replies MemoryStore.perform .empty calls).map (Except.mapError StoreError.plain) ↔
      ∀ c ∈ calls, c.task ≠ "") ∧
    ∃ lin, Linearizes s.history lin ∧ Sequential lin := by
  refine ⟨Mirrors.empty.replies_agree_iff rfl hf, ?_⟩
  obtain ⟨lin, hl⟩ := hs.tracks hv
  exact ⟨lin, hl.linearizes, hl.sequential⟩

/-- The database and the memory store on a create of a task followed by a get of the empty task
id, and on a session where one get of a known id has been made. -/
theorem database_answers_as_memory_on_a_get :
    let calls := [Call.create "t" ["a"], .get ""]
    let s := Session.initial.invoke (.get "t")
    (∀ c ∈ calls, c.Fits) ∧ s.Run ∧ (∀ i c, Event.invoke i c ∈ s.history → c.Valid) ∧
      (((Call.replies Database.perform .empty calls).map (Except.mapError StoreError.plain) =
          (Call.replies MemoryStore.perform .empty calls).map (Except.mapError StoreError.plain) ↔
        ∀ c ∈ calls, c.task ≠ "") ∧
      ∃ lin, Linearizes s.history lin ∧ Sequential lin) := by
  intro calls s
  have hf : ∀ c ∈ calls, c.Fits := by
    simp [calls, Call.Fits]
  have hs : s.Run := .step .initial (.invoke _ _ fun _ h => by cases h)
  have hv : ∀ i c, Event.invoke i c ∈ s.history → c.Valid := by
    intro i c h
    simp only [s, Session.invoke, Session.initial, List.nil_append, List.mem_singleton,
      Event.invoke.injEq] at h
    rw [h.2]
    exact ⟨by decide, trivial⟩
  exact ⟨hf, hs, hv, database_answers_as_memory calls hf s hs hv⟩

end AdvisoryTrace
