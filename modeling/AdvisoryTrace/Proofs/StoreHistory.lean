import Mathlib
import AdvisoryTrace.Store.Interleaving
import AdvisoryTrace.Proofs.StoreRefinement

/-!
# Histories and the orders that explain them

A history of calls served side by side is explained by an order of its calls when each call
takes effect at one moment between its invocation and its reply: the calls of the order are
calls of the history, every answered call is in it with its answer, and a call answered before
another was made stands before it (`Linearizes`). The order is then checked against the memory
store: run one after another on it, its calls get its replies, but for a backend's words
(`Sequential`).

Three lemmas say how an order follows the history as it grows: a new call changes nothing, a
call placed at the end of the order keeps it an order, and a reply that the order already holds
keeps it too.
-/

namespace AdvisoryTrace

/-- `a` stands before `b` in `l`. -/
def Before {α : Type} (a b : α) (l : List α) : Prop := ∃ l₁ l₂, l = l₁ ++ l₂ ∧ a ∈ l₁ ∧ b ∈ l₂

/-- An order of calls, each with its number and its reply, that explains history `h`: its calls
are calls of `h`, under their numbers; every call answered in `h` is in it with its answer; and
a call answered before another was made stands before it. -/
structure Linearizes (h : List Event) (lin : List (Nat × Call × Reply)) : Prop where
  nodup : (lin.map (·.1)).Nodup
  invoked : ∀ e ∈ lin, Event.invoke e.1 e.2.1 ∈ h
  answered : ∀ i r, Event.respond i r ∈ h → ∃ c, (i, c, r) ∈ lin
  realTime : ∀ i j r c, Before (Event.respond i r) (Event.invoke j c) h →
    j ∈ lin.map (·.1) → Before i j (lin.map (·.1))

/-- The memory store, given the calls of an order one after another, gives the order's replies,
but for a backend's words. -/
def Sequential (lin : List (Nat × Call × Reply)) : Prop :=
  (Call.replies MemoryStore.perform .empty (lin.map (·.2.1))).map (Except.mapError StoreError.plain) =
    (lin.map (·.2.2)).map (Except.mapError StoreError.plain)

/-- The memory store after the calls of an order. -/
def storeAfter (lin : List (Nat × Call × Reply)) : MemoryStore :=
  MemoryStore.empty.run (lin.map (·.2.1))

section Before

variable {α : Type} {a b x : α} {l : List α}

theorem Before.append (h : Before a b l) (m : List α) : Before a b (l ++ m) := by
  obtain ⟨l₁, l₂, rfl, ha, hb⟩ := h
  exact ⟨l₁, l₂ ++ m, by simp, ha, List.mem_append_left m hb⟩

theorem before_concat (h : a ∈ l) : Before a b (l ++ [b]) :=
  ⟨l, [b], rfl, h, List.mem_singleton_self b⟩

/-- Standing before something in a list with one more entry: before it already, or before the
new last entry. -/
theorem Before.of_concat (h : Before a b (l ++ [x])) : Before a b l ∨ b = x ∧ a ∈ l := by
  obtain ⟨l₁, l₂, heq, ha, hb⟩ := h
  rcases List.eq_nil_or_concat l₂ with rfl | ⟨L, y, rfl⟩
  · cases hb
  · rw [List.concat_eq_append] at heq hb
    rw [← List.append_assoc] at heq
    obtain ⟨hl, hxy⟩ := List.append_inj' heq rfl
    obtain rfl := List.singleton_inj.mp hxy
    rcases List.mem_append.mp hb with hb | hb
    · exact Or.inl ⟨l₁, L, hl, ha, hb⟩
    · exact Or.inr ⟨List.mem_singleton.mp hb, hl ▸ List.mem_append_left L ha⟩

end Before

namespace Linearizes

variable {h : List Event} {lin : List (Nat × Call × Reply)}

theorem nil : Linearizes [] [] where
  nodup := .nil
  invoked _ he := by cases he
  answered _ _ he := by cases he
  realTime _ _ _ _ hb := by
    obtain ⟨l₁, l₂, heq, ha, -⟩ := hb
    obtain rfl := (List.append_eq_nil_iff.mp heq.symm).1
    cases ha

/-- A new call, under a number the order does not hold, leaves the order an order. -/
theorem invoke (hl : Linearizes h lin) {j : Nat} (hj : j ∉ lin.map (·.1)) (c : Call) :
    Linearizes (h ++ [.invoke j c]) lin where
  nodup := hl.nodup
  invoked e he := List.mem_append_left _ (hl.invoked e he)
  answered i r hr := by
    rcases List.mem_append.mp hr with hr | hr
    · exact hl.answered i r hr
    · simp at hr
  realTime i j' r c' hb hj' := by
    rcases hb.of_concat with hb | ⟨heq, -⟩
    · exact hl.realTime i j' r c' hb hj'
    · obtain ⟨rfl, -⟩ := Event.invoke.inj heq
      exact absurd hj' hj

/-- A reply that the order already holds leaves it an order. -/
theorem respond (hl : Linearizes h lin) {j : Nat} {c : Call} {a : Reply} (hin : (j, c, a) ∈ lin) :
    Linearizes (h ++ [.respond j a]) lin where
  nodup := hl.nodup
  invoked e he := List.mem_append_left _ (hl.invoked e he)
  answered i r hr := by
    rcases List.mem_append.mp hr with hr | hr
    · exact hl.answered i r hr
    · obtain ⟨rfl, rfl⟩ := Event.respond.inj (List.mem_singleton.mp hr)
      exact ⟨c, hin⟩
  realTime i j' r c' hb hj' := by
    rcases hb.of_concat with hb | ⟨heq, -⟩
    · exact hl.realTime i j' r c' hb hj'
    · cases heq

/-- A call made and not yet in the order, placed at its end: every call answered before it was
made is in the order already, so the order stays one. -/
theorem place (hl : Linearizes h lin) {j : Nat} (hj : j ∉ lin.map (·.1)) {c : Call}
    (hinv : Event.invoke j c ∈ h) (a : Reply) : Linearizes h (lin ++ [(j, c, a)]) where
  nodup := by
    rw [List.map_append, List.nodup_append]
    refine ⟨hl.nodup, List.nodup_singleton _, fun x hx y hy hxy => hj ?_⟩
    have hyj : y = j := by simpa using hy
    rw [← hyj, ← hxy]
    exact hx
  invoked e he := by
    rcases List.mem_append.mp he with he | he
    · exact hl.invoked e he
    · rw [List.mem_singleton.mp he]
      exact hinv
  answered i r hr := by
    obtain ⟨c', hc'⟩ := hl.answered i r hr
    exact ⟨c', List.mem_append_left _ hc'⟩
  realTime i j' r c' hb hj' := by
    rw [List.map_append] at hj' ⊢
    rcases List.mem_append.mp hj' with hj' | hj'
    · exact (hl.realTime i j' r c' hb hj').append _
    · -- the call placed last: whatever was answered before it was made is in the order
      obtain ⟨l₁, l₂, heq, hr, -⟩ := hb
      obtain ⟨c₀, hc₀⟩ := hl.answered i r (heq ▸ List.mem_append_left l₂ hr)
      rw [List.map_singleton, List.mem_singleton] at hj'
      subst hj'
      exact before_concat (List.mem_map.mpr ⟨_, hc₀, rfl⟩)

end Linearizes

theorem replies_concat {σ : Type} (perform : σ → Call → σ × Reply) (s : σ) (cs : List Call)
    (c : Call) :
    Call.replies perform s (cs ++ [c]) =
      Call.replies perform s cs ++ [(perform (cs.foldl (fun s c => (perform s c).1) s) c).2] := by
  induction cs generalizing s with
  | nil => rfl
  | cons c' cs ih => simp [Call.replies, ih]

theorem storeAfter_concat (lin : List (Nat × Call × Reply)) (x : Nat × Call × Reply) :
    storeAfter (lin ++ [x]) = ((storeAfter lin).perform x.2.1).1 := by
  simp [storeAfter, MemoryStore.run, List.foldl_append]

/-- A call placed at the end of an order, with the reply the memory store gives it after the
order's calls, keeps the order sequential. -/
theorem Sequential.concat {lin : List (Nat × Call × Reply)} (hs : Sequential lin) {j : Nat}
    {c : Call} {a : Reply}
    (ha : ((storeAfter lin).perform c).2.mapError StoreError.plain = a.mapError StoreError.plain) :
    Sequential (lin ++ [(j, c, a)]) := by
  unfold Sequential at hs ⊢
  unfold storeAfter MemoryStore.run at ha
  simp only [List.map_append, List.map_singleton, replies_concat, hs, ha]

end AdvisoryTrace
