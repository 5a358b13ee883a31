import Mathlib
import AdvisoryTrace.Source.CallGraph
import AdvisoryTrace.Proofs.ChainRoundTrip

/-!
# Graphs built from sources

A call graph is built by adding sources one at a time to the empty graph (`CallGraph.Built`).
Adding a source only defines functions and records calls, so a property that both keep holds
of every graph built so (`CallGraph.Built.invariant`). Two such properties:

* `CallGraph.Built.sound`: each function with a callee list is defined, and each defined name is
  listed once; in particular a name that is not defined calls nothing
  (`CallGraph.Sound.callees_eq_nil`);
* `CallGraph.Built.named`: every name the graph holds, defined or called, is spelled as a Rust
  identifier, since the lexer only reads identifiers so spelled.
-/

namespace AdvisoryTrace

theorem Text.isIdentBody_iff {cs : List Char} :
    Text.isIdentBody cs = true ↔ ∃ c rest, cs = c :: rest ∧ Text.isIdentStart c = true ∧
      ∀ d ∈ rest, Text.isIdentContinue d = true := by
  cases cs with
  | nil => simp [Text.isIdentBody]
  | cons c rest => simp [Text.isIdentBody]

/-- An identifier's text, raw or not, is spelled as a Rust identifier. -/
theorem Source.Identifier.isIdentifier_text (i : Source.Identifier) :
    Chain.IsIdentifier i.text := by
  obtain ⟨c, rest, hname, hc, hrest⟩ := Text.isIdentBody_iff.mp i.valid
  refine ⟨c, rest, ?_, hc, hrest⟩
  unfold Source.Identifier.text
  split
  · exact .inr (by simp [hname])
  · exact .inl hname

end AdvisoryTrace

namespace AdvisoryTrace.Source.CallGraph

/-- Graphs reached from the empty graph by adding sources; a source that is refused leaves the
graph as it was. -/
inductive Built : CallGraph → Prop
  | empty : Built .empty
  | add {g g' : CallGraph} {src : String} : Built g → g.addSource src = .ok g' → Built g'

/-- Each function with a callee list is defined, and each defined name is listed once. -/
structure Sound (g : CallGraph) : Prop where
  keys : ∀ entry ∈ g.calls, entry.1 ∈ g.defined
  nodup : g.defined.Nodup

variable {g : CallGraph}

theorem sound_empty : Sound .empty := ⟨by simp [empty], List.nodup_nil⟩

theorem Sound.define (h : Sound g) (name : String) : Sound (g.define name) := by
  constructor
  · intro entry he
    simp only [CallGraph.define] at he ⊢
    have hkeep : entry.1 ∈ g.defined ∨ entry.1 = name := by
      split at he
      · exact .inl (h.keys entry he)
      · rcases List.mem_cons.mp he with rfl | he
        · exact .inr rfl
        · exact .inl (h.keys entry he)
    split
    · rcases hkeep with hk | rfl
      · exact hk
      · simpa using ‹g.defined.contains entry.1 = true›
    · rcases hkeep with hk | rfl
      · exact List.mem_cons_of_mem _ hk
      · exact List.mem_cons_self
  · simp only [CallGraph.define]
    split
    · exact h.nodup
    · exact List.nodup_cons.mpr ⟨by simpa using ‹¬g.defined.contains name = true›, h.nodup⟩

theorem Sound.addCall (h : Sound g) (caller callee : String) : Sound (g.addCall caller callee) := by
  refine ⟨fun entry he => ?_, h.nodup⟩
  -- recording a call only lengthens a callee list, so every entry keeps its name
  obtain ⟨old, hold, rfl⟩ := List.mem_map.mp he
  have hname := h.keys old hold
  split <;> exact hname

section Invariant

variable (P : CallGraph → Prop)
  (hdefine : ∀ g (name : Identifier), P g → P (g.define name.text))
  (hcall : ∀ g caller (name : Identifier), P g → P (g.addCall caller name.text))
include hdefine hcall

theorem apply_invariant (h : P g) (stack : List String) (events : List Event) :
    P (g.apply stack events) := by
  induction events generalizing g stack with
  | nil => exact h
  | cons ev rest ih =>
    cases ev with
    | enter name => exact ih (hdefine g name h) _
    | leave => exact ih h _
    | call name =>
      cases stack with
      | nil => exact ih h _
      | cons caller _ => exact ih (hcall g caller name h) _

theorem addSource_invariant (h : P g) {src : String} {g' : CallGraph}
    (hadd : g.addSource src = .ok g') : P g' := by
  simp only [CallGraph.addSource] at hadd
  split at hadd
  · cases hadd
  · split at hadd
    · cases hadd
    · cases hadd
      exact apply_invariant P hdefine hcall h [] _

/-- A property of the empty graph that defining a function and recording a call keep holds of
every built graph. -/
theorem Built.invariant (hempty : P .empty) (h : Built g) : P g := by
  induction h with
  | empty => exact hempty
  | add _ hadd ih => exact addSource_invariant P hdefine hcall ih hadd

end Invariant

theorem Built.sound (h : Built g) : Sound g :=
  h.invariant Sound (fun _ name hg => hg.define name.text)
    (fun _ caller name hg => hg.addCall caller name.text) sound_empty

/-- A callee is listed in an entry of its caller. -/
theorem exists_entry_of_mem_callees {caller callee : String} (hc : callee ∈ g.callees caller) :
    ∃ entry ∈ g.calls, entry.1 = caller ∧ callee ∈ entry.2 := by
  unfold CallGraph.callees at hc
  cases hf : g.calls.find? (·.1 == caller) with
  | none => simp [hf] at hc
  | some entry =>
    rw [hf] at hc
    exact ⟨entry, List.mem_of_find?_eq_some hf, by simpa using List.find?_some hf, hc⟩

/-- A name with callees is defined. -/
theorem Sound.mem_defined_of_mem_callees (h : Sound g) {caller callee : String}
    (hc : callee ∈ g.callees caller) : caller ∈ g.defined := by
  obtain ⟨entry, he, rfl, -⟩ := exists_entry_of_mem_callees hc
  exact h.keys entry he

/-- A name that is not defined calls nothing. -/
theorem Sound.callees_eq_nil (h : Sound g) {name : String} (hn : name ∉ g.defined) :
    g.callees name = [] :=
  List.eq_nil_iff_forall_not_mem.mpr fun _ hc => hn (h.mem_defined_of_mem_callees hc)

section Names

open Chain

/-- Every name the graph holds, defined or called, is spelled as an identifier. -/
structure Named (g : CallGraph) : Prop where
  defined : ∀ n ∈ g.defined, IsIdentifier n
  callees : ∀ entry ∈ g.calls, ∀ n ∈ entry.2, IsIdentifier n

theorem named_empty : Named .empty := ⟨by simp [empty], by simp [empty]⟩

theorem Named.define (h : Named g) {name : String} (hn : IsIdentifier name) :
    Named (g.define name) := by
  constructor
  · intro n hmem
    simp only [CallGraph.define] at hmem
    split at hmem
    · exact h.defined n hmem
    · rcases List.mem_cons.mp hmem with rfl | hmem
      · exact hn
      · exact h.defined n hmem
  · intro entry he n hmem
    simp only [CallGraph.define] at he
    split at he
    · exact h.callees entry he n hmem
    · rcases List.mem_cons.mp he with rfl | he
      · simp at hmem
      · exact h.callees entry he n hmem

theorem Named.addCall (h : Named g) (caller : String) {callee : String}
    (hc : IsIdentifier callee) : Named (g.addCall caller callee) := by
  refine ⟨h.defined, fun entry he n hmem => ?_⟩
  obtain ⟨old, hold, rfl⟩ := List.mem_map.mp he
  split at hmem
  · rcases List.mem_append.mp hmem with hmem | hmem
    · exact h.callees old hold n hmem
    · obtain rfl := List.mem_singleton.mp hmem
      exact hc
  · exact h.callees old hold n hmem

theorem Built.named (h : Built g) : Named g :=
  h.invariant Named (fun _ name hg => hg.define name.isIdentifier_text)
    (fun _ caller name hg => hg.addCall caller name.isIdentifier_text) named_empty

theorem Named.isIdentifier_of_mem_callees (h : Named g) {caller callee : String}
    (hc : callee ∈ g.callees caller) : IsIdentifier callee := by
  obtain ⟨entry, he, -, hmem⟩ := exists_entry_of_mem_callees hc
  exact h.callees entry he callee hmem

end Names

end AdvisoryTrace.Source.CallGraph
