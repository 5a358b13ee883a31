import Mathlib
import AdvisoryTrace.Verdict
import AdvisoryTrace.Export.Render
import AdvisoryTrace.Proofs.BuiltGraph
import AdvisoryTrace.Proofs.WalkOrder
import AdvisoryTrace.Proofs.WalkShape
import AdvisoryTrace.Proofs.Agreement

/-!
# The exported flowchart of a walked chain

A verdict keeps the static chain as text, and the Mermaid export reads that text back and draws
each step's caller from the indentation. For a chain walked from a defined function of a built
graph the two agree. The graph's names are identifiers, so the text reads back as the chain
(`CallGraph.Named.ofRendered_render_chainFrom`); and the walk nests the chain through calls, so
the flowchart draws each step after the first once, from the step it was met under.

* `Export.render_mermaid_done`: a done record's flowchart is drawn from its chain text read back;
* `CallGraph.exported_flowchart_draws_walk`: the exported flowchart of a done record holding a
  verdict on a walked chain draws one call edge per step after the first, in walk order.
-/

namespace AdvisoryTrace

namespace Chain

/-- Every step of a nested chain after the first stands in `R` to a step of the chain. -/
theorem Nested.mem_tail {R : Step → Step → Prop} {l : List Step} (h : Nested R l) {s : Step}
    (hs : s ∈ l.tail) : ∃ p ∈ l, R p s := by
  obtain ⟨x, rest, rfl⟩ := List.exists_cons_of_ne_nil h.ne_nil
  rw [List.tail_cons] at hs
  obtain ⟨a, b, rfl⟩ := List.append_of_mem hs
  obtain ⟨p, ⟨pre, mid, hpre, -, -⟩, hR⟩ :=
    @Nested.below_of_eq R (x :: (a ++ s :: b)) (x :: a) b s h rfl (List.cons_ne_nil _ _)
  have hp : p ∈ x :: a := by rw [hpre]; simp
  exact ⟨p, by rw [← List.cons_append]; exact List.mem_append_left _ hp, hR⟩

end Chain

/-- A done record's flowchart: its header line, then the flowchart of its chain text read
back. -/
theorem Export.render_mermaid_done {r : Record} (hdone : r.status = .done) {text : String}
    (hchain : r.chain = some text) :
    Export.render [r] .mermaid = "%% " ++ r.id ++ " done\n" ++ (Chain.ofRendered text).mermaid ++
      "\n\n" := by
  simp [Export.render, Export.mermaidBlock, hdone, hchain, Status.name, String.append_assoc]

namespace Source.CallGraph

open Chain

variable {g : CallGraph}

/-- The names on a chain walked from an identifier are identifiers: the entry comes first, and
every later step is called by an earlier one. -/
theorem Named.chainFrom_identifiers (h : Named g) {entry : String} (hentry : IsIdentifier entry)
    (maxDepth : Nat) : ∀ s ∈ (g.chainFrom entry maxDepth).steps, IsIdentifier s.function := by
  intro s hs
  obtain ⟨rest, hsteps⟩ := List.head?_eq_some_iff.mp (chainFrom_starts (g := g) entry maxDepth)
  rw [hsteps] at hs
  rcases List.mem_cons.mp hs with rfl | hs
  · exact hentry
  · have htail : s ∈ (g.chainFrom entry maxDepth).steps.tail := by
      rw [hsteps]
      exact hs
    obtain ⟨p, -, hcall⟩ := (chainFrom_nested entry maxDepth).mem_tail htail
    exact h.isIdentifier_of_mem_callees hcall

/-- The text of a chain walked from an identifier reads back as the chain. -/
theorem Named.ofRendered_render_chainFrom (h : Named g) {entry : String}
    (hentry : IsIdentifier entry) (maxDepth : Nat) :
    ofRendered (g.chainFrom entry maxDepth).render = g.chainFrom entry maxDepth :=
  ofRendered_render _ fun s hs =>
    readable_of_isIdentifier (h.chainFrom_identifiers hentry maxDepth s hs)

/-- The Mermaid export of a done record holding the verdict on the chain walked from a defined
function of a built graph draws, after its header and `graph TD`, one edge per step after the
first, in walk order, each from the step the walk met it under, which calls it. -/
theorem exported_flowchart_draws_walk (hg : Built g) {entry : String} (he : entry ∈ g.defined)
    (maxDepth : Nat) (v : Validator) (model : ModelChain) {verdict : Verdict}
    (hv : v.judge (g.chainFrom entry maxDepth) model = .ok verdict) {r : Record}
    (hdone : r.status = .done) (hchain : r.chain = some verdict.chain) :
    ∃ calls : List (Step × Step), calls.map Prod.snd = (g.chainFrom entry maxDepth).steps.tail ∧
      Export.render [r] .mermaid = "%% " ++ r.id ++ " done\n" ++
        "\n".intercalate ("graph TD" :: calls.map fun q => edge q.1.function q.2.function) ++
        "\n\n" ∧
      ∀ q ∈ calls, ∃ pre post, (g.chainFrom entry maxDepth).steps = pre ++ q.2 :: post ∧
        Below pre q.1 q.2 ∧ q.2.function ∈ g.callees q.1.function := by
  have hnamed := hg.named
  have htext : verdict.chain = (g.chainFrom entry maxDepth).render := by
    rw [Validator.judge_of_steps (chainFrom_nested entry maxDepth).ne_nil] at hv
    cases hv
    rfl
  have hread := hnamed.ofRendered_render_chainFrom (hnamed.defined entry he) maxDepth
  obtain ⟨calls, hsnd, hedges, hcalls⟩ := edges_of_nested (chainFrom_nested entry maxDepth)
  refine ⟨calls, hsnd, ?_, hcalls⟩
  rw [Export.render_mermaid_done hdone hchain, htext, hread, mermaid, hedges]

/-- The graph of `fn e() { a(); b() } fn a() { c() } fn b() {}`. -/
def branchingGraph : CallGraph := ⟨[("b", []), ("a", ["c"]), ("e", ["a", "b"])], ["b", "a", "e"]⟩

example :
    Export.render [⟨"GHSA-1", .done, some 70, some (branchingGraph.chainFrom "e" 4).render, none⟩]
      .mermaid = "%% GHSA-1 done\ngraph TD\ne[e] --> a[a]\na[a] --> c[c]\ne[e] --> b[b]\n\n" := by
  decide +kernel

theorem exported_flowchart_of_branching :
    Built branchingGraph ∧ "e" ∈ branchingGraph.defined ∧
      Validator.standard.judge (branchingGraph.chainFrom "e" 4) ⟨["e", "b", "d"], 70⟩ =
        .ok ⟨(branchingGraph.chainFrom "e" 4).render,
          Validator.standard.confidence (branchingGraph.chainFrom "e" 4) ⟨["e", "b", "d"], 70⟩⟩ ∧
      ∃ calls : List (Step × Step),
        calls.map Prod.snd = (branchingGraph.chainFrom "e" 4).steps.tail ∧
        Export.render [⟨"GHSA-1", .done, some 70, some (branchingGraph.chainFrom "e" 4).render,
            none⟩] .mermaid = "%% GHSA-1 done\n" ++
          "\n".intercalate ("graph TD" :: calls.map fun q => edge q.1.function q.2.function) ++
          "\n\n" ∧
        ∀ q ∈ calls, ∃ pre post, (branchingGraph.chainFrom "e" 4).steps = pre ++ q.2 :: post ∧
          Below pre q.1 q.2 ∧ q.2.function ∈ branchingGraph.callees q.1.function := by
  have hg : Built branchingGraph :=
    @Built.add .empty _ "fn e() { a(); b() } fn a() { c() } fn b() {}" .empty (by decide +kernel)
  have hv := @Validator.judge_of_steps (branchingGraph.chainFrom "e" 4) (by decide)
    Validator.standard ⟨["e", "b", "d"], 70⟩
  exact ⟨hg, by decide, hv, exported_flowchart_draws_walk hg (by decide) 4 _ _ hv rfl rfl⟩

end Source.CallGraph

end AdvisoryTrace
