import Mathlib
import AdvisoryTrace.Source.CallGraph
import AdvisoryTrace.Proofs.MermaidCallers

/-!
# The order of the depth-first walk

`CallGraph.chainFrom` lists functions in the order a depth-first walk meets them. Every step
after the entry was met among the callees of an earlier step while that step's callees were
being walked: it lies one level below that step, every step listed between the two lies deeper,
and it is one of that step's callees. So the chain is nested through calls.

* `CallGraph.walk_nested`: a walk below a function that may come next keeps the steps nested
  and adds only steps at least as deep as the function;
* `CallGraph.chainFrom_nested`: the chain from a defined entry is nested through calls.
-/

namespace AdvisoryTrace.Source.CallGraph

open Chain

/-- `f` names a function that `p`'s function calls. -/
def Calls (g : CallGraph) (p f : Step) : Prop := f.function ∈ g.callees p.function

/-- A fold keeps what each of its steps keeps. -/
theorem foldl_invariant {α β : Type} (I : β → Prop) (f : β → α → β) {l : List α} {b : β}
    (hb : I b) (hf : ∀ b, ∀ x ∈ l, I b → I (f b x)) : I (l.foldl f b) := by
  induction l generalizing b with
  | nil => exact hb
  | cons x l ih =>
    rw [List.foldl_cons]
    exact ih (hf b x List.mem_cons_self hb) fun b y hy => hf b y (List.mem_cons_of_mem x hy)

variable {g : CallGraph}

/-- The walk's step over one callee met below a function at `depth`: a defined callee is walked,
another is pushed as a leaf unless met already. -/
def visit (g : CallGraph) (D fuel depth : Nat) (acc : List String × List Step) (c : String) :
    List String × List Step :=
  if g.contains c then g.walk D fuel c (depth + 1) acc
  else if acc.1.contains c then acc else (c :: acc.1, ⟨c, depth + 1⟩ :: acc.2)

/-- One level of the walk: a name met already is passed over, one at the limit is pushed, and
below it the callees are visited in turn. -/
theorem walk_succ {D fuel depth : Nat} {name : String} {seen : List String}
    {steps : List Step} :
    g.walk D (fuel + 1) name depth (seen, steps) =
      if seen.contains name then (seen, steps)
      else if depth ≥ D then (name :: seen, ⟨name, depth⟩ :: steps)
      else (g.callees name).foldl (g.visit D fuel depth)
        (name :: seen, ⟨name, depth⟩ :: steps) := by
  rw [walk]
  rfl

theorem walk_of_contains {D fuel depth : Nat} {name : String} {seen : List String}
    {steps : List Step} (h : seen.contains name = true) :
    g.walk D fuel name depth (seen, steps) = (seen, steps) := by
  cases fuel with
  | zero => rfl
  | succ fuel => rw [walk_succ, if_pos h]

/-- Steps kept newest first that are none yet, or nested through calls in walk order. -/
def Ordered (g : CallGraph) (steps : List Step) : Prop :=
  steps = [] ∨ Nested g.Calls steps.reverse

/-- A step may come next: as the first, at depth zero, or below an earlier step that calls
it. -/
def Fits (g : CallGraph) (steps : List Step) (s : Step) : Prop :=
  (steps = [] ∧ s.depth = 0) ∨
    (Nested g.Calls steps.reverse ∧ ∃ p, Below steps.reverse p s ∧ g.Calls p s)

theorem Fits.nested {steps : List Step} {s : Step} (h : g.Fits steps s) :
    Nested g.Calls (s :: steps).reverse := by
  rcases h with ⟨rfl, hs⟩ | ⟨hn, p, hb, hc⟩
  · obtain ⟨name, depth⟩ := s
    simp only at hs
    subst hs
    exact .root name
  · rw [List.reverse_cons]
    exact hn.next hb hc

/-- A step one level below `p` fits after `p` and steps deeper than `p`, when `p` calls it. -/
theorem fits_below {steps new : List Step} {p s : Step}
    (hn : Nested g.Calls (new ++ p :: steps).reverse) (hnew : ∀ t ∈ new, p.depth < t.depth)
    (hd : p.depth + 1 = s.depth) (hc : g.Calls p s) : g.Fits (new ++ p :: steps) s := by
  refine .inr ⟨hn, p, ⟨steps.reverse, new.reverse, by simp, hd, fun t ht => ?_⟩, hc⟩
  exact hnew t (List.mem_reverse.mp ht)

/-- A walk below a function that fits next keeps the steps ordered and adds only steps at least
as deep as the function; a function not yet met, given fuel, adds at least itself. -/
theorem walk_nested {D fuel depth : Nat} {name : String} {seen : List String} {steps : List Step}
    (hs : g.Ordered steps) (hfit : g.Fits steps ⟨name, depth⟩) :
    g.Ordered (g.walk D fuel name depth (seen, steps)).2 ∧
      ∃ new, (g.walk D fuel name depth (seen, steps)).2 = new ++ steps ∧
        (∀ s ∈ new, depth ≤ s.depth) ∧ (seen.contains name = false → 0 < fuel → new ≠ []) := by
  induction fuel generalizing name depth seen steps with
  | zero => exact ⟨hs, [], rfl, by simp, fun _ h => absurd h (lt_irrefl 0)⟩
  | succ fuel ih =>
    rw [walk_succ]
    split
    · rename_i hseen
      exact ⟨hs, [], rfl, by simp, fun h => by rw [hseen] at h; cases h⟩
    · have hfirst := hfit.nested
      split
      · exact ⟨.inr hfirst, [⟨name, depth⟩], rfl, by simp, fun _ _ => List.cons_ne_nil _ _⟩
      · -- each callee walked keeps the steps nested, and the steps added below the function
        -- deeper than it
        let I := fun acc : List String × List Step => Nested g.Calls acc.2.reverse ∧
          ∃ new, acc.2 = new ++ ⟨name, depth⟩ :: steps ∧ ∀ t ∈ new, depth < t.depth
        have hfold : I ((g.callees name).foldl (g.visit D fuel depth)
            (name :: seen, ⟨name, depth⟩ :: steps)) := by
          refine foldl_invariant I _ ⟨hfirst, [], rfl, by simp⟩ ?_
          rintro ⟨seen', steps'⟩ c hc ⟨hn, new, heq, hdeep⟩
          dsimp only at hn heq
          subst heq
          have hfits : g.Fits (new ++ ⟨name, depth⟩ :: steps) ⟨c, depth + 1⟩ :=
            fits_below hn hdeep rfl hc
          unfold visit
          split
          · obtain ⟨hord, new', heq', hdeep', -⟩ := @ih (depth + 1) c seen' _ (.inr hn) hfits
            refine ⟨?_, new' ++ new, by rw [heq', List.append_assoc], fun t ht => ?_⟩
            · rcases hord with h | h
              · exact absurd (heq'.symm.trans h) (by simp)
              · exact h
            · rcases List.mem_append.mp ht with ht | ht
              · exact hdeep' t ht
              · exact hdeep t ht
          · split
            · exact ⟨hn, new, rfl, hdeep⟩
            · refine ⟨hfits.nested, ⟨c, depth + 1⟩ :: new, rfl, fun t ht => ?_⟩
              rcases List.mem_cons.mp ht with rfl | ht
              · exact Nat.lt_succ_self depth
              · exact hdeep t ht
        obtain ⟨hn, new, heq, hdeep⟩ := hfold
        refine ⟨.inr hn, new ++ [⟨name, depth⟩], by simpa using heq, fun t ht => ?_,
          fun _ _ => by simp⟩
        rcases List.mem_append.mp ht with ht | ht
        · exact (hdeep t ht).le
        · rw [List.mem_singleton.mp ht]

/-- The chain from an entry starts with the entry at depth zero, and every later step was met
below an earlier step that calls it. -/
theorem chainFrom_nested (entry : String) (D : Nat) : Nested g.Calls (g.chainFrom entry D).steps := by
  obtain ⟨hord, new, heq, -, hne⟩ :=
    @walk_nested g D (g.defined.length + 2) 0 entry [] [] (.inl rfl) (.inl ⟨rfl, rfl⟩)
  rw [List.append_nil] at heq
  rcases hord with h | h
  · exact absurd (heq.symm.trans h) (hne rfl (by omega))
  · exact h

end AdvisoryTrace.Source.CallGraph
