import Mathlib
import AdvisoryTrace.Proofs.WalkShape

/-!
# What the chain from an entry covers

The walk meets each name once, at the depth it is first met, and expands a defined function
only above the depth limit. A function first met at the limit is therefore not expanded, and
when it is met again nearer the entry it is passed over: the depth limit can hide a name fewer
calls from the entry than the limit (`CallGraph.depth_limit_hides_callee`).

What holds is closure under the calls of the steps above the limit: every callee of a function
the chain lists above the limit is on the chain (`CallGraph.walk_covers`,
`CallGraph.chainFrom_closed`). A step lies below as many distinct steps as its depth, each
calling the next down to it (`Chain.Nested.ancestry`), so no defined function lies as deep as
the number of defined names (`CallGraph.depth_lt_of_defined`). With a limit at least that
number nothing is cut, and the chain holds every name reachable from the entry.

* `CallGraph.chainFrom_covers_calls`: the chain holds every callee of its steps above the limit,
  and with a limit no smaller than the number of defined functions every name reachable from
  the entry.
-/

namespace AdvisoryTrace.Chain

variable {R : Step → Step → Prop}

/-- Above each step of a nested chain lie as many distinct steps as its depth, one per level,
each standing in `R` to some step. -/
theorem Nested.ancestry {l : List Step} (h : Nested R l) :
    ∀ s ∈ l, ∃ anc : List Step, anc.length = s.depth ∧ (∀ a ∈ anc, a ∈ l ∧ ∃ b, R a b) ∧
      (s :: anc).Pairwise fun x y => y.depth < x.depth := by
  induction h with
  | root name =>
    intro s hs
    obtain rfl := List.mem_singleton.mp hs
    exact ⟨[], rfl, by simp, by simp⟩
  | @next l p f _ hb hR ih =>
    intro s hs
    rcases List.mem_append.mp hs with hs | hs
    · obtain ⟨anc, hlen, hanc, hpair⟩ := ih s hs
      exact ⟨anc, hlen, fun a ha => ⟨List.mem_append_left _ (hanc a ha).1, (hanc a ha).2⟩, hpair⟩
    · -- the new step lies one level below its caller, and above that the caller's ancestry
      obtain rfl := List.mem_singleton.mp hs
      obtain ⟨pre, mid, hsplit, hd, -⟩ := hb
      have hp : p ∈ l := by rw [hsplit]; simp
      obtain ⟨anc, hlen, hanc, hpair⟩ := ih p hp
      refine ⟨p :: anc, by simp [hlen, hd], fun a ha => ?_, ?_⟩
      · rcases List.mem_cons.mp ha with rfl | ha
        · exact ⟨List.mem_append_left _ hp, s, hR⟩
        · exact ⟨List.mem_append_left _ (hanc a ha).1, (hanc a ha).2⟩
      · refine List.Pairwise.cons (fun a ha => ?_) hpair
        rcases List.mem_cons.mp ha with rfl | ha
        · omega
        · have := List.rel_of_pairwise_cons hpair ha
          omega

end AdvisoryTrace.Chain

namespace AdvisoryTrace.Source.CallGraph

open Chain

variable {g : CallGraph} {D : Nat}

/-- `n` is reached from `e` along `k` recorded calls. -/
inductive Reaches (g : CallGraph) (e : String) : String → Nat → Prop
  | entry : Reaches g e e 0
  | call {m n : String} {k : Nat} : Reaches g e m k → n ∈ g.callees m → Reaches g e n (k + 1)

/-- A fold whose steps keep `I`, meet the element they take and keep what was met ends with `I`
and every element met. -/
theorem foldl_meets {β : Type} (f : β → String → β) (met : β → List String) (I : β → Prop)
    (hstep : ∀ b c, I b → I (f b c) ∧ c ∈ met (f b c) ∧ ∀ x ∈ met b, x ∈ met (f b c)) :
    ∀ (cs : List String) (b : β), I b →
      I (cs.foldl f b) ∧ (∀ x ∈ met b, x ∈ met (cs.foldl f b)) ∧ ∀ c ∈ cs, c ∈ met (cs.foldl f b)
  | [], _, hb => ⟨hb, fun _ hx => hx, by simp⟩
  | c :: cs, b, hb => by
    obtain ⟨hI, hc, hmono⟩ := hstep b c hb
    obtain ⟨hI', hmono', hall⟩ := foldl_meets f met I hstep cs (f b c) hI
    refine ⟨hI', fun x hx => hmono' x (hmono x hx), fun c' hc' => ?_⟩
    rcases List.mem_cons.mp hc' with rfl | hc'
    · exact hmono' _ hc
    · exact hall c' hc'

/-- The steps added to `base` each have every callee met, when they lie above the limit. -/
def Covered (g : CallGraph) (D : Nat) (base : List Step) (acc : List String × List Step) : Prop :=
  ∃ new, acc.2 = new ++ base ∧ ∀ s ∈ new, s.depth < D → ∀ c ∈ g.callees s.function, c ∈ acc.1

theorem Covered.extend {base : List Step} {b r : List String × List Step} (h : Covered g D base b)
    (hmet : ∀ x ∈ b.1, x ∈ r.1) (hr : Covered g D b.2 r) : Covered g D base r := by
  obtain ⟨new, hb, hcov⟩ := h
  obtain ⟨more, hr2, hcov'⟩ := hr
  refine ⟨more ++ new, by rw [hr2, hb, List.append_assoc], fun s hs hlt c hc => ?_⟩
  rcases List.mem_append.mp hs with hs | hs
  · exact hcov' s hs hlt c hc
  · exact hmet c (hcov s hs hlt c hc)

/-- A walk below a name, given nesting for every defined name it may still meet, meets the name,
and every callee of each step it adds above the limit. -/
theorem walk_covers (hg : Sound g) {fuel depth : Nat} {name : String}
    {acc : List String × List Step} (hfuel : unmet g (name :: acc.1) + 1 < fuel) :
    name ∈ (g.walk D fuel name depth acc).1 ∧ Covered g D acc.2 (g.walk D fuel name depth acc) := by
  induction fuel generalizing name depth acc with
  | zero => omega
  | succ fuel ih =>
    obtain ⟨seen, steps⟩ := acc
    dsimp only at hfuel
    rw [walk_succ]
    split
    · exact ⟨List.contains_iff_mem.mp ‹_›, [], rfl, by simp⟩
    · rename_i hseen
      split
      · refine ⟨List.mem_cons_self, [⟨name, depth⟩], rfl, fun s hs hlt => ?_⟩
        obtain rfl := List.mem_singleton.mp hs
        simp only at hlt
        omega
      · -- each callee visited is met, and keeps what was met before and covered
        have hstep : ∀ b c, ((∀ x ∈ name :: seen, x ∈ b.1) ∧ Covered g D (⟨name, depth⟩ :: steps) b) →
            ((∀ x ∈ name :: seen, x ∈ (g.visit D fuel depth b c).1) ∧
              Covered g D (⟨name, depth⟩ :: steps) (g.visit D fuel depth b c)) ∧
            c ∈ (g.visit D fuel depth b c).1 ∧ ∀ x ∈ b.1, x ∈ (g.visit D fuel depth b c).1 := by
          rintro ⟨seen', steps'⟩ c ⟨hsub, hcov⟩
          dsimp only at hsub
          unfold visit
          split
          · rename_i hc
            by_cases hmet : seen'.contains c = true
            · rw [walk_of_contains hmet]
              exact ⟨⟨hsub, hcov⟩, List.contains_iff_mem.mp hmet, fun _ hx => hx⟩
            · -- a defined callee not met yet leaves one fewer name to meet
              have hlt := unmet_cons_lt (List.contains_iff_mem.mp hc) (by simpa using hmet)
              have hle : unmet g seen' ≤ unmet g (name :: seen) := unmet_anti hsub
              obtain ⟨hc', hcov'⟩ := @ih (depth + 1) c (seen', steps') (by simp only; omega)
              obtain ⟨⟨new, hnew⟩, -⟩ :=
                @walk_extends g D fuel (depth + 1) c (seen', steps') (by omega)
              have hmono : ∀ x ∈ seen', x ∈ (g.walk D fuel c (depth + 1) (seen', steps')).1 :=
                fun x hx => by rw [hnew]; exact List.mem_append_right _ hx
              exact ⟨⟨fun x hx => hmono x (hsub x hx), hcov.extend hmono hcov'⟩, hc', hmono⟩
          · split
            · exact ⟨⟨hsub, hcov⟩, List.contains_iff_mem.mp ‹_›, fun _ hx => hx⟩
            · rename_i hc _
              have hleaf : g.callees c = [] :=
                hg.callees_eq_nil fun h => hc (List.contains_iff_mem.mpr h)
              refine ⟨⟨fun x hx => List.mem_cons_of_mem _ (hsub x hx), ?_⟩, List.mem_cons_self,
                fun x hx => List.mem_cons_of_mem _ hx⟩
              refine hcov.extend (fun x hx => List.mem_cons_of_mem _ hx)
                ⟨[⟨c, depth + 1⟩], rfl, fun s hs _ x hx => ?_⟩
              obtain rfl := List.mem_singleton.mp hs
              simp [hleaf] at hx
        obtain ⟨⟨hsub, new, hnew, hcov⟩, -, hall⟩ :=
          foldl_meets (g.visit D fuel depth) (·.1) _ hstep (g.callees name)
            (name :: seen, ⟨name, depth⟩ :: steps) ⟨fun _ hx => hx, [], rfl, by simp⟩
        refine ⟨hsub name List.mem_cons_self, new ++ [⟨name, depth⟩], by simp [hnew],
          fun s hs hlt c hc => ?_⟩
        rcases List.mem_append.mp hs with hs | hs
        · exact hcov s hs hlt c hc
        · obtain rfl := List.mem_singleton.mp hs
          exact hall c hc

/-- Every callee of a function the chain lists above the limit is on the chain. -/
theorem chainFrom_closed (hg : Sound g) (entry : String) (maxDepth : Nat) :
    ∀ s ∈ (g.chainFrom entry maxDepth).steps, s.depth < maxDepth →
      ∀ c ∈ g.callees s.function, c ∈ (g.chainFrom entry maxDepth).steps.map (·.function) := by
  have hfuel : unmet g [entry] + 1 < g.defined.length + 2 := by
    have := unmet_le g [entry]
    omega
  obtain ⟨-, new, hnew, hcov⟩ :=
    @walk_covers g maxDepth hg (g.defined.length + 2) 0 entry ([], []) hfuel
  obtain ⟨hmap, -⟩ := @walk_tracked g maxDepth (g.defined.length + 2) 0 entry ([], [])
    (Nat.zero_le _) ⟨rfl, List.nodup_nil⟩
  intro s hs hlt c hc
  rw [chainFrom, List.map_reverse, List.mem_reverse, ← hmap]
  rw [chainFrom, List.mem_reverse, hnew, List.append_nil] at hs
  exact hcov s hs hlt c hc

/-- No defined function lies on the chain as deep as the number of defined names: above it lie
as many distinct defined callers as its depth. -/
theorem depth_lt_of_defined (hg : Sound g) (entry : String) (maxDepth : Nat) :
    ∀ s ∈ (g.chainFrom entry maxDepth).steps, s.function ∈ g.defined →
      s.depth < g.defined.length := by
  intro s hs hdef
  obtain ⟨anc, hlen, hanc, hpair⟩ := (chainFrom_nested entry maxDepth).ancestry s hs
  have hsub : ∀ a ∈ s :: anc, a ∈ (g.chainFrom entry maxDepth).steps := by
    intro a ha
    rcases List.mem_cons.mp ha with rfl | ha
    · exact hs
    · exact (hanc a ha).1
  have hnodup : ((s :: anc).map (·.function)).Nodup := by
    refine List.Nodup.map_on (fun x hx y hy hxy => ?_)
      (hpair.imp fun h hxy => by rw [hxy] at h; exact lt_irrefl _ h)
    exact List.inj_on_of_nodup_map (chainFrom_distinct entry maxDepth) (hsub x hx) (hsub y hy) hxy
  have hdefined : ∀ n ∈ (s :: anc).map (·.function), n ∈ g.defined := by
    intro n hn
    obtain ⟨a, ha, rfl⟩ := List.mem_map.mp hn
    rcases List.mem_cons.mp ha with rfl | ha
    · exact hdef
    · obtain ⟨-, b, hcall⟩ := hanc a ha
      exact hg.mem_defined_of_mem_callees hcall
  have hle := hnodup.length_le_of_subset hdefined
  simp only [List.length_map, List.length_cons, hlen] at hle
  omega

/-- With a limit no smaller than the number of defined functions, every name reachable from the
entry is on the chain. -/
theorem mem_chainFrom_of_reaches (hg : Sound g) {entry : String} {maxDepth : Nat}
    (hd : g.defined.length ≤ maxDepth) {n : String} {k : Nat} (h : Reaches g entry n k) :
    n ∈ (g.chainFrom entry maxDepth).steps.map (·.function) := by
  induction h with
  | entry =>
    have hhead := chainFrom_starts (g := g) entry maxDepth
    exact List.mem_map.mpr ⟨⟨entry, 0⟩, List.mem_of_mem_head? hhead, rfl⟩
  | @call m n k _ hn ih =>
    -- the caller is defined, so it lies above the limit and its callees are on the chain
    obtain ⟨s, hs, rfl⟩ := List.mem_map.mp ih
    have hlt := depth_lt_of_defined hg entry maxDepth s hs (hg.mem_defined_of_mem_callees hn)
    exact chainFrom_closed hg entry maxDepth s hs (by omega) n hn

/-- The chain from an entry, on a graph built from sources, holds every callee of each step it
lists above the depth limit; and when the limit is at least the number of defined functions it
holds every name reachable from the entry. -/
theorem chainFrom_covers_calls (hg : Built g) (entry : String) (maxDepth : Nat) :
    (∀ s ∈ (g.chainFrom entry maxDepth).steps, s.depth < maxDepth →
      ∀ c ∈ g.callees s.function, c ∈ (g.chainFrom entry maxDepth).steps.map (·.function)) ∧
    (g.defined.length ≤ maxDepth → ∀ n k, Reaches g entry n k →
      n ∈ (g.chainFrom entry maxDepth).steps.map (·.function)) :=
  ⟨chainFrom_closed hg.sound entry maxDepth,
    fun hd _ _ h => mem_chainFrom_of_reaches hg.sound hd h⟩

/-- The graph of `fn e() { a(); b() } fn a() { b() } fn b() { c() }`: `e` calls `b` directly
and through `a`, and `b` calls `c`. -/
def shortcutGraph : CallGraph := ⟨[("b", ["c"]), ("a", ["b"]), ("e", ["a", "b"])], ["b", "a", "e"]⟩

theorem built_shortcutGraph : Built shortcutGraph :=
  @Built.add .empty _ "fn e() { a(); b() } fn a() { b() } fn b() { c() }" .empty (by decide +kernel)

/-- The shortcut graph walked from `e` with a limit of three, the number of its functions. -/
theorem chainFrom_covers_calls_at_three :
    Built shortcutGraph ∧
      ((∀ s ∈ (shortcutGraph.chainFrom "e" 3).steps, s.depth < 3 →
        ∀ c ∈ shortcutGraph.callees s.function,
          c ∈ (shortcutGraph.chainFrom "e" 3).steps.map (·.function)) ∧
      (shortcutGraph.defined.length ≤ 3 → ∀ n k, Reaches shortcutGraph "e" n k →
        n ∈ (shortcutGraph.chainFrom "e" 3).steps.map (·.function))) :=
  ⟨built_shortcutGraph, chainFrom_covers_calls built_shortcutGraph "e" 3⟩

/-- With a limit of two, `b` is first met at depth two below `a` and not expanded, and is then
passed over below `e`; so `c`, two calls from `e` through `b`, is not on the chain. -/
theorem depth_limit_hides_callee :
    Built shortcutGraph ∧ "e" ∈ shortcutGraph.defined ∧ Reaches shortcutGraph "e" "c" 2 ∧
      "c" ∉ (shortcutGraph.chainFrom "e" 2).steps.map (·.function) :=
  ⟨built_shortcutGraph, by decide,
    @Reaches.call _ _ "b" "c" 1 (@Reaches.call _ _ "e" "b" 0 .entry (by decide)) (by decide),
    by decide⟩

end AdvisoryTrace.Source.CallGraph
