import Mathlib
import AdvisoryTrace.Proofs.BuiltGraph
import AdvisoryTrace.Proofs.WalkOrder

/-!
# The shape of a chain

What the depth-first walk from an entry gives, on every graph built from sources, for every
entry and depth limit.

The walk only ever pushes a step for a name it has not met, at a depth within the limit, and
meets a name exactly when it pushes it (`CallGraph.walk_preserves`), so the chain's names are
distinct and no step lies below the limit. A walk below a name not met yet puts that name first
(`CallGraph.walk_first`).

The walk is given a bound on its nesting. Each level of nesting meets a defined name not met
before, so a walk that can still meet `k` defined names needs no more than `k + 2` levels: with
more it gives the same chain (`CallGraph.walk_fuel_stable`). The chain from an entry therefore
does not depend on the bound `chainFrom` gives it; the walk ends on every graph, recursive or
not.

* `CallGraph.chainFrom_walks_calls`: the chain starts with the entry at depth zero, its names are
  distinct, and every later step lies one to `1 +` the previous depth down, within the limit,
  one level below its nearest earlier step a level up, which names a defined function that
  calls it.
-/

namespace AdvisoryTrace.Source.CallGraph

open Chain

variable {g : CallGraph} {D : Nat}

/-- A walk keeps what every push of a step keeps, for steps of names not met yet at depths within
the limit. -/
theorem walk_preserves (I : List String × List Step → Prop)
    (hpush : ∀ seen steps n k, I (seen, steps) → seen.contains n = false → k ≤ D →
      I (n :: seen, ⟨n, k⟩ :: steps))
    {fuel depth : Nat} {name : String} {acc : List String × List Step} (hd : depth ≤ D)
    (hI : I acc) : I (g.walk D fuel name depth acc) := by
  induction fuel generalizing name depth acc with
  | zero => exact hI
  | succ fuel ih =>
    obtain ⟨seen, steps⟩ := acc
    rw [walk_succ]
    split
    · exact hI
    · rename_i hseen
      have hfirst := hpush seen steps name depth hI (by simpa using hseen) hd
      split
      · exact hfirst
      · -- each callee is walked one level deeper, or pushed there as a leaf
        apply foldl_invariant I _ hfirst
        rintro ⟨seen', steps'⟩ c - hI'
        unfold visit
        split
        · exact ih (by omega) hI'
        · split
          · exact hI'
          · rename_i hc
            exact hpush seen' steps' c (depth + 1) hI' (by simpa using hc) (by omega)

/-- A walk only adds to the names met and the steps. -/
theorem walk_extends {fuel depth : Nat} {name : String} {acc : List String × List Step}
    (hd : depth ≤ D) :
    (∃ new, (g.walk D fuel name depth acc).1 = new ++ acc.1) ∧
      ∃ new, (g.walk D fuel name depth acc).2 = new ++ acc.2 := by
  obtain ⟨seen, steps⟩ := acc
  refine walk_preserves (fun acc' => (∃ new, acc'.1 = new ++ seen) ∧ ∃ new, acc'.2 = new ++ steps)
    ?_ hd ⟨⟨[], rfl⟩, [], rfl⟩
  rintro seen' steps' n k ⟨⟨new, hn⟩, ⟨new', hn'⟩⟩ - -
  dsimp only at hn hn'
  exact ⟨⟨n :: new, by rw [hn]; rfl⟩, ⟨⟨n, k⟩ :: new', by rw [hn']; rfl⟩⟩

/-- A walk below a name not met yet puts it on the chain first. -/
theorem walk_first {fuel depth : Nat} {name : String} {seen : List String} {steps : List Step}
    (hseen : seen.contains name = false) :
    ∃ new, (g.walk D (fuel + 1) name depth (seen, steps)).2 = new ++ ⟨name, depth⟩ :: steps := by
  rw [walk_succ, if_neg (Bool.eq_false_iff.mp hseen)]
  split
  · exact ⟨[], rfl⟩
  · -- the callees only add steps in front of the name's
    apply foldl_invariant
      (fun acc : List String × List Step => ∃ new, acc.2 = new ++ ⟨name, depth⟩ :: steps) _ ⟨[], rfl⟩
    rintro ⟨seen', steps'⟩ c - ⟨new, hnew⟩
    dsimp only at hnew
    unfold visit
    split
    · obtain ⟨-, new', hnew'⟩ := @walk_extends g D fuel (depth + 1) c (seen', steps') (by omega)
      exact ⟨new' ++ new, by rw [hnew', hnew, List.append_assoc]⟩
    · split
      · exact ⟨new, hnew⟩
      · exact ⟨⟨c, depth + 1⟩ :: new, by rw [hnew]; rfl⟩

/-- The names met are the names of the steps, each once. -/
def Tracked (acc : List String × List Step) : Prop :=
  acc.1 = acc.2.map (·.function) ∧ acc.1.Nodup

theorem walk_tracked {fuel depth : Nat} {name : String} {acc : List String × List Step}
    (hd : depth ≤ D) (h : Tracked acc) : Tracked (g.walk D fuel name depth acc) := by
  refine walk_preserves Tracked ?_ hd h
  rintro seen steps n k ⟨hmap, hnodup⟩ hn -
  dsimp only at hmap hnodup
  exact ⟨by simp [hmap], List.nodup_cons.mpr ⟨by simpa using hn, hnodup⟩⟩

theorem walk_depth_le {fuel depth : Nat} {name : String} {acc : List String × List Step}
    (hd : depth ≤ D) (h : ∀ s ∈ acc.2, s.depth ≤ D) :
    ∀ s ∈ (g.walk D fuel name depth acc).2, s.depth ≤ D := by
  refine walk_preserves (fun acc => ∀ s ∈ acc.2, s.depth ≤ D) ?_ hd h
  rintro seen steps n k hsteps - hk s hs
  rcases List.mem_cons.mp hs with rfl | hs
  · exact hk
  · exact hsteps s hs

section Fuel

/-- How many defined names are not met yet. -/
def unmet (g : CallGraph) (seen : List String) : Nat :=
  g.defined.countP fun n => !seen.contains n

theorem unmet_le (g : CallGraph) (seen : List String) : unmet g seen ≤ g.defined.length :=
  List.countP_le_length

theorem unmet_anti {seen seen' : List String} (h : ∀ n ∈ seen, n ∈ seen') :
    unmet g seen' ≤ unmet g seen := by
  apply List.countP_mono_left
  intro n _ hn
  simp only [Bool.not_eq_eq_eq_not, Bool.not_true, List.contains_eq_mem, decide_eq_false_iff_not]
    at hn ⊢
  exact fun h' => hn (h n h')

/-- Meeting a defined name leaves one fewer to meet. -/
theorem unmet_cons_lt {seen : List String} {n : String} (hn : n ∈ g.defined)
    (hseen : seen.contains n = false) : unmet g (n :: seen) < unmet g seen := by
  simp only [unmet, List.countP_eq_length_filter]
  have hsplit : g.defined.filter (fun m => !(n :: seen).contains m) =
      (g.defined.filter fun m => !seen.contains m).filter (· != n) := by
    rw [List.filter_filter]
    congr 1
    funext m
    simp only [List.contains_cons, Bool.not_or]
    rfl
  rw [hsplit, List.length_filter_lt_length_iff_exists]
  exact ⟨n, List.mem_filter.mpr ⟨hn, by simpa using hseen⟩, by simp⟩

/-- Visiting a callee gives the same with more nesting, where the walk below it does. -/
theorem visit_fuel {fuel k depth : Nat} {acc : List String × List Step} {c : String}
    (hI : ∀ {depth' : Nat} {name : String} {seen : List String} {steps : List Step},
      unmet g (name :: seen) + 1 < fuel →
        g.walk D (fuel + k) name depth' (seen, steps) = g.walk D fuel name depth' (seen, steps))
    (hfuel : unmet g acc.1 < fuel) :
    g.visit D (fuel + k) depth acc c = g.visit D fuel depth acc c := by
  obtain ⟨seen, steps⟩ := acc
  unfold visit
  split
  · rename_i hc
    cases hseen : seen.contains c with
    | true =>
      -- a name met already is passed over, whatever the bound
      rw [walk_of_contains hseen, walk_of_contains hseen]
    | false =>
      have hlt := unmet_cons_lt (List.contains_iff_mem.mp hc) hseen
      exact hI (by simp only at hfuel; omega)
  · rfl

/-- A walk that can still meet `k` defined names once it meets its own needs no more than
`k + 2` levels of nesting: given more, it gives the same result. -/
theorem walk_fuel_stable {fuel depth : Nat} {name : String} {seen : List String}
    {steps : List Step} (hfuel : unmet g (name :: seen) + 1 < fuel) (k : Nat) :
    g.walk D (fuel + k) name depth (seen, steps) = g.walk D fuel name depth (seen, steps) := by
  induction fuel generalizing name depth seen steps with
  | zero => omega
  | succ fuel ih =>
    rw [show fuel + 1 + k = (fuel + k) + 1 by omega, walk_succ, walk_succ]
    split
    · rfl
    · split
      · rfl
      · -- the callees are walked from names that include this one, so each finds fewer to meet
        generalize hacc : ((name :: seen, ⟨name, depth⟩ :: steps) : List String × List Step) = acc
        have hmet : ∀ n ∈ name :: seen, n ∈ acc.1 := hacc ▸ fun _ h => h
        clear hacc
        induction g.callees name generalizing acc with
        | nil => rfl
        | cons c cs ihc =>
          rw [List.foldl_cons, List.foldl_cons]
          have hfuel' : unmet g acc.1 < fuel := by
            have hle : unmet g acc.1 ≤ unmet g (name :: seen) := unmet_anti hmet
            omega
          rw [visit_fuel (fun h => ih h) hfuel']
          apply ihc
          intro n hn
          obtain ⟨seen', steps'⟩ := acc
          have hn' := hmet n hn
          dsimp only at hn'
          unfold visit
          split
          · obtain ⟨⟨new, hnew⟩, -⟩ := @walk_extends g D fuel (depth + 1) c (seen', steps') (by omega)
            rw [hnew]
            exact List.mem_append_right _ hn'
          · split
            · exact hn'
            · exact List.mem_cons_of_mem _ hn'

/-- The chain from an entry is what the walk gives with any bound above the number of defined
names. -/
theorem chainFrom_fuel (entry : String) {fuel : Nat} (h : g.defined.length + 2 ≤ fuel) :
    (g.walk D fuel entry 0 ([], [])).2.reverse = (g.chainFrom entry D).steps := by
  obtain ⟨k, rfl⟩ := Nat.exists_eq_add_of_le h
  have hlt : unmet g [entry] + 1 < g.defined.length + 2 := by
    have := unmet_le g [entry]
    omega
  rw [walk_fuel_stable hlt k]
  rfl

end Fuel

/-- Steps that a depth-first walk of calls from `entry`, at most `maxDepth` levels down, may
list: the entry first at depth zero, each name once, and every later step one level below the
nearest earlier step a level up, which names a defined function that calls it. -/
structure WalksCalls (g : CallGraph) (entry : String) (maxDepth : Nat) (steps : List Step) :
    Prop where
  starts : steps.head? = some ⟨entry, 0⟩
  distinct : (steps.map (·.function)).Nodup
  later : ∀ (pre : List Step) (f : Step) (post : List Step), steps = pre ++ f :: post →
    pre ≠ [] → 1 ≤ f.depth ∧ (∀ s ∈ pre.getLast?, f.depth ≤ s.depth + 1) ∧ f.depth ≤ maxDepth ∧
      ∃ (pre₁ : List Step) (p : Step) (mid : List Step), pre = pre₁ ++ p :: mid ∧
        p.depth + 1 = f.depth ∧
        (∀ s ∈ mid, s.depth + 1 ≠ f.depth) ∧ p.function ∈ g.defined ∧
        f.function ∈ g.callees p.function

theorem chainFrom_starts (entry : String) (maxDepth : Nat) :
    (g.chainFrom entry maxDepth).steps.head? = some ⟨entry, 0⟩ := by
  obtain ⟨new, hnew⟩ := @walk_first g maxDepth (g.defined.length + 1) 0 entry [] [] rfl
  simp [chainFrom, hnew]

theorem chainFrom_distinct (entry : String) (maxDepth : Nat) :
    ((g.chainFrom entry maxDepth).steps.map (·.function)).Nodup := by
  obtain ⟨hmap, hnodup⟩ := @walk_tracked g maxDepth (g.defined.length + 2) 0 entry ([], [])
    (Nat.zero_le _) ⟨rfl, List.nodup_nil⟩
  rw [chainFrom, List.map_reverse, List.nodup_reverse, ← hmap]
  exact hnodup

theorem chainFrom_depth_le (entry : String) (maxDepth : Nat) :
    ∀ s ∈ (g.chainFrom entry maxDepth).steps, s.depth ≤ maxDepth := by
  intro s hs
  exact @walk_depth_le g maxDepth (g.defined.length + 2) 0 entry ([], []) (Nat.zero_le _)
    (by simp) s (List.mem_reverse.mp hs)

/-- The chain from an entry, on a graph built from sources, for any depth limit: the walk gives
the same chain with any nesting bound past the number of defined names, so it ends on every
graph, recursive or not; and the chain starts with the entry at depth zero, lists each name
once, and every later step lies one level below the nearest earlier step a level up, at most
one level below the step before it and within the limit, and is called by that earlier step's
function, which is defined. -/
theorem chainFrom_walks_calls (hg : Built g) (entry : String) (maxDepth : Nat) :
    (∀ fuel, g.defined.length + 2 ≤ fuel →
      (g.walk maxDepth fuel entry 0 ([], [])).2.reverse = (g.chainFrom entry maxDepth).steps) ∧
    WalksCalls g entry maxDepth (g.chainFrom entry maxDepth).steps := by
  refine ⟨fun fuel h => chainFrom_fuel entry h, chainFrom_starts entry maxDepth,
    chainFrom_distinct entry maxDepth, ?_⟩
  intro pre f post hsplit hpre
  obtain ⟨p, ⟨pre₁, mid, rfl, hd, hmid⟩, hcall⟩ :=
    (chainFrom_nested entry maxDepth).below_of_eq hsplit hpre
  refine ⟨by omega, fun s hs => ?_, chainFrom_depth_le entry maxDepth f (by rw [hsplit]; simp),
    pre₁, p, mid, rfl, hd, fun s hs => ?_, hg.sound.mem_defined_of_mem_callees hcall, hcall⟩
  · obtain ⟨init, hinit⟩ := List.getLast?_eq_some_iff.mp hs
    have hle := le_depth_of_split hinit hmid
    omega
  · have := hmid s hs
    omega

/-- The walk of the mutually recursive `fn a() { b() } fn b() { a(); b() }`. -/
theorem chainFrom_walks_calls_on_recursion :
    Built ⟨[("b", ["a", "b"]), ("a", ["b"])], ["b", "a"]⟩ ∧
      ((∀ fuel, 4 ≤ fuel →
        ((⟨[("b", ["a", "b"]), ("a", ["b"])], ["b", "a"]⟩ : CallGraph).walk 100 fuel "a" 0
          ([], [])).2.reverse =
        ((⟨[("b", ["a", "b"]), ("a", ["b"])], ["b", "a"]⟩ : CallGraph).chainFrom "a" 100).steps) ∧
      WalksCalls ⟨[("b", ["a", "b"]), ("a", ["b"])], ["b", "a"]⟩ "a" 100
        ((⟨[("b", ["a", "b"]), ("a", ["b"])], ["b", "a"]⟩ : CallGraph).chainFrom "a" 100).steps) := by
  have hg : Built ⟨[("b", ["a", "b"]), ("a", ["b"])], ["b", "a"]⟩ :=
    @Built.add .empty _ "fn a() { b() } fn b() { a(); b() }" .empty (by decide +kernel)
  exact ⟨hg, chainFrom_walks_calls hg "a" 100⟩

end AdvisoryTrace.Source.CallGraph
