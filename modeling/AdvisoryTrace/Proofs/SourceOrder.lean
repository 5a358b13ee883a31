import Mathlib
import AdvisoryTrace.Proofs.FolderTrace
import AdvisoryTrace.Proofs.WalkCoverage

/-!
# The order of the sources, and what it changes

A graph keeps each callee list in the order the calls were met, and two functions of one name
in two sources share one list; so adding the same sources in another order can list a
function's callees in another order. Seen as sets, what a source adds does not depend on the
graph it is added to: the defined names gain the functions of its call trees
(`Source.mem_defined_addSource`) and each callee list the calls made in that function
(`CallGraph.mem_callees_addSource`).

`CallGraph.SameCalls` relates graphs that define the same names and record the same callees
for every function. Adding one source to both keeps it (`CallGraph.SameCalls.addSource`), and
adding two sources in either order gives related graphs (`CallGraph.addSource_swap`); so any
reordering of a folder's files does (`Source.foldl_addFile_perm`).

The chain from an entry, with a depth limit no smaller than the number of defined functions,
lists exactly the names reachable from the entry along recorded calls
(`CallGraph.mem_chainFrom_iff_reaches`), which the calls as sets decide.

* `Source.source_order_keeps_calls`: two accepted sources added to a built graph in either order
  give the same defined names and, for every function, callee lists holding the same names once
  each; and the names on the chain of a folder's graph do not depend on the order of its files.
-/

namespace AdvisoryTrace.Source

theorem appendNew_singleton (l : List String) (y : String) :
    appendNew l [y] = if l.contains y then l else l ++ [y] := rfl

theorem mem_appendNew {l xs : List String} {x : String} :
    x ∈ appendNew l xs ↔ x ∈ l ∨ x ∈ xs := by
  induction xs generalizing l with
  | nil => simp [appendNew]
  | cons y ys ih =>
    rw [← List.singleton_append, appendNew_append, ih, appendNew_singleton]
    split
    · rename_i hy
      have hy : y ∈ l := List.contains_iff_mem.mp hy
      grind
    · simp only [List.mem_append, List.mem_cons]
      tauto

theorem nodup_appendNew {l : List String} (hl : l.Nodup) (xs : List String) :
    (appendNew l xs).Nodup := by
  induction xs generalizing l with
  | nil => exact hl
  | cons y ys ih =>
    rw [← List.singleton_append, appendNew_append]
    apply ih
    rw [appendNew_singleton]
    split
    · exact hl
    · rename_i hy
      exact hl.append (List.nodup_singleton y)
        (List.disjoint_singleton.mpr fun h => hy (List.contains_iff_mem.mpr h))

namespace CallGraph

variable {g g' g₁ g₂ g₁' g₂' : CallGraph} {src : String}

/-- Adding a source appends to each callee list, skipping names already there, the calls its
call trees make with that function innermost around them. -/
theorem callees_addSource (hadd : g.addSource src = .ok g') {ts : List CallTree}
    (hread : callForest src = .ok ts) (f : String) :
    g'.callees f = appendNew (g.callees f) (CallTree.forestCallsUnder f none ts) := by
  obtain ⟨hdepth, -⟩ := (addSource_ok_iff g src).mp ⟨g', hadd⟩
  rw [addSource_of_callForest g hdepth hread] at hadd
  cases hadd
  exact callees_forestEvents ts (g, []) f (by simp)

/-- Adding a source records, as a set, the old callees and the calls of its call trees. -/
theorem mem_callees_addSource (hadd : g.addSource src = .ok g') (f x : String) :
    x ∈ g'.callees f ↔
      x ∈ g.callees f ∨ ∃ ts, callForest src = .ok ts ∧ x ∈ CallTree.forestCallsUnder f none ts := by
  obtain ⟨-, ts, hread⟩ := (addSource_ok_iff g src).mp ⟨g', hadd⟩
  rw [callees_addSource hadd hread, mem_appendNew]
  simp [hread]

/-- On a built graph every callee list holds each name once. -/
theorem Built.nodup_callees (hg : Built g) (f : String) : (g.callees f).Nodup := by
  induction hg with
  | empty => simp [callees, CallGraph.empty]
  | add _ hadd ih =>
    obtain ⟨-, ts, hread⟩ := (addSource_ok_iff _ _).mp ⟨_, hadd⟩
    rw [callees_addSource hadd hread]
    exact nodup_appendNew ih _

/-- Two graphs that define the same names and record, for every function, the same callees,
perhaps in another order. -/
structure SameCalls (g₁ g₂ : CallGraph) : Prop where
  defined : ∀ x, x ∈ g₁.defined ↔ x ∈ g₂.defined
  callees : ∀ f x, x ∈ g₁.callees f ↔ x ∈ g₂.callees f

theorem SameCalls.refl (g : CallGraph) : SameCalls g g := ⟨fun _ => Iff.rfl, fun _ _ => Iff.rfl⟩

theorem SameCalls.symm (h : SameCalls g₁ g₂) : SameCalls g₂ g₁ :=
  ⟨fun x => (h.defined x).symm, fun f x => (h.callees f x).symm⟩

theorem SameCalls.trans {g₃ : CallGraph} (h : SameCalls g₁ g₂) (h' : SameCalls g₂ g₃) :
    SameCalls g₁ g₃ :=
  ⟨fun x => (h.defined x).trans (h'.defined x), fun f x => (h.callees f x).trans (h'.callees f x)⟩

/-- One source added to graphs with the same calls gives graphs with the same calls. -/
theorem SameCalls.addSource (h : SameCalls g₁ g₂) (h₁ : g₁.addSource src = .ok g₁')
    (h₂ : g₂.addSource src = .ok g₂') : SameCalls g₁' g₂' :=
  ⟨fun x => by rw [mem_defined_addSource h₁, mem_defined_addSource h₂, h.defined],
    fun f x => by rw [mem_callees_addSource h₁, mem_callees_addSource h₂, h.callees]⟩

/-- Two sources added in either order give graphs with the same calls. -/
theorem addSource_swap {s₁ s₂ : String} {g₁₂ g₂₁ : CallGraph} (h₁ : g.addSource s₁ = .ok g₁)
    (h₁₂ : g₁.addSource s₂ = .ok g₁₂) (h₂ : g.addSource s₂ = .ok g₂)
    (h₂₁ : g₂.addSource s₁ = .ok g₂₁) : SameCalls g₁₂ g₂₁ := by
  constructor
  · intro x
    rw [mem_defined_addSource h₁₂, mem_defined_addSource h₁, mem_defined_addSource h₂₁,
      mem_defined_addSource h₂]
    exact or_right_comm
  · intro f x
    rw [mem_callees_addSource h₁₂, mem_callees_addSource h₁, mem_callees_addSource h₂₁,
      mem_callees_addSource h₂]
    exact or_right_comm

/-- Built graphs with the same calls list the same defined names, each once. -/
theorem SameCalls.perm_defined (h : SameCalls g₁ g₂) (h₁ : Built g₁) (h₂ : Built g₂) :
    g₁.defined.Perm g₂.defined :=
  (List.perm_ext_iff_of_nodup h₁.sound.nodup h₂.sound.nodup).mpr h.defined

/-- Built graphs with the same calls list the same callees of a function, each once. -/
theorem SameCalls.perm_callees (h : SameCalls g₁ g₂) (h₁ : Built g₁) (h₂ : Built g₂)
    (f : String) : (g₁.callees f).Perm (g₂.callees f) :=
  (List.perm_ext_iff_of_nodup (h₁.nodup_callees f) (h₂.nodup_callees f)).mpr (h.callees f)

/-- Reaching a name along recorded calls depends only on the callees as sets. -/
theorem SameCalls.reaches (h : SameCalls g₁ g₂) {e n : String} {k : Nat}
    (hr : Reaches g₁ e n k) : Reaches g₂ e n k := by
  induction hr with
  | entry => exact .entry
  | call _ hn ih => exact .call ih ((h.callees _ _).mp hn)

/-- Every step of steps nested by calls from an entry at depth zero names a function reached
from the entry. -/
theorem reaches_of_nested {l : List Step} (hl : Chain.Nested g.Calls l) {e : String} :
    l.head? = some ⟨e, 0⟩ → ∀ s ∈ l, ∃ k, Reaches g e s.function k := by
  induction hl with
  | root name =>
    intro he s hs
    obtain rfl := List.mem_singleton.mp hs
    obtain rfl : name = e := by simpa using he
    exact ⟨0, .entry⟩
  | @next l p f hl hb hR ih =>
    intro he s hs
    have he' : l.head? = some ⟨e, 0⟩ := by rwa [List.head?_append_of_ne_nil _ hl.ne_nil] at he
    rcases List.mem_append.mp hs with hs | hs
    · exact ih he' s hs
    · -- the new step is called by the step it sits below, which is reached already
      obtain rfl := List.mem_singleton.mp hs
      obtain ⟨pre, mid, hsplit, -, -⟩ := hb
      obtain ⟨k, hk⟩ := ih he' p (by rw [hsplit]; simp)
      exact ⟨k + 1, .call hk hR⟩

/-- With a depth limit no smaller than the number of defined functions, the chain from an entry
lists exactly the names reachable from it along recorded calls. -/
theorem mem_chainFrom_iff_reaches (hg : Built g) {entry : String} {maxDepth : Nat}
    (hd : g.defined.length ≤ maxDepth) (n : String) :
    n ∈ (g.chainFrom entry maxDepth).steps.map (·.function) ↔ ∃ k, Reaches g entry n k := by
  constructor
  · intro hn
    obtain ⟨s, hs, rfl⟩ := List.mem_map.mp hn
    exact reaches_of_nested (chainFrom_nested entry maxDepth) (chainFrom_starts entry maxDepth) s hs
  · rintro ⟨k, hk⟩
    exact mem_chainFrom_of_reaches hg.sound hd hk

/-- Built graphs with the same calls have chains with the same names, from every entry and for
every depth limit no smaller than the number of defined functions. -/
theorem SameCalls.mem_chainFrom_iff (h : SameCalls g₁ g₂) (h₁ : Built g₁) (h₂ : Built g₂)
    (entry : String) {maxDepth : Nat} (hd : g₁.defined.length ≤ maxDepth) (n : String) :
    n ∈ (g₁.chainFrom entry maxDepth).steps.map (·.function) ↔
      n ∈ (g₂.chainFrom entry maxDepth).steps.map (·.function) := by
  have hd₂ : g₂.defined.length ≤ maxDepth := (h.perm_defined h₁ h₂).length_eq ▸ hd
  rw [mem_chainFrom_iff_reaches h₁ hd, mem_chainFrom_iff_reaches h₂ hd₂]
  exact ⟨fun ⟨k, hk⟩ => ⟨k, h.reaches hk⟩, fun ⟨k, hk⟩ => ⟨k, h.symm.reaches hk⟩⟩

end CallGraph

open CallGraph

section Files

variable {g₁ g₂ : CallGraph}

/-- One file added to graphs with the same calls gives graphs with the same calls. -/
theorem sameCalls_addFile (h : SameCalls g₁ g₂) (file : List String × List UInt8) :
    SameCalls (addFile g₁ file) (addFile g₂ file) := by
  cases hfile : acceptedSource file with
  | none =>
    rwa [addFile_of_acceptedSource_none g₁ hfile, addFile_of_acceptedSource_none g₂ hfile]
  | some src =>
    exact h.addSource (addSource_of_acceptedSource g₁ hfile) (addSource_of_acceptedSource g₂ hfile)

/-- Two files added in either order give graphs with the same calls. -/
theorem addFile_swap (g : CallGraph) (a b : List String × List UInt8) :
    SameCalls (addFile (addFile g a) b) (addFile (addFile g b) a) := by
  cases ha : acceptedSource a with
  | none =>
    rw [addFile_of_acceptedSource_none g ha, addFile_of_acceptedSource_none _ ha]
    exact .refl _
  | some s₁ =>
    cases hb : acceptedSource b with
    | none =>
      rw [addFile_of_acceptedSource_none g hb, addFile_of_acceptedSource_none _ hb]
      exact .refl _
    | some s₂ =>
      exact addSource_swap (addSource_of_acceptedSource g ha) (addSource_of_acceptedSource _ hb)
        (addSource_of_acceptedSource g hb) (addSource_of_acceptedSource _ ha)

theorem sameCalls_foldl_addFile (h : SameCalls g₁ g₂) (files : List (List String × List UInt8)) :
    SameCalls (files.foldl addFile g₁) (files.foldl addFile g₂) := by
  induction files generalizing g₁ g₂ with
  | nil => exact h
  | cons file rest ih => exact ih (sameCalls_addFile h file)

/-- Files added in any order give graphs with the same calls. -/
theorem foldl_addFile_perm {files files' : List (List String × List UInt8)}
    (hp : files.Perm files') (g : CallGraph) :
    SameCalls (files.foldl addFile g) (files'.foldl addFile g) := by
  induction hp generalizing g with
  | nil => exact .refl g
  | cons file _ ih => exact ih (addFile g file)
  | swap a b rest => exact sameCalls_foldl_addFile (addFile_swap g b a) rest
  | trans _ _ ih₁ ih₂ => exact (ih₁ g).trans (ih₂ g)

theorem built_addFile {g : CallGraph} (hg : Built g) (file : List String × List UInt8) :
    Built (addFile g file) := by
  cases hfile : acceptedSource file with
  | none => rwa [addFile_of_acceptedSource_none g hfile]
  | some src => exact .add hg (addSource_of_acceptedSource g hfile)

theorem built_folderGraph (d : Disk) (folder : List String) : Built (folderGraph d folder) :=
  foldl_invariant Built addFile .empty fun _ _ _ hg => built_addFile hg _

/-- A disk that lists the same nodes in another order walks the same files in that order. -/
theorem filesBelow_perm {d d' : Disk} (hp : d'.nodes.Perm d.nodes) (start skipped : List String) :
    (d'.filesBelow start skipped).Perm (d.filesBelow start skipped) :=
  hp.filterMap _

end Files

/-- Two sources that adding accepts, added to a graph built from sources in either order, give
graphs that define the same names, once each, and record for every function the same callees,
once each, perhaps in another order. So the graph of a folder, whatever order its files are
met in, has the same names on the chain from every entry, for every depth limit no smaller than
the number of defined functions. -/
theorem source_order_keeps_calls :
    (∀ (g : CallGraph) (s₁ s₂ : String), Built g → (∃ g₁, g.addSource s₁ = .ok g₁) →
      (∃ g₂, g.addSource s₂ = .ok g₂) →
      ∃ g₁ g₁₂ g₂ g₂₁, g.addSource s₁ = .ok g₁ ∧ g₁.addSource s₂ = .ok g₁₂ ∧
        g.addSource s₂ = .ok g₂ ∧ g₂.addSource s₁ = .ok g₂₁ ∧
        g₁₂.defined.Perm g₂₁.defined ∧
        ∀ f, (g₁₂.callees f).Perm (g₂₁.callees f) ∧ (g₁₂.callees f).Nodup ∧
          (g₂₁.callees f).Nodup) ∧
    (∀ (d d' : Disk) (folder : List String), d'.nodes.Perm d.nodes →
      ∀ (entry : String) (maxDepth : Nat), (folderGraph d folder).defined.length ≤ maxDepth →
      ∀ n, n ∈ ((folderGraph d folder).chainFrom entry maxDepth).steps.map (·.function) ↔
        n ∈ ((folderGraph d' folder).chainFrom entry maxDepth).steps.map (·.function)) := by
  constructor
  · rintro g s₁ s₂ hg ⟨g₁, h₁⟩ ⟨g₂, h₂⟩
    -- whether a source is accepted does not depend on the graph
    obtain ⟨g₁₂, h₁₂⟩ := (addSource_ok_iff g₁ s₂).mpr ((addSource_ok_iff g s₂).mp ⟨g₂, h₂⟩)
    obtain ⟨g₂₁, h₂₁⟩ := (addSource_ok_iff g₂ s₁).mpr ((addSource_ok_iff g s₁).mp ⟨g₁, h₁⟩)
    have hb₁₂ : Built g₁₂ := .add (.add hg h₁) h₁₂
    have hb₂₁ : Built g₂₁ := .add (.add hg h₂) h₂₁
    have hsame := addSource_swap h₁ h₁₂ h₂ h₂₁
    exact ⟨g₁, g₁₂, g₂, g₂₁, h₁, h₁₂, h₂, h₂₁, hsame.perm_defined hb₁₂ hb₂₁,
      fun f => ⟨hsame.perm_callees hb₁₂ hb₂₁ f, hb₁₂.nodup_callees f, hb₂₁.nodup_callees f⟩⟩
  · intro d d' folder hp entry maxDepth hd n
    have hsame : SameCalls (folderGraph d folder) (folderGraph d' folder) :=
      foldl_addFile_perm (filesBelow_perm hp _ _).symm .empty
    exact hsame.mem_chainFrom_iff (built_folderGraph d folder) (built_folderGraph d' folder) entry
      hd n

end AdvisoryTrace.Source
