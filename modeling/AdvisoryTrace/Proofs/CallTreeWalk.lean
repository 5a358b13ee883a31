import Mathlib
import AdvisoryTrace.Proofs.BuiltGraph

/-!
# What adding a source does to a call graph

A source that reads becomes call trees (`Source.callForest`): each function with a body holds the
call trees met inside it in walk order, and each call names a function. Adding the source walks
the trees' events with a stack of the functions being read. `CallGraph.step` is one event of that
walk with its stack kept, and `CallGraph.apply` is the graph its fold leaves
(`CallGraph.apply_eq_foldl`). One case per constructor of a call tree gives:

* the walk of trees leaves the stack as it found it (`CallGraph.stack_forestEvents`), so the
  stack is empty again after a file;
* the defined names gain the functions of the trees at any depth
  (`CallGraph.mem_defined_forestEvents`);
* each function's callee list gains, in walk order and skipping names already there, the names
  called with that function innermost around the call (`CallGraph.callees_forestEvents`): two
  functions of one name share one list, and a call outside every function is dropped.
-/

namespace AdvisoryTrace.Source

namespace CallTree

mutual

/-- The functions of a call tree at any depth, in walk order. -/
def functionNames : CallTree → List String
  | .function name body => name.text :: forestFunctionNames body
  | .call _ => []

/-- The functions of call trees at any depth, in walk order. -/
def forestFunctionNames : List CallTree → List String
  | [] => []
  | t :: rest => t.functionNames ++ forestFunctionNames rest

end

mutual

/-- The names a call tree calls with `f` the innermost function around the call, in walk order;
`outer` is the function around the tree itself. -/
def callsUnder (f : String) (outer : Option String) : CallTree → List String
  | .function name body => forestCallsUnder f (some name.text) body
  | .call name => if outer = some f then [name.text] else []

/-- The names call trees call with `f` the innermost function around the call. -/
def forestCallsUnder (f : String) (outer : Option String) : List CallTree → List String
  | [] => []
  | t :: rest => callsUnder f outer t ++ forestCallsUnder f outer rest

end

@[simp] theorem events_function (name : Identifier) (body : List CallTree) :
    (CallTree.function name body).events = .enter name :: forestEvents body ++ [.leave] := by
  rw [events]

@[simp] theorem events_call (name : Identifier) : (CallTree.call name).events = [.call name] := by
  rw [events]

@[simp] theorem forestEvents_nil : forestEvents [] = [] := by
  rw [forestEvents]

@[simp] theorem forestEvents_cons (t : CallTree) (rest : List CallTree) :
    forestEvents (t :: rest) = t.events ++ forestEvents rest := by
  rw [forestEvents]

end CallTree

/-- Names appended in turn to a list, each only when it is not there yet. -/
def appendNew (l xs : List String) : List String :=
  xs.foldl (fun acc x => if acc.contains x then acc else acc ++ [x]) l

theorem appendNew_append (l xs ys : List String) :
    appendNew l (xs ++ ys) = appendNew (appendNew l xs) ys :=
  List.foldl_append

namespace CallGraph

/-- One event of the walk, with the stack of the functions being read: entering a function
defines it and puts it on the stack, leaving takes it off, and a call is recorded for the
function on top, if any. -/
def step : CallGraph × List String → Event → CallGraph × List String
  | (g, stack), .enter name => (g.define name.text, name.text :: stack)
  | (g, stack), .leave => (g, stack.tail)
  | (g, caller :: rest), .call name => (g.addCall caller name.text, caller :: rest)
  | (g, []), .call _ => (g, [])

theorem apply_eq_foldl (g : CallGraph) (stack : List String) (events : List Event) :
    g.apply stack events = (events.foldl step (g, stack)).1 := by
  induction events generalizing g stack with
  | nil => rfl
  | cons e rest ih =>
    cases e with
    | enter name => exact ih _ _
    | leave => exact ih _ _
    | call name =>
      cases stack with
      | nil => exact ih _ _
      | cons caller _ => exact ih _ _

/-- Whether a function has an entry for its calls. -/
def HasEntry (g : CallGraph) (name : String) : Prop := name ∈ g.calls.map (·.1)

section Primitives

/-- A name put in front of a list unless the test says it is there already. -/
theorem mem_ite_cons {c : Bool} {l : List String} {a : String} (hc : c = true → a ∈ l)
    (x : String) : x ∈ (if c then l else a :: l) ↔ x ∈ l ∨ x = a := by
  split
  · rename_i hthere
    constructor
    · exact .inl
    · rintro (h | rfl)
      · exact h
      · exact hc hthere
  · simp [or_comm]

/-- Recording a call keeps the name of every entry. -/
@[simp] theorem fst_recordCall (caller callee : String) (entry : String × List String) :
    (if entry.1 == caller && !entry.2.contains callee then (entry.1, entry.2 ++ [callee])
      else entry).1 = entry.1 := by
  split <;> rfl

variable (g : CallGraph)

theorem hasEntry_define (name x : String) :
    (g.define name).HasEntry x ↔ g.HasEntry x ∨ x = name := by
  show x ∈ (if g.calls.any (·.1 == name) then g.calls else (name, []) :: g.calls).map (·.1) ↔ _
  rw [apply_ite (List.map fun entry : String × List String => entry.1), List.map_cons]
  exact mem_ite_cons (fun hany => by simpa using hany) x

theorem hasEntry_addCall (caller callee x : String) :
    (g.addCall caller callee).HasEntry x ↔ g.HasEntry x := by
  simp only [HasEntry, addCall, List.map_map, Function.comp_def, fst_recordCall]

theorem mem_defined_define (name x : String) :
    x ∈ (g.define name).defined ↔ x ∈ g.defined ∨ x = name :=
  mem_ite_cons (fun hname => by simpa using hname) x

theorem callees_define (name f : String) : (g.define name).callees f = g.callees f := by
  unfold define callees
  split
  · rfl
  · rename_i hany
    by_cases hf : f = name
    · subst hf
      have hnone : g.calls.find? (·.1 == f) = none := by
        rw [List.find?_eq_none]
        intro entry hentry hkey
        exact hany (List.any_eq_true.mpr ⟨entry, hentry, hkey⟩)
      simp [hnone]
    · simp [Ne.symm hf]

theorem callees_addCall {caller : String} (h : g.HasEntry caller) (callee f : String) :
    (g.addCall caller callee).callees f =
      if f = caller then appendNew (g.callees f) [callee] else g.callees f := by
  unfold addCall callees
  -- the entry found for `f` is the same before and after, and only the caller's one grows
  simp only [List.find?_map, Function.comp_def, fst_recordCall]
  split
  · rename_i hf
    subst hf
    obtain ⟨entry, hentry, hkey⟩ := List.mem_map.mp h
    obtain ⟨found, hfound⟩ : ∃ found, g.calls.find? (·.1 == f) = some found :=
      Option.isSome_iff_exists.mp (List.find?_isSome.mpr ⟨entry, hentry, by simp [hkey]⟩)
    have hkey' : found.1 = f := by simpa using List.find?_some hfound
    simp only [hfound, Option.map_some, Option.getD_some, hkey', beq_self_eq_true,
      Bool.true_and, appendNew, List.foldl_cons, List.foldl_nil]
    split <;> simp_all
  · rename_i hf
    cases hfound : g.calls.find? (·.1 == f) with
    | none => rfl
    | some found =>
      have hkey : found.1 = f := by simpa using List.find?_some hfound
      simp [hkey, hf]

end Primitives

section Walk

theorem step_enter (g : CallGraph) (stack : List String) (name : Identifier) :
    step (g, stack) (.enter name) = (g.define name.text, name.text :: stack) := rfl

theorem step_leave_fst (q : CallGraph × List String) : (step q .leave).1 = q.1 := rfl

mutual

/-- The walk of a call tree leaves the stack as it found it. -/
theorem stack_events : ∀ (t : CallTree) (p : CallGraph × List String),
    (t.events.foldl step p).2 = p.2
  | .function name body, (g, stack) => by
    simp only [CallTree.events_function, List.foldl_cons, List.foldl_append, List.foldl_nil]
    have hbody := stack_forestEvents body (step (g, stack) (.enter name))
    generalize (CallTree.forestEvents body).foldl step (step (g, stack) (.enter name)) = q at hbody
    obtain ⟨g', stack'⟩ := q
    simp only [step] at hbody ⊢
    rw [hbody]
    rfl
  | .call name, (g, stack) => by
    cases stack <;> rfl

/-- The walk of call trees in turn leaves the stack as it found it. -/
theorem stack_forestEvents : ∀ (ts : List CallTree) (p : CallGraph × List String),
    ((CallTree.forestEvents ts).foldl step p).2 = p.2
  | [], _ => rfl
  | t :: rest, p => by
    rw [CallTree.forestEvents_cons, List.foldl_append, stack_forestEvents rest, stack_events t p]

end

section Functions

/- A fact about names of a graph that defining a name makes true of that name and recording a
call leaves as it was: having an entry, being defined. -/
variable (P : CallGraph → String → Prop)

mutual

/-- The walk of a call tree makes such a fact true of each of its functions and of nothing
else. -/
theorem functionNames_events
    (hdefine : ∀ g name x, P (g.define name) x ↔ P g x ∨ x = name)
    (haddCall : ∀ g caller callee x, P (g.addCall caller callee) x ↔ P g x) :
    ∀ (t : CallTree) (p : CallGraph × List String) (x : String),
      P (t.events.foldl step p).1 x ↔ P p.1 x ∨ x ∈ t.functionNames
  | .function name body, (g, stack), x => by
    simp only [CallTree.events_function, List.foldl_cons, List.foldl_append, List.foldl_nil]
    rw [step_leave_fst, functionNames_forestEvents hdefine haddCall body, step_enter, hdefine,
      CallTree.functionNames, List.mem_cons]
    tauto
  | .call name, (g, stack), x => by
    cases stack <;> simp [step, haddCall, CallTree.functionNames]

/-- The walk of call trees makes such a fact true of each of their functions and of nothing
else. -/
theorem functionNames_forestEvents
    (hdefine : ∀ g name x, P (g.define name) x ↔ P g x ∨ x = name)
    (haddCall : ∀ g caller callee x, P (g.addCall caller callee) x ↔ P g x) :
    ∀ (ts : List CallTree) (p : CallGraph × List String) (x : String),
      P ((CallTree.forestEvents ts).foldl step p).1 x ↔
        P p.1 x ∨ x ∈ CallTree.forestFunctionNames ts
  | [], _, _ => by simp [CallTree.forestFunctionNames]
  | t :: rest, p, x => by
    rw [CallTree.forestEvents_cons, List.foldl_append,
      functionNames_forestEvents hdefine haddCall rest, functionNames_events hdefine haddCall t p,
      CallTree.forestFunctionNames, List.mem_append, or_assoc]

end

end Functions

/-- The walk of a call tree adds an entry for each of its functions and for nothing else. -/
theorem hasEntry_events (t : CallTree) (p : CallGraph × List String) (x : String) :
    (t.events.foldl step p).1.HasEntry x ↔ p.1.HasEntry x ∨ x ∈ t.functionNames :=
  functionNames_events HasEntry hasEntry_define hasEntry_addCall t p x

/-- The walk of call trees defines each of their functions and nothing else. -/
theorem mem_defined_forestEvents (ts : List CallTree) (p : CallGraph × List String) (x : String) :
    x ∈ ((CallTree.forestEvents ts).foldl step p).1.defined ↔
      x ∈ p.1.defined ∨ x ∈ CallTree.forestFunctionNames ts :=
  functionNames_forestEvents (fun g x => x ∈ g.defined) mem_defined_define
    (fun _ _ _ _ => Iff.rfl) ts p x

mutual

/-- The walk of a call tree appends to each function's callee list, in walk order and skipping
names already there, what the tree calls with that function innermost around the call; the
function on top of the stack, which has an entry, is the one around the tree. -/
theorem callees_events : ∀ (t : CallTree) (p : CallGraph × List String) (f : String),
    (∀ c ∈ p.2.head?, p.1.HasEntry c) →
    (t.events.foldl step p).1.callees f = appendNew (p.1.callees f) (t.callsUnder f p.2.head?)
  | .function name body, (g, stack), f, _ => by
    simp only [CallTree.events_function, List.foldl_cons, List.foldl_append, List.foldl_nil]
    have hentry : ∀ c ∈ (step (g, stack) (.enter name)).2.head?,
        (step (g, stack) (.enter name)).1.HasEntry c := by
      intro c hc
      simp only [step, List.head?_cons, Option.mem_def, Option.some.injEq] at hc
      simp [step, hasEntry_define, hc]
    rw [step_leave_fst, callees_forestEvents body _ f hentry]
    simp [step, callees_define, CallTree.callsUnder]
  | .call name, (g, stack), f, h => by
    cases stack with
    | nil => simp [step, CallTree.callsUnder, appendNew]
    | cons caller rest =>
      simp only [CallTree.events_call, List.foldl_cons, List.foldl_nil, step,
        CallTree.callsUnder, List.head?_cons, Option.some.injEq]
      rw [callees_addCall g (h caller rfl)]
      by_cases hf : f = caller
      · simp [hf]
      · simp [hf, Ne.symm hf, appendNew]

/-- The walk of call trees appends to each function's callee list, in walk order and skipping
names already there, what they call with that function innermost around the call. -/
theorem callees_forestEvents : ∀ (ts : List CallTree) (p : CallGraph × List String) (f : String),
    (∀ c ∈ p.2.head?, p.1.HasEntry c) →
    ((CallTree.forestEvents ts).foldl step p).1.callees f =
      appendNew (p.1.callees f) (CallTree.forestCallsUnder f p.2.head? ts)
  | [], _, _, _ => by simp [CallTree.forestCallsUnder, appendNew]
  | t :: rest, p, f, h => by
    have hafter : ∀ c ∈ (t.events.foldl step p).2.head?, (t.events.foldl step p).1.HasEntry c := by
      rw [stack_events t p]
      intro c hc
      exact (hasEntry_events t p c).mpr (.inl (h c hc))
    rw [CallTree.forestEvents_cons, List.foldl_append, callees_forestEvents rest _ f hafter,
      stack_events t p, callees_events t p f h, CallTree.forestCallsUnder, appendNew_append]

end

end Walk

/-- A source within the nesting limit that reads as call trees is added as the walk of its
trees. -/
theorem addSource_of_callForest (g : CallGraph) {src : String} {ts : List CallTree}
    (hdepth : maxNesting src ≤ nestingLimit) (hread : callForest src = .ok ts) :
    g.addSource src = .ok ((CallTree.forestEvents ts).foldl step (g, [])).1 := by
  have hevents : fileEvents src = .ok (CallTree.forestEvents ts) := by
    rw [fileEvents, hread]
    rfl
  rw [addSource, if_neg (Nat.not_lt.mpr hdepth), hevents]
  exact congrArg Except.ok (apply_eq_foldl g [] _)

/-- Whether a source is added does not depend on the graph: it is when it is within the nesting
limit and reads as call trees. -/
theorem addSource_ok_iff (g : CallGraph) (src : String) :
    (∃ g', g.addSource src = .ok g') ↔
      maxNesting src ≤ nestingLimit ∧ ∃ ts, callForest src = .ok ts := by
  constructor
  · rintro ⟨g', hadd⟩
    simp only [addSource] at hadd
    split at hadd
    · cases hadd
    rename_i hdepth
    refine ⟨Nat.not_lt.mp hdepth, ?_⟩
    cases hread : callForest src with
    | error e => simp [fileEvents, hread] at hadd
    | ok ts => exact ⟨ts, rfl⟩
  · rintro ⟨hdepth, ts, hread⟩
    exact ⟨_, addSource_of_callForest g hdepth hread⟩

/-- What adding a source within the nesting limit does, for every source the reader turns into
call trees: the graph is that of the walk of its trees, after which the stack of functions being
read is empty again; the defined names gain every function of the trees at any depth; each
function's callee list gains, in walk order and skipping names already there, the names called
with that function innermost around the call, so two functions of one name share one list and a
call outside every function is dropped; and a sound graph, each of whose callee lists belongs to
a defined name, stays sound. -/
theorem adding_source_walks_call_trees (g : CallGraph) (src : String) (ts : List CallTree)
    (hdepth : maxNesting src ≤ nestingLimit) (hread : callForest src = .ok ts) :
    g.addSource src = .ok ((CallTree.forestEvents ts).foldl step (g, [])).1 ∧
    ((CallTree.forestEvents ts).foldl step (g, [])).2 = [] ∧
    (∀ x, x ∈ ((CallTree.forestEvents ts).foldl step (g, [])).1.defined ↔
      x ∈ g.defined ∨ x ∈ CallTree.forestFunctionNames ts) ∧
    (∀ f, ((CallTree.forestEvents ts).foldl step (g, [])).1.callees f =
      appendNew (g.callees f) (CallTree.forestCallsUnder f none ts)) ∧
    (g.Sound → ((CallTree.forestEvents ts).foldl step (g, [])).1.Sound) := by
  have hadd := addSource_of_callForest g hdepth hread
  refine ⟨hadd, stack_forestEvents ts (g, []), mem_defined_forestEvents ts (g, []),
    fun f => callees_forestEvents ts (g, []) f (by simp), fun hsound => ?_⟩
  exact addSource_invariant Sound (fun _ name hg => hg.define name.text)
    (fun _ caller name hg => hg.addCall caller name.text) hsound hadd

/-- A function with a call, a closure, a nested function and a method call: `f` calls `g`, `h`
(inside its closure) and `m`, and the nested `inner` calls `k`. -/
theorem adding_source_with_nested_function :
    ∃ g' : CallGraph,
      CallGraph.empty.addSource
          "fn f() { g(); let c = || h(); fn inner() { k() } x.m(); } fn g() {}" = .ok g' ∧
        g'.callees "f" = ["g", "h", "m"] ∧ g'.callees "inner" = ["k"] ∧ g'.callees "g" = [] := by
  obtain ⟨hadd, -, -, hcallees, -⟩ := adding_source_walks_call_trees CallGraph.empty
    "fn f() { g(); let c = || h(); fn inner() { k() } x.m(); } fn g() {}"
    [.function ⟨"f", false, by decide⟩ [.call ⟨"g", false, by decide⟩,
      .call ⟨"h", false, by decide⟩,
      .function ⟨"inner", false, by decide⟩ [.call ⟨"k", false, by decide⟩],
      .call ⟨"m", false, by decide⟩],
     .function ⟨"g", false, by decide⟩ []] (by decide +kernel) (by decide +kernel)
  refine ⟨_, hadd, ?_, ?_, ?_⟩ <;> rw [hcallees] <;> decide +kernel

end CallGraph

end AdvisoryTrace.Source
