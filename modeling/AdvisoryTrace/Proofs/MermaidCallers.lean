import Mathlib
import AdvisoryTrace.Chain.Mermaid

/-!
# Who calls whom in a chain's flowchart

A chain's flowchart should draw, for each step, one edge from its caller: the nearest earlier
step one level above it (`Chain.callerIn`); a step with no such step gets none
(`Chain.callEdges`). A flat chain, all at depth zero, is read as calls from each step to the
next (`Chain.flatEdges`).

The flowchart keeps a stack of ancestors, cuts it to each step's depth and pushes the step. The
stack holds the latest step at each level only while the depths start at zero and rise by at
most one from a step to the next (`Chain.Stepwise`), as the text of a walk has them. On such a
chain the stack after a step holds one name per level down to it (`Chain.length_ancestors`),
cutting it to one level below an earlier step gives back the stack that step left while every
step since lies deeper (`Chain.take_ancestors`), and every step off depth zero sits below an
earlier step (`Chain.exists_below`). A chain that jumps a level instead gets an edge from
whatever the stack holds.

* `Chain.mermaid_draws_callers`: a flat chain is drawn with one edge from each step to the
  next, and a stepwise chain that leaves depth zero with exactly the edges `callEdges` gives;
* `Chain.edges_of_nested`: in a chain nested through a relation (each step below an earlier one
  it stands in the relation to), each step after the first gets one edge, from that step.
-/

namespace AdvisoryTrace.Chain

/-- The nearest of the steps `pre`, listed in order, one level above `f`. -/
def callerIn (pre : List Step) (f : Step) : Option Step :=
  pre.reverse.find? fun p => p.depth + 1 == f.depth

/-- The edges due to the steps listed after `pre`: a step with a caller among the steps before
it gets an edge from that caller. -/
def callEdgesAfter : List Step → List Step → List String
  | _, [] => []
  | pre, f :: rest =>
    ((callerIn pre f).map fun p => edge p.function f.function).toList ++
      callEdgesAfter (pre ++ [f]) rest

/-- The edges a chain's steps call for, in step order. -/
def callEdges (steps : List Step) : List String := callEdgesAfter [] steps

/-- The edges of a flat chain: from each name to the next. -/
def flatEdges (names : List String) : List String := List.zipWith edge names names.tail

/-- Depths that start at zero and rise by at most one from each step to the next. -/
def Stepwise (steps : List Step) : Prop :=
  (∀ s ∈ steps.head?, s.depth = 0) ∧ steps.IsChain fun a b => b.depth ≤ a.depth + 1

theorem callEdgesAfter_concat (pre l : List Step) (f : Step) :
    callEdgesAfter pre (l ++ [f]) = callEdgesAfter pre l ++
      ((callerIn (pre ++ l) f).map fun p => edge p.function f.function).toList := by
  induction l generalizing pre with
  | nil => simp [callEdgesAfter]
  | cons s l ih => simp [callEdgesAfter, ih]

theorem callEdges_concat (l : List Step) (f : Step) :
    callEdges (l ++ [f]) = callEdges l ++
      ((callerIn l f).map fun p => edge p.function f.function).toList :=
  callEdgesAfter_concat [] l f

theorem flatEdges_concat (names : List String) (n : String) :
    flatEdges (names ++ [n]) = flatEdges names ++ (names.getLast?.map fun m => edge m n).toList := by
  induction names with
  | nil => rfl
  | cons m names ih =>
    cases names with
    | nil => rfl
    | cons m' names =>
      simp only [flatEdges, List.cons_append, List.tail_cons, List.zipWith_cons_cons] at ih ⊢
      rw [ih, List.getLast?_cons_cons]

theorem stepwise_concat {l : List Step} {s : Step} :
    Stepwise (l ++ [s]) ↔
      Stepwise l ∧ (l = [] → s.depth = 0) ∧ ∀ t ∈ l.getLast?, s.depth ≤ t.depth + 1 := by
  unfold Stepwise
  rw [List.isChain_append]
  rcases l with _ | ⟨a, l⟩ <;> simp [and_assoc]

/-- In steps listed in walk order, the step `f` listed next sits below `p`: one level deeper,
with every step listed after `p` deeper than `p`. -/
def Below (l : List Step) (p f : Step) : Prop :=
  ∃ pre mid, l = pre ++ p :: mid ∧ p.depth + 1 = f.depth ∧ ∀ s ∈ mid, p.depth < s.depth

/-- Steps in walk order from one at depth zero, each later step sitting below an earlier one
to which it stands in `R`. -/
inductive Nested (R : Step → Step → Prop) : List Step → Prop
  | root (name : String) : Nested R [⟨name, 0⟩]
  | next {l : List Step} {p f : Step} : Nested R l → Below l p f → R p f → Nested R (l ++ [f])

theorem Nested.ne_nil {R : Step → Step → Prop} {l : List Step} (h : Nested R l) : l ≠ [] := by
  cases h with
  | root => exact List.cons_ne_nil _ _
  | next => exact List.concat_ne_nil _ _

/-- The step a later one sits below is the nearest one level above it. -/
theorem callerIn_of_below {l : List Step} {p f : Step} (h : Below l p f) :
    callerIn l f = some p := by
  obtain ⟨pre, mid, rfl, hd, hmid⟩ := h
  have hnone : mid.reverse.find? (fun s => s.depth + 1 == f.depth) = none := by
    rw [List.find?_eq_none]
    intro s hs
    have hlt := hmid s (List.mem_reverse.mp hs)
    simp only [beq_iff_eq]
    omega
  simp [callerIn, List.find?_append, hnone, hd]

/-- One step of drawing: the stack of ancestors and the edges so far. -/
def drawStep (flat : Bool) (acc : List String × List String) (s : Step) :
    List String × List String :=
  ((mermaidStep flat acc.1 s).1, acc.2 ++ (mermaidStep flat acc.1 s).2.toList)

/-- The stack and the edges after drawing steps. -/
def drawn (flat : Bool) (l : List Step) : List String × List String :=
  l.foldl (drawStep flat) ([], [])

theorem edges_eq_drawn (c : Chain) : c.edges = (drawn (c.steps.all (·.depth == 0)) c.steps).2 :=
  rfl

theorem drawn_concat (flat : Bool) (l : List Step) (s : Step) :
    drawn flat (l ++ [s]) = drawStep flat (drawn flat l) s := by
  simp [drawn]

/-- Past the first step the stack is cut to each step's depth, then the step goes on it. -/
theorem ancestors_concat (l : List Step) (s : Step) :
    (drawn false (l ++ [s])).1 = (drawn false l).1.take s.depth ++ [s.function] := by
  rw [drawn_concat]
  rfl

theorem edges_concat (l : List Step) (s : Step) :
    (drawn false (l ++ [s])).2 = (drawn false l).2 ++
      (((drawn false l).1.take s.depth).getLast?.map fun caller => edge caller s.function).toList := by
  rw [drawn_concat]
  rfl

/-- Drawn flat, the stack is every name so far, so each step is called by the one before. -/
theorem drawn_flat (l : List Step) :
    drawn true l = (l.map (·.function), flatEdges (l.map (·.function))) := by
  induction l using List.reverseRecOn with
  | nil => rfl
  | append_singleton l s ih =>
    rw [drawn_concat, ih]
    simp [drawStep, mermaidStep, flatEdges_concat]

theorem eq_of_concat_eq {l₁ l₂ : List Step} {s₁ s₂ : Step} (h : l₁ ++ [s₁] = l₂ ++ [s₂]) :
    l₁ = l₂ ∧ s₁ = s₂ := by
  obtain ⟨hl, hs⟩ := List.append_inj' h rfl
  exact ⟨hl, List.singleton_inj.mp hs⟩

/-- The last step of a list split before a step `p` lies at least as deep as `p`, when every
step after `p` lies deeper. -/
theorem le_depth_of_split {pre mid l₀ : List Step} {p s : Step} (hl : pre ++ p :: mid = l₀ ++ [s])
    (hmid : ∀ t ∈ mid, p.depth < t.depth) : p.depth ≤ s.depth := by
  rcases List.eq_nil_or_concat' mid with rfl | ⟨mid', t, rfl⟩
  · obtain ⟨-, rfl⟩ := eq_of_concat_eq hl
    exact le_rfl
  · rw [← List.cons_append, ← List.append_assoc] at hl
    obtain ⟨-, rfl⟩ := eq_of_concat_eq hl
    exact (hmid _ (List.mem_append_right _ List.mem_cons_self)).le

section Stepwise

/-- On a stepwise chain the stack after a step holds one name per level down to it. -/
theorem length_ancestors {l : List Step} (h : Stepwise l) {t : Step} (ht : l.getLast? = some t) :
    (drawn false l).1.length = t.depth + 1 := by
  induction l using List.reverseRecOn generalizing t with
  | nil => simp at ht
  | append_singleton l s ih =>
    obtain rfl : s = t := by simpa using ht
    obtain ⟨hl, hnil, hlast⟩ := stepwise_concat.mp h
    rw [ancestors_concat, List.length_append, List.length_take, List.length_singleton]
    cases hl' : l.getLast? with
    | none =>
      obtain rfl := List.getLast?_eq_none_iff.mp hl'
      simp [hnil rfl, drawn]
    | some u =>
      rw [ih hl hl']
      have hsu := hlast u hl'
      omega

/-- On a stepwise chain the stack cut to one level below an earlier step is the stack that step
left, when every step since lies deeper. -/
theorem take_ancestors {pre mid : List Step} {p : Step} (h : Stepwise (pre ++ p :: mid))
    (hmid : ∀ s ∈ mid, p.depth < s.depth) :
    (drawn false (pre ++ p :: mid)).1.take (p.depth + 1) = (drawn false (pre ++ [p])).1 := by
  induction mid using List.reverseRecOn with
  | nil => exact List.take_of_length_le (length_ancestors h (by simp)).le
  | append_singleton mid t ih =>
    have hsplit : pre ++ p :: (mid ++ [t]) = (pre ++ p :: mid) ++ [t] := by simp
    rw [hsplit] at h ⊢
    obtain ⟨hl, -, hlast⟩ := stepwise_concat.mp h
    have hpt : p.depth < t.depth := hmid t (by simp)
    -- the stack `t` finds reaches its level, so cutting it keeps every level down to `p`'s
    obtain ⟨init, u, hu⟩ := (List.eq_nil_or_concat' (pre ++ p :: mid)).resolve_left (by simp)
    have hgl : (pre ++ p :: mid).getLast? = some u := by rw [hu]; simp
    have hlen : t.depth ≤ (drawn false (pre ++ p :: mid)).1.length := by
      rw [length_ancestors hl hgl]
      have hut := hlast u hgl
      omega
    rw [ancestors_concat, List.take_append_of_le_length (by rw [List.length_take]; omega),
      List.take_take, min_eq_left (by omega)]
    exact ih hl fun s hs => hmid s (List.mem_append_left _ hs)

/-- On a stepwise chain every step that may come next off depth zero sits below an earlier
step: the depths cannot skip the level above it on their way down. -/
theorem exists_below {l : List Step} (h : Stepwise l) {t f : Step} (ht : l.getLast? = some t)
    (hf : 0 < f.depth) (hft : f.depth ≤ t.depth + 1) : ∃ p, Below l p f := by
  induction l using List.reverseRecOn generalizing t with
  | nil => simp at ht
  | append_singleton l s ih =>
    obtain rfl : s = t := by simpa using ht
    obtain ⟨hl, hnil, hlast⟩ := stepwise_concat.mp h
    by_cases heq : s.depth + 1 = f.depth
    · exact ⟨s, l, [], rfl, heq, by simp⟩
    · -- `s` lies at `f`'s level or deeper, so `f`'s caller comes before it
      cases hl' : l.getLast? with
      | none =>
        obtain rfl := List.getLast?_eq_none_iff.mp hl'
        have := hnil rfl
        omega
      | some u =>
        have hsu := hlast u hl'
        obtain ⟨p, pre, mid, rfl, hd, hmid⟩ := ih hl hl' (by omega)
        refine ⟨p, pre, mid ++ [s], by simp, hd, fun r hr => ?_⟩
        rcases List.mem_append.mp hr with hr | hr
        · exact hmid r hr
        · obtain rfl := List.mem_singleton.mp hr
          omega

/-- On a stepwise chain the stack cut to a step's depth ends with that step's caller. -/
theorem getLast?_take_ancestors {l : List Step} {f : Step} (h : Stepwise (l ++ [f])) :
    ((drawn false l).1.take f.depth).getLast? = (callerIn l f).map (·.function) := by
  rcases Nat.eq_zero_or_pos f.depth with hf | hf
  · -- nothing lies above depth zero
    have hnone : callerIn l f = none := by
      rw [callerIn, List.find?_eq_none]
      intro s _
      simp [hf]
    simp [hf, hnone]
  · obtain ⟨hl, hnil, hlast⟩ := stepwise_concat.mp h
    cases ht : l.getLast? with
    | none =>
      obtain rfl := List.getLast?_eq_none_iff.mp ht
      have := hnil rfl
      omega
    | some t =>
      obtain ⟨p, pre, mid, hsplit, hd, hmid⟩ := exists_below hl ht hf (hlast t ht)
      rw [callerIn_of_below ⟨pre, mid, hsplit, hd, hmid⟩, ← hd, hsplit,
        take_ancestors (hsplit ▸ hl) hmid, ancestors_concat, List.getLast?_concat]
      rfl

/-- A stepwise chain is drawn with the edges its steps call for. -/
theorem drawn_edges {l : List Step} (h : Stepwise l) : (drawn false l).2 = callEdges l := by
  induction l using List.reverseRecOn with
  | nil => rfl
  | append_singleton l f ih =>
    rw [edges_concat, ih (stepwise_concat.mp h).1, getLast?_take_ancestors h, callEdges_concat,
      Option.map_map]
    rfl

end Stepwise

/-- The flowchart of a flat chain has one edge from each step to the next; that of a stepwise
chain which leaves depth zero has, in step order, one edge for each step with a step one level
above it earlier on, from the nearest such step, and no other edge. -/
theorem mermaid_draws_callers (c : Chain) :
    ((∀ s ∈ c.steps, s.depth = 0) →
      c.mermaid = "\n".intercalate ("graph TD" :: flatEdges (c.steps.map (·.function)))) ∧
    (Stepwise c.steps → (∃ s ∈ c.steps, 0 < s.depth) →
      c.mermaid = "\n".intercalate ("graph TD" :: callEdges c.steps)) := by
  refine ⟨fun hflat => ?_, fun h hdeep => ?_⟩
  · have hall : c.steps.all (·.depth == 0) = true := by simpa using hflat
    rw [mermaid, edges_eq_drawn, hall, drawn_flat]
  · have hall : c.steps.all (·.depth == 0) = false := by
      obtain ⟨s, hs, hpos⟩ := hdeep
      rw [List.all_eq_false]
      exact ⟨s, hs, by simp; omega⟩
    rw [mermaid, edges_eq_drawn, hall, drawn_edges h]

/-- The walk's own text: each step below the nearest earlier one a level up. -/
theorem mermaid_draws_callers_of_walk_text :
    Stepwise [⟨"entry", 0⟩, ⟨"parse", 1⟩, ⟨"read_len", 2⟩, ⟨"check", 1⟩] ∧
      (Chain.mk [⟨"entry", 0⟩, ⟨"parse", 1⟩, ⟨"read_len", 2⟩, ⟨"check", 1⟩]).mermaid =
        "graph TD\nentry[entry] --> parse[parse]\nparse[parse] --> read_len[read_len]\n" ++
          "entry[entry] --> check[check]" := by
  have h : Stepwise [⟨"entry", 0⟩, ⟨"parse", 1⟩, ⟨"read_len", 2⟩, ⟨"check", 1⟩] := by
    simp [Stepwise]
  refine ⟨h, ?_⟩
  rw [((mermaid_draws_callers _).2 h ⟨⟨"parse", 1⟩, by simp, by decide⟩)]
  decide

section Nested

variable {R : Step → Step → Prop}

theorem Nested.stepwise {l : List Step} (h : Nested R l) : Stepwise l := by
  induction h with
  | root name => simp [Stepwise]
  | @next l p f hl hb _ ih =>
    obtain ⟨pre, mid, hsplit, hd, hmid⟩ := hb
    refine stepwise_concat.mpr ⟨ih, fun hnil => absurd hnil hl.ne_nil, fun t ht => ?_⟩
    obtain ⟨init, u, hu⟩ := (List.eq_nil_or_concat' l).resolve_left hl.ne_nil
    obtain rfl : u = t := by simpa [hu] using ht
    have hle := le_depth_of_split (hsplit.symm.trans hu) hmid
    omega

/-- Every step of a nested chain after the first sits below an earlier step to which it stands
in `R`. -/
theorem Nested.below_of_eq {l pre post : List Step} {f : Step} (h : Nested R l)
    (hl : l = pre ++ f :: post) (hpre : pre ≠ []) : ∃ p, Below pre p f ∧ R p f := by
  induction h generalizing post with
  | root name =>
    cases pre with
    | nil => exact absurd rfl hpre
    | cons x pre => simp at hl
  | @next l p f' _ hb hR ih =>
    rcases List.eq_nil_or_concat' post with rfl | ⟨post', t, rfl⟩
    · obtain ⟨rfl, rfl⟩ := eq_of_concat_eq hl
      exact ⟨p, hb, hR⟩
    · rw [← List.cons_append, ← List.append_assoc] at hl
      exact ih (eq_of_concat_eq hl).1

/-- The edges a nested chain calls for: one per step after the first, in order, each from the
step it sits below. -/
theorem callEdges_of_nested {l : List Step} (h : Nested R l) :
    ∃ calls : List (Step × Step), calls.map Prod.snd = l.tail ∧
      callEdges l = calls.map (fun q => edge q.1.function q.2.function) ∧
      ∀ q ∈ calls, ∃ pre post, l = pre ++ q.2 :: post ∧ Below pre q.1 q.2 ∧ R q.1 q.2 := by
  induction h with
  | root name => exact ⟨[], rfl, rfl, by simp⟩
  | @next l p f hl hb hR ih =>
    obtain ⟨calls, hsnd, hedges, hcalls⟩ := ih
    refine ⟨calls ++ [(p, f)], ?_, ?_, ?_⟩
    · rw [List.map_append, hsnd, List.tail_append_of_ne_nil hl.ne_nil]
      rfl
    · rw [callEdges_concat, hedges, callerIn_of_below hb, List.map_append]
      rfl
    · intro q hq
      rcases List.mem_append.mp hq with hq | hq
      · obtain ⟨pre', post, hl', hb', hR'⟩ := hcalls q hq
        exact ⟨pre', post ++ [f], by rw [hl', List.append_assoc, List.cons_append], hb', hR'⟩
      · obtain rfl := List.mem_singleton.mp hq
        exact ⟨l, [], rfl, hb, hR⟩

/-- The flowchart of a nested chain draws one edge per step after the first, in order, each
from the step it sits below; a chain of one step draws none. -/
theorem edges_of_nested {c : Chain} (h : Nested R c.steps) :
    ∃ calls : List (Step × Step), calls.map Prod.snd = c.steps.tail ∧
      c.edges = calls.map (fun q => edge q.1.function q.2.function) ∧
      ∀ q ∈ calls, ∃ pre post, c.steps = pre ++ q.2 :: post ∧ Below pre q.1 q.2 ∧ R q.1 q.2 := by
  obtain ⟨steps⟩ := c
  obtain ⟨calls, hsnd, hedges, hcalls⟩ := callEdges_of_nested h
  refine ⟨calls, hsnd, ?_, hcalls⟩
  rw [edges_eq_drawn, ← hedges]
  cases h with
  | root name => rfl
  | @next l p f hl hb hR =>
    -- a step after the first lies below depth zero, so the stack is cut at each step
    have hflat : (l ++ [f]).all (·.depth == 0) = false := by
      obtain ⟨-, -, -, hdepth, -⟩ := hb
      rw [List.all_eq_false]
      exact ⟨f, List.mem_append_right _ List.mem_cons_self, by simp [← hdepth]⟩
    simp only [List.append_eq, hflat]
    exact drawn_edges (hl.next hb hR).stepwise

end Nested

end AdvisoryTrace.Chain
