import AdvisoryTrace.Chain.Basic

/-!
# Chains as flowcharts

The Mermaid form of a chain: `graph TD`, then one edge per step from its caller. The caller of
a step is the last step above it at a smaller depth, that is, the step's ancestors kept to its
depth. In a flat chain (every depth zero) each step is called by the one before it.
-/

namespace AdvisoryTrace.Chain

/-- The edge line `caller[caller] --> callee[callee]`. -/
def edge (caller callee : String) : String :=
  caller ++ "[" ++ caller ++ "] --> " ++ callee ++ "[" ++ callee ++ "]"

/-- One step of the walk: the ancestors after it and the edge it adds. -/
def mermaidStep (flat : Bool) (ancestors : List String) (s : Step) :
    List String × Option String :=
  let kept := if flat then ancestors else ancestors.take s.depth
  (kept ++ [s.function], kept.getLast?.map fun caller => edge caller s.function)

/-- The edges of the chain, in step order. -/
def edges (c : Chain) : List String :=
  let flat := c.steps.all (·.depth == 0)
  let (_, lines) := c.steps.foldl
    (fun (acc : List String × List String) s =>
      let (ancestors, lines) := acc
      let (ancestors', e) := mermaidStep flat ancestors s
      (ancestors', lines ++ e.toList))
    ([], [])
  lines

/-- The flowchart text. -/
def mermaid (c : Chain) : String := "\n".intercalate ("graph TD" :: c.edges)

end AdvisoryTrace.Chain
