/-!
# Similar words

When a command line names something that does not exist, the nearest names that do are
offered instead. Nearness is the Jaro similarity of the two words, taken over their
characters; a name is offered when its similarity is above `0.7`, so that `bar` still finds
`baz`.

The score is computed in binary floating point, step for step as the formula reads, so that a
name on the very edge of the threshold is judged the same way every time.
-/

namespace AdvisoryTrace.CommandLine

/-- Marks the first unmarked position of `b` within `[lo, hi)` holding `c`; the position, or
none. -/
def claim (b : List Char) (marks : List Bool) (c : Char) (lo hi : Nat) : Option Nat :=
  (List.range (min hi b.length)).find? fun j =>
    lo ≤ j && b[j]? == some c && marks[j]? == some false

/-- The characters of `a` matched in `b` (each within the search window of its position), as
marks on `a` and on `b`. -/
def matchMarks (a b : List Char) : List Bool × List Bool :=
  let window := (max a.length b.length / 2) - 1
  let step := fun (acc : List Bool × List Bool) (ic : Nat × Char) =>
    let (i, c) := ic
    match claim b acc.2 c (i - window) (i + window + 1) with
    | some j => (acc.1.set i true, acc.2.set j true)
    | none => acc
  (a.zipIdx.map (fun (c, i) => (i, c))).foldl step
    (List.replicate a.length false, List.replicate b.length false)

/-- The matched characters of a word, in order. -/
def marked (w : List Char) (marks : List Bool) : List Char :=
  (w.zip marks).filterMap fun (c, m) => if m then some c else none

/-- The Jaro similarity of two words: `1` for two empty words, `0` when nothing matches, and
otherwise the mean of the matched share of each word and the share of matches in order. -/
def jaro (a b : String) : Float :=
  let a := a.toList
  let b := b.toList
  if a.isEmpty && b.isEmpty then 1
  else if a.isEmpty || b.isEmpty then 0
  else
    let (ma, mb) := matchMarks a b
    let x := marked a ma
    let y := marked b mb
    let m := x.length
    let t := ((x.zip y).filter fun (p, q) => p != q).length / 2
    if m == 0 then 0
    else
      (m.toFloat / a.length.toFloat + m.toFloat / b.length.toFloat
        + (m - t).toFloat / m.toFloat) / 3

/-- The names similar to a word, least similar first; of equally similar names, the one given
first comes first. -/
def similar (word : String) (names : List String) : List String :=
  let scored := (names.map fun n => (jaro word n, n)).filter fun (s, _) => s > 0.7
  (scored.mergeSort fun p q => p.1 ≤ q.1).map (·.2)

/-- The name most similar to a word, if one is near enough: the last of `similar`. -/
def mostSimilar (word : String) (names : List String) : Option String :=
  (similar word names).getLast?

end AdvisoryTrace.CommandLine
