import AdvisoryTrace.Text.Blank

/-!
# Call chains

A call chain lists the functions reached from an entry point, each with its depth below the
entry, in the order a depth-first walk visits them. Its text form puts each function on a line
of its own, indented two spaces per level and followed by `()`; reading such text back takes
the depth from the leading spaces and the name from the trimmed line without its trailing
`()`s, skipping blank lines.
-/

namespace AdvisoryTrace

/-- A function reached at a depth below the entry point. -/
structure Step where
  function : String
  depth : Nat
  deriving BEq, Repr

/-- Steps in visiting order. -/
structure Chain where
  steps : List Step
  deriving BEq, Repr

namespace Chain

/-- The chain with no steps. -/
def empty : Chain := ⟨[]⟩

/-- Every name at depth zero, in the given order. -/
def flat (names : List String) : Chain := ⟨names.map fun n => ⟨n, 0⟩⟩

/-- Whether the chain has no steps. -/
def isEmpty (c : Chain) : Bool := c.steps.isEmpty

/-- The number of steps. -/
def length (c : Chain) : Nat := c.steps.length

/-- Names sorted by code point, each once. -/
def sortedNames (names : List String) : List String :=
  (names.mergeSort fun a b => !decide (b < a)).eraseDups

/-- The distinct function names of the chain, sorted by code point. -/
def functions (c : Chain) : List String := sortedNames (c.steps.map (·.function))

/-- A step's line: two spaces per level of depth, the name, and `()`. -/
def Step.line (s : Step) : String :=
  String.ofList (List.replicate (2 * s.depth) ' ') ++ s.function ++ "()"

/-- The text form: one line per step. -/
def render (c : Chain) : String := "\n".intercalate (c.steps.map Step.line)

/-- A step read from one line: depth from the leading spaces (two per level), name from the
trimmed line without its trailing `()`s. -/
def Step.ofLine (line : String) : Step :=
  let indent := (line.toList.takeWhile (· == ' ')).length
  ⟨Text.trimEndMatches (Text.trim line) "()", indent / 2⟩

/-- Reads the text form back; blank lines are skipped. -/
def ofRendered (text : String) : Chain :=
  ⟨((Text.lines text).filter fun l => !Text.isBlankText l).map Step.ofLine⟩

end Chain

end AdvisoryTrace
