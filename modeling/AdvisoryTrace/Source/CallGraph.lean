import AdvisoryTrace.Source.Grammar
import AdvisoryTrace.Source.Nesting
import AdvisoryTrace.Chain.Basic
import AdvisoryTrace.Text.Blank

/-!
# Call graphs of Rust sources

The graph maps each function with a body to the bare names it calls, in source order and
without repeats, and remembers which names are defined. Sources are added one at a time: a
source nested deeper than `nestingLimit` or that does not parse adds nothing.

`CallGraph.chainFrom` walks the graph depth first from an entry function. Each name appears
once on the chain, at the depth it is first met; a called name with no definition is a leaf;
nothing below `maxDepth` is followed.
-/

namespace AdvisoryTrace.Source

/-- Sources nested deeper than this are refused before they are parsed. -/
def nestingLimit : Nat := 256

/-- Why a source added nothing to a graph. -/
inductive SourceError where
  | tooDeep (depth : Nat)
  | malformed (message : String)
  deriving BEq, DecidableEq, Repr

namespace SourceError

/-- The kind of refusal, as reported. -/
def kind : SourceError → String
  | .tooDeep _ => "TooDeep"
  | .malformed _ => "Parse"

/-- What went wrong. -/
def message : SourceError → String
  | .tooDeep depth => "delimiters nested " ++ toString depth ++ " deep (limit " ++ toString nestingLimit ++ ")"
  | .malformed text => text

end SourceError

/-- The byte-order mark a source may start with. -/
def byteOrderMark : Char := Char.ofNat 0xfeff

/-- A source without a leading byte-order mark. -/
def dropByteOrderMark (cs : List Char) : List Char :=
  match cs with
  | c :: rest => if c == byteOrderMark then rest else cs
  | [] => []

/-- A source without a leading `#!` line, unless the `#!` starts an inner attribute `#![…]`.
The newline stays. -/
def dropShebang (cs : List Char) : List Char :=
  match cs with
  | '#' :: '!' :: rest =>
    if (rest.drop (Lex.blankCount rest)).head? == some '[' then cs
    else cs.dropWhile (· != '\n')
  | _ => cs

/-- The call trees of a source file, or why it does not parse. A byte-order mark and a `#!` line
are not part of the code. -/
def callForest (src : String) : Except String (List CallTree) :=
  let cs := dropByteOrderMark (dropShebang (dropByteOrderMark src.toList))
  match Lex.trees cs [] [] with
  | none => .error "cannot parse string into token stream"
  | some trees => Grammar.callForest trees

/-- What a walk of a source file's syntax meets, or why it does not parse. -/
def fileEvents (src : String) : Except String (List Event) :=
  CallTree.forestEvents <$> callForest src

/-- Functions and the names they call. -/
structure CallGraph where
  calls : List (String × List String)
  defined : List String
  deriving DecidableEq

namespace CallGraph

/-- The graph with no functions. -/
def empty : CallGraph := ⟨[], []⟩

/-- The names a function calls, in order. -/
def callees (g : CallGraph) (name : String) : List String :=
  ((g.calls.find? (·.1 == name)).map (·.2)).getD []

/-- Whether a function with this name has a body in the graph. -/
def contains (g : CallGraph) (name : String) : Bool := g.defined.contains name

/-- Starts a function: it is defined, and has an entry for its calls. -/
def define (g : CallGraph) (name : String) : CallGraph :=
  { defined := if g.defined.contains name then g.defined else name :: g.defined
    calls := if g.calls.any (·.1 == name) then g.calls else (name, []) :: g.calls }

/-- Records that `caller` calls `callee`, once. -/
def addCall (g : CallGraph) (caller callee : String) : CallGraph :=
  { g with calls := g.calls.map fun entry =>
      if entry.1 == caller && !entry.2.contains callee then (entry.1, entry.2 ++ [callee]) else entry }

/-- Applies the events of a source, with the stack of functions being read. A call outside
every function is not recorded. -/
def apply : CallGraph → List String → List Event → CallGraph
  | g, _, [] => g
  | g, stack, .enter name :: rest => apply (g.define name.text) (name.text :: stack) rest
  | g, stack, .leave :: rest => apply g stack.tail rest
  | g, stack, .call name :: rest =>
    match stack with
    | caller :: _ => apply (g.addCall caller name.text) stack rest
    | [] => apply g stack rest

/-- Adds the functions of one source, or says why it adds nothing. -/
def addSource (g : CallGraph) (src : String) : Except SourceError CallGraph :=
  let depth := maxNesting src
  if depth > nestingLimit then .error (.tooDeep depth)
  else
    match fileEvents src with
    | .error e => .error (.malformed e)
    | .ok events => .ok (g.apply [] events)

/-- The walk below one function: names already on the chain are skipped, defined callees
are walked, others are leaves. The chain so far is kept in reverse. `fuel` bounds the
nesting of the walk; each level puts a new defined name on the chain. -/
def walk (g : CallGraph) (maxDepth : Nat) :
    Nat → String → Nat → List String × List Step → List String × List Step
  | 0, _, _, acc => acc
  | fuel + 1, name, depth, (seen, steps) =>
    if seen.contains name then (seen, steps)
    else
      let acc := (name :: seen, ⟨name, depth⟩ :: steps)
      if depth ≥ maxDepth then acc
      else
        List.foldl (fun (seen, steps) callee =>
          if g.contains callee then walk g maxDepth fuel callee (depth + 1) (seen, steps)
          else if seen.contains callee then (seen, steps)
          else (callee :: seen, ⟨callee, depth + 1⟩ :: steps)) acc (g.callees name)

/-- The depth-first chain from `entry`, at most `maxDepth` levels below it. -/
def chainFrom (g : CallGraph) (entry : String) (maxDepth : Nat) : Chain :=
  ⟨(g.walk maxDepth (g.defined.length + 2) entry 0 ([], [])).2.reverse⟩

end CallGraph

/-- The part of a text after its last `::`, or the whole text. -/
def afterLastPathSeparator (s : String) : String :=
  String.ofList (go s.toList.reverse []).reverse
where
  go : List Char → List Char → List Char
    | ':' :: ':' :: _, acc => acc.reverse
    | c :: rest, acc => go rest (c :: acc)
    | [], acc => acc.reverse

/-- The function a test identifier names: its last path segment, trimmed
(`tests::overflow` names `overflow`). -/
def entryFunction (testId : String) : String :=
  Text.trim (afterLastPathSeparator testId)

end AdvisoryTrace.Source
