import AdvisoryTrace.CommandLine.Refusal

/-!
# Program runs

How a run of one of the programs ends: its exit code and what it wrote to its output and error
streams.

A command line that was not accepted ends the run: a help or version text asked for goes to
the output with code 0, and any other refusal goes to the error stream with code 2.

An error a program gives up with carries the chain of its causes, outermost first. It is
reported as `Error: `, the message, then each cause on its own lines below `Caused by:`
(numbered when there are several, every line indented), and the run ends with code 1.
-/

namespace AdvisoryTrace

/-- An error with the chain of what caused it, outermost first. -/
structure Trouble where
  message : String
  causes : List String := []
  deriving BEq, Repr

namespace Trouble

/-- Indents every line of a text after the first. -/
def indentRest (pad text : String) : String := ("\n" ++ pad).intercalate (text.splitOn "\n")

/-- A number right-aligned in five columns. -/
def number (n : Nat) : String :=
  let s := toString n
  String.ofList (List.replicate (5 - s.length) ' ') ++ s

/-- The report of an error: the message, then each cause on its own lines below
`Caused by:`, numbered when there are several. -/
def report (t : Trouble) : String :=
  match t.causes with
  | [] => t.message
  | [c] => t.message ++ "\n\nCaused by:\n    " ++ indentRest "    " c
  | cs => t.message ++ "\n\nCaused by:" ++ String.join (cs.zipIdx.map fun (c, i) =>
      "\n" ++ number i ++ ": " ++ indentRest "       " c)

/-- The whole chain on one line, causes after colons. -/
def line (t : Trouble) : String := ": ".intercalate (t.message :: t.causes)

end Trouble

/-- How a program run ended. -/
structure Exit where
  code : Nat
  stdout : String := ""
  stderr : String := ""
  deriving BEq, Repr

namespace Exit

/-- The end of a run whose command line was not accepted. -/
def ofRefusal (r : CommandLine.Refusal) : Exit :=
  match r with
  | .help text | .version text => { code := 0, stdout := text }
  | r => { code := 2, stderr := r.text }

/-- The end of a run that gave up with an error. -/
def ofTrouble (t : Trouble) : Exit := { code := 1, stderr := "Error: " ++ t.report ++ "\n" }

/-- A run that finished well. -/
def success (stdout stderr : String) : Exit := { code := 0, stdout, stderr }

end Exit

end AdvisoryTrace
