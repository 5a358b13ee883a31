import AdvisoryTrace.Client.Program

/-!
# The command line

Runs the client with the process's arguments and its `TRACER_DAEMON` setting. The id file a
`submit` names is read from disk before the run, which sees its bytes or why they could not be
read. What the run writes goes to the process's output and error streams, and its code is the
process's exit code.
-/

namespace AdvisoryTrace.Client

/-- The bytes of the id file a command line names, if it names one, or why they could not be
read. -/
def readIdFile (env : String → Option String) (args : List String) :
    IO (Option (String × Except String (List UInt8))) := do
  match Invocation.read env args with
  | .ok ⟨_, .submit _ (some path)⟩ =>
    try
      let bytes ← IO.FS.readBinFile path
      return some (path, .ok bytes.toList)
    catch e =>
      return some (path, .error (toString e))
  | _ => return none

end AdvisoryTrace.Client

/-- Runs the client on the process's arguments. -/
def main (args : List String) : IO UInt32 := do
  let daemon ← IO.getEnv "TRACER_DAEMON"
  let env := fun name => if name == "TRACER_DAEMON" then daemon else none
  let file ← AdvisoryTrace.Client.readIdFile env args
  let fileBytes := fun path => match file with
    | some (named, bytes) => if named == path then bytes else .error "not read"
    | none => .error "not read"
  let exit := AdvisoryTrace.Client.run env args fileBytes
  IO.print exit.stdout
  IO.eprint exit.stderr
  return exit.code.toUInt32
