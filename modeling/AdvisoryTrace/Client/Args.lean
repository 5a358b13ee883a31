import AdvisoryTrace.CommandLine.Parse
import AdvisoryTrace.Client.Call
import AdvisoryTrace.Text.Blank

/-!
# The client's command line

The client talks to a daemon at a base URL and does one of four things: submit advisory ids
(given on the line or read from a file), print the records of a task, wait until every record
of a task is finished, or download an export of a task.

An id file holds one id per line; blank lines and lines starting with `#` (after trimming) are
skipped. An export is asked for at `<daemon>/export/<task>` with the format as the query pair
`fmt`.
-/

namespace AdvisoryTrace.Client

open CommandLine

/-- The option naming a task, which every task command requires. -/
def taskOption : Opt :=
  { id := "task_id", long := "task-id", valueName := some "TASK_ID", required := true }

/-- The client's command line. -/
def command : Command where
  name := "tracerctl"
  about := "Client for the tracer daemon"
  version := some "0.1.0"
  options := [
    { id := "daemon", long := "daemon", valueName := some "DAEMON", help := "Daemon base URL",
      env := some "TRACER_DAEMON", default := some "http://127.0.0.1:8000" }]
  subcommands := [
    { name := "submit", about := "Submit advisory ids for analysis",
      positional := some ⟨"ids", "IDS", ""⟩,
      options := [
        { id := "file", long := "file", valueName := some "FILE", kind := .path,
          help := "File with one advisory id per line (\x60#\x60 comments allowed)" }] },
    { name := "result", about := "Print the current records of a task", options := [taskOption] },
    { name := "wait", about := "Poll until every record of a task is done or failed",
      options := [taskOption,
        { id := "interval_ms", long := "interval-ms", valueName := some "INTERVAL_MS", kind := .count,
          default := some "1000" },
        { id := "timeout_secs", long := "timeout-secs", valueName := some "TIMEOUT_SECS",
          kind := .count, help := "Give up after this many seconds (0 waits forever)",
          default := some "0" }] },
    { name := "export", about := "Download an export of a task",
      options := [taskOption,
        { id := "fmt", long := "fmt", valueName := some "FMT", default := some "json" },
        { id := "out", long := "out", valueName := some "OUT", kind := .path,
          help := "Write here instead of stdout" }] }]

/-- What the client was asked to do. -/
inductive Request where
  | submit (ids : List String) (file : Option String)
  | result (taskId : String)
  | wait (taskId : String) (intervalMs timeoutSecs : Nat)
  | export (taskId fmt : String) (out : Option String)
  deriving BEq, Repr

/-- A client call: the daemon's base URL and the request. -/
structure Invocation where
  daemon : String
  request : Request
  deriving BEq, Repr

/-- The request of a subcommand from what it received (every value already checked). -/
def requestOf (r : Received) : Request :=
  let text := fun id => (r.value? id).getD ""
  let number := fun id => match readUnsigned (text id) with | .ok n => n | .error _ => 0
  match r.command with
  | "submit" => .submit (r.get "ids") (r.value? "file")
  | "result" => .result (text "task_id")
  | "wait" => .wait (text "task_id") (number "interval_ms") (number "timeout_secs")
  | _ => .export (text "task_id") (text "fmt") (r.value? "out")

/-- Reads the client's command line (the words after its name) and its environment. -/
def Invocation.read (env : String → Option String) (words : List String) :
    Except Refusal Invocation := do
  let received ← command.read env words
  match received with
  | top :: sub :: _ => return ⟨(top.value? "daemon").getD "", requestOf sub⟩
  | _ => throw (.helpOnMissing (command.helpText command.name env))

/-- The ids an id file lists: its trimmed lines, without blank ones and comments. -/
def idList (text : String) : List String :=
  (Text.lines text).map Text.trim |>.filter fun l => !l.isEmpty && !l.startsWith "#"

/-- The URL an export is asked for at, or why it cannot be built. -/
def exportUrl (daemon task fmt : String) : Except String String :=
  match requestUrl (daemon ++ "/export/" ++ task) [("fmt", fmt)] with
  | .error e => .error e.message
  | .ok u => .ok u.toText

end AdvisoryTrace.Client
