import AdvisoryTrace.Daemon.Queue
import AdvisoryTrace.Http.Message
import AdvisoryTrace.Git.Tool
import AdvisoryTrace.Export.File
import AdvisoryTrace.Wire
import AdvisoryTrace.Json.Reader
import AdvisoryTrace.Json.Writer
import AdvisoryTrace.Net.Url
import AdvisoryTrace.Text.Utf8

/-!
# The daemon's HTTP service

Four routes:

* `GET /healthz` answers `ok`;
* `POST /analyze` takes a JSON body `{"rustsec_ids": [...]}`, starts a task with a pending
  record per id, and queues its job. The answer is the records, with the task id in
  `x-task-id` and the result's path in `location`. A job the queue refuses fails every
  record of its task with the refusal, and the answer is 503 with the refusal (the task id
  still in `x-task-id`);
* `GET /result/{task}` answers the records of a task;
* `GET /export/{task}?fmt=…` writes an export file of the records in the named format (JSON
  when none is named) and answers its contents, with the format's media type and the file
  name as an attachment.

A `GET` route also takes `HEAD`, which answers the same with no body. Another method on a
known path is 405 with the methods allowed; an unknown path is 404 with nothing in it. An
unknown task is 404 `Task not found`; a failed export is 500 with its error. Errors of the
service are JSON `{"error": …}`; a body or query or path that does not read is refused as
plain text.

Every answer allows any origin and exposes every header. `OPTIONS` on any path is a
preflight: 200, allowing every method and header.
-/

namespace AdvisoryTrace.Daemon

/-- What the daemon holds between requests: its tasks, its queue of jobs, the machine it runs
on, and how many task ids it has handed out. -/
structure World where
  store : TaskStore
  queue : JobQueue
  machine : Git.Machine
  issued : Nat := 0

/-- How the daemon is set up: its pipeline, where exports go, and where each verdict's chain
is saved, if anywhere. -/
structure Setup where
  pipeline : Pipeline World
  exportDir : String
  debugSavePath : Option String := none

/-- The digits task ids are written in (Crockford's base 32). -/
def idDigits : List Char := "0123456789ABCDEFGHJKMNPQRSTVWXYZ".toList

/-- The id of the `n`-th task handed out: twenty-six base-32 digits, as ULIDs are written. -/
def taskIdOf (n : Nat) : String :=
  let digits := (List.range 26).reverse.map fun i => idDigits.getD (n / Nat.pow 32 i % 32) '0'
  String.ofList digits

/-- Hands out a fresh task id. -/
def issueTaskId : StateM World String :=
  modifyGet fun w => (taskIdOf (w.issued + 1), { w with issued := w.issued + 1 })

namespace Setup

/-- The workers of a daemon: outcomes go to its store, and each verdict's chain to the debug
path when there is one (a failure to save is passed over). -/
def workers (s : Setup) : Workers World where
  pipeline := s.pipeline
  record := fun task index o => modify fun w => { w with store := w.store.record task index o }
  save := fun v =>
    match s.debugSavePath with
    | none => pure ()
    | some path => modify fun w =>
      match Export.saveChain w.machine.disk path v.chain v.confidence with
      | .ok disk => { w with machine := { w.machine with disk } }
      | .error _ => w

/-- Runs every job waiting in the queue, in order; gives how many ran. -/
def drain (s : Setup) : StateM World Nat := do
  let w ← get
  let jobs := w.queue.waiting
  set { w with queue := { w.queue with waiting := [] } }
  for job in jobs do
    s.workers.runJob job
  return jobs.length

end Setup

/-- Whether every record of the given tasks is done or failed. -/
def World.settled (w : World) (tasks : List String) : Bool :=
  tasks.all fun task =>
    match w.store.get task with
    | .ok (some records) => records.all (·.status.isTerminal)
    | _ => true

/-- The task ids handed out so far, in order. -/
def World.taskIds (w : World) : List String := (List.range w.issued).map (taskIdOf ·.succ)

/-- An error of the service as its JSON answer. -/
def errorAnswer (status : Nat) (message : String) : Http.Response :=
  Http.Response.json status (ErrorBody.toValue ⟨message⟩).compact

/-- The answer to a store's refusal: an unknown task is not found, anything else internal. -/
def storeAnswer : StoreError → Http.Response
  | .unknownTask task => errorAnswer 404 ("unknown task " ++ task)
  | e => errorAnswer 500 e.message

/-- The answer naming no task. -/
def taskNotFound : Http.Response := errorAnswer 404 "Task not found"

/-- The records of a task as a JSON answer. -/
def recordsAnswer (records : List Record) : Http.Response :=
  Http.Response.json 200 (Json.Value.arr (records.map Record.toValue)).compact

/-- The pairs of a form-encoded query: pieces between `&` (empty ones skipped), each cut at
its first `=`, with `+` read as a space and `%XX` escapes decoded. -/
def formPairs (query : String) : List (String × String) :=
  ((query.splitOn "&").filter (!·.isEmpty)).map fun piece =>
    let cs := piece.toList
    let key := cs.takeWhile (· != '=')
    (decode key, decode ((cs.drop key.length).drop 1))
where
  /-- Decodes one side of a pair. -/
  decode (cs : List Char) : String :=
    let bytes := (String.ofList (cs.map fun c => if c == '+' then ' ' else c)).toUTF8.toList
    Text.decodeLossy (Net.Url.percentDecode bytes)

/-- The format an export query names, if any; a query naming it twice is refused. -/
def exportParams (query : Option String) : Except String (Option String) :=
  match (formPairs (query.getD "")).filter (·.1 == "fmt") with
  | [] => .ok none
  | [(_, v)] => .ok (some v)
  | _ => .error "duplicate field \x60fmt\x60"

/-- A path parameter with its `%XX` escapes decoded; none when that is not UTF-8. -/
def decodeParam (text : String) : Option String :=
  String.fromUTF8? (ByteArray.mk (Net.Url.percentDecode text.toUTF8.toList).toArray)

/-- The refusal of a path parameter that does not decode. -/
def badParam (name : String) : Http.Response :=
  Http.Response.text 400 ("Invalid URL: Invalid UTF-8 in \x60" ++ name ++ "\x60")

/-- The routes: a path and the methods it takes. -/
inductive Route where
  | health
  | analyze
  | result (task : String)
  | export (task : String)

/-- The route of a path, if any. A parameter is one whole segment, not empty. -/
def Route.of? (path : String) : Option Route :=
  match path.splitOn "/" with
  | ["", "healthz"] => some .health
  | ["", "analyze"] => some .analyze
  | ["", "result", task] => if task.isEmpty then none else some (.result task)
  | ["", "export", task] => if task.isEmpty then none else some (.export task)
  | _ => none

/-- The methods a route takes, as the `allow` header lists them. -/
def Route.allowed : Route → String
  | .analyze => "POST"
  | _ => "GET,HEAD"

/-- Whether a route takes a method. -/
def Route.takes (r : Route) (method : String) : Bool :=
  match r with
  | .analyze => method == "POST"
  | _ => method == "GET" || method == "HEAD"

namespace Setup

/-- `POST /analyze`. -/
def analyze (r : Http.Request) : StateM World Http.Response := do
  if !(r.contentType.map Http.isJsonMediaType).getD false then
    return Http.Response.text 415 "Expected request with \x60Content-Type: application/json\x60"
  match Json.readAs r.body AnalyzeRequest.shape with
  | .error f =>
    if f.kind == .shape then
      return Http.Response.text 422
        ("Failed to deserialize the JSON body into the target type: " ++ f.tracedText)
    else return Http.Response.text 400 ("Failed to parse the request body as JSON: " ++ f.tracedText)
  | .ok v =>
    let ids := (AnalyzeRequest.ofValue v).ids
    let task ← issueTaskId
    let w ← get
    match w.store.create task ids with
    | .error e => return storeAnswer e
    | .ok (store, records) =>
      match w.queue.submit ⟨task, ids⟩ with
      | .error e =>
        let store := (List.range records.length).foldl
          (fun st i => st.record task i (.failed e.text)) store
        set { w with store }
        return (errorAnswer 503 e.text).setHeader "x-task-id" task
      | .ok queue =>
        set { w with store, queue }
        return ((recordsAnswer records).setHeader "x-task-id" task).setHeader "location"
          ("/result/" ++ task)

/-- `GET /result/{task}`. -/
def result (task : String) : StateM World Http.Response := do
  let some task := decodeParam task | return badParam "task_id"
  match (← get).store.get task with
  | .error e => return storeAnswer e
  | .ok none => return taskNotFound
  | .ok (some records) => return recordsAnswer records

/-- `GET /export/{task}`. -/
def exportTask (s : Setup) (task : String) (query : Option String) : StateM World Http.Response := do
  let some task := decodeParam task | return badParam "task_id"
  match exportParams query with
  | .error e => return Http.Response.text 400 ("Failed to deserialize query string: " ++ e)
  | .ok fmt =>
    let w ← get
    match w.store.get task with
    | .error e => return storeAnswer e
    | .ok none => return taskNotFound
    | .ok (some records) =>
      let format := Export.Format.parse (fmt.getD "json")
      match Export.exportTo w.machine.disk records format s.exportDir with
      | .error e => return errorAnswer 500 e
      | .ok (disk, path) =>
        set { w with machine := { w.machine with disk } }
        let bytes := (disk.read? (disk.locate path)).getD []
        let name := (Disk.Path.steps path).getLast?.getD (task ++ "." ++ format.extension)
        return { status := 200, body := Text.decodeLossy bytes,
                 headers := [("content-type", format.contentType),
                   ("content-disposition", "attachment; filename=\"" ++ name ++ "\"")] }

/-- Answers a request on a route. -/
def route (s : Setup) (r : Http.Request) : StateM World Http.Response :=
  match Route.of? r.target.path with
  | none => return Http.Response.empty 404
  | some route =>
    if !route.takes r.method then
      return { status := 405, headers := [("allow", route.allowed)] }
    else
      match route with
      | .health => return Http.Response.text 200 "ok"
      | .analyze => analyze r
      | .result task => result task
      | .export task => s.exportTask task r.target.query

end Setup

/-- The headers every answer carries: any origin is allowed, and every header exposed. -/
def corsHeaders : List (String × String) :=
  [("access-control-allow-origin", "*"),
   ("vary", "origin, access-control-request-method, access-control-request-headers"),
   ("access-control-expose-headers", "*")]

/-- The answer to a preflight. -/
def preflight : Http.Response :=
  { status := 200,
    headers := [("access-control-allow-origin", "*"),
      ("vary", "origin, access-control-request-method, access-control-request-headers"),
      ("access-control-allow-methods", "*"), ("access-control-allow-headers", "*")] }

/-- Answers a request. A preflight on a route also lists the methods the route takes, as a
method the route does not take is answered. -/
def Setup.respond (s : Setup) (r : Http.Request) : StateM World Http.Response := do
  if r.method == "OPTIONS" then
    return match Route.of? r.target.path with
      | some route => preflight.setHeader "allow" route.allowed
      | none => preflight
  let answer ← s.route r
  let answer := corsHeaders.foldl (fun a (n, v) => a.setHeader n v) answer
  return if r.method == "HEAD" then { answer with body := "" } else answer

end AdvisoryTrace.Daemon
