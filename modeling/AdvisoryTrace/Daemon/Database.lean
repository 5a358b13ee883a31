import AdvisoryTrace.Net.Url

/-!
# Database URLs

The daemon keeps its tasks in an embedded database when a database URL is named. The URL picks
an engine by its scheme; this build has the in-memory engine (`mem`) and the file engine
(`surrealkv`, also `surrealkv+versioned`), and knows the names of the engines it lacks.

A URL is read in one of three ways:

* `memory` and `mem://` name the in-memory database directly;
* a text starting with `ws`, `http` or `tikv` must be a whole URL;
* any other text is read up to its first colon as a scheme, which must make a URL when `://`
  follows it.

The engine is the scheme in lower case. An embedded engine then opens a location that starts
with the scheme as it was written, and it knows only locations that start with its own name in
lower case: so `mem://data` and `SurrealKV://db` name an engine this build has, at a
location it cannot load.
-/

namespace AdvisoryTrace.Daemon

/-- Why a database URL names no database this build can open. -/
inductive DatabaseError where
  /-- The text does not read as a URL. -/
  | invalidUrl (text : String)
  /-- No engine has this scheme. -/
  | unsupported (scheme : String)
  /-- The engine exists but this build lacks it; named as its refusal names it. -/
  | notBuilt (engine : String)
  /-- An embedded engine was given a location it does not know. -/
  | unknownLocation
  deriving BEq, Repr

namespace DatabaseError

/-- The words of a refusal by the database itself. -/
def inDatastore (why : String) : String :=
  "There was a problem with the underlying datastore: " ++ why

/-- What went wrong, as reported. -/
def message : DatabaseError → String
  | .invalidUrl text => "Invalid URL: " ++ text
  | .unsupported scheme => "Unsupported protocol or storage engine, \x60" ++ scheme ++ "\x60"
  | .notBuilt engine =>
    inDatastore ("Cannot connect to the " ++ engine ++ " as it is not enabled in this build of SurrealDB")
  | .unknownLocation => inDatastore "Unable to load the specified datastore"

end DatabaseError

/-- A database URL as read: the engine's scheme, and the scheme as written, which starts the
location an embedded engine opens (none where the URL names the in-memory database directly,
empty where it is a whole URL). -/
structure Endpoint where
  scheme : String
  written : Option String
  deriving BEq, Repr

/-- The engines this build lacks, by scheme, as their refusal names them. -/
def missingEngines : List (String × String) :=
  [("rocksdb", "\x60rocksdb\x60 storage engine"), ("file", "\x60rocksdb\x60 storage engine"),
    ("tikv", "\x60tikv\x60 storage engine"), ("fdb", "\x60foundationdb\x60 storage engine"),
    ("http", "\x60HTTP\x60 remote engine"), ("https", "\x60HTTP\x60 remote engine"),
    ("ws", "\x60WebSocket\x60 remote engine"), ("wss", "\x60WebSocket\x60 remote engine")]

/-- The engines this build has, by scheme. -/
def embeddedEngines : List String := ["mem", "surrealkv", "surrealkv+versioned"]

namespace Endpoint

/-- Reads a database URL. -/
def read (text : String) : Except DatabaseError Endpoint :=
  if text == "memory" || text == "mem://" then .ok ⟨"mem", none⟩
  else if text.startsWith "ws" || text.startsWith "http" || text.startsWith "tikv" then
    match Net.Url.parse? text with
    | some u => .ok ⟨u.scheme, some ""⟩
    | none => .error (.invalidUrl text)
  else
    let written := (text.splitOn ":").headD text
    match Net.Url.parse? (written ++ "://") with
    | some u => .ok ⟨u.scheme, some written⟩
    | none => .error (.invalidUrl text)

/-- Opens the database an endpoint names; an embedded engine loads only locations that start
with its own name. -/
def connect (e : Endpoint) : Except DatabaseError Unit :=
  match missingEngines.lookup e.scheme with
  | some engine => .error (.notBuilt engine)
  | none =>
    if !embeddedEngines.contains e.scheme then .error (.unsupported e.scheme)
    else match e.written with
      | none => .ok ()
      | some w =>
        if w == "surrealkv" || w == "surrealkv+versioned" then .ok () else .error .unknownLocation

end Endpoint

/-- Opens the database a URL names, or tells why it cannot. -/
def connectDatabase (url : String) : Except DatabaseError Unit := do
  (← Endpoint.read url).connect

end AdvisoryTrace.Daemon
