import AdvisoryTrace.Net.Url

/-!
# Calling the daemon

A call builds a request to a URL made from the daemon's base URL and a path, then sends it.

Building fails when the URL does not read, or has no host; sending refuses a scheme other than
`http` and `https`. The client runs where no network can be reached: a request to an address
or to `localhost` fails at the connection, and one to any other name fails to find the name.
So every call ends in an error, reported as a chain of causes, outermost first.
-/

namespace AdvisoryTrace.Client

/-- Why a call failed: the request could not be built (for the URL, when it read), or it
could not be sent (to the URL). -/
inductive CallError where
  | build (url : Option String) (cause : String)
  | send (url : String) (causes : List String)
  deriving BEq, Repr

namespace CallError

/-- The chain of messages of a failed call, outermost first. -/
def chain : CallError → List String
  | .build none cause => ["builder error", cause]
  | .build (some url) cause => ["builder error for url (" ++ url ++ ")", cause]
  | .send url causes => ("error sending request for url (" ++ url ++ ")") :: causes

/-- The outermost message. -/
def message (e : CallError) : String := e.chain.headD ""

/-- The whole chain on one line, causes after colons. -/
def line (e : CallError) : String := ": ".intercalate e.chain

end CallError

/-- The refusal of a URL whose scheme cannot be sent to. -/
def badScheme : String := "URL scheme is not allowed"

/-- The URL a request goes to: the text read as a URL with a host, its credentials taken out,
then the query pairs added, as a form encodes them. -/
def requestUrl (text : String) (query : List (String × String)) : Except CallError Net.Url :=
  match Net.Url.read text with
  | .error e => .error (.build none e.text)
  | .ok u =>
    if !u.hasHost then .error (.build (some u.toText) badScheme)
    else .ok (query.foldl (fun u (k, v) => u.appendPair k v) u.withoutCredentials)

/-- Why a connection to a host cannot be made: an address (or `localhost`) cannot be reached,
and any other name cannot be looked up. -/
def connectFailure : Net.Host → List String
  | .domain "localhost" | .ipv4 _ | .ipv6 _ =>
    ["client error (Connect)", "tcp connect error", "Network is unreachable (os error 101)"]
  | _ =>
    ["client error (Connect)", "dns error",
      "failed to lookup address information: Temporary failure in name resolution"]

/-- Sends a request to a URL: it is refused for its scheme, or fails to connect. -/
def send (u : Net.Url) : CallError :=
  if u.scheme != "http" && u.scheme != "https" then .build (some u.toText) badScheme
  else
    match u.host with
    | some h => .send u.toText (connectFailure h)
    | none => .build (some u.toText) badScheme

/-- Calls the daemon at a URL text with query pairs: how the call fails. -/
def call (text : String) (query : List (String × String)) : CallError :=
  match requestUrl text query with
  | .error e => e
  | .ok u => send u

end AdvisoryTrace.Client
