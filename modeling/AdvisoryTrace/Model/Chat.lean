import AdvisoryTrace.Net.Url
import AdvisoryTrace.Failure
import AdvisoryTrace.Verdict
import AdvisoryTrace.Text.Blank

/-!
# The chat model

The model is asked over HTTP: a POST of the chat request to `<base URL>/chat/completions` (the
base URL loses its trailing slashes first), with the key as a bearer token.

The request is built before anything is sent, and building can fail: the endpoint must read as
a URL with a host, and the key must make a valid header value (no control characters other than
tab). Credentials in the endpoint go to an authorization header instead of the URL. Only `http`
and `https` endpoints are sent to.

The daemon runs where no network connection can be opened, so a request that is built is never
answered: sending it fails, and the model is unavailable with the endpoint named.
-/

namespace AdvisoryTrace.Model

/-- How the chat model is reached. -/
structure ChatSettings where
  apiKey : String
  baseUrl : String
  model : String
  timeoutSecs : Nat
  deriving BEq, Repr

/-- The endpoint of a base URL. -/
def endpoint (baseUrl : String) : String :=
  Text.trimEndMatches baseUrl "/" ++ "/chat/completions"

/-- Whether a text may stand in an HTTP header value. -/
def isHeaderValue (s : String) : Bool :=
  s.toList.all fun c => c == '\t' || (c.toNat ≥ 32 && c.toNat != 127)

/-- Asks the chat model for its chain: the request fails to be built or to be sent. -/
def askChat (s : ChatSettings) : Except Failure ModelChain :=
  let failed := fun (why : String) => Except.error (Failure.unavailable ("model request failed: " ++ why))
  match Net.Url.parse? (endpoint s.baseUrl) with
  | none => failed "builder error"
  | some url =>
    if !url.hasHost then failed ("builder error for url (" ++ url.toText ++ ")")
    else
      let url := url.withoutCredentials
      if !isHeaderValue ("Bearer " ++ s.apiKey) then failed "builder error"
      else if url.scheme != "http" && url.scheme != "https" then
        failed ("builder error for url (" ++ url.toText ++ ")")
      else failed ("error sending request for url (" ++ url.toText ++ ")")

end AdvisoryTrace.Model
