import AdvisoryTrace.Json.Reader
import AdvisoryTrace.Verdict
import AdvisoryTrace.Failure
import AdvisoryTrace.Text.Blank

/-!
# Model replies

A model answers with JSON `{"call_chain": [names], "confidence": number}`, perhaps inside a
fenced code block (three backticks, optionally tagged `json`). The names are trimmed and lose
any trailing `()`, and empty ones are dropped; the confidence is rounded half away from zero
and clamped to `0 ..= 100`. A missing chain is empty; a missing confidence, or anything that
is not such a JSON object, makes the model unavailable.
-/

namespace AdvisoryTrace.Model

/-- The three backticks that open and close a fenced block. -/
def fence : String := "\x60\x60\x60"

/-- The shape of a reply. -/
def replyShape : Shape :=
  .record "ChainReply" [("call_chain", .list .text, true), ("confidence", .real, false)]

/-- The JSON text inside a reply: the text within a fenced block if the whole reply is one,
else the whole reply, trimmed. -/
def replyBody (content : String) : String :=
  let trimmed := Text.trim content
  let opened := (Text.stripPrefix? trimmed (fence ++ "json")).orElse fun _ =>
    Text.stripPrefix? trimmed fence
  let inner := opened.bind fun s => Text.stripSuffix? (Text.trimEnd s) fence
  Text.trim (inner.getD trimmed)

/-- A function name as a model writes it, without blanks around it and trailing `()`. -/
def bareName (name : String) : String :=
  Text.trimEndMatches (Text.trim name) "()"

/-- A confidence as a score: rounded half away from zero, then clamped to `0 ..= 100`, and
cast to a byte (not-a-number gives zero). -/
def scoreOf (confidence : Float) : UInt8 :=
  let r := (Double.ofFloat confidence).round
  let r := if r < 0 then 0 else r
  let r := if r > 100 then 100 else r
  r.toUInt8

/-- What a model's JSON answer holds: the names of its chain and its confidence. -/
structure ChainReply where
  callChain : List String
  confidence : Float

/-- The JSON text of a reply read as a chain reply: a missing chain is empty. -/
def decodeReply (json : String) : Except Json.Fault ChainReply :=
  (Json.readAs json replyShape).map fun v =>
    { callChain := (((v.get? "call_chain").bind Json.Value.asArray?).getD []).filterMap
        Json.Value.asString?
      confidence := ((v.get? "confidence").bind Json.Value.asFloat?).getD 0 }

/-- The chain and score a decoded reply gives: its names bare, empty ones dropped. -/
def ChainReply.toModelChain (reply : ChainReply) : ModelChain :=
  ⟨(reply.callChain.map bareName).filter (!·.isEmpty), scoreOf reply.confidence⟩

/-- The chain and score a model's reply gives. -/
def parseReply (content : String) : Except Failure ModelChain :=
  match decodeReply (replyBody content) with
  | .error f => .error (.unavailable ("model reply is not a call-chain answer: " ++ f.text))
  | .ok reply => .ok reply.toModelChain

/-- The model used when no key is configured: it is never available. -/
def disabled : Except Failure ModelChain := .error (.unavailable "no model API key configured")

end AdvisoryTrace.Model
