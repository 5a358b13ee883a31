import AdvisoryTrace.Record
import AdvisoryTrace.Chain.Mermaid

/-!
# Export formats

Records are exported as pretty JSON, as plain text (a header line with id, status and
confidence, the chain, and a `---` line per record), or as one Mermaid flowchart per record
(its chain text read back and drawn). A format is named case-insensitively; unknown names mean
text.
-/

namespace AdvisoryTrace.Export

/-- An export file format. -/
inductive Format where
  | json
  | text
  | mermaid
  deriving BEq, DecidableEq, Repr

namespace Format

/-- The format a user-given name asks for; anything unknown is text. -/
def parse (name : String) : Format :=
  let n := name.toLower
  if n == "json" then .json else if n == "mermaid" || n == "mmd" then .mermaid else .text

/-- The format's name. -/
def name : Format → String
  | .json => "json"
  | .text => "text"
  | .mermaid => "mermaid"

/-- The file extension. -/
def extension : Format → String
  | .json => "json"
  | .text => "txt"
  | .mermaid => "mmd"

/-- The media type. -/
def contentType : Format → String
  | .json => "application/json"
  | _ => "text/plain; charset=utf-8"

end Format

/-- One record's text block. -/
def textBlock (r : Record) : String :=
  let confidence := match r.confidence with | some c => toString c.toNat | none => "-"
  r.id ++ "\t" ++ r.status.name ++ "\tConfidence: " ++ confidence ++ "\n" ++
    r.chain.getD "" ++ "\n---\n"

/-- One record's flowchart block. -/
def mermaidBlock (r : Record) : String :=
  "%% " ++ r.id ++ " " ++ r.status.name ++ "\n" ++
    (Chain.ofRendered (r.chain.getD "")).mermaid ++ "\n\n"

/-- The records in the format. -/
def render (records : List Record) : Format → String
  | .json => (Json.Value.arr (records.map Record.toValue)).prettyText
  | .text => String.join (records.map textBlock)
  | .mermaid => String.join (records.map mermaidBlock)

end AdvisoryTrace.Export
