import AdvisoryTrace.Http.Target

/-!
# Requests and responses

A request is a method, a checked target, an optional content type and a body; a response is a
status, its headers in order and a body. Building a request checks its parts in order: the
method (a token: letters, digits and ``!#$%&'*+-.^_`|~``), then the target, then the content
type (visible ASCII, spaces and tabs).

A body is JSON when its content type reads as a media type `application/json`, or
`application/…+json`: a type and a subtype of token characters, case aside, then
parameters `name=value` (the value a token or a quoted text) after semicolons. A quoted text
holds at least one character and ends at the first quote after that one, so a quote right
after the opening one is part of the text.
-/

namespace AdvisoryTrace.Http

/-- Whether a character is a token character. -/
def isTokenChar (c : Char) : Bool :=
  (c.toNat < 128 && c.isAlphanum) || "!#$%&'*+-.^_\x60|~".contains c

/-- A request as the daemon receives it. -/
structure Request where
  method : String
  target : Target
  contentType : Option String := none
  body : String := ""
  deriving Repr

/-- Why a request cannot be built. -/
def Request.make (method target : String) (contentType : Option String) (body : String) :
    Except String Request := do
  if method.isEmpty || !method.toList.all isTokenChar then throw "invalid HTTP method"
  let t ← (Target.read target).mapError TargetError.text
  if let some ct := contentType then
    if !ct.toList.all fun c => c == '\t' || (32 ≤ c.toNat && c.toNat != 127) then
      throw "failed to parse header value"
  return { method, target := t, contentType, body }

/-- A response: a status, headers in the order they were set, and a body. -/
structure Response where
  status : Nat
  headers : List (String × String) := []
  body : String := ""
  deriving BEq, Repr

namespace Response

/-- Sets a header, replacing one of the same name where it stands. -/
def setHeader (r : Response) (name value : String) : Response :=
  if r.headers.any (·.1 == name) then
    { r with headers := r.headers.map fun (n, v) => if n == name then (n, value) else (n, v) }
  else { r with headers := r.headers ++ [(name, value)] }

/-- A plain text response. -/
def text (status : Nat) (body : String) : Response :=
  { status, headers := [("content-type", "text/plain; charset=utf-8")], body }

/-- A JSON response. -/
def json (status : Nat) (body : String) : Response :=
  { status, headers := [("content-type", "application/json")], body }

/-- A response with nothing in it. -/
def empty (status : Nat) : Response := { status }

end Response

/-- Reads the parameters of a media type after its first semicolon; false when they do not
read. -/
def paramsRead (cs : List Char) : Bool :=
  go cs (cs.length + 1)
where
  /-- Reads parameters from the start of a name. -/
  go : List Char → Nat → Bool
    | [], _ => true
    | _, 0 => false
    | ' ' :: rest, fuel + 1 => go rest fuel
    | cs, fuel + 1 =>
      let name := cs.takeWhile isTokenChar
      match cs.drop name.length with
      | '=' :: rest =>
        if name.isEmpty then false
        else
          match rest with
          | '"' :: quoted =>
            match quoted with
            | [] => false
            | first :: more =>
              let inner := more.takeWhile fun c => c != '"'
              match more.drop inner.length with
              | '"' :: after =>
                if !(first :: inner).all (fun c => c.toNat > 31 && c.toNat != 127) then false
                else
                  let after := after.dropWhile (· == ' ')
                  match after with
                  | [] => true
                  | ';' :: more => go more fuel
                  | _ => false
              | _ => false
          | _ =>
            let value := rest.takeWhile isTokenChar
            match rest.drop value.length with
            | [] => true
            | ';' :: more => if value.isEmpty then false else go more fuel
            | _ => false
      | _ => false

/-- Whether a content type names JSON. -/
def isJsonMediaType (contentType : String) : Bool :=
  let cs := contentType.toList
  if !cs.all (fun c => c == '\t' || (32 ≤ c.toNat && c.toNat < 127)) then false
  else
    let kind := cs.takeWhile isTokenChar
    match cs.drop kind.length with
    | '/' :: rest =>
      if kind.isEmpty then false
      else
        let sub := rest.takeWhile fun c => isTokenChar c || c == '+'
        let paramsOk := match rest.drop sub.length with
          | [] => true
          | ';' :: more => !sub.isEmpty && paramsRead more
          | _ => false
        let plus := sub.length - 1 - (sub.reverse.idxOf '+')
        let (subtype, suffix) :=
          if sub.drop 1 |>.contains '+' then (sub.take plus, some (sub.drop (plus + 1)))
          else (sub, none)
        paramsOk && String.ofList (kind.map Char.toLower) == "application" &&
          (String.ofList (subtype.map Char.toLower) == "json" ||
            suffix.map (fun s => String.ofList (s.map Char.toLower)) == some "json")
    | _ => false

end AdvisoryTrace.Http
