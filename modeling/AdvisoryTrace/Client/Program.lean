import AdvisoryTrace.Client.Args
import AdvisoryTrace.Program

/-!
# The client program

A run of the client reads its command line, then makes its one call to the daemon, at the base
URL without trailing slashes:

* `submit` first reads the id file, when one is named, and then posts the ids to `/analyze`;
* `result` and `wait` ask for `/result/{task}`;
* `export` asks for `/export/{task}?fmt=…`.

A call cannot reach the daemon (see `call`), so a run whose command line is accepted ends with
the error of its call, or of reading the id file before it.
-/

namespace AdvisoryTrace.Client

/-- The error a failed call is reported as. -/
def CallError.trouble (e : CallError) : Trouble :=
  match e.chain with
  | m :: causes => ⟨m, causes⟩
  | [] => ⟨"", []⟩

/-- A run of the client with its environment, its command line (after its name), and a way to
read a file by its path. -/
def run (env : String → Option String) (words : List String)
    (fileBytes : String → Except String (List UInt8)) : Exit :=
  match Invocation.read env words with
  | .error r => Exit.ofRefusal r
  | .ok inv =>
    let daemon := Text.trimEndMatches inv.daemon "/"
    match inv.request with
    | .submit _ file =>
      let fileError : Option Trouble := file.bind fun f =>
        match fileBytes f with
        | .error e => some ⟨"read " ++ f, [e]⟩
        | .ok bytes =>
          if (String.fromUTF8? (ByteArray.mk bytes.toArray)).isNone then
            some ⟨"read " ++ f, ["stream did not contain valid UTF-8"]⟩
          else none
      match fileError with
      | some t => Exit.ofTrouble t
      | none => Exit.ofTrouble (call (daemon ++ "/analyze") []).trouble
    | .result task | .wait task _ _ => Exit.ofTrouble (call (daemon ++ "/result/" ++ task) []).trouble
    | .export task fmt _ =>
      Exit.ofTrouble (call (daemon ++ "/export/" ++ task) [("fmt", fmt)]).trouble

end AdvisoryTrace.Client
