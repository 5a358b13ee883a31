import AdvisoryTrace.CommandLine.Command
import AdvisoryTrace.CommandLine.Refusal
import AdvisoryTrace.CommandLine.Similar
import AdvisoryTrace.Net.SocketAddr

/-!
# Reading a command line

The words of a command line are read from the left, one at a time.

* A word naming a subcommand starts that subcommand, unless an option waits for its value; the
  subcommand reads all the words after it, and the command then completes what it has read. The
  subcommand `help` shows the help of the command its words name instead.
* `--` makes every later word a positional value.
* `--name=value` and `--name value` give an option its value, and `--name` sets a switch.
  `--help` and `--version` ask for the help and version texts. A value attached to a switch
  is an error.
* A word starting with `-` (other than `-` alone) names short switches; only `-h` and
  `-V` exist.
* Any other word is the value of an option waiting for one, or else a positional value.

What is read is recorded only when the next option starts, when a positional value follows an
option's, when the words run out, or when the command's subcommand has been read. Recording an
option checks that it is not recorded already and that its value reads by its kind; an option
still waiting for its value then has none. These errors stop the reading, except where the next
word is an error of its own: an unknown option, a value attached to a switch, or a word the
command does not take. That error wins, and what was recorded before it shows in its usage line.

When a command has read all its words, options it was not given are taken from their
environment variables (checked like given values), then from their defaults; a command with
subcommands must have been given one (and shows its help when it was given nothing at all), and
every required option must have a value.

An unknown long option is answered with the most similar long name of the command, or else with
a long name of a subcommand named later on the line; an unknown word where a subcommand is due
is answered with the similar subcommands.
-/

namespace AdvisoryTrace.CommandLine

/-- Why a text is not an unsigned 64-bit number, read as a decimal with an optional `+`. -/
def readUnsigned (s : String) : Except String Nat :=
  let limit := Nat.pow 2 64
  let digits := match s.toList with
    | '+' :: rest => if rest.isEmpty then none else some rest
    | cs => some cs
  if s.isEmpty then .error "cannot parse integer from empty string"
  else match digits with
    | none => .error "invalid digit found in string"
    | some cs =>
      cs.foldlM (fun acc c =>
        if !c.isDigit then .error "invalid digit found in string"
        else if acc * 10 + (c.toNat - 48) ≥ limit then .error "number too large to fit in target type"
        else .ok (acc * 10 + (c.toNat - 48))) 0

/-- Checks a value of an option by the option's kind. -/
def checkValue (o : Opt) (v : String) : Except Refusal Unit :=
  match o.kind with
  | .text => .ok ()
  | .path => if v.isEmpty then .error (.emptyValue o.display) else .ok ()
  | .count =>
    match readUnsigned v with
    | .ok _ => .ok ()
    | .error reason => .error (.badValue o.display v reason)
  | .socketAddr =>
    if (Net.SocketAddr.parse? v).isSome then .ok ()
    else .error (.badValue o.display v "invalid socket address syntax")

/-- What one command received: each argument's values, from the command line, the environment
or its default. -/
structure Received where
  command : String
  values : List (String × List String)
  deriving BEq, Repr

namespace Received

/-- The values of an argument. -/
def get (r : Received) (id : String) : List String :=
  (r.values.lookup id).getD []

/-- The value of an argument that takes one. -/
def value? (r : Received) (id : String) : Option String :=
  (r.get id).head?

end Received

/-- Values read but not yet recorded: an option with its value once read, or values of the
positional list. -/
inductive Pending where
  | option (o : Opt) (value : Option String)
  | values (p : Positional) (vs : List String)

/-- A command part way through its words. -/
structure Level where
  command : Command
  /-- How the command was called: its name after those of the commands above it. -/
  path : String
  /-- The arguments recorded from the command line, by id, in the order first recorded, with
  their values. -/
  given : List (String × List String)
  /-- Whether an argument of the command's group was recorded. -/
  grouped : Bool
  /-- What was read and waits to be recorded. -/
  pending : Option Pending
  /-- Whether `--` was read. -/
  trailing : Bool

namespace Level

/-- A command before its first word. -/
def start (c : Command) (path : String) : Level := ⟨c, path, [], false, none, false⟩

/-- The ids of the arguments recorded. -/
def givenIds (lv : Level) : List String := lv.given.map (·.1)

/-- Whether an option waits for its value. -/
def expectsValue (lv : Level) : Bool :=
  match lv.pending with
  | some (.option _ none) => true
  | _ => false

/-- Records an option's value (a switch's is `true`), with the level after the attempt and
the error, if any. An option already recorded is an error and is dropped; a value the option
cannot read is an error, and the option stays recorded without it. -/
def record (lv : Level) (o : Opt) (v : String) : Level × Option Refusal :=
  if (lv.given.lookup o.id).isSome then
    ({ lv with given := lv.given.filter (·.1 != o.id) },
      some (.repeated o.display (lv.command.usage lv.path [])))
  else
    match checkValue o v with
    | .error e => ({ lv with given := lv.given ++ [(o.id, [])], grouped := true }, some e)
    | .ok () => ({ lv with given := lv.given ++ [(o.id, [v])], grouped := true }, none)

/-- Adds values to the positional list. -/
def addPositional (lv : Level) (p : Positional) (vs : List String) : Level :=
  match lv.given.lookup p.id with
  | some old =>
    { lv with given := lv.given.map (fun e => if e.1 == p.id then (p.id, old ++ vs) else e),
              grouped := true }
  | none => { lv with given := lv.given ++ [(p.id, vs)], grouped := true }

/-- Records what waits, with the level after the attempt and the error, if any: an option
still waiting for its value has none, which is an error. -/
def resolve (lv : Level) : Level × Option Refusal :=
  let rest := { lv with pending := none }
  match lv.pending with
  | none => (lv, none)
  | some (.option o none) => (rest, some (.emptyValue o.display))
  | some (.option o (some v)) => rest.record o v
  | some (.values p vs) => (rest.addPositional p vs, none)

/-- Records what waits, failing on its error. -/
def settle (lv : Level) : Except Refusal Level :=
  match lv.resolve with
  | (l, none) => .ok l
  | (_, some e) => .error e

/-- Records what waits where another error follows anyway: its own error is dropped. -/
def settleQuietly (lv : Level) : Level := lv.resolve.1

/-- Records an option given with its value (a switch with `true`), after what waits. -/
def accept (lv : Level) (o : Opt) (v : String) : Except Refusal Level := do
  let lv ← lv.settle
  match lv.record o v with
  | (l, none) => .ok l
  | (_, some e) => .error e

/-- The answer to a value attached to a switch: the usage line shows what was recorded before
it, and the switch. -/
def attachedToSwitch (lv : Level) (display id v : String) : Refusal :=
  .unexpectedValue display v (lv.command.usage lv.path (lv.givenIds ++ [id]) lv.grouped)

/-- The tip for passing a word that reads as an option as a positional value instead. -/
def escapeTip (lv : Level) (word : String) : List String :=
  if lv.command.positional.isSome && !lv.trailing then
    ["to pass '" ++ word ++ "' as a value, use '-- " ++ word ++ "'"]
  else []

/-- The answer to an unknown long option `--name`, with the words after it. -/
def unknownLong (lv : Level) (name : String) (rest : List String) : Refusal :=
  let lv := lv.settleQuietly
  let c := lv.command
  let arg := "--" ++ name
  match mostSimilar name c.longNames with
  | some long =>
    let id := ((c.optionByLong? long).map (·.id)).getD long
    let tips := if c.subcommands.isEmpty then [] else lv.escapeTip arg
    .unknownArgument arg (some ("--" ++ long)) tips (c.usage lv.path (lv.givenIds ++ [id]))
  | none =>
    let hits := c.allSubcommands.filterMap fun s =>
      match mostSimilar name s.longNames, rest.idxOf? s.name with
      | some long, some k => some (k, "'" ++ s.name ++ " --" ++ long ++ "' exists")
      | _, _ => none
    let best := hits.foldl (fun b h => match b with
      | some b => if h.1 < b.1 then some h else some b
      | none => some h) none
    let tips := match best with
      | some (_, tip) => (if c.subcommands.isEmpty then [] else lv.escapeTip arg) ++ [tip]
      | none => lv.escapeTip arg
    .unknownArgument arg none tips (c.usage lv.path lv.givenIds)

/-- The answer to a word that is neither an option nor a value the command takes. -/
def stray (lv : Level) (word : String) : Refusal :=
  let c := lv.command
  if lv.trailing && c.allSubcommands.any (·.name == word) then
    .unknownArgument word none
      ["subcommand '" ++ word ++ "' exists; to use it, remove the '--' before it"] (c.usage lv.path [])
  else if c.subcommands.isEmpty then .unknownArgument word none [] (c.usage lv.path [])
  else
    match similar word (c.allSubcommands.map (·.name)) with
    | [] => .unrecognizedSubcommand word (c.usage lv.path [])
    | names => .invalidSubcommand word names (c.usage lv.path [])

end Level

/-- The help text of the command that the words after `help` name. -/
def helpOf (c : Command) (path : String) (env : String → Option String) :
    List String → Refusal
  | [] => .help (c.helpText path env)
  | w :: ws =>
    match c.allSubcommands.find? (·.name == w) with
    | some s => helpOf s (path ++ " " ++ w) env ws
    | none => .unrecognizedSubcommand w (c.usage path [])

/-- Takes an option not given on the command line from its environment variable. -/
def fromEnv (env : String → Option String) (o : Opt) : Except Refusal (Option (List String)) :=
  match o.env.bind env with
  | none => .ok none
  | some v =>
    if o.takesValue then do
      if o.kind == .path && v.isEmpty then throw (.emptyValue o.display)
      checkValue o v
      return some [v]
    else if v == "true" || v == "false" then .ok (some [v])
    else .error (.invalidValue o.display v ["true", "false"] (mostSimilar v ["true", "false"]))

/-- Completes a command that has read its words, given what its subcommand received. -/
def complete (lv : Level) (env : String → Option String) (below : List Received) :
    Except Refusal (List Received) := do
  let lv ← lv.settle
  let c := lv.command
  let unset := c.options.filter fun o => (lv.given.lookup o.id).isNone
  let fromEnvironment ← unset.filterMapM fun o => do
    match ← fromEnv env o with
    | some vs => pure (some (o.id, vs))
    | none => pure none
  let fromDefaults := unset.filterMap fun o =>
    if (fromEnvironment.lookup o.id).isSome then none else o.default.map fun d => (o.id, [d])
  let values := lv.given ++ fromEnvironment ++ fromDefaults
  if !c.subcommands.isEmpty && below.isEmpty then
    if lv.given.isEmpty && fromEnvironment.isEmpty then throw (.helpOnMissing (c.helpText lv.path env))
    throw (.missingSubcommand c.name (c.allSubcommands.map (·.name)) (c.usage lv.path []))
  let missing := c.options.filter fun o => o.required && (values.lookup o.id).isNone
  if !missing.isEmpty then
    throw (.missingArguments (missing.map (·.display))
      (c.usage lv.path (lv.givenIds ++ missing.map (·.id))))
  return ⟨c.name, values⟩ :: below

/-- Reads the words of a command line for a command part way through. -/
def readWords (env : String → Option String) : Level → List String → Except Refusal (List Received)
  | lv, [] => complete lv env []
  | lv, w :: rest => do
    let c := lv.command
    if !lv.trailing && !lv.expectsValue && c.allSubcommands.any (·.name == w) then
      match c.subcommands.find? (·.name == w) with
      | some sub =>
        let below ← readWords env (Level.start sub (lv.path ++ " " ++ w)) rest
        complete lv env below
      | none => throw (helpOf c lv.path env rest)
    else if !lv.trailing && w == "--" then
      readWords env { lv with trailing := true } rest
    else if !lv.trailing && w.startsWith "--" then
      let body := (w.drop 2).toString
      let name := (body.splitOn "=").headD ""
      let attached := if body.contains '=' then some (body.drop (name.length + 1)).toString else none
      match c.optionByLong? name, attached with
      | some o, some v =>
        if o.takesValue then readWords env (← lv.accept o v) rest
        else throw (lv.attachedToSwitch o.display o.id v)
      | some o, none =>
        if o.takesValue then readWords env { (← lv.settle) with pending := some (.option o none) } rest
        else readWords env (← lv.accept o "true") rest
      | none, _ =>
        match c.builtins.find? (·.long == name), attached with
        | some b, some v => throw (lv.attachedToSwitch ("--" ++ b.long) b.long v)
        | some b, none =>
          let _ ← lv.settle
          throw (if b.short == 'h' then .help (c.helpText lv.path env) else .version c.versionText)
        | none, _ => throw (lv.unknownLong name rest)
    else if !lv.trailing && w.startsWith "-" && w != "-" then
      let short := (w.toList.drop 1).headD '-'
      match c.builtins.find? (·.short == short) with
      | some b =>
        let _ ← lv.settle
        throw (if b.short == 'h' then .help (c.helpText lv.path env) else .version c.versionText)
      | none =>
        let arg := "-" ++ String.singleton short
        throw (.unknownArgument arg none (lv.escapeTip arg) (c.usage lv.path []))
    else
      match lv.pending, lv.trailing, c.positional with
      | some (.option o none), false, _ =>
        readWords env { lv with pending := some (.option o (some w)) } rest
      | some (.values p vs), _, some _ =>
        readWords env { lv with pending := some (.values p (vs ++ [w])) } rest
      | _, _, some p => readWords env { (← lv.settle) with pending := some (.values p [w]) } rest
      | _, _, none => throw (lv.settleQuietly.stray w)

/-- Reads a command line (the words after the command's name) with the given environment. -/
def Command.read (c : Command) (env : String → Option String) (words : List String) :
    Except Refusal (List Received) :=
  readWords env (Level.start c c.name) words

end AdvisoryTrace.CommandLine
