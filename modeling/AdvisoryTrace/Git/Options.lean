/-!
# Command options

How a git command reads its words into options and other words, given the table of its
options.

* `--` ends the options; a command may keep it among the other words.
* A word that does not start with `-`, and `-` alone, is another word; reading goes on after it.
* `--help` (and `--help-all`) and `-h` print the usage on standard output, status 129.
* `--NAME`, `--NAME=VALUE`, `--no-NAME`: a long option, also by any unambiguous start of its
  name. An option whose name starts with `no-` is also negated by the name without it.
* `-abc`: short options; an option taking a value takes the rest of the word, or else the next
  word. A cluster of three or more letters that spells the start of a long option (or starts with
  `no-`) is taken for a long option with one dash, and refused.

A refused word gives status 129 and an error line; an unknown option also the usage. A value
that an option's own check refuses stops the command with that check's status and text.
-/

namespace AdvisoryTrace.Git.Options

/-- What an option takes after it. -/
inductive Takes where
  /-- Nothing: a switch. -/
  | nothing
  /-- A value, attached or as the next word. -/
  | value
  /-- A value only when attached. -/
  | optionalValue
  /-- A whole number, attached or as the next word. -/
  | number
  deriving BEq, Repr

/-- A refusal: the status and what is said on standard output and standard error. -/
structure Stop where
  code : Nat
  out : String
  err : String
  deriving BEq, Repr

/-- One option of a command. -/
structure Spec where
  short : Option Char := none
  long : Option String := none
  takes : Takes := .nothing
  /-- Whether `--no-NAME` is allowed. -/
  negatable : Bool := true
  /-- The option this one is another name of. -/
  aliasOf : Option String := none
  /-- The option as the usage shows it, such as `-b, --branch <branch>`. -/
  shown : String := ""
  /-- How the usage shows another name of an option when it is printed from the table as
  written, before the names are resolved; none for other options. -/
  rawShown : Option String := none
  help : String := ""
  /-- Whether the usage leaves the option out. -/
  hidden : Bool := false
  /-- What the command says when it cannot take a value it was given. -/
  check : String → Option Stop := fun _ => none

/-- The name an option is known by: its long name, or its letter. -/
def Spec.key (s : Spec) : String :=
  match s.aliasOf, s.long, s.short with
  | some target, _, _ => target
  | none, some l, _ => l
  | none, none, some c => String.singleton c
  | none, none, none => ""

/-- An option as it was given: which one, whether negated, and its value. -/
structure Given where
  key : String
  unset : Bool
  value : Option String
  deriving BEq, Repr

/-- What reading the words gives: the options and the other words, or a refusal. -/
inductive Outcome where
  | read (given : List Given) (words : List String)
  | stopped (s : Stop)
  deriving Repr

/-- One line of the usage: the option as shown, and its help from column 26, on the next line
when the option reaches past column 24. -/
def usageLine (s : Spec) : String :=
  let width := 4 + s.shown.length
  if width ≤ 24 then "    " ++ s.shown ++ String.ofList (List.replicate (26 - width) ' ') ++ s.help ++ "\n"
  else "    " ++ s.shown ++ "\n" ++ String.ofList (List.replicate 26 ' ') ++ s.help ++ "\n"

/-- The usage: its first lines, a blank line, the options that are shown, and a blank line.
`raw` prints the table as written, where another name of an option shows as such. -/
def usage (heads : List String) (specs : List Spec) (all : Bool) (raw : Bool := false) : String :=
  let shownAs := fun (s : Spec) => if raw then { s with shown := s.rawShown.getD s.shown } else s
  String.join (heads.map (· ++ "\n")) ++ "\n" ++
    String.join ((specs.filter fun s => all || !s.hidden).map (usageLine ∘ shownAs)) ++ "\n"

/-- How an option is named in an error line. -/
def optionName (s : Spec) (isShort unset : Bool) : String :=
  if isShort then "switch \x60" ++ String.singleton (s.short.getD ' ') ++ "'"
  else if unset then "option \x60no-" ++ (s.long.getD "") ++ "'"
  else "option \x60" ++ (s.long.getD "") ++ "'"

/-- An error line with status 129. -/
def refuse (msg : String) : Stop := ⟨129, "", "error: " ++ msg ++ "\n"⟩

/-- Whether a text is a whole number as `strtol` reads all of it: blanks, a sign, digits. -/
def isNumber (v : String) : Bool :=
  let cs := v.toList.dropWhile (" \t\n\r\x0b\x0c".contains ·)
  let cs := match cs with
    | '+' :: rest | '-' :: rest => rest
    | _ => cs
  !cs.isEmpty && cs.all Char.isDigit

/-- Takes the value of an option: the attached one, or the next word. Gives the value and the
words left, or the refusal. -/
def takeValue (s : Spec) (isShort : Bool) (attached : Option String) (rest : List String) :
    Except Stop (String × List String) :=
  match attached, rest with
  | some v, _ => .ok (v, rest)
  | none, w :: more => .ok (w, more)
  | none, [] => .error (refuse (optionName s isShort false ++ " requires a value"))

/-- Gives an option its value, as git does once it knows which option a word names. -/
def getValue (s : Spec) (isShort unset : Bool) (attached : Option String) (rest : List String) :
    Except Stop (Given × List String) := do
  if unset && attached.isSome then throw (refuse (optionName s isShort unset ++ " takes no value"))
  if unset then return (⟨s.key, true, none⟩, rest)
  match s.takes with
  | .nothing =>
    if !isShort && attached.isSome then throw (refuse (optionName s isShort unset ++ " takes no value"))
    return (⟨s.key, false, none⟩, rest)
  | .optionalValue =>
    if let some v := attached then
      if let some stop := s.check v then throw stop
    return (⟨s.key, false, attached⟩, rest)
  | .value =>
    let (v, rest) ← takeValue s isShort attached rest
    if let some stop := s.check v then throw stop
    return (⟨s.key, false, some v⟩, rest)
  | .number =>
    let (v, rest) ← takeValue s isShort attached rest
    if !isNumber v then throw (refuse (optionName s isShort unset ++ " expects a numerical value"))
    return (⟨s.key, false, some v⟩, rest)

/-- What one option of the table makes of a long option word: an exact match (whether negated,
and the value after `=`), a start of its name (whether negated), or nothing. -/
inductive Hit where
  | exact (unset : Bool) (attached : Option String)
  | start (unset : Bool)
  | miss

/-- Matches a long option word (without its dashes) against one name of an option, as git's
reading of long options does; `negatedName` tells that the name is an option's `no-` name with
the `no-` taken off, and `tries` bounds the retries with such a name. -/
def hitName (s : Spec) (arg argName : List Char) (name : List Char) (negatedName : Bool) :
    Nat → Hit
  | 0 => .miss
  | tries + 1 =>
    if name.isPrefixOf arg then
      match arg.drop name.length with
      | [] => .exact negatedName none
      | '=' :: v => .exact negatedName (some (String.ofList v))
      | _ => .miss
    else if argName.isPrefixOf name then .start negatedName
    else if !s.negatable then .miss
    else if arg.isPrefixOf ['n', 'o', '-'] then .start (!negatedName)
    else if !(['n', 'o', '-'].isPrefixOf arg) then
      if ['n', 'o', '-'].isPrefixOf name then hitName s arg argName (name.drop 3) true tries
      else .miss
    else
      let after := arg.drop 3
      if name.isPrefixOf after then
        match after.drop name.length with
        | [] => .exact (!negatedName) none
        | '=' :: v => .exact (!negatedName) (some (String.ofList v))
        | _ => .miss
      else if after.isPrefixOf name then .start (!negatedName)
      else .miss

/-- What a long option word names: one option exactly, one option by a start of its name, two
options it could be (the last two it starts), or none. -/
inductive LongMatch where
  | found (s : Spec) (unset : Bool) (attached : Option String)
  | ambiguous (first : Spec × Bool) (second : Spec × Bool)
  | unknown

/-- Reads the table in order for a long option word: the first exact match wins; otherwise the
starts it matches decide. Two starts of options that are names of one option do not rival. -/
def matchLong (arg : List Char) : List Spec → Option (Spec × Bool) → Option (Spec × Bool) → LongMatch
  | [], best, rival =>
    match rival, best with
    | some c, some a => .ambiguous c a
    | _, some (s, unset) =>
      let attached := match arg.dropWhile (· != '=') with
        | '=' :: v => some (String.ofList v)
        | _ => none
      .found s unset attached
    | _, none => .unknown
  | s :: more, best, rival =>
    match s.long with
    | none => matchLong arg more best rival
    | some l =>
      let argName := arg.takeWhile (· != '=')
      match hitName s arg argName l.toList false 2 with
      | .exact unset attached => .found s unset attached
      | .start unset =>
        let rival := match best with
          | some (a, aUnset) => if a.key == s.key then rival else some (a, aUnset)
          | none => rival
        matchLong arg more (some (s, unset)) rival
      | .miss => matchLong arg more best rival

/-- Whether a cluster of letters spells the start of a long option with one dash: three letters
or more, starting with `no-` or with all of the start of a long name. -/
def typo? (specs : List Spec) (cluster : String) : Option Stop :=
  if cluster.length < 3 then none
  else if cluster.startsWith "no-" || specs.any (fun s => (s.long.map (·.startsWith cluster)).getD false) then
    some (refuse ("did you mean \x60--" ++ cluster ++ "\x60 (with two dashes)?"))
  else none

/-- Reads a cluster of short options; `first` tells that no letter of it has been read yet,
and `whole` is the cluster as given. -/
def readShort (specs : List Spec) (usageText : String) (whole : String) :
    Nat → Bool → List Char → List String → List Given → Except Stop (List Given × List String)
  | 0, _, _, rest, given => .ok (given, rest)
  | _, _, [], rest, given => .ok (given, rest)
  | fuel + 1, first, c :: more, rest, given =>
    match specs.find? (·.short == some c) with
    | none =>
      let typo := if first then typo? specs whole else none
      match typo with
      | some stop => .error stop
      | none =>
        if c == 'h' then .error ⟨129, usageText, ""⟩
        else if c.toNat < 128 then
          .error ⟨129, "", "error: unknown switch \x60" ++ String.singleton c ++ "'\n" ++ usageText⟩
        else
          .error ⟨129, "", "error: unknown non-ascii option in string: \x60-" ++ String.ofList (c :: more) ++
            "'\n" ++ usageText⟩
    | some s =>
      let attached := if more.isEmpty then none else some (String.ofList more)
      match s.takes with
      | .nothing => do
        let (g, rest) ← getValue s true false none rest
        if first && !more.isEmpty then
          if let some stop := typo? specs whole then throw stop
        readShort specs usageText whole fuel false more rest (given ++ [g])
      | _ => do
        let (g, rest) ← getValue s true false attached rest
        .ok (given ++ [g], rest)

/-- Reads the words of a command with its option table. `keepDashDash` keeps a `--` among the
other words. The fuel bounds the words read; one more than their number is enough. -/
def read (specs : List Spec) (heads : List String) (keepDashDash : Bool) :
    Nat → List String → List Given → List String → Outcome
  | 0, _, given, words => .read given words
  | _, [], given, words => .read given words
  | fuel + 1, arg :: rest, given, words =>
    let usageText := usage heads specs false
    if arg == "--" then .read given (words ++ (if keepDashDash then arg :: rest else rest))
    else if !arg.startsWith "-" || arg == "-" then read specs heads keepDashDash fuel rest given (words ++ [arg])
    else if arg.startsWith "--" then
      let name := (arg.drop 2).toString
      if name == "help-all" then .stopped ⟨129, usage heads specs true, ""⟩
      else if name == "help" then .stopped ⟨129, usageText, ""⟩
      else
        match matchLong name.toList specs none none with
        | .unknown => .stopped ⟨129, "", "error: unknown option \x60" ++ name ++ "'\n" ++ usageText⟩
        | .ambiguous (a, aUnset) (b, bUnset) =>
          .stopped ⟨129, usageText, "error: ambiguous option: " ++ name ++ " (could be --" ++
            (if aUnset then "no-" else "") ++ (a.long.getD "") ++ " or --" ++
            (if bUnset then "no-" else "") ++ (b.long.getD "") ++ ")\n"⟩
        | .found s unset attached =>
          match getValue s false unset attached rest with
          | .error stop => .stopped stop
          | .ok (g, rest) => read specs heads keepDashDash fuel rest (given ++ [g]) words
    else
      let cluster := (arg.drop 1).toString
      match readShort specs usageText cluster (cluster.length + 1) true cluster.toList rest [] with
      | .error stop => .stopped stop
      | .ok (gs, rest) => read specs heads keepDashDash fuel rest (given ++ gs) words

/-- Reads the words of a command. -/
def readAll (specs : List Spec) (heads : List String) (keepDashDash : Bool) (args : List String) : Outcome :=
  read specs heads keepDashDash (args.length + 1) args [] []

/-- The last time an option was given. -/
def last? (given : List Given) (key : String) : Option Given :=
  (given.filter (·.key == key)).getLast?

/-- Whether a switch is on: given last without negation. -/
def isOn (given : List Given) (key : String) : Bool :=
  match last? given key with
  | some g => !g.unset
  | none => false

/-- The value an option was given last, unless it was negated last. -/
def valueOf? (given : List Given) (key : String) : Option String :=
  (last? given key).bind (·.value)

end AdvisoryTrace.Git.Options
