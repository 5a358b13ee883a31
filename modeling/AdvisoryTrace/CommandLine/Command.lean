/-!
# Commands

A command takes long options (`--name value`, `--name=value`, or a switch `--name`), at most one
positional list of values, and possibly subcommands, of which exactly one must then be given.
Every command answers `-h`/`--help` with its help text, and a command with a version answers
`-V`/`--version` with its name and version. A command with subcommands also has the
subcommand `help`, which shows the help of the command named after it.

This module describes commands and the texts they show: the usage line and the help text.

The usage line names the command, then `[OPTIONS]` when some option is optional, the required
options, the positional list, and `<COMMAND>` when a subcommand is due. A usage line that
reports what was used lists, instead of `[OPTIONS]`, the required options followed by those
used, each once, then the positional list. The options and positional list a command declares
form its group; where a report counts the group as used, the line shows the group as a whole in
place of its members.

The help text gives the command's description, its usage, and sections for its subcommands,
its positional list and its options. A line of a section shows the item, padded to the widest
item of the section, and its help. When some help would not fit beside its item on a line of
100 columns, and the items take more than two fifths of that width, every help of the section
goes on the line below its item instead, indented by ten columns. Lines are never wrapped.
-/

namespace AdvisoryTrace.CommandLine

/-- The values an option accepts. -/
inductive ValueKind where
  /-- Any text. -/
  | text
  /-- A path: any text but the empty one. -/
  | path
  /-- An unsigned 64-bit number in decimal. -/
  | count
  /-- A socket address. -/
  | socketAddr
  deriving BEq, Repr

/-- A long option: a switch, or an option taking one value named `valueName`. -/
structure Opt where
  /-- The key of its value among what a command received. -/
  id : String
  long : String
  /-- The name of its value in texts; none for a switch. -/
  valueName : Option String := none
  kind : ValueKind := .text
  help : String := ""
  /-- The environment variable read when the option is not given. -/
  env : Option String := none
  /-- Whether the help leaves out the variable's value. -/
  hideEnvValue : Bool := false
  default : Option String := none
  required : Bool := false
  deriving Repr

/-- A positional list: any number of values, none required. -/
structure Positional where
  id : String
  valueName : String
  help : String := ""
  deriving Repr

/-- A command: its name, description, version, options, positional list and subcommands. -/
structure Command where
  name : String
  about : String
  version : Option String := none
  options : List Opt := []
  positional : Option Positional := none
  subcommands : List Command := []
  /-- Whether `-h`/`--help` is an option of the command. -/
  helpSwitch : Bool := true
  /-- Whether the command's options and positional list form a group. -/
  grouped : Bool := true
  deriving Repr

namespace Opt

/-- Whether the option takes a value. -/
def takesValue (o : Opt) : Bool := o.valueName.isSome

/-- The option as errors and help show it: `--name <VALUE>`, or `--name` for a switch. -/
def display (o : Opt) : String :=
  "--" ++ o.long ++ (match o.valueName with | some v => " <" ++ v ++ ">" | none => "")

/-- The notes after an option's help: its environment variable and its default. -/
def notes (o : Opt) (env : String → Option String) : String :=
  let envNote := o.env.map fun name =>
    "[env: " ++ name ++ (if o.hideEnvValue then "" else "=" ++ (env name).getD "") ++ "]"
  let defaultNote := if o.takesValue then
      o.default.map fun d => "[default: " ++ (if d.any Char.isWhitespace then d.quote else d) ++ "]"
    else none
  " ".intercalate [envNote, defaultNote].reduceOption

end Opt

namespace Positional

/-- The list as shown: `[NAME]...`, or `<NAME>...` where it stands for values given. -/
def display (p : Positional) (given : Bool) : String :=
  (if given then "<" ++ p.valueName ++ ">" else "[" ++ p.valueName ++ "]") ++ "..."

end Positional

/-- The subcommand every command with subcommands has: it shows the help of the command named
after it. -/
def helpCommand : Command where
  name := "help"
  about := "Print this message or the help of the given subcommand(s)"
  positional := some ⟨"subcommand", "COMMAND", "Print help for the subcommand(s)"⟩
  helpSwitch := false
  grouped := false

/-- A help line of a built-in switch. -/
structure Builtin where
  short : Char
  long : String
  help : String

namespace Command

/-- The subcommands, with `help` after them when there are any. -/
def allSubcommands (c : Command) : List Command :=
  if c.subcommands.isEmpty then [] else c.subcommands ++ [helpCommand]

/-- The built-in switches: help, then version. -/
def builtins (c : Command) : List Builtin :=
  (if c.helpSwitch then [⟨'h', "help", "Print help"⟩] else []) ++
    (if c.version.isSome then [⟨'V', "version", "Print version"⟩] else [])

/-- The long names the command knows, its options' first. -/
def longNames (c : Command) : List String :=
  c.options.map (·.long) ++ c.builtins.map (·.long)

/-- The option of an id. -/
def optionById? (c : Command) (id : String) : Option Opt :=
  c.options.find? (·.id == id)

/-- The option of a long name. -/
def optionByLong? (c : Command) (long : String) : Option Opt :=
  c.options.find? (·.long == long)

/-- An option or built-in switch of an id, as a usage line shows it. -/
def shownSwitch? (c : Command) (id : String) : Option String :=
  match c.optionById? id with
  | some o => some o.display
  | none => (c.builtins.find? (·.long == id)).map ("--" ++ ·.long)

/-- Whether the usage line shows `[OPTIONS]`: some option is optional. -/
def hasOptionalOption (c : Command) : Bool :=
  c.options.any (!·.required)

/-- Removes later repeats from a list. -/
def dedup (xs : List String) : List String :=
  xs.foldl (fun acc x => if acc.contains x then acc else acc ++ [x]) []

/-- The command's group as a usage line shows it: the name of the positional list, then each
option, divided by `|`, between `<` and `>`. -/
def groupText (c : Command) : String :=
  "<" ++ "|".intercalate ((c.positional.map (·.valueName)).toList ++ c.options.map (·.display)) ++
    ">"

/-- The usage line of a command called as `path`, for the ids of the arguments used and whether
its group counts as used (neither for the general usage). -/
def usage (c : Command) (path : String) (used : List String) (group : Bool := false) : String :=
  let required := c.options.filter (·.required)
  let sub := if c.subcommands.isEmpty then [] else ["<COMMAND>"]
  let parts :=
    if used.isEmpty && !group then
      (if c.hasOptionalOption then ["[OPTIONS]"] else []) ++ required.map (·.display) ++
        (c.positional.map (·.display false)).toList ++ sub
    else
      let whole := group && c.grouped
      let member := fun id => whole && c.options.any (·.id == id)
      let shown := (required.map (·.id) ++ used).filter (!member ·)
      dedup (shown.filterMap c.shownSwitch?) ++ (if whole then [c.groupText] else []) ++
        (if whole then [] else (c.positional.map fun p => p.display (used.contains p.id)).toList) ++
        sub
  " ".intercalate (path :: parts)

/-- Spaces. -/
def spaces (n : Nat) : String := String.ofList (List.replicate n ' ')

/-- The width of the help texts' lines. -/
def lineWidth : Nat := 100

/-- Whether a help of width `helpWidth` beside items that take `taken` columns forces every help
of the section onto its own line. -/
def forcesNextLine (taken helpWidth : Nat) : Bool :=
  lineWidth ≥ taken && taken * 5 > lineWidth * 2 && helpWidth > lineWidth - taken

/-- A help with its notes after it. -/
def withNotes (help notes : String) : String :=
  if notes.isEmpty then help else if help.isEmpty then notes else help ++ " " ++ notes

/-- The lines of a section: each item with its help and the width of its help and notes apart,
padded to the widest item; items of options count `extra` more columns when judging whether
the helps go on lines of their own. -/
def sectionLines (items : List (String × String × Nat)) (extra : Nat) (widest : Nat) :
    List String :=
  let taken := widest + 4 + extra
  if items.any (fun (_, _, w) => forcesNextLine taken w) then
    items.map fun (item, help, _) => "  " ++ item ++ "\n" ++ spaces 10 ++ help
  else
    items.map fun (item, help, _) => "  " ++ item ++ spaces (widest + 2 - item.length) ++ help

/-- The section of subcommands. -/
def commandLines (c : Command) : List String :=
  let subs := c.allSubcommands
  let widest := subs.foldl (fun m s => max m s.name.length) 2
  sectionLines (subs.map fun s => (s.name, s.about, s.about.length)) 0 widest

/-- The section of options, with the built-in switches last. -/
def optionLines (c : Command) (env : String → Option String) : List String :=
  let items := c.options.map (fun o =>
      let notes := o.notes env
      ("    " ++ o.display, withNotes o.help notes, o.help.length + notes.length)) ++
    c.builtins.map fun b => ("-" ++ String.singleton b.short ++ ", --" ++ b.long, b.help, b.help.length)
  let widest := items.foldl (fun m (item, _, _) => max m item.length) 2
  sectionLines items 4 widest

/-- The section of the positional list. -/
def argumentLines (p : Positional) : List String :=
  let item := p.display false
  sectionLines [(item, p.help, p.help.length)] 0 (max 2 item.length)

/-- Drops white space at the end of a text. -/
def trimEnd (s : String) : String :=
  String.ofList (s.toList.reverse.dropWhile Char.isWhitespace).reverse

/-- The help text of a command called as `path`. -/
def helpText (c : Command) (path : String) (env : String → Option String) : String :=
  let sections :=
    (if c.subcommands.isEmpty then [] else ["Commands:\n" ++ "\n".intercalate c.commandLines]) ++
    (c.positional.map fun p => "Arguments:\n" ++ "\n".intercalate (argumentLines p)).toList ++
    (if c.options.isEmpty && c.builtins.isEmpty then []
      else ["Options:\n" ++ "\n".intercalate (c.optionLines env)])
  trimEnd (c.about ++ "\n\nUsage: " ++ c.usage path [] ++ "\n\n" ++ "\n\n".intercalate sections)
    ++ "\n"

/-- The version text of a command. -/
def versionText (c : Command) : String :=
  c.name ++ " " ++ c.version.getD "" ++ "\n"

end Command

end AdvisoryTrace.CommandLine
