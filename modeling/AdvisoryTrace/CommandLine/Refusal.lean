/-!
# Refusals

Why a command line was not accepted, and the text shown for it. Showing the help or the version
is a refusal too: the command line asked for a text instead of a run.

An error text reads `error: ` and what went wrong; then lists of accepted values, then tips
(the first after a blank line, each on its own line and indented), then the usage line after a
blank line, and last the pointer to `--help`.
-/

namespace AdvisoryTrace.CommandLine

/-- Why a command line was not accepted. -/
inductive Refusal where
  /-- The help text was asked for. -/
  | help (text : String)
  /-- Nothing was given to a command that needs something, so its help is shown. -/
  | helpOnMissing (text : String)
  /-- The version was asked for. -/
  | version (text : String)
  /-- An argument that the command does not know, with a similar argument, further tips and the
  usage line. -/
  | unknownArgument (arg : String) (similar : Option String) (tips : List String) (usage : String)
  /-- An option that needs a value was given none. -/
  | emptyValue (arg : String)
  /-- A value outside a fixed list, with the list and a similar value; an empty value reads as
  none given. -/
  | invalidValue (arg value : String) (possible : List String) (similar : Option String)
  /-- A value that its option could not read, with the reason. -/
  | badValue (arg value reason : String)
  /-- A value attached to a switch. -/
  | unexpectedValue (arg value usage : String)
  /-- An option given twice. -/
  | repeated (arg usage : String)
  /-- Required arguments left out. -/
  | missingArguments (args : List String) (usage : String)
  /-- A command that needs a subcommand was given none. -/
  | missingSubcommand (name : String) (subcommands : List String) (usage : String)
  /-- A word where a subcommand is due, with the similar subcommands. -/
  | invalidSubcommand (word : String) (similar : List String) (usage : String)
  /-- A word that names no subcommand. -/
  | unrecognizedSubcommand (word usage : String)
  deriving BEq, Repr

namespace Refusal

/-- The kind of refusal, as reported. -/
def kind : Refusal → String
  | .help _ => "DisplayHelp"
  | .helpOnMissing _ => "DisplayHelpOnMissingArgumentOrSubcommand"
  | .version _ => "DisplayVersion"
  | .unknownArgument .. => "UnknownArgument"
  | .emptyValue _ => "InvalidValue"
  | .invalidValue .. => "InvalidValue"
  | .badValue .. => "ValueValidation"
  | .unexpectedValue .. => "TooManyValues"
  | .repeated .. => "ArgumentConflict"
  | .missingArguments .. => "MissingRequiredArgument"
  | .missingSubcommand .. => "MissingSubcommand"
  | .invalidSubcommand .. => "InvalidSubcommand"
  | .unrecognizedSubcommand .. => "InvalidSubcommand"

/-- Text between single quotes. -/
def sq (s : String) : String := "'" ++ s ++ "'"

/-- A list of accepted values on its own indented line; nothing for an empty list. -/
def valueList (name : String) (values : List String) : String :=
  if values.isEmpty then ""
  else
    let shown := values.map fun v => if v.any Char.isWhitespace then "\"" ++ v ++ "\"" else v
    "\n  [" ++ name ++ ": " ++ ", ".intercalate shown ++ "]"

/-- The tip naming similar things of a kind; nothing when there are none. -/
def similarTip (what : String) (names : List String) : Option String :=
  match names with
  | [] => none
  | [n] => some ("a similar " ++ what ++ " exists: " ++ sq n)
  | ns => some ("some similar " ++ what ++ "s exist: " ++ ", ".intercalate (ns.map sq))

/-- Tips, the first after a blank line. -/
def tipLines (tips : List String) : String :=
  if tips.isEmpty then "" else "\n" ++ String.join (tips.map ("\n  tip: " ++ ·))

/-- An error text: what went wrong, its tips, its usage line, and the pointer to `--help`. -/
def errorText (message : String) (tips : List String) (usage : Option String) : String :=
  "error: " ++ message ++ tipLines tips ++ (usage.map ("\n\nUsage: " ++ ·)).getD "" ++
    "\n\nFor more information, try '--help'.\n"

/-- The text shown for a refusal. -/
def text : Refusal → String
  | .help t | .helpOnMissing t | .version t => t
  | .unknownArgument arg similar tips usage =>
    errorText ("unexpected argument " ++ sq arg ++ " found")
      ((similarTip "argument" similar.toList).toList ++ tips) (some usage)
  | .emptyValue arg =>
    errorText ("a value is required for " ++ sq arg ++ " but none was supplied") [] none
  | .invalidValue arg value possible similar =>
    let what := if value.isEmpty then "a value is required for " ++ sq arg ++ " but none was supplied"
      else "invalid value " ++ sq value ++ " for " ++ sq arg
    errorText (what ++ valueList "possible values" possible)
      (similarTip "value" similar.toList).toList none
  | .badValue arg value reason =>
    errorText ("invalid value " ++ sq value ++ " for " ++ sq arg ++ ": " ++ reason) [] none
  | .unexpectedValue arg value usage =>
    errorText ("unexpected value " ++ sq value ++ " for " ++ sq arg ++ " found; no more were expected")
      [] (some usage)
  | .repeated arg usage =>
    errorText ("the argument " ++ sq arg ++ " cannot be used multiple times") [] (some usage)
  | .missingArguments args usage =>
    errorText ("the following required arguments were not provided:" ++
      String.join (args.map ("\n  " ++ ·))) [] (some usage)
  | .missingSubcommand name subcommands usage =>
    errorText (sq name ++ " requires a subcommand but one was not provided" ++
      valueList "subcommands" subcommands) [] (some usage)
  | .invalidSubcommand word similar usage =>
    errorText ("unrecognized subcommand " ++ sq word) (similarTip "subcommand" similar).toList
      (some usage)
  | .unrecognizedSubcommand word usage =>
    errorText ("unrecognized subcommand " ++ sq word) [] (some usage)

end Refusal

end AdvisoryTrace.CommandLine
