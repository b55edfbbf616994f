/-
  QuietEmit.CommandLine.Refusal

  Why the program does not start: a fault in the arguments, or a request for
  help or for the version.
-/
import QuietEmit.CommandLine.Options

namespace QuietEmit.CommandLine

/-- Why the program does not start. `used` are the options that a usage line shows. -/
inductive Refusal where
  | help (long : Bool)
  | version
  | missingValue (option : CliOption)
  | repeated (option : CliOption)
  | conflict (option other : CliOption) (used : List CliOption)
  /-- Whether other arguments came before the option. -/
  | unneededValue (option : CliOption) (value : String) (afterOthers : Bool)
  /-- `similar` is an option that may have been meant. -/
  | unknown (argument : String) (similar : Option CliOption) (used : List CliOption)
deriving DecidableEq, Repr

namespace Refusal

/-! ## Texts -/

/-- The name and version of the program. -/
def versionText : String := "hush 0.2.0\n"

/-- The usage line: all options in general, or those used. -/
def usage (used : List CliOption) : String :=
  "Usage: hush " ++
    if used.isEmpty then "[OPTIONS]"
    else " ".intercalate (used.eraseDups.map CliOption.shown)

/-- All that can be chosen from, as a usage line shows it after a value too many. -/
def choices : String :=
  "<" ++ "|".intercalate ((CliOption.all.filter CliOption.isSetting).map CliOption.shown ++ ["ARGS"]) ++ ">"

/-- The usage line after a value too many. -/
def choiceUsage (o : CliOption) (afterOthers : Bool) : String :=
  if !afterOthers then usage [o]
  else if o.isSetting then "Usage: hush " ++ choices
  else "Usage: hush " ++ choices ++ " " ++ o.shown

/-- A line of the short help. -/
def shortLine (o : CliOption) (about : String) : String :=
  let letter := match o.short? with
    | some c => "  -" ++ String.singleton c ++ ", "
    | none => "      "
  let head := letter ++ o.shown
  let pad := String.ofList (List.replicate (25 - head.length) ' ')
  head ++ pad ++ about ++ "\n"

/-- What each option does, in one line. -/
def summary (longHelp : Bool) : CliOption → String
  | .project => "Path to tsconfig.json"
  | .compiler => "Compiler frontend to use"
  | .watch => "Watch input files and recompile on change"
  | .verbose => "Enable verbose logging (debug level)"
  | .quiet => "Suppress all log output except errors"
  | .noColor => "Disable colored output"
  | .help =>
    if longHelp then "Print help (see a summary with '-h')" else "Print help (see more with '--help')"
  | .version => "Print version"

/-- What else there is to say about an option. -/
def details? : CliOption → Option String
  | .project => some "Defaults to \x60tsconfig.json\x60 in the current directory."
  | .compiler =>
    some "Only \x60oxc\x60 is available. Any other name is reported and the process exits with status 1."
  | .quiet => some "Diagnostics and the suppression summary are still printed."
  | _ => none

/-- The short help. -/
def shortHelp : String :=
  "Compile TypeScript while suppressing type errors\n\nUsage: hush [OPTIONS]\n\nOptions:\n" ++
    String.join (CliOption.all.map fun o => shortLine o (summary false o))

/-- An entry of the long help. -/
def longEntry (o : CliOption) : String :=
  let letter := match o.short? with
    | some c => "  -" ++ String.singleton c ++ ", "
    | none => "      "
  let indent := "          "
  letter ++ o.shown ++ "\n" ++ indent ++ summary true o ++ "\n" ++
    match details? o with
    | some text => indent ++ "\n" ++ indent ++ text ++ "\n"
    | none => ""

/-- The long help. -/
def longHelp : String :=
  "Hush compiles a TypeScript project with the oxc frontend.\n" ++
  "Every diagnostic is printed and counted but never fails the build,\n" ++
  "and module specifiers can be rewritten through aliases or a base URL.\n\n" ++
  "Usage: hush [OPTIONS]\n\nOptions:\n" ++
    "\n".intercalate (CliOption.all.map longEntry)

/-- A fault with hints and the usage line, where there are any. -/
def fault (text : String) (hint used : Option String) : String :=
  let part : Option String → String
    | some s => s ++ "\n\n"
    | none => ""
  "error: " ++ text ++ "\n\n" ++ part (hint.map ("  tip: " ++ ·)) ++ part used ++
    "For more information, try '--help'.\n"

/-- The text shown. -/
def message : Refusal → String
  | .help long => if long then longHelp else shortHelp
  | .version => versionText
  | .missingValue o =>
    fault ("a value is required for '" ++ o.shown ++ "' but none was supplied") none none
  | .repeated o =>
    fault ("the argument '" ++ o.shown ++ "' cannot be used multiple times") none (some (usage []))
  | .conflict o other used =>
    fault ("the argument '" ++ o.shown ++ "' cannot be used with '" ++ other.shown ++ "'") none
      (some (usage used))
  | .unneededValue o value afterOthers =>
    fault ("unexpected value '" ++ value ++ "' for '" ++ o.shown ++
      "' found; no more were expected") none (some (choiceUsage o afterOthers))
  | .unknown argument similar used =>
    fault ("unexpected argument '" ++ argument ++ "' found")
      (some (match similar with
        | some o => "a similar argument exists: '--" ++ o.long ++ "'"
        | none => "to pass '" ++ argument ++ "' as a value, use '-- " ++ argument ++ "'"))
      (some (usage used))

/-- Whether the text is what was asked for, and no fault. -/
def isAnswer : Refusal → Bool
  | .help _ | .version => true
  | _ => false

end Refusal

end QuietEmit.CommandLine
