/-
  QuietEmit.CommandLine.Options

  The options of the program and how they are written.
-/
namespace QuietEmit.CommandLine

/-- The options. -/
inductive CliOption where
  | project
  | compiler
  | watch
  | verbose
  | quiet
  | noColor
  | help
  | version
deriving DecidableEq, Repr

namespace CliOption

/-- All options in the order in which they are listed. -/
def all : List CliOption :=
  [.project, .compiler, .watch, .verbose, .quiet, .noColor, .help, .version]

/-- The long name. -/
def long : CliOption → String
  | .project => "project"
  | .compiler => "compiler"
  | .watch => "watch"
  | .verbose => "verbose"
  | .quiet => "quiet"
  | .noColor => "no-color"
  | .help => "help"
  | .version => "version"

/-- The letter. -/
def short? : CliOption → Option Char
  | .project => some 'p'
  | .compiler => some 'c'
  | .watch => some 'w'
  | .verbose => some 'v'
  | .quiet => some 'q'
  | .noColor => none
  | .help => some 'h'
  | .version => some 'V'

/-- What the value is called, for an option that takes one. -/
def valueName? : CliOption → Option String
  | .project => some "PATH"
  | .compiler => some "NAME"
  | _ => none

/-- Whether an option takes a value. -/
def takesValue (o : CliOption) : Bool := o.valueName?.isSome

/-- Whether an option changes a run, and does not only ask for a text. -/
def isSetting (o : CliOption) : Bool := o != .help && o != .version

/-- The option with its value, as messages show it. -/
def shown (o : CliOption) : String :=
  "--" ++ o.long ++ match o.valueName? with
    | some v => " <" ++ v ++ ">"
    | none => ""

/-- The option with a long name. -/
def ofLong? (name : String) : Option CliOption := all.find? fun o => o.long == name

/-- The option with a letter. -/
def ofShort? (c : Char) : Option CliOption := all.find? fun o => o.short? == some c

/-- Options that cannot be given together. -/
def conflicts (a b : CliOption) : Bool :=
  (a == .quiet && b == .verbose) || (a == .verbose && b == .quiet)

end CliOption

/-- What was given on the command line. -/
structure Arguments where
  project : Option String := none
  compiler : Option String := none
  watch : Bool := false
  verbose : Bool := false
  quiet : Bool := false
  noColor : Bool := false
  /-- Arguments that belong to no option. -/
  strays : List String := []
deriving DecidableEq, Repr, Inhabited

namespace Arguments

/-- A warning about arguments that belong to no option. -/
def strayWarning? (a : Arguments) : Option String :=
  if a.strays.isEmpty then none
  else some ("Unknown CLI options received: " ++ ", ".intercalate a.strays)

end Arguments

end QuietEmit.CommandLine
