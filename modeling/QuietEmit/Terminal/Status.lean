/-
  QuietEmit.Terminal.Status

  Status lines: the banner, notices and warnings, and when they are coloured.
-/
import QuietEmit.Diagnostic.Line
import QuietEmit.Settings.Basic

namespace QuietEmit.Terminal

/-- The version of the program. -/
def version : String := "0.2.0"

/-- The banner: a title, then one notice per line. -/
def headLines (compiler : Compiler) (project : Path) : List String :=
  ["hush v" ++ version, "Using " ++ compiler.name ++ " frontend",
    "compiler: " ++ compiler.name, "project: " ++ project.text]

/-- Colour is used when asked for by the environment and refused by nothing; without a
terminal there is no other reason for it. -/
def useColor (noColor : Bool) (environment : List String) : Bool :=
  !noColor && !environment.contains "NO_COLOR" && environment.contains "FORCE_COLOR"

/-- A symbol in bold colour. -/
def mark (color : Bool) (number text : String) : String :=
  paintIf color [⟨Sgr.sequence (number ++ ";1"), Sgr.sequence "0"⟩] text

/-- A line for something that went well. -/
def successLine (color : Bool) (message : String) : String :=
  mark color "32" "✓" ++ " " ++ message ++ "\n"

/-- A line for a notice. -/
def noticeLine (color : Bool) (message : String) : String :=
  mark color "34" "ℹ" ++ " " ++ message ++ "\n"

/-- A line for a warning. -/
def warningLine (color : Bool) (message : String) : String :=
  mark color "33" "⚠" ++ " " ++ paintIf color [.yellow] message ++ "\n"

/-- The banner as printed. -/
def banner (color : Bool) (compiler : Compiler) (project : Path) : String :=
  match headLines compiler project with
  | title :: notices =>
    paintIf color [.bold] title ++ "\n" ++ String.join (notices.map (noticeLine color))
  | [] => ""

end QuietEmit.Terminal
