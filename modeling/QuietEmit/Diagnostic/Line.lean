/-
  QuietEmit.Diagnostic.Line

  One line per diagnostic: where, how grave, the code, the message. Colour adds
  escape sequences around the parts and nothing else.
-/
import QuietEmit.Diagnostic.Basic

namespace QuietEmit

/-! ## Terminal styles -/

/-- Switching a text style on and off on a terminal. -/
structure Sgr where
  on : String
  off : String
deriving DecidableEq, Repr

namespace Sgr

/-- The escape sequence with the given parameters. -/
def sequence (parameters : String) : String := "\x1b[" ++ parameters ++ "m"

/-- A colour by its number. -/
def foreground (number : String) : Sgr := ⟨sequence number, sequence "39"⟩

/-- A style that ends with all styles. -/
def style (number : String) : Sgr := ⟨sequence number, sequence "0"⟩

/-- Red text. -/
def red : Sgr := foreground "31"
/-- Yellow text. -/
def yellow : Sgr := foreground "33"
/-- Blue text. -/
def blue : Sgr := foreground "34"
/-- Cyan text. -/
def cyan : Sgr := foreground "36"
/-- Bold text. -/
def bold : Sgr := style "1"
/-- Faint text. -/
def dimmed : Sgr := style "2"

/-- Put the text between the two sequences. -/
def paint (s : Sgr) (text : String) : String := s.on ++ text ++ s.off

end Sgr

/-- Paint only when colour is wanted. -/
def paintIf (color : Bool) (styles : List Sgr) (text : String) : String :=
  if color then styles.foldl (fun t s => s.paint t) text else text

/-! ## Lines -/

/-- How diagnostics are shown. -/
structure Style where
  color : Bool
  /-- File names are shown relative to this directory when they lie below it. -/
  workingDir : Option Path
deriving DecidableEq, Repr

namespace Style

/-- The name a file is shown under. -/
def shownPath (s : Style) (file : Path) : Path :=
  (s.workingDir.bind (file.below? ·)).getD file

end Style

/-- The place of a diagnostic, without styles. -/
def Diagnostic.location (d : Diagnostic) (s : Style) : Option String :=
  d.file.map fun file =>
    let path := (s.shownPath file).text
    match d.position with
    | some p => path ++ ":" ++ toString p.line ++ ":" ++ toString p.column
    | none => path

/-- The colour of a category. -/
def Category.colour : Category → Sgr
  | .error => .red
  | .warning => .yellow
  | .suggestion | .message => .blue

/-- The line for a diagnostic, without the newline. -/
def Diagnostic.line (d : Diagnostic) (s : Style) : String :=
  let place := match d.location s with
    | some location => paintIf s.color [.cyan] location ++ " - "
    | none => ""
  place ++ paintIf s.color [d.category.colour, .bold] d.category.text ++ " " ++
    paintIf s.color [.dimmed] ("H" ++ toString d.code) ++ ": " ++ d.message

end QuietEmit
