/-
  QuietEmit.Terminal.Report

  The report that is shown when a run stops: a code, the message with a bar in
  front of its lines, and what may help.
-/
import QuietEmit.Settings.Error
import QuietEmit.Diagnostic.Line
import QuietEmit.Text.Wrapping

namespace QuietEmit

namespace Report

/-- Columns of a report, one that never goes to a terminal. -/
def columns : Nat := 78

/-- The style of codes, of the cross and of the bars. -/
def faultStyle : Sgr := ⟨Sgr.sequence "31", Sgr.sequence "0"⟩

/-- The style of the word before what may help. -/
def helpStyle : Sgr := ⟨Sgr.sequence "36", Sgr.sequence "0"⟩

/-- Whether a value of the environment asks for colour. -/
def forcesColor (environment : List (String × String)) : Bool :=
  match environment.lookup "FORCE_COLOR" with
  | some "false" => false
  | some text =>
    let cs := match text.toList with
      | '+' :: cs => cs
      | cs => cs
    cs.isEmpty || !(cs.all (· == '0'))
  | none => match environment.lookup "CLICOLOR_FORCE" with
    | some text => text != "0"
    | none => false

/-- The whole report. -/
def render (color : Bool) (r : Report) : String :=
  let fault := paintIf color [faultStyle]
  let message := Text.wrapIndented (columns - 4) ("  " ++ fault "×" ++ " ") ("  " ++ fault "│" ++ " ")
    r.message
  let help := r.help.map fun text =>
    Text.wrapIndented (columns - 8) (paintIf color [helpStyle] "  help: ") "        " text
  "Error: " ++ ((r.code.map fun c => fault c ++ "\n\n").getD "") ++ message ++ "\n" ++
    ((help.map (· ++ "\n")).getD "") ++ "\n"

end Report

end QuietEmit
