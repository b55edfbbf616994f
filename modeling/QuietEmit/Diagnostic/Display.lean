/-
  QuietEmit.Diagnostic.Display

  Printing diagnostics without ever failing. The sink may lose lines; what the
  operations answer does not depend on it.
-/
import QuietEmit.Diagnostic.Line

namespace QuietEmit

/-! ## Sinks -/

/-- What becomes of a line handed to a sink. -/
inductive Delivery where
  /-- The whole line arrives. -/
  | whole
  /-- Writing fails after this many characters. -/
  | cut (kept : Nat)
deriving DecidableEq, Repr

/-- Where lines go: what has arrived, and what will become of each line to come,
by its number. -/
structure Sink where
  text : String
  offered : Nat
  delivery : Nat → Delivery

namespace Sink

/-- A sink that takes everything. -/
def working : Sink := ⟨"", 0, fun _ => .whole⟩

/-- A sink that takes nothing. -/
def broken : Sink := ⟨"", 0, fun _ => .cut 0⟩

/-- Offer one line, to which a newline is added. -/
def offer (s : Sink) (line : String) : Sink :=
  let full := line ++ "\n"
  let arrived := match s.delivery s.offered with
    | .whole => full
    | .cut kept => String.ofList (full.toList.take kept)
  { s with text := s.text ++ arrived, offered := s.offered + 1 }

/-- Offer lines in order. -/
def offerAll (s : Sink) (lines : List String) : Sink := lines.foldl offer s

end Sink

/-! ## Operations -/

/-- A sink with the way diagnostics are shown on it. -/
structure Display where
  sink : Sink
  style : Style

namespace Display

/-- A working sink with that style. -/
def ofStyle (style : Style) : Display := ⟨.working, style⟩

/-- What has been printed. -/
def output (d : Display) : String := d.sink.text

/-- Print one line. -/
def print (d : Display) (line : String) : Display :=
  { d with sink := d.sink.offer line }

/-- Print each diagnostic and answer how many there were. -/
def printAll (d : Display) (diagnostics : List Diagnostic) : Nat × Display :=
  (diagnostics.length, { d with sink := d.sink.offerAll (diagnostics.map (·.line d.style)) })

/-- The line for a piece of information. -/
def infoLine (color : Bool) (message : String) : String :=
  paintIf color [.blue, .bold] "info" ++ " " ++ message

/-- The line for a warning. -/
def warningLine (color : Bool) (message : String) : String :=
  paintIf color [.yellow, .bold] "warning" ++ " " ++ message

/-- Print a piece of information. -/
def inform (d : Display) (message : String) : Display :=
  d.print (infoLine d.style.color message)

/-- Print a warning. -/
def warn (d : Display) (message : String) : Display :=
  d.print (warningLine d.style.color message)

/-- Say how many diagnostics were suppressed, then that the compilation succeeded. -/
def conclude (d : Display) (count : Nat) : Display :=
  let d := if count > 0 then d.warn ("Suppressed errors: " ++ toString count)
    else d.inform "No errors found."
  d.inform "Compilation completed successfully."

end Display

end QuietEmit
