/-
  QuietEmit.Watch.Session

  The watch session: it buffers diagnostics, follows status diagnostics by their
  codes, and prints the buffer when a cycle ends.

      idle --start--> compiling --done--> done --start--> compiling ...

  A start empties the buffer; a done status joins the buffer, which is then
  printed with the number of diagnostics in it.
-/
import QuietEmit.Diagnostic.Display

namespace QuietEmit.Watch

/-! ## Status codes -/

/-- The codes that move a session. -/
structure StatusCodes where
  starting : UInt32
  changed : UInt32
  done : UInt32
deriving DecidableEq, Repr

/-- The codes of the compiler itself. -/
def StatusCodes.standard : StatusCodes :=
  ⟨Code.cycleStart, Code.changeStart, Code.cycleEnd⟩

/-- What a status code means to a session. -/
inductive Signal where
  | cycleStart
  | cycleDone
  | other
deriving DecidableEq, Repr

/-- The meaning of a code; a start takes precedence over a done. -/
def StatusCodes.classify (codes : StatusCodes) (code : UInt32) : Signal :=
  if code = codes.starting ∨ code = codes.changed then .cycleStart
  else if code = codes.done then .cycleDone
  else .other

/-! ## Sessions -/

/-- Where a session stands. -/
inductive Phase where
  | idle
  | compiling
  | done
deriving DecidableEq, Repr

/-- What a finished cycle printed. -/
structure CycleReport where
  /-- The buffered diagnostics in order of arrival, the done status last. -/
  diagnostics : List Diagnostic
  suppressed : Nat
deriving DecidableEq, Repr

/-- How many of the diagnostics are errors. -/
def CycleReport.errors (s : CycleReport) : Nat := s.diagnostics.countP (·.isError)

/-- A call of one of the hooks of a session. -/
inductive HookCall where
  | start
  | done (summary : CycleReport)
deriving DecidableEq, Repr

/-- A watch session with the hook calls it has made, in order. -/
structure Session where
  phase : Phase
  buffer : List Diagnostic
  codes : StatusCodes
  display : Display
  calls : List HookCall

namespace Session

/-- A session that has seen nothing. -/
def fresh (codes : StatusCodes) (display : Display) : Session :=
  ⟨.idle, [], codes, display, []⟩

/-- Buffer a diagnostic, whatever its code. -/
def receive (s : Session) (d : Diagnostic) : Session := { s with buffer := s.buffer ++ [d] }

/-- Take a status diagnostic; a finished cycle is answered. -/
def receiveStatus (s : Session) (status : Diagnostic) : Option CycleReport × Session :=
  match s.codes.classify status.code with
  | .cycleStart =>
    (none, { s with
      phase := .compiling
      buffer := []
      display := (s.display.printAll [status]).2
      calls := s.calls ++ [.start] })
  | .cycleDone =>
    let buffer := s.buffer ++ [status]
    let summary : CycleReport := ⟨buffer, buffer.length⟩
    let printed := (s.display.printAll buffer).2.conclude buffer.length
    (some summary, { s with
      phase := .done
      buffer := buffer
      display := printed.inform "Watching for file changes..."
      calls := s.calls ++ [.done summary] })
  | .other => (none, s)

end Session

/-! ## Reporters -/

/-- What a watched compilation reports to. -/
class Reporter (ρ : Type) where
  /-- Take a diagnostic. -/
  diagnostic : ρ → Diagnostic → ρ
  /-- Take a status. -/
  status : ρ → Diagnostic → ρ

/-- A session is reported to by its own steps. What it answers is not asked for. -/
instance : Reporter Session where
  diagnostic := Session.receive
  status s d := (s.receiveStatus d).2

end QuietEmit.Watch
