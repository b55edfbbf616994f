/-
  QuietEmit.Program.Cycle

  One cycle of a watch: the project is read again, compiled, and reported between
  a starting and a closing status, to a session or to any other reporter.
-/
import QuietEmit.Program.Emit
import QuietEmit.Watch.Session

namespace QuietEmit.Watch

/-- Why a cycle runs. -/
inductive Trigger where
  | initial
  | filesChanged (paths : List OsPath)
deriving DecidableEq, Repr

/-- The status that opens a cycle. -/
def Trigger.status (codes : StatusCodes) : Trigger → Diagnostic
  | .initial => .status codes.starting "Starting compilation in watch mode..."
  | .filesChanged _ =>
    .status codes.changed "File change detected. Starting incremental compilation..."

/-- The text of the status that closes a cycle. -/
def closingText (count : Nat) : String :=
  if count = 1 then "Found 1 error. Watching for file changes."
  else "Found " ++ toString count ++ " errors. Watching for file changes."

/-- A watched project: its file, the codes of its statuses, and its passes. -/
structure Watched where
  configPath : Path
  codes : StatusCodes
  passes : List Pass

namespace Watched

variable {ρ : Type} [Reporter ρ]

/-- The diagnostic for a project that cannot be read. -/
def unloadable (w : Watched) (e : SetupError) : Diagnostic :=
  (Diagnostic.error Code.configuration e.message).inFile w.configPath

/-- Report a diagnostic, and count it if it is an error. -/
def report (tally : Nat × ρ) (d : Diagnostic) : Nat × ρ :=
  (tally.1 + (if d.isError then 1 else 0), Reporter.diagnostic tally.2 d)

/-- Compile a project and report: the number of errors, the files after it, and the reporter. -/
def compile (w : Watched) (project : Project) (tree : FileTree) (r : ρ) : Nat × FileTree × ρ :=
  let program := Program.ofProject tree project
  let (errors, r) := program.diagnostics.foldl report (0, r)
  match program.writeOutputs tree w.passes with
  | .skipped => (errors, tree, r)
  | .done emission =>
    let (errors, r) := emission.diagnostics.foldl report (errors, r)
    (errors, emission.store, r)

/-- Run one cycle; the number of errors is answered. A project that cannot be read is one. -/
def cycle (w : Watched) (trigger : Trigger) (tree : FileTree) (r : ρ) : Nat × FileTree × ρ :=
  let r := Reporter.status r (trigger.status w.codes)
  let (errors, tree, r) := match Project.load tree w.configPath with
    | .ok project => w.compile project tree r
    | .error e => (1, tree, Reporter.diagnostic r (w.unloadable e))
  (errors, tree, Reporter.status r (.status w.codes.done (closingText errors)))

end Watched

end QuietEmit.Watch
