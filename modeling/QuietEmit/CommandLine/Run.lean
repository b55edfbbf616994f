/-
  QuietEmit.CommandLine.Run

  A run of the program from its arguments to its exit code. What stops a run is
  reported and leaves all files as they were; diagnostics never stop one.

    * `Invocation.prepare` reads the arguments and the settings and loads the project.
    * `Invocation.runOnce` compiles once.
-/
import QuietEmit.CommandLine.Reading
import QuietEmit.Program.Emit
import QuietEmit.Settings.Redirection
import QuietEmit.Settings.Sources
import QuietEmit.Terminal.Report
import QuietEmit.Terminal.Status

namespace QuietEmit

open CommandLine (Arguments Refusal)

/-- What a run starts from. -/
structure Invocation where
  tree : FileTree
  /-- Environment variables. -/
  environment : List (String × String)
  arguments : List String

/-- What a run leaves. -/
structure Finished where
  code : Nat
  stdout : String
  stderr : String
  tree : FileTree

/-- A run that is about to compile. -/
structure Prepared where
  settings : Settings
  project : Project
  pass : RedirectingPass
  color : Bool
  /-- What the error stream has shown so far. -/
  notices : String
  tree : FileTree

/-! ## Preparation -/

/-- The hint for a project file that cannot be read. -/
def projectHint : String := "Pass the project file with --project <path>"

/-- Load the project file of the settings. -/
def Settings.loadProject (s : Settings) (tree : FileTree) : Except RunError Project :=
  ((Project.load tree s.project).mapError RunError.setup).mapError
    fun e => (e.addPath s.project).addHint projectHint

/-- A warning, where there is one. -/
def warningText (color : Bool) : Option String → String
  | some text => Terminal.warningLine color text
  | none => ""

/-- The end of a run that asked for help, or whose arguments cannot be read. -/
def Finished.ofRefusal (tree : FileTree) (r : Refusal) : Finished :=
  if r.isAnswer then ⟨0, r.message, "", tree⟩ else ⟨2, "", r.message, tree⟩

namespace Invocation

/-- Whether status lines and diagnostics are coloured. -/
def color (i : Invocation) (a : Arguments) : Bool :=
  Terminal.useColor a.noColor (i.environment.map (·.1))

/-- The end of a run that an error stops. -/
def stopped (i : Invocation) (notices : String) (e : RunError) : Finished :=
  ⟨1, "", notices ++ e.report.render (Report.forcesColor i.environment), i.tree⟩

/-- Prepare a run with settings that were loaded. -/
def prepareWith (i : Invocation) (color : Bool) (notices : String) (s : Settings) :
    Except Finished Prepared :=
  match Compiler.find s.compiler with
  | .error e => .error (i.stopped notices e)
  | .ok compiler =>
    let notices := notices ++ Terminal.banner color compiler s.project
    match s.loadProject i.tree with
    | .error e => .error (i.stopped notices e)
    | .ok project =>
      match s.redirection.pass project with
      | .error e => .error (i.stopped notices e)
      | .ok pass =>
        .ok { settings := s, project, pass, color, tree := i.tree
              notices := notices ++ warningText color project.options.noOutputWarning? }

/-- Prepare a run. -/
def prepare (i : Invocation) : Except Finished Prepared :=
  match Arguments.read i.arguments with
  | .error r => .error (.ofRefusal i.tree r)
  | .ok a =>
    let color := i.color a
    let notices := warningText color a.strayWarning?
    match Settings.load i.tree i.tree.workingPath i.environment a with
    | .error e => .error (i.stopped notices e)
    | .ok s => i.prepareWith color notices s

end Invocation

/-! ## One compilation -/

namespace Prepared

/-- Where diagnostics are printed. -/
def display (p : Prepared) : Display := .ofStyle ⟨p.color, some p.tree.workingPath⟩

/-- Compile once. -/
def runOnce (p : Prepared) : Finished :=
  let (_, tree, a) := p.project.compile p.tree [p.pass] p.display
  ⟨0, a.output, p.notices, tree⟩

end Prepared

/-- A run that compiles once. -/
def Invocation.runOnce (i : Invocation) : Finished :=
  match i.prepare with
  | .error f => f
  | .ok p => p.runOnce

end QuietEmit
