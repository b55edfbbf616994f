/-
  QuietEmit.Program.Basic

  A program: the inputs of a project that could be read, with all that is wrong
  with them before anything is written.
-/
import QuietEmit.Program.Output
import QuietEmit.Project.Basic

namespace QuietEmit

/-- An input that was read. -/
structure InputModule where
  path : Path
  text : String
deriving Repr, Inhabited

/-- A project with its inputs. -/
structure Program where
  project : Project
  modules : List InputModule
  /-- Diagnostics of the project and of its inputs, in input order. -/
  diagnostics : List Diagnostic
deriving Repr, Inhabited

namespace Program

/-- The diagnostic for an input that cannot be read. -/
def unreadable (path : Path) (e : IoError) : Diagnostic :=
  (Diagnostic.error Code.missingFile
    ("File '" ++ path.text ++ "' could not be read: " ++ e.text)).inFile path

variable {σ : Type} [FileStore σ]

/-- One input: the module, if it could be read, and its diagnostics. -/
def readInput (store : σ) (path : Path) : Option InputModule × List Diagnostic :=
  match FileStore.readText store path with
  | .ok text => (some ⟨path, text⟩, EmittedModule.check path text)
  | .error e => (none, [unreadable path e])

/-- Read and check the inputs of a project. -/
def ofProject (store : σ) (project : Project) : Program :=
  let inputs := project.fileNames.map (readInput store)
  ⟨project, inputs.filterMap Prod.fst, project.errors ++ inputs.flatMap Prod.snd⟩

/-- Whether one of the diagnostics is an error. -/
def hasErrors (p : Program) : Bool := p.diagnostics.any Diagnostic.isError

end Program

end QuietEmit
