/-
  QuietEmit.Program.Emit

  Writing the outputs of a program, and one compilation from start to end. A module
  that fails is reported, and the others are written all the same. All diagnostics are
  printed and counted, and none of them is a failure.
-/
import QuietEmit.Diagnostic.Display
import QuietEmit.Program.Basic
import QuietEmit.Specifier.Revision

namespace QuietEmit

/-! ## Passes -/

/-- The diagnostic for a specifier that a pass rejects, at its place in the code. -/
def Rejection.diagnostic (e : Rejection) (code : String) : Diagnostic :=
  ((Diagnostic.error Code.redirection
    ("Cannot resolve path outside project root: " ++ e.cause.message)).inFile e.file).atOffset
      code.toList e.offset

/-- A pass over modules: what it makes of one, given by its path, its text and its tree. -/
structure Pass where
  revise : Path → String → Syntax.Tree → Except Rejection Revision

/-- Redirecting specifiers is a pass. -/
def RedirectingPass.toPass (pass : RedirectingPass) : Pass := ⟨revise pass.redirection⟩

instance : Coe RedirectingPass Pass := ⟨RedirectingPass.toPass⟩

/-- What a pass makes of a module given by its text. -/
def Pass.reviseText (pass : Pass) (path : Path) (text : String) : Except Rejection Revision :=
  pass.revise path text (Syntax.Source.read (.ofPath path) text).tree

/-- One pass over the code of a module; a pass that fails leaves the code as it is. -/
def Pass.run (pass : Pass) (path : Path) (code : String) : String × List Diagnostic :=
  match pass.reviseText path code with
  | .ok t => (t.change?.getD code, [])
  | .error e => (code, [e.diagnostic code])

/-- All passes one after the other. -/
def Pass.runAll (passes : List Pass) (path : Path) (code : String) : String × List Diagnostic :=
  passes.foldl (fun (code, diagnostics) pass =>
    let (next, found) := pass.run path code
    (next, diagnostics ++ found)) (code, [])

/-! ## Output paths -/

/-- The extensions of the code and the declarations of an input. -/
def emittedExtensions (source : Path) : String × String :=
  match source.extension with
  | some "mts" => ("mjs", "d.mts")
  | some "cts" => ("cjs", "d.cts")
  | _ => ("js", "d.ts")

/-- Where an output goes: beside its input, or at the same place below the output directory. -/
def Project.destination (p : Project) (source : Path) (extension : String) : Path :=
  let target := match p.options.outDir with
    | some outDir =>
      let relative := ((source.below? p.layoutRoot).orElse fun _ =>
        source.fileName.map Path.mk).getD source
      outDir.join relative
    | none => source
  target.withExtension extension

/-! ## Writing -/

/-- What writing has done so far. -/
structure Emission (σ : Type) where
  store : σ
  diagnostics : List Diagnostic := []
  /-- The files written, in order. -/
  files : List Path := []

namespace Emission

variable {σ : Type}

/-- Note diagnostics. -/
def noting (e : Emission σ) (diagnostics : List Diagnostic) : Emission σ :=
  { e with diagnostics := e.diagnostics ++ diagnostics }

/-- The diagnostic for an output that cannot be written. -/
def unwritable (path : Path) (e : IoError) : Diagnostic :=
  (Diagnostic.error Code.output
    ("Could not write file '" ++ path.text ++ "': " ++ e.text)).inFile path

/-- Write one file; a failure is noted. -/
def write [FileStore σ] (e : Emission σ) (path : Path) (text : String) : Emission σ :=
  match FileStore.writeText e.store path text with
  | (.ok (), store) => { e with store := store, files := e.files ++ [path] }
  | (.error cause, store) => { e with store := store }.noting [unwritable path cause]

/-- The diagnostic for an output that would replace its input. -/
def overwriting (path source : Path) : Diagnostic :=
  (Diagnostic.error Code.output
    ("Cannot write file '" ++ path.text ++ "' because it would overwrite input file")).inFile source

/-- Write the outputs of one module. -/
def module [FileStore σ] (project : Project) (passes : List Pass) (e : Emission σ)
    (m : InputModule) : Emission σ :=
  if isDeclarations m.path then e
  else
    let (code, found) := Pass.runAll passes m.path m.text
    let output := EmittedModule.ofText m.path code project.options.declaration
    let e := e.noting (found ++ output.diagnostics)
    let (codeExtension, declarationExtension) := emittedExtensions m.path
    let target := project.destination m.path codeExtension
    if target.same m.path then e.noting [overwriting target m.path]
    else
      let e := e.write target output.code
      match output.declaration with
      | some text => e.write (project.destination m.path declarationExtension) text
      | none => e

end Emission

/-- What emitting a program did. -/
inductive EmissionResult (σ : Type) where
  /-- The options say that nothing is written. -/
  | skipped
  | done (emission : Emission σ)

namespace EmissionResult

variable {σ : Type}

/-- Whether nothing was written. -/
def isSkipped : EmissionResult σ → Bool
  | .skipped => true
  | .done _ => false

/-- The diagnostics of writing. -/
def diagnostics : EmissionResult σ → List Diagnostic
  | .skipped => []
  | .done e => e.diagnostics

/-- The files written. -/
def files : EmissionResult σ → List Path
  | .skipped => []
  | .done e => e.files

/-- The files after writing, given those before. -/
def tree (before : σ) : EmissionResult σ → σ
  | .skipped => before
  | .done e => e.store

end EmissionResult

/-- Whether the options keep a program from writing anything. -/
def Program.isBlocked (p : Program) : Bool :=
  p.project.options.noEmit || (p.project.options.noEmitOnError && p.hasErrors)

/-- Write the outputs of a program. -/
def Program.writeOutputs {σ : Type} [FileStore σ] (p : Program) (store : σ)
    (passes : List Pass) : EmissionResult σ :=
  if p.isBlocked then .skipped
  else .done (p.modules.foldl (Emission.module p.project passes) { store })

/-! ## One compilation -/

/-- What a compilation did. -/
structure Compilation where
  /-- How many diagnostics were printed. -/
  suppressed : Nat
  isSkipped : Bool
  files : List Path
deriving DecidableEq, Repr

/-- The diagnostics of a compilation: those of writing count only if something was to be
written. -/
def Program.allDiagnostics {σ : Type} (p : Program) (result : EmissionResult σ) :
    List Diagnostic :=
  p.diagnostics ++ result.diagnostics

/-- Compile a project and report. -/
def Project.compile (project : Project) (tree : FileTree) (passes : List Pass)
    (display : Display) : Compilation × FileTree × Display :=
  let program := Program.ofProject tree project
  let result := program.writeOutputs tree passes
  let (suppressed, display) := display.printAll (program.allDiagnostics result)
  (⟨suppressed, result.isSkipped, result.files⟩, result.tree tree,
    display.conclude suppressed)

end QuietEmit
