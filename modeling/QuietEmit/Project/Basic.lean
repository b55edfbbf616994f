/-
  QuietEmit.Project.Basic

  A loaded project. What is wrong with its file becomes a diagnostic of the
  project; only a file that cannot be read is an error.
-/
import QuietEmit.Diagnostic.Basic
import QuietEmit.Project.Inputs
import QuietEmit.Specifier.Redirection

namespace QuietEmit

/-- A project. -/
structure Project where
  configPath : Path
  /-- The directory of the project file. -/
  root : Path
  options : CompilerOptions
  fileNames : List Path
  errors : List Diagnostic
deriving DecidableEq, Repr, Inhabited

namespace Project

/-- The directory that outputs are laid out from. -/
def layoutRoot (p : Project) : Path := p.options.rootDir.getD p.root

/-- The diagnostic for a text that is no project file. -/
def unreadableText (configPath : Path) (e : Json.Error) : Diagnostic :=
  ((Diagnostic.error Code.configuration
    ("Failed to parse project configuration: " ++ e.message)).inFile configPath).atPosition
      ⟨Position.clamp e.line, Position.clamp e.column⟩

/-- The diagnostic for a faulty pattern. -/
def faultyPattern (configPath : Path) (e : PatternFault) : Diagnostic :=
  (Diagnostic.error Code.configuration e.message).inFile configPath

/-- The diagnostic for a project without inputs. -/
def withoutInputs (configPath : Path) : Diagnostic :=
  (Diagnostic.error Code.withoutInputs
    ("No inputs were found in config file '" ++ configPath.text ++ "'")).inFile configPath

/-- Make a project of the text of its file. -/
def ofText (tree : FileTree) (configPath : Path) (text : String) : Project :=
  let root := configPath.parentOrEmpty
  let (options, fileNames, errors) : CompilerOptions × List Path × List Diagnostic :=
    match ProjectFile.ofText text with
    | .error e => ({}, [], [unreadableText configPath e])
    | .ok file =>
      let options := file.options.rooted root
      match file.inputs tree root options with
      | .ok files => (options, files, [])
      | .error e => (options, [], [faultyPattern configPath e])
  let errors := if fileNames.isEmpty && errors.isEmpty then [withoutInputs configPath] else errors
  ⟨configPath, root, options, fileNames, errors⟩

/-- Read a project from its file. -/
def load (tree : FileTree) (configPath : Path) : Except SetupError Project := do
  let full ← match tree.absolute configPath with
    | .ok p => pure p.clean
    | .error e => throw (.unreadable configPath e)
  match tree.readText full with
  | .ok text => return ofText tree full text
  | .error e => throw (.unreadable full e)

end Project

end QuietEmit
