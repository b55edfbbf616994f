/-
  QuietEmit.Project.Options

  What a project file says: the compiler options that have a meaning here, and
  which files are its inputs. Unknown entries are passed over.
-/
import QuietEmit.Path
import QuietEmit.Json.Comments
import QuietEmit.Json.Reader

namespace QuietEmit

open Json (Reader)

/-- Options of a compilation. -/
structure CompilerOptions where
  outDir : Option Path := none
  rootDir : Option Path := none
  baseUrl : Option Path := none
  declaration : Bool := false
  noEmit : Bool := false
  noEmitOnError : Bool := false
  allowJs : Bool := false
deriving DecidableEq, Repr, Inhabited

namespace CompilerOptions

/-- The same options with paths taken from a directory and in normal form. -/
def rooted (o : CompilerOptions) (root : Path) : CompilerOptions :=
  let absolute (p : Path) : Path := (root.join p).clean
  { o with
    outDir := o.outDir.map absolute
    rootDir := o.rootDir.map absolute
    baseUrl := o.baseUrl.map absolute }

/-- A warning for options that can keep a run from writing anything. -/
def noOutputWarning? (o : CompilerOptions) : Option String :=
  if o.noEmitOnError then
    some ("No files will be emitted even if errors are suppressed when " ++
      "\"compilerOptions.noEmitOnError: true\"")
  else none

/-- The fields of the options. -/
def shape : Reader.Shape CompilerOptions where
  name := "struct CompilerOptions"
  closed := false
  fields :=
    let path : Reader (Option Path) := do
      return (← Reader.optional (Reader.text "path string")).map Path.mk
    [ ⟨"outDir", false, fun o => do return { o with outDir := ← path }⟩,
      ⟨"rootDir", false, fun o => do return { o with rootDir := ← path }⟩,
      ⟨"baseUrl", false, fun o => do return { o with baseUrl := ← path }⟩,
      ⟨"declaration", false, fun o => do return { o with declaration := ← Reader.flag }⟩,
      ⟨"noEmit", false, fun o => do return { o with noEmit := ← Reader.flag }⟩,
      ⟨"noEmitOnError", false, fun o => do return { o with noEmitOnError := ← Reader.flag }⟩,
      ⟨"allowJs", false, fun o => do return { o with allowJs := ← Reader.flag }⟩]

end CompilerOptions

/-- What a project file says. -/
structure ProjectFile where
  options : CompilerOptions := {}
  files : Option (List String) := none
  «include» : Option (List String) := none
  exclude : Option (List String) := none
deriving DecidableEq, Repr, Inhabited

namespace ProjectFile

/-- The fields of a project file. -/
def shape : Reader.Shape ProjectFile where
  name := "struct RawProject"
  closed := false
  fields :=
    let names : Reader (Option (List String)) :=
      Reader.optional (Reader.list (Reader.text "a string"))
    [ ⟨"compilerOptions", false, fun p => do
        return { p with options := ← CompilerOptions.shape.read {} }⟩,
      ⟨"files", false, fun p => do return { p with files := ← names }⟩,
      ⟨"include", false, fun p => do return { p with «include» := ← names }⟩,
      ⟨"exclude", false, fun p => do return { p with exclude := ← names }⟩]

/-- Read the text of a project file, which may hold comments and trailing commas. -/
def ofText (text : String) : Except Json.Error ProjectFile :=
  (shape.read {}).run (Json.withoutComments text.toList)

end ProjectFile

end QuietEmit
