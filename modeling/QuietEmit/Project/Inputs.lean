/-
  QuietEmit.Project.Inputs

  The input files of a project: those it names, and those that its patterns take
  in. A directory is entered unless a pattern leaves it out, or no pattern names
  it and it is hidden.
-/
import QuietEmit.FileTree
import QuietEmit.Project.Options
import QuietEmit.Project.Override

namespace QuietEmit

/-! ## Kinds of files -/

/-- Extensions of typed sources. -/
def typedExtensions : List String := ["ts", "tsx", "mts", "cts"]

/-- Extensions of plain sources. -/
def plainExtensions : List String := ["js", "jsx", "mjs", "cjs"]

/-- Whether a file is a source; plain ones count where they are allowed. -/
def isSource (path : Path) (allowJs : Bool) : Bool :=
  path.extension.any fun e =>
    typedExtensions.contains e || (allowJs && plainExtensions.contains e)

/-- Whether a file holds declarations only. -/
def isDeclarations (path : Path) : Bool :=
  path.fileName.any fun name =>
    [".d.ts", ".d.mts", ".d.cts"].any fun ending => ending.toList.reverse.isPrefixOf name.toList.reverse

/-! ## Patterns -/

/-- Directories that are left out unless the project says what to leave out. -/
def usualExcludes : List String := ["node_modules", "bower_components", "jspm_packages"]

/-- A pattern without leading `./` and without slashes at its end. -/
def trimPattern (pattern : List Char) : List Char :=
  let rec strip : List Char → List Char
    | '.' :: '/' :: rest => strip rest
    | cs => cs
  Text.dropRightWhile (· == '/') (strip pattern)

/-- The anchored pattern for an entry to take in; a directory stands for all below it. -/
def includeLine (tree : FileTree) (root : Path) (pattern : String) : List Char :=
  let trimmed := trimPattern pattern.toList
  if tree.isDir (root.join ⟨String.ofList trimmed⟩) then '/' :: trimmed ++ ['/', '*', '*']
  else '/' :: trimmed

/-- The anchored pattern for an entry to leave out. -/
def excludeLine (pattern : String) : List Char := '!' :: '/' :: trimPattern pattern.toList

/-- A pattern of a project is faulty. -/
inductive PatternFault where
  | inInclude (pattern : String) (cause : OverrideFault)
  | inExclude (pattern : String) (cause : OverrideFault)
deriving DecidableEq, Repr

/-- The text of the fault. -/
def PatternFault.message : PatternFault → String
  | .inInclude pattern cause => "Invalid include pattern '" ++ pattern ++ "': " ++ cause.message
  | .inExclude pattern cause => "Invalid exclude pattern '" ++ pattern ++ "': " ++ cause.message

namespace ProjectFile

/-- The entries to take in. -/
def includes (p : ProjectFile) : List String :=
  match p.include, p.files with
  | some patterns, _ => patterns
  | none, some _ => []
  | none, none => ["**/*"]

/-- The entries to leave out, the output directory below the root among them. -/
def excludes (p : ProjectFile) (root : Path) (outDir : Option Path) : List String :=
  p.exclude.getD usualExcludes ++ ((outDir.bind (·.below? root)).map Path.text).toList

/-- The patterns of a project in the order in which they are laid down. -/
def patterns (p : ProjectFile) (tree : FileTree) (root : Path) (outDir : Option Path) :
    Except PatternFault (List OverridePattern) := do
  let taken ← p.includes.mapM fun s =>
    (OverridePattern.read (includeLine tree root s)).mapError (.inInclude s)
  let left ← (p.excludes root outDir).mapM fun s =>
    (OverridePattern.read (excludeLine s)).mapError (.inExclude s)
  return taken ++ left

end ProjectFile

/-! ## Searching the tree -/

/-- Names that are hidden. -/
def isHiddenName (name : String) : Bool := name.toList.head? == some '.'

/-- The bytes of a location below the root, as patterns see them. -/
def relativeBytes (below : Location) : List UInt8 := ("/".intercalate below).toUTF8.toList

/-- Whether a directory below the root is entered. -/
def isEntered (patterns : List OverridePattern) (dir : Location) : Bool :=
  match wanted patterns (relativeBytes dir) true with
  | .yes => true
  | .no => false
  | .undecided => !(dir.getLast?.any isHiddenName)

/-- Whether a file below the root is taken in: the way to it is open and a pattern wants it. -/
def isTaken (patterns : List OverridePattern) (file : Location) : Bool :=
  ((List.range file.length).drop 1).all (fun n => isEntered patterns (file.take n)) &&
    wanted patterns (relativeBytes file) false == .yes

/-- Files below a directory, by their names from it on. -/
def FileTree.filesBelow (tree : FileTree) (dir : Location) : List Location :=
  tree.entries.filterMap fun (loc, entry) =>
    match entry with
    | .file _ => if dir.isPrefixOf loc && loc.length > dir.length then some (loc.drop dir.length) else none
    | .dir => none

/-- The source files that patterns take in. -/
def filesTaken (tree : FileTree) (root : Path) (patterns : List OverridePattern) (allowJs : Bool) :
    List Path :=
  match tree.locate root with
  | .error _ => []
  | .ok loc =>
    let taken := (tree.filesBelow loc).filter (isTaken patterns)
    (taken.map fun below => root.join ⟨"/".intercalate below⟩).filter (isSource · allowJs)

/-! ## Inputs -/

/-- Drop each path that names the same place as the one before it. -/
def dropRepeated : List Path → List Path
  | p :: q :: rest => if p.same q then dropRepeated (p :: rest) else p :: dropRepeated (q :: rest)
  | ps => ps
termination_by ps => ps.length

/-- The inputs of a project in path order, each once. -/
def ProjectFile.inputs (p : ProjectFile) (tree : FileTree) (root : Path) (options : CompilerOptions) :
    Except PatternFault (List Path) := do
  let named := (p.files.getD []).map fun f => (root.join ⟨f⟩).clean
  let found ←
    if p.includes.isEmpty then pure []
    else do
      let patterns ← p.patterns tree root options.outDir
      pure (filesTaken tree root patterns options.allowJs)
  return dropRepeated ((named ++ found).mergeSort Path.le)

end QuietEmit
