/-
  QuietEmit.Proofs.Project.Loaded

  What holds of every project that was loaded, whatever its file says. Its paths are
  absolute and in normal form, its inputs come in order, each once, and it is at fault in
  one way, which is so exactly when it has no inputs (`Project.WellFormed.of_load`). The
  paths that its file names are among the inputs unless a pattern is faulty
  (`loaded_project_wellFormed`).
-/
import QuietEmit.Proofs.Project.Loading
import QuietEmit.Proofs.Project.Selection

namespace QuietEmit

open FileTree (Named pathOf)

variable {tree : FileTree} {config : Path} {project : Project}

/-! ## Paths in normal form -/

/-- A path from the root in normal form. -/
structure Path.Normal (p : Path) : Prop where
  absolute : p.isAbsolute = true
  clean : p.isClean = true

namespace Path

/-- Such paths are the paths of locations. -/
theorem normal_iff {p : Path} : p.Normal ↔ ∃ loc, Named loc ∧ p = pathOf loc := by
  constructor
  · rintro ⟨habsolute, hclean⟩
    obtain ⟨loc, hnamed, hloc⟩ := FileTree.exists_clean_eq_pathOf habsolute
    exact ⟨loc, hnamed, by rw [← hloc, eq_of_beq hclean]⟩
  · rintro ⟨loc, hnamed, rfl⟩
    refine ⟨FileTree.isAbsolute_pathOf loc, ?_⟩
    rw [isClean, FileTree.clean_pathOf hnamed]
    exact beq_self_eq_true _

theorem normal_pathOf {loc : Location} (h : Named loc) : (pathOf loc).Normal :=
  normal_iff.mpr ⟨loc, h, rfl⟩

/-- The normal form of an absolute path. -/
theorem normal_clean {p : Path} (h : p.isAbsolute = true) : p.clean.Normal :=
  normal_iff.mpr (FileTree.exists_clean_eq_pathOf h)

theorem Normal.clean_eq {p : Path} (h : p.Normal) : p.clean = p := eq_of_beq h.clean

end Path

/-- All paths of the options are in normal form. -/
structure CompilerOptions.Normal (o : CompilerOptions) : Prop where
  outDir : ∀ p ∈ o.outDir, p.Normal
  rootDir : ∀ p ∈ o.rootDir, p.Normal
  baseUrl : ∀ p ∈ o.baseUrl, p.Normal

/-- Options are so once they are taken from a directory. -/
theorem CompilerOptions.normal_rooted {root : Path} (h : root.isAbsolute = true)
    (o : CompilerOptions) : (o.rooted root).Normal := by
  have hgiven : ∀ given : Option Path, ∀ p ∈ given.map fun p => (root.join p).clean,
      p.Normal := by
    intro given p hp
    obtain ⟨q, -, rfl⟩ := Option.map_eq_some_iff.mp hp
    exact Path.normal_clean (Path.isAbsolute_join h q)
  exact ⟨hgiven o.outDir, hgiven o.rootDir, hgiven o.baseUrl⟩

theorem CompilerOptions.normal_empty : ({} : CompilerOptions).Normal :=
  ⟨fun _ hp => (nomatch hp), fun _ hp => (nomatch hp), fun _ hp => (nomatch hp)⟩

/-! ## Projects of a text -/

namespace Project

theorem root_ofText {root : Location} {name text : String} (h : Named (root ++ [name])) :
    (ofText tree (pathOf (root ++ [name])) text).root = pathOf root :=
  FileTree.parentOrEmpty_pathOf h

/-- A project is at fault in one way at most, and exactly when it has no inputs. -/
theorem errors_ofText (tree : FileTree) (config : Path) (text : String) :
    (ofText tree config text).errors.length ≤ 1 ∧
      ((ofText tree config text).errors ≠ [] ↔ (ofText tree config text).fileNames = []) := by
  rw [ofText]
  cases ProjectFile.ofText text with
  | error e => simp
  | ok file =>
      simp only
      cases file.inputs tree config.parentOrEmpty (file.options.rooted config.parentOrEmpty) with
      | error e => simp
      | ok files => cases files <;> simp

/-- Its inputs are paths of locations. -/
theorem exists_pathOf_of_mem_fileNames (wf : tree.WellFormed) {root : Location} {name text : String}
    (hroot : tree.at? root = some .dir) (hnamed : Named (root ++ [name])) {path : Path}
    (h : path ∈ (ofText tree (pathOf (root ++ [name])) text).fileNames) :
    ∃ source, Named source ∧ path = pathOf source := by
  obtain ⟨file, -, hinputs⟩ := exists_file_of_mem h
  rw [FileTree.parentOrEmpty_pathOf hnamed] at hinputs
  obtain hpath | ⟨found, hfound, hpath⟩ := ProjectFile.mem_of_mem_inputs hinputs h
  · exact exists_pathOf_of_named hpath
  · exact exists_pathOf_of_found wf hnamed.left hroot hfound hpath

/-! ## Loaded projects -/

/-- The paths that a loaded project has of its own. -/
theorem normal_of_load (h : load tree config = .ok project) :
    project.configPath.Normal ∧ project.root.Normal ∧ project.options.Normal := by
  obtain ⟨root, name, text, -, hnamed, -, -, -, rfl⟩ := exists_place_of_load h
  have hparent : (pathOf (root ++ [name])).parentOrEmpty = pathOf root :=
    FileTree.parentOrEmpty_pathOf hnamed
  refine ⟨Path.normal_pathOf hnamed, ?_, ?_⟩
  · rw [root_ofText hnamed]
    exact Path.normal_pathOf hnamed.left
  · -- a text that is no project file gives no paths
    cases hfile : ProjectFile.ofText text with
    | error e =>
        rw [options_ofText_of_error hfile]
        exact CompilerOptions.normal_empty
    | ok file =>
        rw [options_ofText hfile, hparent]
        exact CompilerOptions.normal_rooted (FileTree.isAbsolute_pathOf root) file.options

/-- The source root is one of them. -/
theorem normal_layoutRoot (h : load tree config = .ok project) : project.layoutRoot.Normal := by
  obtain ⟨-, hroot, hoptions⟩ := normal_of_load h
  rw [layoutRoot]
  cases hdir : project.options.rootDir with
  | none => exact hroot
  | some dir => exact hoptions.rootDir dir hdir

/-- What holds of a loaded project. -/
structure WellFormed (project : Project) : Prop where
  config : project.configPath.Normal
  root : project.root.Normal
  options : project.options.Normal
  /-- Inputs come strictly one after the other, so that none is there twice. -/
  sorted : project.fileNames.Pairwise fun p q => p.cmp q = .lt
  inputs : ∀ path ∈ project.fileNames, path.Normal
  oneError : project.errors.length ≤ 1
  errors_iff : project.errors ≠ [] ↔ project.fileNames = []

theorem WellFormed.of_load (wf : tree.WellFormed) (h : load tree config = .ok project) :
    project.WellFormed := by
  obtain ⟨hconfig, hroot, hoptions⟩ := normal_of_load h
  obtain ⟨root, name, text, -, hnamed, hdir, -, -, -, rfl⟩ := exists_of_load wf h
  obtain ⟨hone, herrors⟩ := errors_ofText tree (pathOf (root ++ [name])) text
  refine ⟨hconfig, hroot, hoptions, pairwise_lt_fileNames _ _ _, ?_, hone, herrors⟩
  intro path hpath
  exact Path.normal_iff.mpr (exists_pathOf_of_mem_fileNames wf hdir hnamed hpath)

end Project

/-- No pattern of a project file is faulty; without entries to take in, none is read. -/
def ProjectFile.PatternsValid (file : ProjectFile) (tree : FileTree) (root : Path)
    (outDir : Option Path) : Prop :=
  file.includes ≠ [] →
    (∀ entry ∈ file.includes, ∃ p, OverridePattern.read (includeLine tree root entry) = .ok p) ∧
    ∀ entry ∈ file.excludes root outDir, ∃ p, OverridePattern.read (excludeLine entry) = .ok p

/-- Where no pattern is faulty, the paths that a project file names are inputs. -/
theorem Project.mem_fileNames_of_named (wf : tree.WellFormed)
    (h : Project.load tree config = .ok project) {root : Location} {file : ProjectFile}
    (hfile : Project.ReadFrom tree project root file)
    (hvalid : file.PatternsValid tree project.root project.options.outDir) {path : Path}
    (hpath : path ∈ file.named project.root) : path ∈ project.fileNames := by
  rw [hfile.root_eq] at hvalid hpath
  obtain ⟨files, hinputs⟩ := ProjectFile.exists_inputs_iff.mpr hvalid
  have hfiles := congrArg Project.fileNames (hfile.eq_of_inputs wf h hinputs)
  rw [hfiles]
  exact (mem_inputs_iff wf hfile.named hfile.dir hinputs).mpr (.inl hpath)

/-- Every project that is loaded is well-formed. Where no pattern is faulty, it has each entry of the
`files` of its text as an input, taken from its directory and in normal form. -/
theorem loaded_project_wellFormed (wf : tree.WellFormed)
    (h : Project.load tree config = .ok project) :
    project.WellFormed ∧
    ∀ text file, tree.readText project.configPath = .ok text → ProjectFile.ofText text = .ok file →
      file.PatternsValid tree project.root project.options.outDir →
      ∀ f ∈ file.files.getD [], (project.root.join ⟨f⟩).clean ∈ project.fileNames := by
  refine ⟨.of_load wf h, ?_⟩
  intro text file hread hparsed hvalid f hf
  obtain ⟨root, text', hnamed, hdir, hroot, hread', hproject⟩ := Project.exists_text_of_load wf h
  obtain rfl : text = text' := Except.ok.inj (hread.symm.trans hread')
  have hparent : project.configPath.parentOrEmpty = pathOf root :=
    (congrArg Project.root hproject).symm.trans hroot
  have hfile : Project.ReadFrom tree project root file := by
    rw [hproject]
    exact .of_ofText hnamed hdir hparent hread hparsed
  exact Project.mem_fileNames_of_named wf h hfile hvalid (List.mem_map_of_mem hf)

/-- The text of a project file with paths in various spellings. -/
def spelledText : String :=
  "\x7b\"compilerOptions\": \x7b\"outDir\": \"./dist/\", \"baseUrl\": \"lib/..\"\x7d, " ++
    "\"files\": [\"./b.ts\", \"lib/../b.ts\", \"/q//c.ts\"], \"include\": [\"*.ts\"]\x7d"

/-- A tree with that project file and two sources. -/
def spelledTree : FileTree where
  entries := [(["p"], .dir), (["p", "tsconfig.json"], .file spelledText.toUTF8),
    (["p", "b.ts"], .file "".toUTF8), (["p", "a.ts"], .file "".toUTF8)]
  workingDir := ["p"]

/-- What that text says. -/
def spelledFile : ProjectFile where
  options := { outDir := some ⟨"./dist/"⟩, baseUrl := some ⟨"lib/.."⟩ }
  files := some ["./b.ts", "lib/../b.ts", "/q//c.ts"]
  «include» := some ["*.ts"]

/-- The project of that tree. -/
def spelledProject : Project where
  configPath := ⟨"/p/tsconfig.json"⟩
  root := ⟨"/p"⟩
  options := { outDir := some ⟨"/p/dist"⟩, baseUrl := some ⟨"/p"⟩ }
  fileNames := [⟨"/p/a.ts"⟩, ⟨"/p/b.ts"⟩, ⟨"/q/c.ts"⟩]
  errors := []

theorem readText_spelled : spelledTree.readText ⟨"/p/tsconfig.json"⟩ = .ok spelledText :=
  eq_ok_of_toOption (by decide +kernel)

theorem ofText_spelled : ProjectFile.ofText spelledText = .ok spelledFile :=
  eq_ok_of_toOption (by decide +kernel)

theorem inputs_spelled :
    spelledFile.inputs spelledTree ⟨"/p"⟩ spelledProject.options = .ok spelledProject.fileNames := by
  have hfound : spelledFile.found spelledTree ⟨"/p"⟩ spelledProject.options =
      .ok [⟨"/p/b.ts"⟩, ⟨"/p/a.ts"⟩] := eq_ok_of_toOption (by decide +kernel)
  exact ProjectFile.inputs_of_subset hfound (by decide +kernel) (by decide +kernel)
    (by decide +kernel)

theorem load_spelled : Project.load spelledTree ⟨"tsconfig.json"⟩ = .ok spelledProject := by
  have hoptions : spelledFile.options.rooted ⟨"/p"⟩ = spelledProject.options := by decide +kernel
  have hinputs := inputs_spelled
  rw [← hoptions] at hinputs
  have hload := load_inP_of_inputs rfl readText_spelled ofText_spelled hinputs
  rw [hoptions] at hload
  exact hload

/-- One source is named twice and found as well; one is not there. -/
theorem loaded_project_wellFormed_spelled :
    spelledProject.WellFormed ∧ ∀ f ∈ ["./b.ts", "lib/../b.ts", "/q//c.ts"],
      (spelledProject.root.join ⟨f⟩).clean ∈ spelledProject.fileNames := by
  have wf : spelledTree.WellFormed := by decide +kernel
  have hvalid : spelledFile.PatternsValid spelledTree ⟨"/p"⟩ spelledProject.options.outDir :=
    ProjectFile.exists_inputs_iff.mp ⟨_, inputs_spelled⟩
  obtain ⟨hwf, hlisted⟩ := loaded_project_wellFormed wf load_spelled
  exact ⟨hwf, hlisted spelledText spelledFile readText_spelled ofText_spelled hvalid⟩

end QuietEmit
