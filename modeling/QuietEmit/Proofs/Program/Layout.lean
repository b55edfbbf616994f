/-
  QuietEmit.Proofs.Program.Layout

  Outputs are laid out as their sources are. Below an output directory an input keeps the
  directories that it has below the source root, and an input from elsewhere loses its own
  (`Project.exists_below_destination`); without an output directory the outputs stay
  beside it. Either way the file stem is kept and the extension is a new one
  (`outputs_mirror_sources`).
-/
import QuietEmit.Proofs.Program.Destinations
import QuietEmit.Proofs.Project.Loaded

namespace QuietEmit

/-! ## New extensions -/

namespace Path

/-- A path has the directories and the file stem of another one, and an extension of its own. -/
def Mirrors (p source : Path) (ext : String) : Prop :=
  ∃ stem, source.fileStem = some stem ∧
    p.components = source.components.dropLast ++ [.name (stem ++ "." ++ ext)]

theorem Mirrors.components_ne_nil {p source : Path} {ext : String} (h : p.Mirrors source ext) :
    p.components ≠ [] := by
  obtain ⟨stem, -, hcomponents⟩ := h
  simp [hcomponents]

/-- Such a path goes up only where the other one does. -/
theorem Mirrors.up_mem {p source : Path} {ext : String} (h : p.Mirrors source ext)
    (hup : .up ∈ p.components) : .up ∈ source.components := by
  obtain ⟨stem, -, hcomponents⟩ := h
  rw [hcomponents, List.mem_append] at hup
  obtain hup | hname := hup
  · exact (List.dropLast_sublist _).subset hup
  · simp at hname

theorem mirrors_withExtension {source : Path} {name ext : String}
    (hname : source.fileName = some name) (hext : ext ≠ "") (hslash : '/' ∉ ext.toList) :
    (source.withExtension ext).Mirrors source ext := by
  have hstem : source.fileStem = some (stemOf name) := by
    rw [fileStem_eq, hname]
    rfl
  exact ⟨stemOf name, hstem, components_withExtension hstem hext hslash⟩

/-- A relative path with a new extension is what is below a directory that it was joined to. -/
theorem exists_below_join (dir : Path) {relative : Path} {name ext : String}
    (hrel : relative.isAbsolute = false) (hhere : .here ∉ relative.components)
    (hname : relative.fileName = some name) (hext : ext ≠ "") (hslash : '/' ∉ ext.toList) :
    ∃ below, ((dir.join relative).withExtension ext).below? dir = some below ∧
      below.Mirrors relative ext := by
  have hjoin := components_join dir hrel hhere
  obtain ⟨above, habove⟩ := fileName_eq_some_iff.mp hname
  have hjoinName : (dir.join relative).fileName = some name :=
    fileName_eq_some_iff.mpr ⟨dir.components ++ above, by rw [hjoin, habove, List.append_assoc]⟩
  obtain ⟨stem, hstem, hcomponents⟩ := mirrors_withExtension hjoinName hext hslash
  have hrelStem : relative.fileStem = some stem := by
    rw [← hstem, fileStem_eq, fileStem_eq, hname, hjoinName]
  -- what stands last belongs to the relative path, not to the directory
  rw [hjoin, habove, ← List.append_assoc, List.dropLast_concat, List.append_assoc] at hcomponents
  obtain ⟨below, hbelow, hrest⟩ := exists_below? hcomponents
  refine ⟨below, hbelow, stem, hrelStem, ?_⟩
  rw [hrest, habove, List.dropLast_concat]

end Path

/-! ## Places of outputs -/

namespace Project

variable {project : Project} {source outDir : Path} {name ext : String}

/-- The source root of a loaded project is not the empty path. -/
theorem layoutRoot_ne_empty {tree : FileTree} {config : Path}
    (h : load tree config = .ok project) : project.layoutRoot ≠ ⟨""⟩ := by
  intro hempty
  have habsolute := (normal_layoutRoot h).absolute
  rw [hempty] at habsolute
  exact absurd habsolute (by decide)

/-- With an output directory, the outputs of an input below the source root go to its place there. -/
theorem exists_below_destination (hroot : project.layoutRoot ≠ ⟨""⟩)
    (hdir : project.options.outDir = some outDir) (hname : source.fileName = some name)
    (hother : source.same project.layoutRoot = false) {relative : Path}
    (hbelow : source.below? project.layoutRoot = some relative) (hext : ext ∈ outputExtensions) :
    ∃ below, (project.destination source ext).below? outDir = some below ∧
      below.Mirrors relative ext := by
  obtain ⟨hne, hslash⟩ := outputExtensions_wellFormed ext hext
  have hlayout : project.layout source = outDir.join relative := by
    simp [layout, hdir, hbelow]
  have hbase : project.layoutRoot.components ≠ [] := by
    rw [ne_eq, Path.components_eq_nil_iff]
    exact hroot
  obtain ⟨hrel, hhere, hcomponents⟩ := Path.components_of_below? hbelow hbase
  -- the input is not the source root, so the file name is left of it
  have hleft : relative.components ≠ [] := by
    intro hnil
    rw [hnil, List.append_nil] at hcomponents
    rw [Path.same_iff.mpr hcomponents] at hother
    exact Bool.false_ne_true hother.symm
  have hrelName : relative.fileName = some name := by
    rw [Path.fileName, hcomponents, List.getLast?_append_of_ne_nil _ hleft] at hname
    exact hname
  rw [destination_eq, hlayout]
  exact Path.exists_below_join outDir hrel hhere hrelName hne hslash

/-- An absolute input is below the empty path with all of its names, and stays where it is. -/
example :
    let project : Project := ⟨⟨"tsconfig.json"⟩, ⟨""⟩, { outDir := some ⟨"dist"⟩ }, [⟨"/q/a.ts"⟩], []⟩
    project.codePath ⟨"/q/a.ts"⟩ = ⟨"/q/a.js"⟩ := by
  decide +kernel

/-- Those of an input from elsewhere go right into the directory. -/
theorem exists_destination_inside (hdir : project.options.outDir = some outDir)
    (hname : source.fileName = some name) (hbelow : source.below? project.layoutRoot = none)
    (hext : ext ∈ outputExtensions) :
    ∃ below stem, (project.destination source ext).below? outDir = some below ∧
      source.fileStem = some stem ∧ below.components = [.name (stem ++ "." ++ ext)] := by
  obtain ⟨hne, hslash⟩ := outputExtensions_wellFormed ext hext
  have hlayout : project.layout source = outDir.join ⟨name⟩ := by
    simp [layout, hdir, hbelow, hname]
  -- a file name is a path of one component
  have hnamed : FileTree.Named [name] := by
    obtain ⟨above, habove⟩ := Path.fileName_eq_some_iff.mp hname
    intro s hs
    obtain rfl := List.mem_singleton.mp hs
    exact FileTree.isName_of_mem_components (p := source) (by simp [habove])
  have hrel := FileTree.isAbsolute_intercalate hnamed
  have hcomponents := FileTree.components_intercalate hnamed
  rw [String.intercalate_singleton] at hrel hcomponents
  have hrelName : (Path.mk name).fileName = some name :=
    Path.fileName_eq_some_iff.mpr ⟨[], hcomponents⟩
  obtain ⟨below, hbelowDir, stem, hstem, hnew⟩ :=
    Path.exists_below_join outDir hrel (by simp [hcomponents]) hrelName hne hslash
  refine ⟨below, stem, by rw [destination_eq, hlayout, hbelowDir], ?_, ?_⟩
  · rw [← hstem, Path.fileStem_eq, Path.fileStem_eq, hname, hrelName]
  · rw [hnew, hcomponents]
    rfl

/-- Without an output directory, the outputs of an input stay beside it. -/
theorem destination_beside (hdir : project.options.outDir = none)
    (hname : source.fileName = some name) (hext : ext ∈ outputExtensions) :
    (project.destination source ext).Mirrors source ext ∧
      (project.destination source ext).parent = source.parent := by
  obtain ⟨hne, hslash⟩ := outputExtensions_wellFormed ext hext
  have hlayout : project.layout source = source := by simp [layout, hdir]
  rw [destination_eq, hlayout]
  exact ⟨Path.mirrors_withExtension hname hne hslash, Path.parent_withExtension hname hne hslash⟩

end Project

/-- Both outputs of an input with a file name are laid out as the input is, for a project that was
loaded, or any other with a source root that is not the empty path. With an output directory they go
strictly below it, unless the input is the source root itself: with the directories and the file stem
that the input has below the source root, or right into the directory if it is not below. They go up
only where the input does. Without an output directory they stay in the directory of the input. -/
theorem outputs_mirror_sources {project : Project}
    (hproject : (∃ tree config, Project.load tree config = .ok project) ∨
      project.layoutRoot ≠ ⟨""⟩)
    {source output : Path} {name ext : String} (hname : source.fileName = some name)
    (houtput : (output, ext) = (project.codePath source, (emittedExtensions source).1) ∨
      (output, ext) = (project.declarationPath source, (emittedExtensions source).2)) :
    (∀ outDir, project.options.outDir = some outDir → source.same project.layoutRoot = false →
      ∃ below, output.below? outDir = some below ∧ below.components ≠ [] ∧
        (.up ∈ below.components → .up ∈ source.components) ∧
        (∀ relative, source.below? project.layoutRoot = some relative →
          below.Mirrors relative ext) ∧
        (source.below? project.layoutRoot = none → ∃ stem, source.fileStem = some stem ∧
          below.components = [.name (stem ++ "." ++ ext)])) ∧
    (project.options.outDir = none → output.Mirrors source ext ∧ output.parent = source.parent) := by
  have hroot : project.layoutRoot ≠ ⟨""⟩ := by
    obtain ⟨tree, config, hload⟩ | hroot := hproject
    · exact Project.layoutRoot_ne_empty hload
    · exact hroot
  obtain ⟨rfl, hext⟩ : output = project.destination source ext ∧ ext ∈ outputExtensions := by
    obtain h | h := houtput <;> obtain ⟨rfl, rfl⟩ := Prod.mk.inj h
    · exact ⟨rfl, List.mem_append_left _ (emittedExtensions_fst_mem source)⟩
    · exact ⟨rfl, List.mem_append_right _ (emittedExtensions_snd_mem source)⟩
  refine ⟨fun outDir hdir hother => ?_, fun hdir => Project.destination_beside hdir hname hext⟩
  cases hsource : source.below? project.layoutRoot with
  | some relative =>
      obtain ⟨below, hbelow, hmirrors⟩ :=
        Project.exists_below_destination hroot hdir hname hother hsource hext
      refine ⟨below, hbelow, hmirrors.components_ne_nil, ?_, ?_, fun h => (nomatch h)⟩
      · intro hup
        rw [Path.components_eq_append_of_below? hsource]
        exact List.mem_append_right _ (hmirrors.up_mem hup)
      · intro other h
        obtain rfl := Option.some.inj h
        exact hmirrors
  | none =>
      obtain ⟨below, stem, hbelow, hstem, hcomponents⟩ :=
        Project.exists_destination_inside hdir hname hsource hext
      refine ⟨below, hbelow, by simp [hcomponents], ?_, fun _ h => (nomatch h), ?_⟩
      · intro hup
        simp [hcomponents] at hup
      · exact fun _ => ⟨stem, hstem, hcomponents⟩

/-- The text of a project file with a source root and an output directory. -/
def nestedText : String :=
  "\x7b\"compilerOptions\": \x7b\"outDir\": \"dist\", \"rootDir\": \"src\", \"declaration\": true\x7d, " ++
    "\"files\": [\"src/lib/a.b.ts\", \"c.mts\"]\x7d"

/-- A tree with that project file. -/
def nestedTree : FileTree where
  entries := [(["p"], .dir), (["p", "tsconfig.json"], .file nestedText.toUTF8)]
  workingDir := ["p"]

/-- What that text says. -/
def nestedFile : ProjectFile where
  options := { outDir := some ⟨"dist"⟩, rootDir := some ⟨"src"⟩, declaration := true }
  files := some ["src/lib/a.b.ts", "c.mts"]

/-- The project of that tree. -/
def nestedProject : Project where
  configPath := ⟨"/p/tsconfig.json"⟩
  root := ⟨"/p"⟩
  options := { outDir := some ⟨"/p/dist"⟩, rootDir := some ⟨"/p/src"⟩, declaration := true }
  fileNames := [⟨"/p/c.mts"⟩, ⟨"/p/src/lib/a.b.ts"⟩]
  errors := []

theorem load_nested : Project.load nestedTree ⟨"tsconfig.json"⟩ = .ok nestedProject := by
  have hread : nestedTree.readText ⟨"/p/tsconfig.json"⟩ = .ok nestedText :=
    eq_ok_of_toOption (by decide +kernel)
  have hparsed : ProjectFile.ofText nestedText = .ok nestedFile :=
    eq_ok_of_toOption (by decide +kernel)
  have hoptions : nestedFile.options.rooted ⟨"/p"⟩ = nestedProject.options := by decide +kernel
  have hperm : (nestedFile.named ⟨"/p"⟩ ++ []).Perm nestedProject.fileNames := by decide +kernel
  have hload := load_inP_of_found rfl hread hparsed rfl hperm (by decide +kernel)
  rw [hoptions] at hload
  exact hload

/-- The declarations of the input with two dots keep its directory, and the code of the input from
elsewhere is right in the output directory. -/
theorem outputs_mirror_sources_nested :
    (∃ below, (nestedProject.declarationPath ⟨"/p/src/lib/a.b.ts"⟩).below? ⟨"/p/dist"⟩ = some below ∧
      below.Mirrors ⟨"lib/a.b.ts"⟩ "d.ts") ∧
    ∃ below, (nestedProject.codePath ⟨"/p/c.mts"⟩).below? ⟨"/p/dist"⟩ = some below ∧
      below.components = [.name "c.mjs"] := by
  have hloaded : ∃ tree config, Project.load tree config = .ok nestedProject :=
    ⟨nestedTree, ⟨"tsconfig.json"⟩, load_nested⟩
  have hextensions : (emittedExtensions ⟨"/p/src/lib/a.b.ts"⟩).2 = "d.ts" ∧
      (emittedExtensions ⟨"/p/c.mts"⟩).1 = "mjs" := by decide +kernel
  constructor
  · have hname : (Path.mk "/p/src/lib/a.b.ts").fileName = some "a.b.ts" := by decide +kernel
    have hdeclarations := outputs_mirror_sources (.inl hloaded) hname (.inr rfl)
    obtain ⟨below, hbelow, -, -, hmirrors, -⟩ :=
      hdeclarations.1 ⟨"/p/dist"⟩ rfl (by decide +kernel)
    rw [hextensions.1] at hmirrors
    exact ⟨below, hbelow, hmirrors ⟨"lib/a.b.ts"⟩ (by decide +kernel)⟩
  · have hname : (Path.mk "/p/c.mts").fileName = some "c.mts" := by decide +kernel
    have hcode := outputs_mirror_sources (.inl hloaded) hname (.inl rfl)
    obtain ⟨below, hbelow, -, -, -, helsewhere⟩ := hcode.1 ⟨"/p/dist"⟩ rfl (by decide +kernel)
    obtain ⟨stem, hstem, hcomponents⟩ := helsewhere (by decide +kernel)
    have hc : (Path.mk "/p/c.mts").fileStem = some "c" := by decide +kernel
    obtain rfl := Option.some.inj (hc.symm.trans hstem)
    rw [hextensions.2] at hcomponents
    exact ⟨below, hbelow, hcomponents⟩

end QuietEmit
