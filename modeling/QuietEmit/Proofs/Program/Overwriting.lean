/-
  QuietEmit.Proofs.Program.Overwriting

  Which inputs an emission can replace. Before code is written its path is held
  against the input that it comes from, so no input is replaced by its own
  outputs (`Project.not_same_source`); it is not held against the other inputs,
  and the path of a declaration is held against none. What can be replaced is
  thus an input at the path of another's output: plain code, or declarations.
-/
import QuietEmit.Proofs.Program.Destinations

namespace QuietEmit

/-! ## What outputs are named -/

theorem isDeclarations_of_same {p q : Path} (h : p.same q = true) :
    isDeclarations p = isDeclarations q := by
  rw [isDeclarations, isDeclarations, Path.fileName_of_same h]

theorem finalPart_codeExtensions : ∀ e ∈ codeExtensions, Path.finalPart e = e := by decide +kernel

theorem codeExtensions_untyped : ∀ e ∈ codeExtensions, e ∉ typedExtensions := by decide

namespace Project

variable (project : Project)

/-- A declaration that has a file name is named as one. -/
theorem isDeclarations_declarationPath {source : Path}
    (h : (project.layout source).fileName.isSome = true) :
    isDeclarations (project.declarationPath source) = true := by
  obtain ⟨stem, hstem⟩ := Path.exists_fileStem h
  have hmem := emittedExtensions_snd_mem source
  obtain ⟨hne, hslash⟩ := outputExtensions_wellFormed _ (List.mem_append_right codeExtensions hmem)
  rw [declarationPath, destination_eq, isDeclarations,
    Path.fileName_withExtension hstem hne hslash]
  simp only [declarationExtensions, List.mem_cons, List.not_mem_nil, or_false] at hmem
  rcases hmem with hext | hext | hext <;> simp [hext]

/-- Code that has a file name has an extension of code. -/
theorem extension_codePath {source : Path}
    (h : (project.layout source).fileName.isSome = true) :
    ∃ e ∈ codeExtensions, (project.codePath source).extension = some e := by
  obtain ⟨stem, hstem⟩ := Path.exists_fileStem h
  have hmem := emittedExtensions_fst_mem source
  obtain ⟨hne, hslash⟩ :=
    outputExtensions_wellFormed _ (List.mem_append_left declarationExtensions hmem)
  refine ⟨_, hmem, ?_⟩
  rw [codePath, destination_eq, Path.extension_withExtension hstem hne hslash,
    finalPart_codeExtensions _ hmem]

/-- No output goes to the path of its own input. -/
theorem not_same_source {source path : Path}
    (hpath : path = project.codePath source ∨ path = project.declarationPath source)
    (hcode : isDeclarations source = false)
    (hother : (project.codePath source).same source = false) : path.same source = false := by
  rcases hpath with rfl | rfl
  · exact hother
  · cases hname : (project.layout source).fileName with
    | none =>
        -- the code goes to the same place
        rw [declarationPath, project.destination_of_fileName_eq_none _ hname]
        rwa [codePath, project.destination_of_fileName_eq_none _ hname] at hother
    | some name =>
        rw [← Bool.not_eq_true]
        intro hsame
        have hnamed := project.isDeclarations_declarationPath (by rw [hname]; rfl)
        rw [isDeclarations_of_same hsame, hcode] at hnamed
        exact Bool.false_ne_true hnamed

/-- Of typed sources an output only goes to the path of declarations. -/
theorem isDeclarations_of_same_output {source path input : Path}
    (hpath : path = project.codePath source ∨ path = project.declarationPath source)
    (hsame : path.same input = true) (htyped : isSource input false = true) :
    isDeclarations input = true := by
  rw [isSource] at htyped
  cases hext : input.extension with
  | none => simp [hext] at htyped
  | some e =>
      have he : e ∈ typedExtensions := by simpa [hext] using htyped
      -- the input has an extension, so the output it meets has a file name
      have hname : (project.layout source).fileName.isSome = true := by
        rw [← Option.ne_none_iff_isSome]
        intro hname
        have hplace : path = project.layout source := by
          rcases hpath with rfl | rfl <;> exact project.destination_of_fileName_eq_none _ hname
        rw [← Path.extension_of_same hsame, hplace, Path.extension, hname] at hext
        simp at hext
      rcases hpath with rfl | rfl
      · obtain ⟨e', he', hext'⟩ := project.extension_codePath hname
        rw [Path.extension_of_same hsame, hext, Option.some_inj] at hext'
        subst hext'
        exact absurd he (codeExtensions_untyped e he')
      · rw [← isDeclarations_of_same hsame]
        exact project.isDeclarations_declarationPath hname

end Project

/-! ## Inputs that outputs meet -/

variable {σ : Type} [FileStore σ]

/-- An input is replaced by the outputs of another input only, and if its source is typed it holds
declarations. An input that its own code would replace is reported, and nothing is written for
it. -/
theorem inputs_replaced_only_by_others (project : Project) (passes : List Pass)
    (reads store : σ) :
    let program := Program.ofProject reads project
    let result := program.writeOutputs store passes
    let outputs := project.fileNames.flatMap (project.outputsAt passes reads)
    result.files.Sublist (outputs.map Output.path) ∧
    (∀ o ∈ outputs, ∀ input ∈ project.fileNames, o.path.same input = true →
      (∃ source ∈ project.fileNames, isDeclarations source = false ∧ source.same input = false ∧
        (o.path = project.codePath source ∨ o.path = project.declarationPath source)) ∧
      (isSource input false = true → isDeclarations input = true)) ∧
    (∀ input ∈ project.fileNames, ∀ text, FileStore.readText reads input = .ok text →
      isDeclarations input = false → (project.codePath input).same input = true →
      project.outputsAt passes reads input = [] ∧ (result.isSkipped = false →
        Emission.overwriting (project.codePath input) input ∈ result.diagnostics)) := by
  intro program result outputs
  refine ⟨files_sublist project passes reads store, ?_, ?_⟩
  · intro o ho input _ hsame
    obtain ⟨source, hsource, ho⟩ := List.mem_flatMap.mp ho
    obtain ⟨hpath, hcode, hother⟩ := project.path_of_mem_outputsAt passes reads ho
    refine ⟨⟨source, hsource, hcode, ?_, hpath⟩,
      project.isDeclarations_of_same_output hpath hsame⟩
    -- otherwise the output would go to the path of its own input
    rw [← Bool.not_eq_true]
    intro heq
    have hown : o.path.same source = true := by
      rw [Path.same_iff] at hsame heq ⊢
      rw [hsame, heq]
    rw [project.not_same_source hpath hcode hother] at hown
    exact Bool.false_ne_true hown
  · intro input hinput text hread hcode hsame
    constructor
    · rw [Project.outputsAt, hread]
      simp [Project.outputs, hsame]
    · intro hdone
      have hblocked : program.isBlocked = false := by
        rw [← Bool.not_eq_true]
        intro hblocked
        simp only [result, Program.writeOutputs_of_isBlocked hblocked] at hdone
        exact absurd hdone (by simp [EmissionResult.isSkipped])
      apply remarks_subset_diagnostics passes store hblocked hinput hread
      simp [Project.remarks, hcode, hsame]

/-- A tree with plain code and declarations, both inputs, at the paths of the outputs of a third
input. -/
def neighbourTree : FileTree where
  entries := [(["a.ts"], .file "export const x: number = 1;\n".toUTF8),
    (["a.js"], .file "export const y = 2;\n".toUTF8),
    (["a.d.ts"], .file "export const z: number;\n".toUTF8)]
  workingDir := []

/-- The project of those inputs. -/
def neighbourProject : Project :=
  ⟨⟨"/tsconfig.json"⟩, ⟨"/"⟩, { allowJs := true, declaration := true },
    [⟨"/a.d.ts"⟩, ⟨"/a.js"⟩, ⟨"/a.ts"⟩], []⟩

/-- Two inputs are replaced by the outputs of the third. -/
theorem neighbours_replaced :
    ((Program.ofProject neighbourTree neighbourProject).writeOutputs neighbourTree []).files =
        [⟨"/a.js"⟩, ⟨"/a.d.ts"⟩] ∧
      (⟨"/a.js"⟩ : Path) ∈ neighbourProject.fileNames ∧
      (⟨"/a.d.ts"⟩ : Path) ∈ neighbourProject.fileNames := by
  decide +kernel

end QuietEmit
