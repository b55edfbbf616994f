/-
  QuietEmit.Proofs.Program.Accounts

  Every input of a project is accounted for when its program is emitted: it comes
  to exactly one of five ends, each told in the diagnostics or in the files
  (`every_input_accounted`). What is attempted for an input depends on the input
  alone, so nothing that fails keeps another input from being emitted.
-/
import Mathlib.Data.List.Nodup
import Mathlib.Logic.ExistsUnique
import QuietEmit.Proofs.Program.Attempts
import QuietEmit.Proofs.Project.Inputs

namespace QuietEmit

variable {σ : Type} [FileStore σ]

/-! ## What is read -/

namespace Program

theorem modules_ofProject (reads : σ) (project : Project) :
    (ofProject reads project).modules =
      project.fileNames.filterMap fun path => (readInput reads path).1 := by
  rw [ofProject, List.filterMap_map]
  rfl

theorem diagnostics_ofProject (reads : σ) (project : Project) :
    (ofProject reads project).diagnostics =
      project.errors ++ project.fileNames.flatMap fun path => (readInput reads path).2 := by
  rw [ofProject, List.flatMap_map]

end Program

/-- The diagnostics that say of a file that it is missing. -/
def missing (path : Path) (diagnostics : List Diagnostic) : List Diagnostic :=
  diagnostics.filter fun d => d.code == Code.missingFile && d.file == some path

/-- Reading and checking a text finds no file missing. -/
theorem missing_check (path source : Path) (text : String) :
    missing path (EmittedModule.check source text) = [] := by
  rw [missing, List.filter_eq_nil_iff]
  intro d hd
  have hcode : d.code = Code.syntaxError ∨ d.code = Code.semantic := by
    rw [EmittedModule.check, List.mem_append, List.mem_map] at hd
    rcases hd with ⟨fault, -, rfl⟩ | hd
    · exact .inl rfl
    · split at hd
      · simp at hd
      · obtain ⟨message, -, rfl⟩ := List.mem_map.mp hd
        exact .inr rfl
  rcases hcode with hcode | hcode <;> simp [hcode, Code.syntaxError, Code.semantic, Code.missingFile]

/-- Reading an input finds that input missing, if any. -/
theorem missing_readInput {reads : σ} {path : Path} {e : IoError}
    (h : FileStore.readText reads path = .error e) (source : Path) :
    missing path (Program.readInput reads source).2 =
      if source = path then [Program.unreadable path e] else [] := by
  rw [Program.readInput]
  split
  · next text htext =>
      have hne : source ≠ path := by
        rintro rfl
        simp [h] at htext
      rw [missing_check, if_neg hne]
  · next cause hcause =>
      split
      · next heq =>
          subst heq
          obtain rfl := Except.error.inj (h.symm.trans hcause)
          simp [missing, Program.unreadable, Diagnostic.inFile, Diagnostic.error]
      · next hne => simp [missing, Program.unreadable, Diagnostic.inFile, hne]

/-- A file that cannot be read is reported once for each time that it is listed. -/
theorem missing_ofProject {reads : σ} {path : Path} {e : IoError}
    (h : FileStore.readText reads path = .error e) (project : Project) :
    missing path (Program.ofProject reads project).diagnostics =
      missing path project.errors ++
        List.replicate (project.fileNames.count path) (Program.unreadable path e) := by
  rw [Program.diagnostics_ofProject, missing, List.filter_append]
  congr 1
  induction project.fileNames with
  | nil => rfl
  | cons source sources ih =>
      -- a listing of the file adds one report, any other input none
      have hread := missing_readInput h source
      rw [missing] at hread
      rw [List.flatMap_cons, List.filter_append, ih, hread, List.count_cons]
      by_cases hsource : source = path
      · simp [hsource, List.replicate_succ]
      · simp [hsource]

/-- The errors of a project that was read from a text say of no file that it is missing. -/
theorem Project.missing_ofText (tree : FileTree) (configPath : Path) (text : String) (path : Path) :
    missing path (ofText tree configPath text).errors = [] := by
  rw [missing, List.filter_eq_nil_iff]
  intro d hd
  rcases (ofText_cases tree configPath text).2 d hd with hcode | hcode <;>
    simp [hcode, Code.configuration, Code.withoutInputs, Code.missingFile]

/-! ## What is written -/

namespace Program

theorem isBlocked_iff (p : Program) :
    p.isBlocked = true ↔ p.project.options.noEmit = true ∨
      p.project.options.noEmitOnError = true ∧ ∃ d ∈ p.diagnostics, d.isError = true := by
  rw [isBlocked, hasErrors, Bool.or_eq_true, Bool.and_eq_true, List.any_eq_true]

theorem writeOutputs_of_isBlocked {p : Program} (h : p.isBlocked = true) (store : σ)
    (passes : List Pass) : p.writeOutputs store passes = .skipped := by
  rw [writeOutputs, if_pos h]

/-- Emitting a program is to attempt the files of its modules in order. -/
theorem writeOutputs_of_not_isBlocked {p : Program} (h : p.isBlocked = false) (store : σ)
    (passes : List Pass) :
    p.writeOutputs store passes = .done
      { store := storeAfter store (p.modules.flatMap (p.project.outputs passes))
        diagnostics := p.project.reports passes store p.modules
        files := (attempts store (p.modules.flatMap (p.project.outputs passes))).filterMap
          Attempt.written? } := by
  rw [writeOutputs, if_neg (by simp [h]), Emission.foldl_module]
  rfl

end Program

/-- The files that an input asks for; none, when it cannot be read. -/
def Project.outputsAt (project : Project) (passes : List Pass) (reads : σ) (path : Path) :
    List Output :=
  match FileStore.readText reads path with
  | .ok text => project.outputs passes ⟨path, text⟩
  | .error _ => []

theorem Project.flatMap_outputsAt (project : Project) (passes : List Pass) (reads : σ)
    (paths : List Path) :
    (paths.filterMap fun path => (Program.readInput reads path).1).flatMap
        (project.outputs passes) = paths.flatMap (project.outputsAt passes reads) := by
  induction paths with
  | nil => rfl
  | cons path paths ih =>
      rw [List.flatMap_cons, ← ih, List.filterMap_cons, outputsAt, Program.readInput]
      cases FileStore.readText reads path <;> rfl

/-- What an emission leaves, when nothing keeps the program from being emitted. -/
theorem Program.writeOutputs_ofProject {project : Project} {reads : σ}
    (h : (ofProject reads project).isBlocked = false) (store : σ) (passes : List Pass) :
    (ofProject reads project).writeOutputs store passes = .done
      { store := storeAfter store (project.fileNames.flatMap (project.outputsAt passes reads))
        diagnostics := project.reports passes store (ofProject reads project).modules
        files := (attempts store
          (project.fileNames.flatMap (project.outputsAt passes reads))).filterMap
            Attempt.written? } := by
  rw [writeOutputs_of_not_isBlocked h, ← Project.flatMap_outputsAt, ← modules_ofProject]
  rfl

/-! ## Fates -/

/-- What an input can come to. -/
inductive Fate where
  | unreadable
  | declarations
  | overwriting
  | written
  | failed
deriving DecidableEq

/-- What it is for an input to come to a fate, where `before` is the store that the files of the
inputs before it have left. -/
def Fate.Holds (project : Project) (passes : List Pass) (reads before : σ)
    (result : EmissionResult σ) (path : Path) : Fate → Prop
  | .unreadable => ∃ e, FileStore.readText reads path = .error e ∧
      project.outputsAt passes reads path = [] ∧
      missing path (Program.ofProject reads project).diagnostics =
        missing path project.errors ++
          List.replicate (project.fileNames.count path) (Program.unreadable path e)
  | .declarations => ∃ text, FileStore.readText reads path = .ok text ∧
      isDeclarations path = true ∧
      project.outputsAt passes reads path = []
  | .overwriting => ∃ text, FileStore.readText reads path = .ok text ∧
      isDeclarations path = false ∧ (project.codePath path).same path = true ∧
      project.outputsAt passes reads path = [] ∧
      Emission.overwriting (project.codePath path) path ∈ result.diagnostics
  | .written => ∃ text, FileStore.readText reads path = .ok text ∧
      isDeclarations path = false ∧ (project.codePath path).same path = false ∧
      project.outputsAt passes reads path = project.codeAndDeclaration passes ⟨path, text⟩ ∧
      (FileStore.writeText before (project.codePath path)
        (project.emitted passes ⟨path, text⟩).code).1 = .ok () ∧
      project.codePath path ∈ result.files
  | .failed => ∃ text, FileStore.readText reads path = .ok text ∧
      isDeclarations path = false ∧ (project.codePath path).same path = false ∧
      project.outputsAt passes reads path = project.codeAndDeclaration passes ⟨path, text⟩ ∧
      ∃ e, (FileStore.writeText before (project.codePath path)
        (project.emitted passes ⟨path, text⟩).code).1 = .error e ∧
      Emission.unwritable (project.codePath path) e ∈ result.diagnostics

/-- The fate of an input, from the outcomes of reading and writing. -/
def Project.fateAt (project : Project) (passes : List Pass) (reads before : σ) (path : Path) :
    Fate :=
  match FileStore.readText reads path with
  | .error _ => .unreadable
  | .ok text =>
    if isDeclarations path then .declarations
    else if (project.codePath path).same path then .overwriting
    else
      match (FileStore.writeText before (project.codePath path)
        (project.emitted passes ⟨path, text⟩).code).1 with
      | .ok () => .written
      | .error _ => .failed

/-- An input comes to no fate but its own. -/
theorem Fate.eq_fateAt {project : Project} {passes : List Pass} {reads before : σ}
    {result : EmissionResult σ} {path : Path} {fate : Fate}
    (h : fate.Holds project passes reads before result path) :
    fate = project.fateAt passes reads before path := by
  -- each fate fixes the outcomes that its own depends on
  rw [Project.fateAt]
  cases fate with
  | unreadable =>
      obtain ⟨e, hread, -⟩ := h
      rw [hread]
  | declarations =>
      obtain ⟨text, hread, hdeclarations, -⟩ := h
      simp only [hread, hdeclarations, if_true]
  | overwriting =>
      obtain ⟨text, hread, hdeclarations, hsame, -⟩ := h
      simp [hread, hdeclarations, hsame]
  | written =>
      obtain ⟨text, hread, hdeclarations, hsame, -, hwrite, -⟩ := h
      simp [hread, hdeclarations, hsame, hwrite]
  | failed =>
      obtain ⟨text, hread, hdeclarations, hsame, -, e, hwrite, -⟩ := h
      simp [hread, hdeclarations, hsame, hwrite]

/-- A file is settled when it could be written and is listed, or could not and is reported. -/
def Output.Settled (o : Output) (before : σ) (result : EmissionResult σ) : Prop :=
  match (FileStore.writeText before o.path o.text).1 with
  | .ok () => o.path ∈ result.files
  | .error e => Emission.unwritable o.path e ∈ result.diagnostics

section Emitted

variable {project : Project} {reads : σ} (passes : List Pass) (store : σ)
  (hblocked : (Program.ofProject reads project).isBlocked = false)
include hblocked

/-- Each file that an input asks for is settled. -/
theorem settled_of_split {earlier later : List Output} {o : Output}
    (h : project.fileNames.flatMap (project.outputsAt passes reads) = earlier ++ o :: later) :
    o.Settled (storeAfter store earlier)
      ((Program.ofProject reads project).writeOutputs store passes) := by
  rw [Output.Settled, Program.writeOutputs_ofProject hblocked]
  split
  · next hok => exact mem_written h hok
  · next e herror =>
      -- what fails is among the reports of the module that asked for it
      have hmem := mem_failures h herror
      rw [← project.flatMap_outputsAt, ← Program.modules_ofProject] at hmem
      exact project.failures_subset_reports passes store _ hmem

/-- What is said of an input that could be read is reported. -/
theorem remarks_subset_diagnostics {path : Path} {text : String} (hpath : path ∈ project.fileNames)
    (hread : FileStore.readText reads path = .ok text) :
    project.remarks passes ⟨path, text⟩ ⊆
      ((Program.ofProject reads project).writeOutputs store passes).diagnostics := by
  have hmem : ⟨path, text⟩ ∈ (Program.ofProject reads project).modules := by
    rw [Program.modules_ofProject, List.mem_filterMap]
    exact ⟨path, hpath, by rw [Program.readInput, hread]⟩
  rw [Program.writeOutputs_ofProject hblocked]
  exact project.remarks_subset_reports passes store hmem

section Split

variable {earlier later : List Path} {path : Path} {text : String}
  (h : project.fileNames = earlier ++ path :: later)
include h

/-- The code of an input, the first of the files that it asks for, is settled. -/
theorem code_settled (hread : FileStore.readText reads path = .ok text)
    (hcode : isDeclarations path = false) (hother : (project.codePath path).same path = false) :
    project.outputsAt passes reads path = project.codeAndDeclaration passes ⟨path, text⟩ ∧
      Output.Settled ⟨project.codePath path, (project.emitted passes ⟨path, text⟩).code⟩
        (storeAfter store (earlier.flatMap (project.outputsAt passes reads)))
        ((Program.ofProject reads project).writeOutputs store passes) := by
  have hasked : project.outputsAt passes reads path =
      project.codeAndDeclaration passes ⟨path, text⟩ := by
    rw [Project.outputsAt, hread]
    simp [Project.outputs, hcode, hother]
  have hsplit : project.fileNames.flatMap (project.outputsAt passes reads) =
      earlier.flatMap (project.outputsAt passes reads) ++
        ⟨project.codePath path, (project.emitted passes ⟨path, text⟩).code⟩ ::
        ((project.emitted passes ⟨path, text⟩).declaration.toList.map
          (⟨project.declarationPath path, ·⟩) ++
            later.flatMap (project.outputsAt passes reads)) := by
    rw [h, List.flatMap_append, List.flatMap_cons, hasked]
    rfl
  exact ⟨hasked, settled_of_split passes store hblocked hsplit⟩

/-- Each input comes to its fate. -/
theorem holds_fateAt :
    (project.fateAt passes reads
        (storeAfter store (earlier.flatMap (project.outputsAt passes reads))) path).Holds
      project passes reads (storeAfter store (earlier.flatMap (project.outputsAt passes reads)))
      ((Program.ofProject reads project).writeOutputs store passes) path := by
  have hpath : path ∈ project.fileNames := by simp [h]
  rw [Project.fateAt]
  split
  · next e hread =>
      exact ⟨e, hread, by rw [Project.outputsAt, hread], missing_ofProject hread project⟩
  · next text hread =>
      split
      · next hdeclarations =>
          refine ⟨text, hread, hdeclarations, ?_⟩
          rw [Project.outputsAt, hread]
          simp [Project.outputs, hdeclarations]
      · next hdeclarations =>
          have hcode : isDeclarations path = false := by simpa using hdeclarations
          split
          · next hsame =>
              refine ⟨text, hread, hcode, hsame, ?_, ?_⟩
              · rw [Project.outputsAt, hread]
                simp [Project.outputs, hsame]
              · apply remarks_subset_diagnostics passes store hblocked hpath hread
                simp [Project.remarks, hcode, hsame]
          · next hsame =>
              have hother : (project.codePath path).same path = false := by simpa using hsame
              obtain ⟨hasked, hsettled⟩ :=
                code_settled passes store hblocked h hread hcode hother
              rw [Output.Settled] at hsettled
              split
              · next hwrite =>
                  exact ⟨text, hread, hcode, hother, hasked, hwrite,
                    by simpa [hwrite] using hsettled⟩
              · next e hwrite =>
                  exact ⟨text, hread, hcode, hother, hasked, e, hwrite,
                    by simpa [hwrite] using hsettled⟩

end Split

end Emitted

/-! ## The account -/

/-- Every input is accounted for. A program that the options keep from being emitted writes nothing
and says nothing. Otherwise each input comes to exactly one fate, each file that an input asks for
is settled, whatever becomes of the others, and the files listed are those written, in order. An
input of a project read from a text that cannot be read is reported once. -/
theorem every_input_accounted (project : Project) (passes : List Pass) (reads store : σ) :
    let program := Program.ofProject reads project
    let result := program.writeOutputs store passes
    let outputs := project.fileNames.flatMap (project.outputsAt passes reads)
    let blocked := project.options.noEmit = true ∨
      project.options.noEmitOnError = true ∧ ∃ d ∈ program.diagnostics, d.isError = true
    (blocked → result.isSkipped = true ∧ result.files = [] ∧ result.diagnostics = [] ∧
      result.tree store = store) ∧
    (¬ blocked → result.isSkipped = false ∧
      (∀ earlier path later, project.fileNames = earlier ++ path :: later →
        ∃! fate : Fate, fate.Holds project passes reads
          (storeAfter store (earlier.flatMap (project.outputsAt passes reads))) result path) ∧
      (∀ earlier o later, outputs = earlier ++ o :: later →
        o.Settled (storeAfter store earlier) result) ∧
      (attempts store outputs).map Attempt.path = outputs.map Output.path ∧
      result.files = (attempts store outputs).filterMap Attempt.written? ∧
      result.tree store = storeAfter store outputs) ∧
    (∀ tree configPath text, project = Project.ofText tree configPath text →
      ∀ path ∈ project.fileNames, ∀ e, FileStore.readText reads path = .error e →
        missing path program.diagnostics = [Program.unreadable path e]) := by
  intro program result outputs blocked
  refine ⟨?_, ?_, ?_⟩
  · intro hblocked
    have hresult : result = .skipped :=
      Program.writeOutputs_of_isBlocked (program.isBlocked_iff.mpr hblocked) store passes
    rw [hresult]
    exact ⟨rfl, rfl, rfl, rfl⟩
  · intro hblocked
    have hopen : program.isBlocked = false := by
      rw [← Bool.not_eq_true, program.isBlocked_iff]
      exact hblocked
    have hresult := Program.writeOutputs_ofProject hopen store passes
    refine ⟨by simp only [result, program, hresult]; rfl, ?_, ?_, map_path_attempts store outputs,
      by simp only [result, program, hresult]; rfl, by simp only [result, program, hresult]; rfl⟩
    · intro earlier path later hsplit
      exact ⟨_, holds_fateAt passes store hopen hsplit, fun fate hfate => Fate.eq_fateAt hfate⟩
    · intro earlier o later hsplit
      exact settled_of_split passes store hopen hsplit
  · rintro tree configPath text rfl path hpath e hread
    have hcount : (Project.ofText tree configPath text).fileNames.count path = 1 := by
      -- no two inputs are the same path, so no path is listed twice
      refine List.count_eq_one_of_mem ?_ hpath
      refine (Project.pairwise_not_same_fileNames tree configPath text).imp ?_
      rintro p q hsame rfl
      simp [Path.same] at hsame
    rw [missing_ofProject hread, Project.missing_ofText, hcount]
    rfl

/-- A tree with an input for each fate; a directory stands in the way of one output. -/
def fivefoldTree : FileTree where
  entries := [(["a.d.ts"], .file "".toUTF8), (["b.js"], .file "".toUTF8),
    (["c.ts"], .file "".toUTF8), (["d.ts"], .file "".toUTF8), (["d.js"], .dir)]
  workingDir := []

/-- The project of those inputs, of which `e.ts` is not there. -/
def fivefoldProject : Project :=
  ⟨⟨"/tsconfig.json"⟩, ⟨"/"⟩, {},
    [⟨"/a.d.ts"⟩, ⟨"/b.js"⟩, ⟨"/c.ts"⟩, ⟨"/d.ts"⟩, ⟨"/e.ts"⟩], []⟩

theorem every_input_accounted_fivefold :
    fivefoldProject.fileNames.map (fivefoldProject.fateAt [] fivefoldTree fivefoldTree) =
        [.declarations, .overwriting, .written, .failed, .unreadable] ∧
      ∀ earlier path later, fivefoldProject.fileNames = earlier ++ path :: later →
        ∃! fate : Fate, fate.Holds fivefoldProject [] fivefoldTree
          (storeAfter fivefoldTree
            (earlier.flatMap (fivefoldProject.outputsAt [] fivefoldTree)))
          ((Program.ofProject fivefoldTree fivefoldProject).writeOutputs fivefoldTree []) path :=
  ⟨by decide +kernel,
    ((every_input_accounted fivefoldProject [] fivefoldTree fivefoldTree).2.1
      (by simp [fivefoldProject])).2.1⟩

end QuietEmit
