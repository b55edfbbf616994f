/-
  QuietEmit.Proofs.Program.Attempts

  Emitting a program, told as a list of files to be written. What a module asks
  to be written (`Project.outputs`) and what is said of it besides
  (`Project.remarks`) do not depend on what is written before it: emitting the
  module is to attempt its outputs one after the other (`Emission.module_eq`), and
  emitting a program is to attempt those of all its modules in order
  (`Emission.foldl_module`).
-/
import QuietEmit.Program.Emit

namespace QuietEmit

/-! ## Outputs and attempts -/

/-- A file to be written. -/
structure Output where
  path : Path
  text : String

/-- A file that was to be written, and what became of it. -/
structure Attempt where
  path : Path
  outcome : Except IoError Unit

namespace Attempt

/-- The file, if it was written. -/
def written? (a : Attempt) : Option Path :=
  match a.outcome with
  | .ok () => some a.path
  | .error _ => none

/-- The diagnostic, if it was not. -/
def failure? (a : Attempt) : Option Diagnostic :=
  match a.outcome with
  | .ok () => none
  | .error e => some (Emission.unwritable a.path e)

end Attempt

variable {σ : Type} [FileStore σ]

/-- The store after writing files one after the other, whatever becomes of each. -/
def storeAfter (store : σ) (outputs : List Output) : σ :=
  outputs.foldl (fun s o => (FileStore.writeText s o.path o.text).2) store

/-- What becomes of files that are written one after the other. -/
def attempts (store : σ) : List Output → List Attempt
  | [] => []
  | o :: os =>
    ⟨o.path, (FileStore.writeText store o.path o.text).1⟩ ::
      attempts (FileStore.writeText store o.path o.text).2 os

theorem storeAfter_append (store : σ) (a b : List Output) :
    storeAfter store (a ++ b) = storeAfter (storeAfter store a) b := List.foldl_append

theorem attempts_append (store : σ) (a b : List Output) :
    attempts store (a ++ b) = attempts store a ++ attempts (storeAfter store a) b := by
  induction a generalizing store with
  | nil => rfl
  | cons o os ih => rw [List.cons_append, attempts, ih, attempts]; rfl

/-- Each file is attempted once. -/
theorem map_path_attempts (store : σ) (outputs : List Output) :
    (attempts store outputs).map Attempt.path = outputs.map Output.path := by
  induction outputs generalizing store with
  | nil => rfl
  | cons o os ih => rw [attempts, List.map_cons, ih, List.map_cons]

/-- The files written are some of those attempted, in their order. -/
theorem written_sublist (store : σ) (outputs : List Output) :
    ((attempts store outputs).filterMap Attempt.written?).Sublist (outputs.map Output.path) := by
  rw [← map_path_attempts store]
  induction attempts store outputs with
  | nil => exact .slnil
  | cons a as ih =>
      rw [List.filterMap_cons, List.map_cons]
      cases ha : a.outcome with
      | error e => simpa [Attempt.written?, ha] using ih.cons a.path
      | ok u => simpa [Attempt.written?, ha] using ih.cons_cons a.path

section Split

variable {outputs before after : List Output} {o : Output}

/-- The attempt at a file is made on the store that the files before it leave. -/
theorem mem_attempts (store : σ) (h : outputs = before ++ o :: after) :
    ⟨o.path, (FileStore.writeText (storeAfter store before) o.path o.text).1⟩ ∈
      attempts store outputs := by
  rw [h, attempts_append, attempts]
  exact List.mem_append_right _ (List.mem_cons_self ..)

/-- A file that can be written when its turn comes is written. -/
theorem mem_written {store : σ} (h : outputs = before ++ o :: after)
    (hok : (FileStore.writeText (storeAfter store before) o.path o.text).1 = .ok ()) :
    o.path ∈ (attempts store outputs).filterMap Attempt.written? :=
  List.mem_filterMap.mpr ⟨_, mem_attempts store h, by rw [Attempt.written?, hok]⟩

/-- A file that cannot be written when its turn comes is reported. -/
theorem mem_failures {store : σ} {e : IoError} (h : outputs = before ++ o :: after)
    (herror : (FileStore.writeText (storeAfter store before) o.path o.text).1 = .error e) :
    Emission.unwritable o.path e ∈ (attempts store outputs).filterMap Attempt.failure? :=
  List.mem_filterMap.mpr ⟨_, mem_attempts store h, by rw [Attempt.failure?, herror]⟩

end Split

/-! ## What a module asks for -/

namespace Project

variable (project : Project) (passes : List Pass)

/-- Where the code of an input goes. -/
def codePath (source : Path) : Path := project.destination source (emittedExtensions source).1

/-- Where the declarations of an input go. -/
def declarationPath (source : Path) : Path :=
  project.destination source (emittedExtensions source).2

/-- What a module becomes when the passes have run. -/
def emitted (m : InputModule) : EmittedModule :=
  EmittedModule.ofText m.path (Pass.runAll passes m.path m.text).1 project.options.declaration

/-- The code of a module and, where it has one, its declaration. -/
def codeAndDeclaration (m : InputModule) : List Output :=
  ⟨project.codePath m.path, (project.emitted passes m).code⟩ ::
    (project.emitted passes m).declaration.toList.map (⟨project.declarationPath m.path, ·⟩)

/-- The files that a module asks for: none for a module of declarations, and none where the code
would replace the module. -/
def outputs (m : InputModule) : List Output :=
  if isDeclarations m.path || (project.codePath m.path).same m.path then []
  else project.codeAndDeclaration passes m

/-- What is said of a module apart from what becomes of its files. -/
def remarks (m : InputModule) : List Diagnostic :=
  if isDeclarations m.path then []
  else (Pass.runAll passes m.path m.text).2 ++ (project.emitted passes m).diagnostics ++
    if (project.codePath m.path).same m.path then
      [Emission.overwriting (project.codePath m.path) m.path]
    else []

/-- What is said of modules that are emitted one after the other. -/
def reports (store : σ) : List InputModule → List Diagnostic
  | [] => []
  | m :: ms =>
    project.remarks passes m ++
      (attempts store (project.outputs passes m)).filterMap Attempt.failure? ++
      reports (storeAfter store (project.outputs passes m)) ms

theorem reports_append (store : σ) (a b : List InputModule) :
    project.reports passes store (a ++ b) = project.reports passes store a ++
      project.reports passes (storeAfter store (a.flatMap (project.outputs passes))) b := by
  induction a generalizing store with
  | nil => rfl
  | cons m ms ih =>
      rw [List.cons_append, reports, ih, reports, List.flatMap_cons, storeAfter_append]
      simp only [List.append_assoc]

/-- What is said of each module is reported. -/
theorem remarks_subset_reports (store : σ) {ms : List InputModule} {m : InputModule} (h : m ∈ ms) :
    project.remarks passes m ⊆ project.reports passes store ms := by
  obtain ⟨before, after, rfl⟩ := List.append_of_mem h
  rw [reports_append, reports, List.append_assoc]
  exact List.Subset.trans (List.subset_append_left _ _) (List.subset_append_right _ _)

/-- Each file that could not be written is reported. -/
theorem failures_subset_reports (store : σ) (ms : List InputModule) :
    (attempts store (ms.flatMap (project.outputs passes))).filterMap Attempt.failure? ⊆
      project.reports passes store ms := by
  induction ms generalizing store with
  | nil => exact List.Subset.refl _
  | cons m ms ih =>
      rw [List.flatMap_cons, attempts_append, List.filterMap_append, reports]
      exact List.append_subset.mpr
        ⟨List.Subset.trans (List.subset_append_right _ _) (List.subset_append_left _ _),
          List.Subset.trans (ih _) (List.subset_append_right _ _)⟩

end Project

/-! ## Emitting -/

namespace Emission

/-- An emission after remarks and attempts. -/
def attempting (e : Emission σ) (remarks : List Diagnostic) (outputs : List Output) :
    Emission σ where
  store := storeAfter e.store outputs
  diagnostics := e.diagnostics ++ remarks ++ (attempts e.store outputs).filterMap Attempt.failure?
  files := e.files ++ (attempts e.store outputs).filterMap Attempt.written?

theorem noting_eq (e : Emission σ) (remarks : List Diagnostic) :
    e.noting remarks = e.attempting remarks [] := by
  simp [attempting, attempts, storeAfter, noting]

theorem write_eq (e : Emission σ) (path : Path) (text : String) :
    e.write path text = e.attempting [] [⟨path, text⟩] := by
  rw [write]
  split
  · next store hwrite =>
      simp [attempting, storeAfter, attempts, hwrite, Attempt.failure?, Attempt.written?]
  · next cause store hwrite =>
      simp [attempting, storeAfter, attempts, hwrite, Attempt.failure?, Attempt.written?, noting]

theorem attempting_append (e : Emission σ) (remarks : List Diagnostic) (a b : List Output) :
    (e.attempting remarks a).attempting [] b = e.attempting remarks (a ++ b) := by
  rw [attempting, attempting, attempting, attempts_append, storeAfter_append,
    List.filterMap_append, List.filterMap_append]
  simp only [List.append_assoc, List.nil_append]

/-- What emitting a module of code does. -/
theorem module_of_code (project : Project) (passes : List Pass) (e : Emission σ)
    {m : InputModule} (h : isDeclarations m.path = false) :
    Emission.module project passes e m =
      let e := e.noting ((Pass.runAll passes m.path m.text).2 ++
        (project.emitted passes m).diagnostics)
      if (project.codePath m.path).same m.path then
        e.noting [overwriting (project.codePath m.path) m.path]
      else
        let e := e.write (project.codePath m.path) (project.emitted passes m).code
        match (project.emitted passes m).declaration with
        | some text => e.write (project.declarationPath m.path) text
        | none => e := by
  rw [Emission.module, h]
  rfl

/-- Emitting a module is to say what there is to say and to attempt its files. -/
theorem module_eq (project : Project) (passes : List Pass) (e : Emission σ) (m : InputModule) :
    Emission.module project passes e m =
      e.attempting (project.remarks passes m) (project.outputs passes m) := by
  rw [Project.remarks, Project.outputs]
  cases hdeclarations : isDeclarations m.path with
  | true =>
      -- nothing is said and nothing attempted
      rw [Emission.module, hdeclarations]
      exact noting_eq e [] ▸ by simp [noting]
  | false =>
      rw [module_of_code project passes e hdeclarations]
      cases hsame : (project.codePath m.path).same m.path with
      | true =>
          -- one more remark and nothing attempted
          simp [← noting_eq, noting]
      | false =>
          simp only [noting_eq, write_eq, attempting_append, List.append_nil, List.nil_append,
            Bool.false_eq_true, if_false, Bool.or_false]
          rw [Project.codeAndDeclaration]
          -- one file is attempted, or two
          cases (project.emitted passes m).declaration with
          | none => rfl
          | some text => rfl

/-- Emitting modules is to attempt all their files in order. -/
theorem foldl_module (project : Project) (passes : List Pass) (e : Emission σ)
    (ms : List InputModule) :
    ms.foldl (Emission.module project passes) e =
      { store := storeAfter e.store (ms.flatMap (project.outputs passes))
        diagnostics := e.diagnostics ++ project.reports passes e.store ms
        files := e.files ++ (attempts e.store (ms.flatMap (project.outputs passes))).filterMap
          Attempt.written? } := by
  induction ms generalizing e with
  | nil => simp [Project.reports, attempts, storeAfter]
  | cons m ms ih =>
      -- the modules after `m` begin with the store that its files leave
      rw [List.foldl_cons, module_eq, ih, List.flatMap_cons, storeAfter_append, attempts_append,
        List.filterMap_append, Project.reports]
      simp only [attempting, List.append_assoc]

end Emission

end QuietEmit
