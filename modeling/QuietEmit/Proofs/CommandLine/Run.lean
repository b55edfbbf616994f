/-
  QuietEmit.Proofs.CommandLine.Run

  What a run comes to, by the settings it has and the project they name. A run is
  prepared exactly when its settings can be read (`Invocation.settings?`), their
  project can be loaded, and the project has a pass (`Invocation.prepare_eq_ok`,
  `Invocation.exists_prepare`). A prepared run prints its diagnostics
  (`Prepared.runOnce_eq`), and one without its project stops before it printed any.
-/
import QuietEmit.CommandLine.Run
import QuietEmit.Proofs.Settings.Loading

namespace QuietEmit

open CommandLine (Arguments)

/-! ## Loading -/

theorem Settings.loadProject_of_ok {s : Settings} {tree : FileTree} {project : Project}
    (h : Project.load tree s.project = .ok project) : s.loadProject tree = .ok project := by
  rw [Settings.loadProject, h]
  rfl

theorem Settings.loadProject_of_error {s : Settings} {tree : FileTree} {e : SetupError}
    (h : Project.load tree s.project = .error e) :
    s.loadProject tree =
      .error (((RunError.setup e).addPath s.project).addHint projectHint) := by
  rw [Settings.loadProject, h]
  rfl

/-- The pass depends on a project by the base directory alone. -/
theorem RedirectionSettings.pass_congr {s : RedirectionSettings} {project other : Project}
    (h : s.baseFor project = s.baseFor other) : s.pass project = s.pass other := by
  rw [pass, pass, redirection, redirection, h]

/-! ## Preparation -/

namespace Invocation

variable {i : Invocation}

/-- The settings of a run, if its arguments and its settings can be read. -/
def settings? (i : Invocation) : Option Settings :=
  match Arguments.read i.arguments with
  | .error _ => none
  | .ok a => (Settings.load i.tree i.tree.workingPath i.environment a).toOption

/-- A run that has settings is prepared with them, and with a compiler. -/
theorem prepare_of_settings? {s : Settings} (h : i.settings? = some s) :
    (∃ compiler, Compiler.find s.compiler = .ok compiler) ∧
      ∃ color notices, i.prepare = i.prepareWith color notices s := by
  rw [settings?] at h
  cases hread : Arguments.read i.arguments with
  | error r => rw [hread] at h; cases h
  | ok a =>
      rw [hread] at h
      dsimp only at h
      cases hload : Settings.load i.tree i.tree.workingPath i.environment a with
      | error e => rw [hload] at h; cases h
      | ok loaded =>
          rw [hload] at h
          cases h
          obtain ⟨-, hcheck⟩ := Settings.load_eq_ok_iff.mp hload
          obtain ⟨hcompiler, -⟩ := Settings.check_eq_ok_iff.mp hcheck
          refine ⟨hcompiler, i.color a, warningText (i.color a) a.strayWarning?, ?_⟩
          rw [prepare, hread]
          simp only [hload]

/-- Settings are kept, and their project is loaded and given its pass. -/
theorem prepareWith_eq_ok {color : Bool} {notices : String} {s : Settings} {p : Prepared}
    (h : i.prepareWith color notices s = .ok p) :
    p.settings = s ∧ p.tree = i.tree ∧ Project.load i.tree s.project = .ok p.project ∧
      s.redirection.pass p.project = .ok p.pass := by
  rw [prepareWith] at h
  cases hfind : Compiler.find s.compiler with
  | error e => rw [hfind] at h; cases h
  | ok compiler =>
      rw [hfind] at h
      dsimp only at h
      cases hproject : Project.load i.tree s.project with
      | error e => rw [Settings.loadProject_of_error hproject] at h; cases h
      | ok project =>
          rw [Settings.loadProject_of_ok hproject] at h
          dsimp only at h
          cases hpass : s.redirection.pass project with
          | error e => rw [hpass] at h; cases h
          | ok pass =>
              rw [hpass] at h
              cases h
              exact ⟨rfl, rfl, rfl, hpass⟩

/-- What a prepared run was prepared from. -/
theorem prepare_eq_ok {p : Prepared} (h : i.prepare = .ok p) :
    i.settings? = some p.settings ∧ p.tree = i.tree ∧
      Project.load i.tree p.settings.project = .ok p.project ∧
      p.settings.redirection.pass p.project = .ok p.pass := by
  rw [prepare] at h
  rw [settings?]
  cases hread : Arguments.read i.arguments with
  | error r => rw [hread] at h; cases h
  | ok a =>
      rw [hread] at h
      dsimp only at h ⊢
      cases hload : Settings.load i.tree i.tree.workingPath i.environment a with
      | error e => rw [hload] at h; cases h
      | ok s =>
          rw [hload] at h
          obtain ⟨rfl, htree, hproject, hpass⟩ := prepareWith_eq_ok h
          exact ⟨rfl, htree, hproject, hpass⟩

/-- A run is prepared when there is nothing that stops it. -/
theorem exists_prepare {s : Settings} {project : Project} {pass : RedirectingPass}
    (hsettings : i.settings? = some s) (hproject : Project.load i.tree s.project = .ok project)
    (hpass : s.redirection.pass project = .ok pass) :
    ∃ p, i.prepare = .ok p ∧ p.settings = s ∧ p.project = project ∧ p.pass = pass := by
  obtain ⟨⟨compiler, hfind⟩, color, notices, hprepare⟩ := prepare_of_settings? hsettings
  rw [hprepare, prepareWith, hfind]
  simp only [Settings.loadProject_of_ok hproject, hpass]
  exact ⟨_, rfl, rfl, rfl, rfl⟩

/-! ## One compilation -/

/-- A run without its project stops: it prints nothing and writes nothing. -/
theorem runOnce_of_unreadable {s : Settings} {e : SetupError} (hsettings : i.settings? = some s)
    (hproject : Project.load i.tree s.project = .error e) :
    ∃ notices, i.runOnce = ⟨1, "", notices, i.tree⟩ := by
  obtain ⟨⟨compiler, hfind⟩, color, notices, hprepare⟩ := prepare_of_settings? hsettings
  rw [runOnce, hprepare, prepareWith, hfind]
  simp only [Settings.loadProject_of_error hproject]
  exact ⟨_, rfl⟩

end Invocation

namespace Prepared

/-- What writing the outputs of a prepared run does. -/
def written (p : Prepared) : EmissionResult FileTree :=
  (Program.ofProject p.tree p.project).writeOutputs p.tree [p.pass]

/-- The diagnostics of a prepared run. -/
def records (p : Prepared) : List Diagnostic :=
  (Program.ofProject p.tree p.project).allDiagnostics p.written

/-- A prepared run prints its diagnostics and never fails. -/
theorem runOnce_eq (p : Prepared) :
    p.runOnce =
      ⟨0, ((p.display.printAll p.records).2.conclude p.records.length).output, p.notices,
        p.written.tree p.tree⟩ := rfl

end Prepared

/-- The diagnostics that a run prints. One that stops has none. -/
def Invocation.reported (i : Invocation) : List Diagnostic :=
  match i.prepare with
  | .error _ => []
  | .ok p => p.records

end QuietEmit
