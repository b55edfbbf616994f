/-
  QuietEmit.Proofs.CommandLine.Outcome

  When a run that does not watch succeeds. It does exactly when it is `Ready`: its
  settings can be read and keep the rules, the compiler is known, the project file
  is a text, and the alias patterns can be compiled. Nothing else can stop it, since
  settings that keep the rules give each project that was loaded a pass
  (`RedirectionSettings.exists_pass_iff`).

  A run that is not ready ends with code 1 and has touched no file
  (`finishes_with_zero_iff_ready`).
-/
import QuietEmit.Proofs.CommandLine.Run
import QuietEmit.Proofs.FileTree.Location
import QuietEmit.Proofs.Settings.Loading
import QuietEmit.Proofs.Settings.Redirection
import QuietEmit.Watch.Live

namespace QuietEmit

open CommandLine (Arguments)

/-! ## The project file -/

namespace Project

variable {tree : FileTree} {config : Path} {project : Project}

/-- An absolute path names the project file in its normal form. -/
theorem load_of_isAbsolute (h : config.isAbsolute = true) :
    load tree config = match tree.readText config.clean with
      | .ok text => .ok (ofText tree config.clean text)
      | .error e => .error (.unreadable config.clean e) := by
  have hne : config.text.isEmpty = false := by
    cases hempty : config.text.isEmpty with
    | false => rfl
    | true => simp [Path.isAbsolute, String.isEmpty_iff.mp hempty] at h
  have habsolute : tree.absolute config = .ok config := by
    rw [FileTree.absolute, if_neg (by simp [hne]), Path.join, if_pos h]
  rw [load, habsolute]
  rfl

/-- A project can be loaded exactly when its file is a text. -/
theorem exists_load_iff (h : config.isAbsolute = true) :
    (∃ project, load tree config = .ok project) ↔
      ∃ text, tree.readText config.clean = .ok text := by
  rw [load_of_isAbsolute h]
  cases tree.readText config.clean with
  | ok text => simp
  | error e => simp

end Project

/-! ## The run -/

namespace Invocation

/-- Nothing stops the run with these arguments and settings. -/
structure Ready (i : Invocation) (a : Arguments) (s : Settings) : Prop where
  gathered : Settings.gather i.tree i.tree.workingPath i.environment a = .ok s
  compiler : ∃ compiler, Compiler.find s.compiler = .ok compiler
  rules : s.redirection.fault? = none
  readable : ∃ text, i.tree.readText s.project.clean = .ok text
  patterns : ∀ e ∈ s.redirection.aliases, ∃ regex, Regex.compile e.pattern = .ok regex

variable {i : Invocation} {a : Arguments}

/-- The settings of a run whose arguments were read. -/
theorem settings?_eq_some_iff {s : Settings} (hread : Arguments.read i.arguments = .ok a) :
    i.settings? = some s ↔ Settings.load i.tree i.tree.workingPath i.environment a = .ok s := by
  rw [settings?, hread]
  dsimp only
  cases Settings.load i.tree i.tree.workingPath i.environment a with
  | ok loaded => simp [Except.toOption]
  | error e => simp [Except.toOption]

/-- A run is prepared exactly when it is ready. -/
theorem exists_prepare_iff (hread : Arguments.read i.arguments = .ok a) :
    (∃ p, i.prepare = .ok p) ↔ ∃ s, i.Ready a s := by
  constructor
  · rintro ⟨p, hp⟩
    obtain ⟨hsettings, -, hproject, hpass⟩ := prepare_eq_ok hp
    obtain ⟨hgather, hcheck⟩ :=
      Settings.load_eq_ok_iff.mp ((settings?_eq_some_iff hread).mp hsettings)
    obtain ⟨hcompiler, hrules⟩ := Settings.check_eq_ok_iff.mp hcheck
    have habsolute :=
      Settings.isAbsolute_of_gather (FileTree.isAbsolute_pathOf i.tree.workingDir) hgather
    exact ⟨p.settings, hgather, hcompiler, hrules,
      (Project.exists_load_iff habsolute).mp ⟨p.project, hproject⟩,
      (RedirectionSettings.exists_pass_iff hrules hproject).mp ⟨p.pass, hpass⟩⟩
  · rintro ⟨s, hready⟩
    have habsolute :=
      Settings.isAbsolute_of_gather (FileTree.isAbsolute_pathOf i.tree.workingDir) hready.gathered
    have hsettings : i.settings? = some s := by
      have hcheck := Settings.check_eq_ok_iff.mpr ⟨hready.compiler, hready.rules⟩
      exact (settings?_eq_some_iff hread).mpr
        (Settings.load_eq_ok_iff.mpr ⟨hready.gathered, hcheck⟩)
    obtain ⟨project, hproject⟩ := (Project.exists_load_iff habsolute).mpr hready.readable
    obtain ⟨pass, hpass⟩ :=
      (RedirectionSettings.exists_pass_iff hready.rules hproject).mpr hready.patterns
    obtain ⟨p, hp, -⟩ := exists_prepare hsettings hproject hpass
    exact ⟨p, hp⟩

/-- Each step of preparation stops a run with code 1 and all files as they were. -/
theorem stopped_of_prepareWith {color : Bool} {notices : String} {s : Settings} {f : Finished}
    (h : i.prepareWith color notices s = .error f) : f.code = 1 ∧ f.tree = i.tree := by
  rw [prepareWith] at h
  cases hfind : Compiler.find s.compiler with
  | error e =>
      rw [hfind] at h
      obtain rfl := Except.error.inj h
      exact ⟨rfl, rfl⟩
  | ok compiler =>
      rw [hfind] at h
      dsimp only at h
      cases hproject : s.loadProject i.tree with
      | error e =>
          rw [hproject] at h
          obtain rfl := Except.error.inj h
          exact ⟨rfl, rfl⟩
      | ok project =>
          rw [hproject] at h
          dsimp only at h
          cases hpass : s.redirection.pass project with
          | error e =>
              rw [hpass] at h
              obtain rfl := Except.error.inj h
              exact ⟨rfl, rfl⟩
          | ok pass =>
              rw [hpass] at h
              cases h

/-- What stops a run whose arguments were read leaves code 1 and all files as they were. -/
theorem stopped_of_prepare {f : Finished} (hread : Arguments.read i.arguments = .ok a)
    (h : i.prepare = .error f) : f.code = 1 ∧ f.tree = i.tree := by
  rw [prepare, hread] at h
  dsimp only at h
  cases hload : Settings.load i.tree i.tree.workingPath i.environment a with
  | error e =>
      rw [hload] at h
      obtain rfl := Except.error.inj h
      exact ⟨rfl, rfl⟩
  | ok s =>
      rw [hload] at h
      exact stopped_of_prepareWith h

end Invocation

/-- A run that does not watch ends with code 0 exactly when it is ready, whatever is diagnosed in
its project; any other ends with code 1 and has left all files as they were. -/
theorem finishes_with_zero_iff_ready {i : Invocation} {a : Arguments}
    (hread : Arguments.read i.arguments = .ok a)
    (hoff : ∀ s, Settings.load i.tree i.tree.workingPath i.environment a = .ok s →
      s.watch = false) :
    ∃ f, i.outcome = .finished f ∧ (f.code = 0 ↔ ∃ s, i.Ready a s) ∧
      ((¬ ∃ s, i.Ready a s) → f.code = 1 ∧ f.tree = i.tree) := by
  rw [← Invocation.exists_prepare_iff hread, Invocation.outcome]
  cases hprepare : i.prepare with
  | error f =>
      obtain ⟨hcode, htree⟩ := Invocation.stopped_of_prepare hread hprepare
      exact ⟨f, rfl, by simp [hcode], fun _ => ⟨hcode, htree⟩⟩
  | ok p =>
      have hwatch : p.settings.watch = false := by
        obtain ⟨hsettings, -⟩ := Invocation.prepare_eq_ok hprepare
        exact hoff p.settings ((Invocation.settings?_eq_some_iff hread).mp hsettings)
      refine ⟨p.runOnce, by simp [hwatch], ?_, fun hnone => absurd ⟨p, rfl⟩ hnone⟩
      exact iff_of_true (by rw [Prepared.runOnce_eq]) ⟨p, rfl⟩

/-- A run in the directory `/p` on a malformed project file. -/
def malformedRun (environment : List (String × String)) : Invocation where
  tree := ⟨[(["p"], .dir), (["p", "tsconfig.json"], .file "[".toUTF8)], ["p"]⟩
  environment
  arguments := ["--compiler", "OXC"]

/-- The settings of the run. -/
def malformedSettings (redirection : RedirectionSettings) : Settings :=
  ⟨⟨"/p/tsconfig.json"⟩, "OXC", false, redirection⟩

/-- A run on a malformed project file is ready, and one with an alias that is no pattern is not. -/
theorem finishes_with_zero_iff_ready_malformed :
    (∃ f, (malformedRun [("HUSH_REWRITE__PROJECT", "@lib")]).outcome = .finished f ∧
        f.code = 0) ∧
      ∃ f, (malformedRun [("HUSH_REWRITE__ALIAS",
          "[\x7bpattern=\"(\", replacement=\"./x\"\x7d]")]).outcome = .finished f ∧
        f.code = 1 ∧ f.tree = (malformedRun []).tree := by
  have hread : Arguments.read ["--compiler", "OXC"] = .ok { compiler := some "OXC" } :=
    eq_ok_of_toOption (by decide +kernel)
  -- without `watch` in the settings that are gathered, the run does not watch
  have hoff : ∀ (i : Invocation) (r : RedirectionSettings),
      Settings.gather i.tree i.tree.workingPath i.environment { compiler := some "OXC" } =
        .ok (malformedSettings r) →
      ∀ s, Settings.load i.tree i.tree.workingPath i.environment { compiler := some "OXC" } =
        .ok s → s.watch = false := by
    intro i r hgather s hs
    rw [(Settings.load_eq_ok_iff.mp hs).1] at hgather
    rw [Except.ok.inj hgather]
    rfl
  constructor
  · let i := malformedRun [("HUSH_REWRITE__PROJECT", "@lib")]
    let r : RedirectionSettings := ⟨none, some "@lib", []⟩
    have hgather : Settings.gather i.tree i.tree.workingPath i.environment
        { compiler := some "OXC" } = .ok (malformedSettings r) :=
      eq_ok_of_toOption (by decide +kernel)
    have hready : i.Ready { compiler := some "OXC" } (malformedSettings r) :=
      { gathered := hgather
        compiler := ⟨.standard, eq_ok_of_toOption (by decide +kernel)⟩
        rules := by decide +kernel
        readable := ⟨"[", eq_ok_of_toOption (by decide +kernel)⟩
        patterns := fun e he => absurd he List.not_mem_nil }
    obtain ⟨f, hf, hcode, -⟩ := finishes_with_zero_iff_ready hread (hoff i r hgather)
    exact ⟨f, hf, hcode.mpr ⟨_, hready⟩⟩
  · let i := malformedRun [("HUSH_REWRITE__ALIAS",
      "[\x7bpattern=\"(\", replacement=\"./x\"\x7d]")]
    let r : RedirectionSettings := ⟨none, none, [⟨"(", "./x"⟩]⟩
    have hgather : Settings.gather i.tree i.tree.workingPath i.environment
        { compiler := some "OXC" } = .ok (malformedSettings r) :=
      eq_ok_of_toOption (by decide +kernel)
    have hunready : ¬ ∃ s, i.Ready { compiler := some "OXC" } s := by
      rintro ⟨s, hready⟩
      obtain rfl := Except.ok.inj (hgather.symm.trans hready.gathered)
      obtain ⟨regex, hregex⟩ := hready.patterns ⟨"(", "./x"⟩ (List.mem_singleton_self _)
      have hcompile : ∃ e, Regex.compile "(" = .error e :=
        exists_error_of_toOption (by decide +kernel)
      obtain ⟨e, he⟩ := hcompile
      rw [he] at hregex
      cases hregex
    obtain ⟨f, hf, -, hstopped⟩ := finishes_with_zero_iff_ready hread (hoff i r hgather)
    exact ⟨f, hf, hstopped hunready⟩

end QuietEmit
