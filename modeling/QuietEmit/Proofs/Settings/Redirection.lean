/-
  QuietEmit.Proofs.Settings.Redirection

  The pass that settings give for a project. Settings that keep the rules and a project
  that was loaded pass every check of the options (`RedirectionSettings.pass_eq`), so the
  alias table alone can be at fault, by the first pattern that cannot be compiled
  (`checked_settings_give_pass`).
-/
import QuietEmit.Proofs.Project.Loaded
import QuietEmit.Proofs.Path.Bytes
import QuietEmit.Settings.Redirection

namespace QuietEmit

variable {tree : FileTree} {config : Path} {project : Project}

/-! ## The alias table -/

/-- A rule is the entry of the settings, with its pattern compiled. -/
structure Alias.Compiles (entry : AliasSetting) (rule : Alias) : Prop where
  pattern : rule.pattern = entry.pattern
  replacement : rule.replacement = entry.replacement
  regex : Regex.compile entry.pattern = .ok rule.regex

theorem Alias.compile_eq_ok_iff {entry : AliasSetting} {rule : Alias} :
    Alias.compile entry.pattern entry.replacement = .ok rule ↔ Alias.Compiles entry rule := by
  rw [Alias.compile]
  constructor
  · intro h
    split at h
    · next regex hregex =>
        obtain rfl := Except.ok.inj h
        exact ⟨rfl, rfl, hregex⟩
    · cases h
  · rintro ⟨hpattern, hreplacement, hregex⟩
    rw [hregex, ← hpattern, ← hreplacement]

theorem Alias.compile_eq_error_iff {pattern replacement : String} {e : AliasError} :
    Alias.compile pattern replacement = .error e ↔
      e.pattern = pattern ∧ Regex.compile pattern = .error e.reason := by
  rw [Alias.compile]
  cases Regex.compile pattern with
  | ok regex => simp
  | error reason =>
      constructor
      · intro h
        obtain rfl := Except.error.inj h
        exact ⟨rfl, rfl⟩
      · rintro ⟨rfl, hreason⟩
        obtain rfl := Except.error.inj hreason
        rfl

/-- An entry is made a rule exactly when its pattern can be compiled. -/
theorem Alias.exists_compile_iff {pattern replacement : String} :
    (∃ rule, Alias.compile pattern replacement = .ok rule) ↔
      ∃ regex, Regex.compile pattern = .ok regex := by
  rw [Alias.compile]
  cases Regex.compile pattern with
  | ok regex => simp
  | error e => simp

namespace RedirectionSettings

variable {s : RedirectionSettings}

/-- An entry has the first pattern, in the order of the table, that cannot be compiled. -/
def FirstFault (aliases : List AliasSetting) (entry : AliasSetting) (reason : Regex.Error) : Prop :=
  ∃ before after, aliases = before ++ entry :: after ∧
    (∀ e ∈ before, ∃ regex, Regex.compile e.pattern = .ok regex) ∧
    Regex.compile entry.pattern = .error reason

/-- The rules of the table are compiled one after the other. -/
theorem aliasTable_eq (s : RedirectionSettings) :
    s.aliasTable = ((s.aliases.mapM fun e => Alias.compile e.pattern e.replacement).map
      AliasTable.mk).mapError fun e => .setup (.ofAlias e) := by
  have hrules : AliasTable.compile (s.aliases.map fun e => (e.pattern, e.replacement)) =
      (s.aliases.mapM fun e => Alias.compile e.pattern e.replacement).map AliasTable.mk := by
    rw [AliasTable.compile, List.mapM_map]
    rfl
  rw [aliasTable, hrules]
  cases s.aliases.mapM fun e => Alias.compile e.pattern e.replacement <;> rfl

theorem aliasTable_eq_ok_iff {table : AliasTable} :
    s.aliasTable = .ok table ↔
      List.Forall₂ Alias.Compiles s.aliases table.rules := by
  have hrules : (s.aliases.mapM fun e => Alias.compile e.pattern e.replacement) = .ok table.rules ↔
      List.Forall₂ Alias.Compiles s.aliases table.rules := by
    rw [mapM_eq_ok_iff]
    simp only [Alias.compile_eq_ok_iff]
  rw [← hrules, aliasTable_eq]
  cases s.aliases.mapM fun e => Alias.compile e.pattern e.replacement with
  | error e => simp [Except.map, Except.mapError]
  | ok rules =>
      cases table
      simp [Except.map, Except.mapError]

/-- A table can be made exactly when each pattern can be compiled. -/
theorem exists_aliasTable_iff :
    (∃ table, s.aliasTable = .ok table) ↔
      ∀ e ∈ s.aliases, ∃ regex, Regex.compile e.pattern = .ok regex := by
  have hrules : (∃ rules, (s.aliases.mapM fun e => Alias.compile e.pattern e.replacement) =
      .ok rules) ↔ ∀ e ∈ s.aliases, ∃ regex, Regex.compile e.pattern = .ok regex := by
    rw [exists_mapM_eq_ok_iff]
    exact forall₂_congr fun e _ => Alias.exists_compile_iff
  rw [← hrules, aliasTable_eq]
  cases s.aliases.mapM fun e => Alias.compile e.pattern e.replacement with
  | ok rules => exact iff_of_true ⟨_, rfl⟩ ⟨rules, rfl⟩
  | error e => simp [Except.map, Except.mapError]

/-- No table can be made where some pattern cannot be compiled, and the first one is told. -/
theorem aliasTable_eq_error_iff {e : RunError} :
    s.aliasTable = .error e ↔ ∃ entry reason, FirstFault s.aliases entry reason ∧
      e = .setup (.invalidAlias entry.pattern (reason.message entry.pattern)) := by
  have hfault : ∀ e', (s.aliases.mapM fun e => Alias.compile e.pattern e.replacement) = .error e' ↔
      ∃ entry, FirstFault s.aliases entry e'.reason ∧ e'.pattern = entry.pattern := by
    intro e'
    rw [mapM_eq_error_iff]
    simp only [Alias.exists_compile_iff, Alias.compile_eq_error_iff]
    constructor
    · rintro ⟨before, entry, after, hsplit, hbefore, hpattern, hreason⟩
      exact ⟨entry, ⟨before, after, hsplit, hbefore, hreason⟩, hpattern⟩
    · rintro ⟨entry, ⟨before, after, hsplit, hbefore, hreason⟩, hpattern⟩
      exact ⟨before, entry, after, hsplit, hbefore, hpattern, hreason⟩
  rw [aliasTable_eq]
  constructor
  · intro h
    cases hrules : s.aliases.mapM fun e => Alias.compile e.pattern e.replacement with
    | ok rules => simp [hrules, Except.map, Except.mapError] at h
    | error e' =>
        obtain ⟨entry, hfirst, hpattern⟩ := (hfault e').mp hrules
        rw [hrules] at h
        obtain rfl := Except.error.inj h
        refine ⟨entry, e'.reason, hfirst, ?_⟩
        rw [← hpattern]
        rfl
  · rintro ⟨entry, reason, hfirst, rfl⟩
    rw [(hfault ⟨entry.pattern, reason⟩).mpr ⟨entry, hfirst, rfl⟩]
    rfl

/-! ## The options of a pass -/

/-- The options that settings give for a project, once the alias table is made. -/
theorem redirection_eq (s : RedirectionSettings) (project : Project) :
    s.redirection project = s.aliasTable.map fun table =>
      ⟨((s.baseFor project).map Path.clean).map OsPath.ofPath, s.project, Option.none, table⟩ := by
  rw [redirection]
  cases s.aliasTable with
  | error e => rfl
  | ok table =>
      cases s.baseFor project with
      | none => cases s.project <;> rfl
      | some base =>
          rw [Option.map_some, Option.map_some, ← OsPath.clean_ofPath]
          cases s.project <;> rfl

/-- The base directory of a loaded project is the one that is set, taken from the root, else that of
the project, in normal form. -/
theorem baseFor_eq (hload : Project.load tree config = .ok project) :
    (s.baseFor project).map Path.clean =
      (s.baseUrl.map fun base => (project.root.join base).clean).or project.options.baseUrl := by
  obtain ⟨-, -, hoptions⟩ := Project.normal_of_load hload
  rw [baseFor]
  cases s.baseUrl with
  | some base => rfl
  | none =>
      -- the base directory of the project is in normal form already
      cases hbase : project.options.baseUrl with
      | none => rfl
      | some base =>
          have hclean : base.clean = base := (hoptions.baseUrl base hbase).clean_eq
          rw [Option.map_none, Option.none_or, Option.map_some, hclean]

theorem isAbsolute_of_baseFor (hload : Project.load tree config = .ok project) {base : Path}
    (h : s.baseFor project = some base) : base.isAbsolute = true := by
  obtain ⟨-, hroot, hoptions⟩ := Project.normal_of_load hload
  rw [baseFor] at h
  cases hgiven : s.baseUrl with
  | none =>
      rw [hgiven] at h
      exact (hoptions.baseUrl base h).absolute
  | some given =>
      rw [hgiven] at h
      obtain rfl := Option.some.inj h
      exact Path.isAbsolute_join hroot.absolute given

/-- Settings that keep the rules have no empty prefix. -/
theorem project_ne_empty (h : s.fault? = Option.none) : s.project ≠ some "" := by
  intro hempty
  rw [fault?, hempty] at h
  cases h

/-- Options from such settings and a loaded project pass their checks. -/
theorem check_redirection (hrules : s.fault? = Option.none)
    (hload : Project.load tree config = .ok project) {c : Redirection}
    (h : s.redirection project = .ok c) : c.check = .ok () := by
  rw [redirection_eq] at h
  cases htable : s.aliasTable with
  | error e =>
      rw [htable] at h
      cases h
  | ok table =>
      rw [htable] at h
      obtain rfl := Except.ok.inj h
      have habsolute : (((s.baseFor project).map Path.clean).map OsPath.ofPath).filter
          (!·.isAbsolute) = Option.none := by
        rw [Option.filter_eq_none_iff]
        intro base hbase
        obtain ⟨clean, hclean, rfl⟩ := Option.map_eq_some_iff.mp hbase
        obtain ⟨given, hgiven, rfl⟩ := Option.map_eq_some_iff.mp hclean
        have habs := FileTree.isAbsolute_clean (isAbsolute_of_baseFor hload hgiven)
        simp [habs]
      have hnonempty : (s.project == some "") = false :=
        beq_eq_false_iff_ne.mpr (project_ne_empty hrules)
      rw [Redirection.check]
      simp only
      rw [habsolute, hnonempty]
      rfl

/-- So the pass is what the alias table makes it. -/
theorem pass_eq (hrules : s.fault? = Option.none)
    (hload : Project.load tree config = .ok project) :
    s.pass project = (s.redirection project).map RedirectingPass.mk := by
  rw [pass]
  cases hc : s.redirection project with
  | error e => rfl
  | ok c =>
      show (RedirectingPass.ofRedirection c).mapError RunError.setup = _
      rw [RedirectingPass.ofRedirection, check_redirection hrules hload hc]
      rfl

/-- Settings that keep the rules give a loaded project a pass exactly when each alias pattern can be
compiled. -/
theorem exists_pass_iff (hrules : s.fault? = Option.none)
    (hload : Project.load tree config = .ok project) :
    (∃ pass, s.pass project = .ok pass) ↔
      ∀ e ∈ s.aliases, ∃ regex, Regex.compile e.pattern = .ok regex := by
  rw [pass_eq hrules hload, redirection_eq, ← exists_aliasTable_iff]
  cases s.aliasTable with
  | ok table => exact iff_of_true ⟨_, rfl⟩ ⟨table, rfl⟩
  | error e => simp [Except.map]

/-- The options are those of the settings: all their rules in the order of the table, and the base
directory that is set, taken from the root of the project, else that of the project. -/
structure Yields (s : RedirectionSettings) (project : Project) (c : Redirection) : Prop where
  rules : List.Forall₂ Alias.Compiles s.aliases c.aliases.rules
  baseUrl : c.baseUrl =
    ((s.baseUrl.map fun base => (project.root.join base).clean).or project.options.baseUrl).map OsPath.ofPath
  project : c.project = s.project
  hook : c.hook = Option.none

/-- What a pass is made of. -/
theorem Yields.of_pass (hrules : s.fault? = Option.none)
    (hload : Project.load tree config = .ok project) {pass : RedirectingPass}
    (h : s.pass project = .ok pass) :
    s.Yields project pass.redirection := by
  rw [pass_eq hrules hload, redirection_eq] at h
  cases htable : s.aliasTable with
  | error e =>
      rw [htable] at h
      cases h
  | ok table =>
      rw [htable] at h
      obtain rfl := Except.ok.inj h
      exact ⟨aliasTable_eq_ok_iff.mp htable, congrArg (Option.map OsPath.ofPath) (baseFor_eq hload),
        rfl, rfl⟩

/-- Without a pass, some pattern cannot be compiled. -/
theorem exists_fault_of_pass (hrules : s.fault? = Option.none)
    (hload : Project.load tree config = .ok project) {e : RunError} (h : s.pass project = .error e) :
    ∃ entry reason, FirstFault s.aliases entry reason ∧
      e = .setup (.invalidAlias entry.pattern (reason.message entry.pattern)) := by
  rw [pass_eq hrules hload, redirection_eq] at h
  cases htable : s.aliasTable with
  | ok table =>
      rw [htable] at h
      cases h
  | error e' =>
      rw [htable] at h
      obtain rfl := Except.error.inj h
      exact aliasTable_eq_error_iff.mp htable

end RedirectionSettings

/-- Settings that pass their own check give each project that was loaded a pass, unless a pattern
cannot be compiled; then the first such pattern in the order of the table is told. The checks of the
options refuse none of them. -/
theorem checked_settings_give_pass {s : RedirectionSettings} (hcheck : s.check = .ok ())
    (hload : Project.load tree config = .ok project) :
    ((∃ pass, s.pass project = .ok pass ∧ s.Yields project pass.redirection) ∨
      ∃ entry reason, RedirectionSettings.FirstFault s.aliases entry reason ∧
        s.pass project =
          .error (.setup (.invalidAlias entry.pattern (reason.message entry.pattern)))) ∧
    ∀ option reason, s.pass project ≠ .error (.setup (.invalidOption option reason)) := by
  have hrules : s.fault? = none := by
    rw [RedirectionSettings.check] at hcheck
    split at hcheck
    · cases hcheck
    · assumption
  cases hpass : s.pass project with
  | ok pass =>
      refine ⟨.inl ⟨pass, rfl, .of_pass hrules hload hpass⟩, ?_⟩
      intro option reason h
      cases h
  | error e =>
      obtain ⟨entry, reason, hfirst, rfl⟩ :=
        RedirectionSettings.exists_fault_of_pass hrules hload hpass
      refine ⟨.inr ⟨entry, reason, hfirst, rfl⟩, ?_⟩
      intro option reason h
      cases h

/-- Settings with a base directory and a prefix. -/
def plainSettings : RedirectionSettings := ⟨some ⟨"./src//"⟩, some "@lib", []⟩

/-- Settings with a prefix, and two patterns that cannot be compiled. -/
def brokenSettings : RedirectionSettings := ⟨none, some "@lib", [⟨"(", "x"⟩, ⟨"[", "y"⟩]⟩

/-- The base directory is taken from that of the project file, and of two bad patterns the first is
told. -/
theorem checked_settings_give_pass_plain :
    (∃ pass, plainSettings.pass spelledProject = .ok pass ∧
      pass.redirection.baseUrl = some (.ofText "/p/src") ∧ pass.redirection.project = some "@lib") ∧
    ∃ reason : Regex.Error, brokenSettings.pass spelledProject =
      .error (.setup (.invalidAlias "(" (reason.message "("))) := by
  have hplain : plainSettings.check = .ok () := eq_ok_of_toOption (by decide +kernel)
  have hbroken : brokenSettings.check = .ok () := eq_ok_of_toOption (by decide +kernel)
  constructor
  · obtain ⟨⟨pass, hpass, hyields⟩ | ⟨entry, reason, hfirst, -⟩, -⟩ :=
      checked_settings_give_pass hplain load_spelled
    · have hbase : (spelledProject.root.join ⟨"./src//"⟩).clean = ⟨"/p/src"⟩ := by decide +kernel
      refine ⟨pass, hpass, ?_, hyields.project⟩
      rw [hyields.baseUrl]
      exact congrArg (fun base => some (OsPath.ofPath base)) hbase
    · -- there is no entry
      obtain ⟨before, after, hsplit, -⟩ := hfirst
      simp [plainSettings] at hsplit
  · have hparen : ∀ regex, Regex.compile "(" ≠ .ok regex := by
      obtain ⟨e, he⟩ : ∃ e, Regex.compile "(" = .error e :=
        exists_error_of_toOption (by decide +kernel)
      intro regex h
      rw [he] at h
      cases h
    obtain ⟨⟨pass, -, hyields⟩ | ⟨entry, reason, hfirst, hpass⟩, -⟩ :=
      checked_settings_give_pass hbroken load_spelled
    · obtain ⟨rule, rules, hrule, -⟩ := List.forall₂_cons_left_iff.mp hyields.rules
      exact absurd hrule.regex (hparen _)
    · -- nothing that can be compiled stands before the first entry
      obtain ⟨before, after, hsplit, hbefore, -⟩ := hfirst
      cases before with
      | nil =>
          obtain rfl := (List.cons.inj hsplit).1
          exact ⟨reason, hpass⟩
      | cons e before =>
          obtain rfl := (List.cons.inj hsplit).1
          obtain ⟨regex, hregex⟩ := hbefore _ List.mem_cons_self
          exact absurd hregex (hparen regex)

end QuietEmit
