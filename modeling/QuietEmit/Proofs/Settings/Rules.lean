/-
  QuietEmit.Proofs.Settings.Rules

  The rules for redirecting settings, and the check of them. `WellFormed` says what
  settings have to satisfy, without an order, and `FirstBroken` which rule is the
  first one that they break, with the whole error for it. The check accepts exactly
  the first and reports exactly the second (`check_reports_first_broken`).

  The aliases are checked in one go with the patterns seen so far. What the entries
  passed over have kept (`KeptAfter`) ties these patterns to the entries themselves.
-/
import QuietEmit.Settings.Basic

namespace QuietEmit

/-! ## The rules -/

/-- What is wrong with an entry of the alias table after entries with these patterns. An empty
pattern counts as such even where an earlier one is empty, too. -/
inductive AliasSetting.FaultAfter (earlier : List String) (entry : AliasSetting) :
    SettingsError → Prop
  | empty (h : entry.pattern = "") :
      FaultAfter earlier entry (.invalidValue "rewrite.alias.pattern" "\"\""
        "Alias patterns must match something, e.g. \"^@app/\"")
  | repeated (hne : entry.pattern ≠ "") (h : entry.pattern ∈ earlier) :
      FaultAfter earlier entry (.invalidValue "rewrite.alias.pattern" entry.pattern
        "Each alias pattern may appear only once; the first match always wins")

/-- Entries of the alias table that keep the rules after entries with these patterns. -/
structure AliasSetting.KeptAfter (earlier : List String) (entries : List AliasSetting) : Prop where
  nonempty : ∀ entry ∈ entries, entry.pattern ≠ ""
  fresh : ∀ entry ∈ entries, entry.pattern ∉ earlier
  distinct : entries.Pairwise fun a b => a.pattern ≠ b.pattern

namespace RedirectionSettings

/-- The text for the base directory, if there is one, says something. -/
def ProjectKept (s : RedirectionSettings) : Prop :=
  ∀ text, s.project = some text → ∃ c ∈ text.toList, Unicode.isBlank c = false

/-- The base directory, if there is one, has a path. -/
def BaseUrlKept (s : RedirectionSettings) : Prop :=
  ∀ base, s.baseUrl = some base → base.text ≠ ""

/-- Settings that keep all rules. -/
structure WellFormed (s : RedirectionSettings) : Prop where
  project : s.ProjectKept
  baseUrl : s.BaseUrlKept
  patterns : ∀ entry ∈ s.aliases, entry.pattern ≠ ""
  distinct : s.aliases.Pairwise fun a b => a.pattern ≠ b.pattern

/-- The first rule that settings break: those for `project` come before those for the base
directory, these before those for the aliases, and an entry before the ones behind it. -/
inductive FirstBroken (s : RedirectionSettings) : SettingsError → Prop
  | project {text : String} (h : s.project = some text)
      (hblank : ∀ c ∈ text.toList, Unicode.isBlank c = true) :
      FirstBroken s (.invalidValue "rewrite.project" (Text.debugQuoted text)
        "Use a non-empty prefix such as \"@lib\"")
  | baseUrl {base : Path} (hproject : s.ProjectKept) (h : s.baseUrl = some base)
      (hempty : base.text = "") :
      FirstBroken s (.invalidValue "rewrite.base_url" "\"\""
        "Remove the key to use compilerOptions.baseUrl")
  | aliases {before after : List AliasSetting} {entry : AliasSetting} {e : SettingsError}
      (hproject : s.ProjectKept) (hbase : s.BaseUrlKept)
      (hsplit : s.aliases = before ++ entry :: after) (hbefore : AliasSetting.KeptAfter [] before)
      (hentry : AliasSetting.FaultAfter (before.map (·.pattern)) entry e) :
      FirstBroken s e

end RedirectionSettings

/-! ## The alias table -/

namespace AliasSetting

variable {seen earlier : List String} {entry : AliasSetting} {entries rest : List AliasSetting}
  {e : SettingsError}

theorem keptAfter_nil : KeptAfter earlier [] :=
  ⟨by simp, by simp, .nil⟩

/-- Entries keep the rules when the first one does and the others do behind it. -/
theorem keptAfter_cons :
    KeptAfter earlier (entry :: rest) ↔
      entry.pattern ≠ "" ∧ entry.pattern ∉ earlier ∧ KeptAfter (entry.pattern :: earlier) rest := by
  constructor
  · rintro ⟨hnonempty, hfresh, hdistinct⟩
    obtain ⟨hhead, hrest⟩ := List.pairwise_cons.mp hdistinct
    have hlater : ∀ other ∈ rest, other.pattern ∉ entry.pattern :: earlier := fun other h =>
      List.not_mem_cons_of_ne_of_not_mem (Ne.symm (hhead other h))
        (hfresh other (List.mem_cons_of_mem _ h))
    exact ⟨hnonempty entry List.mem_cons_self, hfresh entry List.mem_cons_self,
      fun other h => hnonempty other (List.mem_cons_of_mem _ h), hlater, hrest⟩
  · rintro ⟨hentry, hnew, hnonempty, hfresh, hdistinct⟩
    refine ⟨List.forall_mem_cons.mpr ⟨hentry, hnonempty⟩,
      List.forall_mem_cons.mpr ⟨hnew, fun other h => ?_⟩,
      List.pairwise_cons.mpr ⟨fun other h => ?_, hdistinct⟩⟩
    · exact fun hold => hfresh other h (List.mem_cons_of_mem _ hold)
    · exact fun heq => hfresh other h (heq ▸ List.mem_cons_self)

/-- An entry has a fault or is passed over. -/
theorem aliasFault?_cons_of_fault (h : FaultAfter seen entry e) :
    aliasFault? seen (entry :: rest) = some e := by
  cases h with
  | empty h => rw [aliasFault?, if_pos (by simp [h])]
  | repeated hne h => rw [aliasFault?, if_neg (by simpa using hne), if_pos (by simpa using h)]

theorem aliasFault?_cons_of_kept (hne : entry.pattern ≠ "") (hnew : entry.pattern ∉ seen) :
    aliasFault? seen (entry :: rest) = aliasFault? (entry.pattern :: seen) rest := by
  rw [aliasFault?, if_neg (by simpa using hne), if_neg (by simpa using hnew)]

/-- An entry that does not keep the rules has a fault. -/
theorem exists_faultAfter (h : ¬ (entry.pattern ≠ "" ∧ entry.pattern ∉ earlier)) :
    ∃ e, FaultAfter earlier entry e := by
  by_cases hempty : entry.pattern = ""
  · exact ⟨_, .empty hempty⟩
  · exact ⟨_, .repeated hempty (Decidable.not_not.mp fun hnew => h ⟨hempty, hnew⟩)⟩

/-- Which patterns come before an entry counts, and not their order. -/
theorem FaultAfter.of_mem_iff (hmem : ∀ p, p ∈ seen ↔ p ∈ earlier)
    (h : FaultAfter seen entry e) : FaultAfter earlier entry e := by
  cases h with
  | empty h => exact .empty h
  | repeated hne h => exact .repeated hne ((hmem _).mp h)

/-- Nothing is found exactly in entries that keep the rules. -/
theorem aliasFault?_eq_none_iff : aliasFault? seen entries = none ↔ KeptAfter seen entries := by
  induction entries generalizing seen with
  | nil => exact iff_of_true rfl keptAfter_nil
  | cons entry rest ih =>
      rw [keptAfter_cons]
      by_cases hkept : entry.pattern ≠ "" ∧ entry.pattern ∉ seen
      · rw [aliasFault?_cons_of_kept hkept.1 hkept.2, ih]
        exact ⟨fun h => ⟨hkept.1, hkept.2, h⟩, fun h => h.2.2⟩
      · obtain ⟨e, hfault⟩ := exists_faultAfter hkept
        rw [aliasFault?_cons_of_fault hfault]
        exact iff_of_false (by simp) fun h => hkept ⟨h.1, h.2.1⟩

/-- A fault is found at the first entry that has one. The patterns seen there are those of the
entries passed over, the last one first, and the ones there were before. -/
theorem aliasFault?_eq_some_iff :
    aliasFault? seen entries = some e ↔ ∃ before entry after, entries = before ++ entry :: after ∧
      KeptAfter seen before ∧ FaultAfter ((before.map (·.pattern)).reverse ++ seen) entry e := by
  constructor
  · intro h
    induction entries generalizing seen with
    | nil => cases h
    | cons entry rest ih =>
        by_cases hkept : entry.pattern ≠ "" ∧ entry.pattern ∉ seen
        · rw [aliasFault?_cons_of_kept hkept.1 hkept.2] at h
          obtain ⟨before, other, after, rfl, hbefore, hother⟩ := ih h
          exact ⟨entry :: before, other, after, rfl,
            keptAfter_cons.mpr ⟨hkept.1, hkept.2, hbefore⟩, by simpa using hother⟩
        · obtain ⟨e', hfault⟩ := exists_faultAfter hkept
          rw [aliasFault?_cons_of_fault hfault] at h
          obtain rfl := Option.some.inj h
          exact ⟨[], entry, rest, rfl, keptAfter_nil, hfault⟩
  · rintro ⟨before, entry, after, rfl, hbefore, hentry⟩
    induction before generalizing seen with
    | nil => exact aliasFault?_cons_of_fault hentry
    | cons first before ih =>
        obtain ⟨hne, hnew, hrest⟩ := keptAfter_cons.mp hbefore
        rw [List.cons_append, aliasFault?_cons_of_kept hne hnew]
        exact ih hrest (by simpa using hentry)

end AliasSetting

/-! ## The check -/

namespace RedirectionSettings

variable {s : RedirectionSettings} {e : SettingsError}

/-- The text for the base directory is blank, or it keeps its rule. -/
theorem filter_project_eq_some_iff {text : String} :
    s.project.filter isBlankText = some text ↔
      s.project = some text ∧ ∀ c ∈ text.toList, Unicode.isBlank c = true := by
  rw [Option.filter_eq_some_iff, isBlankText, List.all_eq_true]

theorem filter_project_eq_none_iff :
    s.project.filter isBlankText = Option.none ↔ s.ProjectKept := by
  simp [Option.filter_eq_none_iff, ProjectKept, isBlankText]

theorem baseUrl_ne_empty_iff : s.baseUrl ≠ some ⟨""⟩ ↔ s.BaseUrlKept := by
  constructor
  · rintro h ⟨text⟩ hbase rfl
    exact h hbase
  · exact fun h hbase => h _ hbase rfl

/-- The aliases are checked after the others, and only if these are kept. -/
theorem fault?_of_kept (hproject : s.ProjectKept) (hbase : s.BaseUrlKept) :
    s.fault? = aliasFault? [] s.aliases := by
  rw [fault?, filter_project_eq_none_iff.mpr hproject]
  exact if_neg (by simpa using baseUrl_ne_empty_iff.mpr hbase)

theorem wellFormed_iff :
    s.WellFormed ↔ s.ProjectKept ∧ s.BaseUrlKept ∧ AliasSetting.KeptAfter [] s.aliases :=
  ⟨fun h => ⟨h.project, h.baseUrl, h.patterns, by simp, h.distinct⟩,
    fun h => ⟨h.1, h.2.1, h.2.2.nonempty, h.2.2.distinct⟩⟩

/-- What is found to be broken is the first rule that is. -/
theorem fault?_eq_some_iff : s.fault? = some e ↔ s.FirstBroken e := by
  constructor
  · intro h
    by_cases hproject : s.ProjectKept
    · by_cases hbase : s.BaseUrlKept
      · rw [fault?_of_kept hproject hbase] at h
        obtain ⟨before, entry, after, hsplit, hbefore, hentry⟩ :=
          AliasSetting.aliasFault?_eq_some_iff.mp h
        exact .aliases hproject hbase hsplit hbefore (hentry.of_mem_iff (by simp))
      · have hempty : s.baseUrl = some ⟨""⟩ :=
          Decidable.not_not.mp fun hne => hbase (baseUrl_ne_empty_iff.mp hne)
        rw [fault?, filter_project_eq_none_iff.mpr hproject, if_pos (by simp [hempty])] at h
        obtain rfl := Option.some.inj h
        exact .baseUrl hproject hempty rfl
    · obtain ⟨text, htext⟩ :=
        Option.ne_none_iff_exists'.mp (mt filter_project_eq_none_iff.mp hproject)
      rw [fault?, htext] at h
      obtain rfl := Option.some.inj h
      obtain ⟨hsome, hblank⟩ := filter_project_eq_some_iff.mp htext
      exact .project hsome hblank
  · intro h
    cases h with
    | project h hblank => rw [fault?, filter_project_eq_some_iff.mpr ⟨h, hblank⟩]
    | @baseUrl base hproject h hempty =>
        obtain ⟨text⟩ := base
        obtain rfl : text = "" := hempty
        rw [fault?, filter_project_eq_none_iff.mpr hproject, if_pos (by simp [h])]
    | aliases hproject hbase hsplit hbefore hentry =>
        rw [fault?_of_kept hproject hbase, AliasSetting.aliasFault?_eq_some_iff]
        exact ⟨_, _, _, hsplit, hbefore, hentry.of_mem_iff (by simp)⟩

/-- Nothing is found exactly where all rules are kept. -/
theorem fault?_eq_none_iff : s.fault? = Option.none ↔ s.WellFormed := by
  rw [wellFormed_iff]
  constructor
  · intro h
    have hnot : ∀ e, ¬ s.FirstBroken e := fun e hbroken => by
      rw [fault?_eq_some_iff.mpr hbroken] at h
      cases h
    have hproject : s.ProjectKept := filter_project_eq_none_iff.mp <| by
      rw [Option.eq_none_iff_forall_ne_some]
      intro text htext
      obtain ⟨hsome, hblank⟩ := filter_project_eq_some_iff.mp htext
      exact hnot _ (.project hsome hblank)
    have hbase : s.BaseUrlKept := fun base hsome hempty =>
      hnot _ (.baseUrl hproject hsome hempty)
    rw [fault?_of_kept hproject hbase, AliasSetting.aliasFault?_eq_none_iff] at h
    exact ⟨hproject, hbase, h⟩
  · rintro ⟨hproject, hbase, haliases⟩
    rw [fault?_of_kept hproject hbase, AliasSetting.aliasFault?_eq_none_iff]
    exact haliases

/-- Redirecting settings are accepted exactly when they keep all rules, and otherwise the error is
the one for the first rule that they break. -/
theorem check_reports_first_broken (s : RedirectionSettings) :
    (s.check = .ok () ↔ s.WellFormed) ∧
    ∀ e, s.check = .error e ↔ ∃ broken, e = .settings broken ∧ s.FirstBroken broken := by
  simp only [← fault?_eq_none_iff, ← fault?_eq_some_iff]
  rw [check]
  cases s.fault? with
  | none => simp
  | some broken => simp [eq_comm]

-- The repeated pattern is reported, as it comes before the empty one.
example : fault? ⟨.none, some "@lib", [⟨"^@/", "a"⟩, ⟨"^@/", "b"⟩, ⟨"", "c"⟩]⟩ =
    some (.invalidValue "rewrite.alias.pattern" "^@/"
      "Each alias pattern may appear only once; the first match always wins") := by
  decide

end RedirectionSettings

end QuietEmit
