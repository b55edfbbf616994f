/-
  QuietEmit.Proofs.Settings.Written

  Settings that survive their JSON form. What is written are members that the shapes fit;
  for the redirecting settings only what is present is a member. What is left out keeps
  the value that the reader starts from (`RedirectionSettings.reads_toJson`). Settings are
  read starting from no redirecting, so they come back as they were
  (`settings_survive_json`).
-/
import QuietEmit.Settings.Basic
import QuietEmit.Proofs.Json.Members

namespace QuietEmit

open Json Json.Reader

/-! ## Aliases -/

namespace AliasSetting

/-- The members of an alias. -/
def members (e : AliasSetting) : List (Member AliasSetting) :=
  [⟨"pattern", quoted e.pattern, fun f => { f with pattern := e.pattern }⟩,
    ⟨"replacement", quoted e.replacement, fun f => { f with replacement := e.replacement }⟩]

theorem fits_of_mem_members {e : AliasSetting} {m : Member AliasSetting} (h : m ∈ e.members) :
    shape.Fits m := by
  simp only [members, List.mem_cons, List.not_mem_nil, or_false] at h
  rcases h with rfl | rfl
  · exact .of_reads (fun text (f : AliasSetting) => { f with pattern := text }) rfl
      (reads_text _ e.pattern)
  · exact .of_reads (fun text (f : AliasSetting) => { f with replacement := text }) rfl
      (reads_text _ e.replacement)

/-- An alias is read back, whatever the reader starts from. -/
theorem reads_toJson (e initial : AliasSetting) : Reads (shape.read initial) e.toJson.toList e := by
  have hkeys : e.members.map (·.key) = ["pattern", "replacement"] := rfl
  refine Shape.reads_object (fun _ => fits_of_mem_members) ?_ ?_ initial
  · rw [hkeys]
    decide
  · simp [shape, hkeys]

theorem beginsElement_toJson (e : AliasSetting) : BeginsElement e.toJson.toList :=
  ⟨'\x7b', _, Member.toList_object e.members, by decide, by decide⟩

/-- A table of aliases is read back, in the same order. -/
theorem reads_table (table : List AliasSetting) :
    Reads (list (shape.read ⟨"", ""⟩)) (array (table.map (·.toJson))).toList table :=
  reads_list (fun e _ => e.reads_toJson _) fun e _ => e.beginsElement_toJson

end AliasSetting

/-! ## Redirecting settings -/

namespace RedirectionSettings

/-- A base directory as a member. -/
def baseMember (base : Path) : Member RedirectionSettings :=
  ⟨"base_url", quoted base.text, fun s => { s with baseUrl := some base }⟩

/-- A project as a member. -/
def projectMember (project : String) : Member RedirectionSettings :=
  ⟨"project", quoted project, fun s => { s with project := some project }⟩

/-- A table of aliases as a member. -/
def aliasMember (table : List AliasSetting) : Member RedirectionSettings :=
  ⟨"alias", array (table.map (·.toJson)), fun s => { s with aliases := table }⟩

/-- The members for what is present. -/
def members (s : RedirectionSettings) : List (Member RedirectionSettings) :=
  (s.baseUrl.map baseMember).toList ++ (s.project.map projectMember).toList ++
    (if s.aliases.isEmpty then [] else [aliasMember s.aliases])

/-- The keys of what is present. -/
def presentKeys (s : RedirectionSettings) : List String :=
  (if s.baseUrl.isSome then ["base_url"] else []) ++
    (if s.project.isSome then ["project"] else []) ++
    (if s.aliases.isEmpty then [] else ["alias"])

/-- The settings with what is absent taken from those below. -/
def filledFrom (s below : RedirectionSettings) : RedirectionSettings where
  baseUrl := s.baseUrl.or below.baseUrl
  project := s.project.or below.project
  aliases := if s.aliases.isEmpty then below.aliases else s.aliases

@[simp] theorem filledFrom_none (s : RedirectionSettings) : s.filledFrom none = s := by
  rcases s with ⟨baseUrl, project, aliases⟩
  cases aliases
  all_goals simp [filledFrom, none]

theorem fits_baseMember (base : Path) : shape.Fits (baseMember base) :=
  .of_reads (fun text (s : RedirectionSettings) => { s with baseUrl := text.map Path.mk }) rfl
    (reads_optional_text "path string" (some base.text))

theorem fits_projectMember (project : String) : shape.Fits (projectMember project) :=
  .of_reads (fun text (s : RedirectionSettings) => { s with project := text }) rfl
    (reads_optional_text "a string" (some project))

theorem fits_aliasMember (table : List AliasSetting) : shape.Fits (aliasMember table) :=
  .of_reads (fun table (s : RedirectionSettings) => { s with aliases := table }) rfl
    (AliasSetting.reads_table table)

theorem fits_of_mem_members {s : RedirectionSettings} {m : Member RedirectionSettings}
    (h : m ∈ s.members) : shape.Fits m := by
  simp only [members, List.mem_append, Option.mem_toList, Option.map_eq_some_iff] at h
  rcases h with (⟨base, -, rfl⟩ | ⟨project, -, rfl⟩) | halias
  · exact fits_baseMember base
  · exact fits_projectMember project
  · split at halias
    · cases halias
    · obtain rfl := List.mem_singleton.mp halias
      exact fits_aliasMember s.aliases

/-- What is written is what is present. -/
theorem toJson_eq (s : RedirectionSettings) : s.toJson = Member.object s.members := by
  rcases s with ⟨baseUrl, project, aliases⟩
  cases baseUrl
  all_goals cases project
  all_goals cases aliases
  all_goals rfl

theorem keys_members (s : RedirectionSettings) : s.members.map (·.key) = s.presentKeys := by
  rcases s with ⟨baseUrl, project, aliases⟩
  cases baseUrl
  all_goals cases project
  all_goals cases aliases
  all_goals rfl

theorem nodup_presentKeys (s : RedirectionSettings) : s.presentKeys.Nodup := by
  unfold presentKeys
  generalize s.baseUrl.isSome = withBase
  generalize s.project.isSome = withProject
  generalize s.aliases.isEmpty = withoutAliases
  revert withBase withProject withoutAliases
  decide

/-- Each member sets what it stands for, and nothing else is set. -/
theorem apply_members (s initial : RedirectionSettings) :
    Member.apply s.members initial = s.filledFrom initial := by
  rcases s with ⟨baseUrl, project, aliases⟩
  cases baseUrl
  all_goals cases project
  all_goals cases aliases
  all_goals rfl

/-- What is present is read back, and what is left out stays what the reader starts from. -/
theorem reads_toJson (s initial : RedirectionSettings) :
    Reads (shape.read initial) s.toJson.toList (s.filledFrom initial) := by
  have hkeys : (s.members.map (·.key)).Nodup := s.keys_members ▸ s.nodup_presentKeys
  rw [toJson_eq, ← apply_members]
  refine Shape.reads_object (fun _ => fits_of_mem_members) hkeys ?_ initial
  -- no field is required, so any of them may be left out
  simp [shape]

end RedirectionSettings

/-! ## Settings -/

namespace Settings

/-- The members of settings. -/
def members (s : Settings) : List (Member Settings) :=
  [⟨"project", quoted s.project.text, fun t => { t with project := s.project }⟩,
    ⟨"compiler", quoted s.compiler, fun t => { t with compiler := s.compiler }⟩,
    ⟨"watch", toString s.watch, fun t => { t with watch := s.watch }⟩,
    ⟨"rewrite", s.redirection.toJson, fun t => { t with redirection := s.redirection }⟩]

theorem fits_of_mem_members {s : Settings} {m : Member Settings} (h : m ∈ s.members) :
    shape.Fits m := by
  simp only [members, List.mem_cons, List.not_mem_nil, or_false] at h
  rcases h with rfl | rfl | rfl | rfl
  · exact .of_reads (fun text (t : Settings) => { t with project := ⟨text⟩ }) rfl
      (reads_text _ s.project.text)
  · exact .of_reads (fun text (t : Settings) => { t with compiler := text }) rfl
      (reads_text _ s.compiler)
  · exact .of_reads (fun b (t : Settings) => { t with watch := b }) rfl (reads_flag s.watch)
  -- these are read from no redirecting on, where nothing is left out that is not absent
  · have hread := s.redirection.reads_toJson RedirectionSettings.none
    rw [RedirectionSettings.filledFrom_none] at hread
    exact .of_reads (fun r (t : Settings) => { t with redirection := r }) rfl hread

/-- Settings are read back, whatever the reader starts from. -/
theorem reads_toJson (s initial : Settings) : Reads (shape.read initial) s.toJson.toList s := by
  have hkeys : s.members.map (·.key) = ["project", "compiler", "watch", "rewrite"] := rfl
  refine Shape.reads_object (fun _ => fits_of_mem_members) ?_ ?_ initial
  · rw [hkeys]
    decide
  · simp [shape]

end Settings

/-- Settings are read back from what is written for them, with their aliases in the same order.
Of the redirecting settings only what is present is written, so a reader that starts from other
settings keeps theirs where these have none. -/
theorem settings_survive_json (s : Settings) :
    Settings.ofJson s.toJson = .ok s ∧
      (∃ members : List (String × String), s.redirection.toJson = Json.object members ∧
        members.map (·.1) = s.redirection.presentKeys) ∧
      ∀ initial : RedirectionSettings,
        (RedirectionSettings.shape.read initial).run s.redirection.toJson.toList =
          .ok (s.redirection.filledFrom initial) := by
  have hback : Settings.ofJson s.toJson = .ok s := (s.reads_toJson Settings.initial).run
  have hwritten : ((s.redirection.members.map fun m => (m.key, m.text)).map (·.1)) =
      s.redirection.presentKeys := by
    rw [List.map_map]
    exact s.redirection.keys_members
  exact ⟨hback, ⟨_, s.redirection.toJson_eq, hwritten⟩,
    fun initial => (s.redirection.reads_toJson initial).run⟩

/-- Where nothing is redirected, the written settings have an empty object for it. -/
example : Settings.initial.toJson = "\x7b\"project\":\"tsconfig.json\",\"compiler\":\"oxc\"," ++
    "\"watch\":false,\"rewrite\":\x7b\x7d\x7d" := by
  decide +kernel

end QuietEmit
